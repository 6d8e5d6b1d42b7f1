import MicroBng.Lib.Bytes
import MicroBng.Lib.Chaining

/-!
# L2TP control packets on the wire

`ctrl/l2tp/packet.c`: a packet is put together attribute by attribute, some of them hidden with a
secret and a Random-Vector, is written to a buffer, and is read again by the receiver.

What an attribute holds is a union: the functions that add attributes set the member that belongs to
them, and the function that sends the packet reads the one the dictionary has for the attribute.
-/

namespace L2tp.Wire

open Bytes Chaining

/-! ## The dictionary -/

inductive AttrType
  | none | int16 | int32 | int64 | octets | string
  deriving DecidableEq

/-- `struct l2tp_dict_attr_t`: flags are `none` where the dictionary leaves them open. -/
structure DictAttr where
  id : Nat
  type : AttrType
  M : Option Bool
  H : Option Bool
  deriving DecidableEq

def messageType : Nat := 0

def randomVector : Nat := 36

/-- A dictionary: numbers of attributes have two bytes, and the Random-Vector is what the protocol
says it is. -/
structure Dict where
  attrs : List DictAttr
  id_lt : ∀ a ∈ attrs, a.id < 65536
  random : attrs.find? (fun a => a.id = randomVector) =
    some ⟨randomVector, .octets, some true, some false⟩

def Dict.findAttrById (d : Dict) (id : Nat) : Option DictAttr := d.attrs.find? fun a => a.id = id

/-- `dict/dictionary.rfc2661` and `dict/dictionary.rfc3931`. -/
def dictionary : Dict where
  attrs :=
    [⟨0, .int16, none, some false⟩, ⟨36, .octets, some true, some false⟩,
      ⟨1, .octets, some true, some false⟩, ⟨2, .int16, some true, some false⟩,
      ⟨3, .int32, some true, none⟩, ⟨4, .int32, some true, none⟩,
      ⟨5, .int64, some false, some false⟩, ⟨6, .int16, some false, none⟩,
      ⟨7, .string, some true, some false⟩, ⟨8, .string, some false, none⟩,
      ⟨9, .int16, some true, none⟩, ⟨10, .int16, some true, some false⟩,
      ⟨11, .octets, some true, none⟩, ⟨13, .octets, some true, none⟩,
      ⟨12, .octets, some true, some false⟩, ⟨14, .int16, some true, none⟩,
      ⟨15, .int32, some true, none⟩, ⟨16, .int32, some true, none⟩,
      ⟨17, .int32, some true, none⟩, ⟨18, .int32, some true, none⟩,
      ⟨19, .int32, some true, none⟩, ⟨21, .string, some true, none⟩,
      ⟨22, .string, some true, none⟩, ⟨23, .string, some true, none⟩,
      ⟨24, .int32, some true, none⟩, ⟨38, .int32, some false, none⟩,
      ⟨25, .int32, some false, none⟩, ⟨37, .octets, some false, none⟩,
      ⟨39, .none, some true, some false⟩, ⟨26, .octets, some false, none⟩,
      ⟨27, .octets, some false, none⟩, ⟨28, .octets, some false, none⟩,
      ⟨29, .int16, some false, none⟩, ⟨30, .string, some false, none⟩,
      ⟨31, .octets, some false, none⟩, ⟨32, .int16, some false, none⟩,
      ⟨33, .octets, some false, none⟩, ⟨34, .octets, some true, none⟩,
      ⟨35, .octets, some true, none⟩, ⟨59, .octets, none, some false⟩,
      ⟨73, .octets, none, some false⟩, ⟨60, .int32, none, some false⟩,
      ⟨61, .int32, none, none⟩, ⟨62, .octets, none, none⟩, ⟨72, .octets, none, none⟩,
      ⟨63, .int32, none, none⟩, ⟨64, .int32, none, none⟩, ⟨65, .octets, none, none⟩,
      ⟨66, .octets, none, none⟩, ⟨68, .int16, none, none⟩, ⟨69, .int16, none, none⟩,
      ⟨70, .int16, none, none⟩, ⟨74, .int64, none, none⟩, ⟨75, .int64, none, none⟩,
      ⟨71, .int16, none, none⟩]
  id_lt := by decide
  random := by decide

/-! ## Packets that are built -/

/-- A value: octets and strings are behind a pointer; a received one may lack the pointer. -/
inductive Value
  | int16 (v : UInt16)
  | int32 (v : UInt32)
  | int64 (v : UInt64)
  | bytes (bs : List UInt8)
  | null

/-- `l2tp_value_t`: a number, or a pointer to bytes. -/
inductive Val
  | num (v : UInt64)
  | mem (bs : List UInt8)

/-- `struct l2tp_attr_t`, and the value that was added. -/
structure Attr where
  da : DictAttr
  M : Bool
  H : Bool
  length : Nat
  val : Val
  value : Value

/-- The fields of `struct l2tp_hdr_t` without its length, in network order. -/
structure Header where
  flags : UInt16
  tid : UInt16
  sid : UInt16
  Ns : UInt16
  Nr : UInt16

/-- `struct l2tp_packet_t`. No secret is the empty one. -/
structure Pack where
  hdr : Header
  attrs : List Attr
  lastRV : Option (List UInt8)
  secret : List UInt8
  hideAvps : Bool

/-- What `MD5_Final` writes. -/
def Digest : Type := { bs : List UInt8 // bs.length = 16 }

def Random : Type := { bs : List UInt8 // 16 ≤ bs.length ∧ bs.length ≤ 143 }

/-- What a call draws, if it can: a Random-Vector and padding. -/
structure Draw where
  rv : Option Random
  pad : Option Random

section

variable (md5 : List UInt8 → Digest) (dict : Dict)

def firstKey (id : Nat) (secret rv : List UInt8) : List UInt8 := (md5 (toBe 2 id ++ secret ++ rv)).1

def nextKey (secret block : List UInt8) : List UInt8 := (md5 (secret ++ block)).1

/-- The Hidden AVP Subformat: the value's length, a `uint16_t`, the value and padding. -/
def subformat (val pad : List UInt8) : List UInt8 :=
  toBe 2 (val.length % 65536) ++ val.take (val.length % 65536) ++ pad

def hiddenBytes (secret rv : List UInt8) (id : Nat) (val pad : List UInt8) : List UInt8 :=
  hide 16 (nextKey md5 secret) (subformat val pad).length (firstKey md5 id secret rv)
    (subformat val pad)

/-- `encode_attr`, with the padding it draws. -/
def encodeAttr (p : Pack) (id : Nat) (val : List UInt8) (pad : Option (List UInt8)) :
    Option (List UInt8) :=
  if p.secret = [] then none
  else p.lastRV.bind fun rv => pad.map fun pad => hiddenBytes md5 p.secret rv id val pad

/-- `attr_alloc`: the entry of the dictionary, and the flags it may prescribe. -/
def attrAlloc (id : Nat) (M H : Bool) : Option (DictAttr × Bool × Bool) :=
  (dict.findAttrById id).map fun da => (da, da.M.getD M, da.H.getD H)

/-- `list_add_tail` to the attributes. -/
def Pack.append (p : Pack) (a : Attr) : Pack := { p with attrs := p.attrs ++ [a] }

def Pack.addRandomVector (p : Pack) (rv : Option Random) : Option Pack :=
  (attrAlloc dict randomVector true false).bind fun (da, M, H) => rv.map fun rv =>
    { p.append ⟨da, M, H, rv.1.length, .mem rv.1, .bytes rv.1⟩ with lastRV := some rv.1 }

/-- What the functions that add attributes share: `clear` is hidden, or `length` and `val` are set.
A failed call can leave a Random-Vector. -/
def Pack.addWith (p : Pack) (id : Nat) (M : Bool) (clear : List UInt8) (val : Val) (value : Value)
    (draw : Draw) : Pack × Bool :=
  match attrAlloc dict id M p.hideAvps with
  | none => (p, false)
  | some (da, M, H) =>
    if H then
      match if p.lastRV = none then p.addRandomVector dict draw.rv else some p with
      | none => (p, false)
      | some p =>
        match encodeAttr md5 p da.id clear (draw.pad.map Subtype.val) with
        | none => (p, false)
        | some hidden => (p.append ⟨da, M, H, hidden.length, .mem hidden, value⟩, true)
    else (p.append ⟨da, M, H, clear.length, val, value⟩, true)

def Pack.addInt16 (p : Pack) (id : Nat) (v : UInt16) (M : Bool) (draw : Draw) : Pack × Bool :=
  p.addWith md5 dict id M (toBe 2 v.toNat) (.num v.toUInt64) (.int16 v) draw

def Pack.addInt32 (p : Pack) (id : Nat) (v : UInt32) (M : Bool) (draw : Draw) : Pack × Bool :=
  p.addWith md5 dict id M (toBe 4 v.toNat) (.num v.toUInt64) (.int32 v) draw

def Pack.addInt64 (p : Pack) (id : Nat) (v : UInt64) (M : Bool) (draw : Draw) : Pack × Bool :=
  p.addWith md5 dict id M (toBe 8 v.toNat) (.num v) (.int64 v) draw

def Pack.addString (p : Pack) (id : Nat) (s : List UInt8) (M : Bool) (draw : Draw) : Pack × Bool :=
  p.addWith md5 dict id M s (.mem s) (.bytes s) draw

/-- `l2tp_packet_add_octets`: no octets are not hidden, but marked as hidden. -/
def Pack.addOctets (p : Pack) (id : Nat) (bs : List UInt8) (M : Bool) (draw : Draw) : Pack × Bool :=
  if bs = [] then
    match attrAlloc dict id M p.hideAvps with
    | none => (p, false)
    | some (da, M, H) => (p.append ⟨da, M, H, 0, .mem [], .bytes []⟩, true)
  else p.addWith md5 dict id M bs (.mem bs) (.bytes bs) draw

def packetAlloc (ver : Nat) (msgType : UInt16) (H : Bool) (secret : List UInt8) (draw : Draw) :
    Option Pack :=
  let pack : Pack := ⟨⟨UInt16.ofNat (0xc800 + ver % 16), 0, 0, 0, 0⟩, [], none, secret, H⟩
  if msgType = 0 then some pack
  else
    match pack.addInt16 md5 dict messageType msgType true draw with
    | (pack, true) => some pack
    | (_, false) => none

/-- A call that adds an attribute, or the header fields a caller sets. -/
inductive Call
  | int16 (id : Nat) (v : UInt16) (M : Bool) (draw : Draw)
  | int32 (id : Nat) (v : UInt32) (M : Bool) (draw : Draw)
  | int64 (id : Nat) (v : UInt64) (M : Bool) (draw : Draw)
  | string (id : Nat) (s : List UInt8) (M : Bool) (draw : Draw)
  | octets (id : Nat) (bs : List UInt8) (M : Bool) (draw : Draw)
  | fields (tid sid Ns Nr : UInt16)

def Pack.call (p : Pack) : Call → Pack
  | .int16 id v M draw => (p.addInt16 md5 dict id v M draw).1
  | .int32 id v M draw => (p.addInt32 md5 dict id v M draw).1
  | .int64 id v M draw => (p.addInt64 md5 dict id v M draw).1
  | .string id s M draw => (p.addString md5 dict id s M draw).1
  | .octets id bs M draw => (p.addOctets md5 dict id bs M draw).1
  | .fields tid sid Ns Nr => { p with hdr := ⟨p.hdr.flags, tid, sid, Ns, Nr⟩ }

def Pack.run (p : Pack) (calls : List Call) : Pack := calls.foldl (Pack.call md5 dict) p

end

/-! ## Packets that are sent -/

/-- `memcpy` of the bytes behind a pointer; a number is no pointer. -/
def Val.copy (n : Nat) : Val → Option (List UInt8)
  | .mem bs => some (bs.take n)
  | .num _ => if n = 0 then some [] else none

/-- The union's bytes as a number; `addr` gives the addresses of bytes. -/
def Val.bits (addr : List UInt8 → UInt64) : Val → Nat
  | .num v => v.toNat
  | .mem bs => (addr bs).toNat

def Attr.written (addr : List UInt8 → UInt64) (a : Attr) : Option (List UInt8) :=
  if a.H then a.val.copy a.length
  else
    match a.da.type with
    | .int16 => some (toBe 2 (a.val.bits addr))
    | .int32 => some (toBe 4 (a.val.bits addr))
    | .int64 => some (toBe 8 (a.val.bits addr))
    | .string | .octets => a.val.copy a.length
    | .none => some []

/-- `avp->flags`. -/
def Attr.flags (a : Attr) : Nat :=
  (if a.M then 32768 else 0) + (if a.H then 16384 else 0) + (6 + a.length) % 1024

/-- The memory from an attribute on: its header, with the vendor as it was, and what follows,
`spill` by the one before. -/
def Attr.image (a : Attr) (spill written : List UInt8) : List UInt8 :=
  toBe 2 a.flags ++ ((spill.drop 2 ++ [0, 0]).take 2 ++ toBe 2 a.da.id) ++
    (written ++ spill.drop (6 + written.length))

/-- The loop of `l2tp_packet_send` over the attributes. -/
def sendAttrs (addr : List UInt8 → UInt64) : Nat → List UInt8 → List Attr → Option (List UInt8)
  | _, _, [] => some []
  | len, spill, a :: attrs =>
    if 65536 ≤ len + 6 + a.length then none
    else
      (a.written addr).bind fun written =>
        let image := a.image spill written
        (sendAttrs addr (len + 6 + a.length) (image.drop (6 + a.length)) attrs).map fun rest =>
          (image ++ List.replicate (6 + a.length) 0).take (6 + a.length) ++ rest

/-- `l2tp_packet_send`: the bytes that are sent, if it reports success. -/
def send (addr : List UInt8 → UInt64) (p : Pack) : Option (List UInt8) :=
  (sendAttrs addr 12 [] p.attrs).map fun body =>
    toBe 2 p.hdr.flags.toNat ++ toBe 2 (12 + body.length) ++ toBe 2 p.hdr.tid.toNat ++
      toBe 2 p.hdr.sid.toNat ++ toBe 2 p.hdr.Ns.toNat ++ toBe 2 p.hdr.Nr.toNat ++ body

/-! ## Packets that are received -/

structure Received where
  id : Nat
  M : Bool
  value : Value

structure Packet where
  hdr : Header
  length : Nat
  attrs : List Received

/-- What receiving needs: the secret, `conf_avp_permissive`, and the memory behind the packet. -/
structure Side where
  md5 : List UInt8 → Digest
  dict : Dict
  secret : List UInt8
  permissive : Bool
  behind : List UInt8

/-- `decode_avp`: it deciphers in place, from the last block on, so that those before are still
hidden. -/
def decodeAvp (s : Side) (rv : List UInt8) (id : Nat) (val : List UInt8) : Option (List UInt8) :=
  if val.length < 2 then none
  else
    let key := firstKey s.md5 id s.secret rv
    if val.length ≤ 16 then some (memxor val key)
    else
      let first := memxor key (val.take 16)
      let origLen := be first 0 2
      if origLen ≤ 14 then some (first ++ val.drop 16)
      else if val.length - 2 < origLen then none
      else
        let next := nextKey s.md5 s.secret
        let left := origLen - 14
        let val := reveal 16 next (left / 16) (left % 16) val
        some (first ++ (unhideBack 16 next (left / 16) val).drop 16)

/-- A value by its type, with the attribute's length and the memory from the value on. -/
def readValue (type : AttrType) (avpLen : Nat) (mem : List UInt8) : Option Value :=
  match type with
  | .int16 => if avpLen = 8 then some (.int16 (UInt16.ofNat (be mem 0 2))) else none
  | .int32 => if avpLen = 10 then some (.int32 (UInt32.ofNat (be mem 0 4))) else none
  | .int64 => if avpLen = 14 then some (.int64 (UInt64.ofNat (be mem 0 8))) else none
  -- no memory of a negative size is found
  | .octets => if avpLen < 6 then none else some (.bytes (mem.take (avpLen - 6)))
  -- a string has a byte more, so that a length of -1 goes to `memcpy`, as `(size_t)-1`
  | .string =>
    if avpLen = 5 then some (.bytes (mem.take (2 ^ 64 - 1)))
    else if avpLen < 6 then none
    else some (.bytes (mem.take (avpLen - 6)))
  | .none => some (if avpLen = 6 then .bytes [] else .null)

/-- A turn of the loop: how far it goes, its attribute, the Random-Vector, the value's `room`. -/
structure Turn where
  size : Nat
  attr : Option Received
  rv : Option (List UInt8)
  length : Int
  room : Nat

/-- The length of the original attribute and the memory from its value. -/
def original (s : Side) (rv : Option (List UInt8)) (hidden : Bool) (id avpLen : Nat)
    (bs : List UInt8) : Option (Nat × List UInt8) :=
  if hidden then
    rv.bind fun rv =>
      if s.secret = [] then none
      else
        (decodeAvp s rv id ((bs.drop 6).take (avpLen - 6))).map fun val =>
          ((be val 0 2 + 6) % 65536, val.drop 2 ++ (bs.drop avpLen ++ s.behind))
  else some (avpLen, bs.drop 6 ++ s.behind)

def unlike (prescribed : Option Bool) (flag : Bool) : Bool := prescribed.any (· != flag)

def Value.rvBytes : Value → List UInt8
  | .bytes bs => bs
  | _ => []

/-- A turn of the loop of `l2tp_recv` over the attributes. -/
def recvAvp (s : Side) (rv : Option (List UInt8)) (bs : List UInt8) : Option Turn :=
  if bs.length < 6 then none
  else
    let flags := be bs 0 2
    let avpLen := flags % 1024
    let M := decide (flags / 32768 % 2 = 1)
    let H := decide (flags / 16384 % 2 = 1)
    if avpLen < 6 ∨ bs.length < avpLen then none
    else if be bs 2 2 ≠ 0 then some ⟨avpLen, none, rv, 0, 0⟩
    else
      match s.dict.findAttrById (be bs 4 2) with
      | none => if M ∧ ¬ s.permissive then none else some ⟨avpLen, none, rv, 0, 0⟩
      | some da =>
        if (unlike da.M M ∨ unlike da.H H) ∧ ¬ s.permissive then none
        else
          (original s rv H (be bs 4 2) avpLen bs).bind fun (origLen, mem) =>
            (readValue da.type origLen mem).map fun v =>
              { size := avpLen
                attr := some ⟨da.id, M, v⟩
                rv := if da.id = randomVector then some v.rvBytes else rv
                length := (origLen : Int) - 6
                room := avpLen - if H then 8 else 6 }

def recvAttrs (s : Side) : Nat → Option (List UInt8) → List UInt8 → Option (List Received)
  | 0, _, bs => if bs = [] then some [] else none
  | turns + 1, rv, bs =>
    if bs = [] then some []
    else
      (recvAvp s rv bs).bind fun t =>
        (recvAttrs s turns t.rv (bs.drop t.size)).map (t.attr.toList ++ ·)

/-- The flags of a control packet: T, L and S, and version 2 without O or version 3. -/
def controlFlags (flags : Nat) : Bool :=
  flags / 32768 % 2 = 1 ∧ flags / 16384 % 2 = 1 ∧ flags / 2048 % 2 = 1 ∧
    (flags % 16 = 2 ∧ flags / 512 % 2 = 0 ∨ flags % 16 = 3)

/-- `l2tp_recv`, on the bytes of a packet. -/
def recv (s : Side) (bs : List UInt8) : Option Packet :=
  if bs.length < 12 then none
  else if controlFlags (be bs 0 2) = false then none
  else
    let length := be bs 2 2
    if length < 12 ∨ bs.length < length then none
    else
      (recvAttrs { s with behind := bs.drop length ++ s.behind } (length - 12) none
        ((bs.drop 12).take (length - 12))).map fun attrs =>
          { length, attrs
            hdr :=
              { flags := UInt16.ofNat (be bs 0 2)
                tid := UInt16.ofNat (be bs 4 2)
                sid := UInt16.ofNat (be bs 6 2)
                Ns := UInt16.ofNat (be bs 8 2)
                Nr := UInt16.ofNat (be bs 10 2) } }

end L2tp.Wire
