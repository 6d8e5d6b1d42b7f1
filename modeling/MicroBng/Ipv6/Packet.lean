import MicroBng.Ipv6.Options

/-!
# DHCPv6 packets

`ipv6/dhcpv6_packet.c`: a request is parsed, also through the layers of the relays it came through
(`packetParse`). A reply is put together option by option in one buffer, with the length fields of
the options around a new one patched each time (`Reply.run`), and is wrapped for the relays
(`Reply.fillRelayInfo`). It is `Right` within its buffer and with the options that were added.
-/

namespace Dhcpv6

open Bytes Outline

/-! ## Packets -/

structure Relay where
  hopCnt : UInt8
  linkAddr : Nat
  peerAddr : Nat
  deriving DecidableEq

/-- What `dhcpv6_packet_parse` returns. -/
structure Packet where
  relays : List Relay
  type : UInt8
  transId : Nat
  options : List Node
  clientid : Option (List UInt8)
  serverid : Option (List UInt8)
  rapidCommit : Bool
  deriving DecidableEq

def relayForw : UInt8 := 12

def relayRepl : UInt8 := 13

def relayMsg : Nat := 9

/-- The memory from the packet on: its bytes, and what lies behind them. -/
def memory (junk : Nat → UInt8) (buf : List UInt8) (i : Nat) : UInt8 := buf.getD i (junk i)

def bytesAt (mem : Nat → UInt8) (ptr n : Nat) : List UInt8 :=
  (List.range n).map fun i => mem (ptr + i)

/-- The loop over a relayed message's options: the last message, and its end, four bytes too far. -/
def relayOptions (mem : Nat → UInt8) : (turns ptr hdr endptr : Nat) → Option (Nat × Nat)
  | 0, _, _, _ => none
  | turns + 1, ptr, hdr, endptr =>
    if endptr ≤ ptr then some (hdr, endptr)
    else
      let len := ofBe (bytesAt mem (ptr + 2) 2)
      if endptr < ptr + 4 ∨ endptr < ptr + 4 + len then none
      else if ofBe (bytesAt mem ptr 2) = relayMsg then
        relayOptions mem turns (ptr + 4 + len) (ptr + 4) (ptr + 4 + 4 + len)
      else relayOptions mem turns (ptr + 4 + len) hdr endptr

/-- The loop over the layers of a relayed message; one without a message is repeated. -/
def relayLayers (mem : Nat → UInt8) : (turns hdr endptr : Nat) → Option (List Relay × Nat × Nat)
  | 0, hdr, endptr => if mem hdr = relayForw then none else some ([], hdr, endptr)
  | turns + 1, hdr, endptr =>
    if mem hdr = relayForw then
      if endptr < hdr + 34 then none
      else
        (relayOptions mem turns (hdr + 34) hdr endptr).bind fun (hdr', endptr') =>
          (relayLayers mem turns hdr' endptr').map fun (relays, found) =>
            (⟨mem (hdr + 1), ofBe (bytesAt mem (hdr + 2) 16), ofBe (bytesAt mem (hdr + 18) 16)⟩ ::
              relays, found)
    else some ([], hdr, endptr)

def lastOption (code : Nat) (ns : List Node) : Option (List UInt8) :=
  ((ns.filter fun n => n.depth = 0 ∧ n.code = code).getLast?).map Node.data

def packetParse (turns : Nat) (junk : Nat → UInt8) (buf : List UInt8) : Option Packet :=
  if buf.length < 4 then none
  else
    let mem := memory junk buf
    (relayLayers mem turns 0 buf.length).bind fun (relays, hdr, endptr) =>
      let data := bytesAt mem (hdr + 4) (endptr - (hdr + 4))
      (parseOptions data.length 0 data).map fun (options, _) =>
        { relays, options
          type := mem hdr
          transId := ofLe (bytesAt mem (hdr + 1) 3)
          clientid := lastOption 1 options
          serverid := lastOption 2 options
          rapidCommit := (lastOption 14 options).isSome }

@[simp] theorem length_bytesAt (mem : Nat → UInt8) (ptr n : Nat) :
    (bytesAt mem ptr n).length = n := by
  simp [bytesAt]

variable {buf : List UInt8} {turns : Nat}

theorem bytesAt_memory {junk : Nat → UInt8} {ptr : Nat}
    (h : ptr ≤ buf.length) :
    bytesAt (memory junk buf) ptr (buf.length - ptr) = buf.drop ptr := by
  apply List.ext_getElem
  · simp
  grind [bytesAt, memory]

theorem relayOptions_le {mem : Nat → UInt8} {ptr hdr endptr hdr' endptr' : Nat}
    (h : relayOptions mem turns ptr hdr endptr = some (hdr', endptr')) :
    hdr' = hdr ∧ endptr' = endptr ∨ endptr' ≤ hdr' + (endptr - ptr) := by
  induction turns generalizing ptr hdr endptr with
  | zero => cases h
  | succ turns ih =>
    rw [relayOptions] at h
    by_cases hend : endptr ≤ ptr
    · simp_all
    · grind

theorem relayLayers_le {mem : Nat → UInt8} {hdr endptr : Nat} {relays : List Relay}
    {hdr' endptr' : Nat} (h : relayLayers mem turns hdr endptr = some (relays, hdr', endptr')) :
    endptr' - hdr' ≤ endptr - hdr ∧ (mem hdr = relayForw → endptr' - hdr' + 34 ≤ endptr - hdr) := by
  induction turns generalizing hdr endptr relays with
  | zero =>
    rw [relayLayers] at h
    grind
  | succ turns ih =>
    rw [relayLayers] at h
    by_cases htype : mem hdr = relayForw
    · rw [if_pos htype] at h
      by_cases hroom : endptr < hdr + 34
      · rw [if_pos hroom] at h
        cases h
      · rw [if_neg hroom] at h
        obtain ⟨⟨hdr₁, endptr₁⟩, hone, hrest⟩ := Option.bind_eq_some_iff.1 h
        obtain ⟨⟨more, hdr₂, endptr₂⟩, hloop, hout⟩ := Option.map_eq_some_iff.1 hrest
        obtain ⟨-, rfl, rfl⟩ := hout
        obtain ⟨hle, hforw⟩ := ih hloop
        rcases relayOptions_le hone with ⟨rfl, rfl⟩ | hle'
        · exact ⟨hle, hforw⟩
        · exact ⟨by omega, fun _ => by omega⟩
    simp_all

theorem size_of_packetParse {junk : Nat → UInt8} {p : Packet}
    (h : packetParse turns junk buf = some p) :
    4 + size p.options ≤ buf.length ∧
      (buf.head? = some relayForw → 34 + size p.options ≤ buf.length) := by
  rw [packetParse] at h
  by_cases hshort : buf.length < 4
  · rw [if_pos hshort] at h
    cases h
  · rw [if_neg hshort] at h
    obtain ⟨⟨relays, hdr, endptr⟩, hlayers, hrest⟩ := Option.bind_eq_some_iff.1 h
    obtain ⟨⟨options, k⟩, hopts, rfl⟩ := Option.map_eq_some_iff.1 hrest
    have hsize := (reads_iff.1 hopts).size_le
    obtain ⟨hle, hforw⟩ := relayLayers_le hlayers
    grind [length_bytesAt, memory, List.head?_eq_getElem?]

theorem packetParse_message (turns : Nat) (junk : Nat → UInt8)
    (hlen : 4 ≤ buf.length) (htype : buf.head? ≠ some relayForw) (options : List Node) :
    (∃ p, packetParse turns junk buf = some p ∧ p.options = options) ↔
      ∃ k, Reads 0 (buf.drop 4) options k := by
  have hshort : ¬ buf.length < 4 := by omega
  have hmem : memory junk buf 0 ≠ relayForw := by
    intro h
    cases buf with
    | nil => simp at hlen
    | cons b buf => exact htype (congrArg some h)
  have hlayers : relayLayers (memory junk buf) turns 0 buf.length = some ([], 0, buf.length) := by
    cases turns <;> rw [relayLayers, if_neg hmem]
  have hdata : bytesAt (memory junk buf) (0 + 4) (buf.length - (0 + 4)) = buf.drop 4 :=
    bytesAt_memory hlen
  simp only [packetParse, hshort, hlayers, Option.bind_some, hdata, ← reads_iff]
  simp

/-! ## Replies -/

def bufSize : Nat := 4096

/-- An option of a reply: those around it, innermost first, its code, data and length field. -/
structure Entry where
  parents : List Nat
  code : Nat
  data : List UInt8
  len : Nat
  deriving DecidableEq

/-- A reply: `order` lists the options, each before those nested in it. -/
structure Reply where
  relays : List Relay
  type : UInt8
  transId : Nat
  entries : List Entry
  order : List Nat
  deriving DecidableEq

def Entry.bytes (e : Entry) : List UInt8 := header e.code e.len ++ e.data

def Entry.node (e : Entry) : Node := ⟨e.parents.length, e.code, e.data⟩

def parentsAt (es : List Entry) (i : Nat) : List Nat := (es[i]?.map Entry.parents).getD []

namespace Reply

def data (r : Reply) : List UInt8 := r.entries.flatMap Entry.bytes

/-- The options that were added, with their nesting. -/
def outline (r : Reply) : List Node := r.order.filterMap fun i => r.entries[i]?.map Entry.node

/-- There is room for an option: `BUF_SIZE` is counted from behind the message header. -/
def Room (r : Reply) (len : Nat) : Prop := ¬ bufSize - r.data.length < 4 + len
deriving Decidable

/-- `dhcpv6_option_alloc`, with the data the caller then fills in. -/
def optionAlloc (r : Reply) (code : Nat) (data : List UInt8) : Option Reply :=
  if r.Room data.length then
    some { r with
      entries := r.entries ++ [⟨[], code, data, data.length⟩]
      order := r.order ++ [r.entries.length] }
  else none

end Reply

def raise (up : List Nat) (n : Nat) (es : List Entry) : List Entry :=
  es.mapIdx fun i e => if i ∈ up then { e with len := (e.len + n) % 65536 } else e

def insertUnder (es : List Entry) (p new : Nat) : List Nat → List Nat
  | [] => []
  | i :: is =>
    if i = p then
      i :: (is.takeWhile (p ∈ parentsAt es ·) ++ new :: is.dropWhile (p ∈ parentsAt es ·))
    else i :: insertUnder es p new is

/-- `dhcpv6_nested_option_alloc`, in one of the options of the reply. -/
def Reply.nestedOptionAlloc (r : Reply) (p code : Nat) (data : List UInt8) : Option Reply :=
  r.entries[p]?.bind fun popt =>
    if r.Room data.length then
      some { r with
        entries := raise (p :: popt.parents) (4 + data.length) r.entries ++
          [⟨p :: popt.parents, code, data, data.length⟩]
        order := insertUnder r.entries p r.entries.length r.order }
    else none

/-- `dhcpv6_packet_alloc_reply` reads both identifiers of the request without a check. -/
def packetAllocReply (req : Packet) (type : Nat) : Option Reply :=
  req.serverid.bind fun serverid =>
    req.clientid.bind fun clientid =>
      let pkt : Reply := ⟨req.relays, UInt8.ofNat type, req.transId, [], []⟩
      (pkt.optionAlloc 2 serverid).bind (·.optionAlloc 1 clientid)

def Reply.message (r : Reply) : List UInt8 := r.type :: toLe 3 r.transId ++ r.data

/-- A layer `dhcpv6_fill_relay_info` writes. Its length is in machine order and counts the option's
header. -/
def layer (rel : Relay) (inner : List UInt8) : List UInt8 :=
  [relayRepl, rel.hopCnt] ++ toBe 16 rel.linkAddr ++ toBe 16 rel.peerAddr ++
    (toBe 2 relayMsg ++ toLe 2 (4 + inner.length)) ++ inner

/-- The bytes of a reply after `dhcpv6_fill_relay_info`. -/
def Reply.fillRelayInfo (r : Reply) : List UInt8 := r.relays.foldr layer r.message

inductive Call
  | option (code : Nat) (data : List UInt8)
  | nested (p code : Nat) (data : List UInt8)

/-- A call; if it returns `NULL` nothing has changed. -/
def Reply.call (r : Reply) : Call → Reply
  | .option code data => (r.optionAlloc code data).getD r
  | .nested p code data => (r.nestedOptionAlloc p code data).getD r

def Reply.run (r : Reply) (calls : List Call) : Reply := calls.foldl Reply.call r

/-! ## What the other side makes of a reply -/

def relayMessage (bs : List UInt8) : Option (List UInt8) :=
  if bs.length < 34 ∨ bs.head? ≠ some relayRepl then none
  else
    (parseOptions (bs.length - 34) 0 (bs.drop 34)).bind fun (options, _) =>
      (options.find? fun n => n.depth = 0 ∧ n.code = relayMsg).map Node.data

def unwrap : Nat → List UInt8 → Option (List UInt8)
  | 0, bs => some bs
  | k + 1, bs => (relayMessage bs).bind (unwrap k)

/-- A reply as it should be: within its buffer, and with the options that were added. -/
def Right (turns : Nat) (junk : Nat → UInt8) (r : Reply) : Prop :=
  r.fillRelayInfo.length ≤ bufSize ∧
    ∃ m p, unwrap r.relays.length r.fillRelayInfo = some m ∧ packetParse turns junk m = some p ∧
      p.options = r.outline

end Dhcpv6
