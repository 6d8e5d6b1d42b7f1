import MicroBng.Lib.Records

/-!
# RADIUS packets

The dictionary and the decoder of `radius/packet.c`. A datagram is the list of the received bytes.
Either the packet is dropped, or the decoder reads bytes that an earlier datagram has left behind the
received ones: `Fault.indeterminate`, or `Fault.rejected` where every value of such a byte leads to
the packet being dropped. Log messages and running out of memory are left out.

* `decodeAttr_lawful`: the decoder of one attribute fits the rules of `Lib.Records`
-/

namespace Radius

/-! ## Dictionary -/

/-- `ATTR_TYPE_*`. -/
inductive AttrType
  | integer | string | octets | date | ipaddr | ifid | ipv6addr | ipv6pfx | ether | tlv
  deriving DecidableEq

/-- `struct rad_dict_attr_t`, without its named values. -/
structure DictAttr where
  name : String
  id : Nat
  type : AttrType
  array : Bool
  size : Nat
  deriving DecidableEq

/-- `struct rad_dict_vendor_t`: the widths of its attributes' number and length. -/
structure DictVendor where
  id : UInt32
  tag : Nat
  len : Nat
  name : String
  items : List DictAttr
  deriving DecidableEq

/-- `struct rad_dict_t`. -/
structure Dict where
  items : List DictAttr
  vendors : List DictVendor

def radDictFindAttrId (dict : Dict) (vendor : Option DictVendor) (id : Nat) : Option DictAttr :=
  (match vendor with
    | some v => v.items
    | none => dict.items).find? fun da => da.id == id

def radDictFindVendorId (dict : Dict) (id : UInt32) : Option DictVendor :=
  dict.vendors.find? fun v => v.id == id

/-! ## Attributes -/

/-- `rad_value_t`, with `zero` for the cleared union. -/
inductive Value
  | zero
  | string (bytes : List UInt8)
  | octets (bytes : List UInt8)
  | integer (n : Nat)
  | address (bytes : List UInt8)
  | ipv6pfx (len : UInt8) (bytes : List UInt8)
  deriving DecidableEq

/-- `struct rad_attr_t`. -/
structure RadAttr where
  vendor : Option DictVendor
  attr : DictAttr
  len : Nat
  raw : List UInt8
  val : Value
  deriving DecidableEq

def beNat (bs : List UInt8) : Nat := bs.foldl (fun acc b => acc * 256 + b.toNat) 0

/-- The value `rad_packet_recv` gives to an attribute with these bytes. -/
def decodeVal (da : DictAttr) (raw : List UInt8) : Value :=
  if da.array then .zero
  else match da.type with
    | .string => .string raw
    | .octets | .ether | .tlv => .octets raw
    | .integer | .date =>
      if raw.length = 4 ∨ raw.length = 2 ∨ raw.length = 1 then .integer (beNat raw) else .zero
    | .ipaddr | .ifid | .ipv6addr => if raw.length = da.size then .address raw else .zero
    | .ipv6pfx =>
      if raw.length < 2 ∨ 18 < raw.length then .zero
      else if 128 < raw.getD 1 0 then .zero
      else .ipv6pfx (raw.getD 1 0) (raw.drop 2 ++ List.replicate (18 - raw.length) 0)

/-! ## The decoder -/

inductive Fault
  | rejected
  | indeterminate
  deriving DecidableEq

/-- The attribute `id` with `len` bytes at the front of `data`, behind `hdr` bytes of header; an
unknown one is skipped. -/
def attrItem (dict : Dict) (vendor : Option DictVendor) (id hdr len : Nat) (data : List UInt8) :
    Records.Item RadAttr where
  size := hdr + len
  value := (radDictFindAttrId dict vendor id).map fun da =>
    { vendor := vendor, attr := da, len := len, raw := data.take len,
      val := decodeVal da (data.take len) }

/-- A number in a vendor attribute's header: two bytes if the format says 2, else one. -/
def vendorField (width : Nat) (bs : List UInt8) : Option Nat :=
  if width = 2 then
    if bs.length < 2 then none else some (beNat (bs.take 2))
  else
    if bs.length < 1 then none else some (beNat (bs.take 1))

/-- The attribute of a known vendor, from behind the vendor's number. -/
def decodeVendorAttr (dict : Dict) (v : DictVendor) (bs : List UInt8) :
    Except Fault (Records.Item RadAttr) :=
  let hdr := v.tag + v.len
  if bs.length < hdr then .error .rejected
  else match vendorField v.tag bs, vendorField v.len (bs.drop v.tag) with
    | some id, some len =>
      if len < hdr then .error .rejected
      else if (bs.drop hdr).length < len - hdr then .error .rejected
      else .ok (attrItem dict (some v) id (6 + hdr) (len - hdr) (bs.drop hdr))
    | _, _ => .error .indeterminate

/-- One turn of the loop of `rad_packet_recv`. -/
def decodeAttr (dict : Dict) : List UInt8 → Except Fault (Records.Item RadAttr)
  | [] => .error .rejected
  -- the length is read behind the datagram, and each value it can have is refused
  | [_] => .error .rejected
  | id :: l :: data =>
    let len := l.toNat - 2
    if l.toNat < 2 then .error .rejected
    else if data.length < len then .error .rejected
    else if id = 26 then
      if data.length < 4 then .error .indeterminate
      else match radDictFindVendorId dict (UInt32.ofNat (beNat (data.take 4))) with
        | some v => decodeVendorAttr dict v (data.drop 4)
        | none => .ok (attrItem dict none 26 2 len data)
    else .ok (attrItem dict none id.toNat 2 len data)

/-- `struct rad_packet_t`. -/
structure RadPacket where
  code : UInt8
  id : UInt8
  len : Nat
  attrs : List RadAttr
  buf : List UInt8
  deriving DecidableEq

def lengthField (d : List UInt8) : Nat := beNat ((d.drop 2).take 2)

theorem lengthField_take {d : List UInt8} {n : Nat} (h : 4 ≤ n) :
    lengthField (d.take n) = lengthField d := by
  grind [lengthField, List.drop_take]

/-- `rad_packet_recv`, on a datagram of any size. -/
def radPacketRecv (dict : Dict) (d : List UInt8) : Except Fault RadPacket :=
  if d.length < 20 then .error .rejected
  else if d.length < lengthField d then .error .rejected
  else (Records.decode (decodeAttr dict) (d.drop 20)).map fun attrs =>
    { code := d.getD 0 0, id := d.getD 1 0, len := lengthField d, attrs := attrs, buf := d }

/-! ## A record is read without looking past it -/

variable {dict : Dict} {bs t : List UInt8}

theorem attrItem_append (vendor : Option DictVendor) (id hdr : Nat) {len : Nat}
    (h : len ≤ bs.length) :
    attrItem dict vendor id hdr len (bs ++ t) = attrItem dict vendor id hdr len bs := by
  unfold attrItem
  rw [List.take_append_of_le_length h]

theorem vendorField_append {width n : Nat} (h : vendorField width bs = some n) :
    vendorField width (bs ++ t) = some n := by
  unfold vendorField at h ⊢
  grind

variable {it : Records.Item RadAttr}

theorem decodeVendorAttr_ok {v : DictVendor}
    (h : decodeVendorAttr dict v bs = .ok it) :
    v.tag + v.len ≤ bs.length ∧ ∃ id len, vendorField v.tag bs = some id ∧
      vendorField v.len (bs.drop v.tag) = some len ∧ v.tag + v.len ≤ len ∧ len ≤ bs.length ∧
      it = attrItem dict (some v) id (6 + (v.tag + v.len)) (len - (v.tag + v.len))
        (bs.drop (v.tag + v.len)) := by
  unfold decodeVendorAttr at h
  grind

theorem decodeVendorAttr_append {v : DictVendor}
    (h : decodeVendorAttr dict v bs = .ok it) (t : List UInt8) :
    decodeVendorAttr dict v (bs ++ t) = .ok it := by
  grind [decodeVendorAttr, vendorField_append, attrItem_append]

theorem decodeAttr_append (h : decodeAttr dict bs = .ok it)
    (t : List UInt8) : decodeAttr dict (bs ++ t) = .ok it := by
  match bs with
  | [] => cases h
  | [_] => cases h
  | id :: l :: data =>
    unfold decodeAttr at h ⊢
    simp only at h ⊢
    split at h
    · cases h
    · split at h
      · cases h
      · grind [decodeVendorAttr_append, attrItem_append]

theorem decodeAttr_size (h : decodeAttr dict bs = .ok it) : 2 ≤ it.size ∧ it.size ≤ bs.length := by
  match bs with
  | [] => cases h
  | [_] => cases h
  | id :: l :: data =>
    have hplain : ∀ id', l.toNat - 2 ≤ data.length →
        2 ≤ (attrItem dict none id' 2 (l.toNat - 2) data).size ∧
          (attrItem dict none id' 2 (l.toNat - 2) data).size ≤ (id :: l :: data).length := by
      intro id' hfit
      show 2 ≤ 2 + (l.toNat - 2) ∧ 2 + (l.toNat - 2) ≤ data.length + 1 + 1
      omega
    unfold decodeAttr at h
    simp only at h
    split at h
    · cases h
    · split at h
      · cases h
      · split at h
        · split at h
          · cases h
          · split at h
            · obtain ⟨hhdr, id', len, -, -, hge, hle, rfl⟩ := decodeVendorAttr_ok h
              rw [List.length_drop] at hhdr hle
              rename_i v _
              show 2 ≤ 6 + (v.tag + v.len) + (len - (v.tag + v.len)) ∧
                6 + (v.tag + v.len) + (len - (v.tag + v.len)) ≤ data.length + 1 + 1
              omega
            · cases h
              exact hplain 26 (by omega)
        · cases h
          exact hplain id.toNat (by omega)

/-- **The decoder of one attribute** makes progress, stays inside the datagram and does not look
past the attribute. -/
theorem decodeAttr_lawful (dict : Dict) : Records.Lawful (decodeAttr dict) where
  pos h := by have := decodeAttr_size h; omega
  le h := (decodeAttr_size h).2
  append h t := decodeAttr_append h t

end Radius
