import MicroBng.Radius.Packet

/-!
# Where the RADIUS decoder reads

The loop of `rad_packet_recv` is followed byte by byte over the whole receive buffer: `buf` holds the
`n` received bytes and behind them whatever an earlier datagram has left, and `turn` is one turn with
the places it reads, the value it stores and the vendor attribute it takes it from.

The two checks of a turn are on the length of the attribute. Nothing is asked before the length
itself, the vendor's number and the header of the vendor's attribute are read; and the vendor's
attribute is held against the rest of the datagram, not against the attribute around it.

* `decodeAttr_bytes`: a turn that is not `Stray` is one of the decoder
* `radPacketRecv_bounds_iff`: everything is in place exactly if no turn is `Stray`
-/

namespace Radius

/-! ## Places in the buffer -/

/-- `len` bytes from `start` on. -/
structure Span where
  start : Nat
  len : Nat
  deriving DecidableEq

variable (dict : Dict) (buf : Nat → UInt8)

def Span.stop (a : Span) : Nat := a.start + a.len

def Span.Inside (a b : Span) : Prop := b.start ≤ a.start ∧ a.stop ≤ b.stop
deriving Decidable

theorem Span.behind_inside {p hdr len k : Nat} (h : hdr + len ≤ k) :
    Span.Inside ⟨p + hdr, len⟩ ⟨p, k⟩ :=
  ⟨Nat.le_add_right _ _, by simp only [Span.stop]; omega⟩

def Span.bytes (a : Span) : List UInt8 := (List.range a.len).map fun i => buf (a.start + i)

/-! ## One turn of the loop -/

/-- What the decoder copies out of a value, as the type has it. -/
def valueReads (da : DictAttr) (buf : Nat → UInt8) (value : Span) : List Span :=
  if da.array then []
  else match da.type with
    | .string => [value]
    -- only the pointer is kept
    | .octets | .ether | .tlv => []
    | .integer | .date =>
      if value.len = 4 ∨ value.len = 2 ∨ value.len = 1 then [value] else []
    | .ipaddr | .ifid | .ipv6addr => if value.len = da.size then [value] else []
    | .ipv6pfx =>
      if value.len < 2 ∨ 18 < value.len then []
      else if 128 < buf (value.start + 1) then [⟨value.start + 1, 1⟩]
      else [⟨value.start + 1, 1⟩, ⟨value.start + 2, value.len - 2⟩]

/-- An attribute put on the list: the value and its attribute. -/
structure Stored where
  attr : RadAttr
  value : Span
  own : Span

/-- A vendor's attribute and the Vendor-Specific attribute it came in. -/
structure Nested where
  sub : Span
  vsa : Span
  deriving DecidableEq

/-- One turn: what is read and stored, and where the loop goes on; `none` is `out_err`. -/
structure Turn where
  reads : List Span
  stored : Option Stored
  nested : Option Nested
  next : Option (Nat × Int)

def Turn.outErr (reads : List Span) : Turn :=
  { reads := reads, stored := none, nested := none, next := none }

/-- From `da = rad_dict_find_attr_id(vendor, id)` on: `ptr` is at the value, `reads` came before. -/
def takeValue (vendor : Option DictVendor) (id ptr len : Nat) (n : Int) (own : Span)
    (nested : Option Nested) (reads : List Span) : Turn :=
  let value : Span := ⟨ptr, len⟩
  let da := radDictFindAttrId dict vendor id
  { reads := reads ++ (da.map fun da => valueReads da buf value).getD []
    stored := da.map fun da =>
      { attr := { vendor := vendor, attr := da, len := len, raw := value.bytes buf,
                  val := decodeVal da (value.bytes buf) }
        value := value
        own := own }
    nested := nested
    next := some (ptr + len, n - (2 + len)) }

/-- How many bytes a field of a vendor attribute's header has. -/
def fieldWidth (width : Nat) : Nat := if width = 2 then 2 else 1

def fieldSpan (ptr width : Nat) : Span := ⟨ptr, fieldWidth width⟩

/-- The size field of a vendor's attribute at `ptr`. -/
def subSize (v : DictVendor) (ptr : Nat) : Nat := beNat ((fieldSpan (ptr + v.tag) v.len).bytes buf)

/-- The branch of a known vendor; `ptr` is behind the vendor's number, `vsa` the Vendor-Specific
attribute. -/
def vendorTurn (v : DictVendor) (ptr : Nat) (n : Int) (vsa : Span) (reads : List Span) : Turn :=
  let tag := fieldSpan ptr v.tag
  let size := fieldSpan (ptr + v.tag) v.len
  let hdr := v.tag + v.len
  let reads := reads ++ [tag, size]
  let field := subSize buf v ptr
  let len : Int := field - hdr
  let n := n - (4 + hdr)
  if len < 0 then .outErr reads
  else if 2 + len > n then .outErr reads
  else
    takeValue dict buf (some v) (beNat (tag.bytes buf)) (ptr + hdr) len.toNat n ⟨ptr, field⟩
      (some ⟨⟨ptr, field⟩, vsa⟩) reads

/-- The vendor the dictionary has for the four bytes behind the header. -/
def vendorAt (ptr : Nat) : Option DictVendor :=
  radDictFindVendorId dict (UInt32.ofNat (beNat (Span.bytes buf ⟨ptr + 2, 4⟩)))

/-- One turn of `while (n>0)` in `rad_packet_recv`, with `n` bytes left at `ptr`. -/
def turn (ptr : Nat) (n : Int) : Turn :=
  let id := (buf ptr).toNat
  let len : Int := (buf (ptr + 1)).toNat - 2
  let reads : List Span := [⟨ptr, 1⟩, ⟨ptr + 1, 1⟩]
  let own : Span := ⟨ptr, 2 + len.toNat⟩
  if len < 0 then .outErr reads
  else if 2 + len > n then .outErr reads
  else if id = 26 then
    let reads := reads ++ [⟨ptr + 2, 4⟩]
    match vendorAt dict buf ptr with
    | some v => vendorTurn dict buf v (ptr + 6) n own reads
    | none => takeValue dict buf none id (ptr + 2) len.toNat n own none reads
  else takeValue dict buf none id (ptr + 2) len.toNat n own none reads

/-! ## The whole datagram -/

/-- A place the loop gets to, with the bytes left there. -/
structure Visit where
  ptr : Nat
  left : Int

/-- The places the loop gets to, from `ptr` on. -/
def visits (dict : Dict) (buf : Nat → UInt8) : Nat → Nat → Int → List Visit
  | 0, _, _ => []
  | fuel + 1, ptr, n =>
    if n > 0 then
      ⟨ptr, n⟩ :: match (turn dict buf ptr n).next with
        | some (ptr', n') => visits dict buf fuel ptr' n'
        | none => []
    else []

/-- The places `rad_packet_recv` gets to in `n` bytes; a turn takes at least two. -/
def recvVisits (n : Nat) : List Visit :=
  if n < 20 then []
  else if beNat (Span.bytes buf ⟨2, 2⟩) > n then []
  else visits dict buf n 20 (n - 20)

/-- The turns of the loop of `rad_packet_recv`. -/
def recvTurns (n : Nat) : List Turn :=
  (recvVisits dict buf n).map fun v => turn dict buf v.ptr v.left

/-- All `rad_packet_recv` reads: code, identifier, length, the turns. -/
def recvReads (n : Nat) : List Span :=
  (if n < 20 then [] else [⟨0, 1⟩, ⟨1, 1⟩, ⟨2, 2⟩]) ++
    (recvTurns dict buf n).flatMap Turn.reads

/-! ## What one turn does -/

section Turns

variable {dict : Dict} {buf : Nat → UInt8} {v : DictVendor} {ptr : Nat} {n : Int}

theorem valueReads_inside (da : DictAttr) (value : Span) :
    ∀ r ∈ valueReads da buf value, r.Inside value := by
  have hself : ∀ r ∈ [value], r.Inside value := by
    intro r hr
    rw [List.mem_singleton.1 hr]
    exact ⟨Nat.le_refl _, Nat.le_refl _⟩
  have hnone : ∀ r ∈ ([] : List Span), r.Inside value := fun r hr => nomatch hr
  unfold valueReads
  split
  · exact hnone
  · split
    · exact hself
    · exact hnone
    · exact hnone
    · exact hnone
    · split <;> assumption
    · split <;> assumption
    · split <;> assumption
    · split <;> assumption
    · split <;> assumption
    · split
      · exact hnone
      · split
        · simp only [List.mem_singleton, forall_eq, Span.Inside, Span.stop]
          omega
        · simp only [List.mem_cons, List.not_mem_nil, or_false, forall_eq_or_imp, forall_eq,
            Span.Inside, Span.stop]
          omega

/-- What a turn has to keep to in a datagram that ends at `stop`. -/
structure Turn.InBounds (t : Turn) (stop : Nat) : Prop where
  reads : ∀ r ∈ t.reads, r.stop ≤ stop
  stored : ∀ s ∈ t.stored, s.value.Inside s.own
  nested : ∀ w ∈ t.nested, w.sub.Inside w.vsa

variable {reads : List Span} {stop : Nat}

theorem outErr_inBounds : (Turn.outErr reads).InBounds stop ↔ ∀ r ∈ reads, r.stop ≤ stop :=
  ⟨Turn.InBounds.reads, fun h => ⟨h, (nofun), (nofun)⟩⟩

theorem takeValue_inBounds {vendor : Option DictVendor} {id len : Nat} {own : Span}
    {nested : Option Nested} (hown : Span.Inside ⟨ptr, len⟩ own)
    (hstop : ptr + len ≤ stop) :
    (takeValue dict buf vendor id ptr len n own nested reads).InBounds stop ↔
      (∀ r ∈ reads, r.stop ≤ stop) ∧ ∀ w ∈ nested, w.sub.Inside w.vsa := by
  constructor
  · rintro ⟨hr, -, hn⟩
    exact ⟨fun r hm => hr r (List.mem_append_left _ hm), hn⟩
  · rintro ⟨hr, hn⟩
    refine ⟨fun r hm => ?_, fun s hs => ?_, hn⟩
    · rcases List.mem_append.1 hm with hm | hm
      · exact hr r hm
      · cases hda : radDictFindAttrId dict vendor id with
        | none =>
          rw [hda] at hm
          exact nomatch hm
        | some da =>
          rw [hda] at hm
          exact Nat.le_trans (valueReads_inside da ⟨ptr, len⟩ r hm).2 hstop
    · obtain ⟨da, -, rfl⟩ := Option.map_eq_some_iff.1 hs
      exact hown

/-- The two fields of a vendor's attribute are in the `room` bytes behind the vendor's number. -/
def FieldsFit (v : DictVendor) (room : Int) : Prop :=
  fieldWidth v.tag ≤ room ∧ v.tag + fieldWidth v.len ≤ room

/-- The size a vendor's attribute gives itself covers its header and is there: the decoder takes the
attribute. -/
def SubTaken (v : DictVendor) (size : Nat) (room : Int) : Prop :=
  v.tag + v.len ≤ size ∧ (size : Int) ≤ room

theorem vendorTurn_cases (dict : Dict) (buf : Nat → UInt8) (v : DictVendor) (ptr : Nat) (n : Int)
    (vsa : Span) (reads : List Span) :
    let reads' := reads ++ [fieldSpan ptr v.tag, fieldSpan (ptr + v.tag) v.len]
    (SubTaken v (subSize buf v ptr) (n - 6) ∧
      vendorTurn dict buf v ptr n vsa reads =
        takeValue dict buf (some v) (beNat ((fieldSpan ptr v.tag).bytes buf))
          (ptr + (v.tag + v.len)) (subSize buf v ptr - (v.tag + v.len)) (n - (4 + (v.tag + v.len)))
          ⟨ptr, subSize buf v ptr⟩ (some ⟨⟨ptr, subSize buf v ptr⟩, vsa⟩) reads') ∨
    (¬ SubTaken v (subSize buf v ptr) (n - 6) ∧
      vendorTurn dict buf v ptr n vsa reads = .outErr reads') := by
  unfold vendorTurn SubTaken
  by_cases hneg : (subSize buf v ptr : Int) - ((v.tag + v.len : Nat) : Int) < 0
  · rw [if_pos hneg]
    exact .inr ⟨by omega, rfl⟩
  grind

theorem vendorTurn_reads {vsa r : Span}
    (h : r ∈ reads ++ [fieldSpan ptr v.tag, fieldSpan (ptr + v.tag) v.len]) :
    r ∈ (vendorTurn dict buf v ptr n vsa reads).reads := by
  rcases vendorTurn_cases dict buf v ptr n vsa reads with ⟨-, heq⟩ | ⟨-, heq⟩
  · rw [heq]
    exact List.mem_append_left _ h
  · rw [heq]
    exact h

theorem vendorTurn_inBounds {vsa : Span}
    (hstop : (stop : Int) = ptr + (n - 6)) (hreads : ∀ r ∈ reads, r.stop ≤ stop) :
    (vendorTurn dict buf v ptr n vsa reads).InBounds stop ↔
      FieldsFit v (n - 6) ∧
        (SubTaken v (subSize buf v ptr) (n - 6) →
          Span.Inside ⟨ptr, subSize buf v ptr⟩ vsa) := by
  have hfit : (∀ r ∈ reads ++ [fieldSpan ptr v.tag, fieldSpan (ptr + v.tag) v.len],
      r.stop ≤ stop) ↔ FieldsFit v (n - 6) := by
    simp only [List.mem_append, List.mem_cons, List.not_mem_nil, or_false, or_imp, forall_and,
      forall_eq, FieldsFit, Span.stop, fieldSpan]
    constructor
    · omega
    · rintro ⟨h1, h2⟩
      exact ⟨hreads, by omega, by omega⟩
  rcases vendorTurn_cases dict buf v ptr n vsa reads with ⟨htaken, heq⟩ | ⟨hnot, heq⟩
  · obtain ⟨hge, hle⟩ := id htaken
    rw [heq, takeValue_inBounds (Span.behind_inside (by omega)) (by omega)]
    simp_all
  simp_all [outErr_inBounds]

/-- The two bytes in front of an attribute are a length the decoder goes on with. -/
def LenOk (buf : Nat → UInt8) (ptr : Nat) (n : Int) : Prop :=
  2 ≤ (buf (ptr + 1)).toNat ∧ ((buf (ptr + 1)).toNat : Int) ≤ n

theorem turn_cases (dict : Dict) (buf : Nat → UInt8) (ptr : Nat) (n : Int) :
    (¬ LenOk buf ptr n ∧ turn dict buf ptr n = .outErr [⟨ptr, 1⟩, ⟨ptr + 1, 1⟩]) ∨
    (LenOk buf ptr n ∧ (
      ((buf ptr).toNat ≠ 26 ∧ turn dict buf ptr n =
        takeValue dict buf none (buf ptr).toNat (ptr + 2) ((buf (ptr + 1)).toNat - 2) n
          ⟨ptr, (buf (ptr + 1)).toNat⟩ none [⟨ptr, 1⟩, ⟨ptr + 1, 1⟩]) ∨
      ((buf ptr).toNat = 26 ∧ vendorAt dict buf ptr = none ∧ turn dict buf ptr n =
        takeValue dict buf none 26 (ptr + 2) ((buf (ptr + 1)).toNat - 2) n
          ⟨ptr, (buf (ptr + 1)).toNat⟩ none [⟨ptr, 1⟩, ⟨ptr + 1, 1⟩, ⟨ptr + 2, 4⟩]) ∨
      ((buf ptr).toNat = 26 ∧ ∃ v, vendorAt dict buf ptr = some v ∧ turn dict buf ptr n =
        vendorTurn dict buf v (ptr + 6) n ⟨ptr, (buf (ptr + 1)).toNat⟩
          [⟨ptr, 1⟩, ⟨ptr + 1, 1⟩, ⟨ptr + 2, 4⟩]))) := by
  unfold turn LenOk
  by_cases hneg : ((buf (ptr + 1)).toNat : Int) - 2 < 0
  · rw [if_pos hneg]
    exact .inl ⟨by omega, rfl⟩
  rw [if_neg hneg]
  by_cases hlong : 2 + (((buf (ptr + 1)).toNat : Int) - 2) > n
  · rw [if_pos hlong]
    exact .inl ⟨by omega, rfl⟩
  grind

/-! ## The turns that stray -/

/-- What takes a turn with `n` bytes left at `ptr` outside:

* one byte is left, and the length of the attribute is behind it;
* a Vendor-Specific attribute has fewer than four bytes between its header and the end of the
  datagram, and the vendor's number is read over the end;
* the vendor is known, and one of the two fields of its attribute is read over the end;
* the vendor's attribute fits in the datagram, but not in the Vendor-Specific attribute. -/
inductive Stray (dict : Dict) (buf : Nat → UInt8) (ptr : Nat) (n : Int) : Prop
  | length (h : n = 1)
  | number (hl : LenOk buf ptr n) (hid : (buf ptr).toNat = 26) (h : n < 6)
  | fields {v : DictVendor} (hl : LenOk buf ptr n) (hid : (buf ptr).toNat = 26)
      (hv : vendorAt dict buf ptr = some v) (h : ¬ FieldsFit v (n - 6))
  | nested {v : DictVendor} (hl : LenOk buf ptr n) (hid : (buf ptr).toNat = 26)
      (hv : vendorAt dict buf ptr = some v)
      (ht : SubTaken v (subSize buf v (ptr + 6)) (n - 6))
      (h : (buf (ptr + 1)).toNat < 6 + subSize buf v (ptr + 6))

theorem turn_inBounds_iff (hn : n > 0) (hstop : (stop : Int) = ptr + n) :
    (turn dict buf ptr n).InBounds stop ↔ ¬ Stray dict buf ptr n := by
  have hhead : (∀ r ∈ ([⟨ptr, 1⟩, ⟨ptr + 1, 1⟩] : List Span), r.stop ≤ stop) ↔ n ≠ 1 := by
    simp only [List.mem_cons, List.not_mem_nil, or_false, forall_eq_or_imp, forall_eq, Span.stop]
    omega
  have hnumber : (∀ r ∈ ([⟨ptr, 1⟩, ⟨ptr + 1, 1⟩, ⟨ptr + 2, 4⟩] : List Span), r.stop ≤ stop) ↔
      6 ≤ n := by
    simp only [List.mem_cons, List.not_mem_nil, or_false, forall_eq_or_imp, forall_eq, Span.stop]
    omega
  rcases turn_cases dict buf ptr n with ⟨hl, heq⟩ | ⟨hl, ⟨hid, heq⟩ | ⟨hid, hv, heq⟩ |
    ⟨hid, v, hv, heq⟩⟩
  · rw [heq, outErr_inBounds, hhead]
    refine ⟨fun h hs => ?_, fun h h1 => h (.length h1)⟩
    cases hs with
    | length h1 => exact h h1
    | number hl' | fields hl' | nested hl' => exact hl hl'
  · obtain ⟨h2, hle⟩ := id hl
    rw [heq, takeValue_inBounds (Span.behind_inside (by omega)) (by omega), hhead]
    refine ⟨fun h hs => ?_, fun h => ⟨fun h1 => h (.length h1), nofun⟩⟩
    cases hs with
    | length h1 => exact h.1 h1
    | number _ hid' | fields _ hid' | nested _ hid' => exact hid hid'
  · obtain ⟨h2, hle⟩ := id hl
    rw [heq, takeValue_inBounds (Span.behind_inside (by omega)) (by omega), hnumber]
    refine ⟨fun h hs => ?_, fun h => ⟨?_, nofun⟩⟩
    · cases hs with
      | length h1 | number _ _ h6 => omega
      | fields _ _ hv' | nested _ _ hv' => cases hv.symm.trans hv'
    · exact Int.not_lt.1 fun h6 => h (.number hl hid h6)
  · rw [heq]
    by_cases h6 : n < 6
    · -- the vendor's number is already read over the end
      refine ⟨fun h => absurd (hnumber.1 fun r hr => h.reads r ?_) (by omega),
        fun h => absurd (Stray.number hl hid h6) h⟩
      exact vendorTurn_reads (List.mem_append_left _ hr)
    · rw [vendorTurn_inBounds (by omega) (hnumber.2 (by omega))]
      constructor
      · rintro ⟨hfit, hin⟩ hs
        cases hs with
        | length h1 => omega
        | number _ _ h => exact h6 h
        | fields _ _ hv' h =>
          cases hv.symm.trans hv'
          exact h hfit
        | nested _ _ hv' ht h =>
          cases hv.symm.trans hv'
          have := (hin ht).2
          simp only [Span.stop] at this
          omega
      · intro h
        refine ⟨not_not.1 fun hf => h (.fields hl hid hv hf), fun ht => ?_⟩
        refine ⟨Nat.le_add_right _ _, Nat.not_lt.1 fun hlt => h (.nested hl hid hv ht ?_)⟩
        simp only [Span.stop] at hlt
        omega

theorem turn_next {p : Nat × Int} (h : (turn dict buf ptr n).next = some p) :
    (p.1 : Int) + p.2 = ptr + n ∧ 0 ≤ p.2 ∧ p.2 ≤ n - 2 := by
  rcases turn_cases dict buf ptr n with ⟨-, heq⟩ | ⟨⟨h2, hle⟩, ⟨-, heq⟩ | ⟨-, -, heq⟩ |
    ⟨-, v, -, heq⟩⟩
  · rw [heq] at h
    cases h
  · rw [heq] at h
    cases h
    omega
  · rw [heq] at h
    cases h
    omega
  · rcases vendorTurn_cases dict buf v (ptr + 6) n ⟨ptr, (buf (ptr + 1)).toNat⟩
      [⟨ptr, 1⟩, ⟨ptr + 1, 1⟩, ⟨ptr + 2, 4⟩] with ⟨⟨hge, hfit⟩, heq'⟩ | ⟨-, heq'⟩
    · rw [heq, heq'] at h
      cases h
      omega
    · rw [heq, heq'] at h
      cases h

end Turns

/-! ## A turn inside the datagram is a turn of the decoder -/

section Decoder

variable {dict : Dict} {buf : Nat → UInt8} {ptr n : Nat}

theorem Span.bytes_succ (p m : Nat) :
    Span.bytes buf ⟨p, m + 1⟩ = buf p :: Span.bytes buf ⟨p + 1, m⟩ := by
  simp [Span.bytes, List.range_succ_eq_map, Nat.add_comm, Nat.add_left_comm]

@[simp] theorem Span.length_bytes (a : Span) : (a.bytes buf).length = a.len := by
  simp [Span.bytes]

@[simp] theorem Span.drop_bytes (p m k : Nat) :
    (Span.bytes buf ⟨p, m⟩).drop k = Span.bytes buf ⟨p + k, m - k⟩ := by
  apply List.ext_getElem <;> simp [Span.bytes, Nat.add_assoc]

theorem Span.take_bytes {p m k : Nat} (h : k ≤ m) :
    (Span.bytes buf ⟨p, m⟩).take k = Span.bytes buf ⟨p, k⟩ := by
  apply List.ext_getElem <;> simp [Span.bytes, h]

theorem vendorField_bytes {width p m : Nat} (h : fieldWidth width ≤ m) :
    vendorField width (Span.bytes buf ⟨p, m⟩) = some (beNat ((fieldSpan p width).bytes buf)) := by
  unfold fieldWidth at h
  unfold vendorField fieldSpan fieldWidth
  grind [Span.take_bytes, Span.length_bytes]

/-- What a turn comes to for the decoder. -/
def Turn.item (t : Turn) (ptr : Nat) : Except Fault (Records.Item RadAttr) :=
  match t.next with
  | none => .error .rejected
  | some p => .ok ⟨p.1 - ptr, t.stored.map Stored.attr⟩

theorem takeValue_item {vendor : Option DictVendor} {id p hdr len m : Nat} {left : Int} {own : Span}
    {nested : Option Nested} {reads : List Span} (hp : p = ptr + hdr) (h : len ≤ m) :
    (takeValue dict buf vendor id p len left own nested reads).item ptr =
      .ok (attrItem dict vendor id hdr len (Span.bytes buf ⟨p, m⟩)) := by
  have hsize : p + len - ptr = hdr + len := by omega
  simp [Turn.item, takeValue, attrItem, Span.take_bytes h, Function.comp_def, hsize]

theorem decodeVendorAttr_bytes {v : DictVendor} {m : Nat} {vsa : Span} {reads : List Span}
    (hfit : FieldsFit v m) :
    decodeVendorAttr dict v (Span.bytes buf ⟨ptr + 6, m⟩) =
      (vendorTurn dict buf v (ptr + 6) (m + 6) vsa reads).item ptr := by
  obtain ⟨htag, hlen⟩ := hfit
  have hsize : beNat ((fieldSpan (ptr + 6 + v.tag) v.len).bytes buf) = subSize buf v (ptr + 6) := rfl
  rw [decodeVendorAttr, vendorField_bytes (by omega), Span.drop_bytes, vendorField_bytes (by omega)]
  simp only [Span.length_bytes, Span.drop_bytes, hsize]
  rcases vendorTurn_cases dict buf v (ptr + 6) (m + 6) vsa reads with ⟨⟨hge, hle⟩, heq⟩ | ⟨hnot, heq⟩
  · rw [heq, if_neg (by omega), if_neg (by omega), if_neg (by omega)]
    exact (takeValue_item (by omega) (by omega)).symm
  · unfold SubTaken at hnot
    rw [heq]
    grind [Turn.item, Turn.outErr]

/-- **A turn that does not stray** is one of the decoder. -/
theorem decodeAttr_bytes (hn : 0 < n) (hs : ¬ Stray dict buf ptr n) :
    decodeAttr dict (Span.bytes buf ⟨ptr, n⟩) = (turn dict buf ptr n).item ptr := by
  obtain ⟨m, rfl⟩ : ∃ m, n = m + 2 := ⟨n - 2, by grind [Stray.length]⟩
  rw [Span.bytes_succ, Span.bytes_succ, decodeAttr]
  simp only [Span.length_bytes]
  rcases turn_cases dict buf ptr ((m + 2 : Nat) : Int) with ⟨hl, heq⟩ | ⟨hl, ⟨hid, heq⟩ |
    ⟨hid, hv, heq⟩ | ⟨hid, v, hv, heq⟩⟩
  · unfold LenOk at hl
    rw [heq]
    grind [Turn.item, Turn.outErr]
  · obtain ⟨h2, hle⟩ := hl
    rw [heq, takeValue_item rfl (show _ ≤ m by omega), if_neg (by omega), if_neg (by omega),
      if_neg (fun h => hid (by rw [h]; rfl))]
  · obtain ⟨h2, hle⟩ := id hl
    have h6 : 4 ≤ m := by grind [Stray.number]
    rw [heq, takeValue_item rfl (show _ ≤ m by omega), if_neg (by omega), if_neg (by omega),
      if_pos (UInt8.toNat_inj.1 hid), if_neg (by omega), Span.take_bytes h6]
    rw [vendorAt] at hv
    rw [hv]
  · obtain ⟨h2, hle⟩ := id hl
    have h6 : 4 ≤ m := by grind [Stray.number]
    have hfit : FieldsFit v ((m - 4 : Nat) : Int) := by grind [Stray.fields]
    rw [if_neg (by omega), if_neg (by omega),
      if_pos (UInt8.toNat_inj.1 hid), if_neg (by omega), Span.take_bytes h6]
    rw [vendorAt] at hv
    rw [hv, heq, Span.drop_bytes, show ((m + 2 : Nat) : Int) = ((m - 4 : Nat) : Int) + 6 by omega]
    exact decodeVendorAttr_bytes hfit

end Decoder

/-! ## The whole datagram stays inside -/

section Datagram

variable {dict : Dict} {buf : Nat → UInt8}

theorem visits_stop {fuel ptr : Nat} {n : Int} {v : Visit} (h : v ∈ visits dict buf fuel ptr n) :
    v.left > 0 ∧ (v.ptr : Int) + v.left = ptr + n := by
  induction fuel generalizing ptr n with
  | zero => exact nomatch h
  | succ fuel ih =>
    unfold visits at h
    split at h
    · rename_i hn
      rcases List.mem_cons.1 h with rfl | h
      · exact ⟨hn, rfl⟩
      · split at h
        · rename_i ptr' n' hnext
          obtain ⟨hpos, hsum⟩ := ih h
          have := (turn_next hnext).1
          exact ⟨hpos, by omega⟩
        · exact nomatch h
    · exact nomatch h

theorem recvVisits_stop {n : Nat} {v : Visit} (h : v ∈ recvVisits dict buf n) :
    v.left > 0 ∧ (n : Int) = v.ptr + v.left := by
  unfold recvVisits at h
  split at h
  · exact nomatch h
  · split at h
    · exact nomatch h
    · obtain ⟨hpos, hsum⟩ := visits_stop h
      exact ⟨hpos, by omega⟩

/-- **What `rad_packet_recv` may read.** All reads are at received bytes, each value inside its
attribute and each vendor attribute inside the one around it, exactly if the loop gets to no place
where a turn strays. -/
theorem radPacketRecv_bounds_iff (dict : Dict) (buf : Nat → UInt8) (n : Nat) :
    ((∀ r ∈ recvReads dict buf n, r.stop ≤ n) ∧
      (∀ t ∈ recvTurns dict buf n, ∀ s ∈ t.stored, s.value.Inside s.own) ∧
      ∀ t ∈ recvTurns dict buf n, ∀ w ∈ t.nested, w.sub.Inside w.vsa) ↔
    ∀ v ∈ recvVisits dict buf n, ¬ Stray dict buf v.ptr v.left := by
  have hturns : (∀ v ∈ recvVisits dict buf n, ¬ Stray dict buf v.ptr v.left) ↔
      ∀ t ∈ recvTurns dict buf n, t.InBounds n := by
    unfold recvTurns
    rw [List.forall_mem_map]
    grind [recvVisits_stop, turn_inBounds_iff]
  rw [hturns]
  constructor
  · rintro ⟨hr, hs, hw⟩ t ht
    exact ⟨fun r hm => hr r (List.mem_append_right _ (List.mem_flatMap.2 ⟨t, ht, hm⟩)),
      hs t ht, hw t ht⟩
  · intro h
    refine ⟨fun r hr => ?_, fun t ht => (h t ht).stored, fun t ht => (h t ht).nested⟩
    rcases List.mem_append.1 hr with hr | hr
    · split at hr
      · exact nomatch hr
      · grind [Span.stop]
    · obtain ⟨t, ht, hm⟩ := List.mem_flatMap.1 hr
      exact (h t ht).reads r hm

def oneVendor : Dict where
  items := []
  vendors := [{ id := 9, tag := 1, len := 1, name := "Cisco",
                items := [{ name := "Cisco-AVPair", id := 1, type := .string, array := false,
                            size := 0 }] }]

def bufferOf (bytes : List UInt8) (i : Nat) : UInt8 := bytes.getD i 0

/-- The header of an Access-Accept of `n` bytes. -/
def acceptHeader (n : UInt8) : List UInt8 := [2, 1, 0, n] ++ List.replicate 16 0

/-- An empty Vendor-Specific attribute at the end has the decoder read the bytes 22 to 25. And a
vendor attribute of 8 bytes is stored with five bytes of the next. -/
theorem vendor_strays :
    (∃ r ∈ recvReads oneVendor (bufferOf (acceptHeader 22 ++ [26, 2])) 22, 22 < r.stop) ∧
    ∃ t ∈ recvTurns oneVendor
        (bufferOf (acceptHeader 34 ++ [26, 9, 0, 0, 0, 9, 1, 8, 97, 1, 5, 98, 99, 100])) 34,
      ∃ w ∈ t.nested, ¬ w.sub.Inside w.vsa := by
  constructor
  · exact ⟨⟨22, 4⟩, by decide +kernel, by decide⟩
  · exact ⟨_, List.mem_cons_self, ⟨⟨26, 8⟩, ⟨20, 9⟩⟩, by decide +kernel, by decide⟩

end Datagram

end Radius
