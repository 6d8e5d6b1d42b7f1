import MicroBng.L2tp.Hiding

/-!
# L2TP control packets are received as they were built

What `l2tp_recv` makes of the bytes `l2tp_packet_send` writes for a packet.

* `recvAttrs_iff`, `roundTrip_iff`: it is the packet exactly if all attributes are good (`AllGood`)
-/

namespace L2tp.Wire

open Bytes Chaining

/-! ## Values -/

def Value.clear : Value → List UInt8
  | .int16 v => toBe 2 v.toNat
  | .int32 v => toBe 4 v.toNat
  | .int64 v => toBe 8 v.toNat
  | .bytes bs => bs
  | .null => []

def Value.val : Value → Val
  | .int16 v => .num v.toUInt64
  | .int32 v => .num v.toUInt64
  | .int64 v => .num v
  | .bytes bs => .mem bs
  | .null => .mem []

/-- The value was added by the function for its attribute's type, or is no octets. -/
def Value.Fits : Value → AttrType → Prop
  | .int16 _, .int16 | .int32 _, .int32 | .int64 _, .int64 => True
  | .bytes _, .octets | .bytes _, .string => True
  | .bytes bs, .none => bs = []
  | _, _ => False

instance (v : Value) (type : AttrType) : Decidable (v.Fits type) := by
  unfold Value.Fits
  split <;> infer_instance

variable {n len : Nat} {mem w out : List UInt8} {addr : List UInt8 → UInt64}

theorem number_iff {w x : Nat} (hn : n ≤ mem.length) (hx : x < 256 ^ w) :
    n = w ∧ be mem 0 w = x ↔ mem.take n = toBe w x := by
  constructor
  · rintro ⟨rfl, rfl⟩
    exact take_eq_toBe hn
  · grind [length_toBe, be_take, ofBe_toBe]

theorem fits_of_readValue {type : AttrType} {v : Value}
    (h : readValue type n mem = some v) (hv : v ≠ .null) : v.Fits type := by
  cases type with
  | none =>
    simp only [readValue] at h
    split at h
    · cases h
      rfl
    · cases h
      exact absurd rfl hv
  | string => grind [readValue, Value.Fits]
  | int16 | int32 | int64 | octets =>
    simp only [readValue] at h
    split at h <;> cases h
    trivial

/-- **What is read is the value** if it has the type of the attribute and its bytes are there. -/
theorem readValue_eq_some_iff {type : AttrType} (hn : n ≤ mem.length) {v : Value} (hv : v ≠ .null) :
    readValue type (6 + n) mem = some v ↔ v.Fits type ∧ mem.take n = v.clear := by
  by_cases hf : v.Fits type
  · simp only [hf]
    cases v with
    | null => exact absurd rfl hv
    | int16 v =>
      obtain rfl : type = .int16 := by cases type <;> first | rfl | exact hf.elim
      have hof : UInt16.ofNat (be mem 0 2) = v ↔ be mem 0 2 = v.toNat := by
        rw [← UInt16.toNat_inj, UInt16.toNat_ofNat_of_lt' (be_lt mem 2)]
      rw [show (Value.int16 v).clear = toBe 2 v.toNat from rfl, ← number_iff hn v.toNat_lt]
      grind [readValue]
    | int32 v =>
      obtain rfl : type = .int32 := by cases type <;> first | rfl | exact hf.elim
      have hof : UInt32.ofNat (be mem 0 4) = v ↔ be mem 0 4 = v.toNat := by
        rw [← UInt32.toNat_inj, UInt32.toNat_ofNat_of_lt' (be_lt mem 4)]
      rw [show (Value.int32 v).clear = toBe 4 v.toNat from rfl, ← number_iff hn v.toNat_lt]
      grind [readValue]
    | int64 v =>
      obtain rfl : type = .int64 := by cases type <;> first | rfl | exact hf.elim
      have hof : UInt64.ofNat (be mem 0 8) = v ↔ be mem 0 8 = v.toNat := by
        rw [← UInt64.toNat_inj, UInt64.toNat_ofNat_of_lt' (be_lt mem 8)]
      rw [show (Value.int64 v).clear = toBe 8 v.toNat from rfl, ← number_iff hn v.toNat_lt]
      grind [readValue]
    | bytes bs =>
      cases type with
      | octets => simp [readValue, Value.clear]
      | string => simp [readValue, Value.clear, show ¬ 6 + n = 5 by omega]
      | int16 | int32 | int64 => exact hf.elim
      | none =>
        obtain rfl : bs = [] := hf
        grind [List.length_take, readValue, Value.clear]
  · simp only [hf, false_and, iff_false]
    exact fun h => hf (fits_of_readValue h hv)

/-! ## What a packet consists of -/

section

variable (md5 : List UInt8 → Digest) (dict : Dict)

/-- An attribute as the functions leave it that add one. -/
structure Attr.Built (secret : List UInt8) (rv : Option (List UInt8)) (a : Attr) : Prop where
  found : dict.findAttrById a.da.id = some a.da
  flagM : unlike a.da.M a.M = false
  flagH : unlike a.da.H a.H = false
  value : a.value ≠ .null
  plain : a.H = false → a.length = a.value.clear.length ∧ a.val = a.value.val
  hidden : a.H = true → a.length = 0 ∨ ∃ r pad, rv = some r ∧ secret ≠ [] ∧ 16 ≤ pad.length ∧
    a.length = (hiddenBytes md5 secret r a.da.id a.value.clear pad).length ∧
    a.val = .mem (hiddenBytes md5 secret r a.da.id a.value.clear pad)

def Inv (p : Pack) : Prop := ∀ a ∈ p.attrs, a.Built md5 dict p.secret p.lastRV

variable {md5 dict}

theorem Attr.Built.rv {secret : List UInt8} {a : Attr} (h : a.Built md5 dict secret none)
    (rv : Option (List UInt8)) : a.Built md5 dict secret rv := by
  refine ⟨h.found, h.flagM, h.flagH, h.value, h.plain, fun hH => ?_⟩
  grind [h.hidden]

variable {p : Pack}

section

variable (h : Inv md5 dict p)
include h

theorem Inv.append {a : Attr}
    (ha : a.Built md5 dict p.secret p.lastRV) : Inv md5 dict (p.append a) := by
  intro b hb
  rcases List.mem_append.1 hb with hb | hb
  · exact h b hb
  · rw [List.mem_singleton.1 hb]
    exact ha

omit h in
theorem unlike_getD (prescribed : Option Bool) (flag : Bool) :
    unlike prescribed (prescribed.getD flag) = false := by
  cases prescribed <;> simp [unlike]

omit h in
theorem attrAlloc_eq_some {id : Nat} {M H : Bool} {da : DictAttr} {m h : Bool}
    (halloc : attrAlloc dict id M H = some (da, m, h)) :
    dict.findAttrById da.id = some da ∧ unlike da.M m = false ∧ unlike da.H h = false := by
  obtain ⟨da', hfind, heq⟩ := Option.map_eq_some_iff.1 halloc
  simp only [Prod.mk.injEq] at heq
  obtain ⟨rfl, rfl, rfl⟩ := heq
  have hid : da'.id = id := by simpa using List.find?_some hfind
  simp_all [unlike_getD]

theorem Inv.addRandomVector (hrv : p.lastRV = none)
    {rv : Option Random} {p' : Pack} (hadd : p.addRandomVector dict rv = some p') :
    Inv md5 dict p' ∧ p'.secret = p.secret ∧ p'.hdr = p.hdr := by
  have halloc : attrAlloc dict randomVector true false =
      some (⟨randomVector, .octets, some true, some false⟩, true, false) := by
    rw [attrAlloc, Dict.findAttrById, dict.random]
    rfl
  obtain ⟨hfound, hM, hH⟩ := attrAlloc_eq_some halloc
  rw [Pack.addRandomVector, halloc] at hadd
  obtain ⟨r, -, rfl⟩ := Option.map_eq_some_iff.1 hadd
  refine ⟨?_, rfl, rfl⟩
  intro b hb
  rcases List.mem_append.1 hb with hb | hb
  · have hold := h b hb
    rw [hrv] at hold
    exact hold.rv _
  · rw [List.mem_singleton.1 hb]
    exact ⟨hfound, hM, hH, nofun, fun _ => ⟨rfl, rfl⟩, nofun⟩

theorem Inv.ready {rv : Option Random} {p' : Pack}
    (hready : (if p.lastRV = none then p.addRandomVector dict rv else some p) = some p') :
    Inv md5 dict p' ∧ p'.secret = p.secret ∧ p'.hdr = p.hdr := by
  grind [h.addRandomVector]

theorem Inv.addWith (id : Nat) (M : Bool) {v : Value} (hv : v ≠ .null) (draw : Draw) :
    Inv md5 dict (p.addWith md5 dict id M v.clear v.val v draw).1 ∧
      (p.addWith md5 dict id M v.clear v.val v draw).1.secret = p.secret ∧
      (p.addWith md5 dict id M v.clear v.val v draw).1.hdr = p.hdr := by
  unfold Pack.addWith
  cases halloc : attrAlloc dict id M p.hideAvps with
  | none => exact ⟨h, rfl, rfl⟩
  | some x =>
    obtain ⟨da, m, hh⟩ := x
    obtain ⟨hfound, hM, hH⟩ := attrAlloc_eq_some halloc
    cases hh with
    | false => exact ⟨h.append ⟨hfound, hM, hH, hv, fun _ => ⟨rfl, rfl⟩, nofun⟩, rfl, rfl⟩
    | true =>
      cases hready : if p.lastRV = none then p.addRandomVector dict draw.rv else some p with
      | none => exact ⟨h, rfl, rfl⟩
      | some p' =>
        obtain ⟨h', hsecret, hhdr⟩ := h.ready hready
        dsimp only
        cases henc : encodeAttr md5 p' da.id v.clear (draw.pad.map Subtype.val) with
        | none => exact ⟨h', hsecret, hhdr⟩
        | some hidden =>
          obtain ⟨r, pad, hr, hpad, hs, rfl⟩ := encodeAttr_eq_some henc
          obtain ⟨pad, -, rfl⟩ := Option.map_eq_some_iff.1 hpad
          have hpad := pad.2.1
          exact ⟨h'.append ⟨hfound, hM, hH, hv, nofun,
            fun _ => .inr ⟨r, pad.1, hr, hs, hpad, rfl, rfl⟩⟩, hsecret, hhdr⟩

theorem Inv.addInt16 (id : Nat) (v : UInt16) (M : Bool) (draw : Draw) :
    Inv md5 dict (p.addInt16 md5 dict id v M draw).1 ∧
      (p.addInt16 md5 dict id v M draw).1.secret = p.secret ∧
      (p.addInt16 md5 dict id v M draw).1.hdr = p.hdr :=
  h.addWith (v := .int16 v) id M nofun draw

theorem Inv.addOctets (id : Nat) (bs : List UInt8) (M : Bool) (draw : Draw) :
    Inv md5 dict (p.addOctets md5 dict id bs M draw).1 ∧
      (p.addOctets md5 dict id bs M draw).1.secret = p.secret ∧
      (p.addOctets md5 dict id bs M draw).1.hdr = p.hdr := by
  unfold Pack.addOctets
  by_cases hbs : bs = []
  · rw [if_pos hbs]
    cases halloc : attrAlloc dict id M p.hideAvps with
    | none => exact ⟨h, rfl, rfl⟩
    | some x =>
      obtain ⟨hfound, hM, hH⟩ := attrAlloc_eq_some halloc
      exact ⟨h.append ⟨hfound, hM, hH, nofun, fun _ => ⟨rfl, rfl⟩, fun _ => .inl rfl⟩, rfl, rfl⟩
  · rw [if_neg hbs]
    exact h.addWith (v := .bytes bs) id M nofun draw

theorem Inv.call (c : Call) :
    Inv md5 dict (p.call md5 dict c) ∧ (p.call md5 dict c).secret = p.secret ∧
      (p.call md5 dict c).hdr.flags = p.hdr.flags := by
  cases c with
  | int16 id v M draw =>
    obtain ⟨hinv, hs, hh⟩ := h.addInt16 id v M draw
    exact ⟨hinv, hs, congrArg Header.flags hh⟩
  | int32 id v M draw =>
    obtain ⟨hinv, hs, hh⟩ := h.addWith (v := .int32 v) id M nofun draw
    exact ⟨hinv, hs, congrArg Header.flags hh⟩
  | int64 id v M draw =>
    obtain ⟨hinv, hs, hh⟩ := h.addWith (v := .int64 v) id M nofun draw
    exact ⟨hinv, hs, congrArg Header.flags hh⟩
  | string id bs M draw =>
    obtain ⟨hinv, hs, hh⟩ := h.addWith (v := .bytes bs) id M nofun draw
    exact ⟨hinv, hs, congrArg Header.flags hh⟩
  | octets id bs M draw =>
    obtain ⟨hinv, hs, hh⟩ := h.addOctets id bs M draw
    exact ⟨hinv, hs, congrArg Header.flags hh⟩
  | fields tid sid Ns Nr => exact ⟨h, rfl, rfl⟩

theorem Inv.run (calls : List Call) :
    Inv md5 dict (p.run md5 dict calls) ∧ (p.run md5 dict calls).secret = p.secret ∧
      (p.run md5 dict calls).hdr.flags = p.hdr.flags := by
  induction calls generalizing p with
  | nil => exact ⟨h, rfl, rfl⟩
  | cons c cs ih =>
    obtain ⟨h1, hs1, hh1⟩ := h.call c
    obtain ⟨h2, hs2, hh2⟩ := ih h1
    exact ⟨h2, hs2.trans hs1, hh2.trans hh1⟩

end

theorem Inv.packetAlloc {ver : Nat} {msgType : UInt16} {H : Bool} {secret : List UInt8}
    {draw : Draw} (h : packetAlloc md5 dict ver msgType H secret draw = some p) :
    Inv md5 dict p ∧ p.secret = secret ∧ p.hdr.flags = UInt16.ofNat (0xc800 + ver % 16) := by
  unfold Wire.packetAlloc at h
  generalize UInt16.ofNat (0xc800 + ver % 16) = flags at h ⊢
  have hnil : Inv md5 dict ⟨⟨flags, 0, 0, 0, 0⟩, [], none, secret, H⟩ := by
    intro a ha
    cases ha
  obtain ⟨hinv, hs, hh⟩ := hnil.addInt16 messageType msgType true draw
  grind

end

/-! ## One attribute -/

def Attr.header (a : Attr) : List UInt8 := toBe 2 a.flags ++ ([0, 0] ++ toBe 2 a.da.id)

@[simp] theorem Attr.length_header (a : Attr) : a.header.length = 6 := by
  simp [Attr.header]

theorem Attr.flags_lt (a : Attr) : a.flags < 65536 := by
  unfold Attr.flags
  split_ifs <;> omega

theorem Attr.flags_mod (a : Attr) : a.flags % 1024 = (6 + a.length) % 1024 := by
  unfold Attr.flags
  split_ifs <;> omega

theorem Attr.flags_M (a : Attr) : decide (a.flags / 32768 % 2 = 1) = a.M := by
  unfold Attr.flags
  cases a.M <;> cases a.H <;> simp <;> omega

theorem Attr.flags_H (a : Attr) : decide (a.flags / 16384 % 2 = 1) = a.H := by
  unfold Attr.flags
  cases a.M <;> cases a.H <;> simp <;> omega

theorem be_header_flags (a : Attr) (bs : List UInt8) : be (a.header ++ bs) 0 2 = a.flags := by
  simp [Attr.header, be_take, ofBe_toBe, a.flags_lt]

theorem be_header_vendor (a : Attr) (bs : List UInt8) : be (a.header ++ bs) 2 2 = 0 := by
  have htake : ([0, 0] ++ toBe 2 a.da.id).take 2 = [0, 0] := List.take_left' rfl
  rw [be_append (by simp), be, Attr.header, List.drop_left' (length_toBe 2 _), htake]
  rfl

theorem be_header_id {a : Attr} (h : a.da.id < 65536) (bs : List UInt8) :
    be (a.header ++ bs) 4 2 = a.da.id := by
  rw [be_append (by simp), be, Attr.header, ← List.append_assoc, List.drop_left' (by simp),
    List.take_of_length_le (by simp), ofBe_toBe h]

theorem Dict.id_lt_of_find {dict : Dict} {id : Nat} {da : DictAttr}
    (h : dict.findAttrById id = some da) : da.id < 65536 :=
  dict.id_lt da (List.mem_of_find?_eq_some h)

def readAttr (s : Side) (rv : Option (List UInt8)) (a : Attr) (bs : List UInt8) : Option Value :=
  (original s rv a.H a.da.id ((6 + a.length) % 1024) bs).bind fun (n, mem) =>
    readValue a.da.type n mem

def Attr.rvAfter (a : Attr) (rv : Option (List UInt8)) (v : Value) : Option (List UInt8) :=
  if a.da.id = randomVector then some v.rvBytes else rv

variable {s : Side} {rv sent : Option (List UInt8)} {a : Attr} {body : List UInt8}

variable (rv) in
theorem recvAvp_header (h : a.Built s.md5 s.dict s.secret sent) (hbody : body.length = a.length)
    (tail : List UInt8) :
    recvAvp s rv (a.header ++ (body ++ tail)) = none ∧
        ((6 + a.length) % 1024 < 6 ∨ readAttr s rv a (a.header ++ (body ++ tail)) = none) ∨
      ∃ v t, readAttr s rv a (a.header ++ (body ++ tail)) = some v ∧
        recvAvp s rv (a.header ++ (body ++ tail)) = some t ∧ ¬ (6 + a.length) % 1024 < 6 ∧
        t.size = (6 + a.length) % 1024 ∧ t.attr = some ⟨a.da.id, a.M, v⟩ ∧
        t.rv = a.rvAfter rv v := by
  have hlen : ¬ 6 + (a.length + tail.length) < 6 := by omega
  have hid := Dict.id_lt_of_find h.found
  have hroom : ((6 + a.length) % 1024 < 6 ∨ 6 + (a.length + tail.length) < (6 + a.length) % 1024) ↔
      (6 + a.length) % 1024 < 6 := by omega
  unfold recvAvp
  simp only [List.length_append, Attr.length_header, hbody, hlen, if_false, be_header_flags,
    a.flags_mod, a.flags_M, a.flags_H, hroom, be_header_vendor, ne_eq, not_true_eq_false,
    be_header_id hid, h.found, h.flagM, h.flagH, Bool.false_eq_true, or_self, false_and]
  by_cases hshort : (6 + a.length) % 1024 < 6
  · rw [if_pos hshort]
    exact .inl ⟨rfl, .inl hshort⟩
  · rw [if_neg hshort, readAttr]
    cases ho : original s rv a.H a.da.id ((6 + a.length) % 1024) (a.header ++ (body ++ tail)) with
    | none => exact .inl ⟨rfl, .inr rfl⟩
    | some x =>
      obtain ⟨n, mem⟩ := x
      simp only [Option.bind_some]
      cases hv : readValue a.da.type n mem with
      | none => exact .inl ⟨rfl, .inr rfl⟩
      | some v => exact .inr ⟨v, _, rfl, rfl, hshort, rfl, rfl, rfl⟩

/-- An attribute is received as it was added: by the function for its type, with a length of ten
bits, or hidden with a key the receiver has. -/
def Attr.Good (s : Side) (sent rv : Option (List UInt8)) (a : Attr) : Prop :=
  a.value.Fits a.da.type ∧
    if a.H then
      a.length ≠ 0 ∧ a.value.clear.length < 65536 ∧ ∃ r ∈ sent, ∃ r' ∈ rv,
        (firstKey s.md5 a.da.id s.secret r).take (2 + a.value.clear.length) =
          (firstKey s.md5 a.da.id s.secret r').take (2 + a.value.clear.length)
    else a.length ≤ 1017
deriving Decidable

theorem written_of_fits (addr : List UInt8 → UInt64) (h : a.Built s.md5 s.dict s.secret sent)
    (hH : a.H = false) (hf : a.value.Fits a.da.type) : a.written addr = some a.value.clear := by
  obtain ⟨hlen, hval⟩ := h.plain hH
  unfold Attr.written
  rw [hH, hval, hlen]
  generalize a.value = v at hf
  generalize a.da.type = type at hf
  cases v with
  | null => cases type <;> exact hf.elim
  | int16 v | int32 v | int64 v =>
    cases type <;> first | exact hf.elim | simp [Value.val, Val.bits, Value.clear]
  | bytes bs =>
    cases type with
    | int16 | int32 | int64 => exact hf.elim
    | octets | string => simp [Value.val, Val.copy, Value.clear]
    | none =>
      obtain rfl : bs = [] := hf
      rfl

section Reads

variable (h : a.Built s.md5 s.dict s.secret sent) (hw : a.written addr = some w)
  (hbody : body.length = a.length) (hwritten : w.length = a.length → body = w) (tail : List UInt8)

include h hw hbody hwritten

theorem readAttr_plain_iff (hH : a.H = false) :
    (¬ (6 + a.length) % 1024 < 6 ∧ readAttr s rv a (a.header ++ (body ++ tail)) = some a.value) ↔
      a.Good s sent rv := by
  have hread : readAttr s rv a (a.header ++ (body ++ tail)) =
      readValue a.da.type ((6 + a.length) % 1024) (body ++ tail ++ s.behind) := by
    rw [readAttr, original, hH, if_neg (by decide), Option.bind_some,
      List.drop_left' a.length_header]
  rw [hread, Attr.Good, hH, if_neg (by decide)]
  by_cases hf : a.value.Fits a.da.type
  · -- its bytes are those of the value
    obtain ⟨hlen, -⟩ := h.plain hH
    have hclear : w = a.value.clear := by grind [written_of_fits]
    constructor
    · rintro ⟨hge, hval⟩
      have h6 : (6 + a.length) % 1024 = 6 + ((6 + a.length) % 1024 - 6) := by omega
      rw [h6, readValue_eq_some_iff (by simp only [List.length_append]; omega) h.value] at hval
      grind
    · rintro ⟨-, hle⟩
      have h6 : (6 + a.length) % 1024 = 6 + a.length := Nat.mod_eq_of_lt (by omega)
      grind [readValue_eq_some_iff, h.value]
  grind [fits_of_readValue, h.value]

theorem readAttr_hidden_iff (hH : a.H = true) (hshort : a.length ≤ 1017) :
    (¬ (6 + a.length) % 1024 < 6 ∧ readAttr s rv a (a.header ++ (body ++ tail)) = some a.value) ↔
      a.Good s sent rv := by
  have h6 : (6 + a.length) % 1024 = 6 + a.length := Nat.mod_eq_of_lt (by omega)
  have hge : ¬ 6 + a.length < 6 := by omega
  have hval : ((a.header ++ (body ++ tail)).drop 6).take (6 + a.length - 6) = body := by simp_all
  rw [Attr.Good, hH, if_pos rfl, h6]
  simp only [hge]
  unfold readAttr original
  rw [h6, hH, if_pos rfl, hval]
  cases rv with
  | none => simp
  | some r' =>
    rcases h.hidden hH with h0 | ⟨r, pad, hr, hsecret, hpad, hlen, hbytes⟩
    · -- no octets, which are marked as hidden
      simp_all [decodeAvp]
    · have hbod : body = hiddenBytes s.md5 s.secret r a.da.id a.value.clear pad := by
        have hwr : w = hiddenBytes s.md5 s.secret r a.da.id a.value.clear pad := by
          rw [Attr.written, hH, if_pos rfl, hbytes, Val.copy, hlen,
            List.take_of_length_le (Nat.le_refl _), Option.some.injEq] at hw
          exact hw.symm
        rw [hwritten (by rw [hwr, hlen]), hwr]
      have hsub : (subformat a.value.clear pad).length = a.length := by
        rw [hlen, length_hiddenBytes]
      have hlt : 16 < (subformat a.value.clear pad).length := by
        rw [length_subformat]
        omega
      have hiff := deciphered_iff s r r' a.da.id a.value.clear hlt
      have hne : a.length ≠ 0 := by omega
      rw [Option.bind_some, if_neg hsecret, hbod, hr]
      simp only [hne, ne_eq, not_false_eq_true, Option.mem_def, Option.some.injEq,
        exists_eq_left', ← hiff]
      rcases decodeAvp_hiddenBytes s r r' a.da.id a.value.clear hlt with
        ⟨hbig, hnone⟩ | ⟨out, hout, hle, holen, htake⟩
      · grind
      · rw [hout, Option.map_some, Option.bind_some]
        generalize deciphered s r r' a.da.id a.value.clear pad = clear at hle htake ⊢
        have hbe : be out 0 2 = be clear 0 2 := by
          have h2 := congrArg (List.take 2) htake
          grind [be]
        have hmem : (out.drop 2).take (be clear 0 2) = (clear.drop 2).take (be clear 0 2) := by
          have h2 := congrArg (List.drop 2) htake
          rwa [List.drop_take, List.drop_take, Nat.add_sub_cancel_left] at h2
        have hroom : be clear 0 2 ≤ (out.drop 2).length := by
          rw [List.length_drop]
          omega
        rw [hbe, Nat.mod_eq_of_lt (by omega), Nat.add_comm, readValue_eq_some_iff
          (by rw [List.length_append]; omega) h.value, List.take_append_of_le_length hroom, hmem]
        simp only [hle, true_and]

variable (rv) in
theorem reads_iff (hshort : a.H = true → a.length ≤ 1017) :
    (¬ (6 + a.length) % 1024 < 6 ∧ readAttr s rv a (a.header ++ (body ++ tail)) = some a.value) ↔
      a.Good s sent rv := by
  by_cases hH : a.H = true
  · exact readAttr_hidden_iff h hw hbody hwritten tail hH (hshort hH)
  · exact readAttr_plain_iff h hw hbody hwritten tail (Bool.eq_false_iff.2 hH)

end Reads

/-! ## All attributes -/

def Attr.received (a : Attr) : Received := ⟨a.da.id, a.M, a.value⟩

/-- All attributes are received as they were added, with the Random-Vectors among them. -/
def AllGood (s : Side) (sent : Option (List UInt8)) : Option (List UInt8) → List Attr → Prop
  | _, [] => True
  | rv, a :: attrs => a.Good s sent rv ∧ AllGood s sent (a.rvAfter rv a.value) attrs

instance decidableAllGood (s : Side) (sent : Option (List UInt8)) :
    (rv : Option (List UInt8)) → (attrs : List Attr) → Decidable (AllGood s sent rv attrs)
  | _, [] => inferInstanceAs (Decidable True)
  | rv, a :: attrs =>
    @instDecidableAnd _ _ inferInstance (decidableAllGood s sent (a.rvAfter rv a.value) attrs)

theorem Attr.image_nil (a : Attr) (w : List UInt8) : a.image [] w = a.header ++ w := by
  simp [Attr.image, Attr.header]

variable {attrs : List Attr}

theorem sendAttrs_cons (h : sendAttrs addr len [] (a :: attrs) = some out) :
    ∃ w body rest, a.written addr = some w ∧ body.length = a.length ∧
      out = a.header ++ (body ++ rest) ∧
      (w.length = a.length →
        body = w ∧ sendAttrs addr (len + 6 + a.length) [] attrs = some rest) := by
  rw [sendAttrs] at h
  by_cases hbig : 65536 ≤ len + 6 + a.length
  · rw [if_pos hbig] at h
    cases h
  · rw [if_neg hbig] at h
    obtain ⟨w, hw, h⟩ := Option.bind_eq_some_iff.1 h
    obtain ⟨rest, hrest, rfl⟩ := Option.map_eq_some_iff.1 h
    rw [a.image_nil] at hrest
    refine ⟨w, (w ++ List.replicate (6 + a.length) 0).take a.length, rest, hw, ?_, ?_, ?_⟩
    · rw [List.length_take, List.length_append, List.length_replicate]
      omega
    · simp [a.image_nil, List.take_append, List.take_of_length_le]
    grind [List.length_append, a.length_header]

theorem length_written (h : a.Built s.md5 s.dict s.secret sent) (hgood : a.Good s sent rv)
    (hw : a.written addr = some w) : w.length = a.length := by
  by_cases hH : a.H = true
  · rcases h.hidden hH with h0 | ⟨r, pad, -, -, -, hlen, hbytes⟩
    · grind [hgood.2]
    · rw [Attr.written, if_pos hH, hbytes, Val.copy, hlen,
        List.take_of_length_le (Nat.le_refl _)] at hw
      cases hw
      exact hlen.symm
  grind [written_of_fits, hgood.1, h.plain]

theorem Attr.Good.length_mod (h : a.Good s sent rv) (hshort : a.H = true → a.length ≤ 1017) :
    (6 + a.length) % 1024 = 6 + a.length := by
  grind [h.2]

/-- **The attributes that are received** are those that were added if all of them are good. -/
theorem recvAttrs_iff (hbuilt : ∀ a ∈ attrs, a.Built s.md5 s.dict s.secret sent)
    (hshort : ∀ a ∈ attrs, a.H = true → a.length ≤ 1017)
    (hsend : sendAttrs addr len [] attrs = some out) {turns : Nat} (hturns : out.length ≤ turns) :
    recvAttrs s turns rv out = some (attrs.map Attr.received) ↔ AllGood s sent rv attrs := by
  induction attrs generalizing len out turns rv with
  | nil =>
    cases hsend
    cases turns <;> simp [recvAttrs, AllGood]
  | cons a attrs ih =>
    obtain ⟨w, body, rest, hw, hbody, rfl, hrest⟩ := sendAttrs_cons hsend
    have ha := hbuilt a (by simp)
    have hsh := hshort a (by simp)
    simp only [List.length_append, Attr.length_header] at hturns
    obtain ⟨turns, rfl⟩ : ∃ t, turns = t + 1 := ⟨turns - 1, by omega⟩
    have hne : a.header ++ (body ++ rest) ≠ [] := by
      intro h
      have := congrArg List.length h
      grind [Attr.length_header]
    have hiff := reads_iff rv ha hw hbody (fun h => (hrest h).1) rest hsh
    have hturn := recvAvp_header rv ha hbody rest
    simp only [recvAttrs, hne, AllGood]
    by_cases hgood : a.Good s sent rv
    · -- the loop goes on with the attributes that follow
      rcases hturn with ⟨-, hno⟩ | ⟨v, t, hv, ht, -, hsize, hattr, hrv⟩
      · grind
      · have hdrop : (a.header ++ (body ++ rest)).drop (6 + a.length) = rest := by
          grind [a.length_header]
        have hsend' := (hrest (length_written ha hgood hw)).2
        have hnext : recvAttrs s turns (a.rvAfter rv a.value) rest =
            some (attrs.map Attr.received) ↔ AllGood s sent (a.rvAfter rv a.value) attrs :=
          ih (fun b hb => hbuilt b (by simp [hb])) (fun b hb => hshort b (by simp [hb])) hsend'
            (by omega)
        simp_all [hgood.length_mod, Attr.received]
    · -- the attribute is not the one that was added
      simp only [hgood, false_and, iff_false]
      intro hrecv
      obtain ⟨t, ht, hmap⟩ := Option.bind_eq_some_iff.1 hrecv
      obtain ⟨more, -, hlist⟩ := Option.map_eq_some_iff.1 hmap
      grind [Attr.received]

theorem length_sendAttrs {spill : List UInt8} (hlen : len < 65536)
    (h : sendAttrs addr len spill attrs = some out) : len + out.length < 65536 := by
  induction attrs generalizing len spill out with
  | nil =>
    cases h
    exact hlen
  | cons a attrs ih =>
    rw [sendAttrs] at h
    by_cases hbig : 65536 ≤ len + 6 + a.length
    · rw [if_pos hbig] at h
      cases h
    · rw [if_neg hbig] at h
      obtain ⟨w, -, h⟩ := Option.bind_eq_some_iff.1 h
      obtain ⟨rest, hrest, rfl⟩ := Option.map_eq_some_iff.1 h
      have := ih (by omega) hrest
      rw [List.length_append, List.length_take]
      omega

/-! ## Packets -/

theorem be_here {x : Nat} (h : x < 65536) (bs : List UInt8) : be (toBe 2 x ++ bs) 0 2 = x := by
  rw [be_take (List.take_left' (length_toBe 2 x)), ofBe_toBe h]

theorem be_skip (x : Nat) (bs : List UInt8) (off n : Nat) :
    be (toBe 2 x ++ bs) (2 + off) n = be bs off n := by
  rw [be, be, ← List.drop_drop, List.drop_left' (length_toBe 2 x)]

theorem controlFlags_iff (v : Nat) (h : v < 16) :
    controlFlags (0xc800 + v) = decide (v = 2 ∨ v = 3) := by
  revert v
  decide

theorem recv_send {p : Pack} {v : Nat} (hv : v < 16)
    (hflags : p.hdr.flags = UInt16.ofNat (0xc800 + v)) {body bs : List UInt8}
    (hbody : sendAttrs addr 12 [] p.attrs = some body) (hsend : send addr p = some bs) :
    bs.length = 12 + body.length ∧
      recv s bs = if v = 2 ∨ v = 3 then
        (recvAttrs s body.length none body).map fun attrs => ⟨p.hdr, bs.length, attrs⟩
      else none := by
  have hlt := length_sendAttrs (by decide) hbody
  rw [send, hbody, Option.map_some, Option.some.injEq] at hsend
  simp only [List.append_assoc] at hsend
  have hlen : bs.length = 12 + body.length := by
    rw [← hsend]
    simp only [List.length_append, length_toBe]
    omega
  have hnat : p.hdr.flags.toNat = 0xc800 + v := by
    have hsmall : 0xc800 + v < UInt16.size := by
      rw [show UInt16.size = 65536 from rfl]
      omega
    rw [hflags, UInt16.toNat_ofNat_of_lt' hsmall]
  have h0 : be bs 0 2 = 0xc800 + v := by rw [← hsend, be_here p.hdr.flags.toNat_lt, hnat]
  have h1 : be bs (2 + 0) 2 = bs.length := by rw [hlen, ← hsend, be_skip, be_here hlt]
  have h2 : be bs (2 + (2 + 0)) 2 = p.hdr.tid.toNat := by
    rw [← hsend, be_skip, be_skip, be_here p.hdr.tid.toNat_lt]
  have h3 : be bs (2 + (2 + (2 + 0))) 2 = p.hdr.sid.toNat := by
    rw [← hsend, be_skip, be_skip, be_skip, be_here p.hdr.sid.toNat_lt]
  have h4 : be bs (2 + (2 + (2 + (2 + 0)))) 2 = p.hdr.Ns.toNat := by
    rw [← hsend, be_skip, be_skip, be_skip, be_skip, be_here p.hdr.Ns.toNat_lt]
  have h5 : be bs (2 + (2 + (2 + (2 + (2 + 0))))) 2 = p.hdr.Nr.toNat := by
    rw [← hsend, be_skip, be_skip, be_skip, be_skip, be_skip, be_here p.hdr.Nr.toNat_lt]
  have hdrop : bs.drop 12 = body := by
    rw [← hsend]
    simp only [← List.append_assoc]
    exact List.drop_left' (by simp)
  refine ⟨hlen, ?_⟩
  have hshort : ¬ bs.length < 12 := by omega
  have hattrs : (bs.drop 12).take (bs.length - 12) = body := by
    rw [hdrop]
    exact List.take_of_length_le (by omega)
  have hhdr : (⟨UInt16.ofNat p.hdr.flags.toNat, UInt16.ofNat p.hdr.tid.toNat,
      UInt16.ofNat p.hdr.sid.toNat, UInt16.ofNat p.hdr.Ns.toNat,
      UInt16.ofNat p.hdr.Nr.toNat⟩ : Header) = p.hdr := by
    simp only [UInt16.ofNat_toNat]
  rw [← hnat] at h0
  unfold recv
  simp only [hshort, h0, h1, h2, h3, h4, h5, hattrs, hhdr]
  rw [hnat, controlFlags_iff v hv, show bs.length - 12 = body.length by omega]
  by_cases hver : v = 2 ∨ v = 3
  · simp [hver]
  · simp [hver]

/-- **Which packets are received as they were built**: those of version 2 or 3 whose attributes are
all good. -/
theorem roundTrip_iff (s : Side) (addr : List UInt8 → UInt64) {ver : Nat} {msgType : UInt16}
    {H : Bool} {draw : Draw} {p : Pack} {calls : List Call} {bs : List UInt8}
    (halloc : packetAlloc s.md5 s.dict ver msgType H s.secret draw = some p)
    (hshort : ∀ a ∈ (p.run s.md5 s.dict calls).attrs, a.H = true → a.length ≤ 1017)
    (hsend : send addr (p.run s.md5 s.dict calls) = some bs) :
    recv s bs = some ⟨(p.run s.md5 s.dict calls).hdr, bs.length,
        (p.run s.md5 s.dict calls).attrs.map Attr.received⟩ ↔
      (ver % 16 = 2 ∨ ver % 16 = 3) ∧
        AllGood s (p.run s.md5 s.dict calls).lastRV none (p.run s.md5 s.dict calls).attrs := by
  obtain ⟨hinv₀, hsecret₀, hflags₀⟩ := Inv.packetAlloc halloc
  obtain ⟨hinv, hsecret, hflags⟩ := hinv₀.run calls
  generalize p.run s.md5 s.dict calls = q at *
  rw [Inv, hsecret, hsecret₀] at hinv
  obtain ⟨body, hbody, -⟩ := Option.map_eq_some_iff.1 hsend
  obtain ⟨-, hrecv⟩ := recv_send (s := s) (Nat.mod_lt ver (by decide)) (hflags.trans hflags₀) hbody
    hsend
  have hiff : recvAttrs s body.length none body = some (q.attrs.map Attr.received) ↔
      AllGood s q.lastRV none q.attrs :=
    recvAttrs_iff hinv hshort hbody (Nat.le_refl _)
  simp_all

def samplePack : Pack := ⟨⟨51202, 0, 0, 0, 0⟩, [], none, [1, 2, 3], true⟩

def sampleDraw : Draw := ⟨some ⟨List.replicate 16 5, by decide⟩, some ⟨List.replicate 16 6, by decide⟩⟩

/-- A message type, a hidden number, a name and a hidden challenge. -/
def sampleCalls : List Call :=
  [.fields 4 0 1 2, .int16 0 2 true sampleDraw, .int16 9 700 true sampleDraw,
    .string 7 [104, 105] true sampleDraw, .octets 11 (List.replicate 20 9) true sampleDraw]

theorem roundTrip_iff_sample :
    ∃ bs, packetAlloc sampleSide.md5 sampleSide.dict 2 0 true sampleSide.secret sampleDraw =
        some samplePack ∧
      send (fun _ => 0) (samplePack.run sampleSide.md5 sampleSide.dict sampleCalls) = some bs ∧
      recv sampleSide bs = some ⟨(samplePack.run sampleSide.md5 sampleSide.dict sampleCalls).hdr,
        bs.length,
        (samplePack.run sampleSide.md5 sampleSide.dict sampleCalls).attrs.map Attr.received⟩ := by
  have hsome : (send (fun _ => 0)
      (samplePack.run sampleSide.md5 sampleSide.dict sampleCalls)).isSome = true := by
    decide +kernel
  obtain ⟨bs, hbs⟩ := Option.isSome_iff_exists.1 hsome
  have halloc : packetAlloc sampleSide.md5 sampleSide.dict 2 0 true sampleSide.secret sampleDraw =
      some samplePack := rfl
  exact ⟨bs, halloc, hbs, (roundTrip_iff sampleSide (fun _ => 0) halloc (by decide +kernel) hbs).2
    (by decide +kernel)⟩

/-- A Result-Code of 1018 octets is sent, and the packet is dropped: the length of the attribute is
written as 0. -/
theorem long_value_lost :
    ∃ bs, send (fun _ => 0) (samplePack.run sampleSide.md5 sampleSide.dict
        [.int16 0 2 true sampleDraw, .octets 1 (List.replicate 1018 9) true sampleDraw]) = some bs ∧
      recv sampleSide bs = none := by
  have hsome : (send (fun _ => 0) (samplePack.run sampleSide.md5 sampleSide.dict
      [.int16 0 2 true sampleDraw, .octets 1 (List.replicate 1018 9) true sampleDraw])).any
        (fun bs => decide (recv sampleSide bs = none)) = true := by
    decide +kernel
  obtain ⟨bs, hbs, hlost⟩ := (Option.any_eq_true _ _).1 hsome
  exact ⟨bs, hbs, of_decide_eq_true hlost⟩

end L2tp.Wire
