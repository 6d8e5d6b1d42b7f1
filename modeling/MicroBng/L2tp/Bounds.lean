import MicroBng.L2tp.Hiding

/-!
# The bounds of received L2TP attributes

Where the loop of `l2tp_recv` over the attributes of a datagram gets to.

* `bounds_iff`: the attributes lie inside their payload exactly if no hidden one of at most one block
  claims to be longer
-/

namespace L2tp.Wire

open Bytes Chaining

/-- Where the loop is: the last Random-Vector, and the bytes from an attribute on. -/
structure Visit where
  rv : Option (List UInt8)
  bs : List UInt8

def Visit.turn (s : Side) (v : Visit) : Option Turn := recvAvp s v.rv v.bs

def visitsFrom (s : Side) : Nat → Visit → List Visit
  | 0, _ => []
  | turns + 1, v =>
    if v.bs = [] then []
    else
      v :: match v.turn s with
        | none => []
        | some t => visitsFrom s turns ⟨t.rv, v.bs.drop t.size⟩

/-- The receiver of a datagram, with what lies behind the packet. -/
def Side.after (s : Side) (bs : List UInt8) : Side :=
  { s with behind := bs.drop (be bs 2 2) ++ s.behind }

/-- Where `l2tp_recv` gets to in a datagram. -/
def visits (s : Side) (bs : List UInt8) : List Visit :=
  if bs.length < 12 ∨ controlFlags (be bs 0 2) = false then []
  else
    let length := be bs 2 2
    if length < 12 ∨ bs.length < length then []
    else
      visitsFrom (s.after bs) (length - 12) ⟨none, (bs.drop 12).take (length - 12)⟩

def Visit.payload (v : Visit) : List UInt8 := (v.bs.drop 6).take (be v.bs 0 2 % 1024 - 6)

/-- The length in front of a hidden value of at most one block. -/
def Visit.inner (s : Side) (v : Visit) (rv : List UInt8) : Nat :=
  be (memxor v.payload (firstKey s.md5 (be v.bs 4 2) s.secret rv)) 0 2

/-- The lengths, with the header, an attribute of a type may have. -/
def AttrType.Takes (n : Nat) : AttrType → Prop
  | .int16 => n = 8
  | .int32 => n = 10
  | .int64 => n = 14
  | .octets => 6 ≤ n
  | .string => 5 ≤ n
  | .none => True

/-- The AVP lies inside the datagram, is known, and has the prescribed flags. -/
structure Visit.Known (s : Side) (v : Visit) (da : DictAttr) : Prop where
  whole : 6 ≤ be v.bs 0 2 % 1024 ∧ be v.bs 0 2 % 1024 ≤ v.bs.length
  vendor : be v.bs 2 2 = 0
  found : s.dict.findAttrById (be v.bs 4 2) = some da
  flags : (unlike da.M (decide (be v.bs 0 2 / 32768 % 2 = 1)) ∨
    unlike da.H (decide (be v.bs 0 2 / 16384 % 2 = 1))) → s.permissive

/-- The AVP is hidden in at most one block, and the length in it is more than follows. -/
def Visit.Exceeds (s : Side) (v : Visit) : Prop :=
  ∃ da rv, v.Known s da ∧ v.rv = some rv ∧ s.secret ≠ [] ∧ be v.bs 0 2 / 16384 % 2 = 1 ∧
    2 ≤ v.payload.length ∧ v.payload.length ≤ 16 ∧
    v.payload.length - 2 < v.inner s rv ∧ da.type.Takes ((v.inner s rv + 6) % 65536)

def Turn.InBounds (t : Turn) : Prop := 0 ≤ t.length ∧ t.length ≤ t.room

/-! ## Attributes that are accepted -/

variable {s : Side} {v : Visit}

theorem exists_readValue_iff {type : AttrType} {n : Nat} {mem : List UInt8} :
    (∃ x, readValue type n mem = some x) ↔ type.Takes n := by
  cases type with
  | string =>
    unfold readValue AttrType.Takes
    dsimp only
    split_ifs <;> simp <;> omega
  | none | int16 | int32 | int64 | octets => simp [readValue, AttrType.Takes]

theorem turn_attr_iff {length : Int} {room : Nat} :
    (∃ t a, v.turn s = some t ∧ t.attr = some a ∧ t.length = length ∧ t.room = room) ↔
      ∃ da, v.Known s da ∧ ∃ n mem,
        original s v.rv (decide (be v.bs 0 2 / 16384 % 2 = 1)) (be v.bs 4 2) (be v.bs 0 2 % 1024)
          v.bs = some (n, mem) ∧
        da.type.Takes n ∧ length = (n : Int) - 6 ∧
        room = be v.bs 0 2 % 1024 - if be v.bs 0 2 / 16384 % 2 = 1 then 8 else 6 := by
  constructor
  · rintro ⟨t, a, h, ha, rfl, rfl⟩
    unfold Visit.turn recvAvp at h
    by_cases h6 : v.bs.length < 6
    · rw [if_pos h6] at h
      cases h
    rw [if_neg h6] at h
    by_cases hlen : be v.bs 0 2 % 1024 < 6 ∨ v.bs.length < be v.bs 0 2 % 1024
    · rw [if_pos hlen] at h
      cases h
    rw [if_neg hlen] at h
    by_cases hvendor : be v.bs 2 2 = 0
    swap
    · rw [if_pos hvendor] at h
      cases h
      cases ha
    rw [if_neg (not_not_intro hvendor)] at h
    cases hda : s.dict.findAttrById (be v.bs 4 2) with
    | none => grind
    | some da =>
      rw [hda] at h
      dsimp only at h
      split at h
      · cases h
      · rename_i hflags
        obtain ⟨⟨n, mem⟩, ho, h⟩ := Option.bind_eq_some_iff.1 h
        obtain ⟨x, hx, rfl⟩ := Option.map_eq_some_iff.1 h
        refine ⟨da, ⟨by omega, hvendor, hda, ?_⟩, n, mem, ho, exists_readValue_iff.1 ⟨x, hx⟩, rfl,
          by simp only [decide_eq_true_eq]⟩
        intro hu
        by_contra hp
        exact hflags ⟨hu, hp⟩
  · rintro ⟨da, hk, n, mem, ho, htakes, rfl, rfl⟩
    obtain ⟨x, hx⟩ := exists_readValue_iff.2 htakes
    have hwhole := hk.whole
    have hflags : ¬ ((unlike da.M (decide (be v.bs 0 2 / 32768 % 2 = 1)) ∨
        unlike da.H (decide (be v.bs 0 2 / 16384 % 2 = 1))) ∧ ¬ s.permissive) := by
      rintro ⟨hu, hp⟩
      exact hp (hk.flags hu)
    unfold Visit.turn recvAvp
    rw [if_neg (by omega)]
    rw [if_neg (by omega), if_neg (not_not_intro hk.vendor), hk.found]
    dsimp only
    rw [if_neg hflags, ho, Option.bind_some, hx]
    exact ⟨_, _, rfl, rfl, rfl, by simp only [decide_eq_true_eq]⟩

theorem length_payload (h : be v.bs 0 2 % 1024 ≤ v.bs.length) :
    v.payload.length = be v.bs 0 2 % 1024 - 6 := by
  rw [Visit.payload, List.length_take, List.length_drop]
  omega

theorem be_decodeAvp {rv : List UInt8} {id : Nat} {val out : List UInt8}
    (h : decodeAvp s rv id val = some out) :
    2 ≤ val.length ∧
      (val.length ≤ 16 ∧ out = memxor val (firstKey s.md5 id s.secret rv) ∨
        be out 0 2 ≤ val.length - 2) := by
  rw [decodeAvp_eq] at h
  by_cases h2 : val.length < 2
  · rw [if_pos h2] at h
    cases h
  refine ⟨by omega, ?_⟩
  by_cases h16 : val.length ≤ 16
  · simp_all
  have hfirst : (memxor (firstKey s.md5 id s.secret rv) (val.take 16)).length = 16 := by
    rw [length_memxor, length_firstKey, List.length_take]
    omega
  grind [be_append]

theorem Visit.Exceeds.accepted (h : v.Exceeds s) :
    ∃ t a, v.turn s = some t ∧ t.attr = some a ∧ ¬ t.InBounds := by
  obtain ⟨da, rv, hk, hrv, hs, hH, h2, h16, hex, htakes⟩ := h
  have hpay := length_payload hk.whole.2
  have hpdef : (v.bs.drop 6).take (be v.bs 0 2 % 1024 - 6) = v.payload := rfl
  have hdec : decodeAvp s rv (be v.bs 4 2) v.payload =
      some (memxor v.payload (firstKey s.md5 (be v.bs 4 2) s.secret rv)) := by
    unfold decodeAvp
    rw [if_neg (by omega), if_pos (by omega)]
  have ho : original s v.rv (decide (be v.bs 0 2 / 16384 % 2 = 1)) (be v.bs 4 2)
      (be v.bs 0 2 % 1024) v.bs = some ((v.inner s rv + 6) % 65536,
        (memxor v.payload (firstKey s.md5 (be v.bs 4 2) s.secret rv)).drop 2 ++
          (v.bs.drop (be v.bs 0 2 % 1024) ++ s.behind)) := by
    simp [original, hH, hrv, if_neg hs, hpdef, hdec, Visit.inner]
  obtain ⟨t, a, ht, ha, hlen, hroom⟩ := turn_attr_iff.2 ⟨da, hk, _, _, ho, htakes, rfl, rfl⟩
  refine ⟨t, a, ht, ha, ?_⟩
  have hlt : v.inner s rv < 65536 := be_lt _ 2
  rw [Turn.InBounds, hroom, if_pos hH]
  omega

theorem exceeds_of_accepted {t : Turn} {a : Received} (h : v.turn s = some t)
    (ha : t.attr = some a) (hout : ¬ t.InBounds) : v.Exceeds s := by
  obtain ⟨da, hk, n, mem, ho, htakes, hlen, hroom⟩ := turn_attr_iff.1 ⟨t, a, h, ha, rfl, rfl⟩
  have hpay := length_payload hk.whole.2
  rw [Turn.InBounds, hroom] at hout
  by_cases hH : be v.bs 0 2 / 16384 % 2 = 1
  · -- a hidden attribute has a length of its own
    simp only [hH, if_true] at ho hout
    obtain ⟨rv, hrv, ho⟩ := Option.bind_eq_some_iff.1 ho
    by_cases hs : s.secret = []
    · rw [if_pos hs] at ho
      cases ho
    rw [if_neg hs] at ho
    obtain ⟨val, hval, heq⟩ := Option.map_eq_some_iff.1 ho
    obtain ⟨rfl, -⟩ := heq
    obtain ⟨h2, hcase⟩ := be_decodeAvp hval
    have hpdef : (v.bs.drop 6).take (be v.bs 0 2 % 1024 - 6) = v.payload := rfl
    rw [hpdef] at h2 hcase
    rcases hcase with ⟨h16, rfl⟩ | hin
    · refine ⟨da, rv, hk, hrv, hs, hH, h2, h16, ?_, htakes⟩
      rw [Visit.inner]
      omega
    · omega
  · -- the payload is the value
    simp only [hH, decide_false, original, Bool.false_eq_true, if_false, Option.some.injEq,
      Prod.mk.injEq] at ho hout
    have hwhole := hk.whole
    omega

/-- **The attributes accepted of a datagram lie inside their payload** exactly if no hidden one of
at most one block claims to be longer. -/
theorem bounds_iff (s : Side) (bs : List UInt8) :
    (∀ v ∈ visits s bs, ∀ t a, v.turn (s.after bs) = some t → t.attr = some a → t.InBounds) ↔
      ∀ v ∈ visits s bs, ¬ v.Exceeds (s.after bs) := by
  constructor
  · intro h v hv hex
    grind [hex.accepted]
  grind [exceeds_of_accepted]

/-- A Random-Vector of two bytes, and a hidden AVP of no bytes that claims so many. -/
def shortHidden (mandatory id len : Nat) : List UInt8 :=
  [0xc8, 0x02, 0, 28, 0, 0, 0, 0, 0, 0, 0, 0] ++ [0x80, 8, 0, 0, 0, 36, 9, 9] ++
    (toBe 1 (128 * mandatory + 64) ++ [8, 0, 0] ++ toBe 2 id ++ toBe 2 len)

/-- A hidden AVP is accepted with this length although no byte follows. -/
def Overread (bs : List UInt8) (length : Int) : Prop :=
  ∃ v ∈ visits sampleSide bs, ∃ t a, v.turn (sampleSide.after bs) = some t ∧
    t.attr = some a ∧ t.length = length ∧ t.room = 0 ∧ ¬ t.InBounds

theorem overread_of_any {bs : List UInt8} {length : Int} (hlength : length ≠ 0)
    (h : (visits sampleSide bs).any (fun v => (v.turn (sampleSide.after bs)).any fun t =>
      t.attr.isSome && decide (t.length = length ∧ t.room = 0)) = true) : Overread bs length := by
  obtain ⟨v, hv, h⟩ := List.any_eq_true.1 h
  obtain ⟨t, ht, h⟩ := (Option.any_eq_true _ _).1 h
  simp only [Bool.and_eq_true, decide_eq_true_eq] at h
  obtain ⟨hattr, hlen, hroom⟩ := h
  obtain ⟨a, ha⟩ := Option.isSome_iff_exists.1 hattr
  refine ⟨v, hv, t, a, ht, ha, hlen, hroom, ?_⟩
  rw [Turn.InBounds]
  omega

/-- **Values outside their AVP.** A Challenge is accepted with a hundred bytes, and a Vendor Name, a
string, with the length -1. -/
theorem short_hidden_overread :
    Overread (shortHidden 1 11 100) 100 ∧ Overread (shortHidden 0 8 65535) (-1) :=
  ⟨overread_of_any (by decide) (by decide +kernel), overread_of_any (by decide) (by decide +kernel)⟩

/-! ## The attributes of a packet -/

theorem recvAttrs_eq (turns : Nat) (rv : Option (List UInt8)) (bs : List UInt8)
    {attrs : List Received} (h : recvAttrs s turns rv bs = some attrs) :
    attrs = (visitsFrom s turns ⟨rv, bs⟩).filterMap fun v => (v.turn s).bind Turn.attr := by
  induction turns generalizing rv bs attrs with
  | zero =>
    rw [recvAttrs] at h
    split at h
    · cases h
      rfl
    · cases h
  | succ turns ih =>
    rw [recvAttrs] at h
    rw [visitsFrom]
    by_cases hbs : bs = []
    · rw [if_pos hbs] at h ⊢
      cases h
      rfl
    · rw [if_neg hbs] at h ⊢
      obtain ⟨t, ht, h⟩ := Option.bind_eq_some_iff.1 h
      obtain ⟨rest, hrest, rfl⟩ := Option.map_eq_some_iff.1 h
      grind [Visit.turn]

theorem recv_attrs {bs : List UInt8} {p : Packet} (h : recv s bs = some p) :
    p.attrs = (visits s bs).filterMap fun v => (v.turn (s.after bs)).bind Turn.attr := by
  unfold recv at h
  unfold visits
  by_cases h12 : bs.length < 12
  · rw [if_pos h12] at h
    cases h
  rw [if_neg h12] at h
  by_cases hc : controlFlags (be bs 0 2) = false
  · rw [if_pos hc] at h
    cases h
  rw [if_neg hc] at h
  rw [if_neg (not_or_intro h12 hc)]
  by_cases hl : be bs 2 2 < 12 ∨ bs.length < be bs 2 2
  · rw [if_pos hl] at h
    cases h
  rw [if_neg hl] at h ⊢
  obtain ⟨attrs, hattrs, rfl⟩ := Option.map_eq_some_iff.1 h
  exact recvAttrs_eq _ _ _ hattrs

end L2tp.Wire
