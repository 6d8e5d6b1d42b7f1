import Mathlib.Data.List.Nodup
import MicroBng.Lib.Bitmap
import MicroBng.Lib.Machine

/-!
# PPPoE session identifiers

`ctrl/pppoe/pppoe.c` keeps the free session identifiers in the bitmap `sid_map`. `allocate_channel`
takes the lowest free one of the word at `sid_ptr`, moves the pointer on and goes round the words
until it has found one; `disconnect` sets the bit again, with `1 << (sid % 64)`, a shift of an
`int`: the bit 31 comes out as the bits 31 to 63, and a shift by more is not defined.

* `low_bits_kept`: where only identifiers below bit 31 are given back, none is given out twice
-/

namespace Pppoe.Sid

open Machine Bitmap

/-- `SID_MAX / 8 / sizeof(long)`, the number of words of `sid_map`. -/
def sidWords : Nat := 1024

/-- The bitmap, the word of `sid_ptr`, and the identifiers of the live connections. -/
structure Sids where
  sidMap : Nat → BitVec 64
  sidIdx : Nat
  live : List Nat

/-- `pppoe_init`: the first byte is `0xfe` and the last one `0x7f`. -/
def pppoeInit : Sids where
  sidMap i :=
    if i = 0 then 0xfffffffffffffffe#64
    else if i = 1023 then 0x7fffffffffffffff#64
    else 0xffffffffffffffff#64
  sidIdx := 0
  live := []

/-- `sid_ptr` and `sid_idx` move on to the next word. -/
def next (i : Nat) : Nat := if i + 1 = sidWords then 0 else i + 1

/-- The loop of `allocate_channel`, with `conn->sid`, from the word `old` round to it again. -/
def search (old : Nat) : Nat → Sids → Sids × Nat
  | 0, s => (s, 0)
  | n + 1, s =>
    match lowest (s.sidMap s.sidIdx) with
    | some bit =>
      ({ s with
          sidMap := Function.update s.sidMap s.sidIdx (s.sidMap s.sidIdx &&& ~~~(1#64 <<< bit))
          sidIdx := next s.sidIdx },
        s.sidIdx * 64 + bit)
    | none =>
      let s := { s with sidIdx := next s.sidIdx }
      if s.sidIdx = old then (s, 0) else search old n s

/-- `allocate_channel`, as far as the identifier is concerned. -/
def allocateChannel (s : Sids) : Sids × Option Nat :=
  let r := search s.sidIdx sidWords s
  if r.2 = 0 then (r.1, none) else ({ r.1 with live := r.1.live ++ [r.2] }, some r.2)

/-- `1 << n` of type `int`, converted to `unsigned long`; `junk` where the shift is undefined. -/
def shiftOne (n : Nat) (junk : BitVec 64) : BitVec 64 :=
  if n < 32 then (1#32 <<< n).signExtend 64 else junk

/-- The end of `disconnect` for connection `k`. -/
def disconnect (s : Sids) (k : Nat) (sid : Nat) (junk : BitVec 64) : Sids :=
  { s with
    sidMap := Function.update s.sidMap (sid / 64) (s.sidMap (sid / 64) ||| shiftOne (sid % 64) junk)
    live := s.live.eraseIdx k }

/-- A connection is allocated, or live connection `k` is disconnected. -/
inductive Event
  | allocate
  | disconnect (k : Nat) (junk : BitVec 64)

/-- Both run under `sid_lock`. -/
def step (s : Sids) : Event → Option Sids
  | .allocate => some (allocateChannel s).1
  | .disconnect k junk => s.live[k]?.map fun sid => disconnect s k sid junk

/-- The identifiers are used well. 65535 is reserved. -/
structure SidOk (s : Sids) : Prop where
  distinct : s.live.Nodup
  nonzero : 0 ∉ s.live
  bits : ∀ sid, sid < 65536 → (has s.sidMap sid = true ↔ 0 < sid ∧ sid < 65535 ∧ sid ∉ s.live)
  /-- An allocation that finds nothing finds every identifier held. -/
  exhausted : ∀ s', allocateChannel s = (s', none) → ∀ sid, 0 < sid → sid < 65535 → sid ∈ s.live

/-- The identifier of a connection that is disconnected is below the sign bit of its half word. -/
def LowBit (s : Sids) : Event → Prop
  | .allocate => True
  | .disconnect k _ => s.live.getD k 0 % 64 < 31

instance (s : Sids) (e : Event) : Decidable (LowBit s e) := by
  unfold LowBit
  split <;> infer_instance

/-! ## The loop -/

section Loop

variable {s : Sids} {old n : Nat}

theorem next_lt {i : Nat} (h : i < 1024) : next i < 1024 := by
  unfold next sidWords
  split
  · decide
  · omega

theorem next_eq_mod {i : Nat} (h : i < 1024) : next i = (i + 1) % 1024 := by
  unfold next sidWords
  grind

def Took (s : Sids) (r : Sids × Nat) : Prop :=
  ∃ i bit, i < 1024 ∧ lowest (s.sidMap i) = some bit ∧ r.2 = i * 64 + bit ∧
    r.1 = { s with
      sidMap := Function.update s.sidMap i (s.sidMap i &&& ~~~(1#64 <<< bit))
      sidIdx := next i }

/-- The loop comes round without a bit: the next `n` words have none. -/
def Missed (n : Nat) (s : Sids) (r : Sids × Nat) : Prop :=
  r.2 = 0 ∧ (∃ i, i < 1024 ∧ r.1 = { s with sidIdx := i }) ∧
    ∀ j, j < n → lowest (s.sidMap ((s.sidIdx + j) % 1024)) = none

theorem search_spec (hn : n ≤ 1024) (hidx : s.sidIdx < 1024) (hold : (s.sidIdx + n) % 1024 = old) :
    Took s (search old n s) ∨ Missed n s (search old n s) := by
  induction n generalizing s with
  | zero =>
    right
    exact ⟨rfl, ⟨s.sidIdx, hidx, rfl⟩, fun j hj => absurd hj (Nat.not_lt_zero j)⟩
  | succ n ih =>
    have hnext := next_eq_mod hidx
    cases hbit : lowest (s.sidMap s.sidIdx) with
    | some bit =>
      left
      refine ⟨s.sidIdx, bit, hidx, hbit, ?_⟩
      simp [search, hbit]
    | none =>
      have hcons : ∀ j, j < n + 1 →
          (∀ j, j < n → lowest (s.sidMap ((next s.sidIdx + j) % 1024)) = none) →
          lowest (s.sidMap ((s.sidIdx + j) % 1024)) = none := by
        intro j hj hall
        cases j with
        | zero => rw [Nat.add_zero, Nat.mod_eq_of_lt hidx, hbit]
        | succ j => grind
      by_cases hround : next s.sidIdx = old
      · -- Back at the first word: no word is left.
        right
        refine ⟨?_, ⟨next s.sidIdx, next_lt hidx, ?_⟩, fun j hj => hcons j hj (by omega)⟩
        · simp [search, hbit, hround]
        · simp [search, hbit, hround]
      · have heq : search old (n + 1) s = search old n { s with sidIdx := next s.sidIdx } := by
          simp [search, hbit, hround]
        rw [heq]
        have hold' : (next s.sidIdx + n) % 1024 = old := by omega
        rcases ih (s := { s with sidIdx := next s.sidIdx }) (by omega) (next_lt hidx) hold' with
          ⟨i, bit, hi, hlow, hr2, hr1⟩ | ⟨hr2, ⟨i, hi, hr1⟩, hall⟩
        · exact .inl ⟨i, bit, hi, hlow, hr2, hr1⟩
        · exact .inr ⟨hr2, ⟨i, hi, hr1⟩, fun j hj => hcons j hj hall⟩

theorem search_all (hidx : s.sidIdx < 1024) :
    Took s (search s.sidIdx sidWords s) ∨ Missed 1024 s (search s.sidIdx sidWords s) :=
  search_spec (Nat.le_refl _) hidx (by unfold sidWords; omega)

end Loop

/-! ## The invariant -/

structure Inv (s : Sids) : Prop where
  idx : s.sidIdx < 1024
  distinct : s.live.Nodup
  range : ∀ sid ∈ s.live, 0 < sid ∧ sid < 65535
  bits : ∀ sid, sid < 65536 → (has s.sidMap sid = true ↔ 0 < sid ∧ sid < 65535 ∧ sid ∉ s.live)

section Invariant

variable {s s' : Sids}

theorem init_inv : Inv pppoeInit where
  idx := by decide
  distinct := List.nodup_nil
  range sid h := by cases h
  bits sid hlt := by
    -- In the first and the last word the one bit that is not set is compared with the others.
    have hfirst : ∀ b, b < 64 → ((0xfffffffffffffffe#64).getLsbD b = true ↔ 0 < b) := by decide
    have hlast : ∀ b, b < 64 → ((0x7fffffffffffffff#64).getLsbD b = true ↔ b < 63) := by decide
    have hfull : ∀ b, b < 64 → (0xffffffffffffffff#64).getLsbD b = true := by decide
    simp only [has, pppoeInit]
    grind

variable (hi : Inv s)
include hi

theorem Inv.free_of_lowest {i bit : Nat} (hlt : i < 1024) (hbit : lowest (s.sidMap i) = some bit) :
    bit < 64 ∧ 0 < i * 64 + bit ∧ i * 64 + bit < 65535 ∧ i * 64 + bit ∉ s.live := by
  obtain ⟨hb, hset⟩ := lowest_eq_some hbit
  refine ⟨hb, (hi.bits _ (by omega)).1 ?_⟩
  grind [has]

theorem Inv.allocate_cases :
    (∃ i bit, bit < 64 ∧ i < 1024 ∧ 0 < i * 64 + bit ∧ i * 64 + bit < 65535 ∧
      i * 64 + bit ∉ s.live ∧
      allocateChannel s =
        (⟨Function.update s.sidMap i (s.sidMap i &&& ~~~(1#64 <<< bit)), next i,
          s.live ++ [i * 64 + bit]⟩, some (i * 64 + bit))) ∨
    (∃ i, i < 1024 ∧ allocateChannel s = ({ s with sidIdx := i }, none)) ∧
      ∀ sid, 0 < sid → sid < 65535 → sid ∈ s.live := by
  rcases search_all hi.idx with ⟨i, bit, hlt, hbit, hr2, hr1⟩ | ⟨hr2, ⟨i, hlt, hr1⟩, hall⟩
  · obtain ⟨hb, hpos, hmax, hfree⟩ := hi.free_of_lowest hlt hbit
    grind [allocateChannel]
  · right
    refine ⟨⟨i, hlt, ?_⟩, fun sid hpos hmax => ?_⟩
    · simp only [allocateChannel, hr1, hr2, if_true]
    · -- The word of the identifier was looked at and has no bit.
      by_contra hfree
      have hset := (hi.bits sid (by omega)).2 ⟨hpos, hmax, hfree⟩
      have hidx := hi.idx
      have hword : (s.sidIdx + (sid / 64 + 1024 - s.sidIdx) % 1024) % 1024 = sid / 64 := by omega
      have hnone := hall ((sid / 64 + 1024 - s.sidIdx) % 1024) (Nat.mod_lt _ (by decide))
      simp_all [has, lowest_eq_none]

theorem Inv.allocate : Inv (allocateChannel s).1 := by
  rcases hi.allocate_cases with ⟨i, bit, hb, hlt, hpos, hmax, hfree, heq⟩ | ⟨⟨i, hlt, heq⟩, -⟩
  · rw [heq]
    constructor
    case idx => exact next_lt hlt
    case distinct => simp_all [List.Nodup.append, hi.distinct]
    case range =>
      intro sid hsid
      rcases List.mem_append.1 hsid with h | h
      · exact hi.range sid h
      simp_all
    case bits =>
      intro sid hsid
      rw [has_clear _ hb, Bool.and_eq_true, hi.bits sid hsid, decide_eq_true_eq, List.mem_append,
        List.mem_singleton, not_or, and_assoc, and_assoc]
  · rw [heq]
    exact { hi with idx := hlt }

omit hi in
theorem shiftOne_low {n : Nat} (h : n < 31) (junk : BitVec 64) : shiftOne n junk = 1#64 <<< n := by
  have hall : ∀ n, n < 31 → (1#32 <<< n).signExtend 64 = 1#64 <<< n := by decide
  rw [shiftOne, if_pos (by omega), hall n h]

theorem Inv.disconnect {k sid : Nat} (hk : s.live[k]? = some sid)
    (hlow : sid % 64 < 31) (junk : BitVec 64) : Inv (disconnect s k sid junk) := by
  obtain ⟨hlen, hget⟩ := List.getElem?_eq_some_iff.1 hk
  have hmem : sid ∈ s.live := List.mem_of_getElem? hk
  have herase : s.live.eraseIdx k = s.live.erase sid := by
    rw [← hget]
    exact (hi.distinct.erase_getElem k hlen).symm
  have hlive : ∀ n, n ∈ s.live.eraseIdx k ↔ n ≠ sid ∧ n ∈ s.live := by
    intro n
    rw [herase]
    exact hi.distinct.mem_erase_iff
  constructor
  case idx => exact hi.idx
  case distinct =>
    show (s.live.eraseIdx k).Nodup
    rw [herase]
    exact hi.distinct.erase sid
  case range => exact fun n hn => hi.range n ((hlive n).1 hn).2
  case bits =>
    intro n hn
    obtain ⟨hpos, hmax⟩ := hi.range sid hmem
    have hbit : (decide (n / 64 = sid / 64) && (shiftOne (sid % 64) junk).getLsbD (n % 64)) =
        decide (n = sid) := by
      rw [shiftOne_low hlow, getLsbD_one_shiftLeft (Nat.mod_lt _ (by decide)), ← Bool.decide_and,
        decide_eq_decide]
      omega
    show has (Function.update _ _ _) n = true ↔ _ ∧ _ ∧ n ∉ s.live.eraseIdx k
    rw [has_join, Bool.or_eq_true, hi.bits n hn]
    grind

theorem step_inv {e : Event} (hc : LowBit s e) (h : step s e = some s') : Inv s' := by
  cases e with
  | allocate =>
    cases h
    exact hi.allocate
  | disconnect k junk =>
    obtain ⟨sid, hk, rfl⟩ := Option.map_eq_some_iff.1 h
    simp_all [LowBit, hi.disconnect]

theorem Inv.sidOk : SidOk s where
  distinct := hi.distinct
  nonzero h := Nat.lt_irrefl 0 (hi.range 0 h).1
  bits := hi.bits
  exhausted s' h := by grind [hi.allocate_cases]

end Invariant

/-- **The identifiers are used well** if only identifiers below the sign bit are given back. -/
theorem low_bits_kept (es : List Event) (hg : Guarded step LowBit pppoeInit es) :
    Throughout step SidOk pppoeInit es :=
  (hg.throughout (fun _ _ _ hi hc h => step_inv hi hc h) init_inv).mono fun _ hi => hi.sidOk

theorem low_bits_kept_reused :
    Guarded step LowBit pppoeInit [.allocate, .allocate, .disconnect 0 0, .allocate] ∧
      Throughout step SidOk pppoeInit [.allocate, .allocate, .disconnect 0 0, .allocate] :=
  have hg : Guarded step LowBit pppoeInit [.allocate, .allocate, .disconnect 0 0, .allocate] := by
    decide +kernel
  ⟨hg, low_bits_kept _ hg⟩

/-! ## A connection that gives back the sign bit -/

/-- The number of bits of word `i` in use after `n` allocations; bit 0 of word 0 always is. -/
def used (n i : Nat) : Nat := (n + 1023 - i) / 1024 + if i = 0 then 1 else 0

/-- The identifier of allocation `m`, if none is given back. -/
def sidOf (m : Nat) : Nat := m % 1024 * 64 + used m (m % 1024)

/-- After `n` allocations and no disconnect; the last bit of the words is left out. -/
structure Drained (n : Nat) (s : Sids) : Prop where
  idx : s.sidIdx = n % 1024
  bits : ∀ i, i < 1024 → ∀ b, b < 63 → (s.sidMap i).getLsbD b = decide (used n i ≤ b)
  live : s.live = (List.range n).map sidOf

theorem init_drained : Drained 0 pppoeInit where
  idx := rfl
  live := rfl
  bits i hi b hb := by
    have hfirst : ∀ b, b < 63 → (0xfffffffffffffffe#64).getLsbD b = decide (1 ≤ b) := by decide
    have hlast : ∀ b, b < 63 → (0x7fffffffffffffff#64).getLsbD b = true := by decide
    have hfull : ∀ b, b < 63 → (0xffffffffffffffff#64).getLsbD b = true := by decide
    by_cases h0 : i = 0
    · subst h0
      simp only [pppoeInit, if_true]
      rw [hfirst b hb]
      rfl
    · have hused : used 0 i = 0 := by
        unfold used
        rw [if_neg h0]
        omega
      simp only [pppoeInit, if_neg h0, hused]
      split
      · exact hlast b hb
      · exact hfull b hb

variable {n : Nat} {s : Sids}

theorem used_succ {i : Nat} (hi : i < 1024) :
    used (n + 1) i = used n i + if n % 1024 = i then 1 else 0 := by
  grind [used]

theorem Drained.allocate (h : Drained n s) (hn : n < 62 * 1024) :
    Drained (n + 1) (allocateChannel s).1 := by
  have hidx : n % 1024 < 1024 := Nat.mod_lt _ (by decide)
  have hused : used n (n % 1024) < 63 := by
    unfold used
    split <;> omega
  have hlow : lowest (s.sidMap (n % 1024)) = some (used n (n % 1024)) := by
    refine lowest_of_min (by omega) ?_ fun c hc => ?_
    · rw [h.bits _ hidx _ hused]
      exact decide_eq_true (Nat.le_refl _)
    · rw [h.bits _ hidx _ (by omega)]
      exact decide_eq_false (by omega)
  have hsid : n % 1024 * 64 + used n (n % 1024) ≠ 0 := by
    unfold used
    split <;> omega
  have halloc : (allocateChannel s).1 =
      ⟨Function.update s.sidMap (n % 1024)
        (s.sidMap (n % 1024) &&& ~~~(1#64 <<< used n (n % 1024))), next (n % 1024),
        s.live ++ [sidOf n]⟩ := by
    simp only [allocateChannel, search, sidWords, h.idx, hlow, if_neg hsid, sidOf]
  rw [halloc]
  constructor
  case idx => simp_all [next_eq_mod]
  case live => simp [h.live, List.range_succ]
  case bits =>
    intro i hi b hb
    rw [used_succ hi]
    by_cases hin : n % 1024 = i
    · subst hin
      rw [if_pos rfl]
      simp only [Function.update_self, getLsbD_clear, h.bits _ hi _ hb]
      rw [← Bool.decide_and, decide_eq_decide]
      omega
    simp_all [Ne.symm, h.bits]

theorem drained_run (hn : n ≤ 62 * 1024) :
    ∃ s, run step pppoeInit (List.replicate n .allocate) = some s ∧ Drained n s := by
  induction n with
  | zero => exact ⟨pppoeInit, rfl, init_drained⟩
  | succ n ih =>
    obtain ⟨s, hr, hs⟩ := ih (by omega)
    refine ⟨(allocateChannel s).1, ?_, hs.allocate (by omega)⟩
    rw [List.replicate_succ', run_append, hr]
    rfl

theorem Drained.getElem? (h : Drained n s) {m : Nat} (hm : m < n) :
    s.live[m]? = some (sidOf m) := by
  rw [h.live, List.getElem?_map, List.getElem?_range hm]
  rfl

theorem run_disconnect {es : List Event} {k sid : Nat} (junk : BitVec 64)
    (hr : run step pppoeInit es = some s) (hk : s.live[k]? = some sid) :
    run step pppoeInit (es ++ [.disconnect k junk]) = some (disconnect s k sid junk) := by
  simp_all [run_append, run, step]

theorem Drained.sign_bit (h : Drained n s) (hn : 31744 < n) (junk : BitVec 64) :
    32 ∈ (disconnect s 30720 31 junk).live ∧ has (disconnect s 30720 31 junk).sidMap 32 = true := by
  constructor
  · exact List.mem_eraseIdx_iff_getElem?.2 ⟨31744, by decide, h.getElem? hn⟩
  · show has (Function.update _ _ _) 32 = true
    rw [has_join]
    have hsign : (shiftOne (31 % 64) junk).getLsbD (32 % 64) = true := by
      rw [shiftOne, if_pos (by decide)]
      decide
    rw [hsign]
    exact Bool.or_true _

/-- **The sign bit**: after 31745 allocations identifier 31 is given back, and the bit of 32 is set
although its connection is live. -/
theorem sign_bit_frees_others :
    ∃ s, run step pppoeInit (List.replicate 31745 .allocate ++ [.disconnect 30720 0]) = some s ∧
      32 ∈ s.live ∧ has s.sidMap 32 = true ∧ ¬ SidOk s := by
  obtain ⟨s, hr, hs⟩ := drained_run (n := 31745) (by decide)
  obtain ⟨h32, hset⟩ := hs.sign_bit (by decide) 0
  refine ⟨_, run_disconnect 0 hr (hs.getElem? (by decide)), h32, hset, fun hok => ?_⟩
  exact ((hok.bits 32 (by decide)).1 hset).2.2 h32

end Pppoe.Sid
