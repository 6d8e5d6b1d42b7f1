import Mathlib.Algebra.Group.Nat.Defs
import Mathlib.Data.List.Basic

/-!
# Sets of numbers as bitmaps

A bitmap is a sequence of words of `w` bits. The number `n` is a member when bit `n % w` of word
`n / w` is set.

Principal results: `has_clear`, `has_join`, `lowest_eq_some`, `lowest_eq_none`, `toNat_low`,
`getLsbD_low`.
-/

namespace Bitmap

variable {w : Nat}

/-- The number `n` is a member of the bitmap. -/
def has (m : Nat → BitVec w) (n : Nat) : Bool := (m (n / w)).getLsbD (n % w)

def lowest (x : BitVec w) : Option Nat := (List.range w).find? x.getLsbD

theorem lowest_eq_some {x : BitVec w} {b : Nat} (h : lowest x = some b) :
    b < w ∧ x.getLsbD b = true :=
  ⟨List.mem_range.1 (List.mem_of_find?_eq_some h), List.find?_some h⟩

theorem lowest_eq_none {x : BitVec w} (h : lowest x = none) (b : Nat) : x.getLsbD b = false := by
  by_cases hb : b < w
  · exact Bool.eq_false_iff.2 (List.find?_eq_none.1 h b (List.mem_range.2 hb))
  · exact BitVec.getLsbD_of_ge x b (Nat.not_lt.1 hb)

theorem lowest_of_min {x : BitVec w} {b : Nat} (hb : b < w) (hset : x.getLsbD b = true)
    (hmin : ∀ c, c < b → x.getLsbD c = false) : lowest x = some b := by
  cases h : lowest x with
  | none =>
    rw [lowest_eq_none h b] at hset
    cases hset
  | some c =>
    have hc := (lowest_eq_some h).2
    rcases Nat.lt_trichotomy c b with hlt | heq | hgt
    · rw [hmin c hlt] at hc
      cases hc
    · rw [heq]
    · -- `find?` passed over `b` before it came to `c`.
      obtain ⟨-, as, bs, hrange, hall⟩ := List.find?_eq_some_iff_append.1 h
      have hmem : b ∈ as := by
        have hlen : as.length = c := by
          have hget : (List.range w)[as.length]? = some c := by simp [hrange]
          simpa using (List.getElem?_eq_some_iff.1 hget).2
        have hget : (as ++ c :: bs)[b]? = some b := by
          rw [← hrange]
          simp [hb]
        grind
      have := hall b hmem
      simp [hset] at this

theorem getLsbD_one_shiftLeft {b c : Nat} (hc : c < w) :
    (1#w <<< b).getLsbD c = decide (c = b) := by
  grind

theorem getLsbD_clear (x : BitVec w) (b c : Nat) :
    (x &&& ~~~(1#w <<< b)).getLsbD c = (x.getLsbD c && decide (c ≠ b)) := by
  grind

theorem toNat_low {k : Nat} (hk : k < w) : ((1#w <<< k) - 1#w).toNat = 2 ^ k - 1 := by
  have hlt : 2 ^ k < 2 ^ w := Nat.pow_lt_pow_right (by decide) hk
  have hpos : 0 < 2 ^ k := Nat.two_pow_pos k
  have hone : (1#w).toNat = 1 := Nat.mod_eq_of_lt (by omega)
  have hshift : (1#w <<< k).toNat = 2 ^ k := by
    rw [BitVec.toNat_shiftLeft, Nat.shiftLeft_eq, hone, Nat.one_mul, Nat.mod_eq_of_lt hlt]
  rw [BitVec.toNat_sub_of_le (by rw [BitVec.le_def]; omega), hshift, hone]

theorem getLsbD_low {k : Nat} (hk : k < w) (b : Nat) :
    ((1#w <<< k) - 1#w).getLsbD b = decide (b < k) := by
  rw [BitVec.getLsbD, toNat_low hk, Nat.testBit_two_pow_sub_one]

theorem eq_iff_div_mod {n i b : Nat} (hb : b < w) : n = i * w + b ↔ n / w = i ∧ n % w = b := by
  constructor
  · have hw : 0 < w := Nat.lt_of_le_of_lt (Nat.zero_le _) hb
    simp_all [Nat.mul_comm, Nat.mul_add_div, Nat.mod_eq_of_lt]
  grind [Nat.div_add_mod]

theorem has_clear (m : Nat → BitVec w) {i b : Nat} (hb : b < w) (n : Nat) :
    has (Function.update m i (m i &&& ~~~(1#w <<< b))) n = (has m n && decide (n ≠ i * w + b)) := by
  unfold has
  by_cases hi : n / w = i
  · subst hi
    rw [Function.update_self, getLsbD_clear]
    congr 1
    rw [decide_eq_decide, Ne, Ne, eq_iff_div_mod hb]
    simp
  simp_all [eq_iff_div_mod]

theorem has_join (m : Nat → BitVec w) (i : Nat) (x : BitVec w) (n : Nat) :
    has (Function.update m i (m i ||| x)) n =
      (has m n || (decide (n / w = i) && x.getLsbD (n % w))) := by
  grind [has]

end Bitmap
