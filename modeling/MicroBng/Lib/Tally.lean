import Mathlib.Data.Set.Card

/-!
# Counters that count

`Counts p n` says that `n` is the number of the elements with `p`. The rules move the counter by
one when one element gets the property or loses it; `Counts.move` is for a step that changes one
element in either way.
-/

namespace Tally

variable {α : Type*}

/-- There are `n` elements with `p`. -/
def Counts (p : α → Bool) (n : Int) : Prop := ∃ k : Nat, n = k ∧ {a | p a = true}.encard = k

theorem counts_none : Counts (fun _ : α => false) 0 := ⟨0, rfl, by simp⟩

variable {p : α → Bool} {n : Int} {a : α}

theorem Counts.nonneg (h : Counts p n) : 0 ≤ n := by
  obtain ⟨k, rfl, -⟩ := h
  exact Int.natCast_nonneg k

variable [DecidableEq α]

theorem Counts.set (h : Counts p n) (ha : p a = false) :
    Counts (Function.update p a true) (n + 1) := by
  obtain ⟨k, rfl, hk⟩ := h
  have hset : {b | Function.update p a true b = true} = insert a {b | p b = true} := by
    ext b
    by_cases hb : b = a
    · subst hb
      simp
    · simp [hb]
  have hnot : a ∉ {b | p b = true} := fun hp => nomatch ha.symm.trans hp
  refine ⟨k + 1, rfl, ?_⟩
  rw [hset, Set.encard_insert_of_notMem hnot, hk]
  rfl

theorem Counts.clear (h : Counts p n) (ha : p a = true) :
    Counts (Function.update p a false) (n - 1) := by
  obtain ⟨k, rfl, hk⟩ := h
  have hset : {b | Function.update p a false b = true} = {b | p b = true} \ {a} := by
    ext b
    by_cases hb : b = a
    · subst hb
      simp
    · simp [hb]
  have hone : ({b | p b = true} \ {a}).encard + 1 = (k : ℕ∞) := by
    rw [Set.encard_sdiff_singleton_add_one (show a ∈ {b | p b = true} from ha), hk]
  cases k with
  | zero => simp_all
  | succ k =>
    refine ⟨k, by omega, ?_⟩
    rw [hset]
    simpa using hone

theorem Counts.pos (h : Counts p n) (ha : p a = true) : 0 < n := by
  have := (h.clear ha).nonneg
  omega

def ind (b : Bool) : Int := if b then 1 else 0

theorem Counts.move {p' : α → Bool} {n' : Int} (h : Counts p n)
    (hne : ∀ b, b ≠ a → p' b = p b) (hn : n' = n + ind (p' a) - ind (p a)) : Counts p' n' := by
  have hp : p' = Function.update p a (p' a) := by grind
  grind [Function.update_eq_self, ind, h.set, h.clear]

end Tally
