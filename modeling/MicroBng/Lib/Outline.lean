import Mathlib.Data.List.Basic

/-!
# Outlines

A forest can be written down as the list of its nodes, each one before what lies inside it, with the
depth of every node. `inside` finds what lies inside a node again: the nodes behind it that are
deeper.

Principal results: `Forest`, `Forest.inside_append`, `Forest.snoc`.
-/

namespace Outline

variable {α : Type*} {depth : α → Nat}

/-- The nodes of a list up to the first one that is not deeper. -/
def inside (depth : α → Nat) (d : Nat) (xs : List α) : List α := xs.takeWhile fun x => d < depth x

/-- The outline of a forest with its roots at a depth. -/
inductive Forest (depth : α → Nat) : Nat → List α → Prop
  | nil (d : Nat) : Forest depth d []
  | node {d : Nat} {x : α} {inner rest : List α} : depth x = d → Forest depth (d + 1) inner →
      Forest depth d rest → Forest depth d (x :: (inner ++ rest))

@[simp] theorem inside_nil (d : Nat) : inside depth d [] = [] := rfl

variable {d : Nat} {x : α} {xs : List α}

theorem inside_cons_of_lt (h : d < depth x) (xs : List α) :
    inside depth d (x :: xs) = x :: inside depth d xs := by
  simp [inside, h]

theorem inside_cons_of_le (h : depth x ≤ d) (xs : List α) : inside depth d (x :: xs) = [] := by
  have hd : ¬ d < depth x := by omega
  simp [inside, hd]

theorem inside_eq_self (h : ∀ x ∈ xs, d < depth x) : inside depth d xs = xs := by
  induction xs with
  | nil => rfl
  | cons x xs ih => simp_all [inside_cons_of_lt]

theorem inside_snoc (d : Nat) (xs : List α) (x : α) :
    inside depth d (xs ++ [x]) =
      inside depth d xs ++ if (∀ y ∈ xs, d < depth y) ∧ d < depth x then [x] else [] := by
  induction xs with
  | nil =>
    by_cases h : d < depth x
    · simp [inside_cons_of_lt h, h]
    · simp [inside_cons_of_le (Nat.le_of_not_lt h), h]
  | cons y xs ih =>
    by_cases h : d < depth y
    · simp [inside_cons_of_lt h, ih, h]
    · simp [inside_cons_of_le (Nat.le_of_not_lt h), h]

theorem Forest.inside_eq_nil (h : Forest depth d xs) {k : Nat}
    (hk : d ≤ k) : inside depth k xs = [] := by
  cases h with
  | nil => rfl
  | node hx _ _ => exact inside_cons_of_le (hx ▸ hk) _

theorem Forest.inside_append_right {ys : List α} (h : Forest depth d ys) {k : Nat}
    (hk : d ≤ k) (xs : List α) : inside depth k (xs ++ ys) = inside depth k xs := by
  induction xs with
  | nil => exact h.inside_eq_nil hk
  | cons x xs ih => grind [inside_cons_of_lt, inside_cons_of_le]

theorem Forest.le_depth (h : Forest depth d xs) : ∀ x ∈ xs, d ≤ depth x := by
  induction h with
  | nil => simp
  | node hx _ _ ihi ihr => grind

theorem Forest.inside_append {inner rest : List α} (hi : Forest depth (d + 1) inner)
    (hr : Forest depth d rest) : inside depth d (inner ++ rest) = inner := by
  rw [hr.inside_append_right (Nat.le_refl d)]
  exact inside_eq_self fun x hx => hi.le_depth x hx

theorem Forest.snoc (h : Forest depth d xs) (hd : d ≤ depth x)
    (hlast : depth x ≤ (xs.getLast?.map fun y => depth y + 1).getD d) :
    Forest depth d (xs ++ [x]) := by
  induction h with
  | nil d =>
    have hx : depth x = d := Nat.le_antisymm hlast hd
    exact .node hx (.nil _) (.nil _)
  | @node d y inner rest hy hi hr ihi ihr =>
    by_cases hrest : rest = []
    · subst hrest
      by_cases hx : depth x = d
      · have hone : Forest depth d [x] := .node hx (.nil _) (.nil _)
        rw [List.append_nil]
        exact .node hy hi hone
      · have hin : Forest depth (d + 1) (inner ++ [x]) := by grind
        have h := Forest.node hy hin (.nil d)
        rwa [List.append_nil] at h ⊢
    · have hr' : Forest depth d (rest ++ [x]) := by simp_all [List.getLast?_eq_some_getLast]
      rw [List.cons_append, List.append_assoc]
      exact .node hy hi hr'

end Outline
