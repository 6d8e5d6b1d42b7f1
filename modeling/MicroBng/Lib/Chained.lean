import Mathlib.Data.List.Nodup

/-!
# Chained hash tables

A table has a chain of entries for every index; `idx` gives the index of a key. The keys of a chain
differ. An insertion under a key that is present leaves the entry that is there.

The lemmas `get_insert` and `get_free` describe the table as a partial map, whatever the function
`idx` is.
-/

/-- A table with keys `κ` and data `ν`. -/
structure Chained (κ ν : Type*) where
  nodes : Nat → List (κ × ν)
  distinct : ∀ i, ((nodes i).map Prod.fst).Nodup

namespace Chained

variable {κ ν : Type*} [DecidableEq κ] (idx : κ → Nat)

def empty : Chained κ ν := ⟨fun _ => [], fun _ => List.nodup_nil⟩

/-- The entry with key `k` in a chain. -/
def find (k : κ) (chain : List (κ × ν)) : Option ν :=
  (chain.find? fun node => node.1 = k).map Prod.snd

def get (t : Chained κ ν) (k : κ) : Option ν := find k (t.nodes (idx k))

theorem find_eq_none {k : κ} {chain : List (κ × ν)} :
    find k chain = none ↔ k ∉ chain.map Prod.fst := by
  rw [find, Option.map_eq_none_iff, List.find?_eq_none]
  constructor
  · intro h hk
    obtain ⟨node, hmem, hkey⟩ := List.mem_map.1 hk
    exact h node hmem (decide_eq_true hkey)
  · intro h node hmem hkey
    exact h (List.mem_map.2 ⟨node, hmem, of_decide_eq_true hkey⟩)

theorem find_cons (k : κ) (node : κ × ν) (chain : List (κ × ν)) :
    find k (node :: chain) = if node.1 = k then some node.2 else find k chain := by
  grind [find]

/-- Put an entry in front of its chain, unless the key is there. -/
def insert (t : Chained κ ν) (k : κ) (v : ν) : Chained κ ν :=
  if h : k ∈ (t.nodes (idx k)).map Prod.fst then t
  else
    { nodes := Function.update t.nodes (idx k) ((k, v) :: t.nodes (idx k))
      distinct := by grind [t.distinct] }

def free (t : Chained κ ν) (k : κ) : Chained κ ν where
  nodes := Function.update t.nodes (idx k) ((t.nodes (idx k)).eraseP fun node => node.1 = k)
  distinct i := by
    by_cases hi : i = idx k
    · subst hi
      rw [Function.update_self]
      exact (t.distinct _).sublist (List.eraseP_sublist.map Prod.fst)
    · rw [Function.update_of_ne hi]
      exact t.distinct i

theorem find_eraseP_of_ne {k j : κ} (h : j ≠ k) (chain : List (κ × ν)) :
    find j (chain.eraseP fun node => node.1 = k) = find j chain := by
  induction chain with
  | nil => rfl
  | cons node chain ih => grind [find_cons]

theorem find_eraseP_self {k : κ} {chain : List (κ × ν)} (hd : (chain.map Prod.fst).Nodup) :
    find k (chain.eraseP fun node => node.1 = k) = none := by
  induction chain with
  | nil => rfl
  | cons node chain ih => grind [find_eq_none]

@[simp] theorem get_empty (k : κ) : get idx (empty : Chained κ ν) k = none := rfl

theorem insert_of_get {t : Chained κ ν} {k : κ} {v w : ν} (h : get idx t k = some w) :
    insert idx t k v = t := by
  have hmem : k ∈ (t.nodes (idx k)).map Prod.fst := by
    by_contra hnot
    rw [get, find_eq_none.2 hnot] at h
    cases h
  rw [insert, dif_pos hmem]

theorem get_insert {t : Chained κ ν} {k : κ} (h : get idx t k = none) (v : ν) (j : κ) :
    get idx (insert idx t k v) j = if j = k then some v else get idx t j := by
  rw [insert, dif_neg (find_eq_none.1 h)]
  grind [get, find_cons]

theorem get_free (t : Chained κ ν) (k j : κ) :
    get idx (free idx t k) j = if j = k then none else get idx t j := by
  unfold get free
  by_cases hj : j = k
  · simp_all [find_eraseP_self, t.distinct]
  · rw [if_neg hj]
    by_cases hi : idx j = idx k
    · simp only [hi, Function.update_self]
      exact find_eraseP_of_ne hj _
    · simp only [Function.update_of_ne hi]

end Chained
