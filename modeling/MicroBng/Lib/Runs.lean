import Mathlib.Data.List.TakeWhile

/-!
# Longest runs

A text begins with a longest run of characters of a class; `strspn` gives its length. A piece of
the class in front of something that does not go on with it is that run.
-/

namespace Runs

variable {α : Type*} {p : α → Bool} {t rest s : List α}

def All (p : α → Bool) (t : List α) : Prop := ∀ c ∈ t, p c = true

def Stops (p : α → Bool) (rest : List α) : Prop := ∀ c ∈ rest.head?, p c = false

@[simp]
theorem stops_nil : Stops p [] := by simp [Stops]

@[simp]
theorem stops_cons {c : α} : Stops p (c :: rest) ↔ p c = false := by simp [Stops]

theorem takeWhile_run (ht : All p t) (hr : Stops p rest) : (t ++ rest).takeWhile p = t := by
  rw [List.takeWhile_append_of_pos ht]
  cases rest with
  | nil => simp
  | cons c rest => simp [stops_cons.1 hr]

theorem dropWhile_run (ht : All p t) (hr : Stops p rest) : (t ++ rest).dropWhile p = rest := by
  rw [List.dropWhile_append_of_pos ht]
  cases rest with
  | nil => simp
  | cons c rest => simp [stops_cons.1 hr]

theorem all_takeWhile (p : α → Bool) (s : List α) : All p (s.takeWhile p) :=
  fun _ hc => List.mem_takeWhile_imp hc

theorem stops_dropWhile (p : α → Bool) (s : List α) : Stops p (s.dropWhile p) := by
  induction s with
  | nil => exact stops_nil
  | cons c s ih =>
    rw [List.dropWhile_cons]
    split
    case isTrue => exact ih
    case isFalse h => exact stops_cons.2 (by simpa using h)

theorem drop_length_takeWhile (p : α → Bool) (s : List α) :
    s.drop (s.takeWhile p).length = s.dropWhile p := by
  induction s with
  | nil => rfl
  | cons c s ih => by_cases h : p c = true <;> simp [h, ih]

theorem stops_of_all {q : α → Bool} (hpq : ∀ c, p c = true → q c = false) (hne : t ≠ [])
    (ht : All p t) : Stops q (t ++ rest) := by
  cases t with
  | nil => exact absurd rfl hne
  | cons c t => exact stops_cons.2 (hpq c (ht c List.mem_cons_self))

theorem All.stops {q : α → Bool} (hpq : ∀ c, p c = true → q c = false) (ht : All p t) :
    Stops q t := by
  cases t with
  | nil => exact stops_nil
  | cons c t => exact stops_cons.2 (hpq c (ht c List.mem_cons_self))

theorem all_append_iff (ht : All p t) (hr : Stops p rest) : All p (t ++ rest) ↔ rest = [] := by
  constructor
  · intro h
    cases rest with
    | nil => rfl
    | cons c rest => exact absurd (h c (by simp)) (by simp [stops_cons.1 hr])
  · rintro rfl
    simpa using ht

theorem run_unique {t' rest' : List α} (h : t ++ rest = t' ++ rest') (ht : All p t)
    (hr : Stops p rest) (ht' : All p t') (hr' : Stops p rest') : t = t' ∧ rest = rest' := by
  have htake := takeWhile_run ht hr
  have hdrop := dropWhile_run ht hr
  rw [h, takeWhile_run ht' hr'] at htake
  rw [h, dropWhile_run ht' hr'] at hdrop
  exact ⟨htake.symm, hdrop.symm⟩

end Runs
