import Mathlib.Data.List.Basic

/-!
# Frames of a stream

A receiver looks at the front of what it has buffered: it may have to wait for more, it may refuse
what it sees, or it finds a complete frame and goes on behind it. `cut` does this to a whole input,
so it says what the frames of a stream are, whichever way the stream arrives.

Principal results: `Consumed`, `Consumed.frames_first`, `Consumed.cut_of_wait`.
-/

namespace Framing

variable {α β : Type*}

/-- The front of an input: too little, something refused, or a frame and what follows. -/
inductive Front (α β : Type*)
  | wait
  | refuse
  | frame (f : β) (rest : List α)

/-- The frames of an input, what is left, and whether it is refused. -/
structure Cut (α β : Type*) where
  frames : List β
  rest : List α
  refused : Bool

def Cut.after (fs : List β) (c : Cut α β) : Cut α β := { c with frames := fs ++ c.frames }

def cutFrom (front : List α → Front α β) : Nat → List α → Cut α β
  | 0, xs => ⟨[], xs, false⟩
  | n + 1, xs =>
    match front xs with
    | .wait => ⟨[], xs, false⟩
    | .refuse => ⟨[], xs, true⟩
    | .frame f rest => (cutFrom front n rest).after [f]

def cut (front : List α → Front α β) (xs : List α) : Cut α β := cutFrom front xs.length xs

/-- A frame takes some input, and neither it nor a refusal depends on what follows. -/
structure Lawful (front : List α → Front α β) : Prop where
  nil : front [] = .wait
  shorter : ∀ {xs f rest}, front xs = .frame f rest → rest.length < xs.length
  frame_append : ∀ {xs f rest}, front xs = .frame f rest →
    ∀ ys, front (xs ++ ys) = .frame f (rest ++ ys)
  refuse_append : ∀ {xs}, front xs = .refuse → ∀ ys, front (xs ++ ys) = .refuse

/-- Frames `fs` have been taken off `xs`, and `ys` is left. -/
inductive Consumed (front : List α → Front α β) : List α → List β → List α → Prop
  | none (xs : List α) : Consumed front xs [] xs
  | next {xs rest ys : List α} {f : β} {fs : List β} : front xs = .frame f rest →
      Consumed front rest fs ys → Consumed front xs (f :: fs) ys

variable {front : List α → Front α β}

variable {xs ys : List α} {fs : List β}

theorem Consumed.one {rest : List α} {f : β} (h : front xs = .frame f rest) :
    Consumed front xs [f] rest :=
  .next h (.none rest)

theorem Consumed.trans {zs : List α} {gs : List β} (h : Consumed front xs fs ys)
    (h' : Consumed front ys gs zs) : Consumed front xs (fs ++ gs) zs := by
  induction h with
  | none xs => exact h'
  | next hf _ ih => exact .next hf (ih h')

theorem Consumed.input_eq {enc : β → List α}
    (henc : ∀ {xs f rest}, front xs = .frame f rest → xs = enc f ++ rest)
    (h : Consumed front xs fs ys) : xs = fs.flatMap enc ++ ys := by
  induction h with
  | none xs => rfl
  | next hf _ ih => grind

variable (hl : Lawful front)

include hl

theorem Consumed.append (h : Consumed front xs fs ys)
    (zs : List α) : Consumed front (xs ++ zs) fs (ys ++ zs) := by
  induction h with
  | none xs => exact .none _
  | next hf _ ih => exact .next (hl.frame_append hf zs) ih

theorem cutFrom_eq (n : Nat) (xs : List α) (h : xs.length ≤ n) : cutFrom front n xs = cut front xs := by
  suffices ∀ m n (xs : List α), xs.length ≤ m → xs.length ≤ n →
      cutFrom front m xs = cutFrom front n xs from this n xs.length xs h (Nat.le_refl _)
  intro m
  induction m with
  | zero =>
    intro n xs hm _
    obtain rfl := List.length_eq_zero_iff.1 (Nat.le_zero.1 hm)
    cases n with
    | zero => rfl
    | succ n => simp only [cutFrom, hl.nil]
  | succ m ih =>
    intro n xs hm hn
    cases n with
    | zero => simp_all [cutFrom, hl.nil]
    | succ n =>
      cases hf : front xs with
      | wait | refuse => simp only [cutFrom, hf]
      | frame f rest =>
        have hlt := hl.shorter hf
        simp only [cutFrom, hf, ih n rest (by omega) (by omega)]

omit hl in
theorem cut_of_wait (h : front xs = .wait) : cut front xs = ⟨[], xs, false⟩ := by
  unfold cut
  cases xs.length with
  | zero => rfl
  | succ n => simp only [cutFrom, h]

theorem cut_of_refuse (h : front xs = .refuse) : cut front xs = ⟨[], xs, true⟩ := by
  cases xs with
  | nil => rw [hl.nil] at h; cases h
  | cons x xs => simp only [cut, List.length_cons, cutFrom, h]

theorem cut_of_frame {rest : List α} {f : β} (h : front xs = .frame f rest) :
    cut front xs = (cut front rest).after [f] := by
  have hlt := hl.shorter h
  cases xs with
  | nil => rw [hl.nil] at h; cases h
  | cons x xs => grind [cutFrom_eq, cut, cutFrom]

theorem Consumed.cut_eq (h : Consumed front xs fs ys) : cut front xs = (cut front ys).after fs := by
  induction h with
  | none xs => rfl
  | next hf _ ih => rw [cut_of_frame hl hf, ih]; rfl

theorem Consumed.frames_first (h : Consumed front xs fs ys) : fs <+: (cut front xs).frames := by
  rw [h.cut_eq hl]
  exact List.prefix_append fs _

theorem Consumed.cut_of_wait (h : Consumed front xs fs ys)
    (hw : front ys = .wait) : cut front xs = ⟨fs, ys, false⟩ := by
  rw [h.cut_eq hl, Framing.cut_of_wait hw]
  simp only [Cut.after, List.append_nil]

theorem consumed_cut (xs : List α) : Consumed front xs (cut front xs).frames (cut front xs).rest := by
  generalize hn : xs.length = n
  induction n using Nat.strongRecOn generalizing xs with
  | ind n ih =>
    cases hf : front xs with
    | wait => rw [Framing.cut_of_wait hf]; exact .none xs
    | refuse => rw [cut_of_refuse hl hf]; exact .none xs
    | frame f rest =>
      rw [cut_of_frame hl hf]
      exact .next hf (ih _ (hn ▸ hl.shorter hf) rest rfl)

theorem frames_append (xs zs : List α) : (cut front xs).frames <+: (cut front (xs ++ zs)).frames :=
  ((consumed_cut hl xs).append hl zs).frames_first hl

end Framing
