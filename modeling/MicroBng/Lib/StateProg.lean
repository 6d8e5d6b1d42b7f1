import Mathlib.Logic.Relation

/-!
# Stateful programs as sequences of moves

A program over a state `σ` is a `StateM σ`. What it can do to the state is said by a relation
`Move` of single transitions: `Does Move P m` says that from every state that satisfies `P` the
program `m` performs some sequence of moves. The rules follow the structure of a program, so a
program is taken apart once and every invariant of `Move` carries over to it (`Does.keeps`).
-/

namespace StateProg

open Relation (ReflTransGen)

variable {σ τ α β : Type} {Move : σ → σ → Prop} {P : σ → Prop} {v : σ → τ}

/-! ## Evaluation -/

theorem bind_apply (m : StateM σ α) (f : α → StateM σ β) (s : σ) :
    (m >>= f) s = f (m s).1 (m s).2 := rfl

theorem get_bind_apply (f : σ → StateM σ β) (s : σ) : ((get : StateM σ σ) >>= f) s = f s s := rfl

/-! ## Sequences of moves -/

/-- From every state that satisfies `P`, the program performs a sequence of moves. -/
def Does (Move : σ → σ → Prop) (P : σ → Prop) (m : StateM σ α) : Prop :=
  ∀ s, P s → ReflTransGen Move s (m s).2

abbrev Always (Move : σ → σ → Prop) (m : StateM σ α) : Prop := Does Move (fun _ => True) m

variable {m n : StateM σ α} {f : α → StateM σ β} {c : Prop}

theorem Always.does (h : Always Move m) : Does Move P m :=
  fun s _ => h s trivial

theorem Always.path (h : Always Move m) (s : σ) : ReflTransGen Move s (m s).2 := h s trivial

theorem Does.pure (a : α) : Does Move P (pure a) := fun _ _ => .refl

theorem Does.get : Does Move P (get : StateM σ σ) := fun _ _ => .refl

theorem Does.modify {f : σ → σ} (h : ∀ s, P s → Move s (f s)) :
    Does Move P (modify f : StateM σ PUnit) :=
  fun s hs => .single (h s hs)

theorem Does.bind (hm : Does Move P m)
    (hf : ∀ s, P s → Does Move (· = (m s).2) (f (m s).1)) : Does Move P (m >>= f) :=
  fun s hs => (hm s hs).trans (hf s hs _ rfl)

theorem Always.bind (hm : Always Move m) (hf : ∀ a, Always Move (f a)) : Always Move (m >>= f) :=
  fun s hs => (hm s hs).trans (hf _ _ trivial)

theorem Does.seq (hm : Does Move P m) (hf : ∀ a, Always Move (f a)) : Does Move P (m >>= f) :=
  fun s hs => (hm s hs).trans (hf _ _ trivial)

theorem Does.get_bind {f : σ → StateM σ β} (hf : ∀ s, P s → Does Move (· = s) (f s)) :
    Does Move P (MonadState.get >>= f) :=
  fun s hs => hf s hs s rfl

theorem Does.ite [Decidable c] (hm : c → Does Move P m)
    (hn : ¬c → Does Move P n) : Does Move P (if c then m else n) := by
  split
  · exact hm ‹_›
  · exact hn ‹_›

theorem Always.ite [Decidable c] (hm : Always Move m)
    (hn : Always Move n) : Always Move (if c then m else n) :=
  Does.ite (fun _ => hm) fun _ => hn

/-! ## Frames -/

/-- The program leaves the part `v` of the state alone. -/
def Frame (v : σ → τ) (m : StateM σ α) : Prop := ∀ s, v (m s).2 = v s

theorem Frame.pure (a : α) : Frame v (pure a : StateM σ α) := fun _ => rfl

theorem Frame.get : Frame v (get : StateM σ σ) := fun _ => rfl

theorem Frame.modify {f : σ → σ} (h : ∀ s, v (f s) = v s) : Frame v (modify f : StateM σ PUnit) := h

theorem Frame.bind (hm : Frame v m) (hf : ∀ a, Frame v (f a)) : Frame v (m >>= f) :=
  fun s => (hf _ _).trans (hm s)

theorem Frame.ite [Decidable c] (hm : Frame v m)
    (hn : Frame v n) : Frame v (if c then m else n) := by
  split
  · exact hm
  · exact hn

/-! ## Conditions that a program keeps -/

/-- The program keeps the condition `Q`. -/
def Keeps (Q : σ → Prop) (m : StateM σ α) : Prop := ∀ s, Q s → Q (m s).2

variable {Q : σ → Prop}

theorem Keeps.pure (a : α) : Keeps Q (pure a : StateM σ α) := fun _ h => h

theorem Keeps.modify {f : σ → σ} (h : ∀ s, Q s → Q (f s)) : Keeps Q (modify f : StateM σ PUnit) := h

theorem Keeps.get : Keeps Q (get : StateM σ σ) := fun _ h => h

theorem Keeps.bind (hm : Keeps Q m) (hf : ∀ a, Keeps Q (f a)) : Keeps Q (m >>= f) :=
  fun s h => hf _ _ (hm s h)

theorem Keeps.ite [Decidable c] (hm : Keeps Q m)
    (hn : Keeps Q n) : Keeps Q (if c then m else n) := by
  split
  · exact hm
  · exact hn

theorem Frame.keeps {p : τ → Prop} (h : Frame v m) : Keeps (fun s => p (v s)) m :=
  fun s hs => (congrArg p (h s)).mpr hs

/-- A move that leaves the part `v` of the state alone. -/
structure Still (v : σ → τ) (Move : σ → σ → Prop) (s t : σ) : Prop where
  move : Move s t
  same : v t = v s

theorem Always.moved (h : Always (Still v Move) m) : Does Move P m :=
  fun s _ => (h.path s).lift id fun _ _ => Still.move

theorem Always.frame (h : Always (Still v Move) m) : Frame v m := by
  intro s
  have hpath := h.path s
  generalize (m s).2 = t at hpath ⊢
  induction hpath with
  | refl => rfl
  | tail _ hmove ih => exact hmove.same.trans ih

theorem Does.keeping (hm : Does Move Q m)
    (hk : Keeps Q m) (hf : ∀ a, Does Move Q (f a)) : Does Move Q (m >>= f) :=
  fun s hs => (hm s hs).trans (hf _ _ (hk s hs))

theorem Does.after {p : τ → Prop} (hm : Always (Still v Move) m)
    (hf : ∀ a, Does Move (fun s => p (v s)) (f a)) : Does Move (fun s => p (v s)) (m >>= f) :=
  .keeping hm.moved hm.frame.keeps hf

/-! ## Invariants -/

/-- **Invariant rule**: what every move preserves, the program preserves. -/
theorem path_keeps {I : σ → Prop} (hI : ∀ s t, I s → Move s t → I t) {s t : σ}
    (h : ReflTransGen Move s t) (hs : I s) : I t := by
  induction h with
  | refl => exact hs
  | tail _ hmove ih => exact hI _ _ ih hmove

end StateProg
