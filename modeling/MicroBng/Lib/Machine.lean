import Mathlib.Data.List.Basic

/-!
# Runs of a partial step function

A machine is a partial step function `step : σ → ε → Option σ`: `none` says that the event is
not enabled in the state. `run step s es` performs the events `es` one after the other.

Principal results: `run_invariant`, `run_history`, `Guarded`, `throughout_iff_guarded_of`.
-/

namespace Machine

variable {σ ε : Type*} {step : σ → ε → Option σ}

/-- Perform the events in order; `none` once one is not enabled. -/
def run (step : σ → ε → Option σ) : σ → List ε → Option σ
  | s, [] => some s
  | s, e :: es => (step s e).bind fun s' => run step s' es

variable {s t : σ} {es : List ε} {I : σ → Prop} {C : σ → ε → Prop}

theorem run_cons {e : ε} :
    run step s (e :: es) = some t ↔ ∃ s', step s e = some s' ∧ run step s' es = some t := by
  simp only [run, Option.bind_eq_some_iff]

theorem run_append (s : σ) (es fs : List ε) :
    run step s (es ++ fs) = (run step s es).bind fun t => run step t fs := by
  induction es generalizing s with
  | nil => rfl
  | cons e es ih => simp_all [run, Option.bind_assoc]

theorem of_enabled_if {p : Prop} [Decidable p]
    (h : (if p then some s else none) = some t) : p ∧ s = t := by
  simp_all

theorem of_enabled_unless {p : Prop} [Decidable p]
    (h : (if p then none else some s) = some t) : ¬ p ∧ s = t := by
  simp_all

/-- The run can be performed and its last state passes the test. -/
def endsIn (step : σ → ε → Option σ) (s : σ) (es : List ε) (test : σ → Bool) : Bool :=
  (run step s es).any test

/-- What a run ends in is found by performing it. -/
instance decidableEnds (o : Option σ) (P : σ → Prop) [DecidablePred P] :
    Decidable (∃ t, o = some t ∧ P t) :=
  decidable_of_iff (o.any fun t => decide (P t)) (by simp [Option.any_eq_true])

/-- **Invariant rule**: what every step preserves, every run preserves. -/
theorem run_invariant (hstep : ∀ s e s', I s → step s e = some s' → I s') (hs : I s)
    (hr : run step s es = some t) : I t := by
  induction es generalizing s with
  | nil => cases hr; exact hs
  | cons e es ih =>
    obtain ⟨s', h1, h2⟩ := run_cons.1 hr
    exact ih (hstep s e s' hs h1) h2

/-- **History rule**: what holds of the events so far and the state they have led to. -/
theorem run_history {P : List ε → σ → Prop} {s₀ : σ} (hinit : P [] s₀)
    (hstep : ∀ es s e s', P es s → step s e = some s' → P (es ++ [e]) s')
    (hr : run step s₀ es = some t) : P es t := by
  have hgen : ∀ (es past : List ε) (s : σ), P past s → run step s es = some t → P (past ++ es) t := by
    intro es
    induction es with
    | nil =>
      intro past s hp hr
      cases hr
      rwa [List.append_nil]
    | cons e es ih =>
      intro past s hp hr
      obtain ⟨s', h1, h2⟩ := run_cons.1 hr
      grind
  exact hgen es [] s₀ hinit hr

/-- Every step of the run meets the condition `C` on its start state and its event. -/
def Guarded (step : σ → ε → Option σ) (C : σ → ε → Prop) : σ → List ε → Prop
  | _, [] => True
  | s, e :: es => C s e ∧ ∀ s', step s e = some s' → Guarded step C s' es

/-- **Invariant rule for guarded runs**: a run whose steps all meet the condition preserves `I` if
such a step does. -/
theorem Guarded.invariant
    (hstep : ∀ s e s', I s → C s e → step s e = some s' → I s') (hg : Guarded step C s es) (hs : I s)
    (hr : run step s es = some t) : I t := by
  induction es generalizing s with
  | nil => cases hr; exact hs
  | cons e es ih =>
    obtain ⟨s', h1, h2⟩ := run_cons.1 hr
    exact ih (hg.2 s' h1) (hstep s e s' hs hg.1 h1) h2

/-- Every state of the run, first and last included, satisfies `I`. -/
def Throughout (step : σ → ε → Option σ) (I : σ → Prop) : σ → List ε → Prop
  | s, [] => I s
  | s, e :: es => I s ∧ ∀ s', step s e = some s' → Throughout step I s' es

theorem Throughout.first (h : Throughout step I s es) : I s := by
  cases es with
  | nil => exact h
  | cons e es => exact h.1

theorem Guarded.throughout
    (hstep : ∀ s e s', I s → C s e → step s e = some s' → I s') (hg : Guarded step C s es)
    (hs : I s) : Throughout step I s es := by
  induction es generalizing s with
  | nil => exact hs
  | cons e es ih => exact ⟨hs, fun s' h => ih (hg.2 s' h) (hstep s e s' hs hg.1 h)⟩

theorem Throughout.mono {J : σ → Prop} (hIJ : ∀ s, I s → J s)
    (h : Throughout step I s es) : Throughout step J s es := by
  induction es generalizing s with
  | nil => exact hIJ s h
  | cons e es ih => exact ⟨hIJ s h.1, fun s' hs => ih (h.2 s' hs)⟩

/-- **Exact conditions**: if a step keeps `I` exactly when it meets `C`, then `I` holds throughout a
run exactly when every step meets `C`. -/
theorem throughout_iff_guarded_of {J : σ → Prop}
    (hstep : ∀ s e s', I s → J s → step s e = some s' → (I s' ↔ C s e))
    (hkeep : ∀ s e s', I s → J s → C s e → step s e = some s' → J s') (hs : I s) (hj : J s)
    (hr : run step s es = some t) :
    Throughout step I s es ↔ Guarded step C s es := by
  induction es generalizing s with
  | nil => exact ⟨fun _ => trivial, fun _ => hs⟩
  | cons e es ih =>
    obtain ⟨s', h1, h2⟩ := run_cons.1 hr
    constructor
    · intro ht
      have hs' := ht.2 s' h1
      have hc : C s e := (hstep s e s' hs hj h1).1 hs'.first
      refine ⟨hc, fun u hu => ?_⟩
      grind
    · intro hg
      refine ⟨hs, fun u hu => ?_⟩
      grind [hg.1, hg.2]

theorem throughout_iff_guarded
    (hstep : ∀ s e s', I s → step s e = some s' → (I s' ↔ C s e)) (hs : I s) (hr : run step s es = some t) :
    Throughout step I s es ↔ Guarded step C s es :=
  throughout_iff_guarded_of (fun s e s' h _ => hstep s e s' h) (fun _ _ _ _ _ _ _ => trivial)
    hs trivial hr

theorem Guarded.mono {D : σ → ε → Prop} (h : ∀ s e, C s e → D s e)
    (hg : Guarded step C s es) : Guarded step D s es := by
  induction es generalizing s with
  | nil => trivial
  | cons e es ih => exact ⟨h s e hg.1, fun s' hs => ih (hg.2 s' hs)⟩

theorem Guarded.of_forall (h : ∀ e ∈ es, ∀ s, C s e) (s : σ) : Guarded step C s es := by
  induction es generalizing s with
  | nil => trivial
  | cons e es ih =>
    exact ⟨h e List.mem_cons_self s, fun s' _ => ih (fun e' he => h e' (.tail e he)) s'⟩

instance Guarded.decidable {C : σ → ε → Prop} [∀ s e, Decidable (C s e)] :
    ∀ s es, Decidable (Guarded step C s es)
  | _, [] => isTrue trivial
  | s, e :: es =>
    match h : step s e with
    | none => decidable_of_iff (C s e)
        ⟨fun hc => ⟨hc, fun _ h' => nomatch h.symm.trans h'⟩, fun hg => hg.1⟩
    | some t =>
      have := (Guarded.decidable t es : Decidable (Guarded step C t es))
      decidable_of_iff (C s e ∧ Guarded step C t es)
        ⟨fun hc => ⟨hc.1, fun _ h' => Option.some.inj (h.symm.trans h') ▸ hc.2⟩,
          fun hg => ⟨hg.1, hg.2 t h⟩⟩

end Machine
