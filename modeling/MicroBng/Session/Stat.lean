import MicroBng.Lib.Machine

/-!
# Sessions and their counters

`session.c` keeps `ap_session_stat`: how many sessions are starting, active and finishing, and how
many incoming connections have been admitted and are not yet up, in atomic counters. They are
unsigned in the source and integers here: a counter that is decremented at zero is negative.

* `counters_throughout`: exactly when the counters are right throughout a run
-/

namespace Session

open Machine

/-- `AP_STATE_*`; `fresh` is the zero that `ap_session_init` leaves. -/
inductive State
  | fresh | starting | active | finishing | restore
  deriving DecidableEq

/-- `CTRL_TYPE_*`: those `pppoe_recv_PADR` counts, those of `ctrl/ipoe`, and the others. -/
inductive Ctrl
  | pppoe | ipoe | other
  deriving DecidableEq

structure Stat where
  active : Int
  incoming : Int
  starting : Int
  finishing : Int
  deriving DecidableEq

/-- What counts of `struct ap_session` and `struct ipoe_session`; `linked`: it is in `ses_list`. -/
structure Ses where
  ctrl : Ctrl
  state : State
  linked : Bool
  stopTime : Bool
  terminating : Bool
  terminated : Bool
  finishStarted : Bool
  ipoeStarted : Bool
  ipoeTerminating : Bool

/-- `ap_session_init`, for a connection of the given type. -/
def apSessionInit (c : Ctrl) : Ses where
  ctrl := c
  state := .fresh
  linked := false
  stopTime := false
  terminating := false
  terminated := false
  finishStarted := false
  ipoeStarted := false
  ipoeTerminating := false

/-! ## The functions of `session.c` -/

section Functions

variable (shutdown : Bool) (st : Stat) (s : Ses)

/-- `ap_session_starting`; `shutdown` is `ap_shutdown`. -/
def apSessionStarting : Stat × Ses :=
  if shutdown then (st, s)
  else ({ st with starting := st.starting + 1 },
    { s with state := if s.state = .restore then .restore else .starting, linked := true })

def apSessionActivate : Stat × Ses :=
  if shutdown then (st, s)
  else if s.stopTime then (st, s)
  else ({ st with starting := st.starting - 1, incoming := st.incoming - 1,
                  active := st.active + 1 },
    { s with state := .active })

def ipoeSessionActivate : Stat × Ses :=
  if s.ipoeTerminating || s.ipoeStarted then (st, s)
  else apSessionActivate shutdown
    { st with starting := st.starting + 1, incoming := st.incoming + 1 }
    { s with ipoeStarted := true }

/-- How `ap_session_terminate` moves a session to the finishing ones. -/
def recount : Stat :=
  if s.state = .active then { st with active := st.active - 1, finishing := st.finishing + 1 }
  else { st with starting := st.starting - 1, incoming := st.incoming - 1,
                 finishing := st.finishing + 1 }

/-- `ap_session_terminate`. What `ctrl->terminate` does then is a call of its own. -/
def apSessionTerminate : Stat × Ses :=
  if s.terminated || s.finishStarted then (st, s)
  else if s.terminating then (st, { s with stopTime := true })
  else (recount st s, { s with stopTime := true, terminating := true, state := .finishing })

/-- The `switch` of `ap_session_finished`. -/
def discount : Stat :=
  match s.state with
  | .active => { st with active := st.active - 1 }
  | .restore | .starting => { st with starting := st.starting - 1, incoming := st.incoming - 1 }
  | .finishing => { st with finishing := st.finishing - 1 }
  | .fresh => st

def apSessionFinished : Stat × Ses :=
  if s.finishStarted then (st, s)
  else (discount st s, { s with finishStarted := true, terminated := true, linked := false })

end Functions

/-! ## Any number of sessions -/

/-- The counters, every session ever created, and `ap_shutdown`. -/
structure World where
  stat : Stat
  sessions : List Ses
  shutdown : Bool

def World.init : World := ⟨⟨0, 0, 0, 0⟩, [], false⟩

/-- The calls. `padr`: an admitted request, `create`: another kind of connection, `restored`: by
`backup_restore_session`, `drop`: `disconnect` before it starts, `mark`: what
`ipoe_drop_sessions` sets. -/
inductive Call
  | padr
  | create (c : Ctrl)
  | restored (c : Ctrl)
  | drop (i : Nat)
  | start (i : Nat)
  | activate (i : Nat)
  | ipoeActivate (i : Nat)
  | mark (i : Nat)
  | terminate (i : Nat)
  | finish (i : Nat)
  /-- `ap_shutdown_soft`, or `shutdown cancel` in the CLI. -/
  | shutdown (on : Bool)

def World.add (w : World) (s : Ses) : World := { w with sessions := w.sessions ++ [s] }

/-- Replace the counters and the session of number `i`. -/
def World.put (w : World) (i : Nat) (r : Stat × Ses) : World :=
  { w with stat := r.1, sessions := w.sessions.set i r.2 }

/-- Call a function on session `i`, where the source's callers do. -/
def World.on (w : World) (i : Nat) (callable : Ses → Bool) (f : Ses → Stat × Ses) : Option World :=
  match w.sessions[i]? with
  | none => none
  | some s => if callable s then some (w.put i (f s)) else none

/-- `ap_session_starting` is called once for a session. -/
def Ses.unstarted (s : Ses) : Bool :=
  !s.linked && !s.finishStarted && (s.state = .fresh || s.state = .restore)

/-- `__ppp_layer_started` looks at the state; `__restore_session` activates what it starts. -/
def Ses.activatable (s : Ses) : Bool :=
  s.linked && (s.state = .starting && s.ctrl ≠ .ipoe || s.state = .restore)

/-- PPPoE gives the incoming slot of a connection back. -/
def releaseIncoming (st : Stat) : Stat :=
  if 0 < st.incoming then { st with incoming := st.incoming - 1 } else st

/-- `disconnect` of a connection whose session was never started. -/
def discard (st : Stat) (s : Ses) : Stat × Ses :=
  (if s.ctrl = .pppoe then releaseIncoming st else st,
    { s with finishStarted := true, terminated := true })

def step (w : World) : Call → Option World
  | .padr =>
    let st := { w.stat with incoming := w.stat.incoming + 1 }
    some ({ w with stat := st }.add (apSessionInit .pppoe))
  | .create c => if c = .pppoe then none else some (w.add (apSessionInit c))
  | .restored c => some (w.add { apSessionInit c with state := .restore })
  | .drop i => w.on i (fun s => s.state = .fresh && s.unstarted) (discard w.stat)
  | .start i => w.on i Ses.unstarted (apSessionStarting w.shutdown w.stat)
  | .activate i => w.on i Ses.activatable (apSessionActivate w.shutdown w.stat)
  | .ipoeActivate i => w.on i (fun s => s.ctrl = .ipoe) (ipoeSessionActivate w.shutdown w.stat)
  | .mark i =>
    w.on i (fun s => s.ctrl = .ipoe) fun s => (w.stat, { s with ipoeTerminating := true })
  | .terminate i => w.on i (fun _ => true) (apSessionTerminate w.stat)
  | .finish i => w.on i (fun s => s.linked || s.finishStarted) (apSessionFinished w.stat)
  | .shutdown on => some { w with shutdown := on }

/-! ## What is counted -/

/-- Counted in `starting`, sessions that are being restored included. -/
def Ses.isStarting (s : Ses) : Bool := s.linked && (s.state = .starting || s.state = .restore)

/-- Counted in `active`. -/
def Ses.isActive (s : Ses) : Bool := s.linked && s.state = .active

/-- Counted in `finishing`. -/
def Ses.isFinishing (s : Ses) : Bool := s.linked && s.state = .finishing

/-- The counters are the numbers of sessions in each state, `incoming` not below zero. -/
structure Counted (w : World) : Prop where
  starting : w.stat.starting = w.sessions.countP Ses.isStarting
  active : w.stat.active = w.sessions.countP Ses.isActive
  finishing : w.stat.finishing = w.sessions.countP Ses.isFinishing
  incoming : 0 ≤ w.stat.incoming

/-- The calls that keep the counters right: a slot taken from `incoming` is there, no IPoE session
is activated with effect, and only a session in `ses_list` is terminated. -/
def CountKept (w : World) : Call → Prop
  | .activate i => ∀ s ∈ w.sessions[i]?, w.shutdown = true ∨ s.stopTime = true ∨ 0 < w.stat.incoming
  | .ipoeActivate i => ∀ s ∈ w.sessions[i]?, s.ipoeTerminating = true ∨ s.ipoeStarted = true
  | .terminate i => ∀ s ∈ w.sessions[i]?,
      s.finishStarted = true ∨ s.terminating = true ∨
        s.linked = true ∧ (s.state = .active ∨ 0 < w.stat.incoming)
  | .finish i => ∀ s ∈ w.sessions[i]?,
      s.finishStarted = true ∨ s.state = .active ∨ s.state = .finishing ∨ 0 < w.stat.incoming
  | .padr | .create _ | .restored _ | .drop _ | .start _ | .mark _ | .shutdown _ => True

/-! ## One session -/

/-- The flags and the state of a session fit together. -/
structure Ses.Ok (s : Ses) : Prop where
  terminated : s.terminated = s.finishStarted
  unlinked : s.linked = false → s.finishStarted = false →
    (s.state = .fresh ∨ s.state = .restore) ∧ s.terminating = false
  unfinished : s.linked = true → s.finishStarted = false
  started : s.linked = true → s.state ≠ .fresh
  terminating : s.linked = true → (s.terminating = true ↔ s.state = .finishing)

theorem Ses.Ok.ended {s : Ses} (h : s.Ok) :
    (s.terminated || s.finishStarted) = s.finishStarted := by
  rw [h.terminated, Bool.or_self]

def one (b : Bool) : Int := if b then 1 else 0

/-- The counters change as the state of the session does. -/
structure Balanced (st : Stat) (s : Ses) (r : Stat × Ses) : Prop where
  starting : r.1.starting = st.starting - one s.isStarting + one r.2.isStarting
  active : r.1.active = st.active - one s.isActive + one r.2.isActive
  finishing : r.1.finishing = st.finishing - one s.isFinishing + one r.2.isFinishing
  incoming : 0 ≤ r.1.incoming

section One

variable {shutdown : Bool} {st : Stat} {s : Ses}

section

variable (h : 0 ≤ st.incoming)
include h

theorem Balanced.same {s' : Ses} (hs : s'.isStarting = s.isStarting)
    (ha : s'.isActive = s.isActive) (hf : s'.isFinishing = s.isFinishing) :
    Balanced st s (st, s') := by
  constructor <;> dsimp only
  · rw [hs]; omega
  · rw [ha]; omega
  · rw [hf]; omega
  · exact h

theorem starting_balanced (hu : s.unstarted = true) :
    Balanced st s (apSessionStarting shutdown st s) := by
  unfold apSessionStarting
  split
  · exact .same h rfl rfl rfl
  · simp only [Ses.unstarted, Bool.and_eq_true, Bool.not_eq_true', Bool.or_eq_true,
      decide_eq_true_eq] at hu
    obtain ⟨⟨hl, -⟩, hs | hs⟩ := hu <;> constructor <;>
      simp [one, Ses.isStarting, Ses.isActive, Ses.isFinishing, hl, hs, h]

theorem activate_balanced (ha : s.activatable = true) :
    Balanced st s (apSessionActivate shutdown st s) ↔
      shutdown = true ∨ s.stopTime = true ∨ 0 < st.incoming := by
  unfold apSessionActivate
  split
  · exact iff_of_true (.same h rfl rfl rfl) (.inl ‹_›)
  · split
    · exact iff_of_true (.same h rfl rfl rfl) (.inr (.inl ‹_›))
    · rename_i hd ht
      simp only [Ses.activatable, Bool.and_eq_true, Bool.or_eq_true, decide_eq_true_eq] at ha
      constructor
      · intro hb
        grind [hb.incoming]
      · rintro (hd' | ht' | hi)
        · exact absurd hd' hd
        · exact absurd ht' ht
        · obtain ⟨hl, ⟨hs, -⟩ | hs⟩ := ha <;> constructor <;>
            simp [one, Ses.isStarting, Ses.isActive, Ses.isFinishing, hs] <;> omega

theorem ipoeActivate_balanced (ho : s.Ok) :
    Balanced st s (ipoeSessionActivate shutdown st s) ↔
      s.ipoeTerminating = true ∨ s.ipoeStarted = true := by
  unfold ipoeSessionActivate
  split
  · rename_i he
    simp only [Bool.or_eq_true] at he
    exact iff_of_true (.same h rfl rfl rfl) he
  · rename_i he
    simp only [Bool.or_eq_true] at he
    refine iff_of_false (fun hb => ?_) he
    have h0 := ho.started
    have h1 := hb.starting
    have h2 := hb.active
    have h3 := hb.finishing
    unfold apSessionActivate at h1 h2 h3
    cases hl : s.linked <;> cases hs : s.state <;> cases ht : s.stopTime <;> cases shutdown <;>
      simp [Ses.isStarting, Ses.isActive, Ses.isFinishing, hl, hs, ht] at h0 h1 h2 h3 <;>
      omega

omit h in
theorem recount_finishing : (recount st s).finishing = st.finishing + 1 := by
  unfold recount
  split <;> rfl

theorem terminate_balanced (ho : s.Ok) :
    Balanced st s (apSessionTerminate st s) ↔
      s.finishStarted = true ∨ s.terminating = true ∨
        s.linked = true ∧ (s.state = .active ∨ 0 < st.incoming) := by
  unfold apSessionTerminate
  rw [ho.ended]
  split
  · exact iff_of_true (.same h rfl rfl rfl) (.inl ‹_›)
  · rename_i hf
    split
    · exact iff_of_true (.same h rfl rfl rfl) (.inr (.inl ‹_›))
    · rename_i ht
      rw [or_iff_right hf, or_iff_right ht]
      cases hl : s.linked with
      | false =>
        -- the session is not in the list, but the counters change
        refine iff_of_false (fun hb => ?_) (fun hc => nomatch hc.1)
        have hfin := hb.finishing
        rw [recount_finishing] at hfin
        simp only [Ses.isFinishing, hl, Bool.false_and] at hfin
        omega
      | true =>
        unfold recount
        have hn : s.state ≠ .finishing := fun he => ht ((ho.terminating hl).2 he)
        have hfr := ho.started hl
        cases hs : s.state with
        | fresh => exact absurd hs hfr
        | finishing => exact absurd hs hn
        | active =>
          refine iff_of_true ?_ ⟨rfl, .inl rfl⟩
          constructor <;> simp [one, Ses.isStarting, Ses.isActive, Ses.isFinishing, hl, hs, h]
        | starting | restore =>
          constructor
          · intro hb
            grind [hb.incoming]
          · rintro ⟨-, hc | hi⟩
            · cases hc
            · constructor <;> simp [one, Ses.isStarting, Ses.isActive, Ses.isFinishing, hl, hs]
              omega

theorem finished_balanced (ho : s.Ok) (hl : s.linked = true ∨ s.finishStarted = true) :
    Balanced st s (apSessionFinished st s) ↔
      s.finishStarted = true ∨ s.state = .active ∨ s.state = .finishing ∨ 0 < st.incoming := by
  unfold apSessionFinished
  split
  · exact iff_of_true (.same h rfl rfl rfl) (.inl ‹_›)
  · rename_i hf
    have hl : s.linked = true := hl.resolve_right hf
    rw [or_iff_right hf]
    unfold discount
    cases hs : s.state with
    | fresh => exact absurd hs (ho.started hl)
    | active | finishing =>
      refine iff_of_true ?_ (by simp)
      constructor <;> simp [one, Ses.isStarting, Ses.isActive, Ses.isFinishing, hl, hs, h]
    | starting | restore =>
      constructor
      · intro hb
        grind [hb.incoming]
      · rintro (hc | hc | hi)
        · cases hc
        · cases hc
        · constructor <;> simp [one, Ses.isStarting, Ses.isActive, Ses.isFinishing, hl, hs]
          omega

end

/-! The flags stay in order. -/

theorem apSessionInit_ok (c : Ctrl) : (apSessionInit c).Ok := by
  constructor <;> simp [apSessionInit]

theorem restored_ok (c : Ctrl) : ({ apSessionInit c with state := .restore } : Ses).Ok := by
  constructor <;> simp [apSessionInit]

theorem dropped_ok (hu : s.unstarted = true) :
    ({ s with finishStarted := true, terminated := true } : Ses).Ok := by
  simp only [Ses.unstarted, Bool.and_eq_true, Bool.not_eq_true'] at hu
  have hl := hu.1.1
  constructor <;> simp [hl]

theorem starting_ok (ho : s.Ok) (hu : s.unstarted = true) :
    (apSessionStarting shutdown st s).2.Ok := by
  unfold apSessionStarting
  split
  · exact ho
  · simp only [Ses.unstarted, Bool.and_eq_true, Bool.not_eq_true', Bool.or_eq_true,
      decide_eq_true_eq] at hu
    obtain ⟨⟨hl, hf⟩, hs⟩ := hu
    have ht := (ho.unlinked hl hf).2
    have hte := ho.terminated
    constructor <;> rcases hs with hs | hs <;> simp [hs, hf, ht, hte]

theorem activate_ok (ho : s.Ok) (ha : s.activatable = true) :
    (apSessionActivate shutdown st s).2.Ok := by
  unfold apSessionActivate
  split
  · exact ho
  · split
    · exact ho
    · simp only [Ses.activatable, Bool.and_eq_true] at ha
      obtain ⟨hl, hs⟩ := ha
      have hf := ho.unfinished hl
      have hte := ho.terminated
      have ht : s.terminating = false := by grind [ho.terminating]
      constructor <;> simp [hl, hf, ht, hte]

theorem terminate_ok (ho : s.Ok) (hc : s.finishStarted = true ∨ s.terminating = true ∨
    s.linked = true ∧ (s.state = .active ∨ 0 < st.incoming)) :
    (apSessionTerminate st s).2.Ok := by
  unfold apSessionTerminate
  split
  · exact ho
  · split
    · exact { ho with }
    · have hte := ho.terminated
      constructor <;> simp_all

theorem finished_ok (ho : s.Ok) : (apSessionFinished st s).2.Ok := by
  unfold apSessionFinished
  split
  · exact ho
  · constructor <;> simp

end One

/-! ## All sessions -/

section All

variable {w w' : World} {i : Nat} {s : Ses}

theorem countP_put (p : Ses → Bool) (hs : w.sessions[i]? = some s) (s' : Ses) :
    ((w.sessions.set i s').countP p : Int) = w.sessions.countP p - one (p s) + one (p s') := by
  grind [one]

theorem counted_put (h : Counted w) (hs : w.sessions[i]? = some s) (r : Stat × Ses) :
    Counted (w.put i r) ↔ Balanced w.stat s r := by
  have h1 := h.starting
  have h2 := h.active
  have h3 := h.finishing
  have c1 := countP_put Ses.isStarting hs r.2
  have c2 := countP_put Ses.isActive hs r.2
  have c3 := countP_put Ses.isFinishing hs r.2
  constructor
  · intro hp
    have p1 : r.1.starting = _ := hp.starting
    have p2 : r.1.active = _ := hp.active
    have p3 : r.1.finishing = _ := hp.finishing
    dsimp only [World.put] at p1 p2 p3
    exact ⟨by omega, by omega, by omega, hp.incoming⟩
  · intro hb
    have b1 := hb.starting
    have b2 := hb.active
    have b3 := hb.finishing
    constructor <;> dsimp only [World.put]
    · omega
    · omega
    · omega
    · exact hb.incoming

theorem counted_add (h : Counted w) (hs : s.linked = false) : Counted (w.add s) := by
  have h1 : s.isStarting = false := by simp [Ses.isStarting, hs]
  have h2 : s.isActive = false := by simp [Ses.isActive, hs]
  have h3 : s.isFinishing = false := by simp [Ses.isFinishing, hs]
  constructor
  · simpa [World.add, h1] using h.starting
  · simpa [World.add, h2] using h.active
  · simpa [World.add, h3] using h.finishing
  · exact h.incoming

def Sound (w : World) : Prop := ∀ s ∈ w.sessions, s.Ok

theorem Sound.at (h : Sound w) (hs : w.sessions[i]? = some s) : s.Ok :=
  h s (List.mem_of_getElem? hs)

theorem Sound.put (h : Sound w) {r : Stat × Ses} (hr : r.2.Ok) : Sound (w.put i r) := by
  intro s hs
  rcases List.mem_or_eq_of_mem_set hs with hs | rfl
  · exact h s hs
  · exact hr

theorem Sound.add (h : Sound w) (hs : s.Ok) : Sound (w.add s) := by
  intro s' hs'
  rcases List.mem_append.1 hs' with hs' | hs'
  · exact h s' hs'
  · rw [List.mem_singleton.1 hs']; exact hs

theorem on_some {callable : Ses → Bool} {f : Ses → Stat × Ses} (h : w.on i callable f = some w') :
    ∃ s, w.sessions[i]? = some s ∧ callable s = true ∧ w' = w.put i (f s) := by
  grind [World.on]

theorem discard_balanced {st : Stat} (h : 0 ≤ st.incoming) (hl : s.linked = false) :
    Balanced st s (discard st s) := by
  unfold discard releaseIncoming
  split
  · split <;> constructor <;> simp [Ses.isStarting, Ses.isActive, Ses.isFinishing, hl] <;> omega
  · exact .same h rfl rfl rfl

theorem step_counted (c : Call) (h : Counted w) (hw : Sound w) (hst : step w c = some w') :
    Counted w' ↔ CountKept w c := by
  have hi := h.incoming
  cases c with
  | padr =>
    cases hst
    refine iff_of_true (counted_add ⟨h.starting, h.active, h.finishing, ?_⟩ rfl) trivial
    dsimp only; omega
  | create c =>
    obtain ⟨-, rfl⟩ := of_enabled_unless hst
    exact iff_of_true (counted_add h rfl) trivial
  | restored c => cases hst; exact iff_of_true (counted_add h rfl) trivial
  | drop i =>
    obtain ⟨s, hs, hc, rfl⟩ := on_some hst
    refine iff_of_true ((counted_put h hs _).2 ?_) trivial
    simp_all [Ses.unstarted, discard_balanced]
  | start i =>
    obtain ⟨s, hs, hc, rfl⟩ := on_some hst
    exact iff_of_true ((counted_put h hs _).2 (starting_balanced hi hc)) trivial
  | activate i =>
    obtain ⟨s, hs, hc, rfl⟩ := on_some hst
    rw [counted_put h hs, activate_balanced hi hc]
    simp [CountKept, hs]
  | ipoeActivate i =>
    obtain ⟨s, hs, -, rfl⟩ := on_some hst
    rw [counted_put h hs, ipoeActivate_balanced hi (hw.at hs)]
    simp [CountKept, hs]
  | mark i =>
    obtain ⟨s, hs, -, rfl⟩ := on_some hst
    exact iff_of_true ((counted_put h hs _).2 (.same hi rfl rfl rfl)) trivial
  | terminate i =>
    obtain ⟨s, hs, -, rfl⟩ := on_some hst
    rw [counted_put h hs, terminate_balanced hi (hw.at hs)]
    simp [CountKept, hs]
  | finish i =>
    obtain ⟨s, hs, hc, rfl⟩ := on_some hst
    rw [counted_put h hs, finished_balanced hi (hw.at hs) (by simpa using hc)]
    simp [CountKept, hs]
  | shutdown on => cases hst; exact iff_of_true ⟨h.starting, h.active, h.finishing, hi⟩ trivial

theorem step_sound (c : Call) (hw : Sound w) (hk : CountKept w c) (hst : step w c = some w') :
    Sound w' := by
  cases c with
  | padr => cases hst; exact Sound.add (w := { w with stat := _ }) hw (apSessionInit_ok _)
  | create c =>
    obtain ⟨-, rfl⟩ := of_enabled_unless hst
    exact hw.add (apSessionInit_ok _)
  | restored c => cases hst; exact hw.add (restored_ok _)
  | drop i =>
    obtain ⟨s, hs, hc, rfl⟩ := on_some hst
    simp only [Bool.and_eq_true] at hc
    exact hw.put (dropped_ok hc.2)
  | start i =>
    obtain ⟨s, hs, hc, rfl⟩ := on_some hst
    exact hw.put (starting_ok (hw.at hs) hc)
  | activate i =>
    obtain ⟨s, hs, hc, rfl⟩ := on_some hst
    exact hw.put (activate_ok (hw.at hs) hc)
  | ipoeActivate i =>
    obtain ⟨s, hs, -, rfl⟩ := on_some hst
    refine hw.put ?_
    have := hk s hs
    grind [ipoeSessionActivate, hw.at]
  | mark i =>
    obtain ⟨s, hs, -, rfl⟩ := on_some hst
    exact hw.put { hw.at hs with }
  | terminate i =>
    obtain ⟨s, hs, -, rfl⟩ := on_some hst
    exact hw.put (terminate_ok (hw.at hs) (hk s hs))
  | finish i =>
    obtain ⟨s, hs, hc, rfl⟩ := on_some hst
    exact hw.put (finished_ok (hw.at hs))
  | shutdown on => cases hst; exact hw

end All

/-- **Counters.** `starting`, `active` and `finishing` are the numbers of sessions in these states
and `incoming` is not below zero, if and only if every call meets the condition. -/
theorem counters_throughout (cs : List Call) (w : World) (hr : run step World.init cs = some w) :
    Throughout step Counted World.init cs ↔ Guarded step CountKept World.init cs := by
  refine throughout_iff_guarded_of (J := Sound) (fun w c w' h hw => step_counted c h hw)
    (fun w c w' _ hw => step_sound c hw) ?_ (fun s hs => nomatch hs) hr
  exact ⟨rfl, rfl, rfl, Int.le_refl 0⟩

instance (w : World) (c : Call) : Decidable (CountKept w c) := by
  unfold CountKept
  split <;> infer_instance

/-- Two PPPoE sessions, one that becomes active and is terminated and one that never starts. -/
theorem counters_throughout_pppoe :
    Throughout step Counted World.init
      [.padr, .padr, .start 0, .activate 0, .drop 1, .terminate 0, .finish 0] := by
  obtain ⟨w, hw, -⟩ : ∃ w, run step World.init [.padr, .padr, .start 0, .activate 0, .drop 1,
      .terminate 0, .finish 0] = some w ∧ w.stat = ⟨0, 0, 0, 0⟩ := by decide +kernel
  exact (counters_throughout _ w hw).2 (by decide +kernel)

/-- An active IPoE session is counted as starting for ever, and a PPTP session takes a slot from
`incoming` that was never there. -/
theorem activation_miscounts :
    (∃ w, run step World.init [.create .ipoe, .start 0, .ipoeActivate 0] = some w ∧
      w.stat.starting = 1 ∧ w.sessions.countP Ses.isStarting = 0) ∧
    (∃ w, run step World.init [.create .other, .start 0, .activate 0] = some w ∧
      w.stat.incoming = -1) :=
  ⟨⟨_, rfl, rfl, rfl⟩, ⟨_, rfl, rfl⟩⟩

end Session
