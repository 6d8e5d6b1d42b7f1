import MicroBng.Lib.Machine
import MicroBng.Ppp.Fsm

/-!
# The automaton under its own events

Runs of `ppp/ppp_fsm.c` in which any of its events comes at any time. The layer is an observer: it
keeps the calls of `layer_up` and `layer_down` in order, and it sends nothing. Whether
`send_conf_req` fails is part of the event.

* `timer_throughout`: exactly when the timer runs just in the states that wait
* `levels_throughout`: exactly when the layer is up just in `Opened`
-/

namespace Ppp

open Machine

/-! ## Fields of an updated layer -/

section Fields

variable {δ : Type*} (l : Layer δ)

@[simp] theorem goto_fsm (s : FsmState) : (l.goto s).fsm = { l.fsm with state := s } := rfl
@[simp] theorem goto_data (s : FsmState) : (l.goto s).data = l.data := rfl

@[simp] theorem stopTimer_fsm : (stopTimer l).fsm = { l.fsm with restartTimer := false } := rfl
@[simp] theorem stopTimer_data : (stopTimer l).data = l.data := rfl

@[simp] theorem initReqCounter_fsm (n : Int) :
    (initReqCounter l n).fsm = { l.fsm with restartCounter := n, restartTimer := true } := rfl
@[simp] theorem initReqCounter_data (n : Int) : (initReqCounter l n).data = l.data := rfl

@[simp] theorem decCounter_fsm :
    (decCounter l).fsm = { l.fsm with restartCounter := l.fsm.restartCounter - 1 } := rfl
@[simp] theorem decCounter_data : (decCounter l).data = l.data := rfl

@[simp] theorem incFailure_fsm :
    (incFailure l).fsm = { l.fsm with confFailure := l.fsm.confFailure + 1 } := rfl
@[simp] theorem incFailure_data : (incFailure l).data = l.data := rfl

@[simp] theorem incId_fsm : (incId l).fsm = { l.fsm with id := l.fsm.id + 1 } := rfl
@[simp] theorem incId_data : (incId l).data = l.data := rfl

end Fields

/-! ## The observer and the events -/

/-- A call of `layer_up` or of `layer_down`. -/
inductive Level
  | up | down
  deriving DecidableEq

/-- The calls so far, and whether `send_conf_req` fails now. -/
structure Watch where
  levels : List Level
  sendFails : Bool

def note (v : Level) (l : Layer Watch) : Layer Watch :=
  { l with data := { l.data with levels := l.data.levels ++ [v] } }

@[simp] theorem note_fsm (v : Level) (l : Layer Watch) : (note v l).fsm = l.fsm := rfl
@[simp] theorem note_data (v : Level) (l : Layer Watch) :
    (note v l).data = { l.data with levels := l.data.levels ++ [v] } := rfl

def watch : Callbacks Watch where
  layerUp := note .up
  layerDown := note .down
  layerStarted := id
  layerFinished := id
  sendConfReq := fun l => (l, l.data.sendFails)
  sendConfAck := id
  sendConfNak := id
  sendConfRej := id
  sendCodeRej := id
  sendTermReq := id
  sendTermAck := id

/-- The events; `fails` says that `send_conf_req` fails. -/
inductive FsmEvent
  | lowerUp (fails : Bool)
  | lowerDown
  | openUp (fails : Bool)
  | close
  | timeout
  | confReqAck
  | confReqNak
  | confReqRej
  | confAck
  | confRej
  | termReq
  | termAck
  | unk
  | codeRejBad
  deriving DecidableEq

/-- What `send_conf_req` will answer. -/
def answering (l : Layer Watch) (fails : Bool) : Layer Watch :=
  { l with data := { l.data with sendFails := fails } }

@[simp] theorem answering_fsm (l : Layer Watch) (fails : Bool) :
    (answering l fails).fsm = l.fsm := rfl
@[simp] theorem answering_data (l : Layer Watch) (fails : Bool) :
    (answering l fails).data = { l.data with sendFails := fails } := rfl

def fsmStep (l : Layer Watch) : FsmEvent → Option (Layer Watch)
  | .lowerUp fails => some (fsmLowerUp watch (answering l fails)).1
  | .lowerDown => some (fsmLowerDown watch l)
  | .openUp fails => some (fsmOpen watch (answering l fails)).1
  | .close => some (fsmClose watch l)
  | .timeout => if l.fsm.restartTimer then some (restartTimerFunc watch l) else none
  | .confReqAck => some (fsmRecvConfReqAck watch l)
  | .confReqNak => some (fsmRecvConfReqNak watch l)
  | .confReqRej => some (fsmRecvConfReqRej watch l)
  | .confAck => some (fsmRecvConfAck watch l)
  | .confRej => some (fsmRecvConfRej watch l)
  | .termReq => some (fsmRecvTermReq watch l)
  | .termAck => some (fsmRecvTermAck watch l)
  | .unk => some (fsmRecvUnk watch l)
  | .codeRejBad => some (fsmRecvCodeRejBad watch l)

/-- The layer after `ppp_fsm_init`. -/
def watched (maxTerminate maxConfigure maxFailure : Int) (id : UInt8) : Layer Watch :=
  ⟨fsmInit maxTerminate maxConfigure maxFailure id, ⟨[], false⟩⟩

/-! ## The restart timer -/

def FsmState.timed : FsmState → Bool
  | .closing | .stopping | .reqSent | .ackRcvd | .ackSent => true
  | _ => false

/-- The restart timer is running exactly in the states that wait. -/
def TimerOk (l : Layer Watch) : Prop := l.fsm.restartTimer = true ↔ l.fsm.state.timed = true
deriving Decidable

def TimerKept (l : Layer Watch) : FsmEvent → Prop
  | .lowerUp fails => ¬(l.fsm.state = .starting ∧ fails = true)
  | .lowerDown => l.fsm.state.timed = false
  | .openUp fails => l.fsm.state ≠ .closing ∧
      ¬((l.fsm.state = .stopping ∨ l.fsm.state = .stopped ∨ l.fsm.state = .opened) ∧ fails = true)
  | .confReqAck | .confReqNak | .confAck | .confRej => l.fsm.state ≠ .opened
  | .confReqRej => l.fsm.state ≠ .opened ∧
      ¬(l.fsm.state = .stopped ∧ l.fsm.confFailure + 1 = l.fsm.maxFailure)
  | .termAck => l.fsm.state ≠ .reqSent ∧ l.fsm.state ≠ .ackRcvd ∧ l.fsm.state ≠ .ackSent ∧
      l.fsm.state ≠ .opened
  | .codeRejBad => l.fsm.state.timed = false ∧ l.fsm.state ≠ .opened
  | .close | .timeout | .termReq | .unk => True

instance (l : Layer Watch) (e : FsmEvent) : Decidable (TimerKept l e) := by
  unfold TimerKept
  split <;> infer_instance

section Timer

variable {l : Layer Watch}

attribute [local simp] FsmState.timed TimerKept watch Callbacks.restart Callbacks.resend
  Callbacks.request

theorem timerOk_iff : TimerOk l ↔ l.fsm.restartTimer = l.fsm.state.timed := Bool.eq_iff_iff.symm

theorem restartTimerFunc_timer (h : TimerOk l) : TimerOk (restartTimerFunc watch l) := by
  unfold restartTimerFunc fsmTimeout0 fsmTimeout1
  split <;> cases hs : l.fsm.state <;> simp_all [timerOk_iff]

/-- One event keeps the timer as the state needs it exactly when it meets the condition. -/
theorem step_timer {l' : Layer Watch} (e : FsmEvent) (h : TimerOk l)
    (hst : fsmStep l e = some l') : TimerOk l' ↔ TimerKept l e := by
  -- the state decides which branch of a function is taken
  cases e with
  | timeout =>
    obtain ⟨-, rfl⟩ := of_enabled_if hst
    exact iff_of_true (restartTimerFunc_timer h) trivial
  | lowerUp fails | openUp fails =>
    cases hst
    cases hs : l.fsm.state <;> cases fails <;>
      simp_all [timerOk_iff, fsmLowerUp, fsmOpen, fsmLowerDown]
  | confReqRej | confRej =>
    cases hst
    by_cases hm : l.fsm.confFailure + 1 = l.fsm.maxFailure <;> cases hs : l.fsm.state <;>
      simp_all [timerOk_iff, fsmRecvConfReqRej, rejAcked, fsmRecvConfRej, confRejected]
  | lowerDown | close | codeRejBad =>
    cases hst
    cases hs : l.fsm.state <;>
      simp_all [timerOk_iff, fsmLowerDown, fsmClose, closeNegotiation, fsmRecvCodeRejBad]
  | confReqAck | confReqNak | confAck =>
    cases hst
    cases hs : l.fsm.state <;>
      simp_all [timerOk_iff, fsmRecvConfReqAck, fsmRecvConfReqNak, fsmRecvConfAck, confAcked]
  | termReq | termAck | unk =>
    cases hst
    cases hs : l.fsm.state <;>
      simp_all [timerOk_iff, fsmRecvTermReq, zeroReqCounter, fsmRecvTermAck, termAcked, fsmRecvUnk]

end Timer

/-- **The restart timer** runs exactly in `Closing`, `Stopping`, `Req_Sent`, `Ack_Rcvd` and
`Ack_Sent`, if and only if every event comes in a state in which it keeps the timer. -/
theorem timer_throughout (maxTerminate maxConfigure maxFailure : Int) (id : UInt8)
    (es : List FsmEvent) (l : Layer Watch)
    (hr : run fsmStep (watched maxTerminate maxConfigure maxFailure id) es = some l) :
    Throughout fsmStep TimerOk (watched maxTerminate maxConfigure maxFailure id) es ↔
      Guarded fsmStep TimerKept (watched maxTerminate maxConfigure maxFailure id) es := by
  refine throughout_iff_guarded (fun s e s' h hst => step_timer e h hst) ?_ hr
  exact timerOk_iff.2 rfl

/-- A negotiation that is opened and closed by both sides, with the timer as it should be. -/
theorem timer_throughout_opened :
    Throughout fsmStep TimerOk (watched 2 10 10 7)
      [.openUp false, .lowerUp false, .timeout, .confReqAck, .confAck, .termReq, .termAck] := by
  obtain ⟨l, hl, -⟩ : ∃ l, run fsmStep (watched 2 10 10 7) [.openUp false, .lowerUp false, .timeout,
      .confReqAck, .confAck, .termReq, .termAck] = some l ∧ l.fsm.state = .stopped := by
    decide +kernel
  exact (timer_throughout 2 10 10 7 _ l hl).2 (by decide +kernel)

/-- An unasked `Terminate-Ack` stops the timer of a negotiation, and the layer waits for ever. -/
theorem termAck_stops_negotiation :
    ∃ l, run fsmStep (watched 2 10 10 7) [.openUp false, .lowerUp false, .termAck] = some l ∧
      l.fsm.state = .reqSent ∧ l.fsm.restartTimer = false :=
  ⟨_, rfl, rfl, rfl⟩

/-! ## Notifications -/

/-- The first `n` calls of a layer that goes up and down in turn. -/
def alternating : Nat → List Level
  | 0 => []
  | n + 1 => alternating n ++ [if n % 2 = 0 then .up else .down]

/-- The calls go up and down in turn, up first, and the layer is up exactly in `Opened`. -/
structure LevelsOk (l : Layer Watch) : Prop where
  turns : l.data.levels = alternating l.data.levels.length
  level : l.data.levels.count .down < l.data.levels.count .up ↔ l.fsm.state = .opened

/-- The events that tell the layer to go down only if it is up. -/
def LevelsKept (l : Layer Watch) : FsmEvent → Prop
  | .confReqRej => ¬((l.fsm.state = .stopped ∨ l.fsm.state = .ackSent) ∧
      l.fsm.confFailure + 1 = l.fsm.maxFailure)
  | .confRej => ¬((l.fsm.state = .reqSent ∨ l.fsm.state = .ackSent) ∧
      l.fsm.confFailure + 1 = l.fsm.maxFailure)
  | _ => True

instance (l : Layer Watch) (e : FsmEvent) : Decidable (LevelsKept l e) := by
  unfold LevelsKept
  split <;> infer_instance

@[simp] theorem alternating_length (n : Nat) : (alternating n).length = n := by
  induction n with
  | zero => rfl
  | succ n ih => simp [alternating, ih]

theorem alternating_count_up (n : Nat) : (alternating n).count .up = (n + 1) / 2 := by
  induction n with
  | zero => rfl
  | succ n ih => grind [alternating]

theorem alternating_count_down (n : Nat) : (alternating n).count .down = n / 2 := by
  induction n with
  | zero => rfl
  | succ n ih => grind [alternating]

theorem alternating_snoc {vs : List Level} (h : vs = alternating vs.length) (v : Level) :
    vs ++ [v] = alternating (vs ++ [v]).length ↔
      v = if vs.length % 2 = 0 then .up else .down := by
  rw [List.length_append, List.length_singleton, alternating, ← h]
  simp

section Levels

variable {l l' : Layer Watch}

attribute [local simp] LevelsKept watch Callbacks.restart Callbacks.resend Callbacks.request

theorem LevelsOk.odd (h : LevelsOk l) : l.data.levels.length % 2 = 1 ↔ l.fsm.state = .opened := by
  rw [← h.level, h.turns, alternating_count_up, alternating_count_down, alternating_length]
  omega

theorem levelsOk_of_odd (ht : l.data.levels = alternating l.data.levels.length)
    (ho : l.data.levels.length % 2 = 1 ↔ l.fsm.state = .opened) : LevelsOk l where
  turns := ht
  level := by
    rw [← ho, ht, alternating_count_up, alternating_count_down, alternating_length]
    omega

section

variable (h : LevelsOk l)

include h

theorem LevelsOk.same (hl : l'.data.levels = l.data.levels)
    (hs : l'.fsm.state = .opened ↔ l.fsm.state = .opened) : LevelsOk l' :=
  ⟨by rw [hl]; exact h.turns, by rw [hl, hs]; exact h.level⟩

theorem LevelsOk.raised (ho : l.fsm.state ≠ .opened)
    (hl : l'.data.levels = l.data.levels ++ [.up]) (hs : l'.fsm.state = .opened) :
    LevelsOk l' := by
  have hn : l.data.levels.length % 2 = 0 := by
    have := mt h.odd.1 ho
    omega
  refine levelsOk_of_odd ?_ ?_
  · rw [hl]
    exact (alternating_snoc h.turns .up).2 (if_pos hn).symm
  grind

theorem LevelsOk.lowered (ho : l.fsm.state = .opened)
    (hl : l'.data.levels = l.data.levels ++ [.down]) (hs : l'.fsm.state ≠ .opened) :
    LevelsOk l' := by
  have hn : l.data.levels.length % 2 = 1 := h.odd.2 ho
  refine levelsOk_of_odd ?_ ?_
  · rw [hl]
    exact (alternating_snoc h.turns .down).2 (if_neg (by omega)).symm
  grind

theorem LevelsOk.stray (ho : l.fsm.state ≠ .opened)
    (hl : l'.data.levels = l.data.levels ++ [.down]) : ¬LevelsOk l' := by
  intro h'
  have hn : l.data.levels.length % 2 = 0 := by
    have := mt h.odd.1 ho
    omega
  have ht := h'.turns
  rw [hl, alternating_snoc h.turns, if_pos hn] at ht
  cases ht

/-- The ways in which the calls stay in turn. -/
theorem LevelsOk.told (ht : l'.data.levels = l.data.levels ∧ (l'.fsm.state = .opened ↔ l.fsm.state = .opened) ∨
      l'.data.levels = l.data.levels ++ [.up] ∧ l.fsm.state ≠ .opened ∧ l'.fsm.state = .opened ∨
      l'.data.levels = l.data.levels ++ [.down] ∧ l.fsm.state = .opened ∧ l'.fsm.state ≠ .opened) :
    LevelsOk l' := by
  obtain ⟨hl, hs⟩ | ⟨hl, ho, hs⟩ | ⟨hl, ho, hs⟩ := ht
  · exact h.same hl hs
  · exact h.raised ho hl hs
  · exact h.lowered ho hl hs

theorem lowerUp_levels : LevelsOk (fsmLowerUp watch l).1 := by
  refine h.told ?_
  cases hf : l.data.sendFails <;> cases hs : l.fsm.state <;> simp [fsmLowerUp, hs, hf]

theorem lowerDown_levels : LevelsOk (fsmLowerDown watch l) := by
  refine h.told ?_
  cases hs : l.fsm.state <;> simp [fsmLowerDown, hs]

theorem openUp_levels : LevelsOk (fsmOpen watch l).1 := by
  unfold fsmOpen
  cases hs : l.fsm.state with
  | closing | stopping | stopped | opened => exact lowerUp_levels (lowerDown_levels h)
  | _ => exact h.same rfl (by simp [hs])

theorem restartTimerFunc_levels : LevelsOk (restartTimerFunc watch l) := by
  refine h.told ?_
  unfold restartTimerFunc fsmTimeout0 fsmTimeout1
  split <;> cases hs : l.fsm.state <;> simp [hs]

theorem rejAcked_levels (ho : l.fsm.state ≠ .opened) :
    LevelsOk (rejAcked watch l) ↔ l.fsm.confFailure + 1 ≠ l.fsm.maxFailure := by
  unfold rejAcked
  split
  · rename_i hm
    exact iff_of_false (h.stray ho rfl) (not_not_intro hm)
  · rename_i hm
    exact iff_of_true (h.same rfl (by simp [ho])) hm

theorem confReqRej_levels : LevelsOk (fsmRecvConfReqRej watch l) ↔ LevelsKept l .confReqRej := by
  unfold fsmRecvConfReqRej
  cases hs : l.fsm.state with
  | stopped =>
    have h' : LevelsOk (watch.restart l l.fsm.maxConfigure) := h.same rfl Iff.rfl
    have ho : (watch.restart l l.fsm.maxConfigure).fsm.state ≠ .opened :=
      fun he => nomatch hs.symm.trans he
    rw [rejAcked_levels h' ho]
    simp [hs]
  | ackSent =>
    rw [rejAcked_levels h (by simp [hs])]
    simp [hs]
  | reqSent | ackRcvd =>
    refine iff_of_true ?_ (by simp [hs])
    dsimp only
    split <;> exact h.same rfl (by simp)
  | opened => exact iff_of_true (h.lowered hs rfl nofun) (by simp [hs])
  | _ => exact iff_of_true (h.same rfl (by simp)) (by simp [hs])

theorem confRej_levels : LevelsOk (fsmRecvConfRej watch l) ↔ LevelsKept l .confRej := by
  unfold fsmRecvConfRej confRejected
  cases hs : l.fsm.state with
  | reqSent | ackSent =>
    rw [incId_fsm, hs]
    dsimp only
    split
    · rename_i hm
      refine iff_of_false (h.stray (by simp [hs]) rfl) ?_
      simpa [hs] using hm
    · rename_i hm
      refine iff_of_true (h.same rfl Iff.rfl) ?_
      simpa [hs] using hm
  | opened =>
    rw [incId_fsm, hs]
    exact iff_of_true (h.lowered hs rfl nofun) (by simp [hs])
  | _ =>
    rw [incId_fsm, hs]
    exact iff_of_true (h.same rfl (by simp [hs])) (by simp [hs])

end

/-- One event keeps the calls in turn exactly when it meets the condition. -/
theorem step_levels (e : FsmEvent) (h : LevelsOk l) (hst : fsmStep l e = some l') :
    LevelsOk l' ↔ LevelsKept l e := by
  have ha : ∀ fails, LevelsOk (answering l fails) := fun _ => h.same rfl Iff.rfl
  cases e with
  | lowerUp fails => cases hst; exact iff_of_true (lowerUp_levels (ha fails)) trivial
  | lowerDown => cases hst; exact iff_of_true (lowerDown_levels h) trivial
  | openUp fails => cases hst; exact iff_of_true (openUp_levels (ha fails)) trivial
  | timeout =>
    obtain ⟨-, rfl⟩ := of_enabled_if hst
    exact iff_of_true (restartTimerFunc_levels h) trivial
  | confReqRej => cases hst; exact confReqRej_levels h
  | confRej => cases hst; exact confRej_levels h
  | confReqNak =>
    cases hst
    refine iff_of_true (h.told ?_) trivial
    by_cases hm : l.fsm.confFailure + 1 = l.fsm.maxFailure <;> cases hs : l.fsm.state <;>
      simp [fsmRecvConfReqNak, hs]
  | close | codeRejBad | unk =>
    cases hst
    refine iff_of_true (h.told ?_) trivial
    cases hs : l.fsm.state <;>
      simp [fsmClose, closeNegotiation, fsmRecvCodeRejBad, fsmRecvUnk, hs]
  | confReqAck | confAck =>
    cases hst
    refine iff_of_true (h.told ?_) trivial
    cases hs : l.fsm.state <;> simp [fsmRecvConfReqAck, fsmRecvConfAck, confAcked, hs]
  | termReq | termAck =>
    cases hst
    refine iff_of_true (h.told ?_) trivial
    cases hs : l.fsm.state <;>
      simp [fsmRecvTermReq, zeroReqCounter, fsmRecvTermAck, termAcked, hs]

end Levels

/-- **Notifications** come in turn, `layer_up` first, and the layer is up exactly in `Opened`, if
and only if no rejection comes at the last allowed failure where it takes the layer down. -/
theorem levels_throughout (maxTerminate maxConfigure maxFailure : Int) (id : UInt8)
    (es : List FsmEvent) (l : Layer Watch)
    (hr : run fsmStep (watched maxTerminate maxConfigure maxFailure id) es = some l) :
    Throughout fsmStep LevelsOk (watched maxTerminate maxConfigure maxFailure id) es ↔
      Guarded fsmStep LevelsKept (watched maxTerminate maxConfigure maxFailure id) es := by
  refine throughout_iff_guarded (fun s e s' h hst => step_levels e h hst) ?_ hr
  exact ⟨rfl, iff_of_false (Nat.lt_irrefl 0) nofun⟩

/-- A layer that goes up, down and up again. -/
theorem levels_throughout_reopened :
    Throughout fsmStep LevelsOk (watched 2 10 10 7)
      [.openUp false, .lowerUp false, .confReqAck, .confAck, .confReqAck, .confAck] := by
  obtain ⟨l, hl, -⟩ : ∃ l, run fsmStep (watched 2 10 10 7) [.openUp false, .lowerUp false,
      .confReqAck, .confAck, .confReqAck, .confAck] = some l ∧ l.fsm.state = .opened := by
    decide +kernel
  exact (levels_throughout 2 10 10 7 _ l hl).2 (by decide +kernel)

/-- With one failure allowed, a rejected request takes the layer down that never went up. -/
theorem rejected_never_up :
    ∃ l, run fsmStep (watched 2 10 1 7) [.openUp false, .lowerUp false, .confRej] = some l ∧
      l.data.levels = [.down] ∧ l.fsm.state = .reqSent :=
  ⟨_, rfl, rfl, rfl⟩

end Ppp
