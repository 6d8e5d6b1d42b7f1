import MicroBng.Ppp.Automaton

/-!
# How the automaton gives up

The automaton of `ppp/ppp_fsm.c` has two limits: `restart_counter`, the requests it sends without an
answer, and `conf_failure`, which it compares with `max_failure` before it refuses a request of the
peer. The layer is a recorder of all calls; when it is told that it is finished or down it leaves
the automaton alone, as LCP does, or closes it, as the network protocols do (`Reaction`).

* `timeout_run`: without an answer the request is sent `restart_counter` times more
* `failures_throughout`: at most `max_failure` requests are refused between acknowledgements, if none
  is once `conf_failure` has reached it
-/

namespace Ppp

open Machine

/-! ## The recorder -/

inductive Call
  | up | down | started | finished
  | confReq | confAck | confNak | confRej | codeRej | termReq | termAck

/-- The calls so far, and whether `send_conf_req` fails now. -/
structure Record where
  calls : List Call
  sendFails : Bool

def call (c : Call) (l : Layer Record) : Layer Record :=
  { l with data := { l.data with calls := l.data.calls ++ [c] } }

@[simp] theorem call_fsm (c : Call) (l : Layer Record) : (call c l).fsm = l.fsm := rfl
@[simp] theorem call_data (c : Call) (l : Layer Record) :
    (call c l).data = { l.data with calls := l.data.calls ++ [c] } := rfl

/-- What the layer does when finished and when down: LCP nothing; the others set `FSM_Closed` and
call `ppp_fsm_close`. -/
structure Reaction where
  finishCloses : Bool
  downCloses : Bool

/-- The recorder, without the reaction to `layer_down`. -/
def plainRecorder (r : Reaction) : Callbacks Record where
  layerUp := call .up
  layerDown := call .down
  layerStarted := call .started
  layerFinished := fun l =>
    if r.finishCloses then (call .finished l).goto .closed else call .finished l
  sendConfReq := fun l => (call .confReq l, l.data.sendFails)
  sendConfAck := call .confAck
  sendConfNak := call .confNak
  sendConfRej := call .confRej
  sendCodeRej := call .codeRej
  sendTermReq := call .termReq
  sendTermAck := call .termAck

/-- The recorder as a layer. A second `layer_down` while closing has no effect. -/
def recorder (r : Reaction) : Callbacks Record :=
  { plainRecorder r with
    layerDown := fun l =>
      if r.downCloses then fsmClose (plainRecorder r) (call .down l) else call .down l }

/-! ## Expiries without an answer -/

def expire (r : Reaction) (l : Layer Record) (_ : Unit) : Option (Layer Record) :=
  if l.fsm.restartTimer then some (restartTimerFunc (recorder r) l) else none

def FsmState.request : FsmState → Call
  | .closing | .stopping => .termReq
  | _ => .confReq

def waiting (st : FsmState) (counter : Int) : Layer Record :=
  ⟨⟨st, true, counter, 2, 10, 10, 0, 1, 0⟩, ⟨[], false⟩⟩

section Expire

variable {r : Reaction} {l : Layer Record}

theorem timeout0_resends (hs : l.fsm.state.timed = true) (ht : l.fsm.restartTimer = true) :
    (fsmTimeout0 (recorder r) l).fsm.state.timed = true ∧
      (fsmTimeout0 (recorder r) l).fsm.state.request = l.fsm.state.request ∧
      (fsmTimeout0 (recorder r) l).fsm.restartTimer = true ∧
      (fsmTimeout0 (recorder r) l).fsm.restartCounter = l.fsm.restartCounter - 1 ∧
      (fsmTimeout0 (recorder r) l).data.calls = l.data.calls ++ [l.fsm.state.request] := by
  obtain ⟨⟨st, timer, counter, mt, mc, mf, failures, id, recvId⟩, data⟩ := l
  cases st with
  | initial | starting | closed | stopped | opened => cases hs
  | closing | stopping | reqSent | ackRcvd | ackSent => exact ⟨rfl, rfl, ht, rfl, rfl⟩

theorem timeout1_finishes (hs : l.fsm.state.timed = true) :
    (fsmTimeout1 (recorder r) l).fsm.restartTimer = false ∧
      (fsmTimeout1 (recorder r) l).data.calls = l.data.calls ++ [.finished] := by
  obtain ⟨⟨st, timer, counter, mt, mc, mf, failures, id, recvId⟩, data⟩ := l
  cases st with
  | initial | starting | closed | stopped | opened => cases hs
  | closing | stopping | reqSent | ackRcvd | ackSent =>
    cases hf : r.finishCloses <;> simp [fsmTimeout1, recorder, plainRecorder, hf]

theorem expire_resends (k : Nat) (hs : l.fsm.state.timed = true) (ht : l.fsm.restartTimer = true)
    (hk : (k : Int) ≤ l.fsm.restartCounter) :
    ∃ l', run (expire r) l (List.replicate k ()) = some l' ∧
      l'.data.calls = l.data.calls ++ List.replicate k l.fsm.state.request ∧
      l'.fsm.state.timed = true ∧ l'.fsm.restartTimer = true ∧
      l'.fsm.restartCounter = l.fsm.restartCounter - k := by
  induction k generalizing l with
  | zero => exact ⟨l, rfl, by simp, hs, ht, by simp⟩
  | succ k ih =>
    obtain ⟨hs', hreq, ht', hcount, hcalls⟩ := timeout0_resends (r := r) hs ht
    have hstep : expire r l () = some (fsmTimeout0 (recorder r) l) := by
      rw [expire, if_pos ht, restartTimerFunc, if_pos (by omega)]
    obtain ⟨l', hrun, hcalls', hs'', ht'', hcount'⟩ := ih hs' ht' (by omega)
    refine ⟨l', run_cons.2 ⟨_, hstep, hrun⟩, ?_, hs'', ht'', ?_⟩
    · rw [hcalls', hcalls, hreq, List.append_assoc, List.replicate_succ, List.singleton_append]
    · omega

/-- **A negotiation without an answer**: the request is sent `restart_counter` times more, then the
layer is finished and the timer stopped. -/
theorem timeout_run (r : Reaction) (n : Nat) (l : Layer Record) (hs : l.fsm.state.timed = true)
    (ht : l.fsm.restartTimer = true) (hn : l.fsm.restartCounter = n) :
    (∀ k ≤ n, ∃ l', run (expire r) l (List.replicate k ()) = some l' ∧
      l'.data.calls = l.data.calls ++ List.replicate k l.fsm.state.request ∧
      l'.fsm.restartTimer = true) ∧
    (∃ l', run (expire r) l (List.replicate (n + 1) ()) = some l' ∧
      l'.data.calls = l.data.calls ++ List.replicate n l.fsm.state.request ++ [.finished] ∧
      l'.fsm.restartTimer = false) ∧
    ∀ k, n + 1 < k → run (expire r) l (List.replicate k ()) = none := by
  obtain ⟨l₁, hrun₁, hcalls₁, hs₁, ht₁, hcount₁⟩ := expire_resends (r := r) n hs ht (by omega)
  obtain ⟨htimer, hcalls⟩ := timeout1_finishes (r := r) hs₁
  have hstep : expire r l₁ () = some (fsmTimeout1 (recorder r) l₁) := by
    rw [expire, if_pos ht₁, restartTimerFunc, if_neg (by omega)]
  have hrun : run (expire r) l (List.replicate (n + 1) ()) = some (fsmTimeout1 (recorder r) l₁) := by
    rw [List.replicate_succ', run_append, hrun₁]
    exact run_cons.2 ⟨_, hstep, rfl⟩
  refine ⟨?_, ⟨_, hrun, by rw [hcalls, hcalls₁], htimer⟩, ?_⟩
  · intro k hk
    obtain ⟨l', hrun', hcalls', -, ht', -⟩ := expire_resends (r := r) k hs ht (by omega)
    exact ⟨l', hrun', hcalls', ht'⟩
  · intro k hk
    obtain ⟨j, rfl⟩ : ∃ j, k = n + 1 + (j + 1) := ⟨k - n - 2, by omega⟩
    simp_all [expire, List.replicate_add, run_append, List.replicate_succ, run]

/-- A request that has been sent with two more to go. -/
theorem timeout_run_reqSent :
    (waiting .reqSent 2).fsm.state.timed = true ∧
      ∃ l', run (expire ⟨true, true⟩) (waiting .reqSent 2) [(), (), ()] = some l' ∧
        l'.data.calls = [.confReq, .confReq, .finished] ∧ l'.fsm.restartTimer = false :=
  ⟨rfl, (timeout_run ⟨true, true⟩ 2 (waiting .reqSent 2) rfl rfl rfl).2.1⟩

end Expire

/-! ## Refusals -/

/-- What `send_conf_req` will answer, with no calls recorded yet. -/
def prepared (l : Layer Record) (fails : Bool) : Layer Record := { l with data := ⟨[], fails⟩ }

/-- One event, with the calls it makes. A timer that is not armed does not expire. -/
def handle (r : Reaction) (l : Layer Record) : FsmEvent → Option (Layer Record)
  | .lowerUp fails => some (fsmLowerUp (recorder r) (prepared l fails)).1
  | .lowerDown => some (fsmLowerDown (recorder r) (prepared l false))
  | .openUp fails => some (fsmOpen (recorder r) (prepared l fails)).1
  | .close => some (fsmClose (recorder r) (prepared l false))
  | .timeout =>
    if l.fsm.restartTimer then some (restartTimerFunc (recorder r) (prepared l false)) else none
  | .confReqAck => some (fsmRecvConfReqAck (recorder r) (prepared l false))
  | .confReqNak => some (fsmRecvConfReqNak (recorder r) (prepared l false))
  | .confReqRej => some (fsmRecvConfReqRej (recorder r) (prepared l false))
  | .confAck => some (fsmRecvConfAck (recorder r) (prepared l false))
  | .confRej => some (fsmRecvConfRej (recorder r) (prepared l false))
  | .termReq => some (fsmRecvTermReq (recorder r) (prepared l false))
  | .termAck => some (fsmRecvTermAck (recorder r) (prepared l false))
  | .unk => some (fsmRecvUnk (recorder r) (prepared l false))
  | .codeRejBad => some (fsmRecvCodeRejBad (recorder r) (prepared l false))

/-- The states of a negotiation, `Opened` at its end. -/
def FsmState.negotiates : FsmState → Bool
  | .reqSent | .ackRcvd | .ackSent | .opened => true
  | _ => false

/-- The refusals in a row after some calls; a Configure-Ack ends it. -/
def refusals : Nat → List Call → Nat
  | n, [] => n
  | _, .confAck :: cs => refusals 0 cs
  | n, .confNak :: cs => refusals (n + 1) cs
  | n, .confRej :: cs => refusals (n + 1) cs
  | n, _ :: cs => refusals n cs

/-- A layer, and the Configure-Naks and Configure-Rejects it sent since the last Configure-Ack or since
the negotiation started. -/
structure Negotiation where
  layer : Layer Record
  refused : Nat

def negStep (r : Reaction) (s : Negotiation) (e : FsmEvent) : Option Negotiation :=
  (handle r s.layer e).map fun l =>
    { layer := l
      refused :=
        refusals (if s.layer.fsm.state.negotiates = false ∧ l.fsm.state.negotiates = true then 0
          else s.refused) l.data.calls }

/-- The layer after `ppp_fsm_init`. -/
def negotiation (maxTerminate maxConfigure maxFailure : Int) (id : UInt8) : Negotiation :=
  ⟨⟨fsmInit maxTerminate maxConfigure maxFailure id, ⟨[], false⟩⟩, 0⟩

/-- Within a negotiation, a request is refused only below the limit. -/
def Within (s : Negotiation) (e : FsmEvent) : Prop :=
  e = .confReqNak ∨ e = .confReqRej →
    s.layer.fsm.state = .reqSent ∨ s.layer.fsm.state = .ackRcvd →
      s.layer.fsm.confFailure < s.layer.fsm.maxFailure
deriving Decidable

/-- The states in which a Configure-Ack was the last answer to the peer. -/
def FsmState.settled : FsmState → Bool
  | .ackSent | .opened => true
  | _ => false

structure Unanswered (l l' : Layer Record) : Prop where
  silent : ∀ n, refusals n l'.data.calls = n
  limit : l'.fsm.maxFailure = l.fsm.maxFailure
  failures : l.fsm.confFailure ≤ l'.fsm.confFailure
  settled : l'.fsm.state.settled = true → l.fsm.state.settled = true

section Refusals

variable {r : Reaction} {l l' : Layer Record} {s : Negotiation} {e : FsmEvent}

/-- No event but a request of the peer is answered. -/
theorem handle_unanswered (hst : handle r l e = some l') (hack : e ≠ .confReqAck)
    (hnak : e ≠ .confReqNak) (hrej : e ≠ .confReqRej) : Unanswered l l' := by
  obtain ⟨⟨st, timer, counter, mt, mc, mf, failures, id, recvId⟩, data⟩ := l
  obtain ⟨finishCloses, downCloses⟩ := r
  -- the state and the reaction decide which branch is taken; what it does can then be read off
  cases e with
  | confReqAck => exact absurd rfl hack
  | confReqNak => exact absurd rfl hnak
  | confReqRej => exact absurd rfl hrej
  | timeout =>
    obtain ⟨-, rfl⟩ := of_enabled_if hst
    unfold restartTimerFunc
    split <;> cases finishCloses <;> cases st <;>
      exact ⟨fun _ => rfl, rfl, Int.le_refl _, fun h => by first | exact h | cases h⟩
  | confRej =>
    cases hst
    have hsucc : failures ≤ failures + 1 := by omega
    by_cases hm : failures + 1 = mf <;> cases downCloses <;> cases st <;>
      simp only [fsmRecvConfRej, confRejected, incId, prepared, hm, if_true, if_false] <;>
      exact ⟨fun _ => rfl, rfl, by first | exact Int.le_refl _ | exact hsucc,
        fun h => by first | exact h | cases h⟩
  | lowerUp fails | openUp fails =>
    cases hst
    cases fails <;> cases downCloses <;> cases st <;>
      exact ⟨fun _ => rfl, rfl, Int.le_refl _, fun h => by first | exact h | cases h⟩
  | _ =>
    cases hst
    cases finishCloses <;> cases downCloses <;> cases st <;>
      exact ⟨fun _ => rfl, rfl, Int.le_refl _, fun h => by first | exact h | cases h⟩

/-- The event refuses a request: at the start, after a Configure-Ack, or below the limit. -/
structure Refused (l l' : Layer Record) : Prop where
  once : ∀ n, refusals n l'.data.calls = n + 1
  limit : l'.fsm.maxFailure = l.fsm.maxFailure
  failures : l.fsm.confFailure ≤ l'.fsm.confFailure
  unsettled : l'.fsm.state.settled = false
  counted : l.fsm.state.settled = true ∨
    l.fsm.state.negotiates = false ∧ l'.fsm.state.negotiates = true ∨
    (l.fsm.state = .reqSent ∨ l.fsm.state = .ackRcvd) ∧
      l'.fsm.confFailure = l.fsm.confFailure + 1 ∧ l.fsm.confFailure + 1 ≠ l.fsm.maxFailure

theorem confReqAck_answer :
    Unanswered l (fsmRecvConfReqAck (recorder r) (prepared l false)) ∨
      (∀ n, refusals n (fsmRecvConfReqAck (recorder r) (prepared l false)).data.calls = 0) ∧
        (fsmRecvConfReqAck (recorder r) (prepared l false)).fsm.maxFailure = l.fsm.maxFailure ∧
        (fsmRecvConfReqAck (recorder r) (prepared l false)).fsm.confFailure = l.fsm.confFailure := by
  obtain ⟨⟨st, timer, counter, mt, mc, mf, failures, id, recvId⟩, data⟩ := l
  obtain ⟨finishCloses, downCloses⟩ := r
  cases st with
  | initial | starting | closed | closing | stopping =>
    exact .inl ⟨fun _ => rfl, rfl, Int.le_refl _, fun h => h⟩
  | stopped | reqSent | ackRcvd | ackSent => exact .inr ⟨fun _ => rfl, rfl, rfl⟩
  | opened => cases downCloses <;> exact .inr ⟨fun _ => rfl, rfl, rfl⟩

theorem confReqNak_answer :
    Unanswered l (fsmRecvConfReqNak (recorder r) (prepared l false)) ∨
      Refused l (fsmRecvConfReqNak (recorder r) (prepared l false)) := by
  obtain ⟨⟨st, timer, counter, mt, mc, mf, failures, id, recvId⟩, data⟩ := l
  obtain ⟨finishCloses, downCloses⟩ := r
  have hsucc : failures ≤ failures + 1 := by omega
  cases st with
  | initial | starting | closed | closing | stopping =>
    exact .inl ⟨fun _ => rfl, rfl, Int.le_refl _, fun h => h⟩
  | stopped => exact .inr ⟨fun _ => rfl, rfl, Int.le_refl _, rfl, .inr (.inl ⟨rfl, rfl⟩)⟩
  | ackSent => exact .inr ⟨fun _ => rfl, rfl, Int.le_refl _, rfl, .inl rfl⟩
  | opened =>
    cases downCloses <;> exact .inr ⟨fun _ => rfl, rfl, Int.le_refl _, rfl, .inl rfl⟩
  | reqSent | ackRcvd =>
    by_cases hm : failures + 1 = mf
    · left
      cases finishCloses <;> simp only [fsmRecvConfReqNak, prepared, hm] <;>
        exact ⟨fun _ => rfl, rfl, hsucc, fun h => by cases h⟩
    · right
      simp only [fsmRecvConfReqNak, prepared, hm]
      exact ⟨fun _ => rfl, rfl, hsucc, rfl, .inr (.inr ⟨by simp, rfl, hm⟩)⟩

theorem confReqRej_answer :
    Unanswered l (fsmRecvConfReqRej (recorder r) (prepared l false)) ∨
      Refused l (fsmRecvConfReqRej (recorder r) (prepared l false)) := by
  obtain ⟨⟨st, timer, counter, mt, mc, mf, failures, id, recvId⟩, data⟩ := l
  obtain ⟨finishCloses, downCloses⟩ := r
  have hsucc : failures ≤ failures + 1 := by omega
  cases st with
  | initial | starting | closed | closing | stopping =>
    exact .inl ⟨fun _ => rfl, rfl, Int.le_refl _, fun h => h⟩
  | opened =>
    cases downCloses <;> exact .inr ⟨fun _ => rfl, rfl, Int.le_refl _, rfl, .inl rfl⟩
  | stopped =>
    by_cases hm : failures + 1 = mf
    · left
      cases downCloses <;> simp only [fsmRecvConfReqRej, prepared, rejAcked, Callbacks.restart,
        Callbacks.resend, Callbacks.request, recorder, plainRecorder, decCounter, initReqCounter, call,
        hm] <;> exact ⟨fun _ => rfl, rfl, hsucc, fun h => by cases h⟩
    · right
      simp only [fsmRecvConfReqRej, prepared, rejAcked, Callbacks.restart, Callbacks.resend,
        Callbacks.request, recorder, plainRecorder, decCounter, initReqCounter, call, hm]
      exact ⟨fun _ => rfl, rfl, hsucc, rfl, .inr (.inl ⟨rfl, rfl⟩)⟩
  | ackSent =>
    by_cases hm : failures + 1 = mf
    · left
      cases downCloses <;> simp only [fsmRecvConfReqRej, prepared, rejAcked, hm] <;>
        exact ⟨fun _ => rfl, rfl, hsucc, fun _ => rfl⟩
    · right
      simp only [fsmRecvConfReqRej, prepared, rejAcked, hm]
      exact ⟨fun _ => rfl, rfl, hsucc, rfl, .inl rfl⟩
  | reqSent | ackRcvd =>
    by_cases hm : failures + 1 = mf
    · left
      cases finishCloses <;> simp only [fsmRecvConfReqRej, prepared, hm] <;>
        exact ⟨fun _ => rfl, rfl, hsucc, fun h => by cases h⟩
    · right
      simp only [fsmRecvConfReqRej, prepared, hm]
      exact ⟨fun _ => rfl, rfl, hsucc, rfl, .inr (.inr ⟨by simp, rfl, hm⟩)⟩

/-- The refusals in a row are at most one more than the failures counted, within the limit. -/
structure Bounded (s : Negotiation) : Prop where
  nonneg : 0 ≤ s.layer.fsm.confFailure
  positive : 0 < s.layer.fsm.maxFailure
  counted : (s.refused : Int) ≤ s.layer.fsm.confFailure + 1
  within : (s.refused : Int) ≤ s.layer.fsm.maxFailure
  settled : s.layer.fsm.state.settled = true → s.refused = 0

def Negotiation.base (s : Negotiation) (l : Layer Record) : Nat :=
  if s.layer.fsm.state.negotiates = false ∧ l.fsm.state.negotiates = true then 0 else s.refused

theorem Negotiation.base_le (s : Negotiation) (l : Layer Record) : s.base l ≤ s.refused := by
  unfold Negotiation.base
  split <;> omega

theorem Bounded.unanswered (h : Bounded s) (hu : Unanswered s.layer l') :
    Bounded ⟨l', refusals (s.base l') l'.data.calls⟩ := by
  have hle := s.base_le l'
  have hfail := hu.failures
  have hcount := h.counted
  have hwithin := h.within
  have hlimit := hu.limit
  rw [hu.silent]
  refine ⟨Int.le_trans h.nonneg hfail, ?_, ?_, ?_, ?_⟩
  · rw [hlimit]
    exact h.positive
  · show (s.base l' : Int) ≤ l'.fsm.confFailure + 1
    omega
  · show (s.base l' : Int) ≤ l'.fsm.maxFailure
    omega
  grind [h.settled, hu.settled]

theorem Bounded.refused (h : Bounded s) (hr : Refused s.layer l')
    (hw : s.layer.fsm.state = .reqSent ∨ s.layer.fsm.state = .ackRcvd →
      s.layer.fsm.confFailure < s.layer.fsm.maxFailure) :
    Bounded ⟨l', refusals (s.base l') l'.data.calls⟩ := by
  have hle := s.base_le l'
  have hfail := hr.failures
  have hnonneg := h.nonneg
  have hpos := h.positive
  have hcount := h.counted
  have hlimit := hr.limit
  -- the first refusal of a row, or one that is counted
  have hcases : s.base l' = 0 ∨ l'.fsm.confFailure = s.layer.fsm.confFailure + 1 ∧
      s.layer.fsm.confFailure + 1 < s.layer.fsm.maxFailure := by
    grind [hr.counted, h.settled, Negotiation.base]
  rw [hr.once]
  refine ⟨Int.le_trans hnonneg hfail, ?_, ?_, ?_, ?_⟩
  · rw [hlimit]
    exact hpos
  · grind
  · grind
  · intro hs
    rw [hr.unsettled] at hs
    cases hs

theorem Bounded.acked (h : Bounded s) (hzero : ∀ n, refusals n l'.data.calls = 0)
    (hlimit : l'.fsm.maxFailure = s.layer.fsm.maxFailure)
    (hfail : l'.fsm.confFailure = s.layer.fsm.confFailure) :
    Bounded ⟨l', refusals (s.base l') l'.data.calls⟩ := by
  have hnonneg := h.nonneg
  have hpos := h.positive
  rw [hzero]
  refine ⟨?_, ?_, ?_, ?_, fun _ => rfl⟩
  · show 0 ≤ l'.fsm.confFailure
    omega
  · show 0 < l'.fsm.maxFailure
    omega
  · show ((0 : Nat) : Int) ≤ l'.fsm.confFailure + 1
    omega
  · show ((0 : Nat) : Int) ≤ l'.fsm.maxFailure
    omega

theorem Bounded.step {s' : Negotiation} (h : Bounded s) (hw : Within s e)
    (hstep : negStep r s e = some s') : Bounded s' := by
  obtain ⟨l', hl, rfl⟩ := Option.map_eq_some_iff.1 hstep
  cases e with
  | confReqAck =>
    cases hl
    rcases confReqAck_answer (r := r) (l := s.layer) with hu | ⟨hzero, hlimit, hfail⟩
    · exact h.unanswered hu
    · exact h.acked hzero hlimit hfail
  | confReqNak =>
    cases hl
    rcases confReqNak_answer (r := r) (l := s.layer) with hu | hr
    · exact h.unanswered hu
    · exact h.refused hr (hw (.inl rfl))
  | confReqRej =>
    cases hl
    rcases confReqRej_answer (r := r) (l := s.layer) with hu | hr
    · exact h.unanswered hu
    · exact h.refused hr (hw (.inr rfl))
  | _ => exact h.unanswered (handle_unanswered hl nofun nofun nofun)

/-- **Refusals are limited**: if no request is refused once `conf_failure` has reached
`max_failure`, at most `max_failure` Configure-Naks and Configure-Rejects are sent between
Configure-Acks. -/
theorem failures_throughout (r : Reaction) (maxTerminate maxConfigure maxFailure : Int)
    (hpos : 0 < maxFailure) (id : UInt8) (es : List FsmEvent)
    (hg : Guarded (negStep r) Within (negotiation maxTerminate maxConfigure maxFailure id) es) :
    Throughout (negStep r) (fun s => (s.refused : Int) ≤ s.layer.fsm.maxFailure)
      (negotiation maxTerminate maxConfigure maxFailure id) es := by
  have hstep : ∀ s e s', Bounded s → Within s e → negStep r s e = some s' → Bounded s' :=
    fun _ _ _ h hw hstep => h.step hw hstep
  refine (hg.throughout hstep ?_).mono fun s h => h.within
  refine ⟨Int.le_refl _, hpos, ?_, ?_, fun _ => rfl⟩
  · show ((0 : Nat) : Int) ≤ 0 + 1
    omega
  · show ((0 : Nat) : Int) ≤ maxFailure
    omega

/-- Nine requests are refused and the tenth ends the negotiation. -/
theorem failures_throughout_nine :
    Throughout (negStep ⟨false, false⟩) (fun s => (s.refused : Int) ≤ s.layer.fsm.maxFailure)
      (negotiation 2 10 10 7) ([.lowerUp false, .openUp false] ++ List.replicate 10 .confReqNak) :=
  failures_throughout ⟨false, false⟩ 2 10 10 (by decide) 7 _ (by decide +kernel)

/-- **The limit is passed unseen.** LCP counts the Configure-Naks of the peer together with its own
refusals; the tenth reaches the limit, where LCP only calls its `layer_down`, which does nothing, and
the next eleven requests are all refused. -/
theorem failures_unbounded :
    ∃ s, run (negStep ⟨false, false⟩) (negotiation 2 10 10 7)
        ([.lowerUp false, .openUp false] ++ List.replicate 10 .confRej ++
          List.replicate 11 .confReqNak) = some s ∧
      s.layer.fsm.state = .reqSent ∧ s.layer.fsm.maxFailure = 10 ∧ s.refused = 11 := by
  decide +kernel

end Refusals

end Ppp
