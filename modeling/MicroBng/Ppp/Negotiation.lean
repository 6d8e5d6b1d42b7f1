import MicroBng.Ppp.Fsm

/-!
# What the automaton guarantees to a protocol

Whatever the packets, a layer goes up only after this side has sent a request and has acknowledged
one. The rule is stated for predicates on the data of the protocol: `requested` is what sending a
request brings about, `acknowledged` what acknowledging an acceptable one does, `good` what the
protocol keeps throughout, and `dead` that the protocol has given up, after which the automaton
rests in `Initial` or `Closed`.

* `Callbacks.Sound`: what the callbacks have to do; `Fair` is less, and also holds of protocols where
  sending a request may end the negotiation
* `Settled`: what every function of the automaton then keeps, one lemma for each of them
-/

namespace Ppp

def FsmState.negotiating : FsmState → Bool
  | .reqSent | .ackRcvd | .ackSent | .opened => true
  | _ => false

def FsmState.acked : FsmState → Bool
  | .ackSent | .opened => true
  | _ => false

/-- States that are only left by `ppp_fsm_lower_up` and `ppp_fsm_open`. -/
def FsmState.parked : FsmState → Bool
  | .initial | .closed => true
  | _ => false

structure Phases (δ : Type*) where
  good : δ → Prop
  requested : δ → Prop
  acknowledged : δ → Prop
  acceptable : δ → Prop
  dead : δ → Prop

section Rules

variable {δ : Type*} {P : Phases δ} {cb : Callbacks δ} {l : Layer δ}

structure Alive (P : Phases δ) (d : δ) : Prop where
  good : P.good d
  alive : ¬P.dead d

structure Asked (P : Phases δ) (d : δ) : Prop extends Alive P d where
  requested : P.requested d

structure Agreed (P : Phases δ) (d : δ) : Prop extends Asked P d where
  acknowledged : P.acknowledged d

structure Settled (P : Phases δ) (l : Layer δ) : Prop where
  good : P.good l.data
  requested : l.fsm.state.negotiating = true → P.requested l.data
  acknowledged : l.fsm.state.acked = true → P.acknowledged l.data
  dead : P.dead l.data → l.fsm.state.parked = true

/-- Nothing is taken back, and the protocol does not give up. -/
structure Kept (P : Phases δ) (d d' : δ) : Prop where
  good : P.good d → P.good d'
  requested : P.requested d → P.requested d'
  acknowledged : P.acknowledged d → P.acknowledged d'
  acceptable : P.acceptable d → P.acceptable d'
  dead : P.dead d' → P.dead d

/-- A callback that takes nothing back and leaves the state alone. -/
structure Plain (P : Phases δ) (f : Layer δ → Layer δ) : Prop where
  kept : ∀ l, Kept P l.data (f l).data
  state : ∀ l, (f l).fsm.state = l.fsm.state

structure Callbacks.Sound (cb : Callbacks δ) (P : Phases δ) : Prop where
  layerUp : ∀ l, Agreed P l.data → Agreed P (cb.layerUp l).data
  layerDown : ∀ l, l.fsm.state ≠ .starting → Kept P l.data (cb.layerDown l).data
  layerDown_settled : ∀ l, l.fsm.state ≠ .starting → Asked P l.data → Settled P (cb.layerDown l)
  layerStarted : Plain P cb.layerStarted
  layerFinished : ∀ l, P.good l.data → Settled P (cb.layerFinished l)
  request : ∀ l, Alive P l.data → Asked P (cb.request l).data
  request_acknowledged : ∀ l, P.acknowledged l.data → P.acknowledged (cb.request l).data
  request_acceptable : ∀ l, P.acceptable l.data → P.acceptable (cb.request l).data
  request_state : ∀ l, (cb.request l).fsm.state = l.fsm.state
  sendConfAck : ∀ l, Asked P l.data → P.acceptable l.data → Agreed P (cb.sendConfAck l).data
  sendConfNak : Plain P cb.sendConfNak
  sendConfRej : Plain P cb.sendConfRej
  sendCodeRej : Plain P cb.sendCodeRej
  sendTermReq : Plain P cb.sendTermReq
  sendTermAck : Plain P cb.sendTermAck

/-! ## Reading the state -/

theorem Settled.alive (h : Settled P l) (hs : l.fsm.state.parked = false) : Alive P l.data where
  good := h.good
  alive := fun hd => by rw [h.dead hd] at hs; cases hs

variable {s : FsmState} {f : Layer δ → Layer δ}

theorem FsmState.negotiating_not_parked (h : s.negotiating = true) : s.parked = false := by
  cases s <;> first | rfl | cases h

theorem FsmState.acked_negotiating (h : s.acked = true) : s.negotiating = true := by
  cases s <;> first | rfl | cases h

theorem Settled.asked (h : Settled P l) (hs : l.fsm.state.negotiating = true) : Asked P l.data :=
  { h.alive (FsmState.negotiating_not_parked hs) with requested := h.requested hs }

theorem Settled.agreed (h : Settled P l) (hs : l.fsm.state.acked = true) : Agreed P l.data :=
  { h.asked (FsmState.acked_negotiating hs) with acknowledged := h.acknowledged hs }

/-! ## Setting the state -/

theorem Alive.goto (h : Alive P l.data) (hs : s.negotiating = false) : Settled P (l.goto s) where
  good := h.good
  requested := fun hn => nomatch hs.symm.trans hn
  acknowledged := fun hn => nomatch hs.symm.trans (FsmState.acked_negotiating hn)
  dead := fun hd => absurd hd h.alive

theorem Asked.goto (h : Asked P l.data) (hs : s.acked = false) : Settled P (l.goto s) where
  good := h.good
  requested := fun _ => h.requested
  acknowledged := fun hn => nomatch hs.symm.trans hn
  dead := fun hd => absurd hd h.alive

theorem Agreed.goto (h : Agreed P l.data) (s : FsmState) : Settled P (l.goto s) where
  good := h.good
  requested := fun _ => h.requested
  acknowledged := fun _ => h.acknowledged
  dead := fun hd => absurd hd h.alive

theorem Settled.goto_parked (h : P.good l.data) (hs : s.parked = true) : Settled P (l.goto s) where
  good := h
  requested := fun hn => nomatch hs.symm.trans (FsmState.negotiating_not_parked hn)
  acknowledged := fun hn =>
    nomatch hs.symm.trans (FsmState.negotiating_not_parked (FsmState.acked_negotiating hn))
  dead := fun _ => hs

theorem Settled.congr {l' : Layer δ} (h : Settled P l) (hd : l'.data = l.data)
    (hs : l'.fsm.state = l.fsm.state) : Settled P l' := by
  refine ⟨?_, ?_, ?_, ?_⟩ <;> rw [hd]
  · exact h.good
  · rw [hs]; exact h.requested
  · rw [hs]; exact h.acknowledged
  · rw [hs]; exact h.dead

theorem Kept.alive {d d' : δ} (hk : Kept P d d') (h : Alive P d) : Alive P d' :=
  ⟨hk.good h.good, fun hd => h.alive (hk.dead hd)⟩

theorem Kept.asked {d d' : δ} (hk : Kept P d d') (h : Asked P d) : Asked P d' :=
  { hk.alive h.toAlive with requested := hk.requested h.requested }

theorem Kept.settled {l' : Layer δ} (hk : Kept P l.data l'.data)
    (hs : l'.fsm.state = l.fsm.state) (h : Settled P l) : Settled P l' := by
  refine ⟨hk.good h.good, ?_, ?_, ?_⟩ <;> rw [hs]
  · exact fun hn => hk.requested (h.requested hn)
  · exact fun hn => hk.acknowledged (h.acknowledged hn)
  · exact fun hd => h.dead (hk.dead hd)

/-! ## What the automaton needs -/

structure Steady (P : Phases δ) (f : Layer δ → Layer δ) : Prop where
  kept : ∀ l, Kept P l.data (f l).data
  settled : ∀ l, Settled P l → Settled P (f l)

theorem Plain.steady (hf : Plain P f) : Steady P f :=
  ⟨hf.kept, fun l h => (hf.kept l).settled (hf.state l) h⟩

/-- `Down` are the states in which `layerDown` may be called. -/
structure Callbacks.Fair (cb : Callbacks δ) (P : Phases δ) (Down : FsmState → Prop) : Prop where
  down : ∀ s, s ≠ .starting → Down s
  layerUp : ∀ l, Agreed P l.data → Agreed P (cb.layerUp l).data
  layerDown : ∀ l, Down l.fsm.state → Kept P l.data (cb.layerDown l).data
  layerDown_settled : ∀ l, Down l.fsm.state → Asked P l.data → Settled P l →
    Settled P (cb.layerDown l)
  layerStarted : ∀ l, Kept P l.data (cb.layerStarted l).data
  layerFinished : ∀ l, P.good l.data → l.fsm.state.acked = false → Settled P (cb.layerFinished l)
  request : ∀ l, Alive P l.data → Asked P (cb.request l).data
  request_settled : ∀ l, Alive P l.data → (l.fsm.state.acked = true → P.acknowledged l.data) →
    Settled P (cb.request l)
  request_acceptable : ∀ l, P.acceptable l.data → P.acceptable (cb.request l).data
  request_down : ∀ l, Down l.fsm.state → Down (cb.request l).fsm.state
  sendConfAck : ∀ l, Asked P l.data → P.acceptable l.data → Agreed P (cb.sendConfAck l).data
  sendConfNak : Steady P cb.sendConfNak
  sendConfRej : Steady P cb.sendConfRej
  sendTermReq : Steady P cb.sendTermReq
  sendTermAck : Steady P cb.sendTermAck

theorem Callbacks.Sound.fair (hcb : cb.Sound P) : cb.Fair P (· ≠ .starting) where
  down _ hs := hs
  layerUp := hcb.layerUp
  layerDown := hcb.layerDown
  layerDown_settled l hs ha _ := hcb.layerDown_settled l hs ha
  layerStarted := hcb.layerStarted.kept
  layerFinished l hg _ := hcb.layerFinished l hg
  request := hcb.request
  request_settled l ha hk := by
    have hr := hcb.request l ha
    refine ⟨hr.good, fun _ => hr.requested, fun hn => ?_, fun hd => absurd hd hr.alive⟩
    rw [hcb.request_state] at hn
    exact hcb.request_acknowledged l (hk hn)
  request_acceptable := hcb.request_acceptable
  request_down l hs := by
    rw [hcb.request_state]
    exact hs
  sendConfAck := hcb.sendConfAck
  sendConfNak := hcb.sendConfNak.steady
  sendConfRej := hcb.sendConfRej.steady
  sendTermReq := hcb.sendTermReq.steady
  sendTermAck := hcb.sendTermAck.steady

end Rules

/-! ## The functions of the automaton -/

namespace Callbacks.Fair

variable {δ : Type*} {P : Phases δ} {Down : FsmState → Prop} {cb : Callbacks δ} {l : Layer δ}
variable (hcb : cb.Fair P Down)

include hcb

theorem resend_asked (h : Alive P l.data) : Asked P (cb.resend l).data :=
  hcb.request (decCounter l) h

theorem restart_asked (h : Alive P l.data) (n : Int) : Asked P (cb.restart l n).data :=
  hcb.request (decCounter (initReqCounter l n)) h

theorem rejAcked (h : Settled P l) (ha : Asked P l.data) (hs : Down l.fsm.state) :
    Settled P (rejAcked cb l) := by
  have ha : Asked P (incFailure l).data := ha
  unfold Ppp.rejAcked
  split
  · exact hcb.layerDown_settled (incFailure l) hs ha (h.congr rfl rfl)
  · exact ((hcb.sendConfRej.kept _).asked ha).goto rfl

theorem closeNegotiation (h : Alive P l.data) : Settled P (closeNegotiation cb l) := by
  have ha : Alive P (initReqCounter l l.fsm.maxTerminate).data := h
  exact ((hcb.sendTermReq.kept _).alive ha).goto rfl

variable (h : Settled P l)

include h

theorem resend_settled (hs : l.fsm.state.negotiating = true) : Settled P (cb.resend l) :=
  hcb.request_settled (decCounter l) (h.asked hs).toAlive h.acknowledged

theorem restart_settled (hs : l.fsm.state.negotiating = true) (n : Int) :
    Settled P (cb.restart l n) :=
  hcb.resend_settled (l := initReqCounter l n) (h.congr rfl rfl) hs

theorem downed_alive (hs : l.fsm.state = .opened) : Alive P (cb.layerDown l).data :=
  (hcb.layerDown l (hcb.down _ (by rw [hs]; nofun))).alive (h.alive (by rw [hs]; rfl))

theorem reopened_asked (hs : l.fsm.state = .opened) : Asked P (cb.resend (cb.layerDown l)).data :=
  hcb.resend_asked (hcb.downed_alive h hs)

theorem fsmLowerUp (hd : ¬P.dead l.data) : Settled P (fsmLowerUp cb l).1 := by
  have ha : Alive P l.data := ⟨h.good, hd⟩
  unfold Ppp.fsmLowerUp
  cases hs : l.fsm.state with
  | initial => exact ha.goto rfl
  | starting =>
    dsimp only
    split
    · -- the request failed and the state is `Starting` still
      refine hcb.request_settled (decCounter (initReqCounter l l.fsm.maxConfigure)) ha fun hn => ?_
      rw [show (decCounter (initReqCounter l l.fsm.maxConfigure)).fsm.state = _ from hs] at hn
      cases hn
    · exact (hcb.restart_asked ha l.fsm.maxConfigure).goto rfl
  | _ => exact h

theorem fsmLowerDown : Settled P (fsmLowerDown cb l) := by
  unfold Ppp.fsmLowerDown
  cases hs : l.fsm.state with
  | closed | closing => exact .goto_parked h.good rfl
  | stopped => exact ((hcb.layerStarted l).alive (h.alive (by rw [hs]; rfl))).goto rfl
  | opened => exact (hcb.downed_alive h hs).goto rfl
  | initial | starting => exact h
  | _ => exact (h.alive (by rw [hs]; rfl)).goto rfl

theorem fsmClose : Settled P (fsmClose cb l) := by
  unfold Ppp.fsmClose
  cases hs : l.fsm.state with
  | starting => exact hcb.layerFinished _ h.good rfl
  | stopped => exact .congr (.goto_parked h.good rfl : Settled P (l.goto .closed)) rfl rfl
  | stopping => exact (h.alive (by rw [hs]; rfl)).goto rfl
  | opened =>
    have ha : Alive P (l.goto .closing).data := h.alive (by rw [hs]; rfl)
    exact hcb.closeNegotiation ((hcb.layerDown (l.goto .closing) (hcb.down _ nofun)).alive ha)
  | reqSent | ackRcvd | ackSent => exact hcb.closeNegotiation (h.alive (by rw [hs]; rfl))
  | _ => exact h

theorem fsmTimeout0 : Settled P (fsmTimeout0 cb l) := by
  unfold Ppp.fsmTimeout0
  cases hs : l.fsm.state with
  | closing | stopping => exact hcb.sendTermReq.settled _ (h.congr rfl rfl)
  | ackRcvd => exact hcb.resend_settled ((h.asked (by rw [hs]; rfl)).goto rfl) rfl
  | reqSent | ackSent => exact hcb.resend_settled h (by rw [hs]; rfl)
  | _ => exact h

theorem fsmTimeout1 : Settled P (fsmTimeout1 cb l) := by
  unfold Ppp.fsmTimeout1
  cases l.fsm.state with
  | initial | starting | closed | stopped | opened => exact h
  | _ => exact hcb.layerFinished _ h.good rfl

theorem restartTimerFunc : Settled P (restartTimerFunc cb l) := by
  unfold Ppp.restartTimerFunc
  split
  · exact hcb.fsmTimeout0 h
  · exact hcb.fsmTimeout1 h

theorem fsmRecvConfReqAck (hk : P.acceptable l.data) : Settled P (fsmRecvConfReqAck cb l) := by
  unfold Ppp.fsmRecvConfReqAck
  cases hs : l.fsm.state with
  | closed => exact hcb.sendTermAck.settled _ h
  | stopped =>
    have ha : Alive P l.data := h.alive (by rw [hs]; rfl)
    have hk' : P.acceptable (cb.restart l l.fsm.maxConfigure).data := hcb.request_acceptable _ hk
    exact (hcb.sendConfAck _ (hcb.restart_asked ha _) hk').goto _
  | reqSent | ackSent => exact (hcb.sendConfAck l (h.asked (by rw [hs]; rfl)) hk).goto _
  | ackRcvd =>
    have ha := hcb.sendConfAck l (h.asked (by rw [hs]; rfl)) hk
    exact (hcb.layerUp (stopTimer (cb.sendConfAck l)) ha).goto _
  | opened =>
    have hdown := hcb.layerDown l (hcb.down _ (by rw [hs]; nofun))
    exact (hcb.sendConfAck _ (hcb.reopened_asked h hs)
      (hcb.request_acceptable _ (hdown.acceptable hk))).goto _
  | _ => exact h

theorem fsmRecvConfReqNak : Settled P (fsmRecvConfReqNak cb l) := by
  unfold Ppp.fsmRecvConfReqNak
  cases hs : l.fsm.state with
  | closed => exact hcb.sendTermAck.settled _ h
  | stopped =>
    have ha : Alive P l.data := h.alive (by rw [hs]; rfl)
    exact ((hcb.sendConfNak.kept _).asked (hcb.restart_asked ha l.fsm.maxConfigure)).goto rfl
  | ackSent => exact ((hcb.sendConfNak.kept _).asked (h.asked (by rw [hs]; rfl))).goto rfl
  | reqSent | ackRcvd =>
    dsimp only
    split
    · exact hcb.layerFinished _ h.good (by rw [show (incFailure l).fsm.state = _ from hs]; rfl)
    · exact hcb.sendConfNak.settled _ (h.congr rfl rfl)
  | opened => exact ((hcb.sendConfNak.kept _).asked (hcb.reopened_asked h hs)).goto rfl
  | _ => exact h

theorem fsmRecvConfReqRej : Settled P (fsmRecvConfReqRej cb l) := by
  unfold Ppp.fsmRecvConfReqRej
  cases hs : l.fsm.state with
  | closed => exact hcb.sendTermAck.settled _ h
  | stopped =>
    have ha : Alive P l.data := h.alive (by rw [hs]; rfl)
    refine hcb.rejAcked ?_ (hcb.restart_asked ha l.fsm.maxConfigure) ?_
    · refine hcb.request_settled (decCounter (initReqCounter l l.fsm.maxConfigure)) ha ?_
      exact fun hn => h.acknowledged hn
    · exact hcb.request_down _ (hcb.down _ fun he => nomatch hs.symm.trans he)
  | ackSent => exact hcb.rejAcked h (h.asked (by rw [hs]; rfl)) (hcb.down _ (by rw [hs]; nofun))
  | reqSent | ackRcvd =>
    dsimp only
    split
    · exact hcb.layerFinished _ h.good (by rw [show (incFailure l).fsm.state = _ from hs]; rfl)
    · exact hcb.sendConfRej.settled _ (h.congr rfl rfl)
  | opened => exact ((hcb.sendConfRej.kept _).asked (hcb.reopened_asked h hs)).goto rfl
  | _ => exact h

theorem confAcked : Settled P (confAcked cb l) := by
  unfold Ppp.confAcked
  cases hs : l.fsm.state with
  | closed | stopped => exact hcb.sendTermAck.settled _ h
  | reqSent => exact (h.asked (by rw [hs]; rfl)).goto rfl
  | ackRcvd => exact (hcb.resend_asked (h.alive (by rw [hs]; rfl))).goto rfl
  | ackSent =>
    have ha : Agreed P (stopTimer l).data := h.agreed (by rw [hs]; rfl)
    exact (hcb.layerUp _ ha).goto _
  | opened => exact (hcb.reopened_asked h hs).goto rfl
  | _ => exact h

theorem fsmRecvConfAck : Settled P (fsmRecvConfAck cb l) := hcb.confAcked (h.congr rfl rfl)

theorem confRejected : Settled P (confRejected cb l) := by
  unfold Ppp.confRejected
  have hi : Settled P (incFailure l) := h.congr rfl rfl
  cases hs : l.fsm.state with
  | closed | stopped => exact hcb.sendTermAck.settled _ h
  | reqSent | ackSent =>
    have hi' : (incFailure l).fsm.state = _ := hs
    have hn : (incFailure l).fsm.state.negotiating = true := by rw [hi']; rfl
    dsimp only
    split
    · exact hcb.layerDown_settled _ (hcb.down _ (by rw [hi']; nofun)) (hi.asked hn) hi
    · exact hcb.restart_settled hi hn _
  | ackRcvd => exact (hcb.resend_asked (h.alive (by rw [hs]; rfl))).goto rfl
  | opened => exact (hcb.reopened_asked h hs).goto rfl
  | _ => exact h

theorem fsmRecvConfRej : Settled P (fsmRecvConfRej cb l) := hcb.confRejected (h.congr rfl rfl)

theorem fsmRecvTermReq : Settled P (fsmRecvTermReq cb l) := by
  unfold Ppp.fsmRecvTermReq
  cases hs : l.fsm.state with
  | opened =>
    have ha := (hcb.sendTermAck.kept _).alive (hcb.downed_alive h hs)
    have hz : Alive P (zeroReqCounter (cb.sendTermAck (cb.layerDown l))).data := ha
    exact hz.goto rfl
  | reqSent | ackRcvd | ackSent =>
    exact ((hcb.sendTermAck.kept _).asked (h.asked (by rw [hs]; rfl))).goto rfl
  | _ => exact hcb.sendTermAck.settled _ h

theorem termAcked : Settled P (termAcked cb l) := by
  unfold Ppp.termAcked
  cases hs : l.fsm.state with
  | closing | stopping => exact hcb.layerFinished _ h.good rfl
  | ackRcvd => exact (h.asked (by rw [hs]; rfl)).goto rfl
  | opened => exact (hcb.reopened_asked h hs).goto rfl
  | _ => exact h

theorem fsmRecvTermAck : Settled P (fsmRecvTermAck cb l) := hcb.termAcked (h.congr rfl rfl)

theorem fsmRecvCodeRejBad : Settled P (fsmRecvCodeRejBad cb l) := by
  unfold Ppp.fsmRecvCodeRejBad
  cases hs : l.fsm.state with
  | opened =>
    have ha : Alive P (decCounter (cb.layerDown l)).data := hcb.downed_alive h hs
    exact ((hcb.sendTermReq.kept _).alive ha).goto rfl
  | initial | starting | closed | stopped => exact h
  | _ => exact hcb.layerFinished _ h.good rfl

omit h in
theorem fsmLowerUp_dead (h : P.dead (Ppp.fsmLowerUp cb l).1.data) (hg : P.good l.data) :
    P.dead l.data := by
  refine Classical.byContradiction fun hd => ?_
  have ha : Alive P l.data := ⟨hg, hd⟩
  have hr := hcb.restart_asked ha l.fsm.maxConfigure
  unfold Ppp.fsmLowerUp at h
  cases hs : l.fsm.state <;> rw [hs] at h
  case starting =>
    dsimp only at h
    split at h <;> exact hr.alive h
  all_goals exact hd h

omit h in
theorem fsmLowerDown_dead (h : P.dead (Ppp.fsmLowerDown cb l).data) : P.dead l.data := by
  unfold Ppp.fsmLowerDown at h
  cases hs : l.fsm.state <;> rw [hs] at h
  case stopped => exact (hcb.layerStarted l).dead h
  case opened => exact (hcb.layerDown l (hcb.down _ (by rw [hs]; nofun))).dead h
  all_goals exact h

theorem fsmOpen (hd : ¬P.dead l.data) : Settled P (fsmOpen cb l).1 := by
  have ha : Alive P l.data := ⟨h.good, hd⟩
  unfold Ppp.fsmOpen
  cases hs : l.fsm.state with
  | initial => exact ha.goto rfl
  | closed => exact hcb.request_settled _ ha nofun
  | closing | stopping | stopped | opened =>
    exact hcb.fsmLowerUp (hcb.fsmLowerDown h) fun hdead => hd (hcb.fsmLowerDown_dead hdead)
  | _ => exact h

end Callbacks.Fair

end Ppp
