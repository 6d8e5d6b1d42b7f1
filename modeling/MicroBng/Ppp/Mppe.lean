import MicroBng.Ppp.Ccp
import MicroBng.Ppp.Negotiation

/-!
# Required encryption

In a session whose MPPE policy is `require`, CCP should be reported as started only when the last
request this side acknowledged asked for 128 bit stateless MPPE and keys are installed in both
directions (`Encrypted`). `ccp_recv_conf_req` does not reset the verdict of the option, as its
siblings do, so from the second request on the option is not asked about a request that does not
mention it.

* `recvConfReq_acceptable`: other requests that are acknowledged are acceptable
* `started_encrypted`: CCP starts encrypted in runs without such requests (`Orderly`)
-/

namespace Ppp.Ccp

open Ppp

/-! ## The last acknowledgement -/

def Msg.acked : Msg → Option (List Opt)
  | .confAck _ opts => some opts
  | _ => none

def lastAcked (out : List Msg) : Option (List Opt) := (out.filterMap Msg.acked).getLast?

theorem lastAcked_other (out : List Msg) {m : Msg} (hm : m.acked = none) :
    lastAcked (out ++ [m]) = lastAcked out := by
  simp_all [lastAcked]

theorem lastAcked_ack (out : List Msg) (id : UInt8) (opts : List Opt) :
    lastAcked (out ++ [.confAck id opts]) = some opts := by
  unfold lastAcked
  rw [List.filterMap_append]
  exact List.getLast?_concat

def Opt.RequiresSH (o : Opt) : Prop := o.id = ciMppe ∧ o.len = 6 ∧ o.val = mppeSH

def HasSH (opts : List Opt) : Prop := ∃ o ∈ opts, o.RequiresSH

/-- The last acknowledged request had the required option, and a key is set for sending. -/
def Acknowledged (d : Data) : Prop :=
  (∃ opts, lastAcked d.out = some opts ∧ HasSH opts) ∧ d.txKey.isSome = true

def Requested (d : Data) : Prop := d.rxKey.isSome = true

/-- **What required encryption means**: the last acknowledged request asked for it, and there are
keys in both directions. -/
def Encrypted (d : Data) : Prop := Acknowledged d ∧ Requested d

/-- What a session that requires encryption keeps once CCP has been told to start. -/
structure Required (d : Data) : Prop where
  ldStarting : d.ldStarting = true
  policy : d.policy = 2
  mppe : d.mppe = 1
  encrypted : d.started = true → Encrypted d
  reported : d.reported = true → d.started = true

def phases : Phases Data where
  good := Required
  requested := Requested
  acknowledged := Acknowledged
  acceptable := fun d => HasSH (d.ropts.map Prod.fst) ∧ d.txKey.isSome = true
  dead := fun d => d.passive = true

/-! ## The callbacks -/

section Sound

variable {cf : Conf} {d : Data} {l : Layer Data}

theorem kept_send (d : Data) {m : Msg} (hm : m.acked = none) : Kept phases d (d.send m) := by
  have hack : Acknowledged d → Acknowledged (d.send m) := fun ⟨⟨opts, h, hs⟩, ht⟩ =>
    ⟨⟨opts, (lastAcked_other d.out hm).trans h, hs⟩, ht⟩
  exact
    { good := fun hg =>
        { hg with encrypted := fun h => ⟨hack (hg.encrypted h).1, (hg.encrypted h).2⟩ }
      requested := id
      acknowledged := hack
      acceptable := id
      dead := id }

theorem sendConfAck_acknowledged (h : phases.acceptable l.data) :
    Acknowledged (sendConfAck l).data :=
  ⟨⟨l.data.ropts.map Prod.fst, lastAcked_ack _ _ _, h.1⟩, h.2⟩

theorem sendConfAck_good (hg : phases.good l.data) (h : phases.acceptable l.data) :
    phases.good (sendConfAck l).data :=
  { hg with encrypted := fun hs => ⟨sendConfAck_acknowledged h, (hg.encrypted hs).2⟩ }

theorem layerDown_data (cf : Conf) (hs : l.fsm.state ≠ .starting) :
    Kept phases l.data (layerDown cf l).data ∧
      (layerDown cf l).fsm.state.negotiating = false := by
  have hrefl : Kept phases l.data l.data := ⟨id, id, id, id, id⟩
  unfold layerDown fsmClose
  cases h : l.fsm.state with
  | starting => exact absurd h hs
  | opened | reqSent | ackRcvd | ackSent => exact ⟨kept_send l.data rfl, rfl⟩
  | stopped | stopping => exact ⟨hrefl, rfl⟩
  | initial | closed | closing => exact ⟨hrefl, by rw [h]; rfl⟩

theorem mppeOption_wanted (hk : cf.kernelMppe = true) (hm : d.mppe = 1) :
    mppeOption cf true d = ({ d with rxKey := some d.recvKey }, some mppeSH) := by
  have h1 : ¬d.mppe = -1 := by rw [hm]; decide
  have h0 : ¬d.mppe = 0 := by rw [hm]; decide
  unfold mppeOption
  rw [if_neg h1, if_neg h0, if_neg (by decide), if_pos hk]

theorem mppeOption_data (cf : Conf) (b : Bool) (d : Data) :
    ∃ rx, (mppeOption cf b d).1 = { d with rxKey := rx } := by
  unfold mppeOption
  repeat' split
  all_goals exact ⟨_, rfl⟩

theorem request_data (cf : Conf) (l : Layer Data) :
    ((callbacks cf).request l).data = l.data ∨
      ∃ rx o, ((callbacks cf).request l).data =
        ({ l.data with rxKey := rx } : Data).send (.confReq l.fsm.id o) := by
  show (sendConfReq cf l).1.data = l.data ∨ ∃ rx o, (sendConfReq cf l).1.data = _
  unfold sendConfReq
  split
  · exact .inl rfl
  · obtain ⟨rx, h⟩ := mppeOption_data cf true l.data
    grind

theorem request_asked (hk : cf.kernelMppe = true) (h : Alive phases l.data) :
    Asked phases ((callbacks cf).request l).data := by
  have hp : l.data.passive = false := Bool.not_eq_true _ ▸ h.alive
  have he : ((callbacks cf).request l).data =
      ({ l.data with rxKey := some l.data.recvKey } : Data).send
        (.confReq l.fsm.id (some mppeSH)) := by
    show (sendConfReq cf l).1.data = _
    unfold sendConfReq
    rw [hp, mppeOption_wanted hk h.good.mppe]
    rfl
  rw [he]
  have hg : Required { l.data with rxKey := some l.data.recvKey } :=
    { h.good with encrypted := fun hs => ⟨(h.good.encrypted hs).1, rfl⟩ }
  exact (kept_send _ rfl).asked ⟨⟨hg, h.alive⟩, rfl⟩

theorem apSessionTerminate_good (h : phases.good l.data) :
    phases.good (apSessionTerminate l).data := by
  unfold apSessionTerminate
  split
  · exact h
  · have hg : Required (onData (fun d => { d with terminating := true, active := false }) l).data :=
      { h with }
    dsimp only
    split <;> exact hg

theorem layerFinished_settled (l : Layer Data) (h : phases.good l.data) :
    Settled phases (layerFinished l) := by
  refine .goto_parked ?_ rfl
  split
  · exact apSessionTerminate_good h
  · show Required (pppLayerPassive l.data)
    unfold pppLayerPassive
    split
    · exact h
    · exact { h with }

theorem callbacks_sound (hk : cf.kernelMppe = true) : (callbacks cf).Sound phases where
  layerUp := by
    intro l h
    show Agreed phases (layerUp l).data
    unfold layerUp
    split
    · exact h
    · have hg : Required (pppLayerStarted { l.data with started := true }) :=
        { h.good with
          encrypted := fun _ => ⟨h.acknowledged, h.requested⟩
          reported := fun _ => rfl }
      exact { h with good := hg }
  layerDown := fun l hs => (layerDown_data cf hs).1
  layerDown_settled := by
    intro l hs h
    obtain ⟨hkept, hn⟩ := layerDown_data cf hs
    have ha := hkept.asked h
    exact
      { good := ha.good
        requested := fun _ => ha.requested
        acknowledged := fun hack => nomatch hn.symm.trans (FsmState.acked_negotiating hack)
        dead := fun hd => absurd hd ha.alive }
  layerStarted := ⟨fun _ => ⟨id, id, id, id, id⟩, fun _ => rfl⟩
  layerFinished := layerFinished_settled
  request := fun _ h => request_asked hk h
  request_acknowledged := by
    intro l h
    obtain he | ⟨rx, o, he⟩ := request_data cf l <;> rw [he]
    · exact h
    · exact (kept_send { l.data with rxKey := rx } rfl).acknowledged h
  request_acceptable := by
    intro l h
    obtain he | ⟨rx, o, he⟩ := request_data cf l <;> rw [he]
    · exact h
    · exact h
  request_state := by
    intro l
    show (sendConfReq cf l).1.fsm.state = l.fsm.state
    unfold sendConfReq
    split <;> rfl
  sendConfAck := fun l h hacc =>
    { good := sendConfAck_good h.good hacc
      alive := h.alive
      requested := h.requested
      acknowledged := sendConfAck_acknowledged hacc }
  sendConfNak := ⟨fun l => kept_send l.data rfl, fun _ => rfl⟩
  sendConfRej := ⟨fun l => kept_send l.data rfl, fun _ => rfl⟩
  sendCodeRej := ⟨fun _ => ⟨id, id, id, id, id⟩, fun _ => rfl⟩
  sendTermReq := ⟨fun l => kept_send l.data rfl, fun _ => rfl⟩
  sendTermAck := ⟨fun l => kept_send l.data rfl, fun _ => rfl⟩

end Sound

/-! ## The verdict on a request -/

section Verdict

variable {cf : Conf} {d d' : Data}

theorem Verdict.worst_eq_ack {ret r : Verdict} (h : ret.worst r = .ack) :
    ret = .ack ∧ r = .ack := by
  revert h
  cases ret <;> cases r <;> decide

/-- Judging a request changes the verdicts and the key for sending. -/
def Framed (d d' : Data) : Prop :=
  ∃ st ro tx en co,
    d' = { d with optState := st, ropts := ro, txKey := tx, enabled := en, comp := co }

theorem mppeRecvConfReq_required (hk : cf.kernelMppe = true) (hp : d.policy = 2) (hm : d.mppe = 1)
    (o : Opt) :
    (mppeRecvConfReq cf (some o) d =
        ({ d with txKey := some d.sendKey, enabled := true, comp := true }, .ack) ∧
      o.len = 6 ∧ o.val = mppeSH) ∨
    ∃ r, mppeRecvConfReq cf (some o) d = (d, r) ∧ r ≠ .ack := by
  grind [mppeRecvConfReq, mppeAccept]

/-- The loop over the received options, after `seen`. -/
structure Judged (d : Data) (seen : List Opt) (j : Judge) : Prop where
  framed : Framed d j.data
  txKey : d.txKey.isSome = true → j.data.txKey.isSome = true
  ropts : j.data.ropts.map Prod.fst = seen
  accepted : j.ret = .ack → seen ≠ [] → HasSH seen ∧ j.data.txKey.isSome = true
  optState : seen = [] → j.data.optState = d.optState

theorem judgeOpt_judged (hk : cf.kernelMppe = true) (hp : d.policy = 2) (hm : d.mppe = 1)
    {seen : List Opt} {j : Judge} (h : Judged d seen j) (o : Opt) :
    Judged d (seen ++ [o]) (judgeOpt cf j o) := by
  obtain ⟨⟨st, ro, tx, en, co, hj⟩, htx, hro, -, -⟩ := h
  have hnil : seen ++ [o] = [] → (judgeOpt cf j o).data.optState = d.optState :=
    fun he => absurd he (List.append_ne_nil_of_right_ne_nil _ (List.cons_ne_nil _ _))
  have hmap : ∀ v, (j.data.ropts ++ [(o, v)]).map Prod.fst = seen ++ [o] := fun v => by
    rw [List.map_append, hro]; rfl
  have hpj : j.data.policy = 2 := by rw [hj]; exact hp
  have hmj : j.data.mppe = 1 := by rw [hj]; exact hm
  revert hnil
  unfold judgeOpt
  split
  · rename_i hid
    obtain ⟨he, hlen, hval⟩ | ⟨r, he, hr⟩ := mppeRecvConfReq_required hk hpj hmj o
    · rw [he]
      intro hnil
      refine ⟨⟨_, _, _, _, _, by rw [hj]⟩, fun _ => rfl, hmap _, fun _ _ => ⟨?_, rfl⟩, hnil⟩
      exact ⟨o, List.mem_append_right _ (List.mem_singleton.2 rfl), hid, hlen, hval⟩
    · rw [he]
      intro hnil
      refine ⟨⟨_, _, _, _, _, by rw [hj]⟩, htx, hmap _, fun ha => ?_, hnil⟩
      exact absurd (Verdict.worst_eq_ack ha).2 hr
  · intro hnil
    exact ⟨⟨_, _, _, _, _, by rw [hj]⟩, htx, hmap _, nofun, hnil⟩

theorem judge_judged (hk : cf.kernelMppe = true) (hp : d.policy = 2) (hm : d.mppe = 1)
    (opts : List Opt) {seen : List Opt} {j : Judge} (h : Judged d seen j) :
    Judged d (seen ++ opts) (opts.foldl (judgeOpt cf) j) := by
  induction opts generalizing seen j with
  | nil => rw [List.append_nil]; exact h
  | cons o opts ih =>
    rw [List.append_cons]
    exact ih (judgeOpt_judged hk hp hm h o)

/-- **A request that is judged `ACK` is acceptable**, if it has an option or if the option has no
verdict from an earlier request. -/
theorem recvConfReq_acceptable (hk : cf.kernelMppe = true) (hp : d.policy = 2) (hm : d.mppe = 1)
    (opts : List Opt) :
    Framed d (recvConfReq cf opts d).1 ∧
      (d.txKey.isSome = true → (recvConfReq cf opts d).1.txKey.isSome = true) ∧
      (opts ≠ [] ∨ d.optState = .none → (recvConfReq cf opts d).2 = .ack →
        phases.acceptable (recvConfReq cf opts d).1) := by
  have h0 : Judged d [] ⟨{ d with ropts := [] }, .ack, false⟩ :=
    ⟨⟨_, _, _, _, _, rfl⟩, id, rfl, fun _ h => absurd rfl h, fun _ => rfl⟩
  have h := judge_judged hk hp hm opts h0
  obtain ⟨⟨st, ro, tx, en, co, hj⟩, htx, hro, hacc, hst⟩ := h
  unfold recvConfReq judgeMissing
  have hpj : (opts.foldl (judgeOpt cf) ⟨{ d with ropts := [] }, .ack, false⟩).data.policy = 2 := by
    rw [hj]; exact hp
  split
  · -- the option is missing: it is judged `NAK`
    unfold mppeRecvConfReq
    rw [if_pos hpj]
    refine ⟨⟨_, _, _, _, _, by rw [hj]⟩, htx, fun _ ha => ?_⟩
    exact absurd (Verdict.worst_eq_ack ha).2 nofun
  · rename_i hne
    refine ⟨⟨_, _, _, _, _, hj⟩, htx, fun hc ha => ?_⟩
    have hopts : opts ≠ [] := fun hnil => hne ((hst hnil).trans (hc.resolve_left (absurd hnil)))
    exact ⟨(congrArg HasSH hro).mpr (hacc ha hopts).1, (hacc ha hopts).2⟩

end Verdict

/-! ## Packets -/

section Recv

variable {cf : Conf} {l : Layer Data}

theorem apSessionTerminate_settled (h : Settled phases l) :
    Settled phases (apSessionTerminate l) := by
  unfold apSessionTerminate
  split
  · exact h
  · have hg : Required (onData (fun d => { d with terminating := true, active := false }) l).data :=
      { h.good with }
    dsimp only
    split
    · exact .goto_parked hg rfl
    · exact { h with good := hg }

theorem Framed.settled {d' : Data} (hf : Framed l.data d')
    (htx : l.data.txKey.isSome = true → d'.txKey.isSome = true) (h : Settled phases l) :
    Settled phases { l with data := d' } := by
  obtain ⟨st, ro, tx, en, co, rfl⟩ := hf
  have hg : Required { l.data with
      optState := st, ropts := ro, txKey := tx, enabled := en, comp := co } :=
    { h.good with
      encrypted := fun hs =>
        ⟨⟨(h.good.encrypted hs).1.1, htx (h.good.encrypted hs).1.2⟩, (h.good.encrypted hs).2⟩ }
  exact
    { good := hg
      requested := h.requested
      acknowledged := fun ha => ⟨(h.acknowledged ha).1, htx (h.acknowledged ha).2⟩
      dead := h.dead }

variable (hk : cf.kernelMppe = true) (h : Settled phases l)
include hk h

theorem open_settled (hp : l.data.passive = false) :
    Settled phases (fsmOpen (callbacks cf) (fsmLowerUp (callbacks cf) l).1).1 := by
  have hcb := (callbacks_sound hk).fair
  have hd : ¬phases.dead l.data := fun hd => nomatch hp.symm.trans hd
  exact hcb.fsmOpen (hcb.fsmLowerUp h hd) fun hdead => hd (hcb.fsmLowerUp_dead hdead h.good)

theorem wake_settled : Settled phases (wake cf l) := by
  unfold wake
  split
  · have hg : Required (onData (fun d => { d with passive := false }) l).data := { h.good with }
    have hl : Settled phases (onData (fun d => { d with passive := false }) l) :=
      ⟨hg, h.requested, h.acknowledged, nofun⟩
    exact open_settled hk hl rfl
  · exact h

omit h in
theorem wake_acceptable
    (hs : l.data.passive = true → l.fsm.state = .initial) (h : phases.acceptable l.data) :
    phases.acceptable (wake cf l).data := by
  unfold wake
  split
  · rename_i hp
    have hl : (onData (fun d => { d with passive := false }) l).fsm.state = .initial := hs hp
    dsimp only
    unfold fsmLowerUp
    rw [hl]
    exact (callbacks_sound hk).request_acceptable _ h
  · exact h

theorem answerConfReq_settled {r : Verdict}
    (ha : r = .ack → phases.acceptable l.data) : Settled phases (answerConfReq cf r l) := by
  have hcb := (callbacks_sound hk).fair
  unfold answerConfReq
  split
  · split
    · rename_i hr
      have hack := sendConfAck_acknowledged (ha hr)
      exact
        { good := sendConfAck_good h.good (ha hr)
          requested := h.requested
          acknowledged := fun _ => hack
          dead := h.dead }
    · exact apSessionTerminate_settled h
  grind [hcb.fsmRecvConfReqAck, hcb.fsmRecvConfReqNak, hcb.fsmRecvConfReqRej,
    apSessionTerminate_settled]

theorem recvReq_settled (hs : l.fsm.state ≠ .closed) {opts : List Opt}
    (ho : opts ≠ [] ∨ l.data.optState = .none) : Settled phases (recvReq cf opts l) := by
  obtain ⟨hf, htx, hacc⟩ := recvConfReq_acceptable hk h.good.policy h.good.mppe opts
  have hj : Settled phases { l with data := (recvConfReq cf opts l.data).1 } := hf.settled htx h
  have hw : (recvConfReq cf opts l.data).2 = .ack →
      phases.acceptable (wake cf { l with data := (recvConfReq cf opts l.data).1 }).data := by
    intro ha
    refine wake_acceptable hk (fun hp => ?_) (hacc ho ha)
    have hpark := hj.dead hp
    revert hpark hs
    cases l.fsm.state <;> decide
  have hans := answerConfReq_settled hk (wake_settled hk hj) hw
  have hg : Required { (answerConfReq cf (recvConfReq cf opts l.data).2
      (wake cf { l with data := (recvConfReq cf opts l.data).1 })).data with ropts := [] } :=
    { hans.good with }
  exact { hans with good := hg }

omit hk h in
theorem recvConfNak_required {d : Data} (h : d.policy = 2) (opts : List Opt) :
    recvConfNak opts d = d := by
  have h1 : ∀ o, mppeRecvConfNak o d = d := fun o => by
    unfold mppeRecvConfNak
    rw [if_neg (by rw [h]; exact fun hc => absurd hc.2 (by decide))]
  unfold recvConfNak
  induction opts.filter fun o => o.id = ciMppe with
  | nil => rfl
  | cons o os ih => rw [List.foldl_cons, h1]; exact ih

omit hk h in
theorem recvConfRej_required {d : Data} (h : d.policy = 2) (opts : List Opt) (b : Bool) :
    ((opts.filter fun o => o.id = ciMppe).foldl
      (fun r _ => ((mppeRecvConfRej r.1).1, r.2 || (mppeRecvConfRej r.1).2)) (d, b)).1 = d := by
  have h1 : (mppeRecvConfRej d).1 = d := by
    unfold mppeRecvConfRej
    rw [if_neg (not_not.2 h)]
  induction opts.filter fun o => o.id = ciMppe generalizing b with
  | nil => rfl
  | cons o os ih => rw [List.foldl_cons, h1]; exact ih _

theorem recvRej_settled (opts : List Opt) : Settled phases (recvRej cf opts l) := by
  have hd : (recvConfRej opts l.data).1 = l.data := recvConfRej_required h.good.policy opts false
  unfold recvRej
  dsimp only
  rw [hd]
  split
  · exact apSessionTerminate_settled h
  · exact (callbacks_sound hk).fair.fsmRecvConfRej h

theorem dispatch_settled (hs : l.fsm.state ≠ .closed) {code : Nat} {opts : List Opt}
    (ho : code = 1 → opts ≠ [] ∨ l.data.optState = .none) :
    Settled phases (dispatch cf code opts l) := by
  have hcb := (callbacks_sound hk).fair
  unfold dispatch
  split
  · exact recvReq_settled hk h hs (ho rfl)
  · exact hcb.fsmRecvConfAck h
  · unfold onData
    rw [recvConfNak_required h.good.policy]
    exact hcb.fsmRecvConfRej h
  · exact recvRej_settled hk h _
  · exact hcb.fsmClose (hcb.fsmRecvTermReq h)
  · exact hcb.fsmRecvTermAck h
  · exact hcb.fsmRecvCodeRejBad h
  · exact (callbacks_sound hk).sendCodeRej.steady.settled _ h

theorem recv_settled {p : Packet} (hc : discards l = false → p.code = 1 →
      options p.mem (p.len - 4) ≠ [] ∨ l.data.optState = .none) :
    Settled phases (recv cf p l) := by
  unfold recv
  split
  · split
    · have hp : Kept phases l.data (onData (fun d => d.send .protoRej) l).data :=
        kept_send l.data rfl
      exact hp.settled rfl h
    · exact h
  grind [discards, h.congr, dispatch_settled]

end Recv

/-! ## Runs -/

structure Fresh (l : Layer Data) : Prop where
  state : l.fsm.state = .initial
  restartTimer : l.fsm.restartTimer = false
  ldStarting : l.data.ldStarting = false
  starting : l.data.starting = false
  started : l.data.started = false
  reported : l.data.reported = false
  wanted : l.data.policy = 2 → (l.data.mppe = 0 ∨ l.data.mppe = 1) ∧ l.data.passive = false

structure Released (d : Data) : Prop where
  ldStarting : d.ldStarting = true
  policy : d.policy ≠ 2
  encrypted : d.reported = true → Encrypted d

def Inv (l : Layer Data) : Prop := Fresh l ∨ Settled phases l ∨ Released l.data

/-- The session requires encryption, from when CCP is started on. -/
def PolicyRequire (l : Layer Data) (e : Event) : Prop :=
  l.data.ldStarting = true ∨ e = .start → l.data.policy = 2

/-- CCP is enabled and the keys have not turned MPPE off; a request looked at has an option, unless
it has no verdict yet. -/
def Orderly (cf : Conf) (l : Layer Data) : Event → Prop
  | .start => cf.confCcp = true ∧ l.data.mppe ≠ 0
  | .keys k => l.data.ldStarting = true → k.policy = -1 ∨ k.type &&& 4 ≠ 0
  | .recv p => discards l = false → p.code = 1 →
      options p.mem (p.len - 4) ≠ [] ∨ l.data.optState = .none
  | _ => True

section Step

variable {cf : Conf} {l l' : Layer Data}

theorem layerInit_fresh (cf : Conf) (id : UInt8) : Fresh (layerInit cf id) := by
  refine ⟨rfl, rfl, rfl, rfl, rfl, rfl, ?_⟩
  dsimp only [layerInit]
  cases cf.mppe <;> decide

theorem Fresh.terminate (h : Fresh l) : Fresh (apSessionTerminate l) := by
  unfold apSessionTerminate
  split
  · exact h
  · dsimp only
    split
    · rename_i hl
      exact nomatch h.ldStarting.symm.trans hl
    · exact { h with }

theorem Fresh.recv (h : Fresh l) (p : Packet) : Fresh (recv cf p l) := by
  have hd : discards l = true := by
    unfold discards
    rw [h.starting]
    rfl
  unfold Ccp.recv
  rw [if_pos hd]
  split
  · exact { h with }
  · exact h

theorem Fresh.recvProtoRej (h : Fresh l) : Fresh (recvProtoRej cf l) := by
  grind [Ccp.recvProtoRej, h.terminate, h.state]

theorem Fresh.keys (h : Fresh l) (k : Keys) : Fresh (onData (evMppeKeys cf k) l) := by
  unfold onData evMppeKeys
  split
  · exact { h with }
  split
  · exact { h with wanted := fun hp => ⟨.inl rfl, (h.wanted hp).2⟩ }
  split
  · exact { h with }
  split
  · exact { h with wanted := fun _ => ⟨.inr rfl, rfl⟩ }
  rename_i hp
  split
  · exact { h with wanted := fun hp => absurd hp (show ¬(1 : Int) = 2 by decide) }
  · exact { h with wanted := fun hp' => absurd hp' hp }

variable (hk : cf.kernelMppe = true)
include hk

theorem Fresh.start (h : Fresh l) (hp : l.data.policy = 2)
    (hc : cf.confCcp = true) (hm : l.data.mppe ≠ 0) : Settled phases (layerStart cf l) := by
  obtain ⟨hmppe, hpassive⟩ := h.wanted hp
  have hg : Required { l.data with ldStarting := true, starting := true } :=
    { ldStarting := rfl
      policy := hp
      mppe := hmppe.resolve_left hm
      encrypted := fun hs => nomatch h.started.symm.trans hs
      reported := fun hr => nomatch h.reported.symm.trans hr }
  have hs : Settled phases { l with data := { l.data with ldStarting := true, starting := true } } :=
    { good := hg
      requested := fun hn => by rw [show _ = FsmState.initial from h.state] at hn; cases hn
      acknowledged := fun hn => by rw [show _ = FsmState.initial from h.state] at hn; cases hn
      dead := fun hd => nomatch hpassive.symm.trans hd }
  have ho := open_settled hk hs hpassive
  unfold layerStart
  dsimp only
  rw [if_neg (by rw [hc]; decide)]
  split
  · exact hs
  · split
    · exact apSessionTerminate_settled ho
    · exact ho

omit hk in
theorem keys_inv (h : Settled phases l) {k : Keys} (hkeys : k.policy = -1 ∨ k.type &&& 4 ≠ 0) :
    Inv (onData (evMppeKeys cf k) l) := by
  have henc : l.data.reported = true → Encrypted l.data :=
    fun hr => h.good.encrypted (h.good.reported hr)
  have hsame : Settled phases
      { l with data := { l.data with recvKey := k.recvKey, sendKey := k.sendKey } } :=
    { h with good := { h.good with } }
  unfold onData evMppeKeys
  split
  · exact .inr (.inl hsame)
  rename_i hp
  rw [if_neg (hkeys.resolve_left hp)]
  split
  · exact .inr (.inl hsame)
  split
  · exact .inr (.inl { h with good := { h.good with policy := rfl, mppe := rfl }, dead := nofun })
  rename_i hp2
  split
  · exact .inr (.inr ⟨h.good.ldStarting, (show (1 : Int) ≠ 2 by decide), henc⟩)
  · exact .inr (.inr ⟨h.good.ldStarting, hp2, henc⟩)

theorem step_fresh (h : Fresh l) {e : Event}
    (hp : PolicyRequire l e) (ho : Orderly cf l e) (hs : step cf l e = some l') : Inv l' := by
  cases e with
  | start =>
    dsimp only [step] at hs
    rw [h.ldStarting] at hs
    cases hs
    exact .inr (.inl (h.start hk (hp (.inr rfl)) ho.1 ho.2))
  | recv p => cases hs; exact .inl (h.recv p)
  | protoRej => cases hs; exact .inl h.recvProtoRej
  | timer =>
    dsimp only [step] at hs
    rw [h.restartTimer] at hs
    cases hs
  | keys k => cases hs; exact .inl (h.keys k)
  | activate =>
    obtain ⟨-, rfl⟩ := Machine.of_enabled_unless hs
    exact .inl { h with }
  | terminate => cases hs; exact .inl h.terminate

theorem step_settled (h : Settled phases l) {e : Event}
    (ho : Orderly cf l e) (hs : step cf l e = some l') : Inv l' := by
  have hcb := (callbacks_sound hk).fair
  cases e with
  | start =>
    dsimp only [step] at hs
    rw [h.good.ldStarting] at hs
    cases hs
  | recv p => cases hs; exact .inr (.inl (recv_settled hk h ho))
  | protoRej =>
    cases hs
    refine .inr (.inl ?_)
    grind [recvProtoRej, apSessionTerminate_settled, hcb.fsmClose, hcb.fsmLowerDown]
  | timer =>
    obtain ⟨-, rfl⟩ := Machine.of_enabled_if hs
    exact .inr (.inl (hcb.restartTimerFunc h))
  | keys k => cases hs; exact keys_inv h (ho h.good.ldStarting)
  | activate =>
    obtain ⟨-, rfl⟩ := Machine.of_enabled_unless hs
    exact .inr (.inl { h with good := { h.good with } })
  | terminate => cases hs; exact .inr (.inl (apSessionTerminate_settled h))

theorem step_inv (l : Layer Data) (e : Event) (l' : Layer Data)
    (h : Inv l) (hc : PolicyRequire l e ∧ Orderly cf l e) (hs : step cf l e = some l') :
    Inv l' := by
  obtain h | h | h := h
  · exact step_fresh hk h hc.1 hc.2 hs
  · exact step_settled hk h hc.2 hs
  · exact absurd (hc.1 (.inl h.ldStarting)) h.policy

end Step

instance (l : Layer Data) (e : Event) : Decidable (PolicyRequire l e) :=
  match e with
  | .start => decidable_of_iff (l.data.policy = 2) ⟨fun h _ => h, fun h => h (.inr rfl)⟩
  | .recv _ | .protoRej | .timer | .keys _ | .activate | .terminate =>
    decidable_of_iff (l.data.ldStarting = true → l.data.policy = 2)
      ⟨fun h hs => h (hs.resolve_right nofun), fun h hl => h (.inl hl)⟩

instance (cf : Conf) (l : Layer Data) (e : Event) : Decidable (Orderly cf l e) := by
  unfold Orderly
  split <;> infer_instance

/-- **Required encryption**: in every orderly run, with a kernel that accepts the keys, CCP is
started only when the last acknowledged request asked for MPPE and keys are installed in both
directions. -/
theorem started_encrypted (cf : Conf) (id : UInt8) (hk : cf.kernelMppe = true) (es : List Event)
    (t : Layer Data)
    (hg : Machine.Guarded (step cf) (fun l e => PolicyRequire l e ∧ Orderly cf l e)
      (layerInit cf id) es)
    (hr : Machine.run (step cf) (layerInit cf id) es = some t) (hrep : t.data.reported = true) :
    Encrypted t.data := by
  have hi : Inv t := hg.invariant (step_inv hk) (.inl (layerInit_fresh cf id)) hr
  obtain h | h | h := hi
  · exact nomatch h.reported.symm.trans hrep
  · exact h.good.encrypted (h.good.reported hrep)
  · exact h.encrypted hrep

def requireConf : Conf := ⟨true, .allow, some .require, 2, 3, 10, true⟩

def confPacket (code : Nat) (opts : List UInt8) : Packet := ⟨1500, code, 0, opts.length + 4, opts⟩

def optSH : List UInt8 := [18, 6, 1, 0, 0, 64]

def orderlyRun : List Event :=
  [.start, .recv (confPacket 1 []), .recv (confPacket 1 optSH), .recv (confPacket 2 optSH)]

theorem started_encrypted_suggested :
    requireConf.kernelMppe = true ∧
      ∃ t, Machine.run (step requireConf) (layerInit requireConf 0) orderlyRun = some t ∧
        t.data.reported = true ∧ Encrypted t.data := by
  obtain ⟨t, hr, ht⟩ : ∃ t, Machine.run (step requireConf) (layerInit requireConf 0) orderlyRun =
      some t ∧ t.data.reported = true := by decide +kernel
  exact ⟨rfl, t, hr, ht, started_encrypted requireConf 0 rfl orderlyRun t (by decide +kernel) hr ht⟩

def emptyTwice : List Event :=
  [.start, .recv (confPacket 1 []), .recv (confPacket 1 []), .recv (confPacket 2 optSH)]

/-- The second request without options is acknowledged, because the verdict on the first one is
still there. -/
theorem started_unencrypted :
    requireConf.kernelMppe = true ∧ requireConf.confCcp = true ∧
      ∃ t, Machine.run (step requireConf) (layerInit requireConf 0) emptyTwice = some t ∧
        t.data.policy = 2 ∧ t.data.mppe = 1 ∧ t.data.reported = true ∧
        lastAcked t.data.out = some [] ∧ t.data.txKey = none := by
  decide +kernel

end Ppp.Ccp
