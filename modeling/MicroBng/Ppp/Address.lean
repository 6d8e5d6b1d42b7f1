import MicroBng.Ppp.Ipcp

/-!
# Agreement on the address of the peer

IPCP should acknowledge a request, and be reported as started, only when the request names the
address that is assigned to the peer and no other. In `ipcp_recv_conf_req` the loop that asked the
options which the request does not mention is commented out, and a request that ends a delayed
acknowledgement brings the layer up before its verdict is looked at.

* `judge_ack`, `judge_delay`: what the verdict says of a request
* `address_agreed`: the layer stays `Addressed` in runs without such requests (`SafeEvent`)
-/

namespace Ppp.Ipcp

open Ppp Machine
open Ppp.Ccp (Opt Packet options)

/-! ## What is meant -/

def IsAddr (o : Opt) : Prop := o.id = Kind.ci .addr
deriving Decidable

/-- It has the value `peer`. -/
def Names (peer : Nat) (o : Opt) : Prop := o.len = 6 ∧ o.val = peer

/-- The request has an IP-Address option with value `peer`, and none with another. -/
def NamesOnly (peer : Nat) (opts : List Opt) : Prop :=
  (∃ o ∈ opts, IsAddr o ∧ Names peer o) ∧ ∀ o ∈ opts, IsAddr o → Names peer o

/-- The request names the address that is assigned to the peer. -/
def Data.Agrees (d : Data) (opts : List Opt) : Prop :=
  ∃ ip, d.ipv4 = some ip ∧ NamesOnly ip.peerAddr opts

/-- **Agreement**: only such requests are acknowledged, and start the layer. -/
structure Addressed (d : Data) : Prop where
  acks : ∀ id opts, .confAck id opts ∈ d.out → d.Agrees opts
  up : d.reported = true → ∃ opts, d.upFor = some opts ∧ d.Agrees opts

/-! ## The condition -/

variable (cf : Conf) (env : Env) (l : Layer Data)

def refused (d : Data) (o : Opt) : Bool :=
  match lookup o.id with
  | none => true
  | some .addr => false
  | some k => decide (serverRecvConfReq (d.server k) o ≠ .ack)

def Uniform (opts : List Opt) : Prop :=
  ∀ o ∈ opts, ∀ o' ∈ opts, IsAddr o → IsAddr o' → o.len = o'.len ∧ o.val = o'.val
deriving Decidable

/-- A request names an address or is refused for another option, and no two during a delay. -/
def Safe (d : Data) (opts : List Opt) : Prop :=
  if d.delayAck then Uniform opts
  else (∃ o ∈ opts, IsAddr o) ∨ ∃ o ∈ opts, refused d o = true
deriving Decidable

def SafeEvent (l : Layer Data) : Event → Prop
  | .recv _ p =>
    discards cf l = true ∨ ignores p l = true ∨ p.code ≠ 1 ∨ Safe l.data (options p.mem (p.len - 4))
  | _ => True

instance (cf : Conf) (l : Layer Data) (e : Event) : Decidable (SafeEvent cf l e) := by
  unfold SafeEvent
  split <;> infer_instance

/-! ## What most functions keep -/

/-- No acknowledgement is sent, the layer is not reported, and the assigned address stays. -/
structure Quiet (d d' : Data) : Prop where
  ipv4 : ∀ ip, d.ipv4 = some ip → d'.ipv4 = some ip
  acks : ∀ id opts, .confAck id opts ∈ d'.out → .confAck id opts ∈ d.out
  reported : d'.reported = d.reported
  upFor : d'.upFor = d.upFor
  agreed : d'.agreed = d.agreed
  started : d'.started = d.started
  server : d'.server = d.server

namespace Quiet

variable {d d' d'' : Data}

theorem refl (d : Data) : Quiet d d :=
  ⟨fun _ h => h, fun _ _ h => h, rfl, rfl, rfl, rfl, rfl⟩

theorem trans (h : Quiet d d') (h' : Quiet d' d'') : Quiet d d'' where
  ipv4 ip hip := h'.ipv4 ip (h.ipv4 ip hip)
  acks id opts hm := h.acks id opts (h'.acks id opts hm)
  reported := h'.reported.trans h.reported
  upFor := h'.upFor.trans h.upFor
  agreed := h'.agreed.trans h.agreed
  started := h'.started.trans h.started
  server := h'.server.trans h.server

theorem agrees (h : Quiet d d') {opts : List Opt} (ha : d.Agrees opts) : d'.Agrees opts := by
  obtain ⟨ip, hip, hn⟩ := ha
  exact ⟨ip, h.ipv4 ip hip, hn⟩

theorem addressed (h : Quiet d d') (ha : Addressed d) : Addressed d' where
  acks id opts hm := h.agrees (ha.acks id opts (h.acks id opts hm))
  up hr := by
    obtain ⟨opts, hup, hopts⟩ := ha.up (h.reported ▸ hr)
    exact ⟨opts, h.upFor.trans hup, h.agrees hopts⟩

end Quiet

/-- And the request that is being answered, and its delay, stay. -/
structure Still (d d' : Data) : Prop extends Quiet d d' where
  ropts : d'.ropts = d.ropts
  delayAck : d'.delayAck = d.delayAck

theorem Still.refl (d : Data) : Still d d := ⟨.refl d, rfl, rfl⟩

theorem Still.trans {d d' d'' : Data} (h : Still d d') (h' : Still d' d'') : Still d d'' :=
  ⟨h.toQuiet.trans h'.toQuiet, h'.ropts.trans h.ropts, h'.delayAck.trans h.delayAck⟩

theorem still_send (d : Data) {m : Msg} (hm : ∀ id opts, m ≠ .confAck id opts) :
    Still d (d.send m) := by
  refine ⟨⟨fun _ h => h, fun id opts h => ?_, rfl, rfl, rfl, rfl, rfl⟩, rfl, rfl⟩
  rcases List.mem_append.1 h with h | h
  · exact h
  · exact absurd (List.mem_singleton.1 h).symm (hm id opts)

theorem Still.of_eq {d d' : Data} (hip : d'.ipv4 = d.ipv4) (hout : d'.out = d.out)
    (hrep : d'.reported = d.reported) (hup : d'.upFor = d.upFor) (hagr : d'.agreed = d.agreed)
    (hst : d'.started = d.started) (hro : d'.ropts = d.ropts)
    (hde : d'.delayAck = d.delayAck) (hse : d'.server = d.server) : Still d d' :=
  ⟨⟨fun _ h => hip.trans h, fun _ _ h => hout ▸ h, hrep, hup, hagr, hst, hse⟩, hro, hde⟩

theorem still_needIp (d : Data) : Still d (needIp cf env d).1 := by
  unfold needIp allocIp
  split
  · next hnone =>
    split
    · exact .refl d
    · next ip _ =>
      have hset : Still d { d with ipv4 := some ip } :=
        ⟨⟨fun _ h => (nomatch hnone.symm.trans h), fun _ _ h => h, rfl, rfl, rfl, rfl, rfl⟩, rfl,
          rfl⟩
      grind
  · exact .refl d

theorem still_terminate : Still l.data (apSessionTerminate l).data := by
  have hset : Still l.data { l.data with terminating := true } :=
    .of_eq rfl rfl rfl rfl rfl rfl rfl rfl rfl
  unfold apSessionTerminate
  split
  · exact .refl _
  · dsimp only
    split <;> exact hset

theorem terminate_state :
    (apSessionTerminate l).fsm.state = l.fsm.state ∨
      (apSessionTerminate l).fsm.state.acked = false := by
  unfold apSessionTerminate
  split
  · exact .inl rfl
  · dsimp only
    split
    · exact .inr rfl
    · exact .inl rfl

theorem still_layerFinished : Still l.data (layerFinished cf l).data := by
  show Still l.data (if _ then _ else _ : Layer Data).data
  split
  · show Still l.data (pppLayerPassive l.data)
    unfold pppLayerPassive
    split
    · exact .refl _
    · exact .of_eq rfl rfl rfl rfl rfl rfl rfl rfl rfl
  · exact still_terminate l

theorem still_sendConfReq : Still l.data (sendConfReq cf env l).1.data := by
  have hip := still_needIp cf env l.data
  unfold sendConfReq
  dsimp only
  split
  · exact hip.trans (still_send _ (fun _ _ => nofun))
  · split <;> exact hip

theorem sendConfReq_state :
    (sendConfReq cf env l).1.fsm.state = l.fsm.state ∨
      (sendConfReq cf env l).1.fsm.state.acked = false := by
  unfold sendConfReq
  dsimp only
  split
  · exact .inl rfl
  · split
    · exact .inr rfl
    · exact .inl rfl

theorem still_layerDown :
    Still l.data (layerDown cf env l).data ∧
      ((layerDown cf env l).fsm.state = l.fsm.state ∨
        (layerDown cf env l).fsm.state.acked = false) := by
  unfold layerDown fsmClose
  cases h : l.fsm.state with
  | starting => exact ⟨still_layerFinished cf ((stopTimer l).goto .initial), .inr rfl⟩
  | opened | reqSent | ackRcvd | ackSent => exact ⟨still_send l.data (fun _ _ => nofun), .inr rfl⟩
  | stopped | stopping => exact ⟨.refl _, .inr rfl⟩
  | initial | closed | closing => exact ⟨.refl _, .inl h⟩

/-! ## The callbacks -/

/-- What is kept and agreed on: nothing while an acknowledgement is delayed, nor needed once the
layer is started. -/
def terms : Terms Data where
  good := Addressed
  agreed := fun d => d.delayAck = true ∨ d.started = true ∨
    ∃ opts, d.agreed = some opts ∧ d.Agrees opts
  acceptable := fun d => d.delayAck = false → d.Agrees (d.ropts.map Prod.fst)

section Upholds

variable {d d' : Data} {l : Layer Data}

theorem Still.keeps_agreed (h : Still d d') (ha : terms.agreed d) : terms.agreed d' := by
  rcases ha with ha | ha | ⟨opts, ha, hopts⟩
  · exact .inl (h.delayAck.trans ha)
  · exact .inr (.inl (h.started.trans ha))
  · exact .inr (.inr ⟨opts, h.agreed.trans ha, h.agrees hopts⟩)

theorem Still.acceptable (h : Still d d') (ha : terms.acceptable d) : terms.acceptable d' := by
  intro hd
  rw [h.ropts]
  exact h.agrees (ha (h.delayAck ▸ hd))

theorem keeps_of_still {f : Layer Data → Layer Data} (hd : ∀ l, Still l.data (f l).data)
    (hs : ∀ l, (f l).fsm.state = l.fsm.state ∨ (f l).fsm.state.acked = false) :
    Keeps terms f where
  good l h := (hd l).addressed h
  agreed l h := (hd l).keeps_agreed h
  acceptable l h := (hd l).acceptable h
  state := hs

theorem keeps_send {m : Layer Data → Msg} (hm : ∀ l id opts, m l ≠ .confAck id opts) :
    Keeps terms fun l => onData (fun d => d.send (m l)) l :=
  keeps_of_still (fun l => still_send l.data (hm l)) fun _ => .inl rfl

theorem goUp_addressed (h : Addressed d) {opts : Option (List Opt)}
    (ho : d.started = false → ∃ os, opts = some os ∧ d.Agrees os) : Addressed (goUp opts d) := by
  unfold goUp
  split
  · exact h
  · next hs =>
    split
    · exact ⟨h.acks, h.up⟩
    · exact ⟨h.acks, fun _ => ho (Bool.not_eq_true _ ▸ hs)⟩

theorem goUp_started (opts : Option (List Opt)) (d : Data) : (goUp opts d).started = true := by
  unfold goUp
  split
  · assumption
  · split <;> rfl

theorem layerUp_upholds (hg : Addressed l.data) (ha : terms.agreed l.data) :
    Addressed (layerUp l).data ∧ terms.agreed (layerUp l).data := by
  unfold layerUp
  split
  · exact ⟨hg, ha⟩
  · next hd =>
    refine ⟨goUp_addressed hg fun hs => ?_, .inr (.inl (goUp_started _ _))⟩
    rcases ha with ha | ha | ha
    · exact absurd ha hd
    · exact nomatch hs.symm.trans ha
    · exact ha

theorem sendConfAck_upholds (hg : Addressed l.data) (ha : terms.acceptable l.data) :
    Addressed (sendConfAck l).data ∧ terms.agreed (sendConfAck l).data := by
  unfold sendConfAck
  split
  · next hd => exact ⟨(still_send l.data (m := .termAck l.fsm.recvId) (fun _ _ => nofun)).addressed hg, .inl hd⟩
  · next hd =>
    have hopts := ha (Bool.not_eq_true _ ▸ hd)
    refine ⟨⟨fun id opts hm => ?_, hg.up⟩, .inr (.inr ⟨_, rfl, hopts⟩)⟩
    rcases List.mem_append.1 hm with hm | hm
    · exact hg.acks id opts hm
    · cases List.mem_singleton.1 hm
      exact hopts

theorem callbacks_uphold : (callbacks cf env).Upholds terms where
  layerUp _ hg ha := layerUp_upholds hg ha
  layerDown := keeps_of_still (fun l => (still_layerDown cf env l).1) fun l => (still_layerDown cf env l).2
  layerStarted := .id
  layerFinished := keeps_of_still (still_layerFinished cf) fun _ => .inr rfl
  request := keeps_of_still (still_sendConfReq cf env) (sendConfReq_state cf env)
  sendConfAck _ hg ha := sendConfAck_upholds hg ha
  sendConfNak := keeps_send fun _ _ _ => nofun
  sendConfRej := keeps_send fun _ _ _ => nofun
  sendCodeRej := .id
  sendTermReq := keeps_of_still (fun l => still_send l.data fun _ _ => nofun) fun _ => .inl rfl
  sendTermAck := keeps_send fun _ _ _ => nofun

end Upholds

/-! ## The verdict on a request -/

section Judge

variable {cf : Conf} {env : Env} {l l' : Layer Data} {d : Data} {o : Opt}

theorem lookup_addr (o : Opt) : lookup o.id = some .addr ↔ IsAddr o := by
  constructor
  · intro h
    have hk := List.find?_some h
    exact (of_decide_eq_true hk).symm
  · intro h
    rw [h]
    rfl

inductive AddrJudged (d : Data) (o : Opt) : Data → Verdict → Prop
  | accepted (d' : Data) (ip : Ipv4) (hip : d'.ipv4 = some ip) (hn : Names ip.peerAddr o)
      (hd : Still d { d' with delayAck := d.delayAck }) : AddrJudged d o d' .ack
  | refused (d' : Data) (r : Verdict) (hd : Still d d') (hr : r ≠ .ack) (ht : r ≠ .termack)
      (hc : r = .close → d.ipv4 = none) : AddrJudged d o d' r

theorem ipaddr_judged (cf : Conf) (env : Env) (o : Opt) (d : Data) :
    AddrJudged d o (ipaddrRecvConfReq cf env o d).1 (ipaddrRecvConfReq cf env o d).2 := by
  have hip := still_needIp cf env d
  have hclose : (needIp cf env d).2 = .close → d.ipv4 = none := by grind [needIp]
  have hack : (needIp cf env d).2 ≠ .ack ∧ (needIp cf env d).2 ≠ .termack := by
    grind [needIp, allocIp]
  unfold ipaddrRecvConfReq
  dsimp only
  split
  · exact .refused _ _ hip hack.1 hack.2 hclose
  · split
    · exact .refused _ _ hip hack.1 hack.2 hclose
    · next ip hsome =>
      unfold compareAddr
      split
      · exact .refused _ _ hip nofun nofun nofun
      · next hlen =>
        split
        · next hval =>
          refine .accepted _ ip hsome ⟨Decidable.not_not.1 hlen, hval.symm⟩ ?_
          exact ⟨⟨hip.ipv4, hip.acks, hip.reported, hip.upFor, hip.agreed, hip.started,
            hip.server⟩, hip.ropts, rfl⟩
        · exact .refused _ _ hip nofun nofun nofun

theorem AddrJudged.quiet {d' : Data} {r : Verdict} (h : AddrJudged d o d' r) :
    Quiet d d' ∧ d'.ropts = d.ropts := by
  cases h with
  | accepted ip hip hn hd =>
    exact ⟨⟨hd.ipv4, hd.acks, hd.reported, hd.upFor, hd.agreed, hd.started, hd.server⟩, hd.ropts⟩
  | refused _ hd => exact ⟨hd.toQuiet, hd.ropts⟩

theorem recvConfReqOpt_quiet (cf : Conf) (env : Env) (k : Kind) (o : Opt) (d : Data) :
    Quiet d (recvConfReqOpt cf env k o d).1 ∧ (recvConfReqOpt cf env k o d).1.ropts = d.ropts := by
  unfold recvConfReqOpt
  split
  · exact (ipaddr_judged cf env o d).quiet
  · exact ⟨.refl d, rfl⟩

theorem quiet_judged (o : Opt) (r : Verdict) (d : Data) : Quiet d (judged o r d) :=
  ⟨fun _ h => h, fun _ _ h => h, rfl, rfl, rfl, rfl, rfl⟩

theorem judge_quiet (cf : Conf) (env : Env) (os : List Opt) (ret : Verdict) (l : Layer Data) :
    Quiet l.data (judgeOpts cf env os ret l).1.data ∧
      ((judgeOpts cf env os ret l).1.fsm.state = l.fsm.state ∨
        (judgeOpts cf env os ret l).1.fsm.state.acked = false) := by
  induction os generalizing ret l with
  | nil => exact ⟨.refl _, .inl rfl⟩
  | cons o os ih =>
    unfold judgeOpts
    split
    · obtain ⟨hd, hs⟩ := ih .rej (onData (judged o .rej) l)
      exact ⟨(quiet_judged o .rej l.data).trans hd, hs⟩
    · next k _ =>
      have hq := (recvConfReqOpt_quiet cf env k o l.data).1
      generalize recvConfReqOpt cf env k o l.data = r at hq ⊢
      dsimp only
      split
      · exact ⟨hq.trans (still_send r.1 (m := .termAck l.fsm.recvId) fun _ _ => nofun).toQuiet,
          .inl rfl⟩
      · split
        · split
          · exact ⟨hq.trans (still_terminate ({ l with data := r.1 } : Layer Data)).toQuiet,
              terminate_state ({ l with data := r.1 } : Layer Data)⟩
          · exact ⟨hq.trans (still_send r.1 (m := .protoRej) fun _ _ => nofun).toQuiet, .inl rfl⟩
        · obtain ⟨hd, hs⟩ := ih (ret.worst r.2)
            (onData (judged o r.2) ({ l with data := r.1 } : Layer Data))
          exact ⟨(hq.trans (quiet_judged o r.2 r.1)).trans hd, hs⟩

theorem Verdict.worst_eq_ack {ret r : Verdict} (h : ret.worst r = .ack) : ret = .ack ∧ r = .ack := by
  cases ret <;> cases r <;> first | exact ⟨rfl, rfl⟩ | cases h

theorem recvConfReqOpt_ack (cf : Conf) (env : Env) (d : Data) {k : Kind} (hk : lookup o.id = some k)
    (h : (recvConfReqOpt cf env k o d).2 = .ack) :
    (IsAddr o → ∃ ip, (recvConfReqOpt cf env k o d).1.ipv4 = some ip ∧ Names ip.peerAddr o) ∧
      refused d o = false := by
  unfold recvConfReqOpt at h ⊢
  split at h
  · next ha =>
    subst ha
    refine ⟨fun _ => ?_, by simp only [refused, hk]⟩
    generalize ipaddrRecvConfReq cf env o d = r, ipaddr_judged cf env o d = hj at h ⊢
    obtain ⟨d', v⟩ := r
    cases hj with
    | accepted ip hip hn hd => exact ⟨ip, hip, hn⟩
    | refused _ _ hr => exact absurd h hr
  · next ha =>
    refine ⟨fun haddr => ?_, ?_⟩
    · grind [lookup_addr]
    · unfold refused
      rw [hk]
      cases k with
      | addr => exact absurd rfl ha
      | _ => exact decide_eq_false fun hne => hne h

theorem refused_congr {d d' : Data} (h : d'.server = d.server) (o : Opt) :
    refused d' o = refused d o := by
  unfold refused
  rw [h]

/-- **A request that is judged `ACK`**: every IP-Address option names the address of the peer, and
no option was refused. -/
theorem judge_ack (cf : Conf) (env : Env) (os : List Opt) (ret : Verdict) (l : Layer Data)
    (h : (judgeOpts cf env os ret l).2 = .ack) :
    ret = .ack ∧
      (judgeOpts cf env os ret l).1.data.ropts.map Prod.fst = l.data.ropts.map Prod.fst ++ os ∧
      ∀ o ∈ os, (IsAddr o → ∃ ip, (judgeOpts cf env os ret l).1.data.ipv4 = some ip ∧
        Names ip.peerAddr o) ∧ refused l.data o = false := by
  induction os generalizing ret l with
  | nil => exact ⟨h, by simp [judgeOpts], fun o ho => by cases ho⟩
  | cons o os ih =>
    unfold judgeOpts at h ⊢
    split at h
    · exact nomatch (ih _ _ h).1
    · next k hk =>
      have hq := recvConfReqOpt_quiet cf env k o l.data
      have hack := recvConfReqOpt_ack cf env l.data hk
      generalize recvConfReqOpt cf env k o l.data = r at h hq hack ⊢
      dsimp only at h ⊢
      split at h
      · cases h
      · next hterm =>
        split at h
        · cases h
        · next hclose =>
          rw [if_neg hterm, if_neg hclose]
          obtain ⟨hret, hropts, hall⟩ := ih _ _ h
          obtain ⟨hr, hv⟩ := Verdict.worst_eq_ack hret
          obtain ⟨haddr, href⟩ := hack hv
          have hkeep := (judge_quiet cf env os (ret.worst r.2)
            (onData (judged o r.2) ({ l with data := r.1 } : Layer Data))).1
          refine ⟨hr, ?_, ?_⟩
          · rw [hropts]
            simp [onData, judged, hq.2]
          · intro o' ho'
            rcases List.mem_cons.1 ho' with rfl | ho'
            · refine ⟨fun ha => ?_, href⟩
              obtain ⟨ip, hip, hn⟩ := haddr ha
              exact ⟨ip, hkeep.ipv4 ip hip, hn⟩
            · obtain ⟨ha, hnr⟩ := hall o' ho'
              have hserver : (judged o r.2 r.1).server = l.data.server := hq.1.server
              exact ⟨ha, (refused_congr hserver o').symm.trans hnr⟩

theorem recvConfReqOpt_goes_on (cf : Conf) (env : Env) (k : Kind) (o : Opt) (d : Data) :
    (recvConfReqOpt cf env k o d).2 ≠ .termack ∧
      ((recvConfReqOpt cf env k o d).2 = .close → d.ipv4 = none) := by
  unfold recvConfReqOpt
  split
  · generalize ipaddrRecvConfReq cf env o d = r, ipaddr_judged cf env o d = hj
    obtain ⟨d', v⟩ := r
    cases hj with
    | accepted => exact ⟨nofun, nofun⟩
    | refused _ _ _ ht hc => exact ⟨ht, hc⟩
  grind [serverRecvConfReq]

theorem recvConfReqOpt_terminating (cf : Conf) (env : Env) (k : Kind) (o : Opt) (d : Data) :
    (recvConfReqOpt cf env k o d).1.terminating = d.terminating := by
  grind [needIp, allocIp, recvConfReqOpt, ipaddrRecvConfReq, compareAddr]

def Finished (os : List Opt) (l l' : Layer Data) : Prop :=
  l'.data.ropts.map Prod.fst = l.data.ropts.map Prod.fst ++ os ∧
    l'.data.terminating = l.data.terminating

theorem Finished.cons {os : List Opt} {r : Verdict} (hr : d.ropts = l.data.ropts)
    (ht : d.terminating = l.data.terminating)
    (h : Finished os (onData (judged o r) { l with data := d }) l') : Finished (o :: os) l l' := by
  refine ⟨h.1.trans ?_, h.2.trans ht⟩
  simp [onData, judged, hr]

theorem judge_all {os : List Opt} {ret : Verdict} (hip : l.data.ipv4 ≠ none) :
    Finished os l (judgeOpts cf env os ret l).1 := by
  induction os generalizing ret l with
  | nil => exact ⟨(List.append_nil _).symm, rfl⟩
  | cons o os ih =>
    unfold judgeOpts
    split
    · exact .cons (r := .rej) rfl rfl (ih (l := onData (judged o .rej) l) hip)
    · next k _ =>
      obtain ⟨hterm, hclose⟩ := recvConfReqOpt_goes_on cf env k o l.data
      have hq := recvConfReqOpt_quiet cf env k o l.data
      have ht := recvConfReqOpt_terminating cf env k o l.data
      rw [if_neg hterm, if_neg fun h => hip (hclose h)]
      refine .cons hq.2 ht (ih ?_)
      obtain ⟨ip, h⟩ := Option.ne_none_iff_exists'.1 hip
      exact fun hnone => nomatch hnone.symm.trans (hq.1.ipv4 ip h)

theorem recvConfReqOpt_delay (cf : Conf) (env : Env) (d : Data) {k : Kind} (hk : lookup o.id = some k)
    (h : (recvConfReqOpt cf env k o d).1.delayAck ≠ d.delayAck) :
    IsAddr o ∧ (recvConfReqOpt cf env k o d).2 = .ack ∧
      ∃ ip, (recvConfReqOpt cf env k o d).1.ipv4 = some ip ∧ Names ip.peerAddr o := by
  unfold recvConfReqOpt at h ⊢
  split at h
  · next ha =>
    subst ha
    refine ⟨(lookup_addr o).1 hk, ?_⟩
    generalize ipaddrRecvConfReq cf env o d = r, ipaddr_judged cf env o d = hj at h ⊢
    obtain ⟨d', v⟩ := r
    cases hj with
    | accepted ip hip hn hd => exact ⟨rfl, ip, hip, hn⟩
    | refused _ hd => exact absurd hd.delayAck h
  · exact absurd rfl h

/-- **A request that starts or ends a delay** names the address of the peer, and every option of it
is judged. -/
theorem judge_delay (cf : Conf) (env : Env) (os : List Opt) (ret : Verdict) (l : Layer Data)
    (h : (judgeOpts cf env os ret l).1.data.delayAck ≠ l.data.delayAck) :
    Finished os l (judgeOpts cf env os ret l).1 ∧
      ∃ ip, (judgeOpts cf env os ret l).1.data.ipv4 = some ip ∧
        ∃ o ∈ os, IsAddr o ∧ Names ip.peerAddr o := by
  induction os generalizing ret l with
  | nil => exact absurd rfl h
  | cons o os ih =>
    unfold judgeOpts at h ⊢
    split at h
    · obtain ⟨hfin, ip, hip, o', ho', hn⟩ := ih _ _ h
      exact ⟨.cons (r := .rej) rfl rfl hfin, ip, hip, o', .tail o ho', hn⟩
    · next k hk =>
      obtain ⟨hterm, hclose⟩ := recvConfReqOpt_goes_on cf env k o l.data
      have hq := recvConfReqOpt_quiet cf env k o l.data
      have ht := recvConfReqOpt_terminating cf env k o l.data
      have hdelay := recvConfReqOpt_delay cf env l.data hk
      generalize recvConfReqOpt cf env k o l.data = r at h hterm hclose hq ht hdelay ⊢
      rw [if_neg hterm] at h ⊢
      have hkeep := (judge_quiet cf env os (ret.worst r.2)
        (onData (judged o r.2) ({ l with data := r.1 } : Layer Data))).1
      by_cases hd : r.1.delayAck = l.data.delayAck
      · split at h
        · -- The loop ends here, and the delay is what it was.
          split at h
          · exact absurd ((still_terminate ({ l with data := r.1 } : Layer Data)).delayAck.trans hd) h
          · exact absurd hd h
        · next hc =>
          rw [if_neg hc]
          obtain ⟨hfin, ip, hip, o', ho', hn⟩ := ih _ _ (fun he => h (he.trans hd))
          exact ⟨.cons hq.2 ht hfin, ip, hip, o', .tail o ho', hn⟩
      · obtain ⟨ha, hv, ip, hip, hn⟩ := hdelay hd
        have hc : r.2 ≠ .close := fun hc => nomatch hv.symm.trans hc
        have hsome : (judged o r.2 r.1).ipv4 ≠ none := fun hnone => nomatch hnone.symm.trans hip
        rw [if_neg hc]
        exact ⟨.cons hq.2 ht (judge_all hsome), ip, hkeep.ipv4 ip hip, o, List.mem_cons_self, ha, hn⟩

end Judge

/-! ## Received packets -/

section Recv

variable {cf : Conf} {env : Env} {l l' : Layer Data} {opts : List Opt}

theorem bound_of_quiet (hb : Bound terms l) (hq : Quiet l.data l'.data)
    (hd : l.data.delayAck = true → l'.data.delayAck = true)
    (hs : l'.fsm.state = l.fsm.state ∨ l'.fsm.state.acked = false) : Bound terms l' := by
  refine ⟨hq.addressed hb.good, fun ha => ?_⟩
  rcases hs with hs | hs
  · rcases hb.agreed (hs ▸ ha) with h | h | ⟨opts, h, hopts⟩
    · exact .inl (hd h)
    · exact .inr (.inl (hq.started.trans h))
    · exact .inr (.inr ⟨opts, hq.agreed.trans h, hq.agrees hopts⟩)
  · exact nomatch hs.symm.trans ha

theorem bound_terminate (hb : Bound terms l) : Bound terms (apSessionTerminate l) :=
  bound_of_quiet hb (still_terminate l).toQuiet (fun h => (still_terminate l).delayAck.trans h)
    (terminate_state l)

theorem still_lowerUp (cf : Conf) (env : Env) (l : Layer Data) :
    Still l.data (fsmLowerUp (callbacks cf env) l).1.data ∧
      ((fsmLowerUp (callbacks cf env) l).1.fsm.state = l.fsm.state ∨
        (fsmLowerUp (callbacks cf env) l).1.fsm.state.acked = false) := by
  unfold fsmLowerUp
  cases hs : l.fsm.state with
  | initial => exact ⟨.refl _, .inr rfl⟩
  | starting =>
    have hd := still_sendConfReq cf env (decCounter (initReqCounter l l.fsm.maxConfigure))
    have hst := sendConfReq_state cf env (decCounter (initReqCounter l l.fsm.maxConfigure))
    rw [show (decCounter (initReqCounter l l.fsm.maxConfigure)).fsm.state = _ from hs] at hst
    dsimp only
    split
    · exact ⟨hd, hst⟩
    · exact ⟨hd, .inr rfl⟩
  | _ => exact ⟨.refl _, .inl hs⟩

theorem still_lowerDown (cf : Conf) (env : Env) (l : Layer Data) :
    Still l.data (fsmLowerDown (callbacks cf env) l).data ∧
      (fsmLowerDown (callbacks cf env) l).fsm.state.acked = false := by
  unfold fsmLowerDown
  cases hs : l.fsm.state with
  | opened => exact ⟨(still_layerDown cf env l).1, rfl⟩
  | initial | starting => exact ⟨.refl _, by rw [hs]; rfl⟩
  | _ => exact ⟨.refl _, rfl⟩

theorem still_open (cf : Conf) (env : Env) (l : Layer Data) :
    Still l.data (fsmOpen (callbacks cf env) l).1.data ∧
      ((fsmOpen (callbacks cf env) l).1.fsm.state = l.fsm.state ∨
        (fsmOpen (callbacks cf env) l).1.fsm.state.acked = false) := by
  unfold fsmOpen
  cases hs : l.fsm.state with
  | initial => exact ⟨.refl _, .inr rfl⟩
  | closed =>
    have hst := sendConfReq_state cf env
      ((decCounter (initReqCounter l l.fsm.maxConfigure)).goto .reqSent)
    refine ⟨still_sendConfReq cf env
      ((decCounter (initReqCounter l l.fsm.maxConfigure)).goto .reqSent), .inr ?_⟩
    rcases hst with h | h
    · exact (congrArg FsmState.acked h).trans rfl
    · exact h
  | closing | stopping | stopped | opened =>
    obtain ⟨hd, hst⟩ := still_lowerDown cf env l
    obtain ⟨hd', hst'⟩ := still_lowerUp cf env (fsmLowerDown (callbacks cf env) l)
    refine ⟨hd.trans hd', .inr ?_⟩
    grind
  | _ => exact ⟨.refl _, .inl hs⟩

theorem still_wake (cf : Conf) (env : Env) (r : Verdict) (l : Layer Data) :
    Still l.data (wake cf env r l).data ∧
      ((wake cf env r l).fsm.state = l.fsm.state ∨ (wake cf env r l).fsm.state.acked = false) := by
  unfold wake
  split
  · obtain ⟨hd, hs⟩ := still_lowerUp cf env (onData (fun d => { d with passive := false }) l)
    obtain ⟨hd', hs'⟩ := still_open cf env
      (fsmLowerUp (callbacks cf env) (onData (fun d => { d with passive := false }) l)).1
    have hp : Still l.data { l.data with passive := false } :=
      .of_eq rfl rfl rfl rfl rfl rfl rfl rfl rfl
    refine ⟨hp.trans (hd.trans (hd'.trans (.of_eq rfl rfl rfl rfl rfl rfl rfl rfl rfl))), ?_⟩
    rcases hs' with h | h
    · rcases hs with h' | h'
      · exact .inl (h.trans h')
      · exact .inr ((congrArg FsmState.acked h).trans h')
    · exact .inr h
  · exact ⟨.refl _, .inl rfl⟩

theorem bound_answer (hb : Bound terms l) (delayed : Bool) (r : Verdict)
    (hk : r = .ack → terms.acceptable l.data) :
    Bound terms (answerConfReq cf env delayed r l) := by
  have hcb := (callbacks_uphold cf env).fair
  unfold answerConfReq
  split
  · split
    · next hr =>
      obtain ⟨hg, ha⟩ := sendConfAck_upholds hb.good (hk hr)
      exact ⟨hg, fun _ => ha⟩
    · exact bound_terminate hb
  cases r with
  | ack => exact (hcb.fsmRecvConfReqAck hb.settled (hk rfl)).bound
  | nak => exact (hcb.fsmRecvConfReqNak hb.settled).bound
  | rej => exact (hcb.fsmRecvConfReqRej hb.settled).bound
  | fail => exact bound_terminate hb
  | _ => exact hb

theorem acceptable_of_ack {d0 : Data} {ip? : Option Ipv4}
    (hs : (∃ o ∈ opts, IsAddr o) ∨ ∃ o ∈ opts, refused d0 o = true)
    (hall : ∀ o ∈ opts, (IsAddr o → ∃ ip, ip? = some ip ∧ Names ip.peerAddr o) ∧
      refused d0 o = false) :
    ∃ ip, ip? = some ip ∧ NamesOnly ip.peerAddr opts := by
  rcases hs with ⟨o, ho, ha⟩ | ⟨o, ho, hr⟩
  · obtain ⟨ip, hip, hn⟩ := (hall o ho).1 ha
    refine ⟨ip, hip, ⟨o, ho, ha, hn⟩, fun o' ho' ha' => ?_⟩
    simp_all
  · exact nomatch (hall o ho).2.symm.trans hr

theorem namesOnly_of_uniform {peer : Nat} (hu : Uniform opts)
    (h : ∃ o ∈ opts, IsAddr o ∧ Names peer o) : NamesOnly peer opts := by
  obtain ⟨o, ho, ha, hlen, hval⟩ := h
  refine ⟨⟨o, ho, ha, hlen, hval⟩, fun o' ho' ha' => ?_⟩
  obtain ⟨h1, h2⟩ := hu o' ho' o ho ha' ha
  exact ⟨h1.trans hlen, h2.trans hval⟩

theorem bound_undelay (hg : Addressed l.data) (ha : l.data.Agrees (l.data.ropts.map Prod.fst))
    (hd : l.data.delayAck = false) :
    Bound terms (undelay true l) ∧ terms.acceptable (undelay true l).data := by
  have hup : undelay true l = onData (fun d => goUp (some (d.ropts.map Prod.fst)) d) l := by
    unfold undelay
    rw [if_pos ⟨rfl, hd⟩]
  have hkeep : ∀ d : Data, (goUp (some (d.ropts.map Prod.fst)) d).ropts = d.ropts ∧
      (goUp (some (d.ropts.map Prod.fst)) d).ipv4 = d.ipv4 := by
    grind [goUp]
  rw [hup]
  refine ⟨⟨goUp_addressed hg fun _ => ⟨_, rfl, ha⟩, fun _ => .inr (.inl (goUp_started _ _))⟩, ?_⟩
  intro _
  obtain ⟨ip, hip, hn⟩ := ha
  refine ⟨ip, (hkeep l.data).2.trans hip, ?_⟩
  show NamesOnly _ ((goUp _ l.data).ropts.map Prod.fst)
  rw [(hkeep l.data).1]
  exact hn

theorem bound_clear (h : Bound terms l) :
    Bound terms (onData (fun d => { d with ropts := [] }) l) :=
  bound_of_quiet h ⟨fun _ h => h, fun _ _ h => h, rfl, rfl, rfl, rfl, rfl⟩ id (.inl rfl)

theorem state_trans {s s' s'' : FsmState} (h : s' = s ∨ s'.acked = false)
    (h' : s'' = s' ∨ s''.acked = false) : s'' = s ∨ s''.acked = false := by
  rcases h' with rfl | h'
  · exact h
  · exact .inr h'

variable (hb : Bound terms l)
include hb

theorem bound_recvReq (ht : l.data.terminating = false)
    (hs : Safe l.data opts) : Bound terms (recvReq cf env opts l) := by
  have hl0 := bound_clear hb
  unfold recvReq recvConfReq
  apply bound_clear
  obtain ⟨hq, hst⟩ := judge_quiet cf env opts .ack (onData (fun d => { d with ropts := [] }) l)
  have hdelay := judge_delay cf env opts .ack (onData (fun d => { d with ropts := [] }) l)
  have hack := judge_ack cf env opts .ack (onData (fun d => { d with ropts := [] }) l)
  generalize judgeOpts cf env opts .ack (onData (fun d => { d with ropts := [] }) l) = j
    at hq hst hdelay hack ⊢
  split
  · next hterm =>
    -- A session that is terminated here has no address yet, so that no delay has ended.
    refine bound_of_quiet hl0 hq (fun hd => ?_) hst
    by_contra hne
    have hfin := (hdelay fun he => hne (he.trans hd)).1
    exact nomatch (hfin.2.trans ht).symm.trans hterm
  · obtain ⟨hw, hwst⟩ := still_wake cf env j.2 j.1
    generalize wake cf env j.2 j.1 = w at hw hwst ⊢
    have hqw := hq.trans hw.toQuiet
    unfold Safe at hs
    cases hd : l.data.delayAck with
    | true =>
      rw [if_pos hd] at hs
      cases hd' : w.data.delayAck with
      | false =>
        -- The delay ends with this request.
        obtain ⟨hfin, ip, hip, ho⟩ := hdelay (by
          rw [← hw.delayAck, hd']
          exact fun he => nomatch he.trans hd)
        have hagr : w.data.Agrees (w.data.ropts.map Prod.fst) := by
          refine ⟨ip, hw.ipv4 ip hip, ?_⟩
          rw [hw.ropts, hfin.1]
          exact namesOnly_of_uniform hs ho
        obtain ⟨hbu, hku⟩ := bound_undelay (hqw.addressed hl0.good) hagr hd'
        exact bound_answer hbu _ _ fun _ => hku
      | true =>
        have hup : undelay true w = w := if_neg fun h => nomatch h.2.symm.trans hd'
        rw [hup]
        refine bound_answer (bound_of_quiet hl0 hqw (fun _ => hd') (state_trans hst hwst)) _ _ ?_
        exact fun _ h => nomatch h.symm.trans hd'
    | false =>
      rw [if_neg (by rw [hd]; nofun)] at hs
      refine bound_answer (bound_of_quiet hl0 hqw (fun h => ?_) (state_trans hst hwst)) _ _ ?_
      · exact nomatch hd.symm.trans h
      · intro hr _
        obtain ⟨-, hropts, hall⟩ := hack hr
        obtain ⟨ip, hip, hn⟩ := acceptable_of_ack hs hall
        refine ⟨ip, hw.ipv4 ip hip, ?_⟩
        rw [hw.ropts, hropts]
        exact hn

theorem bound_recv {p : Packet} (hc : SafeEvent cf l (.recv env p)) :
    Bound terms (recv cf env p l) := by
  have hcb := (callbacks_uphold cf env).fair
  unfold recv
  split
  · split
    · exact (keeps_send (m := fun _ => .protoRej) fun _ _ _ => nofun).bound hb
    · exact hb
  · next hdis =>
    split
    · exact hb
    · next hign =>
      have hid : Bound terms ({ l with fsm := { l.fsm with recvId := p.id } } : Layer Data) :=
        hb.congr rfl rfl
      unfold dispatch
      split
      · next hcode =>
        refine bound_recvReq hid ?_ ?_
        · simp_all [discards]
        · rcases hc with h | h | h | h
          · exact absurd h hdis
          · exact absurd h hign
          · exact absurd hcode h
          · exact h
      · exact (hcb.fsmRecvConfAck hid.settled).bound
      · exact (hcb.fsmRecvConfRej hid.settled).bound
      · grind [recvRej, bound_terminate, (hcb.fsmRecvConfRej hid.settled).bound]
      · exact bound_terminate (hcb.fsmRecvTermReq hid.settled).bound
      · exact hid
      · exact (hcb.fsmRecvCodeRejBad hid.settled).bound
      · exact (callbacks_uphold cf env).sendCodeRej.bound hid

theorem bound_set {f : Data → Data} (hf : ∀ d, Still d (f d)) : Bound terms (onData f l) :=
  (keeps_of_still (f := onData f) (fun l => hf l.data) fun _ => .inl rfl).bound hb

theorem bound_start : Bound terms (layerStart cf env l) := by
  have hcb := (callbacks_uphold cf env).fair
  have hst : Bound terms (onData (fun d => { d with ldStarting := true, starting := true }) l) :=
    bound_set hb fun _ => .of_eq rfl rfl rfl rfl rfl rfl rfl rfl rfl
  unfold layerStart
  dsimp only
  split
  · exact hst
  · split
    · exact bound_set hst fun _ => .of_eq rfl rfl rfl rfl rfl rfl rfl rfl rfl
    have hup := hcb.fsmLowerUp hst.settled not_false
    grind [bound_terminate, (hcb.fsmOpen hup not_false).bound]

theorem bound_server (k : Kind) (a : Nat) : Bound terms (onData (setServer k a) l) := by
  have hkeep : ∀ d : Data, Addressed d ∧ (l.fsm.state.acked = true → terms.agreed d) →
      Addressed (setServer k a d) ∧ (l.fsm.state.acked = true → terms.agreed (setServer k a d)) := by
    intro d h
    unfold setServer
    split
    · exact h
    · cases k <;> exact ⟨⟨h.1.acks, h.1.up⟩, h.2⟩
  obtain ⟨hg, ha⟩ := hkeep l.data ⟨hb.good, hb.agreed⟩
  exact ⟨hg, ha⟩

theorem step_bound {e : Event} (hc : SafeEvent cf l e)
    (h : step cf l e = some l') : Bound terms l' := by
  cases e with
  | start env =>
    obtain ⟨-, rfl⟩ := of_enabled_unless h
    exact bound_start hb
  | recv env p =>
    cases h
    exact bound_recv hb hc
  | protoRej env =>
    cases h
    have hcb := (callbacks_uphold cf env).fair
    unfold recvProtoRej
    split
    · exact hb
    · exact (hcb.fsmClose (hcb.fsmLowerDown hb.settled)).bound
  | timer env =>
    obtain ⟨-, rfl⟩ := of_enabled_if h
    exact ((callbacks_uphold cf env).fair.restartTimerFunc hb.settled).bound
  | startTimeout sessionStarting =>
    obtain ⟨-, rfl⟩ := of_enabled_if h
    have hst : Bound terms (onData (fun d => { d with timeout := false }) l) :=
      bound_set hb fun _ => .of_eq rfl rfl rfl rfl rfl rfl rfl rfl rfl
    split
    · exact bound_terminate hst
    · exact hst
  | server k a =>
    cases h
    exact bound_server hb k a
  | terminate =>
    cases h
    exact bound_terminate hb

end Recv

/-- **The address is agreed on** if each request looked at names an address or is refused for
another option, and none during a delay names two. -/
theorem address_agreed (cf : Conf) (id : UInt8) (es : List Event)
    (hg : Guarded (step cf) (SafeEvent cf) (layerInit cf id) es) :
    Throughout (step cf) (fun l => Addressed l.data) (layerInit cf id) es := by
  have hinit : Bound terms (layerInit cf id) :=
    ⟨⟨fun _ _ h => (nomatch h), fun h => (nomatch h)⟩, fun h => (nomatch h)⟩
  exact (hg.throughout (fun _ _ _ hb hc h => step_bound hb hc h) hinit).mono fun _ hb => hb.good

/-! ## Runs -/

def allowed : Conf := ⟨1, false, true, 0, 0, 0, 0, 5, 10, 10⟩

def assigned : Env := ⟨some ⟨0x0a000001, 0x0a000002⟩, false, false, false⟩

def emptyReq : Packet := ⟨6, 1, 1, 4, []⟩

def addrReq : Packet := ⟨12, 1, 1, 10, [3, 6, 10, 0, 0, 2]⟩

def ackOf (id : UInt8) : Packet := ⟨6, 2, id, 4, []⟩

theorem address_agreed_named :
    Guarded (step allowed) (SafeEvent allowed) (layerInit allowed 7)
        [.start assigned, .recv assigned addrReq, .recv assigned (ackOf 7)] ∧
      Throughout (step allowed) (fun l => Addressed l.data) (layerInit allowed 7)
        [.start assigned, .recv assigned addrReq, .recv assigned (ackOf 7)] :=
  have hg : Guarded (step allowed) (SafeEvent allowed) (layerInit allowed 7)
      [.start assigned, .recv assigned addrReq, .recv assigned (ackOf 7)] := by decide +kernel
  ⟨hg, address_agreed _ _ _ hg⟩

/-- **An empty request** is acknowledged, and the layer is reported as started although the peer has
never named an address. -/
theorem empty_request_acknowledged :
    ∃ l, run (step allowed) (layerInit allowed 7)
        [.start assigned, .recv assigned emptyReq, .recv assigned (ackOf 7)] = some l ∧
      .confAck 1 [] ∈ l.data.out ∧ l.data.reported = true ∧ l.data.upFor = some [] ∧
      ¬ Addressed l.data := by
  obtain ⟨l, hr, hack, hrep, hup⟩ : ∃ l, run (step allowed) (layerInit allowed 7)
      [.start assigned, .recv assigned emptyReq, .recv assigned (ackOf 7)] = some l ∧
        .confAck 1 [] ∈ l.data.out ∧ l.data.reported = true ∧ l.data.upFor = some [] := by
    decide +kernel
  refine ⟨l, hr, hack, hrep, hup, fun ha => ?_⟩
  obtain ⟨ip, -, ⟨o, ho, -⟩, -⟩ := ha.acks 1 [] hack
  cases ho

end Ppp.Ipcp
