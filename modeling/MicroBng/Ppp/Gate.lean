import Mathlib.Data.UInt
import MicroBng.Ppp.Chap

/-!
# The authentication gate

The any-login branch of `chap_recv_response` does not ask whether the session has been authenticated
already, as all others do, and by then the identifier has been counted past that of the last
challenge.

* `auth_gate`: apart from it, `ppp_auth_succeeded` succeeds at most once in a session with CHAP-MD5,
  for a right response to the last challenge, before a network layer is started
-/

namespace Ppp.Chap

/-- The response was to the last challenge, and right: the database said so, or it has the
password's value. -/
def Legit (cf : Conf) (c : Call) : Prop :=
  c.response.id = c.challenge.1 ∧
    (cf.anyLogin = true ∨ c.verdict = some .success ∨
      ∃ passwd, c.passwd = some passwd ∧
        c.response.val = expected cf c.response.id passwd c.challenge.2)

/-- `ppp_auth_succeeded` has succeeded. -/
def Passed (s : Session) : Prop := ∃ c ∈ s.calls, c.ok = true

/-- The state of the option of LCP, if there is a method to negotiate. -/
structure OptionOk (auths : List (Method × Bool)) (auth : Option Nat) (reqSent : Bool) : Prop where
  nonempty : auths ≠ []
  unset : auth = none → ∀ d ∈ auths, d.2 = false
  inRange : ∀ i, auth = some i → i < auths.length
  sent : reqSent = true → auth ≠ none

structure Inv (cf : Conf) (s : Session) : Prop where
  once : (s.calls.filter Call.ok).length ≤ 1
  untried : s.chap.started = false → s.calls.filter Call.ok = []
  legit : ∀ c ∈ s.calls, Legit cf c
  startCalls : s.startCalls ≠ 0 → Passed s
  layer : s.authLayer.started = true → Passed s
  net : ∀ d ∈ s.net, d.starting = true → Passed s
  current : s.crashed = false → s.chap.started = false →
    s.chap.registered = true ∨ s.asked ≠ none → s.challenge = (s.chap.id, s.chap.val)
  finished : s.crashed = false → s.terminating = true → s.chap.registered = false
  asked : ∀ f, s.asked = some f → f.id = s.chap.id ∧ s.chap.name.isSome = true
  idle : s.lcp.started = false →
    s.chap.registered = false ∧ s.asked = none ∧ s.authLayer.starting = false
  registered : s.chap.registered = true → s.authLayer.starting = true ∧ s.auth ≠ none
  option : OptionOk s.auths s.auth s.reqSent

section Functions

variable {cf : Conf} {s : Session}

theorem Inv.send (hi : Inv cf s) (m : Msg) : Inv cf (s.send m) := { hi with }

theorem OptionOk.method_ne_none (h : OptionOk s.auths s.auth s.reqSent) (ha : s.auth ≠ none) :
    s.method ≠ none := by
  grind [Session.method, h.inRange]

/-! ## Termination -/

structure Ended (s s' : Session) : Prop where
  calls : s'.calls = s.calls
  id : s'.chap.id = s.chap.id
  started : s'.chap.started = s.chap.started
  asked : s'.asked = s.asked
  unregistered : s'.crashed = false → s'.chap.registered = false

theorem apSessionTerminate_inv (hi : Inv cf s) : Inv cf (apSessionTerminate s) := by
  unfold apSessionTerminate
  split
  · exact hi
  · dsimp only
    split
    · -- the invariant of the layer that is about to be finished, but for `finished`
      unfold authLayerFinish
      split
      · refine { hi with
          current := fun hc hs hr => ?_
          finished := fun _ _ => rfl
          idle := fun h => ⟨rfl, (hi.idle h).2⟩
          registered := nofun }
        exact hi.current hc hs (.inr (hr.resolve_left nofun))
      · exact { hi with current := nofun, finished := nofun }
      · rename_i hst hm
        refine { hi with finished := fun _ _ => ?_ }
        refine Bool.eq_false_iff.2 fun hr => ?_
        exact hi.option.method_ne_none (hi.registered hr).2 hm
    · rename_i hst
      refine { hi with finished := fun _ _ => Bool.eq_false_iff.2 fun hr => ?_ }
      exact hst (hi.registered hr).1

theorem apSessionTerminate_ended (hi : Inv cf s) : Ended s (apSessionTerminate s) := by
  have hterm : (apSessionTerminate s).terminating = true := by
    unfold apSessionTerminate
    split
    · assumption
    · dsimp only
      split
      · unfold authLayerFinish
        split <;> rfl
      · rfl
  refine ⟨?_, ?_, ?_, ?_, fun hc => (apSessionTerminate_inv hi).finished hc hterm⟩
  all_goals
    unfold apSessionTerminate
    split
    · rfl
    · dsimp only
      split
      · unfold authLayerFinish
        split <;> rfl
      · rfl

/-! ## Counting the identifier and calling `ppp_auth_succeeded` -/

theorem Inv.incId (hi : Inv cf s) (ha : s.asked = none)
    (hq : s.crashed = false → s.chap.started = false → s.chap.registered = false) :
    Inv cf (incId s) :=
  { hi with
    current := fun hc hs hr => by
      cases hr with
      | inl hr => exact nomatch (hq hc hs).symm.trans hr
      | inr hr => exact absurd ha hr
    asked := fun f hf => nomatch ha.symm.trans hf }

theorem terminated_incId_inv (hi : Inv cf s) (ha : s.asked = none) :
    Inv cf (Chap.incId (apSessionTerminate s)) := by
  have he := apSessionTerminate_ended hi
  exact (apSessionTerminate_inv hi).incId (he.asked.trans ha) fun hc _ => he.unregistered hc

variable {c : Call} {f : Frame}

theorem Passed.append {s s' : Session} (h : Passed s) (hc : s'.calls = s.calls ++ [c]) :
    Passed s' := by
  obtain ⟨c', hm, ho⟩ := h
  exact ⟨c', hc ▸ List.mem_append_left _ hm, ho⟩

theorem Inv.failed (hi : Inv cf s) (hc : Legit cf c) (ho : c.ok = false) :
    Inv cf { s with calls := s.calls ++ [c] } := by
  have hf : (s.calls ++ [c]).filter Call.ok = s.calls.filter Call.ok := by
    rw [List.filter_append, List.filter_cons_of_neg (by rw [ho]; decide), List.filter_nil,
      List.append_nil]
  have hp : Passed s → Passed { s with calls := s.calls ++ [c] } := fun h => h.append rfl
  exact
    { hi with
      once := by rw [hf]; exact hi.once
      untried := by rw [hf]; exact hi.untried
      legit := fun c' hm => (List.mem_append.1 hm).elim (hi.legit c')
        fun hm => List.mem_singleton.1 hm ▸ hc
      startCalls := fun h => hp (hi.startCalls h)
      layer := fun h => hp (hi.layer h)
      net := fun d hd h => hp (hi.net d hd h) }

theorem Inv.succeeded (hi : Inv cf s) (hs : s.chap.started = false) (hc : Legit cf c)
    (ho : c.ok = true) (interval : Bool) (n : Nat) :
    Inv cf { s with
      calls := s.calls ++ [c]
      username := some c.response.name
      startCalls := n
      chap := { s.chap with started := true, interval := interval } } := by
  have hf : (s.calls ++ [c]).filter Call.ok = [c] := by simp_all [hi.untried]
  have hp : ∃ c' ∈ s.calls ++ [c], c'.ok = true :=
    ⟨c, List.mem_append_right _ (List.mem_singleton.2 rfl), ho⟩
  exact
    { hi with
      once := by rw [hf]; exact Nat.le_refl 1
      untried := nofun
      legit := fun c' hm => (List.mem_append.1 hm).elim (hi.legit c')
        fun hm => List.mem_singleton.1 hm ▸ hc
      startCalls := fun _ => hp
      layer := fun _ => hp
      net := fun _ _ _ => hp
      current := fun _ => nofun }

theorem accept_inv (hi : Inv cf s) (ha : s.asked = none) (setUsername : Bool)
    (hc : s.chap.started = false → Legit cf c) :
    Inv cf (Chap.incId (accept cf setUsername c s)) := by
  unfold accept
  split
  · rename_i hs
    exact (hi.send _).incId ha fun _ hs' => nomatch hs.symm.trans hs'
  rename_i hs
  have hs : s.chap.started = false := Bool.not_eq_true _ ▸ hs
  have hl : Legit cf { c with ok := setUsername } := hc hs
  cases setUsername with
  | false => exact terminated_incId_inv ((hi.failed hl rfl).send (.failure s.chap.id)) ha
  | true =>
    have hok := hi.succeeded hs hl rfl (s.chap.interval || cf.interval) (s.startCalls + 1)
    exact (hok.send (.success s.chap.id)).incId ha fun _ => nofun

theorem acceptAny_inv (hi : Inv cf s) (ha : s.asked = none) (hs : s.chap.started = false)
    (setUsername : Bool) (hc : Legit cf (call s f none none)) :
    Inv cf (acceptAny setUsername f s) := by
  have hl : Legit cf { call s f none none with ok := setUsername } := hc
  cases setUsername with
  | false => exact apSessionTerminate_inv ((hi.failed hl rfl).send (.failure s.chap.id))
  | true =>
    have hok := hi.succeeded hs hl rfl s.chap.interval (s.startCalls + 1)
    exact (hok.send (.success s.chap.id)).incId ha fun _ => nofun

/-! ## Frames, answers and timers -/

section

variable (hi : Inv cf s)

include hi

theorem pppAuthFailed_inv (name : Option (List UInt8)) : Inv cf (pppAuthFailed name s) :=
  apSessionTerminate_inv { hi with }

theorem refuse_inv (name : Option (List UInt8)) : Inv cf (refuse name s) := by
  grind [refuse, apSessionTerminate_inv, hi.send, pppAuthFailed_inv]

theorem refuse_incId_inv (ha : s.asked = none) (name : Option (List UInt8)) :
    Inv cf (Chap.incId (refuse name s)) := by
  unfold refuse
  dsimp only
  split
  · exact terminated_incId_inv (hi.send _) ha
  · have hu : Inv cf { s.send (.failure s.chap.id) with
        username := (s.send (.failure s.chap.id)).username <|> name } := { hi with }
    exact terminated_incId_inv hu ha

theorem legit_current (hcr : s.crashed = false) (hs : s.chap.started = false)
    (hr : s.chap.registered = true ∨ s.asked ≠ none) (hf : f.id = s.chap.id)
    {verdict : Option Pwdb} {passwd : Option (List UInt8)}
    (hv : cf.anyLogin = true ∨ verdict = some .success ∨
      ∃ pw, passwd = some pw ∧ f.val = expected cf f.id pw s.chap.val) :
    Legit cf (call s f verdict passwd) := by
  have hcur := hi.current hcr hs hr
  refine ⟨?_, ?_⟩
  · show f.id = s.challenge.1
    rw [hcur, hf]
  · show _ ∨ _ ∨ ∃ pw, passwd = some pw ∧ f.val = expected cf f.id pw s.challenge.2
    rw [hcur]
    exact hv

theorem Inv.not_asked (hn : ¬s.chap.name.isSome = true) : s.asked = none := by
  cases ha : s.asked with
  | none => rfl
  | some f => exact absurd (hi.asked f ha).2 hn

theorem checkLocally_inv (hcr : s.crashed = false)
    (hr : s.chap.registered = true) (ha : s.asked = none) (env : Env)
    (hf : f.id = s.chap.id) : Inv cf (checkLocally cf env f s) := by
  grind [checkLocally, hi.send, refuse_inv, accept_inv, legit_current]

theorem checkResponse_inv (hcr : s.crashed = false)
    (hr : s.chap.registered = true) (ha : s.asked = none) (env : Env)
    (hf : f.id = s.chap.id) : Inv cf (checkResponse cf env f s) := by
  unfold checkResponse
  split
  · refine { hi with
      current := fun hc hs _ => hi.current hc hs (.inl hr)
      asked := fun f' hf' => ?_
      idle := fun h => nomatch (hi.idle h).1.symm.trans hr }
    cases hf'
    exact ⟨hf, rfl⟩
  · exact checkLocally_inv hi hcr hr ha env hf
  · exact refuse_inv hi _
  simp_all [accept_inv, legit_current]

/-- With any-login, no response to the current identifier after the session was authenticated. -/
def Orderly (cf : Conf) (s : Session) : Event → Prop
  | .frame f _ => cf.anyLogin = true → s.chap.started = true → f.id ≠ s.chap.id
  | _ => True

theorem chapRecvResponse_inv (hcr : s.crashed = false)
    (hr : s.chap.registered = true) (env : Env)
    (ho : cf.anyLogin = true → s.chap.started = true → f.id ≠ s.chap.id) :
    Inv cf (chapRecvResponse cf env f s) := by
  have ht : Inv cf { s with chap := { s.chap with timeout := false } } := { hi with }
  unfold chapRecvResponse
  grind [ht.send, hi.not_asked, refuse_inv, acceptAny_inv, legit_current, checkResponse_inv]

theorem chapRecv_inv (hcr : s.crashed = false) (hr : s.chap.registered = true)
    (env : Env)
    (ho : cf.anyLogin = true → s.chap.started = true → f.id ≠ s.chap.id) :
    Inv cf (chapRecv cf env f s) := by
  grind [chapRecv, chapRecvResponse_inv]

theorem authResult_inv (hcr : s.crashed = false) (granted setUsername : Bool)
    (hf : s.asked = some f) : Inv cf (authResult cf granted setUsername f s) := by
  have hask : s.asked ≠ none := by rw [hf]; nofun
  have hn : Inv cf { s with chap := { s.chap with name := none }, asked := none } :=
    { hi with
      current := fun hc hs _ => hi.current hc hs (.inr hask)
      asked := nofun
      idle := fun h => ⟨(hi.idle h).1, rfl, (hi.idle h).2.2⟩ }
  unfold authResult
  split
  · refine accept_inv hn rfl setUsername fun hs => ?_
    exact legit_current hi hcr hs (.inr hask) (hi.asked f hf).1 (.inr (.inl rfl))
  · exact refuse_incId_inv hn rfl s.chap.name

theorem chapSendChallenge_inv (new : Option (List UInt8)) : Inv cf (chapSendChallenge cf new s) :=
  { hi with current := fun _ _ _ => rfl }

theorem chapTimeoutTimer_inv : Inv cf (chapTimeoutTimer cf s) := by
  have hf : Inv cf { s with chap := { s.chap with failure := s.chap.failure + 1 } } := { hi with }
  grind [chapTimeoutTimer, apSessionTerminate_inv, pppAuthFailed_inv, chapSendChallenge_inv]

end

/-! ## The option of LCP and the layers -/

theorem authSendConfReq_inv (hn : cf.noauth = false) (hi : Inv cf s) :
    Inv cf (authSendConfReq cf s) := by
  have ho := hi.option
  unfold authSendConfReq
  rw [if_neg (fun h => h.elim ho.nonempty fun h => nomatch hn.symm.trans h)]
  split
  · split
    · rename_i i hfind
      refine { hi with
        registered := fun h => ⟨(hi.registered h).1, nofun⟩
        option := ⟨ho.nonempty, nofun, fun j hj => ?_, fun _ => nofun⟩ }
      cases hj
      exact (List.findIdx?_eq_some_iff_findIdx_eq.1 hfind).1
    · refine { hi with option := ⟨ho.nonempty, ho.unset, ho.inRange, fun _ hnone => ?_⟩ }
      -- every method was refused, so one had been chosen
      obtain ⟨d, ds, hd⟩ := List.exists_cons_of_ne_nil ho.nonempty
      simp_all [ho.unset]
  · refine { hi with option := ⟨ho.nonempty, ho.unset, ho.inRange, fun _ hnone => ?_⟩ }
    simp_all [Session.needsMethod]

theorem authRefused_inv (hi : Inv cf s) : Inv cf (authRefused s).1 := by
  have ho := hi.option
  unfold authRefused
  split
  · exact hi
  · rename_i i hs
    refine { hi with option := ⟨fun hnil => ho.nonempty ?_, fun hnone => ?_, fun j hj => ?_, ho.sent⟩ }
    · simp_all
    · exact nomatch hs.symm.trans hnone
    simp_all [ho.inRange]

theorem authLayerStarted_inv (hi : Inv cf s) (hp : Passed s) : Inv cf (authLayerStarted s) := by
  unfold authLayerStarted
  split
  · exact hi
  · dsimp only
    split
    · exact { hi with layer := fun _ => hp, net := fun _ _ _ => hp }
    · exact { hi with layer := fun _ => hp }

theorem pppAuthStarted_inv (hi : Inv cf s) (hs : s.startCalls ≠ 0) : Inv cf (pppAuthStarted s) := by
  have hp := hi.startCalls hs
  have hd : Inv cf { s with startCalls := s.startCalls - 1 } := { hi with startCalls := fun _ => hp }
  unfold pppAuthStarted
  dsimp only
  split
  · exact hd
  · exact authLayerStarted_inv hd hp

theorem chapStart_inv (hi : Inv cf s) (ht : s.terminating = false) (hl : s.lcp.started = false)
    (ha : s.auth ≠ none) (random : List UInt8) :
    Inv cf (chapStart cf random
      { s with
        lcp := { s.lcp with started := true }
        authLayer := { s.authLayer with starting := true } }) := by
  have hask : s.asked = none := (hi.idle hl).2.1
  exact
    { hi with
      current := fun _ _ _ => rfl
      finished := fun _ h => nomatch ht.symm.trans h
      asked := fun f hf => nomatch hask.symm.trans hf
      idle := nofun
      registered := fun _ => ⟨rfl, ha⟩ }

/-! ## Runs -/

theorem step_inv (hn : cf.noauth = false) (s : Session) (e : Event) (s' : Session)
    (hi : Inv cf s) (ho : Orderly cf s e) (h : step cf s e = some s') : Inv cf s' := by
  unfold step at h
  split at h
  · cases h
  rename_i hcr
  have hcr : s.crashed = false := Bool.not_eq_true _ ▸ hcr
  cases e with
  | lcpSendConfReq => cases h; exact authSendConfReq_inv hn hi
  | lcpConfNak => grind [authRefused_inv]
  | lcpConfRej => grind [apSessionTerminate_inv, authRefused_inv]
  | lcpUp random =>
    dsimp only at h
    split at h
    · cases h
    rename_i hg
    rw [not_or, not_or] at hg
    obtain ⟨hl, ht, hreq⟩ := hg
    have ha : s.auth ≠ none := hi.option.sent (Bool.not_eq_false _ ▸ hreq)
    split at h
    · cases h
      unfold authLayerStart
      split
      · exact chapStart_inv hi (Bool.not_eq_true _ ▸ ht) (Bool.not_eq_true _ ▸ hl) ha random
      · rename_i hm
        exact absurd hm (hi.option.method_ne_none ha)
    · cases h
  | frame f env =>
    dsimp only at h
    split at h
    · rename_i hr
      cases h; exact chapRecv_inv hi hcr hr env ho
    · cases h
  | timeout => grind [chapTimeoutTimer_inv]
  | interval random | restart random => grind [chapSendChallenge_inv]
  | answer granted setUsername => grind [authResult_inv]
  | authStarted => grind [pppAuthStarted_inv]
  | terminate => cases h; exact apSessionTerminate_inv hi

end Functions

instance (cf : Conf) (s : Session) (e : Event) : Decidable (Orderly cf s e) := by
  unfold Orderly
  split <;> infer_instance

/-- CHAP-MD5 is the only method; `md5` is the sum of the bytes. -/
def sampleConf (anyLogin : Bool) : Conf where
  noauth := false
  handlers := [.chapMd5]
  timeout := true
  interval := false
  maxFailure := 3
  anyLogin := anyLogin
  md5 := fun bs => List.replicate 16 bs.sum

def response (id : UInt8) (v : UInt8) : Frame := ⟨40, 2, id, 38, 16, List.replicate 16 v, [117]⟩

end Ppp.Chap
