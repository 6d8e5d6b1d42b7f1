import MicroBng.Ppp.Chap

/-!
# The timeout of CHAP-MD5 and MSCHAP-v2

`auth/auth_chap_md5.c` and `auth/auth_mschap_v2.c` handle challenges, responses and timers in the
same way. Here both are instances of one handler, seen from the peer: `latest` is the last challenge
and what became of it. Both delete the timeout when a response arrives, before they look at it, and
ignore a response with another identifier. CHAP-MD5 without a password for a name sends a failure
and neither ends the session nor starts the timer.

* `view_chapRecv`: CHAP-MD5 inside the authentication layer is this handler
* `challenge_timed`: a challenge that waits is timed if the responses have its identifier
-/

namespace Ppp.ChapTimeout

open Machine
open Ppp.Chap (Frame Pwdb AuthData)

/-! ## State -/

inductive Verdict
  | awaited | accepted | refused
  deriving DecidableEq

/-- A session. `latest` is the last challenge's identifier and what became of it. -/
structure Session where
  chap : AuthData
  terminating : Bool
  latest : Option (UInt8 × Verdict)

def Session.init : Session := ⟨⟨0, [], false, false, 0, none, false, false⟩, false, none⟩

/-- Configuration: whether `conf_timeout`, `conf_interval` and `conf_any_login` are set,
`conf_max_failure`, and the digests. -/
structure Conf where
  timeout : Bool
  interval : Bool
  maxFailure : Nat
  anyLogin : Bool
  md5 : List UInt8 → List UInt8
  ntResponse : List UInt8 → List UInt8 → List UInt8 → List UInt8 → List UInt8

/-- While a response is handled: `pwdb_check`, the first and second `pwdb_get_passwd`, and whether
`ppp_auth_succeeded` accepts. -/
structure Env where
  check : Pwdb
  passwd : List UInt8 → Option (List UInt8)
  passwdAgain : List UInt8 → Option (List UInt8)
  accepted : Bool

/-! ## What both have in common -/

def Session.sendSuccess (id : UInt8) (s : Session) : Session :=
  { s with latest := s.latest.map fun c => if c.1 = id then (c.1, .accepted) else c }

def Session.sendFailure (s : Session) : Session :=
  { s with latest := s.latest.map fun c => if c.1 = s.chap.id then (c.1, .refused) else c }

variable (cf : Conf)

/-- `chap_send_challenge`, with a new value if one is given. -/
def chapSendChallenge (new : Option (List UInt8)) (s : Session) : Session :=
  { s with
    chap := { s.chap with val := new.getD s.chap.val, timeout := s.chap.timeout || cf.timeout }
    latest := some (s.chap.id, .awaited) }

def chapStart (random : List UInt8) (s : Session) : Session :=
  chapSendChallenge cf (some random)
    { s with chap := { s.chap with id := 1, name := none, registered := true } }

def chapFinish (s : Session) : Session :=
  { s with chap := { s.chap with timeout := false, interval := false, registered := false } }

/-- `ap_session_terminate`, which finishes the layers. `ppp_auth_failed` comes to the same. -/
def apSessionTerminate (s : Session) : Session :=
  if s.terminating then s else chapFinish { s with terminating := true }

/-- `ad->id++`. -/
def incId (s : Session) : Session := { s with chap := { s.chap with id := s.chap.id + 1 } }

def refuse (s : Session) : Session := apSessionTerminate s.sendFailure

def accept (accepted : Bool) (s : Session) : Session :=
  if s.chap.started then s.sendSuccess s.chap.id
  else if accepted then
    let s := s.sendSuccess s.chap.id
    { s with chap := { s.chap with started := true, interval := s.chap.interval || cf.interval } }
  else apSessionTerminate s.sendFailure

def authResult (granted accepted : Bool) (s : Session) : Session :=
  let s := { s with chap := { s.chap with name := none } }
  incId (if granted then accept cf accepted s else refuse s)

/-- The answer is to come by `auth_result`. -/
def wait (f : Frame) (s : Session) : Session :=
  { s with chap := { s.chap with name := some f.name } }

/-- `chap_timeout_timer`. The timer is periodic. -/
def chapTimeoutTimer (s : Session) : Session :=
  let s := { s with chap := { s.chap with failure := s.chap.failure + 1 } }
  if s.chap.failure = cf.maxFailure then apSessionTerminate s else chapSendChallenge cf none s

def disarm (s : Session) : Session := { s with chap := { s.chap with timeout := false } }

/-- `chap_recv_response`, with the value's size and what is done with a response looked at. -/
def respond (valueSize : Nat) (judge : Frame → Session → Session) (f : Frame) (s : Session) :
    Session :=
  let s := disarm s
  if s.chap.started ∧ (f.id.toNat : Int) = (s.chap.id.toNat : Int) - 1 then s.sendSuccess f.id
  else if s.chap.name.isSome then s
  else if f.id ≠ s.chap.id then s
  else if f.valSize ≠ valueSize then refuse s
  else judge f s

/-! ## CHAP-MD5 -/

def acceptAny (accepted : Bool) (s : Session) : Session :=
  if accepted then
    let s := s.sendSuccess s.chap.id
    incId { s with chap := { s.chap with started := true } }
  else apSessionTerminate s.sendFailure

def judgeMd5 (env : Env) (f : Frame) (s : Session) : Session :=
  if cf.anyLogin then acceptAny env.accepted s
  else
    match env.check with
    | .wait => wait f s
    | .noImpl =>
      match env.passwd f.name with
      | none => s.sendFailure
      | some passwd =>
        if cf.md5 (f.id :: passwd ++ s.chap.val) ≠ f.val then refuse s
        else incId (accept cf env.accepted s)
    | .denied => refuse s
    | .success => incId (accept cf env.accepted s)

/-! ## MSCHAP-v2 -/

/-- `chap_check_response`; a value is the challenge of the peer (16 bytes), 8 reserved bytes, the NT
response (24 bytes) and flags. -/
def chapCheckResponse (env : Env) (f : Frame) (s : Session) : Bool :=
  match env.passwd f.name with
  | none => false
  | some passwd => cf.ntResponse passwd s.chap.val (f.val.take 16) f.name == (f.val.drop 24).take 24

/-- MSCHAP-v2 on a response; `generate_response` looks the password up again. -/
def judgeMschapV2 (env : Env) (f : Frame) (s : Session) : Session :=
  match env.check with
  | .wait => wait f s
  | .noImpl =>
    if chapCheckResponse cf env f s && (env.passwdAgain f.name).isSome then
      incId (accept cf env.accepted s)
    else refuse s
  | .denied => refuse s
  | .success => incId (accept cf env.accepted s)

/-! ## The machine -/

inductive Proto
  | md5 | mschapV2
  deriving DecidableEq

def chapRecvResponse (env : Env) (f : Frame) (s : Session) : Proto → Session
  | .md5 => respond 16 (judgeMd5 cf env) f s
  | .mschapV2 => respond (16 + 8 + 24 + 1) (judgeMschapV2 cf env) f s

def isResponse (f : Frame) : Prop :=
  ¬ (f.bufSize < 6 ∨ f.len < 4 ∨ f.bufSize < f.len + 2) ∧ f.code = 2
deriving Decidable

def chapRecv (p : Proto) (cf : Conf) (env : Env) (f : Frame) (s : Session) : Session :=
  if isResponse f then chapRecvResponse cf env f s p else s

inductive Event
  /-- The authentication layer is started. -/
  | start (random : List UInt8)
  | frame (f : Frame) (env : Env)
  | timeout
  /-- `chap_restart_timer`. -/
  | interval (random : List UInt8)
  | restart (random : List UInt8)
  /-- The password database answers later. -/
  | answer (granted accepted : Bool)
  /-- The session is terminated for another reason. -/
  | terminate

/-- The step function. A deleted timer does not expire. -/
def step (p : Proto) (cf : Conf) (s : Session) : Event → Option Session
  | .start random =>
    if s.latest = none ∧ s.terminating = false then some (chapStart cf random s) else none
  | .frame f env => if s.chap.registered = true then some (chapRecv p cf env f s) else none
  | .timeout => if s.chap.timeout = true then some (chapTimeoutTimer cf s) else none
  | .interval random =>
    if s.chap.interval = true then some (chapSendChallenge cf (some random) s) else none
  | .restart random =>
    if s.chap.registered = true then some (chapSendChallenge cf (some random) s) else none
  | .answer granted accepted =>
    if s.chap.name ≠ none then some (authResult cf granted accepted s) else none
  | .terminate => some (apSessionTerminate s)

/-! ## The session with its layers

`Ppp.Chap` has the handler of CHAP-MD5 inside the authentication layer. Seen from the peer, it does
the same. -/

section View

/-- What the last challenge comes to with a packet that is sent. -/
def mark (last : Option (UInt8 × Verdict)) : Chap.Msg → Option (UInt8 × Verdict)
  | .challenge id _ => some (id, .awaited)
  | .success id => last.map fun c => if c.1 = id then (c.1, .accepted) else c
  | .failure id => last.map fun c => if c.1 = id then (c.1, .refused) else c

def view (s : Chap.Session) : Session := ⟨s.chap, s.terminating, s.out.foldl mark none⟩

def viewConf (cf : Chap.Conf) : Conf :=
  ⟨cf.timeout, cf.interval, cf.maxFailure, cf.anyLogin, cf.md5, fun _ _ _ _ => []⟩

def viewEnv (env : Chap.Env) : Env := ⟨env.check, env.passwd, env.passwd, env.setUsername⟩

/-- The layer of CHAP-MD5 is running. -/
def Running (s : Chap.Session) : Prop :=
  s.authLayer.starting = true ∧ s.method = some .chapMd5

variable {cf : Chap.Conf} {s : Chap.Session}

theorem view_terminate (h : Running s) :
    view (Chap.apSessionTerminate s) = apSessionTerminate (view s) := by
  obtain ⟨hs, hm⟩ := h
  unfold Chap.apSessionTerminate apSessionTerminate
  by_cases ht : s.terminating = true
  · simp [ht, view]
  · have hm' : Chap.Session.method { s with terminating := true } = some .chapMd5 := hm
    simp [ht, hs, hm', Chap.authLayerFinish, view, Chap.chapFinish, chapFinish]

theorem view_send (s : Chap.Session) (m : Chap.Msg) :
    view (s.send m) = { view s with latest := mark (view s).latest m } :=
  congrArg (Session.mk _ _) (List.foldl_concat ..)

theorem view_fail {r : Chap.Session} (h : Running r) (hv : view r = (view s).sendFailure) :
    view (Chap.apSessionTerminate r) = refuse (view s) := by
  rw [view_terminate h, hv, refuse]

theorem view_refuse (h : Running s) (name : Option (List UInt8)) :
    view (Chap.refuse name s) = refuse (view s) := by
  dsimp only [Chap.refuse]
  split
  · exact view_fail (by exact h) (view_send s _)
  · exact view_fail (by exact h) (view_send s _)

theorem view_accept (h : Running s) (ok : Bool) (c : Chap.Call) :
    view (Chap.accept cf ok c s) = accept (viewConf cf) ok (view s) := by
  rw [Chap.accept, accept, apply_ite view]
  refine if_congr .rfl (view_send s _) ?_
  cases ok with
  | false => exact view_fail (by exact h) (view_send ..)
  | true => exact congrArg (Session.mk _ _) (List.foldl_concat ..)

theorem view_acceptAny (h : Running s) (ok : Bool) (f : Frame) :
    view (Chap.acceptAny ok f s) = acceptAny ok (view s) := by
  cases ok with
  | false => exact view_fail (by exact h) (view_send ..)
  | true => exact congrArg (Session.mk _ _) (List.foldl_concat ..)

theorem view_judge (h : Running s) (env : Chap.Env) (f : Frame) :
    view (if cf.anyLogin then Chap.acceptAny env.setUsername f s else Chap.checkResponse cf env f s) =
      judgeMd5 (viewConf cf) (viewEnv env) f (view s) := by
  rw [apply_ite view]
  refine if_congr .rfl (view_acceptAny h _ f) ?_
  unfold Chap.checkResponse viewEnv
  cases env.check with
  | success => exact congrArg incId (view_accept h _ _)
  | denied => exact view_refuse h _
  | wait => rfl
  | noImpl =>
    dsimp only [Chap.checkLocally]
    cases env.passwd f.name with
    | none => exact view_send s _
    | some passwd =>
      dsimp only
      rw [apply_ite view]
      exact if_congr .rfl (view_refuse h _) (congrArg incId (view_accept h _ _))

/-- **CHAP-MD5 in its layer**: seen from the peer, a frame is handled as it is here. -/
theorem view_chapRecv (h : Running s) (env : Chap.Env) (f : Frame) :
    view (Chap.chapRecv cf env f s) = chapRecv .md5 (viewConf cf) (viewEnv env) f (view s) := by
  have hresp : view (Chap.chapRecvResponse cf env f s) =
      chapRecvResponse (viewConf cf) (viewEnv env) f (view s) .md5 := by
    have h' : Running { s with chap := { s.chap with timeout := false } } := h
    dsimp only [Chap.chapRecvResponse]
    rw [apply_ite view, apply_ite view, apply_ite view, apply_ite view]
    exact if_congr .rfl (view_send _ _) (if_congr .rfl rfl (if_congr .rfl rfl
      (if_congr .rfl (view_refuse h' _) (view_judge h' env f))))
  unfold Chap.chapRecv chapRecv isResponse
  split_ifs <;> simp_all

theorem view_sendChallenge (s : Chap.Session) (new : Option (List UInt8)) :
    view (Chap.chapSendChallenge cf new s) = chapSendChallenge (viewConf cf) new (view s) :=
  congrArg (Session.mk _ _) (List.foldl_concat ..)

theorem view_timeout (h : Running s) :
    view (Chap.chapTimeoutTimer cf s) = chapTimeoutTimer (viewConf cf) (view s) := by
  dsimp only [Chap.chapTimeoutTimer]
  rw [apply_ite view, apply_ite view]
  refine if_congr .rfl ?_ (view_sendChallenge ..)
  split_ifs <;> exact view_terminate (by exact h)

theorem view_authResult (h : Running s) (granted ok : Bool) (f : Frame) :
    view (Chap.authResult cf granted ok f s) = authResult (viewConf cf) granted ok (view s) := by
  cases granted with
  | true => exact congrArg incId (view_accept (by exact h) ok _)
  | false => exact congrArg incId (view_refuse (by exact h) _)

end View

/-! ## What the functions do to a challenge -/

def Asked (s : Session) : Prop := s.latest.map Prod.snd = some .awaited
deriving Decidable

/-- **An answer is awaited**: the last challenge is unanswered, no check is pending, the session not
being terminated. -/
def Waiting (s : Session) : Prop := Asked s ∧ s.chap.name = none ∧ s.terminating = false
deriving Decidable

def Current (s : Session) : Prop := ∀ c, s.latest = some c → c.2 = .awaited → c.1 = s.chap.id

def Final (s : Session) : Prop := s.latest.map Prod.snd = some .refused → s.terminating = true

structure Kept (s r : Session) : Prop where
  failure : r.chap.failure = s.chap.failure
  terminating : s.terminating = true → r.terminating = true

theorem Kept.trans {s r u : Session} (h : Kept s r) (h' : Kept r u) : Kept s u :=
  ⟨h'.failure.trans h.failure, fun ht => h'.terminating (h.terminating ht)⟩

structure Judges (s r : Session) : Prop where
  kept : Kept s r
  judged : Current s → ¬ Asked r
  final : Final s → Final r

@[simp] theorem latest_terminate (s : Session) : (apSessionTerminate s).latest = s.latest := by
  unfold apSessionTerminate
  split_ifs <;> rfl

@[simp] theorem terminating_terminate (s : Session) :
    (apSessionTerminate s).terminating = true := by
  unfold apSessionTerminate
  split_ifs with h
  · exact h
  · rfl

@[simp] theorem failure_terminate (s : Session) :
    (apSessionTerminate s).chap.failure = s.chap.failure := by
  unfold apSessionTerminate
  split_ifs <;> rfl

@[simp] theorem id_terminate (s : Session) : (apSessionTerminate s).chap.id = s.chap.id := by
  unfold apSessionTerminate
  split_ifs <;> rfl

theorem asked_of_sendSuccess {id : UInt8} {s : Session} (h : Asked (s.sendSuccess id)) :
    Asked s ∧ ∀ c, s.latest = some c → c.1 ≠ id := by
  unfold Asked Session.sendSuccess at *
  cases hl : s.latest with
  | none => rw [hl] at h; cases h
  | some c => grind

theorem not_asked_sendSuccess {s : Session} (hc : Current s) :
    ¬ Asked (s.sendSuccess s.chap.id) := by
  intro h
  obtain ⟨hask, hne⟩ := asked_of_sendSuccess h
  obtain ⟨c, hl, hv⟩ := Option.map_eq_some_iff.1 hask
  exact hne c hl (hc c hl hv)

theorem not_asked_sendFailure {s : Session} (hc : Current s) : ¬ Asked s.sendFailure := by
  intro h
  unfold Asked Session.sendFailure at h
  cases hl : s.latest with
  | none => rw [hl] at h; cases h
  | some c =>
    rw [hl] at h
    simp only [Option.map_some, Option.some.injEq] at h
    by_cases hid : c.1 = s.chap.id
    · rw [if_pos hid] at h
      cases h
    · rw [if_neg hid] at h
      exact hid (hc c hl h)

theorem final_sendSuccess {id : UInt8} {s : Session} (h : Final s) : Final (s.sendSuccess id) := by
  intro hr
  apply h
  unfold Session.sendSuccess at hr
  cases hl : s.latest with
  | none => rw [hl] at hr; cases hr
  | some c => grind

theorem judges_success {s r : Session} (hl : r.latest = (s.sendSuccess s.chap.id).latest)
    (hf : r.chap.failure = s.chap.failure) (ht : r.terminating = s.terminating) : Judges s r where
  kept := ⟨hf, fun h => ht.trans h⟩
  judged := fun hc ha => not_asked_sendSuccess hc (by unfold Asked at *; rwa [← hl])
  final := fun h hr => ht.trans (final_sendSuccess h (by rwa [← hl]))

theorem judges_refuse (s : Session) : Judges s (refuse s) where
  kept := ⟨failure_terminate _, fun _ => terminating_terminate _⟩
  judged := fun hc ha => by
    unfold Asked refuse at ha
    rw [latest_terminate] at ha
    exact not_asked_sendFailure hc ha
  final := fun _ _ => terminating_terminate _

theorem judges_accept (accepted : Bool) (s : Session) :
    Judges s (accept cf accepted s) := by
  unfold accept
  split_ifs with hs ha
  · exact judges_success rfl rfl rfl
  · exact judges_success rfl rfl rfl
  · exact judges_refuse s

theorem judges_acceptAny (accepted : Bool) (s : Session) : Judges s (acceptAny accepted s) := by
  unfold acceptAny
  split_ifs with ha
  · exact judges_success rfl rfl rfl
  · exact judges_refuse s

theorem Judges.incId {s r : Session} (h : Judges s r) : Judges s (incId r) :=
  ⟨⟨h.kept.failure, h.kept.terminating⟩, h.judged, h.final⟩

/-- CHAP-MD5 finds no password for the name of a response. -/
def Unknown (p : Proto) (cf : Conf) (s : Session) (f : Frame) (env : Env) : Prop :=
  p = .md5 ∧ s.chap.name = none ∧ f.id = s.chap.id ∧ f.valSize = 16 ∧ cf.anyLogin = false ∧
    env.check = .noImpl ∧ env.passwd f.name = none

instance (p : Proto) (cf : Conf) (s : Session) (f : Frame) (env : Env) :
    Decidable (Unknown p cf s f env) :=
  inferInstanceAs (Decidable (_ ∧ _ ∧ _ ∧ _ ∧ _ ∧ _ ∧ _))

/-- What a protocol does with a response it looks at. -/
inductive Judgement (s : Session) (f : Frame) : Session → Prop
  | waits : Judgement s f (wait f s)
  | judges {r : Session} : Judges s r → Judgement s f r

theorem judgement_md5 (env : Env) (f : Frame) (s : Session) :
    Judgement s f (judgeMd5 cf env f s) ∨
      (judgeMd5 cf env f s = s.sendFailure ∧ cf.anyLogin = false ∧ env.check = .noImpl ∧
        env.passwd f.name = none) := by
  unfold judgeMd5
  by_cases hany : cf.anyLogin = true
  · rw [if_pos hany]
    exact .inl (.judges (judges_acceptAny _ s))
  · rw [if_neg hany]
    cases env.check with
    | wait => exact .inl .waits
    | denied => exact .inl (.judges (judges_refuse s))
    | success => exact .inl (.judges (judges_accept cf _ s).incId)
    | noImpl =>
      cases hp : env.passwd f.name with
      | none => exact .inr ⟨rfl, by simpa using hany, rfl, rfl⟩
      | some passwd =>
        refine .inl (.judges ?_)
        dsimp only
        split_ifs
        · exact judges_refuse s
        · exact (judges_accept cf _ s).incId

theorem judgement_mschapV2 (env : Env) (f : Frame) (s : Session) :
    Judgement s f (judgeMschapV2 cf env f s) := by
  unfold judgeMschapV2
  cases env.check with
  | wait => exact .waits
  | denied => exact .judges (judges_refuse s)
  | success => exact .judges (judges_accept cf _ s).incId
  | noImpl =>
    split_ifs
    · exact .judges (judges_accept cf _ s).incId
    · exact .judges (judges_refuse s)


/-- **What a response does**: it is ignored, judged or sent to the password database, or CHAP-MD5
does not know the user. -/
inductive Responded (p : Proto) (cf : Conf) (env : Env) (f : Frame) (s : Session) : Session → Prop
  | repeated : f.id ≠ s.chap.id → Responded p cf env f s ((disarm s).sendSuccess f.id)
  | pending : s.chap.name ≠ none → Responded p cf env f s (disarm s)
  | mismatch : f.id ≠ s.chap.id → Responded p cf env f s (disarm s)
  | looked {r : Session} : s.chap.name = none → Judgement (disarm s) f r → Responded p cf env f s r
  | unknown : Unknown p cf s f env → Responded p cf env f s (disarm s).sendFailure

theorem responded_respond {p : Proto} {cf : Conf} {env : Env} {f : Frame} {s : Session}
    {valueSize : Nat} {judge : Frame → Session → Session}
    (hj : Judgement (disarm s) f (judge f (disarm s)) ∨
      (judge f (disarm s) = (disarm s).sendFailure ∧
        (s.chap.name = none → f.id = s.chap.id → f.valSize = valueSize → Unknown p cf s f env))) :
    Responded p cf env f s (respond valueSize judge f s) := by
  unfold respond
  by_cases hrep : (disarm s).chap.started ∧
      (f.id.toNat : Int) = ((disarm s).chap.id.toNat : Int) - 1
  · rw [if_pos hrep]
    refine .repeated fun he => ?_
    have hint : (s.chap.id.toNat : Int) = (s.chap.id.toNat : Int) - 1 := he ▸ hrep.2
    omega
  · rw [if_neg hrep]
    by_cases hpend : (disarm s).chap.name.isSome = true
    · rw [if_pos hpend]
      exact .pending (Option.isSome_iff_ne_none.1 hpend)
    · have hname : s.chap.name = none := Option.not_isSome_iff_eq_none.1 hpend
      rw [if_neg hpend]
      by_cases hid : f.id = (disarm s).chap.id
      · rw [if_neg (not_not.2 hid)]
        by_cases hsize : f.valSize = valueSize
        · rw [if_neg (not_not.2 hsize)]
          rcases hj with hj | ⟨heq, hunknown⟩
          · exact .looked hname hj
          · rw [heq]
            exact .unknown (hunknown hname hid hsize)
        · rw [if_pos hsize]
          exact .looked hname (.judges (judges_refuse _))
      · rw [if_pos hid]
        exact .mismatch hid

theorem responded_chapRecvResponse (p : Proto) (cf : Conf) (env : Env) (f : Frame) (s : Session) :
    Responded p cf env f s (chapRecvResponse cf env f s p) := by
  cases p with
  | md5 =>
    refine responded_respond ?_
    rcases judgement_md5 cf env f (disarm s) with h | ⟨heq, hany, hcheck, hpw⟩
    · exact .inl h
    · exact .inr ⟨heq, fun hn hid hs => ⟨rfl, hn, hid, hs, hany, hcheck, hpw⟩⟩
  | mschapV2 => exact responded_respond (.inl (judgement_mschapV2 cf env f _))

/-! ## The invariant -/

structure Inv (cf : Conf) (s : Session) : Prop where
  current : Current s
  armed : Waiting s → s.chap.timeout = true
  below : s.terminating = false → s.chap.failure < cf.maxFailure

variable {p : Proto} {cf : Conf} {s r s' : Session}

theorem Inv.of_not_asked (hi : Inv cf s) (hk : Kept s r) (h : ¬ Asked r) : Inv cf r where
  current := fun c hl hv => absurd (show Asked r by rw [Asked, hl, Option.map_some, hv]) h
  armed := fun hw => absurd hw.1 h
  below := fun ht => by
    rw [hk.failure]
    refine hi.below ?_
    grind [hk.terminating]

theorem Inv.challenge (ht : cf.timeout = true) (hi : Inv cf s) (new : Option (List UInt8)) :
    Inv cf (chapSendChallenge cf new s) where
  current := fun c hl _ => (Option.some.inj hl) ▸ rfl
  armed := fun _ => by
    show (s.chap.timeout || cf.timeout) = true
    rw [ht, Bool.or_true]
  below := hi.below

theorem Inv.terminate (hi : Inv cf s) : Inv cf (apSessionTerminate s) where
  current := fun c hl hv => by
    rw [latest_terminate] at hl
    rw [id_terminate]
    exact hi.current c hl hv
  armed := fun hw => by
    rw [Waiting, terminating_terminate] at hw
    cases hw.2.2
  below := fun h => by
    rw [terminating_terminate] at h
    cases h

/-- **Every response has the identifier of the challenge that is awaited.** -/
def Answers (s : Session) : Event → Prop
  | .frame f _ => isResponse f → Waiting s → f.id = s.chap.id
  | _ => True

instance (s : Session) (e : Event) : Decidable (Answers s e) := by
  unfold Answers
  split <;> infer_instance

theorem Inv.disarm (hi : Inv cf s) (h : ¬ Waiting s) : Inv cf (disarm s) :=
  ⟨hi.current, fun hw => absurd hw h, hi.below⟩

theorem Inv.sendSuccess (hi : Inv cf s) (id : UInt8) (h : ¬ Waiting s) :
    Inv cf (s.sendSuccess id) where
  current := fun c hl hv => by
    have hask : Asked (s.sendSuccess id) := by rw [Asked, hl, Option.map_some, hv]
    obtain ⟨ha, hne⟩ := asked_of_sendSuccess hask
    obtain ⟨c', hl', hv'⟩ := Option.map_eq_some_iff.1 ha
    have hc : c = c' := by grind [Session.sendSuccess]
    rw [hc]
    exact hi.current c' hl' hv'
  armed := fun hw => absurd ⟨(asked_of_sendSuccess hw.1).1, hw.2⟩ h
  below := hi.below

theorem Inv.responded {env : Env} {f : Frame} (hi : Inv cf s)
    (hid : Waiting s → f.id = s.chap.id) (h : Responded p cf env f s r) : Inv cf r := by
  -- deleting the timer breaks only the part of the invariant about it
  have hkept : Kept s (ChapTimeout.disarm s) := ⟨rfl, id⟩
  cases h with
  | repeated hne =>
    have hno : ¬ Waiting s := fun hw => hne (hid hw)
    exact (hi.disarm hno).sendSuccess f.id hno
  | pending hn => exact hi.disarm fun hw => hn hw.2.1
  | mismatch hne => exact hi.disarm fun hw => hne (hid hw)
  | looked hn hj =>
    cases hj with
    | waits => exact ⟨hi.current, (fun hw => by cases hw.2.1), hi.below⟩
    | judges hj => exact hi.of_not_asked (hkept.trans hj.kept) (hj.judged hi.current)
  | unknown _ => exact hi.of_not_asked ⟨rfl, id⟩ (not_asked_sendFailure hi.current)

theorem Inv.answer (hi : Inv cf s) (granted accepted : Bool) :
    Inv cf (authResult cf granted accepted s) := by
  have hkept : Kept s { s with chap := { s.chap with name := none } } := ⟨rfl, id⟩
  unfold authResult
  split_ifs
  · have hj := (judges_accept cf accepted { s with chap := { s.chap with name := none } }).incId
    exact hi.of_not_asked (hkept.trans hj.kept) (hj.judged hi.current)
  · have hj := (judges_refuse { s with chap := { s.chap with name := none } }).incId
    exact hi.of_not_asked (hkept.trans hj.kept) (hj.judged hi.current)

theorem Inv.timeout (ht : cf.timeout = true) (hi : Inv cf s) : Inv cf (chapTimeoutTimer cf s) := by
  unfold chapTimeoutTimer
  by_cases hmax : s.chap.failure + 1 = cf.maxFailure
  · rw [if_pos hmax]
    refine ⟨?_, ?_, ?_⟩
    · intro c hl hv
      rw [latest_terminate] at hl
      rw [id_terminate]
      exact hi.current c hl hv
    · simp [Waiting]
    simp
  · rw [if_neg hmax]
    refine ⟨fun c hl _ => (Option.some.inj hl) ▸ rfl, fun _ => ?_, fun h => ?_⟩
    · show (s.chap.timeout || cf.timeout) = true
      rw [ht, Bool.or_true]
    · show s.chap.failure + 1 < cf.maxFailure
      have := hi.below h
      omega

theorem Inv.step (ht : cf.timeout = true) {e : Event} (hi : Inv cf s) (hc : Answers s e)
    (h : step p cf s e = some s') : Inv cf s' := by
  cases e with
  | start random =>
    obtain ⟨-, rfl⟩ := of_enabled_if h
    refine ⟨fun c hl _ => (Option.some.inj hl) ▸ rfl, fun _ => ?_, hi.below⟩
    show (s.chap.timeout || cf.timeout) = true
    rw [ht, Bool.or_true]
  | frame f env =>
    obtain ⟨-, rfl⟩ := of_enabled_if h
    unfold chapRecv
    by_cases hres : isResponse f
    · rw [if_pos hres]
      exact hi.responded (hc hres) (responded_chapRecvResponse p cf env f s)
    · rw [if_neg hres]
      exact hi
  | timeout =>
    obtain ⟨-, rfl⟩ := of_enabled_if h
    exact hi.timeout ht
  | interval random | restart random =>
    obtain ⟨-, rfl⟩ := of_enabled_if h
    exact hi.challenge ht _
  | answer granted accepted =>
    obtain ⟨-, rfl⟩ := of_enabled_if h
    exact hi.answer granted accepted
  | terminate =>
    obtain rfl := Option.some.inj h
    exact hi.terminate

/-! ## A refusal ends the session -/

def KnownUser (p : Proto) (cf : Conf) (s : Session) : Event → Prop
  | .frame f env => isResponse f → ¬ Unknown p cf s f env
  | _ => True

instance (p : Proto) (cf : Conf) (s : Session) (e : Event) : Decidable (KnownUser p cf s e) := by
  unfold KnownUser
  split <;> infer_instance

theorem final_challenge (new : Option (List UInt8)) : Final (chapSendChallenge cf new s) := nofun

theorem Final.terminate (s : Session) : Final (apSessionTerminate s) :=
  fun _ => terminating_terminate s

theorem Final.responded {env : Env} {f : Frame} (hf : Final s) (hu : ¬ Unknown p cf s f env)
    (h : Responded p cf env f s r) : Final r := by
  have hd : Final (ChapTimeout.disarm s) := hf
  cases h with
  | repeated _ => exact final_sendSuccess hd
  | pending _ | mismatch _ => exact hd
  | looked _ hj =>
    cases hj with
    | waits => exact hd
    | judges hj => exact hj.final hd
  | unknown h => exact absurd h hu

theorem Final.step {e : Event} (hf : Final s) (hc : KnownUser p cf s e)
    (h : step p cf s e = some s') : Final s' := by
  cases e with
  | start random =>
    obtain ⟨-, rfl⟩ := of_enabled_if h
    exact final_challenge _
  | frame f env =>
    obtain ⟨-, rfl⟩ := of_enabled_if h
    unfold chapRecv
    by_cases hres : isResponse f
    · rw [if_pos hres]
      exact hf.responded (hc hres) (responded_chapRecvResponse p cf env f s)
    · rw [if_neg hres]
      exact hf
  | timeout =>
    obtain ⟨-, rfl⟩ := of_enabled_if h
    grind [chapTimeoutTimer, Final.terminate, final_challenge]
  | interval random | restart random =>
    obtain ⟨-, rfl⟩ := of_enabled_if h
    exact final_challenge _
  | answer granted accepted =>
    obtain ⟨-, rfl⟩ := of_enabled_if h
    have hd : Final { s with chap := { s.chap with name := none } } := hf
    unfold authResult
    split_ifs
    · exact (judges_accept cf accepted _).incId.final hd
    · exact (judges_refuse _).incId.final hd
  | terminate =>
    obtain rfl := Option.some.inj h
    exact Final.terminate s

/-! ## The results -/

/-- The timeout ends the session if it expires as often as is left. -/
def Dropped (p : Proto) (cf : Conf) (s : Session) : Prop :=
  ∃ s', run (step p cf) s (List.replicate (cf.maxFailure - s.chap.failure) .timeout) = some s' ∧
    s'.terminating = true

theorem dropped_of_waiting (p : Proto) (ht : cf.timeout = true) (hi : Inv cf s) (hw : Waiting s) :
    Dropped p cf s := by
  unfold Dropped
  generalize hk : cf.maxFailure - s.chap.failure = k
  induction k generalizing s with
  | zero =>
    have := hi.below hw.2.2
    omega
  | succ k ih =>
    have hstep : step p cf s .timeout = some (chapTimeoutTimer cf s) := if_pos (hi.armed hw)
    by_cases hmax : s.chap.failure + 1 = cf.maxFailure
    · have hk0 : k = 0 := by omega
      refine ⟨chapTimeoutTimer cf s, run_cons.2 ⟨_, hstep, by rw [hk0]; rfl⟩, ?_⟩
      simp_all [chapTimeoutTimer]
    · have hnext : chapTimeoutTimer cf s = chapSendChallenge cf none
          { s with chap := { s.chap with failure := s.chap.failure + 1 } } := if_neg hmax
      obtain ⟨s', hrun, hterm⟩ := ih (hi.timeout ht) (by rw [hnext]; exact ⟨rfl, hw.2⟩)
        (by rw [hnext]; show cf.maxFailure - (s.chap.failure + 1) = k; omega)
      exact ⟨s', run_cons.2 ⟨_, hstep, hrun⟩, hterm⟩

/-- **The timeout of a challenge** runs while an answer is awaited, if responses to an awaited
challenge have its identifier; if CHAP-MD5 also knows every user, it ends a session that is not
authenticated, asking or being terminated. -/
theorem challenge_timed (p : Proto) (cf : Conf) (ht : cf.timeout = true) (hm : 0 < cf.maxFailure)
    (es : List Event) (t : Session) (hr : run (step p cf) Session.init es = some t)
    (hg : Guarded (step p cf) Answers Session.init es) :
    (Waiting t → t.chap.timeout = true) ∧
      (Guarded (step p cf) (KnownUser p cf) Session.init es →
        t.latest ≠ none → t.latest.map Prod.snd ≠ some .accepted → t.chap.name = none →
        t.terminating = false → t.chap.timeout = true ∧ Dropped p cf t) := by
  have hinit : Inv cf Session.init := ⟨nofun, (fun hw => nomatch hw.1), fun _ => hm⟩
  have hi : Inv cf t := hg.invariant (fun _ _ _ hs hc h => hs.step ht hc h) hinit hr
  refine ⟨hi.armed, fun hu hsome hacc hname hterm => ?_⟩
  have hf : Final t := hu.invariant (fun _ _ _ hs hc h => hs.step hc h) nofun hr
  have hw : Waiting t := by
    refine ⟨?_, hname, hterm⟩
    cases hl : t.latest with
    | none => exact absurd hl hsome
    | some c =>
      rw [Asked, hl, Option.map_some]
      cases hv : c.2 with
      | awaited => rfl
      | accepted => exact absurd (by rw [hl, Option.map_some, hv]) hacc
      | refused =>
        have := hf (by rw [hl, Option.map_some, hv])
        rw [hterm] at this
        cases this
  exact ⟨hi.armed hw, dropped_of_waiting p ht hi hw⟩

def sampleConf : Conf := ⟨true, true, 3, false, fun _ => [], fun _ _ _ _ => []⟩

def sampleFrame (id : UInt8) : Frame := ⟨30, 2, id, 28, 16, [], [117]⟩

def sampleEnv (check : Pwdb) : Env := ⟨check, fun _ => none, fun _ => none, true⟩

def sampleRun : List Event :=
  [.start [], .timeout, .frame (sampleFrame 1) (sampleEnv .wait), .answer true true, .interval [],
    .timeout]

theorem challenge_timed_sample :
    ∃ t, run (step .md5 sampleConf) Session.init sampleRun = some t ∧ Waiting t ∧
      t.chap.timeout = true ∧ Dropped .md5 sampleConf t := by
  obtain ⟨t, hr, hw, hsome, hacc⟩ : ∃ t, run (step .md5 sampleConf) Session.init sampleRun = some t ∧
      Waiting t ∧ t.latest ≠ none ∧ t.latest.map Prod.snd ≠ some .accepted := by decide +kernel
  have h := challenge_timed .md5 sampleConf rfl (by decide) sampleRun t hr (by decide +kernel)
  exact ⟨t, hr, hw, h.1 hw, (h.2 (by decide +kernel) hsome hacc hw.2.1 hw.2.2).2⟩

/-- A response with identifier 9 to challenge 1: no timer runs for the answer. And a user CHAP-MD5
does not know is neither dropped nor timed. -/
theorem wrong_id_disarms :
    (∀ p, ∃ t, run (step p sampleConf) Session.init
        [.start [], .frame (sampleFrame 9) (sampleEnv .noImpl)] = some t ∧
      Waiting t ∧ t.chap.timeout = false ∧ t.chap.interval = false) ∧
    ∃ t, run (step .md5 sampleConf) Session.init
        [.start [], .frame (sampleFrame 1) (sampleEnv .noImpl)] = some t ∧
      t.latest = some (1, .refused) ∧ t.chap.name = none ∧ t.terminating = false ∧
      t.chap.timeout = false ∧ t.chap.interval = false := by
  refine ⟨fun p => ?_, by decide +kernel⟩
  cases p <;> decide +kernel

end Ppp.ChapTimeout
