import MicroBng.Lib.Machine

/-!
# The authentication layer with CHAP-MD5

`ppp/ppp_auth.c` and `auth/auth_chap_md5.c`, with what the two use of `ppp/ppp.c` and `session.c`:
the negotiation of the method as an option of LCP, the authentication layer between LCP and the
network layers, and the exchange of challenges and responses.

The password database is a part of the environment: a check is answered at once or later, and a
password is looked up by name. MD5 is a parameter. `connect_ppp_channel` cannot fail in this
source. `calls` records every call of `ppp_auth_succeeded`, with what led to it.
-/

namespace Ppp.Chap

/-! ## Frames and the password database -/

structure Frame where
  bufSize : Nat
  code : Nat
  id : UInt8
  len : Nat
  valSize : Nat
  val : List UInt8
  name : List UInt8

/-- `PWDB_*`. -/
inductive Pwdb
  | success | denied | wait | noImpl
  deriving DecidableEq

/-- While a frame is handled: `pwdb_check`, `pwdb_get_passwd`, and whether `ap_session_set_username`
accepts the name. -/
structure Env where
  check : Pwdb
  passwd : List UInt8 → Option (List UInt8)
  setUsername : Bool

inductive Msg
  | challenge (id : UInt8) (val : List UInt8)
  | success (id : UInt8)
  | failure (id : UInt8)

/-- A response given to `ppp_auth_succeeded`: challenge, database answer, password, result. -/
structure Call where
  response : Frame
  challenge : UInt8 × List UInt8
  verdict : Option Pwdb
  passwd : Option (List UInt8)
  ok : Bool

/-! ## Configuration and state -/

inductive Method
  | chapMd5
  | other (n : Nat)
  deriving DecidableEq

/-- Configuration: `conf_noauth`, the registered handlers, and that of CHAP. -/
structure Conf where
  noauth : Bool
  handlers : List Method
  timeout : Bool
  interval : Bool
  maxFailure : Nat
  anyLogin : Bool
  md5 : List UInt8 → List UInt8

/-- `struct ppp_layer_data_t`. -/
structure LayerData where
  passive : Bool
  optional : Bool
  starting : Bool
  started : Bool

/-- `struct chap_auth_data`; `registered`: its handler receives frames. -/
structure AuthData where
  id : UInt8
  val : List UInt8
  timeout : Bool
  interval : Bool
  failure : Nat
  name : Option (List UInt8)
  started : Bool
  registered : Bool

/-- A session. `auths` are the methods with whether they were refused, `auth` the place of the
negotiated one, `asked` the response still with the password database and its challenge; `crashed`:
a method was finished that was not started. -/
structure Session where
  auths : List (Method × Bool)
  auth : Option Nat
  reqSent : Bool
  lcp : LayerData
  authLayer : LayerData
  net : List LayerData
  chap : AuthData
  username : Option (List UInt8)
  terminating : Bool
  crashed : Bool
  startCalls : Nat
  asked : Option Frame
  challenge : UInt8 × List UInt8
  out : List Msg
  calls : List Call

variable (cf : Conf)

def Session.send (s : Session) (m : Msg) : Session := { s with out := s.out ++ [m] }

def Session.method (s : Session) : Option Method :=
  match s.auth with
  | none => none
  | some i => (s.auths[i]?).map Prod.fst

def Session.needsMethod (s : Session) : Bool :=
  match s.auth with
  | none => true
  | some i => (s.auths[i]?).any Prod.snd

def authSendConfReq (s : Session) : Session :=
  let s := { s with reqSent := true }
  if s.auths = [] ∨ cf.noauth then s
  else if s.needsMethod then
    match s.auths.findIdx? fun d => !d.2 with
    | some i => { s with auth := some i }
    | none => s
  else s

/-- `auth_recv_conf_nak` and `auth_recv_conf_rej`, which are equal, with the result `-1`. -/
def authRefused (s : Session) : Session × Bool :=
  match s.auth with
  | none => (s, true)
  | some i =>
    let auths := s.auths.modify i fun d => (d.1, true)
    ({ s with auths := auths }, auths.all Prod.snd)

/-! ## Sending and terminating -/

/-- `chap_send_challenge`, with a new value if one is given. -/
def chapSendChallenge (new : Option (List UInt8)) (s : Session) : Session :=
  let val := new.getD s.chap.val
  { s with
    chap := { s.chap with val := val, timeout := s.chap.timeout || cf.timeout }
    challenge := (s.chap.id, val)
    out := s.out ++ [.challenge s.chap.id val] }

def chapStart (random : List UInt8) (s : Session) : Session :=
  chapSendChallenge cf (some random)
    { s with chap := { s.chap with id := 1, name := none, registered := true } }

def chapFinish (s : Session) : Session :=
  { s with chap := { s.chap with timeout := false, interval := false, registered := false } }

/-- `auth_layer_finish`. The negotiated method is finished, started or not. -/
def authLayerFinish (s : Session) : Session :=
  match s.method with
  | some .chapMd5 => chapFinish s
  | some (.other _) => { s with crashed := true }
  | none => s

/-- `ap_session_terminate`, for the authentication layer. -/
def apSessionTerminate (s : Session) : Session :=
  if s.terminating then s
  else
    let s := { s with terminating := true }
    if s.authLayer.starting then authLayerFinish s else s

def pppAuthFailed (name : Option (List UInt8)) (s : Session) : Session :=
  apSessionTerminate { s with username := s.username <|> name }

/-- `ppp_auth_succeeded`; the second part says that it failed. -/
def pppAuthSucceeded (setUsername : Bool) (c : Call) (s : Session) : Session × Bool :=
  let s := { s with calls := s.calls ++ [{ c with ok := setUsername }] }
  if setUsername then
    ({ s with username := some c.response.name, startCalls := s.startCalls + 1 }, false)
  else (s, true)

/-! ## The layers -/

/-- The test of `__ppp_layer_started` on the layers of a node. -/
def nodeReady (n : List LayerData) : Bool :=
  n.all (fun d => d.started || d.passive) && n.any fun d => d.started && !d.optional

/-- `ppp_layer_started` of the authentication layer, alone in its node: the network layers start. -/
def authLayerStarted (s : Session) : Session :=
  if s.authLayer.started then s
  else
    let s := { s with authLayer := { s.authLayer with started := true } }
    if nodeReady [s.authLayer] then
      { s with net := s.net.map fun d => { d with starting := true } }
    else s

/-- `auth_layer_start`, with CHAP-MD5 or without authentication. -/
def authLayerStart (random : List UInt8) (s : Session) : Session :=
  match s.method with
  | some _ => chapStart cf random s
  | none => authLayerStarted s

def pppAuthStarted (s : Session) : Session :=
  let s := { s with startCalls := s.startCalls - 1 }
  if s.terminating then s else authLayerStarted s

/-! ## Responses -/

/-- `++ad->id`. -/
def incId (s : Session) : Session := { s with chap := { s.chap with id := s.chap.id + 1 } }

def refuse (name : Option (List UInt8)) (s : Session) : Session :=
  let s := s.send (.failure s.chap.id)
  if s.chap.started then apSessionTerminate s else pppAuthFailed name s

/-- A right response: `ppp_auth_succeeded` is called unless it was before. -/
def accept (setUsername : Bool) (c : Call) (s : Session) : Session :=
  if s.chap.started then s.send (.success s.chap.id)
  else
    let r := pppAuthSucceeded setUsername c s
    if r.2 then apSessionTerminate (r.1.send (.failure r.1.chap.id))
    else
      let s := r.1.send (.success r.1.chap.id)
      { s with chap := { s.chap with started := true, interval := s.chap.interval || cf.interval } }

def call (s : Session) (f : Frame) (verdict : Option Pwdb) (passwd : Option (List UInt8)) : Call :=
  ⟨f, s.challenge, verdict, passwd, false⟩

/-- The any-login branch of `chap_recv_response`. -/
def acceptAny (setUsername : Bool) (f : Frame) (s : Session) : Session :=
  let r := pppAuthSucceeded setUsername (call s f none none) s
  if r.2 then apSessionTerminate (r.1.send (.failure r.1.chap.id))
  else
    let s := r.1.send (.success r.1.chap.id)
    incId { s with chap := { s.chap with started := true } }

def expected (id : UInt8) (passwd val : List UInt8) : List UInt8 := cf.md5 (id :: passwd ++ val)

/-- The branch of `chap_recv_response` that checks the response itself. -/
def checkLocally (env : Env) (f : Frame) (s : Session) : Session :=
  match env.passwd f.name with
  | none => s.send (.failure s.chap.id)
  | some passwd =>
    if expected cf f.id passwd s.chap.val ≠ f.val then refuse (some f.name) s
    else incId (accept cf env.setUsername (call s f (some .noImpl) (some passwd)) s)

/-- What `chap_recv_response` does with the password database's answer. -/
def checkResponse (env : Env) (f : Frame) (s : Session) : Session :=
  match env.check with
  | .wait => { s with chap := { s.chap with name := some f.name }, asked := some f }
  | .noImpl => checkLocally cf env f s
  | .denied => refuse (some f.name) s
  | .success => incId (accept cf env.setUsername (call s f (some .success) (env.passwd f.name)) s)

/-- `chap_recv_response`, with `CHAP_MD5` values of 16 bytes. -/
def chapRecvResponse (env : Env) (f : Frame) (s : Session) : Session :=
  let s := { s with chap := { s.chap with timeout := false } }
  if s.chap.started ∧ (f.id.toNat : Int) = (s.chap.id.toNat : Int) - 1 then s.send (.success f.id)
  else if s.chap.name.isSome then s
  else if f.id ≠ s.chap.id then s
  else if f.valSize ≠ 16 then refuse none s
  else if cf.anyLogin then acceptAny env.setUsername f s
  else checkResponse cf env f s

def chapRecv (env : Env) (f : Frame) (s : Session) : Session :=
  if f.bufSize < 6 ∨ f.len < 4 ∨ f.bufSize < f.len + 2 then s
  else if f.code = 2 then chapRecvResponse cf env f s
  else s

/-- `auth_result`, the later answer to the response `f`. -/
def authResult (granted setUsername : Bool) (f : Frame) (s : Session) : Session :=
  let name := s.chap.name
  let s := { s with chap := { s.chap with name := none }, asked := none }
  if granted then incId (accept cf setUsername (call s f (some .success) none) s)
  else incId (refuse name s)

def chapTimeoutTimer (s : Session) : Session :=
  let s := { s with chap := { s.chap with failure := s.chap.failure + 1 } }
  if s.chap.failure = cf.maxFailure then
    if s.chap.started then apSessionTerminate s else pppAuthFailed none s
  else chapSendChallenge cf none s

/-! ## The machine -/

inductive Event
  /-- LCP sends a request. -/
  | lcpSendConfReq
  /-- A Configure-Nak of the peer has the authentication option. -/
  | lcpConfNak
  /-- A Configure-Reject of the peer has it. -/
  | lcpConfRej
  /-- LCP is up. -/
  | lcpUp (random : List UInt8)
  | frame (f : Frame) (env : Env)
  | timeout
  | interval (random : List UInt8)
  | restart (random : List UInt8)
  /-- The password database answers later. -/
  | answer (granted setUsername : Bool)
  /-- A scheduled call of `__ppp_auth_started`. -/
  | authStarted
  /-- The session is terminated for another reason. -/
  | terminate

/-- LCP ignores refusals once up, and packets of a terminating session; deleted timers are off.
`lcp_recv` uses the result of `lcp_recv_conf_rej` but not that of `lcp_recv_conf_nak`: without a
method left it asks again after a Configure-Nak. -/
def step (s : Session) (e : Event) : Option Session :=
  if s.crashed then none
  else match e with
    | .lcpSendConfReq => some (authSendConfReq cf s)
    | .lcpConfNak =>
      if s.lcp.started ∨ s.terminating then none else some (authRefused s).1
    | .lcpConfRej =>
      if s.lcp.started ∨ s.terminating then none
      else if (authRefused s).2 then some (apSessionTerminate (authRefused s).1)
      else some (authRefused s).1
    | .lcpUp random =>
      if s.lcp.started ∨ s.terminating ∨ s.reqSent = false then none
      else if s.method = none ∨ s.method = some .chapMd5 then
        some (authLayerStart cf random
          { s with
            lcp := { s.lcp with started := true }
            authLayer := { s.authLayer with starting := true } })
      else none
    | .frame f env => if s.chap.registered then some (chapRecv cf env f s) else none
    | .timeout => if s.chap.timeout then some (chapTimeoutTimer cf s) else none
    | .interval random =>
      if s.chap.interval then some (chapSendChallenge cf (some random) s) else none
    | .restart random =>
      if s.authLayer.starting ∧ s.terminating = false ∧ s.method = some .chapMd5 then
        some (chapSendChallenge cf (some random) s)
      else none
    | .answer granted setUsername =>
      match s.asked with
      | some f => some (authResult cf granted setUsername f s)
      | none => none
    | .authStarted => if s.startCalls = 0 then none else some (pppAuthStarted s)
    | .terminate => some (apSessionTerminate s)

end Ppp.Chap
