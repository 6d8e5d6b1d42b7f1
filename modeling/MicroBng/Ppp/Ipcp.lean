import MicroBng.Ppp.Agreement
import MicroBng.Ppp.Ccp

/-!
# IPCP

`ppp/ppp_ipcp.c` with its options: the address of the peer (`ppp/ipcp_opt_ipaddr.c`), two name
servers (`ppp/ipcp_opt_dns.c`) and two NetBIOS name servers (`ppp/ipcp_opt_wins.c`). Packets and
options have the form they have in CCP.

What comes from outside is part of the event: the address that `ipdb_get_ipv4` gives out when one is
needed, whether the checks of `alloc_ip` refuse it, and what `ccp_ipcp_started` answers. `out`
records what is sent. Two fields of the data record what the code does not keep: `agreed` is the
request that was acknowledged last, and `upFor` the request with which the layer was reported as
started.
-/

namespace Ppp.Ipcp

open Ppp
open Ppp.Ccp (Opt Packet options)

/-! ## Options and messages -/

/-- `IPCP_OPT_*`. -/
inductive Verdict
  | none | ack | nak | rej | close | termack | fail
  deriving DecidableEq

def Verdict.code : Verdict → Int
  | .none => 0
  | .ack => 1
  | .nak => -1
  | .rej => -2
  | .close => -3
  | .termack => -4
  | .fail => -5

/-- `if (r < ret) ret = r`. -/
def Verdict.worst (ret r : Verdict) : Verdict := if r.code < ret.code then r else ret

inductive Kind
  | addr | dns1 | dns2 | wins1 | wins2
  deriving DecidableEq

/-- `CI_*`. -/
def Kind.ci : Kind → UInt8
  | .addr => 3
  | .dns1 => 129
  | .dns2 => 131
  | .wins1 => 130
  | .wins2 => 132

/-- The registered option with the number `id`. -/
def lookup (id : UInt8) : Option Kind :=
  [Kind.addr, .dns1, .dns2, .wins1, .wins2].find? fun k => k.ci = id

/-- `struct ipv4db_item_t`, as far as it is read. -/
structure Ipv4 where
  addr : Nat
  peerAddr : Nat

/-- What this side sends. An option is its number and its value. -/
inductive Msg
  | confReq (id : UInt8) (opts : List (UInt8 × Nat))
  | confAck (id : UInt8) (opts : List Opt)
  | confNak (id : UInt8) (opts : List (UInt8 × Nat))
  | confRej (id : UInt8) (opts : List Opt)
  | termReq (id : UInt8)
  | termAck (id : UInt8)
  | protoRej
  deriving DecidableEq

/-! ## Configuration and state -/

/-- `conf_ipv4`: `IPV4_DENY`, `IPV4_ALLOW`, `IPV4_PREFERE` and `IPV4_REQUIRE` are 0 to 3. -/
structure Conf where
  confIpv4 : Int
  confCheckExists : Bool
  /-- `ctrl->type == CTRL_TYPE_PPPOE`. -/
  pppoe : Bool
  confDns1 : Nat
  confDns2 : Nat
  confWins1 : Nat
  confWins2 : Nat
  maxTerminate : Int
  maxConfigure : Int
  maxFailure : Int

/-- `struct ppp_ipcp_t` with the addresses of its options and the session's fields; `timeout`: the
start timer is armed. -/
structure Data where
  passive : Bool
  starting : Bool
  started : Bool
  delayAck : Bool
  ldStarting : Bool
  reported : Bool
  timeout : Bool
  ipv4 : Option Ipv4
  dns1 : Nat
  dns2 : Nat
  wins1 : Nat
  wins2 : Nat
  ropts : List (Opt × Verdict)
  terminating : Bool
  out : List Msg
  agreed : Option (List Opt)
  upFor : Option (List Opt)

def Data.send (d : Data) (m : Msg) : Data := { d with out := d.out ++ [m] }

def onData (f : Data → Data) (l : Layer Data) : Layer Data := { l with data := f l.data }

/-- `ipcp_layer_init` with `ipaddr_init`, `dns1_init` and so on. -/
def layerInit (cf : Conf) (id : UInt8) : Layer Data where
  fsm := fsmInit cf.maxTerminate cf.maxConfigure cf.maxFailure id
  data :=
    { passive := cf.confIpv4 = 1 ∨ cf.confIpv4 = 0
      starting := false
      started := false
      delayAck := false
      ldStarting := false
      reported := false
      timeout := false
      ipv4 := none
      dns1 := cf.confDns1
      dns2 := cf.confDns2
      wins1 := cf.confWins1
      wins2 := cf.confWins2
      ropts := []
      terminating := false
      out := []
      agreed := none
      upFor := none }

/-- What comes from outside while one event is handled. -/
structure Env where
  /-- The result of `ipdb_get_ipv4`. -/
  ipdb : Option Ipv4
  /-- `iprange_tunnel_check` of its address. -/
  tunnel : Bool
  /-- `check_exists` of its address. -/
  taken : Bool
  /-- `ccp_ipcp_started`. -/
  ccpPending : Bool

/-! ## The options -/

variable (cf : Conf) (env : Env)

/-- `alloc_ip`; `.none` is the result 0. -/
def allocIp (d : Data) : Data × Verdict :=
  match env.ipdb with
  | none => (d, .close)
  | some ip =>
    let d := { d with ipv4 := some ip }
    if cf.pppoe = false ∧ env.tunnel then (d, .fail)
    else if cf.confCheckExists ∧ env.taken then (d, .fail)
    else (d, .none)

/-- The session has an address, or `alloc_ip` is asked for one. -/
def needIp (d : Data) : Data × Verdict :=
  if d.ipv4 = none then allocIp cf env d else (d, .none)

/-- The end of `ipaddr_recv_conf_req`. -/
def compareAddr (o : Opt) (ip : Ipv4) (d : Data) : Data × Verdict :=
  if o.len ≠ 6 then (d, .rej)
  else if ip.peerAddr = o.val then ({ d with delayAck := env.ccpPending }, .ack)
  else (d, .nak)

def ipaddrRecvConfReq (o : Opt) (d : Data) : Data × Verdict :=
  let r := needIp cf env d
  if r.2 ≠ .none then r
  else match r.1.ipv4 with
    | none => r
    | some ip => compareAddr env o ip r.1

def Data.server (d : Data) : Kind → Nat
  | .addr => 0
  | .dns1 => d.dns1
  | .dns2 => d.dns2
  | .wins1 => d.wins1
  | .wins2 => d.wins2

/-- `dns_recv_conf_req` and `wins_recv_conf_req`, for the option's address `a`. -/
def serverRecvConfReq (a : Nat) (o : Opt) : Verdict :=
  if o.len ≠ 6 then .rej
  else if a = 0 then .rej
  else if a = o.val then .ack
  else .nak

/-- `lopt->h->recv_conf_req`. -/
def recvConfReqOpt (k : Kind) (o : Opt) (d : Data) : Data × Verdict :=
  if k = .addr then ipaddrRecvConfReq cf env o d else (d, serverRecvConfReq (d.server k) o)

/-- `lopt->h->send_conf_nak`. -/
def sendConfNakOpt (d : Data) (k : Kind) : UInt8 × Nat :=
  (k.ci, if k = .addr then (d.ipv4.map Ipv4.peerAddr).getD 0 else d.server k)

/-- `ev_dns` and `ev_wins`: a given server replaces the configured one. -/
def setServer (k : Kind) (a : Nat) (d : Data) : Data :=
  if a = 0 then d
  else match k with
    | .addr => d
    | .dns1 => { d with dns1 := a }
    | .dns2 => { d with dns2 := a }
    | .wins1 => { d with wins1 := a }
    | .wins2 => { d with wins2 := a }

/-! ## The layer -/

/-- `ap_session_terminate`, which finishes each started layer: `ipcp_layer_finish`. -/
def apSessionTerminate (l : Layer Data) : Layer Data :=
  if l.data.terminating then l
  else
    let l := onData (fun d => { d with terminating := true }) l
    if l.data.ldStarting then l.goto .closed else l

/-- `__ipcp_layer_up` with `ppp_layer_started`, for the request `opts`. -/
def goUp (opts : Option (List Opt)) (d : Data) : Data :=
  if d.started then d
  else if d.reported then { d with started := true }
  else { d with started := true, reported := true, upFor := opts }

def layerUp (l : Layer Data) : Layer Data :=
  if l.data.delayAck then l else onData (goUp l.data.agreed) l

/-- `ppp_layer_passive`, as far as this layer is concerned. -/
def pppLayerPassive (d : Data) : Data := if d.reported then d else { d with passive := true }

def layerFinished (l : Layer Data) : Layer Data :=
  (if l.data.started = false ∧ cf.confIpv4 ≠ 3 then onData pppLayerPassive l
    else apSessionTerminate l).goto .closed

def fsmClose2 (l : Layer Data) : Layer Data := (stopTimer l).goto .closed

/-- `send_conf_req`; the name servers are not asked for. -/
def sendConfReq (l : Layer Data) : Layer Data × Bool :=
  let r := needIp cf env l.data
  let l := { l with data := r.1 }
  if r.2 = .none then
    (onData (fun d => d.send (.confReq l.fsm.id
      [(Kind.ci .addr, (d.ipv4.map Ipv4.addr).getD 0)])) l, false)
  else if r.2 = .close ∧ cf.confIpv4 ≠ 3 then (fsmClose2 l, false)
  else (l, true)

def sendTermAck (l : Layer Data) : Layer Data := onData (fun d => d.send (.termAck l.fsm.recvId)) l

/-- `send_conf_ack`; while it is delayed it is a Terminate-Ack. -/
def sendConfAck (l : Layer Data) : Layer Data :=
  if l.data.delayAck then sendTermAck l
  else
    onData (fun d =>
      let opts := d.ropts.map Prod.fst
      { d.send (.confAck l.fsm.recvId opts) with agreed := some opts }) l

def sendConfNak (l : Layer Data) : Layer Data :=
  onData (fun d => d.send (.confNak l.fsm.recvId
    (((d.ropts.filter fun o => o.2 = .nak).filterMap fun o => lookup o.1.id).map
      (sendConfNakOpt d)))) l

def sendConfRej (l : Layer Data) : Layer Data :=
  onData (fun d => d.send (.confRej l.fsm.recvId
    ((d.ropts.filter fun o => o.2 = .rej).map Prod.fst))) l

def sendTermReq (l : Layer Data) : Layer Data :=
  onData (fun d => d.send (.termReq (l.fsm.id + 1))) (incId l)

/-- The callbacks, with `layer_down` to be filled in. -/
def callbacksWith (layerDown : Layer Data → Layer Data) : Callbacks Data where
  layerUp := layerUp
  layerDown := layerDown
  layerStarted := fun l => l
  layerFinished := layerFinished cf
  sendConfReq := sendConfReq cf env
  sendConfAck := sendConfAck
  sendConfNak := sendConfNak
  sendConfRej := sendConfRej
  sendCodeRej := fun l => l
  sendTermReq := sendTermReq
  sendTermAck := sendTermAck

/-- `ipcp_layer_down`, which closes the automaton. When `ppp_fsm_close` calls it in turn the state
is `Closing`, and it does nothing. -/
def layerDown : Layer Data → Layer Data := fsmClose (callbacksWith cf env fun l => l)

def callbacks : Callbacks Data := callbacksWith cf env (layerDown cf env)

/-- `ipcp_layer_start`; when it fails `__ppp_layer_started` terminates the session. -/
def layerStart (l : Layer Data) : Layer Data :=
  let l := onData (fun d => { d with ldStarting := true, starting := true }) l
  if cf.confIpv4 = 0 then l
  else if l.data.passive then onData (fun d => { d with timeout := true }) l
  else
    let r := fsmOpen (callbacks cf env) (fsmLowerUp (callbacks cf env) l).1
    if r.2 then apSessionTerminate r.1 else r.1

/-! ## Received packets -/

def judged (o : Opt) (r : Verdict) (d : Data) : Data := { d with ropts := d.ropts ++ [(o, r)] }

/-- The loop of `ipcp_recv_conf_req` over the received options. -/
def judgeOpts (cf : Conf) (env : Env) : List Opt → Verdict → Layer Data → Layer Data × Verdict
  | [], ret, l => (l, ret)
  | o :: os, ret, l =>
    match lookup o.id with
    | none => judgeOpts cf env os .rej (onData (judged o .rej) l)
    | some k =>
      let r := recvConfReqOpt cf env k o l.data
      let l := { l with data := r.1 }
      if r.2 = .termack then (sendTermAck l, .none)
      else if r.2 = .close then
        (if cf.confIpv4 = 3 then apSessionTerminate l else onData (fun d => d.send .protoRej) l,
          .none)
      else judgeOpts cf env os (ret.worst r.2) (onData (judged o r.2) l)

def recvConfReq (opts : List Opt) (l : Layer Data) : Layer Data × Verdict :=
  judgeOpts cf env opts .ack (onData (fun d => { d with ropts := [] }) l)

def wake (r : Verdict) (l : Layer Data) : Layer Data :=
  if r ≠ .none ∧ l.data.passive then
    let l := onData (fun d => { d with passive := false }) l
    let l := (fsmOpen (callbacks cf env) (fsmLowerUp (callbacks cf env) l).1).1
    onData (fun d => { d with timeout := false }) l
  else l

def undelay (delayed : Bool) (l : Layer Data) : Layer Data :=
  if delayed ∧ l.data.delayAck = false then
    onData (fun d => goUp (some (d.ropts.map Prod.fst)) d) l
  else l

/-- What `ipcp_recv` does with a verdict; `delayed` is `delay_ack` before it. -/
def answerConfReq (delayed : Bool) (r : Verdict) (l : Layer Data) : Layer Data :=
  if l.data.started ∨ delayed then
    if r = .ack then sendConfAck l else apSessionTerminate l
  else match r with
    | .ack => fsmRecvConfReqAck (callbacks cf env) l
    | .nak => fsmRecvConfReqNak (callbacks cf env) l
    | .rej => fsmRecvConfReqRej (callbacks cf env) l
    | .fail => apSessionTerminate l
    | _ => l

/-- `CONFREQ`. A session terminated by the request is not answered. -/
def recvReq (opts : List Opt) (l : Layer Data) : Layer Data :=
  let j := recvConfReq cf env opts l
  onData (fun d => { d with ropts := [] })
    (if j.1.data.terminating then j.1
      else
        answerConfReq cf env l.data.delayAck j.2 (undelay l.data.delayAck (wake cf env j.2 j.1)))

/-- `CONFREJ`: no option has a handler, so rejecting a registered one ends the session. -/
def recvRej (opts : List Opt) (l : Layer Data) : Layer Data :=
  if opts.any fun o => (lookup o.id).isSome then apSessionTerminate l
  else fsmRecvConfRej (callbacks cf env) l

/-- The `switch` of `ipcp_recv`. No option has a handler for `CONFACK` or `CONFNAK`. -/
def dispatch (code : Nat) (opts : List Opt) (l : Layer Data) : Layer Data :=
  match code with
  | 1 => recvReq cf env opts l
  | 2 => fsmRecvConfAck (callbacks cf env) l
  | 3 => fsmRecvConfRej (callbacks cf env) l
  | 4 => recvRej cf env opts l
  | 5 => apSessionTerminate (fsmRecvTermReq (callbacks cf env) l)
  | 6 => l
  | 7 => fsmRecvCodeRejBad (callbacks cf env) l
  | _ => fsmRecvUnk (callbacks cf env) l

def discards (l : Layer Data) : Bool :=
  !l.data.starting || l.fsm.state = .closed || l.data.terminating || cf.confIpv4 = 0

/-- The packet is too short, or does not answer the last request. -/
def ignores (p : Packet) (l : Layer Data) : Bool :=
  decide (p.bufSize < 6 ∨ p.len < 4 ∨ (p.code = 2 ∨ p.code = 3 ∨ p.code = 4) ∧ p.id ≠ l.fsm.id)

def recv (p : Packet) (l : Layer Data) : Layer Data :=
  if discards cf l then
    if l.data.terminating = false ∧ (l.fsm.state = .closed ∨ cf.confIpv4 = 0) then
      onData (fun d => d.send .protoRej) l
    else l
  else if ignores p l then l
  else
    dispatch cf env p.code (options p.mem (p.len - 4))
      { l with fsm := { l.fsm with recvId := p.id } }

def recvProtoRej (l : Layer Data) : Layer Data :=
  if l.fsm.state = .initial ∨ l.fsm.state = .closed then l
  else fsmClose (callbacks cf env) (fsmLowerDown (callbacks cf env) l)

/-! ## The machine -/

inductive Event
  | start (env : Env)
  | recv (env : Env) (p : Packet)
  | protoRej (env : Env)
  | timer (env : Env)
  /-- The start timer expires; it matters while the session is starting. -/
  | startTimeout (sessionStarting : Bool)
  | server (k : Kind) (a : Nat)
  /-- The session is terminated for another reason. -/
  | terminate

def step (l : Layer Data) : Event → Option (Layer Data)
  | .start env => if l.data.ldStarting then none else some (layerStart cf env l)
  | .recv env p => some (recv cf env p l)
  | .protoRej env => some (recvProtoRej cf env l)
  | .timer env =>
    if l.fsm.restartTimer then some (restartTimerFunc (callbacks cf env) l) else none
  | .startTimeout sessionStarting =>
    if l.data.timeout then
      let l := onData (fun d => { d with timeout := false }) l
      some (if sessionStarting then apSessionTerminate l else l)
    else none
  | .server k a => some (onData (setServer k a) l)
  | .terminate => some (apSessionTerminate l)

end Ppp.Ipcp
