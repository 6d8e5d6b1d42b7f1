import Mathlib.Data.List.Basic

/-!
# The automaton of the PPP control protocols

`ppp/ppp_fsm.c`: the negotiation automaton that LCP, CCP, IPCP and IPV6CP share. A layer is the
automaton together with the data of its protocol; the callbacks through which the automaton acts
on the protocol take and return the whole layer, since some of them come back to the automaton.
A callback that a protocol leaves out is the identity.

The restart timer is armed or not; that it expires is an event of the layer's environment.
-/

namespace Ppp

inductive FsmState
  | initial | starting | closed | stopped | closing | stopping
  | reqSent | ackRcvd | ackSent | opened
  deriving DecidableEq

/-- `struct ppp_fsm_t` without the callbacks. -/
structure Fsm where
  state : FsmState
  restartTimer : Bool
  restartCounter : Int
  maxTerminate : Int
  maxConfigure : Int
  maxFailure : Int
  confFailure : Int
  id : UInt8
  recvId : UInt8

/-- A layer: the automaton and the data of the protocol. -/
structure Layer (δ : Type*) where
  fsm : Fsm
  data : δ

/-- The callbacks. `sendConfReq` also says whether it failed. -/
structure Callbacks (δ : Type*) where
  layerUp : Layer δ → Layer δ
  layerDown : Layer δ → Layer δ
  layerStarted : Layer δ → Layer δ
  layerFinished : Layer δ → Layer δ
  sendConfReq : Layer δ → Layer δ × Bool
  sendConfAck : Layer δ → Layer δ
  sendConfNak : Layer δ → Layer δ
  sendConfRej : Layer δ → Layer δ
  sendCodeRej : Layer δ → Layer δ
  sendTermReq : Layer δ → Layer δ
  sendTermAck : Layer δ → Layer δ

variable {δ : Type*}

/-- Set `fsm_state`. -/
def Layer.goto (l : Layer δ) (s : FsmState) : Layer δ := { l with fsm := { l.fsm with state := s } }

/-- `ppp_fsm_init`, with the limits and the random first identifier. -/
def fsmInit (maxTerminate maxConfigure maxFailure : Int) (id : UInt8) : Fsm where
  state := .initial
  restartTimer := false
  restartCounter := 0
  maxTerminate := maxTerminate
  maxConfigure := maxConfigure
  maxFailure := maxFailure
  confFailure := 0
  id := id
  recvId := 0

def stopTimer (l : Layer δ) : Layer δ := { l with fsm := { l.fsm with restartTimer := false } }

def initReqCounter (l : Layer δ) (n : Int) : Layer δ :=
  { l with fsm := { l.fsm with restartCounter := n, restartTimer := true } }

def zeroReqCounter (l : Layer δ) : Layer δ := initReqCounter l 0

/-- `--layer->restart_counter`. -/
def decCounter (l : Layer δ) : Layer δ :=
  { l with fsm := { l.fsm with restartCounter := l.fsm.restartCounter - 1 } }

/-- `++layer->conf_failure`. -/
def incFailure (l : Layer δ) : Layer δ :=
  { l with fsm := { l.fsm with confFailure := l.fsm.confFailure + 1 } }

/-- `++layer->id`. -/
def incId (l : Layer δ) : Layer δ := { l with fsm := { l.fsm with id := l.fsm.id + 1 } }

namespace Callbacks

variable (cb : Callbacks δ)

/-- Send a request where the result of `send_conf_req` is ignored. -/
def request (l : Layer δ) : Layer δ := (cb.sendConfReq l).1

def resend (l : Layer δ) : Layer δ := cb.request (decCounter l)

def restart (l : Layer δ) (n : Int) : Layer δ := cb.resend (initReqCounter l n)

end Callbacks

/-! ## Administrative events -/

section Admin

variable (cb : Callbacks δ)

/-- `ppp_fsm_lower_up`; the second part is the result `-1`. -/
def fsmLowerUp (l : Layer δ) : Layer δ × Bool :=
  match l.fsm.state with
  | .initial => (l.goto .closed, false)
  | .starting =>
    let r := cb.sendConfReq (decCounter (initReqCounter l l.fsm.maxConfigure))
    if r.2 then r else (r.1.goto .reqSent, false)
  | _ => (l, false)

def fsmLowerDown (l : Layer δ) : Layer δ :=
  match l.fsm.state with
  | .closed | .closing => l.goto .initial
  | .stopped => (cb.layerStarted l).goto .starting
  | .stopping | .reqSent | .ackRcvd | .ackSent => l.goto .starting
  | .opened => (cb.layerDown l).goto .starting
  | _ => l

/-- `ppp_fsm_open`; the second part is the result `-1`. -/
def fsmOpen (l : Layer δ) : Layer δ × Bool :=
  match l.fsm.state with
  | .initial => (l.goto .starting, false)
  | .closed => cb.sendConfReq ((decCounter (initReqCounter l l.fsm.maxConfigure)).goto .reqSent)
  | .closing | .stopping | .stopped | .opened => ((fsmLowerUp cb (fsmLowerDown cb l)).1, false)
  | _ => (l, false)

/-- The end of `ppp_fsm_close` where something is or may be negotiated. -/
def closeNegotiation (l : Layer δ) : Layer δ :=
  (cb.sendTermReq (initReqCounter l l.fsm.maxTerminate)).goto .closing

def fsmClose (l : Layer δ) : Layer δ :=
  match l.fsm.state with
  | .starting => cb.layerFinished ((stopTimer l).goto .initial)
  | .stopped => stopTimer (l.goto .closed)
  | .stopping => l.goto .closing
  | .opened => closeNegotiation cb (cb.layerDown (l.goto .closing))
  | .reqSent | .ackRcvd | .ackSent => closeNegotiation cb l
  | _ => l

def fsmTimeout0 (l : Layer δ) : Layer δ :=
  match l.fsm.state with
  | .closing | .stopping => cb.sendTermReq (decCounter l)
  | .ackRcvd => cb.resend (l.goto .reqSent)
  | .reqSent | .ackSent => cb.resend l
  | _ => l

def fsmTimeout1 (l : Layer δ) : Layer δ :=
  match l.fsm.state with
  | .closing => cb.layerFinished ((stopTimer l).goto .closed)
  | .stopping | .ackRcvd | .reqSent | .ackSent => cb.layerFinished ((stopTimer l).goto .stopped)
  | _ => l

def restartTimerFunc (l : Layer δ) : Layer δ :=
  if 0 < l.fsm.restartCounter then fsmTimeout0 cb l else fsmTimeout1 cb l

end Admin

/-! ## Received packets -/

section Recv

variable (cb : Callbacks δ)

/-- `ppp_fsm_recv_conf_req_ack`: a request that is acceptable. -/
def fsmRecvConfReqAck (l : Layer δ) : Layer δ :=
  match l.fsm.state with
  | .closed => cb.sendTermAck l
  | .stopped => (cb.sendConfAck (cb.restart l l.fsm.maxConfigure)).goto .ackSent
  | .reqSent | .ackSent => (cb.sendConfAck l).goto .ackSent
  | .ackRcvd => (cb.layerUp (stopTimer (cb.sendConfAck l))).goto .opened
  | .opened => (cb.sendConfAck (cb.resend (cb.layerDown l))).goto .ackSent
  | _ => l

def fsmRecvConfReqNak (l : Layer δ) : Layer δ :=
  match l.fsm.state with
  | .closed => cb.sendTermAck l
  | .stopped => (cb.sendConfNak (cb.restart l l.fsm.maxConfigure)).goto .reqSent
  | .ackSent => (cb.sendConfNak l).goto .reqSent
  | .reqSent | .ackRcvd =>
    if l.fsm.confFailure + 1 = l.fsm.maxFailure then cb.layerFinished (incFailure l)
    else cb.sendConfNak (incFailure l)
  | .opened => (cb.sendConfNak (cb.resend (cb.layerDown l))).goto .reqSent
  | _ => l

/-- A rejection where this side has acknowledged or has not begun. -/
def rejAcked (l : Layer δ) : Layer δ :=
  if l.fsm.confFailure + 1 = l.fsm.maxFailure then cb.layerDown (incFailure l)
  else (cb.sendConfRej (incFailure l)).goto .reqSent

def fsmRecvConfReqRej (l : Layer δ) : Layer δ :=
  match l.fsm.state with
  | .closed => cb.sendTermAck l
  | .stopped => rejAcked cb (cb.restart l l.fsm.maxConfigure)
  | .ackSent => rejAcked cb l
  | .reqSent | .ackRcvd =>
    if l.fsm.confFailure + 1 = l.fsm.maxFailure then cb.layerFinished (incFailure l)
    else cb.sendConfRej (incFailure l)
  | .opened => (cb.sendConfRej (cb.resend (cb.layerDown l))).goto .reqSent
  | _ => l

/-- `ppp_fsm_recv_conf_ack`, after the identifier has been counted up. -/
def confAcked (l : Layer δ) : Layer δ :=
  match l.fsm.state with
  | .closed | .stopped => cb.sendTermAck l
  | .reqSent => l.goto .ackRcvd
  | .ackRcvd => (cb.resend l).goto .reqSent
  | .ackSent => (cb.layerUp (stopTimer l)).goto .opened
  | .opened => (cb.resend (cb.layerDown l)).goto .reqSent
  | _ => l

def fsmRecvConfAck (l : Layer δ) : Layer δ := confAcked cb (incId l)

/-- `ppp_fsm_recv_conf_rej`, after the identifier has been counted up. -/
def confRejected (l : Layer δ) : Layer δ :=
  match l.fsm.state with
  | .closed | .stopped => cb.sendTermAck l
  | .reqSent =>
    if l.fsm.confFailure + 1 = l.fsm.maxFailure then cb.layerDown (incFailure l)
    else cb.restart (incFailure l) l.fsm.maxFailure
  | .ackRcvd => (cb.resend l).goto .reqSent
  | .ackSent =>
    if l.fsm.confFailure + 1 = l.fsm.maxFailure then cb.layerDown (incFailure l)
    else cb.restart (incFailure l) l.fsm.maxConfigure
  | .opened => (cb.resend (cb.layerDown l)).goto .reqSent
  | _ => l

def fsmRecvConfRej (l : Layer δ) : Layer δ := confRejected cb (incId l)

def fsmRecvTermReq (l : Layer δ) : Layer δ :=
  match l.fsm.state with
  | .opened => (zeroReqCounter (cb.sendTermAck (cb.layerDown l))).goto .stopping
  | .reqSent | .ackRcvd | .ackSent => (cb.sendTermAck l).goto .reqSent
  | _ => cb.sendTermAck l

/-- `ppp_fsm_recv_term_ack`, after the timer has been stopped. -/
def termAcked (l : Layer δ) : Layer δ :=
  match l.fsm.state with
  | .closing => cb.layerFinished (l.goto .closed)
  | .stopping => cb.layerFinished (l.goto .stopped)
  | .ackRcvd => l.goto .reqSent
  | .opened => (cb.resend (cb.layerDown l)).goto .reqSent
  | _ => l

def fsmRecvTermAck (l : Layer δ) : Layer δ := termAcked cb (stopTimer l)

def fsmRecvUnk (l : Layer δ) : Layer δ := cb.sendCodeRej l

def fsmRecvCodeRejBad (l : Layer δ) : Layer δ :=
  match l.fsm.state with
  | .opened => (cb.sendTermReq (decCounter (cb.layerDown l))).goto .stopping
  | .closing => cb.layerFinished (l.goto .closed)
  | .stopping | .reqSent | .ackRcvd | .ackSent => cb.layerFinished (l.goto .stopped)
  | _ => l

end Recv

end Ppp
