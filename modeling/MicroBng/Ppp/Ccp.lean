import MicroBng.Lib.Machine
import MicroBng.Ppp.Fsm

/-!
# CCP with the MPPE option

`ppp/ppp_ccp.c` and `ppp/ccp_mppe.c`: the layer that negotiates encryption. MPPE is the only
option that is registered, so the list of options is that one option and its fields stand in the
data of the layer.

Packets are given as the code reads them: the header, and the bytes that follow it in the buffer,
of which the length field says how many belong to the packet. `out` records what is sent;
`rxKey` and `txKey` are the keys that `setup_mppe_key` has installed in the kernel.
-/

namespace Ppp.Ccp

open Ppp

/-! ## Options and packets -/

/-- `CCP_OPT_*`. -/
inductive Verdict
  | none | ack | nak | rej | fail
  deriving DecidableEq

def Verdict.code : Verdict → Int
  | .none => 0
  | .ack => 1
  | .nak => -1
  | .rej => -2
  | .fail => -3

/-- `if (r < ret) ret = r`. -/
def Verdict.worst (ret r : Verdict) : Verdict := if r.code < ret.code then r else ret

structure Opt where
  bytes : List UInt8
  deriving DecidableEq

/-- `hdr.id`. -/
def Opt.id (o : Opt) : UInt8 := o.bytes.getD 0 0

/-- `hdr.len`. -/
def Opt.len (o : Opt) : Nat := (o.bytes.getD 1 0).toNat

/-- `ntohl(opt32->val)`. -/
def Opt.val (o : Opt) : Nat :=
  (((o.bytes.getD 2 0).toNat * 256 + (o.bytes.getD 3 0).toNat) * 256 +
    (o.bytes.getD 4 0).toNat) * 256 + (o.bytes.getD 5 0).toNat

/-- The loop that cuts `size` bytes into options, up to a bad length. -/
def parseOpts : Nat → List UInt8 → Nat → List Opt
  | 0, _, _ => []
  | fuel + 1, mem, size =>
    let len := (mem.getD 1 0).toNat
    if size = 0 ∨ len = 0 ∨ size < len then []
    else ⟨mem.take (max len 2)⟩ :: parseOpts fuel (mem.drop len) (size - len)

def options (mem : List UInt8) (size : Nat) : List Opt := parseOpts size mem size

def ciMppe : UInt8 := 18

/-- `MPPE_S | MPPE_H`. -/
def mppeSH : Nat := 0x01000040

/-- `struct ccp_hdr_t` at the front of the buffer of `bufSize` bytes, and what follows it. -/
structure Packet where
  bufSize : Nat
  code : Nat
  id : UInt8
  len : Nat
  mem : List UInt8

inductive Msg
  | confReq (id : UInt8) (mppe : Option Nat)
  | confAck (id : UInt8) (opts : List Opt)
  | confNak (id : UInt8) (mppe : Option Nat)
  | confRej (id : UInt8) (opts : List Opt)
  | termReq (id : UInt8)
  | termAck (id : UInt8)
  | protoRej

/-! ## Configuration and state -/

/-- `MPPE_*`, except `MPPE_UNSET`. -/
inductive Setting
  | allow | deny | prefer | require
  deriving DecidableEq

def Setting.code : Setting → Int
  | .allow => -1
  | .deny => 0
  | .prefer => 1
  | .require => 2

/-- `ctrlMppe` is `none` for `MPPE_UNSET`; `kernelMppe`: the kernel accepts keys. -/
structure Conf where
  confCcp : Bool
  confMppe : Setting
  ctrlMppe : Option Setting
  maxTerminate : Int
  maxConfigure : Int
  maxFailure : Int
  kernelMppe : Bool

def Conf.mppe (cf : Conf) : Setting := cf.ctrlMppe.getD cf.confMppe

/-- `struct ppp_ccp_t` with `struct mppe_option_t` and the session's fields; `ldStarting` and
`reported` are of its `ld`. -/
structure Data where
  passive : Bool
  optional : Bool
  starting : Bool
  started : Bool
  ldStarting : Bool
  reported : Bool
  optState : Verdict
  policy : Int
  mppe : Int
  enabled : Bool
  comp : Bool
  recvKey : List UInt8
  sendKey : List UInt8
  rxKey : Option (List UInt8)
  txKey : Option (List UInt8)
  ropts : List (Opt × Verdict)
  terminating : Bool
  active : Bool
  out : List Msg

variable (cf : Conf)

def Data.send (d : Data) (m : Msg) : Data := { d with out := d.out ++ [m] }

def onData (f : Data → Data) (l : Layer Data) : Layer Data := { l with data := f l.data }

/-! ## The MPPE option -/

/-- `mppe_init` and `ccp_layer_init`. -/
def layerInit (id : UInt8) : Layer Data where
  fsm := fsmInit cf.maxTerminate cf.maxConfigure cf.maxFailure id
  data :=
    { passive := cf.mppe ≠ .require ∧ cf.mppe ≠ .prefer
      optional := cf.mppe ≠ .require
      starting := false
      started := false
      ldStarting := false
      reported := false
      optState := .none
      policy := if cf.mppe ≠ .allow then cf.mppe.code else 1
      mppe := if 0 < cf.mppe.code then 1 else -1
      enabled := false
      comp := false
      recvKey := List.replicate 16 0
      sendKey := List.replicate 16 0
      rxKey := none
      txKey := none
      ropts := []
      terminating := false
      active := false
      out := [] }

/-- `__mppe_send_conf_req`: the option of a request or a suggestion, if any. -/
def mppeOption (setupKey : Bool) (d : Data) : Data × Option Nat :=
  if d.mppe = -1 then (d, none)
  else if d.mppe = 0 then (d, some 0)
  else if setupKey = false then (d, some mppeSH)
  else if cf.kernelMppe then ({ d with rxKey := some d.recvKey }, some mppeSH)
  else (d, none)

/-- The end of `mppe_recv_conf_req`, for a value that is accepted. -/
def mppeAccept (d : Data) : Data × Verdict :=
  if d.mppe = 0 then ({ d with comp := false }, .ack)
  else if cf.kernelMppe then
    ({ d with txKey := some d.sendKey, enabled := true, comp := true }, .ack)
  else (d, .rej)

/-- `mppe_recv_conf_req`; `none` for a request without the option. -/
def mppeRecvConfReq (o : Option Opt) (d : Data) : Data × Verdict :=
  match o with
  | none => if d.policy = 2 then (d, .nak) else (d, .ack)
  | some o =>
    if o.len ≠ 6 then (d, .rej)
    else if d.policy = 2 then
      if o.val ≠ mppeSH then (d, .nak) else mppeAccept cf d
    else if d.policy = 1 then
      if o.val = mppeSH then mppeAccept cf { d with mppe := 1 }
      else if o.val &&& mppeSH ≠ 0 ∨ cf.mppe = .prefer then ({ d with mppe := 1 }, .nak)
      else if o.val ≠ 0 then ({ d with mppe := 0 }, .nak)
      else mppeAccept cf { d with mppe := 0 }
    else (d, .rej)

/-- `mppe_recv_conf_rej`; the second part is the result `-1`. -/
def mppeRecvConfRej (d : Data) : Data × Bool :=
  if d.policy ≠ 2 then ({ d with mppe := -1 }, false) else (d, true)

/-- `mppe_recv_conf_nak`, whose result `ccp_recv` ignores. -/
def mppeRecvConfNak (o : Opt) (d : Data) : Data :=
  if o.len = 6 ∧ d.policy = 1 then
    if o.val &&& mppeSH = mppeSH then { d with mppe := 0 } else { d with mppe := 1 }
  else d

/-- `struct ev_mppe_keys_t`. -/
structure Keys where
  recvKey : List UInt8
  sendKey : List UInt8
  type : Nat
  policy : Int

def evMppeKeys (k : Keys) (d : Data) : Data :=
  let d := { d with recvKey := k.recvKey, sendKey := k.sendKey }
  if k.policy = -1 then d
  else if k.type &&& 4 = 0 then { d with mppe := 0 }
  else match cf.ctrlMppe with
    | some _ => d
    | none =>
      if k.policy = 2 then { d with policy := 2, mppe := 1, passive := false }
      else if k.policy = 1 then
        { d with
          policy := 1
          mppe := if cf.mppe = .prefer then 1 else -1
          passive := if cf.mppe = .require then true else d.passive }
      else { d with policy := k.policy }

/-! ## The layer -/

/-- `ap_session_terminate`, which finishes each started layer: `ccp_layer_finish`. -/
def apSessionTerminate (l : Layer Data) : Layer Data :=
  if l.data.terminating then l
  else
    let l := onData (fun d => { d with terminating := true, active := false }) l
    if l.data.ldStarting then l.goto .closed else l

/-- `ppp_layer_started`, as far as this layer is concerned. -/
def pppLayerStarted (d : Data) : Data := { d with reported := true }

/-- `ppp_layer_passive`, as far as this layer is concerned. -/
def pppLayerPassive (d : Data) : Data := if d.reported then d else { d with passive := true }

def layerUp (l : Layer Data) : Layer Data :=
  if l.data.started then l else onData (fun d => pppLayerStarted { d with started := true }) l

def layerFinished (l : Layer Data) : Layer Data :=
  (if l.data.started then apSessionTerminate l else onData pppLayerPassive l).goto .closed

def sendConfReq (l : Layer Data) : Layer Data × Bool :=
  if l.data.passive then (l, false)
  else
    let (d, o) := mppeOption cf true l.data
    ({ l with data := d.send (.confReq l.fsm.id o) }, false)

def sendConfAck (l : Layer Data) : Layer Data :=
  onData (fun d => d.send (.confAck l.fsm.recvId (d.ropts.map Prod.fst))) l

def sendConfNak (l : Layer Data) : Layer Data :=
  onData (fun d => d.send (.confNak l.fsm.recvId
    (if d.optState = .nak then (mppeOption cf false d).2 else none))) l

def sendConfRej (l : Layer Data) : Layer Data :=
  onData (fun d => d.send (.confRej l.fsm.recvId
    ((d.ropts.filter fun o => o.2 = .rej).map Prod.fst))) l

def sendTermReq (l : Layer Data) : Layer Data :=
  onData (fun d => d.send (.termReq (l.fsm.id + 1))) (incId l)

def sendTermAck (l : Layer Data) : Layer Data := onData (fun d => d.send (.termAck l.fsm.recvId)) l

/-- The callbacks, with `layer_down` to be filled in. -/
def callbacksWith (layerDown : Layer Data → Layer Data) : Callbacks Data where
  layerUp := layerUp
  layerDown := layerDown
  layerStarted := id
  layerFinished := layerFinished
  sendConfReq := sendConfReq cf
  sendConfAck := sendConfAck
  sendConfNak := sendConfNak cf
  sendConfRej := sendConfRej
  sendCodeRej := id
  sendTermReq := sendTermReq
  sendTermAck := sendTermAck

/-- `ccp_layer_down`, which closes the automaton. When `ppp_fsm_close` calls it in turn the state
is `Closing`, and it does nothing. -/
def layerDown : Layer Data → Layer Data := fsmClose (callbacksWith cf id)

def callbacks : Callbacks Data := callbacksWith cf (layerDown cf)

def layerStart (l : Layer Data) : Layer Data :=
  let l := onData (fun d => { d with ldStarting := true }) l
  if cf.confCcp = false then onData (fun d => pppLayerStarted { d with started := true }) l
  else
    let l := onData (fun d => { d with starting := true }) l
    if l.data.passive then l
    else
      let r := fsmOpen (callbacks cf) (fsmLowerUp (callbacks cf) l).1
      if r.2 then apSessionTerminate r.1 else r.1

/-! ## Received packets -/

/-- The state of the loop of `ccp_recv_conf_req` over the options. -/
structure Judge where
  data : Data
  ret : Verdict
  ack : Bool

/-- One received option: its verdict, and the loop after it. -/
def judgeOpt (j : Judge) (o : Opt) : Judge :=
  if o.id = ciMppe then
    let (d, r) := mppeRecvConfReq cf (some o) j.data
    let st := if j.ack then Verdict.rej else r
    { data := { d with optState := st, ropts := d.ropts ++ [(o, st)] }
      ret := j.ret.worst r
      ack := j.ack || st = .ack || st = .nak }
  else
    { j with data := { j.data with ropts := j.data.ropts ++ [(o, .rej)] }, ret := .rej }

/-- The option is asked about the request, unless it has a verdict. -/
def judgeMissing (j : Judge) : Data × Verdict :=
  if j.data.optState = .none then
    let (d, r) := mppeRecvConfReq cf none j.data
    ({ d with optState := r }, j.ret.worst r)
  else (j.data, j.ret)

def recvConfReq (opts : List Opt) (d : Data) : Data × Verdict :=
  judgeMissing cf (opts.foldl (judgeOpt cf) ⟨{ d with ropts := [] }, .ack, false⟩)

/-- `ccp_recv_conf_rej`; the second part is the result `-1`. -/
def recvConfRej (opts : List Opt) (d : Data) : Data × Bool :=
  (opts.filter fun o => o.id = ciMppe).foldl
    (fun r _ => ((mppeRecvConfRej r.1).1, r.2 || (mppeRecvConfRej r.1).2)) (d, false)

def recvConfNak (opts : List Opt) (d : Data) : Data :=
  (opts.filter fun o => o.id = ciMppe).foldl (fun d o => mppeRecvConfNak o d) d

def wake (l : Layer Data) : Layer Data :=
  if l.data.passive then
    let l := onData (fun d => { d with passive := false }) l
    (fsmOpen (callbacks cf) (fsmLowerUp (callbacks cf) l).1).1
  else l

/-- What `ccp_recv` does with the verdict on a request. -/
def answerConfReq (r : Verdict) (l : Layer Data) : Layer Data :=
  if l.data.started then
    if r = .ack then sendConfAck l else apSessionTerminate l
  else match r with
    | .ack => fsmRecvConfReqAck (callbacks cf) l
    | .nak => fsmRecvConfReqNak (callbacks cf) l
    | .rej => fsmRecvConfReqRej (callbacks cf) l
    | .fail => apSessionTerminate l
    | .none => l

/-- `CONFREQ`. -/
def recvReq (opts : List Opt) (l : Layer Data) : Layer Data :=
  let (d, r) := recvConfReq cf opts l.data
  onData (fun d => { d with ropts := [] }) (answerConfReq cf r (wake cf { l with data := d }))

/-- `CONFREJ`. -/
def recvRej (opts : List Opt) (l : Layer Data) : Layer Data :=
  let (d, failed) := recvConfRej opts l.data
  if failed then apSessionTerminate { l with data := d }
  else fsmRecvConfRej (callbacks cf) { l with data := d }

/-- The `switch` of `ccp_recv` over the code of the packet. -/
def dispatch (code : Nat) (opts : List Opt) (l : Layer Data) : Layer Data :=
  match code with
  | 1 => recvReq cf opts l
  | 2 => fsmRecvConfAck (callbacks cf) l
  | 3 => fsmRecvConfRej (callbacks cf) (onData (recvConfNak opts) l)
  | 4 => recvRej cf opts l
  | 5 => fsmClose (callbacks cf) (fsmRecvTermReq (callbacks cf) l)
  | 6 => fsmRecvTermAck (callbacks cf) l
  | 7 => fsmRecvCodeRejBad (callbacks cf) l
  | _ => fsmRecvUnk (callbacks cf) l

def discards (l : Layer Data) : Bool :=
  !l.data.starting || l.fsm.state = .closed || l.data.terminating || l.data.active

def recv (p : Packet) (l : Layer Data) : Layer Data :=
  if discards l then
    if l.fsm.state = .closed ∨ cf.confCcp = false ∨ l.data.active then
      onData (fun d => d.send .protoRej) l
    else l
  else if p.bufSize < 6 ∨ p.len < 4 then l
  else if (p.code = 2 ∨ p.code = 3 ∨ p.code = 4) ∧ p.id ≠ l.fsm.id then l
  else
    dispatch cf p.code (options p.mem (p.len - 4)) { l with fsm := { l.fsm with recvId := p.id } }

def recvProtoRej (l : Layer Data) : Layer Data :=
  if l.data.optional = false then apSessionTerminate l
  else if l.fsm.state = .initial ∨ l.fsm.state = .closed then l
  else fsmClose (callbacks cf) (fsmLowerDown (callbacks cf) l)

/-! ## The machine -/

inductive Event
  | start
  | recv (p : Packet)
  | protoRej
  | timer
  | keys (k : Keys)
  /-- `ap_session_activate`: all layers are up. -/
  | activate
  /-- The session is terminated for another reason. -/
  | terminate

def step (l : Layer Data) : Event → Option (Layer Data)
  | .start => if l.data.ldStarting then none else some (layerStart cf l)
  | .recv p => some (recv cf p l)
  | .protoRej => some (recvProtoRej cf l)
  | .timer => if l.fsm.restartTimer then some (restartTimerFunc (callbacks cf) l) else none
  | .keys k => some (onData (evMppeKeys cf k) l)
  | .activate =>
    if l.data.terminating then none else some (onData (fun d => { d with active := true }) l)
  | .terminate => some (apSessionTerminate l)

end Ppp.Ccp
