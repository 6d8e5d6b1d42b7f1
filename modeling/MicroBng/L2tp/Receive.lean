import MicroBng.Lib.Machine
import MicroBng.L2tp.Messages

/-!
# The L2TP tunnel as a state machine

`l2tp_conn_read` stores every datagram that is waiting in the reception window, drops the
acknowledged messages from the retransmission queue, and takes the messages out of the window in
order (`l2tp_tunnel_reply`). One iteration of its loops is one `step`, and `State.phase` says where
inside the function the tunnel is; the timers, the scheduled start function and the requests of the
other contexts can only come while it is back in the event loop (`Phase.idle`).
-/

namespace L2tp

/-- Where `l2tp_conn_read` is: in its loop over datagrams, or in that of `l2tp_tunnel_reply` at slot
`id` with the messages taken. -/
inductive Phase where
  | idle
  | reading (needAck : Bool)
  | replying (id pktCount : Nat) (needAck : Bool)
  deriving DecidableEq

structure State where
  conn : Conn
  phase : Phase

/-! ## Storing a datagram -/

/-- The result of `l2tp_tunnel_store_msg` and its `need_ack`. -/
structure Stored where
  conn : Conn
  needAck : Bool

variable (cf : Conf)

/-- The end of `l2tp_tunnel_store_msg`: the reception window. -/
def Rx.store (r : Rx) (pack : Packet) : Rx :=
  if nsnrCmp pack.ns r.nr < 0 then r
  else
    let indx := (pack.ns - r.nr).toNat
    if indx ≥ r.sz then r
    else if (r.queue ((indx + r.offt) % r.sz)).isSome then r
    else { r with queue := Function.update r.queue ((indx + r.offt) % r.sz) (some pack) }

/-- The handling of the acknowledgement number in `l2tp_tunnel_store_msg`. -/
def Tx.ack (t : Tx) (nr : UInt16) : Tx :=
  if nsnrCmp nr t.peerNr > 0 then { t with peerNr := nr } else t

def storeMsg (c : Conn) (pack : Packet) (needAck : Bool) : Stored :=
  if nsnrCmp c.tx.ns pack.nr < 0 then ⟨c, needAck⟩
  else
    let c := { c with tx := c.tx.ack pack.nr }
    if pack.isZLB then ⟨c, needAck⟩
    else ⟨{ c with rx := c.rx.store pack }, true⟩

/-! ## The loops of `l2tp_conn_read` and `l2tp_tunnel_reply` -/

/-- What `l2tp_recv` returns for one datagram. -/
inductive Recv where
  /-- the peer is unreachable (-2) -/
  | unreachable
  | pack (p : Packet)
  /-- nothing more to read -/
  | done

def Conn.accepts (c : Conn) (p : Packet) : Prop :=
  ¬ (p.tid ≠ c.misc.tid ∧ (p.tid ≠ 0 ∨ ¬ cf.dir300Quirk = true))
deriving Decidable

/-- The first datagram fixes the port of the peer (`l2tp_tunnel_update_peerport`). -/
def updatePeerport (port : UInt16) : TunM Bool := do
  let c ← get
  if c.misc.portSet then
    return true
  else if ← ask then
    modMisc fun m => { m with peerPort := port, portSet := true }
    return true
  else
    return false

/-- One iteration of the loop of `l2tp_conn_read` on a datagram. -/
def readPack (c : Conn) (p : Packet) (needAck : Bool) : State :=
  let (ok, c) := updatePeerport p.port c
  if ok then
    if c.accepts cf p then
      let s := storeMsg c p needAck
      ⟨s.conn, .reading s.needAck⟩
    else ⟨c, .reading needAck⟩
  else ⟨(tunnelFree c).2, .idle⟩

/-- The end of the reading loop: clean the retransmission queue, enter `l2tp_tunnel_reply`. -/
def endReading (c : Conn) (needAck : Bool) : State :=
  let (ok, c) := cleanRtmsqueue c
  if ok then ⟨c, .replying c.rx.offt 0 needAck⟩ else ⟨(tunnelFree c).2, .idle⟩

/-- The message is taken out of slot `id`. -/
def Rx.take (r : Rx) (id : Nat) (pack : Packet) : Rx :=
  { r with queue := Function.update r.queue id none, nr := r.nr + 1, taken := r.taken ++ [pack] }

/-- The loop body of `l2tp_tunnel_reply`, once the message is taken out. -/
def handleMsg (pack : Packet) : TunM Unit := do
  let c ← get
  if c.ctl.state = .fin ∨ c.ctl.state = .finWait then
    return ()
  else
    match pack.attrs with
    | [] => return ()
    | attr :: _ =>
      if attr.id ≠ .messageType then
        return ()
      else if pack.sid ≠ 0 then
        match c.ctl.getSession pack.sid with
        | none => return ()
        | some sess => sessionRecv cf sess pack attr.mandatory (.ofCode attr.uint16)
      else
        tunnelRecv cf pack attr.mandatory (.ofCode attr.uint16)

/-- The end of `l2tp_tunnel_reply`: transmit what is queued, or acknowledge by a ZLB. -/
def pushOrAck (needAck : Bool) : TunM Int := do
  let res ← pushSendqueue
  if res = 0 ∧ needAck = true then
    if ← sendZLB then
      return 0
    else
      return -1
  else
    return res

/-- The end of `l2tp_conn_read`: a tunnel whose disconnection is acknowledged is deleted. -/
def finishRead (needAck : Bool) : TunM Unit := do
  let res ← pushOrAck needAck
  if res < 0 then
    tunnelFree
  else
    let c ← get
    if c.ctl.state = .fin ∧ c.tx.sendQueue = [] ∧ c.tx.rtmsQueue = [] then
      tunnelFree
    else
      return ()

def Rx.skip (r : Rx) (pktCount : Nat) : Rx := { r with offt := (r.offt + pktCount) % r.sz }

/-- The reply loop is left after `pktCount` messages. -/
def endReplying (c : Conn) (pktCount : Nat) (needAck : Bool) : State :=
  ⟨(finishRead needAck { c with rx := c.rx.skip pktCount }).2, .idle⟩

/-- One pass of the loop of `l2tp_tunnel_reply`, which also ends back at the offset. -/
def replyPass (c : Conn) (id pktCount : Nat) (needAck : Bool) : State :=
  match c.rx.queue id with
  | none => endReplying c pktCount needAck
  | some pack =>
    if c.ctl.state = .close then endReplying c pktCount needAck
    else
      let c := (handleMsg cf pack { c with rx := c.rx.take id pack }).2
      let id := (id + 1) % c.rx.sz
      if id = c.rx.offt then endReplying c (pktCount + 1) needAck
      else ⟨c, .replying id (pktCount + 1) needAck⟩

/-! ## Timers and requests of other contexts -/

def rtimeout : TunM Unit := do
  let c ← get
  if c.tx.rtmsQueue = [] then
    return ()
  else
    modMisc fun m => { m with retransmit := m.retransmit + 1 }
    if c.misc.retransmit + 1 > cf.maxRetransmit then
      tunnelFree
    else if ← ask then
      return ()
    else
      tunnelFree

def tunnelTimeout : TunM Unit := do
  modMisc fun m => { m with timeoutTimer := .off }
  let _ ← disconnectPush 1 0
  return ()

def sendHELLO : TunM Unit := do
  match ← packetAlloc .hello [] with
  | none => tunnelFree
  | some pack =>
    let _ ← tunnelSend pack none
    let r ← pushSendqueue
    if r < 0 then
      tunnelFree
    else
      return ()

def sessionTimeout (sid : UInt16) : TunM Unit := do
  delSessionTimer sid
  sessionDisconnectPush sid 10 0

def apsesFinished (sid : UInt16) : TunM Unit := do
  let c ← get
  match c.ctl.getSession sid with
  | none => return ()
  | some sess => if sess.state1 = .estb then sessionDisconnectPush sid 2 0 else return ()

def connClose : TunM Unit := do
  let _ ← disconnectPush 0 0
  return ()

/-- The function scheduled by `l2tp_tunnel_start`. -/
def runStart (f : StartFunc) : TunM Unit := do
  modMisc fun m => { m with start := none }
  match f with
  | .sendSCCRQ => sendSCCRQ cf
  | .sendSCCRP => sendSCCRP cf

/-! ## The machine -/

inductive Ev where
  | readable
  | recv (r : Recv)
  | pass
  | start
  | createSession
  | timeout
  | rtimeout
  | hello
  | sessionTimeout (sid : UInt16)
  | apsesFinished (sid : UInt16)
  | close

def State.exec (s : State) (m : TunM Unit) : State := ⟨(m s.conn).2, .idle⟩

/-- The handlers of the event loop: the start function, timers, requests of other contexts. -/
def handler (c : Conn) : Ev → Option (TunM Unit)
  | .start => c.misc.start.map (runStart cf)
  | .createSession => some (createSession cf)
  | .timeout =>
    match c.misc.timeoutTimer with
    | .off => none
    | .tunnelTimeout => some tunnelTimeout
    | .finwaitTimeout => some tunnelFree
  | .rtimeout => if c.misc.rtimeoutTimer then some (rtimeout cf) else none
  | .hello => if c.misc.helloTimer then some sendHELLO else none
  | .sessionTimeout sid =>
    match c.ctl.getSession sid with
    | some sess => if sess.timer then some (sessionTimeout sid) else none
    | none => none
  | .apsesFinished sid => some (apsesFinished sid)
  | .close => some connClose
  | .readable | .recv _ | .pass => none

def step (s : State) (e : Ev) : Option State :=
  match s.phase, e with
  | .reading _, .recv .unreachable => some (s.exec tunnelFree)
  | .reading needAck, .recv (.pack p) => some (readPack cf s.conn p needAck)
  | .reading needAck, .recv .done => some (endReading s.conn needAck)
  | .replying id n needAck, .pass => some (replyPass cf s.conn id n needAck)
  | .idle, e =>
    if s.conn.ctl.state = .close then none
    else
      match e with
      | .readable => some ⟨s.conn, .reading false⟩
      | e => (handler cf s.conn e).map s.exec
  | _, _ => none

/-! ## Creation -/

/-- What `l2tp_tunnel_alloc` draws from its environment. -/
structure Alloc where
  tid : UInt16
  port : UInt16
  env : Nat → Nat

/-- `l2tp_tunnel_alloc` and the registration by `l2tp_tunnel_start`. -/
def tunnelAlloc (a : Alloc) (framingCap : UInt32) (lnsMode portSet : Bool) (secret : Octets)
    (start : StartFunc) : Conn where
  rx := { nr := 0, queue := fun _ => none, offt := 0, sz := cf.recvWindow, taken := [] }
  tx := { ns := 0, peerNr := 0, peerRcvWndSz := DEFAULT_PEER_RECV_WINDOW_SIZE, sendQueue := [],
          rtmsQueue := [], sent := [] }
  ctl := { state := .init, lnsMode := lnsMode, secret := secret, challenge := none,
           sessions := [], log := [] }
  misc := { tid := a.tid, peerTid := 0, framingCap := framingCap, portSet := portSet,
            peerPort := a.port, retransmit := 0, timeoutTimer := .tunnelTimeout,
            rtimeoutTimer := false, helloTimer := false, start := some start, env := a.env,
            tick := 0 }

/-- `l2tp_create_tunnel_exec`: a tunnel requested from the command line. -/
def createTunnel (a : Alloc) (lnsMode : Bool) (secret : Octets) : Conn :=
  tunnelAlloc cf a 3 lnsMode false secret .sendSCCRQ

/-- The tunnel `l2tp_recv_SCCRQ` creates for valid attributes. -/
def acceptSCCRQ (a : Alloc) (pack : Packet) (peerTid window : UInt16) (framingCap : UInt32) : Option Conn :=
  let c := tunnelAlloc cf a framingCap true true cf.secret .sendSCCRP
  let r := storechall (pack.last .challenge) { c with tx := { c.tx with peerRcvWndSz := window } }
  if r.1 then
    some { r.2 with
      misc := { r.2.misc with peerTid := peerTid, portSet := true }
      rx := { r.2.rx with nr := 1 } }
  else none

/-- `l2tp_recv_SCCRQ`: a tunnel requested by the peer, if not refused. -/
def recvSCCRQ (a : Alloc) (pack : Packet) : Option Conn :=
  if (pack.last .messageDigest).isSome then none
  else
    match pack.last .assignedTunnelId, pack.last .protocolVersion,
        pack.last .framingCapabilities with
    | some tid, some version, some framingCap =>
      let window := ((pack.last .recvWindowSize).map Attr.uint16).getD DEFAULT_PEER_RECV_WINDOW_SIZE
      if version.uint16 ≠ L2TP_V2_PROTOCOL_VERSION then none
      else if ¬ validWindow window then none
      else acceptSCCRQ cf a pack tid.uint16 window framingCap.val
    | _, _, _ => none

def sampleConf : Conf where
  md5 := fun _ => List.replicate 16 0
  secret := [115]
  recvWindow := 4
  recvWindow_pos := by decide
  recvWindow_le := by decide
  hostName := []
  helloInterval := 60
  maxRetransmit := 5
  dataseqDeny := false
  dataseqSend := false
  dir300Quirk := false

def sampleAlloc : Alloc := ⟨7, 1701, fun _ => 1⟩

/-- A tunnel requested from the command line, in LNS mode, with a secret. -/
def sampleTunnel : Conn := createTunnel sampleConf sampleAlloc true [115]

def sampleMsg (msg : MsgType) (ns nr : UInt16) (attrs : List Attr) : Packet :=
  { tid := 7, ns := ns, nr := nr
    attrs := { id := .messageType, val := msg.code.toUInt32 } :: attrs }

end L2tp
