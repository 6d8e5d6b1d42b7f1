import MicroBng.Lib.StateProg
import MicroBng.Lib.Window

/-!
# L2TP tunnels: state and common operations

The tunnel of `ctrl/l2tp/l2tp.c` (`struct l2tp_conn_t`) and the operations its message handlers
and timers share. A tunnel runs in one context, so its code is a program over the tunnel's
state (`TunM`).

* The answers of fallible calls (allocations, sockets, timers, limits) and the random numbers
  are read from `Misc.env`, an arbitrary stream fixed at creation.
* A chain of calls that all lead to the same error path is one question (`ask`).
* `Rx.taken`, `Tx.sent` and `Ctl.log` are ghost: they record what was taken out of the reception
  window, what was transmitted, and the steps that authentication is about, newest first.

The wire format, the hiding of attributes, the statistics and the logging are left out; a packet
is its header and the list of its attributes.
-/

namespace L2tp

abbrev Octets := List UInt8

/-! ## Messages -/

/-- Attribute types (`attr_defs.h`); those no handler names are `other`. -/
inductive AttrId where
  | messageType | resultCode | protocolVersion | framingCapabilities | bearerCapabilities
  | firmwareRevision | hostName | vendorName | assignedTunnelId | recvWindowSize | challenge
  | challengeResponse | assignedSessionId | callSerialNumber | minimumBps | maximumBps
  | bearerType | framingType | calledNumber | callingNumber | subAddress | txSpeed
  | physicalChannelId | initRecvLcp | lastSentLcp | lastRecvLcp | proxyAuthenType
  | proxyAuthenName | proxyAuthenChallenge | proxyAuthenId | proxyAuthenResponse | randomVector
  | privateGroupId | rxSpeed | sequencingRequired | messageDigest | routerId
  | assignedConnectionId
  | other (id : Nat)
  deriving DecidableEq

/-- An attribute: `val` for integers, `octets` for the bytes of a string. -/
structure Attr where
  id : AttrId
  mandatory : Bool := true
  val : UInt32 := 0
  octets : Octets := []

def Attr.uint16 (a : Attr) : UInt16 := a.val.toUInt16

structure Packet where
  tid : UInt16 := 0
  sid : UInt16 := 0
  ns : UInt16 := 0
  nr : UInt16 := 0
  port : UInt16 := 0
  attrs : List Attr

def Packet.isZLB (p : Packet) : Bool := p.attrs.isEmpty

/-- Message types (`Message_Type_*`). -/
inductive MsgType where
  | sccrq | sccrp | scccn | stopCCN | hello | ocrq | ocrp | occn | icrq | icrp | iccn | cdn
  | wen | sli
  | other (code : UInt16)
  deriving DecidableEq

def MsgType.code : MsgType → UInt16
  | .sccrq => 1 | .sccrp => 2 | .scccn => 3 | .stopCCN => 4 | .hello => 6 | .ocrq => 7
  | .ocrp => 8 | .occn => 9 | .icrq => 10 | .icrp => 11 | .iccn => 12 | .cdn => 14
  | .wen => 15 | .sli => 16
  | .other n => n

def MsgType.ofCode (n : UInt16) : MsgType :=
  if n = 1 then .sccrq else if n = 2 then .sccrp else if n = 3 then .scccn
  else if n = 4 then .stopCCN else if n = 6 then .hello else if n = 7 then .ocrq
  else if n = 8 then .ocrp else if n = 9 then .occn else if n = 10 then .icrq
  else if n = 11 then .icrp else if n = 12 then .iccn else if n = 14 then .cdn
  else if n = 15 then .wen else if n = 16 then .sli else .other n

/-- The attribute a handler keeps for a type: its loop assigns at each occurrence. -/
def Packet.last (p : Packet) (id : AttrId) : Option Attr := (p.attrs.filter (·.id = id)).getLast?

/-- The mandatory attributes of types a handler does not know. -/
def Packet.unknown (p : Packet) (known : List AttrId) : List Attr :=
  p.attrs.filter fun a => a.mandatory && !known.contains a.id

/-! ## Sequence numbers -/

def nsnrCmp (ns nr : UInt16) : Int :=
  let sub := ns - nr
  let ref : UInt16 := 32769
  (if sub ≠ 0 ∧ sub < ref then 1 else 0) - (if sub ≥ ref then 1 else 0)

theorem nsnrCmp_neg {ns nr : UInt16} : nsnrCmp ns nr < 0 ↔ 32768 < (ns - nr).toNat := by
  grind [UInt16.le_iff_toNat_le, nsnrCmp]

theorem nsnrCmp_pos {ns nr : UInt16} :
    0 < nsnrCmp ns nr ↔ 0 < (ns - nr).toNat ∧ (ns - nr).toNat ≤ 32768 := by
  have hlt : (ns - nr) < 32769 ↔ (ns - nr).toNat < 32769 := UInt16.lt_iff_toNat_lt
  have hge : (ns - nr) ≥ 32769 ↔ 32769 ≤ (ns - nr).toNat := UInt16.le_iff_toNat_le
  have hne : (ns - nr) ≠ 0 ↔ (ns - nr).toNat ≠ 0 := by simp [UInt16.toNat_inj.symm]
  simp only [nsnrCmp, hlt, hge, hne]
  split <;> split <;> omega

/-! ## The state of a tunnel -/

/-- Tunnel states; the `STATE_WAIT_*` of calls belong to sessions. -/
inductive TunState where
  | init | waitSccrp | waitScccn | estb | fin | finWait | close
  deriving DecidableEq

inductive SesState where
  | init | waitIcrp | waitIccn | waitOcrp | waitOccn | estb
  deriving DecidableEq

/-- `struct l2tp_sess_t`. A session in `STATE_CLOSE` is one no longer in `Ctl.sessions`. -/
structure Sess where
  sid : UInt16
  peerSid : UInt16 := 0
  state1 : SesState := .init
  lnsMode : Bool
  sendSeq : Bool := false
  timer : Bool := false

inductive Event where
  /-- a challenge was drawn for the SCCRQ or SCCRP -/
  | challenge (ch : Octets)
  /-- a Challenge Response over this challenge was verified -/
  | verified (ch : Octets)
  /-- the tunnel reached `STATE_ESTB` -/
  | estb
  | sessAlloc (sid : UInt16)
  | dataStart (sid : UInt16)
  deriving DecidableEq

/-- The reception window: `recv_queue` is indexed below `recv_queue_sz`. -/
structure Rx where
  nr : UInt16
  queue : Nat → Option Packet
  offt : Nat
  sz : Nat
  taken : List Packet

/-- An entry of the send queue and the session whose queue links it (`sess_entry`). -/
structure Out where
  pack : Packet
  sess : Option UInt16

/-- The sending side. `Nr` is written at each transmission, so queued packets do not carry it. -/
structure Tx where
  ns : UInt16
  peerNr : UInt16
  peerRcvWndSz : UInt16
  sendQueue : List Out
  rtmsQueue : List Packet
  sent : List Packet

/-- The control part; an empty `secret` is `NULL` or of length 0, which is all the same. -/
structure Ctl where
  state : TunState
  lnsMode : Bool
  secret : Octets
  challenge : Option Octets
  sessions : List Sess
  log : List Event

/-- The callback of `timeout_timer`. -/
inductive TimeoutTimer where
  | off | tunnelTimeout | finwaitTimeout

/-- The function `l2tp_tunnel_start` schedules. -/
inductive StartFunc where
  | sendSCCRQ | sendSCCRP

structure Misc where
  tid : UInt16
  peerTid : UInt16
  framingCap : UInt32
  portSet : Bool
  peerPort : UInt16
  retransmit : Nat
  timeoutTimer : TimeoutTimer
  rtimeoutTimer : Bool
  helloTimer : Bool
  start : Option StartFunc
  env : Nat → Nat
  tick : Nat

structure Conn where
  rx : Rx
  tx : Tx
  ctl : Ctl
  misc : Misc

abbrev TunM := StateM Conn

/-- The configuration; `load_config` bounds the reception window. -/
structure Conf where
  md5 : Octets → Octets
  secret : Octets
  recvWindow : Nat
  recvWindow_pos : 0 < recvWindow
  recvWindow_le : recvWindow ≤ 32768
  hostName : Octets
  helloInterval : Nat
  maxRetransmit : Nat
  /-- `conf_dataseq` is `L2TP_DATASEQ_DENY` -/
  dataseqDeny : Bool
  /-- `conf_dataseq` is `L2TP_DATASEQ_PREFER` or `L2TP_DATASEQ_REQUIRE` -/
  dataseqSend : Bool
  dir300Quirk : Bool

def DEFAULT_PEER_RECV_WINDOW_SIZE : UInt16 := 4
def RECV_WINDOW_SIZE_MAX : UInt16 := 32768
def L2TP_V2_PROTOCOL_VERSION : UInt16 := 256
def MD5_DIGEST_LENGTH : Nat := 16

/-! ## Primitive operations -/

def random : TunM Nat := fun c =>
  (c.misc.env c.misc.tick, { c with misc := { c.misc with tick := c.misc.tick + 1 } })

def ask : TunM Bool := do
  return (← random) != 0

def modMisc (f : Misc → Misc) : TunM Unit := modify fun c => { c with misc := f c.misc }

def modTx (f : Tx → Tx) : TunM Unit := modify fun c => { c with tx := f c.tx }

def modCtl (f : Ctl → Ctl) : TunM Unit := modify fun c => { c with ctl := f c.ctl }

/-- `conn->state = st`. -/
def setState (st : TunState) : TunM Unit := modCtl fun k => { k with state := st }

/-- `l2tp_packet_alloc` and the additions of the attributes: if one fails the packet is freed. -/
def packetAlloc (msg : MsgType) (attrs : List Attr) : TunM (Option Packet) := do
  if ← ask then
    return some { attrs := { id := .messageType, val := msg.code.toUInt32 } :: attrs }
  else
    return none

def randomOctets : Nat → TunM Octets
  | 0 => return []
  | n + 1 => do
    let b ← random
    let bs ← randomOctets n
    return UInt8.ofNat b :: bs

/-! ## Authentication of the peer -/

def compChapMd5 (cf : Conf) (ident : MsgType) (secret chall : Octets) : Octets :=
  cf.md5 (ident.code.toUInt8 :: (secret ++ chall))

def setChallenge (ch : Option Octets) : TunM Unit := modCtl fun k => { k with challenge := ch }

def Ctl.challengeLen (k : Ctl) : Nat := (k.challenge.map List.length).getD 0

/-- `l2tp_tunnel_genchall`: the packet with the challenge, `none` on failure. -/
def genchall (challLen : Nat) (pack : Packet) : TunM (Option Packet) := do
  let c ← get
  if challLen = 0 ∨ c.ctl.secret = [] then
    setChallenge none
    return some pack
  else if ← ask then
    let ch ← randomOctets challLen
    modCtl fun k => { k with challenge := some ch, log := .challenge ch :: k.log }
    return some { pack with attrs := pack.attrs ++ [{ id := .challenge, octets := ch }] }
  else
    setChallenge none
    return none

def storechall (chall : Option Attr) : TunM Bool := do
  let c ← get
  match chall with
  | none =>
    setChallenge none
    return true
  | some a =>
    if c.ctl.secret = [] then
      setChallenge none
      return false
    else if c.ctl.challengeLen = a.octets.length then
      setChallenge (c.ctl.challenge.map fun _ => a.octets)
      return true
    else if ← ask then
      setChallenge (some a.octets)
      return true
    else
      setChallenge none
      return false

/-- `l2tp_tunnel_genchallresp`: the packet with the response, `none` on failure. -/
def genchallresp (cf : Conf) (ident : MsgType) (pack : Packet) : TunM (Option Packet) := do
  let c ← get
  match c.ctl.challenge with
  | none => return some pack
  | some ch =>
    if c.ctl.secret = [] then
      return none
    else if ← ask then
      return some { pack with attrs := pack.attrs ++
        [{ id := .challengeResponse, octets := compChapMd5 cf ident c.ctl.secret ch }] }
    else
      return none

/-- `l2tp_tunnel_checkchallresp`; a response that verifies is recorded. -/
def checkchallresp (cf : Conf) (ident : MsgType) (resp : Option Attr) : TunM Bool := do
  let c ← get
  if c.ctl.secret = [] then
    return true
  else
    match c.ctl.challenge, resp with
    | some ch, some a =>
      if a.octets.length ≠ MD5_DIGEST_LENGTH then
        return false
      else if compChapMd5 cf ident c.ctl.secret ch ≠ a.octets then
        return false
      else
        modCtl fun k => { k with log := .verified ch :: k.log }
        return true
    | _, _ => return false

/-! ## Queues -/

def clearSendqueue : TunM Unit := modTx fun t => { t with sendQueue := [] }

def sessionClearSendqueue (sid : UInt16) : TunM Unit :=
  modTx fun t => { t with sendQueue := t.sendQueue.filter fun o => o.sess ≠ some sid }

def Out.untag (sid : UInt16) (o : Out) : Out := if o.sess = some sid then { o with sess := none } else o

/-- The first packet of the send queue is sent with `Ns` and waits for its acknowledgement. -/
def Tx.transmitted (t : Tx) (o : Out) (rest : List Out) : Tx :=
  { t with
    sendQueue := rest
    rtmsQueue := t.rtmsQueue ++ [{ o.pack with ns := t.ns }]
    sent := t.sent ++ [{ o.pack with ns := t.ns }]
    ns := t.ns + 1 }

/-- The loop of `l2tp_tunnel_push_sendqueue`: how many were sent, `none` on failure. -/
def pushLoop (nrMax : UInt16) : List Out → Nat → TunM (Option Nat)
  | [], pktSent => return some pktSent
  | o :: rest, pktSent => do
    let c ← get
    if 0 ≤ nsnrCmp c.tx.ns nrMax then
      return some pktSent
    else if ← ask then
      modTx fun t => t.transmitted o rest
      pushLoop nrMax rest (pktSent + 1)
    else
      return none

/-- `l2tp_tunnel_push_sendqueue`: -1 on failure, 0 if nothing was sent, 1 otherwise. -/
def pushSendqueue : TunM Int := do
  let c ← get
  match ← pushLoop (c.tx.peerNr + c.tx.peerRcvWndSz) c.tx.sendQueue 0 with
  | none => return -1
  | some 0 => return 0
  | some _ =>
    let c ← get
    if c.misc.rtimeoutTimer then
      return 1
    else if ← ask then
      modMisc fun m => { m with rtimeoutTimer := true }
      return 1
    else
      return -1

/-- What `l2tp_tunnel_clean_rtmsqueue` leaves: it drops what `peer_Nr` acknowledges. -/
def cleaned (peerNr : UInt16) (q : List Packet) : List Packet :=
  q.dropWhile fun p => decide (nsnrCmp p.ns peerNr < 0)

def cleanRtmsqueue : TunM Bool := do
  let c ← get
  let left := cleaned c.tx.peerNr c.tx.rtmsQueue
  modTx fun t => { t with rtmsQueue := left }
  if left.length = c.tx.rtmsQueue.length then
    return true
  else
    modMisc fun m => { m with retransmit := 0 }
    if left.isEmpty then
      modMisc fun m => { m with rtimeoutTimer := false }
      return true
    else if ← ask then
      modMisc fun m => { m with rtimeoutTimer := true }
      return true
    else
      return false

/-- The states in which `l2tp_tunnel_send` discards a message. -/
def TunState.closing : TunState → Bool
  | .fin | .finWait | .close => true
  | _ => false

def Tx.enqueue (t : Tx) (pack : Packet) (sess : Option UInt16) : Tx :=
  { t with sendQueue := t.sendQueue ++ [⟨pack, sess⟩] }

/-- `l2tp_tunnel_send`; `sess` is the session whose queue has the packet. -/
def tunnelSend (pack : Packet) (sess : Option UInt16) : TunM Bool := do
  let c ← get
  if c.ctl.state.closing then
    return false
  else
    modTx fun t => t.enqueue { pack with tid := c.misc.peerTid } sess
    return true

/-! ## Sessions, disconnection and deletion -/

def Ctl.getSession (k : Ctl) (sid : UInt16) : Option Sess := k.sessions.find? (·.sid = sid)

def modSession (sid : UInt16) (f : Sess → Sess) : TunM Unit :=
  modCtl fun k => { k with sessions := k.sessions.map fun s => if s.sid = sid then f s else s }

def sessionSend (sid : UInt16) (pack : Packet) : TunM Bool := do
  let c ← get
  match c.ctl.getSession sid with
  | none => return false
  | some sess => tunnelSend { pack with sid := sess.peerSid } (some sid)

def sessionTrySend (sid : UInt16) (pack : Packet) : TunM Bool := do
  let c ← get
  if c.tx.sendQueue.length ≥ c.tx.peerRcvWndSz.toNat then
    return false
  else
    let _ ← sessionSend sid pack
    return true

def resultCode (res err : UInt16) : Attr :=
  { id := .resultCode
    octets := [(res >>> 8).toUInt8, res.toUInt8, (err >>> 8).toUInt8, err.toUInt8] }

def sendStopCCN (res err : UInt16) : TunM Bool := do
  let c ← get
  match ← packetAlloc .stopCCN
      [{ id := .assignedTunnelId, val := c.misc.tid.toUInt32 }, resultCode res err] with
  | none => return false
  | some pack =>
    let _ ← tunnelSend pack none
    return true

def sendCDN (sid res err : UInt16) : TunM Bool := do
  match ← packetAlloc .cdn
      [{ id := .assignedSessionId, val := sid.toUInt32 }, resultCode res err] with
  | none => return false
  | some pack =>
    let _ ← sessionSend sid pack
    return true

def tunnelSendCDN (sid peerSid res err : UInt16) : TunM Bool := do
  match ← packetAlloc .cdn
      [{ id := .assignedSessionId, val := sid.toUInt32 }, resultCode res err] with
  | none => return false
  | some pack =>
    let _ ← tunnelSend { pack with sid := peerSid } none
    return true

/-- A tunnel without its sessions, and no packet that references one. -/
def Conn.withoutSessions (c : Conn) : Conn :=
  { c with
    ctl := { c.ctl with sessions := [] }
    tx := { c.tx with sendQueue := c.tx.sendQueue.map fun o => { o with sess := none } } }

/-- `l2tp_tunnel_free_sessions`, called outside `STATE_ESTB`: no further disconnection. -/
def freeSessions : TunM Unit := modify Conn.withoutSessions

/-- What `l2tp_tunnel_free` leaves: nothing registered, no session, empty queues. -/
def Conn.freed (c : Conn) : Conn where
  rx := { c.rx with queue := fun _ => none, offt := 0 }
  tx := { c.tx with sendQueue := [], rtmsQueue := [] }
  ctl := { c.ctl with state := .close, sessions := [] }
  misc := { c.misc with timeoutTimer := .off, rtimeoutTimer := false, helloTimer := false,
                        start := none }

def tunnelFree : TunM Unit := do
  let c ← get
  if c.ctl.state = .close then
    return ()
  else
    modify Conn.freed

/-- The timers of a tunnel that is or is being established are deleted. -/
def delTimers : TunM Unit := modMisc fun m => { m with timeoutTimer := .off, helloTimer := false }

def disconnect (res err : UInt16) : TunM Bool := do
  let c ← get
  if c.ctl.state.closing then
    return true
  else
    clearSendqueue
    if ← sendStopCCN res err then
      setState .fin
      delTimers
      freeSessions
      return true
    else
      setState .fin
      tunnelFree
      return false

def disconnectPush (res err : UInt16) : TunM Bool := do
  if ← disconnect res err then
    let r ← pushSendqueue
    if r < 0 then
      tunnelFree
      return false
    else
      return true
  else
    return false

/-- A session leaves the tunnel; the packets it queued remain. -/
def Conn.withoutSession (c : Conn) (sid : UInt16) : Conn :=
  { c with
    ctl := { c.ctl with sessions := c.ctl.sessions.filter fun s => s.sid ≠ sid }
    tx := { c.tx with sendQueue := c.tx.sendQueue.map (Out.untag sid) } }

/-- `l2tp_session_free`: deleting the last session of an established tunnel disconnects it. -/
def sessionFree (sid : UInt16) : TunM Unit := do
  let c ← get
  match c.ctl.getSession sid with
  | none => return ()
  | some _ =>
    modify fun c => c.withoutSession sid
    let c ← get
    if c.ctl.sessions.isEmpty ∧ c.ctl.state = .estb then
      let _ ← disconnectPush 1 0
      return ()
    else
      return ()

def sessionDisconnect (sid res err : UInt16) : TunM Unit := do
  sessionClearSendqueue sid
  let _ ← sendCDN sid res err
  sessionFree sid

/-- `l2tp_session_disconnect_push`: a failure to transmit is only logged. -/
def sessionDisconnectPush (sid res err : UInt16) : TunM Unit := do
  if ← sendCDN sid res err then
    let _ ← pushSendqueue
    sessionFree sid
  else
    sessionFree sid

/-- The search for an unused session ID: `none` after the last try or without a random number. -/
def newSid (sessions : List Sess) : Nat → TunM (Option UInt16)
  | 0 => return none
  | count + 1 => do
    if ← ask then
      let r ← random
      let sid := UInt16.ofNat r
      if sid = 0 ∨ (sessions.any fun s => s.sid = sid) then
        newSid sessions count
      else
        return some sid
    else
      return none

def allocSession (cf : Conf) : TunM (Option UInt16) := do
  let c ← get
  match ← newSid c.ctl.sessions 65535 with
  | none => return none
  | some sid =>
    modCtl fun k => { k with
      sessions := { sid := sid, lnsMode := k.lnsMode, sendSeq := cf.dataseqSend } :: k.sessions
      log := .sessAlloc sid :: k.log }
    return some sid

end L2tp
