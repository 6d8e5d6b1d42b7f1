import MicroBng.L2tp.Tunnel

/-!
# L2TP message handlers

The functions of `l2tp.c` that send (`l2tp_send_*`) and handle (`l2tp_recv_*`) control messages.
The call requests ICRQ and OCRQ share their body (`recvCall`) and differ in the guard, the
attributes they know and the reply; so do the replies ICRP and OCRP, and the confirmations ICCN
and OCCN.
-/

namespace L2tp

/-! ## Sending -/

variable (cf : Conf)

def vendorName : Octets := [109, 105, 99, 114, 111, 45, 98, 110, 103]

def startAttrs (c : Conn) : List Attr :=
  [{ id := .protocolVersion, val := L2TP_V2_PROTOCOL_VERSION.toUInt32 },
   { id := .hostName, octets := cf.hostName },
   { id := .framingCapabilities, val := c.misc.framingCap },
   { id := .assignedTunnelId, val := c.misc.tid.toUInt32 },
   { id := .vendorName, mandatory := false, octets := vendorName },
   { id := .recvWindowSize, val := UInt32.ofNat c.rx.sz }]

/-- The length of the challenge, random from 16 to 143. -/
def challLen (r : Nat) : Nat := r % 128 + MD5_DIGEST_LENGTH

/-- The end of `l2tp_send_SCCRQ` and `l2tp_send_SCCRP`: challenge, message, state `wait`. -/
def sendStart (pack : Packet) (wait : TunState) : TunM Unit := do
  if ← ask then
    let r ← random
    match ← genchall (challLen r) pack with
    | none => tunnelFree
    | some pack =>
      let _ ← tunnelSend pack none
      let res ← pushSendqueue
      if res < 0 then
        tunnelFree
      else
        setState wait
  else
    tunnelFree

def sendSCCRQ : TunM Unit := do
  let c ← get
  match ← packetAlloc .sccrq (startAttrs cf c) with
  | none => tunnelFree
  | some pack => sendStart pack .waitSccrp

/-- `l2tp_send_SCCRP`: the response to the peer's challenge comes before this side's own. -/
def sendSCCRP : TunM Unit := do
  let c ← get
  match ← packetAlloc .sccrp (startAttrs cf c) with
  | none => tunnelFree
  | some pack =>
    match ← genchallresp cf .sccrp pack with
    | none => tunnelFree
    | some pack => sendStart pack .waitScccn

def sendSCCCN : TunM Bool := do
  match ← packetAlloc .scccn [] with
  | none => return false
  | some pack =>
    match ← genchallresp cf .scccn pack with
    | none => return false
    | some pack =>
      let _ ← storechall none
      let _ ← tunnelSend pack none
      return true

/-- A session message queued without looking at the window. -/
def sendSessionMsg (sid : UInt16) (msg : MsgType) (attrs : List Attr) : TunM Bool := do
  match ← packetAlloc msg attrs with
  | none => return false
  | some pack =>
    let _ ← sessionSend sid pack
    return true

/-- A session message, refused when the send queue is as long as the peer's window. -/
def trySendSessionMsg (sid : UInt16) (msg : MsgType) (attrs : List Attr) : TunM Bool := do
  match ← packetAlloc msg attrs with
  | none => return false
  | some pack => sessionTrySend sid pack

def assignedSid (sid : UInt16) : Attr := { id := .assignedSessionId, val := sid.toUInt32 }

def sendICRQ (sid : UInt16) : TunM Bool :=
  trySendSessionMsg sid .icrq [assignedSid sid, { id := .callSerialNumber }]

def sendOCRQ (sid : UInt16) : TunM Bool :=
  trySendSessionMsg sid .ocrq [assignedSid sid, { id := .callSerialNumber },
    { id := .minimumBps, val := 100 }, { id := .maximumBps, val := 100000 },
    { id := .bearerType, val := 3 }, { id := .framingType, val := 3 }, { id := .calledNumber }]

def sendICRP (sid : UInt16) : TunM Bool := sendSessionMsg sid .icrp [assignedSid sid]

def sendOCRP (sid : UInt16) : TunM Bool := sendSessionMsg sid .ocrp [assignedSid sid]

def connectedAttrs (sendSeq : Bool) : List Attr :=
  [{ id := .txSpeed, val := 1000 }, { id := .framingType, val := 3 }] ++
    if sendSeq then [{ id := .sequencingRequired }] else []

def sendICCN (sess : Sess) : TunM Bool :=
  sendSessionMsg sess.sid .iccn (connectedAttrs sess.sendSeq)

def sendOCCN (sid : UInt16) (sendSeq : Bool) : TunM Bool :=
  sendSessionMsg sid .occn (connectedAttrs sendSeq)

/-- `l2tp_send_ZLB`: neither queued nor retransmitted; only success matters. -/
def sendZLB : TunM Bool := ask

/-! ## Establishment -/

def startDataChannel (sid : UInt16) : TunM Bool := do
  if ← ask then
    modCtl fun k => { k with log := .dataStart sid :: k.log }
    return true
  else
    return false

/-- `l2tp_session_connect`: the socket calls, then the data channel. -/
def sessionConnect (sid : UInt16) : TunM Bool := do
  modSession sid fun s => { s with timer := false }
  if ← ask then
    modSession sid fun s => { s with state1 := .estb }
    startDataChannel sid
  else
    return false

def setEstablished : TunM Unit := modCtl fun k => { k with state := .estb, log := .estb :: k.log }

def tunnelConnect : TunM Bool := do
  modMisc fun m => { m with timeoutTimer := .off }
  if ← ask then
    if cf.helloInterval = 0 then
      setEstablished
      return true
    else if ← ask then
      modMisc fun m => { m with helloTimer := true }
      setEstablished
      return true
    else
      return false
  else
    return false

/-! ## Tunnel messages -/

/-- The tunnel is disconnected with the given result and error codes. -/
def failTunnel (res err : UInt16) : TunM Unit := do
  let _ ← disconnect res err
  return ()

def validWindow (w : UInt16) : Prop := w ≠ 0 ∧ w ≤ RECV_WINDOW_SIZE_MAX
deriving Decidable

/-- The window an SCCRP leaves: the default for an invalid size, the present one without one. -/
def newWindow (pack : Packet) (old : UInt16) : UInt16 :=
  match pack.last .recvWindowSize with
  | none => old
  | some a => if validWindow a.uint16 then a.uint16 else DEFAULT_PEER_RECV_WINDOW_SIZE

/-- The attributes `l2tp_recv_SCCRP` knows. -/
def sccrpKnown : List AttrId :=
  [.messageType, .randomVector, .hostName, .bearerCapabilities, .firmwareRevision, .vendorName,
   .protocolVersion, .framingCapabilities, .assignedTunnelId, .recvWindowSize, .challenge,
   .challengeResponse]

/-- The part of `l2tp_recv_SCCRP` after the checks of the attributes. -/
def finishSCCRP (pack : Packet) : TunM Unit := do
  if ← checkchallresp cf .sccrp (pack.last .challengeResponse) then
    if ← storechall (pack.last .challenge) then
      if ← sendSCCCN cf then
        if ← tunnelConnect cf then
          return ()
        else
          failTunnel 2 0
      else
        failTunnel 2 0
    else
      failTunnel 2 4
  else
    failTunnel 4 0

def recvSCCRP (pack : Packet) : TunM Unit := do
  let c ← get
  if c.ctl.state ≠ .waitSccrp then
    return ()
  else
    match pack.last .assignedTunnelId with
    | none => failTunnel 2 0
    | some tid =>
      modMisc fun m => { m with peerTid := tid.uint16 }
      if pack.unknown sccrpKnown ≠ [] then
        failTunnel 2 8
      else if pack.last .framingCapabilities = none then
        failTunnel 2 0
      else
        match pack.last .protocolVersion with
        | none => failTunnel 2 0
        | some v =>
          if v.uint16 ≠ L2TP_V2_PROTOCOL_VERSION then
            failTunnel 5 0
          else
            modTx fun t => { t with peerRcvWndSz := newWindow pack t.peerRcvWndSz }
            match pack.last .recvWindowSize with
            | none => finishSCCRP cf pack
            | some w =>
              if validWindow w.uint16 then
                finishSCCRP cf pack
              else
                failTunnel 2 3

/-- The attributes `l2tp_recv_SCCCN` knows. -/
def scccnKnown : List AttrId :=
  [.messageType, .hostName, .vendorName, .bearerCapabilities, .recvWindowSize, .protocolVersion,
   .framingCapabilities, .assignedTunnelId, .randomVector, .challengeResponse]

def recvSCCCN (pack : Packet) : TunM Unit := do
  let c ← get
  if c.ctl.state ≠ .waitScccn then
    return ()
  else if pack.unknown scccnKnown ≠ [] then
    failTunnel 2 8
  else if ← checkchallresp cf .scccn (pack.last .challengeResponse) then
    let _ ← storechall none
    if ← tunnelConnect cf then
      return ()
    else
      failTunnel 2 0
  else
    failTunnel 4 0

def finwait : TunM Unit := do
  let c ← get
  match c.ctl.state with
  | .waitSccrp | .waitScccn | .estb | .fin =>
    setState .finWait
    delTimers
    clearSendqueue
    freeSessions
    if ← ask then
      modMisc fun m => { m with timeoutTimer := .finwaitTimeout }
    else
      let _ ← sendZLB
      tunnelFree
  | .init | .finWait | .close => return ()

def recvStopCCN (pack : Packet) : TunM Unit := do
  let c ← get
  if c.ctl.state = .close ∨ c.ctl.state = .finWait then
    return ()
  else
    match pack.last .assignedTunnelId with
    | none => finwait
    | some a =>
      modMisc fun m => { m with peerTid := if m.peerTid = 0 then a.uint16 else m.peerTid }
      finwait

/-! ## Session messages -/

/-- A call request is refused: a CDN, and the session allocated for it is deleted. -/
def rejectCall (sid peerSid res err : UInt16) : TunM Unit := do
  let _ ← tunnelSendCDN sid peerSid res err
  sessionFree sid

/-- The common part of `l2tp_recv_ICRQ` and `l2tp_recv_OCRQ` after the guards. -/
def recvCall (known : List AttrId) (reply : UInt16 → TunM Bool) (pack : Packet) :
    TunM Unit := do
  match pack.last .assignedSessionId with
  | none =>
    let _ ← tunnelSendCDN 0 0 2 6
    return ()
  | some a =>
    match ← allocSession cf with
    | none =>
      let _ ← tunnelSendCDN 0 a.uint16 2 4
      return ()
    | some sid =>
      modSession sid fun s => { s with peerSid := a.uint16 }
      if pack.unknown known ≠ [] then
        rejectCall sid a.uint16 2 8
      else if ← reply sid then
        return ()
      else
        rejectCall sid a.uint16 2 4

/-- `triton_timer_del(&sess->timeout_timer)`. -/
def delSessionTimer (sid : UInt16) : TunM Unit := modSession sid fun s => { s with timer := false }

def incallReply (sid : UInt16) : TunM Bool := do
  if ← ask then
    modSession sid fun s => { s with timer := true }
    if ← sendICRP sid then
      modSession sid fun s => { s with state1 := .waitIccn }
      return true
    else
      delSessionTimer sid
      return false
  else
    return false

def outcallReply (sid : UInt16) : TunM Bool := do
  if ← ask then
    modSession sid fun s => { s with timer := true }
    if ← sendOCRP sid then
      if ← sendOCCN sid cf.dataseqSend then
        if ← sessionConnect sid then
          return true
        else
          delSessionTimer sid
          return false
      else
        delSessionTimer sid
        return false
    else
      delSessionTimer sid
      return false
  else
    return false

/-- The attributes `l2tp_recv_ICRQ` knows. -/
def icrqKnown : List AttrId :=
  [.assignedSessionId, .messageType, .randomVector, .callSerialNumber, .bearerType,
   .callingNumber, .calledNumber, .subAddress, .physicalChannelId]

/-- `l2tp_recv_ICRQ`; one answer stands for the shutdown flag and the limits on sessions. -/
def recvICRQ (pack : Packet) : TunM Unit := do
  let c ← get
  if c.ctl.state ≠ .estb ∧ c.ctl.lnsMode = true then
    return ()
  else if ← ask then
    recvCall cf icrqKnown incallReply pack
  else
    return ()

/-- The attributes `l2tp_recv_OCRQ` knows. -/
def ocrqKnown : List AttrId :=
  [.messageType, .randomVector, .callSerialNumber, .minimumBps, .maximumBps, .bearerType,
   .framingType, .calledNumber, .subAddress, .assignedSessionId]

def recvOCRQ (pack : Packet) : TunM Unit := do
  let c ← get
  if c.ctl.state ≠ .estb ∧ ¬ c.ctl.lnsMode = true then
    return ()
  else if ← ask then
    recvCall cf ocrqKnown (outcallReply cf) pack
  else
    return ()

/-- What `l2tp_recv_ICRP` and `l2tp_recv_OCRP` share: `answer` takes a well-formed reply. -/
def recvReply (sess : Sess) (wait : SesState) (answer : TunM Unit) (pack : Packet) : TunM Unit := do
  if sess.state1 ≠ wait then
    return ()
  else
    match pack.last .assignedSessionId with
    | none => sessionDisconnect sess.sid 2 6
    | some a =>
      modSession sess.sid fun s => { s with peerSid := a.uint16 }
      if pack.unknown [.messageType, .randomVector, .assignedSessionId] ≠ [] then
        sessionDisconnect sess.sid 2 8
      else
        answer

def connectOrFail (sid : UInt16) : TunM Unit := do
  if ← sessionConnect sid then
    return ()
  else
    sessionDisconnect sid 2 6

def recvICRP (sess : Sess) (pack : Packet) : TunM Unit :=
  recvReply sess .waitIcrp (do
    if ← sendICCN sess then
      connectOrFail sess.sid
    else
      sessionDisconnect sess.sid 2 6) pack

def recvOCRP (sess : Sess) (pack : Packet) : TunM Unit :=
  recvReply sess .waitOcrp (modSession sess.sid fun s => { s with state1 := .waitOccn }) pack

/-- The common part of `l2tp_recv_ICCN` and `l2tp_recv_OCCN`. -/
def recvConnected (sess : Sess) (wait : SesState) (known : List AttrId) (pack : Packet) : TunM Unit := do
  if sess.state1 ≠ wait then
    return ()
  else
    modSession sess.sid fun s =>
      if (pack.last .sequencingRequired).isSome ∧ ¬ cf.dataseqDeny = true then
        { s with sendSeq := true }
      else
        s
    if pack.unknown known ≠ [] then
      sessionDisconnect sess.sid 2 8
    else
      connectOrFail sess.sid

def recvICCN (sess : Sess) (pack : Packet) : TunM Unit :=
  recvConnected cf sess .waitIccn
    [.messageType, .randomVector, .txSpeed, .framingType, .initRecvLcp, .lastSentLcp,
     .lastRecvLcp, .proxyAuthenType, .proxyAuthenName, .proxyAuthenChallenge, .proxyAuthenId,
     .proxyAuthenResponse, .privateGroupId, .rxSpeed, .sequencingRequired] pack

def recvOCCN (sess : Sess) (pack : Packet) : TunM Unit :=
  recvConnected cf sess .waitOccn
    [.messageType, .randomVector, .txSpeed, .framingType, .sequencingRequired] pack

def recvCDN (sess : Sess) (pack : Packet) : TunM Unit := do
  modSession sess.sid fun s =>
    match pack.last .assignedSessionId with
    | none => s
    | some a => { s with peerSid := if s.peerSid = 0 then a.uint16 else s.peerSid }
  sessionClearSendqueue sess.sid
  sessionFree sess.sid

/-! ## Calls from the command line -/

def placeCall (lnsMode : Bool) (sid : UInt16) : TunM Bool := do
  if ← ask then
    modSession sid fun s => { s with timer := true }
    if ← (if lnsMode then sendOCRQ sid else sendICRQ sid) then
      modSession sid fun s => { s with state1 := if lnsMode then .waitOcrp else .waitIcrp }
      return true
    else
      delSessionTimer sid
      return false
  else
    return false

def createSession : TunM Unit := do
  let c ← get
  if c.ctl.state ≠ .estb then
    return ()
  else
    match ← allocSession cf with
    | none => return ()
    | some sid =>
      if ← placeCall c.ctl.lnsMode sid then
        let r ← pushSendqueue
        if r < 0 then
          sessionFree sid
        else
          return ()
      else
        sessionFree sid

/-! ## Dispatch -/

/-- `l2tp_session_recv`. WEN and SLI are only logged. -/
def sessionRecv (sess : Sess) (pack : Packet) (mandatory : Bool) :
    MsgType → TunM Unit
  | .sccrq | .sccrp | .scccn | .stopCCN | .hello | .ocrq | .icrq => return ()
  | .ocrp => recvOCRP sess pack
  | .occn => recvOCCN cf sess pack
  | .icrp => recvICRP sess pack
  | .iccn => recvICCN cf sess pack
  | .cdn => recvCDN sess pack
  | .wen | .sli => return ()
  | .other _ => if mandatory then sessionDisconnect sess.sid 2 8 else return ()

/-- `l2tp_tunnel_recv`. A HELLO restarts its timer; a CDN without a session is only logged. -/
def tunnelRecv (pack : Packet) (mandatory : Bool) : MsgType → TunM Unit
  | .sccrq => return ()
  | .sccrp => recvSCCRP cf pack
  | .scccn => recvSCCCN cf pack
  | .stopCCN => recvStopCCN pack
  | .hello => return ()
  | .ocrq => recvOCRQ cf pack
  | .icrq => recvICRQ cf pack
  | .cdn => return ()
  | .ocrp | .occn | .icrp | .iccn | .wen | .sli => return ()
  | .other _ => if mandatory then failTunnel 2 8 else return ()

end L2tp
