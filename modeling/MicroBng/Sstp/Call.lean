import MicroBng.Lib.Machine

/-!
# SSTP calls

The server side of one SSTP connection of `ctrl/sstp/sstp.c`, from the HTTP request to the end of
the call. A packet is the byte list that `sstp_handler` finds in its buffer, with whatever
follows it. HMAC is a parameter, as are the random nonce and the results of the calls that set
up PPP.

A `CALL_CONNECTED` that comes before PPP has authenticated is kept in the deferred queue and
handled again when PPP is authorized or started. `accepted` records what the message looked like
that brought the call into `STATE_SERVER_CALL_CONNECTED`, and what it was compared with.

Memory is never short, the log and the statistics are left out, and data packets do not change the
call.
-/

namespace Sstp

/-! ## State -/

/-- `STATE_*` of the call. -/
inductive CallState
  | serverCallDisconnected
  | serverConnectRequestPending
  | serverCallConnectedPending
  | serverCallConnected
  | callAbortTimeoutPending
  | callAbortPending
  | callDisconnectTimeoutPending
  | callDisconnectAckPending
  deriving DecidableEq

/-- `STATE_*` of PPP. -/
inductive PppState
  | init | starting | authorized | started | finished
  deriving DecidableEq

/-- `NPMODE_DROP` and `NPMODE_PASS`. -/
inductive NpMode
  | drop | pass
  deriving DecidableEq

inductive Out
  | httpOk
  | connectAck (nonce : List UInt8)
  | connectNak
  | abort
  | disconnect
  | disconnectAck
  | echoRequest
  | echoResponse

/-- The message that connected a call, and nonce, key and PPP state then. -/
structure Accept where
  msg : List UInt8
  nonce : Option (List UInt8)
  hlakKey : Option (List UInt8)
  pppState : PppState

/-- `struct sstp_conn_t`. `http`: the handler is `http_handler`; `ending`: `sstp_disconnect` is
scheduled, `freed`: it has run. -/
structure Conn where
  sstpState : CallState
  pppState : PppState
  http : Bool
  nonce : Option (List UInt8)
  hlakKey : Option (List UInt8)
  deferredQueue : List (List UInt8)
  nakSent : Nat
  helloSent : Nat
  timeoutTimer : Bool
  helloTimer : Bool
  pppNpmode : NpMode
  ending : Bool
  freed : Bool
  out : List Out
  accepted : Option Accept

/-- `CERT_HASH_PROTOCOL_*`. -/
inductive HashProtocol
  | sha1 | sha256

/-- `SHA_DIGEST_LENGTH` and `SHA256_DIGEST_LENGTH`. -/
def HashProtocol.size : HashProtocol → Nat
  | .sha1 => 20
  | .sha256 => 32

/-- `conf_hash_protocol`, the certificate hashes set, and whether echo requests are sent. -/
structure Conf where
  hmac : HashProtocol → List UInt8 → List UInt8 → List UInt8
  hashProtocol : UInt8
  certHash : HashProtocol → Option (List UInt8)
  helloInterval : Bool

/-! ## Packets -/

variable (cf : Conf)

/-- `n` bytes of a packet from an offset on. -/
def field (p : List UInt8) (off n : Nat) : List UInt8 := (p.drop off).take n

def field16 (p : List UInt8) (off : Nat) : Nat :=
  (p.getD off 0).toNat * 256 + (p.getD (off + 1) 0).toNat

/-- `hdr.length`. -/
def hdrLength (p : List UInt8) : Nat := field16 p 2

/-- `attr.nonce`. -/
def msgNonce (p : List UInt8) : List UInt8 := field p 16 32

/-- `attr.cert_hash`. -/
def msgCertHash (p : List UInt8) : List UInt8 := field p 48 32

/-- `attr.compound_mac`. -/
def msgCompoundMac (p : List UInt8) : List UInt8 := field p 80 32

/-- The size of a `CALL_CONNECTED` with its attribute. -/
def connectedSize : Nat := 112

def cmkSeed : List UInt8 :=
  [83, 83, 84, 80, 32, 105, 110, 110, 101, 114, 32, 109, 101, 116, 104, 111, 100, 32, 100, 101, 114,
    105, 118, 101, 100, 32, 67, 77, 75]

/-- The hash the client chose among the configured, SHA256 first. -/
def chosenHash (p : List UInt8) : Option HashProtocol :=
  let hash := p.getD 15 0 &&& cf.hashProtocol
  if hash &&& 2 ≠ 0 then some .sha256
  else if hash &&& 1 ≠ 0 then some .sha1
  else none

def compoundMac (alg : HashProtocol) (key p : List UInt8) : List UInt8 :=
  let cmk := cf.hmac alg key (cmkSeed ++ [UInt8.ofNat alg.size, 0, 1])
  cf.hmac alg cmk (p.take 80 ++ List.replicate 32 0)

/-- The comparison of the compound MAC, over the length of the digest. -/
def macOk (alg : HashProtocol) (key p : List UInt8) : Bool :=
  let mac := compoundMac cf alg key p
  (msgCompoundMac p).take mac.length == mac

/-- The comparison of the certificate hash, if one is set. -/
def certOk (alg : HashProtocol) (p : List UInt8) : Bool :=
  match cf.certHash alg with
  | some h => (msgCertHash p).take alg.size == h
  | none => true

/-! ## Messages -/

def Conn.send (c : Conn) (m : Out) : Conn := { c with out := c.out ++ [m] }

def sstpAbort (c : Conn) (disconnect : Bool) : Conn :=
  if disconnect then
    { c.send .disconnect with sstpState := .callDisconnectAckPending, timeoutTimer := true }
  else { c.send .abort with sstpState := .callAbortPending, timeoutTimer := true }

/-- The states of a call that is torn down: most messages are ignored. -/
def CallState.ending : CallState → Bool
  | .callAbortTimeoutPending | .callAbortPending | .callDisconnectAckPending
  | .callDisconnectTimeoutPending => true
  | _ => false

/-- The results of system calls and `establish_ppp`, and the nonce. -/
structure Env where
  random : List UInt8
  allocatePty : Bool
  establishPpp : Bool

/-- `sstp_recv_msg_call_connect_request`; `none` is the result `-1`. -/
def recvMsgCallConnectRequest (env : Env) (p : List UInt8) (c : Conn) : Option Conn :=
  if c.sstpState.ending then some c
  else if c.sstpState ≠ .serverConnectRequestPending then some (sstpAbort c false)
  else if hdrLength p < 14 ∨ field16 p 6 < 1 ∨ p.getD 9 0 ≠ 1 ∨ field16 p 10 < 6 then
    some (sstpAbort c false)
  else if field16 p 12 ≠ 1 then
    if c.nakSent = 3 then some (sstpAbort { c with nakSent := c.nakSent + 1 } false)
    else some ({ c with nakSent := c.nakSent + 1 }.send .connectNak)
  else if env.allocatePty = false then none
  -- the acknowledgement is queued already, and freed with the queue
  else if env.establishPpp = false then none
  else
    let nonce := c.nonce.map fun _ => env.random
    some { c.send (.connectAck (nonce.getD (List.replicate 32 0))) with
      nonce := nonce
      hlakKey := c.hlakKey.map fun _ => List.replicate 32 0
      sstpState := .serverCallConnectedPending
      pppState := .starting }

/-- The end of `sstp_recv_msg_call_connected`: the call is connected. -/
def callConnected (p : List UInt8) (c : Conn) : Conn :=
  { c with
    accepted := some ⟨p.take connectedSize, c.nonce, c.hlakKey, c.pppState⟩
    timeoutTimer := false
    sstpState := .serverCallConnected
    pppNpmode := .pass
    nonce := none
    hlakKey := none
    helloTimer := cf.helloInterval }

/-- `conn->ppp_state < STATE_AUTHORIZED`. -/
def PppState.beforeAuthorized : PppState → Bool
  | .init | .starting => true
  | _ => false

def recvMsgCallConnected (p : List UInt8) (c : Conn) : Conn :=
  if c.sstpState.ending then c
  else if c.sstpState ≠ .serverCallConnectedPending then sstpAbort c false
  else if hdrLength p < connectedSize ∨ field16 p 6 < 1 ∨ p.getD 9 0 ≠ 3 ∨ field16 p 10 < 104 then
    sstpAbort c false
  else if c.nonce.any fun n => msgNonce p ≠ n then sstpAbort c false
  else match chosenHash cf p with
    | none => sstpAbort c false
    | some alg =>
      if certOk cf alg p = false then sstpAbort c false
      else match c.hlakKey with
        | none => callConnected cf p c
        | some key =>
          if c.pppState.beforeAuthorized then
            { c with deferredQueue := c.deferredQueue ++ [p.take connectedSize] }
          else if macOk cf alg key p = false then sstpAbort c false
          else callConnected cf p c

def recvMsgCallAbort (c : Conn) : Conn :=
  match c.sstpState with
  | .callAbortPending => { c with sstpState := .callAbortTimeoutPending, timeoutTimer := true }
  | .callAbortTimeoutPending | .callDisconnectTimeoutPending => c
  | _ => { c.send .abort with sstpState := .callAbortTimeoutPending, timeoutTimer := true }

def recvMsgCallDisconnect (c : Conn) : Conn :=
  match c.sstpState with
  | .callAbortTimeoutPending | .callAbortPending | .callDisconnectTimeoutPending => c
  | _ => { c.send .disconnectAck with
      sstpState := .callDisconnectTimeoutPending, timeoutTimer := true }

def recvMsgCallDisconnectAck (c : Conn) : Conn :=
  match c.sstpState with
  | .callDisconnectAckPending => { c with sstpState := .serverCallDisconnected, ending := true }
  | .callAbortPending | .callAbortTimeoutPending | .callDisconnectTimeoutPending => c
  | _ => sstpAbort c false

def recvMsgEchoRequest (c : Conn) : Conn :=
  if c.sstpState = .serverCallConnected then c.send .echoResponse
  else if c.sstpState.ending then c
  else sstpAbort c false

def recvMsgEchoResponse (c : Conn) : Conn :=
  if c.sstpState = .serverCallConnected then { c with helloSent := 0 }
  else if c.sstpState.ending then c
  else sstpAbort c false

def recvPacket (env : Env) (p : List UInt8) (c : Conn) : Option Conn :=
  if p.getD 1 0 = 0 then some c
  else if p.getD 1 0 = 1 then
    if hdrLength p < 8 then none
    else match field16 p 4 with
      | 1 => recvMsgCallConnectRequest env p c
      | 2 | 3 => some (sstpAbort c false)
      | 4 => some (recvMsgCallConnected cf p c)
      | 5 => some (recvMsgCallAbort c)
      | 6 => some (recvMsgCallDisconnect c)
      | 7 => some (recvMsgCallDisconnectAck c)
      | 8 => some (recvMsgEchoRequest c)
      | 9 => some (recvMsgEchoResponse c)
      | _ => some c
  else some c

/-- One turn of the loop of `sstp_handler` on what is in the buffer. -/
def sstpHandler (env : Env) (p : List UInt8) (c : Conn) : Option Conn :=
  if p.length < 4 then some c
  else if p.getD 0 0 ≠ 16 then none
  else if 4095 < hdrLength p then none
  else if p.length < hdrLength p then some c
  else recvPacket cf env p c

/-- The loop of `sstp_read_deferred`. A message handled here is not deferred again. -/
def readDeferred (cf : Conf) (env : Env) : List (List UInt8) → Conn → Option Conn
  | [], c => some c
  | m :: ms, c =>
    match sstpHandler cf env m c with
    | none => none
    | some c' => readDeferred cf env ms { c' with deferredQueue := c'.deferredQueue.drop 1 }

/-! ## The machine -/

def PppState.running : PppState → Bool
  | .starting | .authorized | .started => true
  | _ => false

/-- `sstp_disconnect`: the connection is freed. -/
def sstpDisconnect (c : Conn) : Conn :=
  { c with
    pppState := if c.pppState.running then .finished else c.pppState
    deferredQueue := []
    timeoutTimer := false
    helloTimer := false
    freed := true }

/-- `sstp_connect`. Nonce and key are not initialised, and `none` without memory for them. -/
def sstpConnect (nonce hlakKey : Option (List UInt8)) : Conn where
  sstpState := .serverCallDisconnected
  pppState := .init
  http := true
  nonce := nonce
  hlakKey := hlakKey
  deferredQueue := []
  nakSent := 0
  helloSent := 0
  timeoutTimer := true
  helloTimer := false
  pppNpmode := .drop
  ending := false
  freed := false
  out := []
  accepted := none

inductive Event
  /-- `http_handler` has a whole request, which is accepted or refused. -/
  | http (ok : Bool)
  /-- A turn of `sstp_handler` with `p` in the buffer. -/
  | packet (p : List UInt8) (env : Env)
  /-- The stream ends. -/
  | closed
  /-- The `sstp_disconnect` that was scheduled. -/
  | disconnect
  | mppeKeys (recvKey sendKey : List UInt8)
  | authorized (env : Env)
  | started (env : Env)
  | finished
  | timeout
  /-- `sstp_msg_echo`; `idle` is that nothing was received in the interval. -/
  | echo (idle : Bool)
  | close

def evSesAuthorized (env : Env) (c : Conn) : Conn :=
  if c.pppState = .starting then
    (readDeferred cf env c.deferredQueue { c with pppState := .authorized }).getD (sstpDisconnect c)
  else c

def pppStarted (env : Env) (c : Conn) : Conn :=
  if c.pppState = .starting ∨ c.pppState = .authorized then
    (readDeferred cf env c.deferredQueue { c with pppState := .started }).getD (sstpDisconnect c)
  else c

def pppFinished (c : Conn) : Conn :=
  if c.pppState.running then sstpAbort { c with pppState := .finished } true else c

def sstpTimeout (c : Conn) : Conn :=
  if c.sstpState.ending then { c with timeoutTimer := false, ending := true }
  else sstpAbort { c with timeoutTimer := false } false

def sstpMsgEcho (idle : Bool) (c : Conn) : Conn :=
  if c.sstpState = .serverCallConnected ∧ idle then
    if c.helloSent ≠ 0 then sstpAbort { c with helloSent := c.helloSent + 1 } false
    else { c with helloSent := c.helloSent + 1 }.send .echoRequest
  else c

def sstpClose (c : Conn) : Conn :=
  if c.pppState.running then sstpAbort { c with pppState := .finished } true
  else sstpAbort c false

def step (c : Conn) (e : Event) : Option Conn :=
  if c.freed then none
  else match e with
    | .http ok =>
      if c.http = false then none
      else if c.sstpState ≠ .serverCallDisconnected ∨ ok = false then some (sstpDisconnect c)
      else some { c.send .httpOk with sstpState := .serverConnectRequestPending, http := false }
    | .packet p env =>
      if c.http then none else some ((sstpHandler cf env p c).getD (sstpDisconnect c))
    | .closed => some (sstpDisconnect c)
    | .disconnect => if c.ending then some (sstpDisconnect c) else none
    | .mppeKeys recvKey sendKey =>
      some { c with hlakKey := c.hlakKey.map fun _ => recvKey.take 16 ++ sendKey.take 16 }
    | .authorized env => some (evSesAuthorized cf env c)
    | .started env => some (pppStarted cf env c)
    | .finished => some (pppFinished c)
    | .timeout => if c.timeoutTimer then some (sstpTimeout c) else none
    | .echo idle => if c.helloTimer then some (sstpMsgEcho idle c) else none
    | .close => some (sstpClose c)

end Sstp
