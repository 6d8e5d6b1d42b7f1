import Mathlib.Algebra.Group.Nat.Defs
import MicroBng.Lib.Machine
import MicroBng.Radius.Packet

/-!
# RADIUS requests

The life of one request of `radius/req.c`: it is allocated for a server, sent, repeated, moved to
another server when that one fails, and answered. The state has the request, the servers and
what was put on the wire.

* A server has a number; what never changes of it is `ServerConf`, what requests and reloads
  change is `ServerLoad`. What other requests, timeouts and reloads do to the servers is the event
  `world`.
* `rad_req_send` enters servers in a loop that may go on for ever. One turn of it is one step of
  the machine, so a run can stop between any two turns.
* Clock, socket calls and the counters that go into an accounting request come with the events.
  Memory is never short, and messages, statistics and the armed timers are left out.
-/

namespace Radius

/-! ## Servers -/

/-- `RAD_SERV_AUTH` and `RAD_SERV_ACCT`. -/
inductive ServType
  | auth | acct
  deriving DecidableEq

inductive Addr
  | v4 (addr : UInt32)
  | v6 (addr : Nat)
  deriving DecidableEq

structure Dest where
  addr : Addr
  port : Nat
  deriving DecidableEq

/-- How a server's address was configured: by `parse_server1` or `parse_server2` in either family, or
by `add_server_old`. -/
inductive ServerAddr
  | v4 (addr : UInt32)
  | v6 (addr : Nat)
  | old (addr : UInt32)
  deriving DecidableEq

/-- `s->addr`; `memset` leaves it 0 for an IPv6 server. -/
def ServerAddr.addr : ServerAddr → UInt32
  | .v4 a | .old a => a
  | .v6 _ => 0

/-- `s->addr6`. -/
def ServerAddr.addr6 : ServerAddr → Nat
  | .v6 a => a
  | .v4 _ | .old _ => 0

/-- `s->ipv4`, which `add_server_old` does not set. -/
def ServerAddr.ipv4 : ServerAddr → Bool
  | .v4 _ => true
  | .v6 _ | .old _ => false

/-- The address that the configuration gives. -/
def ServerAddr.given : ServerAddr → Addr
  | .v4 a | .old a => .v4 a
  | .v6 a => .v6 a

/-- What stays of `struct rad_server_t` once it is configured. -/
structure ServerConf where
  place : ServerAddr
  secret : List UInt8
  authPort : Nat
  acctPort : Nat
  weight : Nat
  backup : Bool

def ServerConf.port (c : ServerConf) : ServType → Nat
  | .auth => c.authPort
  | .acct => c.acctPort

/-- Where requests to the server are to go. -/
def ServerConf.dest (c : ServerConf) (type : ServType) : Dest := ⟨c.place.given, c.port type⟩

/-- What changes of `struct rad_server_t`; `clientCnt` is the sum of both counters. -/
structure ServerLoad where
  failTime : Nat
  clientCnt : Nat
  reqLimit : Nat
  reqCnt : Nat
  needFree : Bool

/-- `serv_list` and the load of every server. -/
structure Servers where
  list : List Nat
  load : Nat → ServerLoad

def Servers.update (sv : Servers) (s : Nat) (f : ServerLoad → ServerLoad) : Servers :=
  { sv with load := fun i => if i = s then f (sv.load i) else sv.load i }

/-- The configuration, the servers by number; `md5` is the digest. -/
structure Conf where
  md5 : List UInt8 → List UInt8
  md5_length : ∀ x, (md5 x).length = 16
  dict : Dict
  server : Nat → ServerConf
  maxTry : Nat
  acctDelayTime : Bool

/-- A product of two `int`s, as the machine computes it. -/
def mulInt (a b : Nat) : Int := Int.bmod (a * b) (2 ^ 32)

/-- The comparison of `__rad_server_get`: `s` is to be preferred to `s0`. -/
def preferred (cf : Conf) (sv : Servers) (s s0 : Nat) : Bool :=
  (!(cf.server s).backup && (cf.server s0).backup) ||
    ((cf.server s).backup == (cf.server s0).backup &&
      decide (mulInt (sv.load s).clientCnt (cf.server s0).weight <
        mulInt (sv.load s0).clientCnt (cf.server s).weight))

/-- A turn of the loop of `__rad_server_get`, with the best server and the last at the address. -/
def radServerGetTurn (cf : Conf) (sv : Servers) (type : ServType) (exclude : Option Nat)
    (addr : UInt32) (port now : Nat) (found : Option Nat × Option Nat) (s : Nat) :
    Option Nat × Option Nat :=
  if exclude = some s then found
  else if (sv.load s).failTime ≠ 0 ∧ now < (sv.load s).failTime then found
  else if (cf.server s).port type = 0 then found
  else
    (match found.1 with
      | none => some s
      | some s0 => if preferred cf sv s s0 then some s else some s0,
    if (cf.server s).place.addr = addr ∧ (port = (cf.server s).port type ∨ found.2 = none) then some s
      else found.2)

def radServerGet (cf : Conf) (sv : Servers) (type : ServType) (exclude : Option Nat)
    (addr : UInt32) (port now : Nat) : Option Nat :=
  let found := sv.list.foldl (radServerGetTurn cf sv type exclude addr port now) (none, none)
  found.2.or found.1

/-! ## Packets to send -/

/-- An attribute of a packet to send: the vendor's number, its own and its bytes. -/
structure OutAttr where
  vendor : Option UInt32
  id : UInt8
  data : List UInt8

/-- The low `n` bytes of a number in network order. -/
def beBytes : Nat → Nat → List UInt8
  | 0, _ => []
  | n + 1, v => beBytes n (v / 256) ++ [UInt8.ofNat v]

/-- The bytes `rad_packet_build` writes for an attribute. -/
def OutAttr.encode (a : OutAttr) : List UInt8 :=
  (match a.vendor with
    | some v => [26, UInt8.ofNat (a.data.length + 8)] ++ beBytes 4 v.toNat
    | none => []) ++ [a.id, UInt8.ofNat (a.data.length + 2)] ++ a.data

/-- `rad_packet_build`; `ra` is the authenticator. -/
def radPacketBuild (code id : UInt8) (attrs : List OutAttr) (ra : List UInt8) : List UInt8 :=
  let body := attrs.flatMap OutAttr.encode
  [code, id] ++ beBytes 2 (20 + body.length) ++ ra ++ body

/-- The loop of `encrypt_password` over chunks of 16 bytes, `c` being the previous one. -/
def hideChunks (md5 : List UInt8 → List UInt8) (secret : List UInt8) :
    Nat → List UInt8 → List UInt8 → List UInt8
  | 0, _, _ => []
  | n + 1, bs, c =>
    let e := List.zipWith (· ^^^ ·) (bs.take 16) (md5 (secret ++ c))
    e ++ hideChunks md5 secret n (bs.drop 16) e

def encryptPassword (md5 : List UInt8 → List UInt8) (passwd secret ra : List UInt8) : List UInt8 :=
  let chunkCnt := (passwd.length + 15) / 16
  hideChunks md5 secret chunkCnt (passwd ++ List.replicate (chunkCnt * 16 - passwd.length) 0) ra

/-- The attribute `User-Password`. -/
def userPassword (hidden : List UInt8) : OutAttr := ⟨none, 2, hidden⟩

/-! ## Requests -/

/-- The callback `auth_ctx->recv`. -/
inductive RecvHook
  | none | mschapV1 | mschapV2

/-- `struct rad_req_t` with its packet. `fd` is the socket's peer, `beforeSend`: the callback is
`rad_acct_before_send`. -/
structure Req where
  type : ServType
  serv : Nat
  serverAddr : UInt32
  serverIpv6Addr : Nat
  serverPort : Nat
  fd : Option Dest
  ra : List UInt8
  id : UInt8
  attrs : List OutAttr
  buf : Option (List UInt8)
  beforeSend : Bool
  passwd : Option (List UInt8)
  hook : RecvHook
  tries : Nat
  active : Bool
  queued : Bool

/-- `CODE_ACCESS_REQUEST` or `CODE_ACCOUNTING_REQUEST`. -/
def Req.code (r : Req) : UInt8 :=
  match r.type with
  | .auth => 1
  | .acct => 4

def Req.build (r : Req) : List UInt8 := radPacketBuild r.code r.id r.attrs r.ra

/-- `req_set_RA`: the digest goes where the zero authenticator was. -/
def reqSetRA (cf : Conf) (secret : List UInt8) (r : Req) : Req :=
  { r with buf := some (r.build.take 4 ++ cf.md5 (r.build ++ secret) ++ r.build.drop 20) }

/-- `rad_packet_change_int` on the attribute with this number. -/
def changeInt (id : UInt8) (n : Nat) : List OutAttr → List OutAttr
  | [] => []
  | a :: as => if a.vendor = none ∧ a.id = id then { a with data := beBytes 4 n } :: as
    else a :: changeInt id n as

/-- `rad_acct_before_send`: `Acct-Delay-Time` is attribute 41. -/
def radAcctBeforeSend (cf : Conf) (delay : Nat) (r : Req) : Req :=
  reqSetRA cf (cf.server r.serv).secret { r with attrs := changeInt 41 delay r.attrs }

/-- A datagram that was put on the wire, and `req->serv` at that moment. -/
structure Sent where
  serv : Nat
  dest : Dest
  bytes : List UInt8

/-- Between two events, inside the loop of `rad_req_send`, or freed. -/
inductive Phase
  | ready | entering | over

/-- What `rad_auth_finalize` reports; a success comes with the reply. -/
inductive Report
  | success (reply : RadPacket)
  | denied
  deriving DecidableEq

structure State where
  req : Req
  servers : Servers
  phase : Phase
  sent : List Sent
  reports : List Report

/-- The answers of the system to one step: the time, the delay reported, whether a socket can be
made and the datagram is written. -/
structure Env where
  now : Nat
  delay : Nat
  socket : Bool
  write : Bool

/-! ## Sending -/

variable (cf : Conf) (env : Env) (sv : Servers)

/-- `make_socket`: the peer a new socket is connected to. -/
def makeSocket (r : Req) : Dest :=
  if (cf.server r.serv).place.ipv4 then ⟨.v4 r.serverAddr, r.serverPort⟩
  else ⟨.v6 r.serverIpv6Addr, r.serverPort⟩

/-- The peer of the request's socket, which is made if there is none. -/
def Req.peer (r : Req) : Dest := r.fd.getD (makeSocket cf r)

/-- The request after its callback `before_send`. -/
def Req.refreshed (delay : Nat) (r : Req) : Req :=
  if r.beforeSend then radAcctBeforeSend cf delay r else r

/-- The bytes `rad_packet_send` writes: the packet is built if the buffer has none. -/
def Req.bytes (r : Req) : List UInt8 := r.buf.getD r.build

/-- `__rad_req_send` on a request to be sent; `none` without a socket. -/
def radReqSendNow (st : State) : Option State :=
  if st.req.fd = none ∧ env.socket = false then none
  else
    let r := st.req.refreshed cf env.delay
    some { st with
      req := { r with fd := some (st.req.peer cf), buf := some r.bytes }
      sent := if env.write then st.sent ++ [⟨r.serv, st.req.peer cf, r.bytes⟩] else st.sent }

def radServerRealloc (st : State) : Option State :=
  (radServerGet cf st.servers st.req.type (some st.req.serv) 0 0 env.now).map fun s =>
    { st with
      servers := (st.servers.update s fun l => { l with clientCnt := l.clientCnt + 1 }).update
        st.req.serv fun l => { l with clientCnt := l.clientCnt - 1 }
      req := { st.req with
        serv := s
        fd := none
        serverAddr := (cf.server s).place.addr
        serverPort := (cf.server s).port st.req.type } }

def radServerReqExit (st : State) : State :=
  if (st.servers.load st.req.serv).reqLimit = 0 ∨ st.req.active = false then st
  else
    { st with
      req := { st.req with active := false }
      servers := st.servers.update st.req.serv fun l => { l with reqCnt := l.reqCnt - 1 } }

/-- What follows when `rad_req_send` gives up: an access request is denied. -/
def sendFailed (st : State) : State :=
  match st.req.type with
  | .auth => { st with phase := .over, reports := st.reports ++ [.denied] }
  | .acct => { st with phase := .ready }

/-- The next turn of the loop of `rad_req_send` is for another server. -/
def tryNextServer (st : State) : State :=
  match radServerRealloc cf env st with
  | some st' => { st' with phase := .entering }
  | none => sendFailed st

/-- One turn of the loop of `rad_req_send`, around `rad_server_req_enter`. -/
def enterTurn (st : State) : State :=
  let l := st.servers.load st.req.serv
  if l.needFree ∨ env.now < l.failTime then tryNextServer cf env st
  else if l.reqLimit = 0 then
    match radReqSendNow cf env st with
    | some st' => { st' with phase := .ready }
    | none => tryNextServer cf env st
  else if st.req.active ∨ st.req.queued then tryNextServer cf env st
  else if l.reqLimit ≤ l.reqCnt then
    { st with req := { st.req with queued := true }, phase := .ready }
  else
    let entered : State := { st with
      req := { st.req with active := true }
      servers := st.servers.update st.req.serv fun l => { l with reqCnt := l.reqCnt + 1 } }
    match radReqSendNow cf env entered with
    | some st' => { st' with phase := .ready }
    | none => tryNextServer cf env (radServerReqExit entered)

/-- The end of `rad_req_send`: an active request is sent, another enters a server. -/
def sendOrEnter (st : State) : State :=
  if st.req.active then
    match radReqSendNow cf env st with
    | some st' => { st' with phase := .ready }
    | none => sendFailed st
  else { st with phase := .entering }

/-- `rad_req_send`, up to its loop. -/
def radReqSend (st : State) : State :=
  if st.req.tries = cf.maxTry then
    match radServerRealloc cf env (radServerReqExit st) with
    | some st' => sendOrEnter cf env { st' with req := { st'.req with tries := 1 } }
    | none => sendFailed (radServerReqExit st)
  else sendOrEnter cf env { st with req := { st.req with tries := st.req.tries + 1 } }

/-! ## Replies -/

/-- A datagram in the socket's queue. If decoding it depends on old bytes of the buffer, `guess` are
the attributes that come out. -/
structure Arrival where
  datagram : List UInt8
  guess : Option (List RadAttr)

/-- The packet `rad_packet_recv` makes of it. -/
def Arrival.packet (dict : Dict) (a : Arrival) : Option RadPacket :=
  match radPacketRecv dict a.datagram with
  | .ok pack => some pack
  | .error .rejected => none
  | .error .indeterminate => a.guess.map fun attrs =>
    { code := a.datagram.getD 0 0, id := a.datagram.getD 1 0, len := lengthField a.datagram,
      attrs := attrs, buf := a.datagram }

/-- The loop of `rad_req_read`: it drops packets with another identifier and ends at a datagram that
is none. -/
def radReqRead (dict : Dict) (id : UInt8) : List Arrival → Option RadPacket
  | [] => none
  | a :: as =>
    match a.packet dict with
    | none => none
    | some pack => if pack.id = id then some pack else radReqRead dict id as

/-- `rad_packet_find_attr` for an attribute of a vendor. -/
def radPacketFindAttr (dict : Dict) (vendorName name : String) (attrs : List RadAttr) :
    Option RadAttr :=
  match dict.vendors.find? fun v => v.name == vendorName with
  | none => none
  | some v => attrs.find? fun a => a.vendor == some v && a.attr.name == name

/-- Whether `auth_ctx->recv` lets an Access-Accept through. -/
def RecvHook.accepts (dict : Dict) (hook : RecvHook) (attrs : List RadAttr) : Bool :=
  match hook with
  | .none | .mschapV1 => true
  | .mschapV2 => (radPacketFindAttr dict "Microsoft" "MS-CHAP2-Success" attrs).isSome

/-- `rad_auth_recv`; `rad_proc_attrs` never fails. -/
def radAuthRecv (dict : Dict) (hook : RecvHook) (reply : RadPacket) : Report :=
  if reply.code = 2 then
    if hook.accepts dict reply.attrs then .success reply else .denied
  else .denied

/-- `rad_server_req_exit`, or `rad_server_req_cancel` for an inactive request. -/
def leaveServer (st : State) : State :=
  if st.req.active then radServerReqExit st
  else { st with req := { st.req with queued := false } }

/-- `rad_req_read` with the request's callback. An accounting request closes its socket and is kept,
or is freed. -/
def readReply (kept : Bool) (arrivals : List Arrival) (st : State) : State :=
  match radReqRead cf.dict st.req.id arrivals with
  | none => st
  | some reply =>
    let st := leaveServer st
    match st.req.type with
    | .auth => { st with
        phase := .over, reports := st.reports ++ [radAuthRecv cf.dict st.req.hook reply] }
    | .acct =>
      if kept then { st with req := { st.req with fd := none } } else { st with phase := .over }

/-! ## The machine -/

inductive Event
  /-- Other requests, timeouts, failures and reloads change the servers. -/
  | world (servers : Servers)
  /-- The first `rad_req_send`. -/
  | send (env : Env)
  /-- A turn of the loop of `rad_req_send`. -/
  | enter (env : Env)
  | wakeup (env : Env)
  | wakeupFailed (env : Env)
  /-- `rad_auth_timeout` or `rad_acct_start_timeout`. -/
  | timeout (env : Env)
  /-- `rad_acct_timeout`; it only closes the socket if the timeout is zero. -/
  | acctTimeout (again : Bool) (env : Env)
  | stopTimeout (env : Env)
  /-- `rad_acct_stop_timeout` sets `try` back after a failed attempt. -/
  | stopRetry
  /-- `rad_acct_interim_update` with the new attributes. -/
  | interim (attrs : List OutAttr) (env : Env)
  /-- `rad_acct_stop` with the new attributes. -/
  | stop (attrs : List OutAttr) (env : Env)
  | acctOnTimeout (env : Env)
  /-- The socket is readable. -/
  | readable (kept : Bool) (arrivals : List Arrival)

/-- `req_wakeup` of a request another one's `rad_server_req_exit` took off the queue. -/
def reqWakeup (st : State) : State :=
  let l := st.servers.load st.req.serv
  let woken : State := { st with req := { st.req with queued := false, active := true } }
  if env.now < l.failTime ∨ l.needFree then radReqSend cf env (radServerReqExit woken)
  else (radReqSendNow cf env woken).getD woken

/-- `rad_acct_start_timeout`; `rad_auth_timeout` keeps the identifier. -/
def radTimeout (st : State) : State :=
  radReqSend cf env
    (if st.req.beforeSend then { st with req := { st.req with id := st.req.id + 1 } } else st)

def radAcctTimeout (again : Bool) (env : Env) (st : State) : State :=
  let st := radServerReqExit st
  if again then
    radReqSend cf env { st with req := { st.req with
      id := if cf.acctDelayTime then st.req.id + 1 else st.req.id, tries := 0 } }
  else { st with req := { st.req with fd := none } }

def radAcctStopTimeout (st : State) : State :=
  let st : State := if st.req.active then
      radServerReqExit { st with req := { st.req with
        id := if st.req.beforeSend then st.req.id + 1 else st.req.id } }
    else st
  if st.req.tries = cf.maxTry then { st with phase := .over } else radReqSend cf env st

def radAcctInterimUpdate (attrs : List OutAttr) (env : Env) (st : State) : State :=
  let r := { st.req with attrs := attrs, id := st.req.id + 1, tries := 0 }
  radReqSend cf env { st with
    req := if r.beforeSend then r else reqSetRA cf (cf.server r.serv).secret r }

/-- `rad_acct_stop` of a session with an accounting request. -/
def radAcctStop (attrs : List OutAttr) (env : Env) (st : State) : State :=
  let st := radServerReqExit { st with req := { st.req with queued := false } }
  radReqSend cf env { st with
    req := reqSetRA cf (cf.server st.req.serv).secret
      { st.req with attrs := attrs, id := st.req.id + 1, tries := 0 } }

def acctOnTimeout (st : State) : State :=
  if st.req.tries = cf.maxTry then { st with phase := .over }
  else
    let st : State := { st with req := { st.req with tries := st.req.tries + 1 } }
    (radReqSendNow cf env st).getD st

def step (st : State) (e : Event) : Option State :=
  match e, st.phase with
  | _, .over => none
  | .world sv, _ => some { st with servers := sv }
  | .enter env, .entering => some (enterTurn cf env st)
  | _, .entering => none
  | .send env, .ready => if st.req.tries = 0 then some (radReqSend cf env st) else none
  | .enter _, .ready => none
  | .wakeup env, .ready => if st.req.queued then some (reqWakeup cf env st) else none
  | .wakeupFailed env, .ready =>
    if st.req.queued then
      some (radReqSend cf env { st with req := { st.req with queued := false } })
    else none
  | .timeout env, .ready => some (radTimeout cf env st)
  | .acctTimeout again env, .ready =>
    if st.req.type = .acct then some (radAcctTimeout cf again env st) else none
  | .stopTimeout env, .ready =>
    if st.req.type = .acct then some (radAcctStopTimeout cf env st) else none
  | .stopRetry, .ready =>
    if st.req.type = .acct then some { st with req := { st.req with tries := 0 } } else none
  | .interim attrs env, .ready =>
    if st.req.type = .acct ∧ st.req.queued = false then
      some (radAcctInterimUpdate cf attrs env st)
    else none
  | .stop attrs env, .ready =>
    if st.req.type = .acct then some (radAcctStop cf attrs env st) else none
  | .acctOnTimeout env, .ready =>
    if st.req.type = .acct then some (acctOnTimeout cf env st) else none
  | .readable kept arrivals, .ready =>
    if st.req.fd = none then none else some (readReply cf kept arrivals st)

/-! ## New requests -/

def radReqAlloc (type : ServType) (attrs : List OutAttr) (ra : List UInt8) (now : Nat) : Option State :=
  (radServerGet cf sv type none 0 0 now).map fun s =>
    { req :=
        { type := type, serv := s, serverAddr := (cf.server s).place.addr,
          serverIpv6Addr := (cf.server s).place.addr6, serverPort := (cf.server s).authPort, fd := none,
          ra := ra, id := 1, attrs := attrs, buf := none, beforeSend := false, passwd := none,
          hook := .none, tries := 0, active := false, queued := false }
      servers := sv.update s fun l => { l with clientCnt := l.clientCnt + 1 }
      phase := .ready
      sent := []
      reports := [] }

/-- `rad_auth_pap`, up to the first `rad_req_send`. -/
def radAuthPap (attrs : List OutAttr) (passwd ra : List UInt8) (now : Nat) : Option State :=
  (radReqAlloc cf sv .auth attrs ra now).map fun st =>
    { st with req := { st.req with
      passwd := some passwd
      attrs := attrs ++ [userPassword
        (encryptPassword cf.md5 passwd (cf.server st.req.serv).secret ra)] } }

/-- `rad_auth_chap_md5`, `rad_auth_mschap_v1`, `rad_auth_mschap_v2` and `rad_auth_null`. -/
def radAuthOther (hook : RecvHook) (attrs : List OutAttr) (ra : List UInt8) (now : Nat) : Option State :=
  (radReqAlloc cf sv .auth attrs ra now).map fun st =>
    { st with req := { st.req with hook := hook } }

/-- `rad_req_alloc` with `rad_req_acct_fill`: the accounting port and a zero authenticator. -/
def radAcctAlloc (attrs : List OutAttr) (now : Nat) : Option State :=
  (radReqAlloc cf sv .acct attrs (List.replicate 16 0) now).map fun st =>
    { st with req := { st.req with serverPort := (cf.server st.req.serv).acctPort } }

/-- `__rad_acct_start`, and `rad_acct_stop` without an earlier request, to `rad_req_send`. -/
def radAcctStart (delayTime : Bool) (id : UInt8) (attrs : List OutAttr) (now : Nat) : Option State :=
  (radAcctAlloc cf sv attrs now).map fun st =>
    { st with req :=
      if delayTime then { st.req with beforeSend := true }
      else reqSetRA cf (cf.server st.req.serv).secret { st.req with id := id } }

/-- `send_acct_on`, up to the first `__rad_req_send`: `server_ipv6_addr` stays zero. -/
def sendAcctOn (s : Nat) (attrs : List OutAttr) : State where
  req := reqSetRA cf (cf.server s).secret
    { type := .acct, serv := s, serverAddr := (cf.server s).place.addr, serverIpv6Addr := 0,
      serverPort := (cf.server s).acctPort, fd := none, ra := List.replicate 16 0, id := 1,
      attrs := attrs, buf := none, beforeSend := false, passwd := none, hook := .none, tries := 1,
      active := false, queued := false }
  servers := sv.update s fun l => { l with clientCnt := l.clientCnt + 1 }
  phase := .ready
  sent := []
  reports := []

inductive Created (cf : Conf) : State → Prop
  | pap {sv : Servers} {attrs : List OutAttr} {passwd ra : List UInt8} {now : Nat} {st : State} :
      ra.length = 16 → radAuthPap cf sv attrs passwd ra now = some st → Created cf st
  | other {sv : Servers} {hook : RecvHook} {attrs : List OutAttr} {ra : List UInt8} {now : Nat}
      {st : State} : ra.length = 16 → radAuthOther cf sv hook attrs ra now = some st →
      Created cf st
  | acct {sv : Servers} {delayTime : Bool} {id : UInt8} {attrs : List OutAttr} {now : Nat}
      {st : State} : radAcctStart cf sv delayTime id attrs now = some st → Created cf st
  | acctOn {sv : Servers} {s : Nat} {attrs : List OutAttr} : Created cf (sendAcctOn cf sv s attrs)

end Radius
