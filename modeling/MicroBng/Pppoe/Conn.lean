import MicroBng.Pppoe.Serv
import MicroBng.Pppoe.Sid

/-!
# The life of a PPPoE connection

`pppoe_recv_PADR` allocates a connection and queues `connect_channel` in its context, which
establishes PPP. From then on several parties end it: a PADT queues `disconnect`, the end of the
PPP session calls `ppp_finished`, which queues it too, `connect_channel` calls it when PPP cannot be
established, and the close of the context calls it when PPP is not running. All of them run in the
context of the connection.

`disconnect` takes the connection out of the two hash tables of its server, ends PPP, takes it out
of `conn_cnt`, gives the session identifier back, unregisters the context, which drops the calls
still queued, and frees the memory. Each of these is a step here.

Of the PPP session only the calls of its three callbacks matter: it runs, is reported started at
most once, and finished once. What its layers have registered in the context is deleted then.
-/

namespace Pppoe.Conn

open Serv Handoff

/-! ## State -/

/-- A function queued in the context of a connection. -/
inductive Call
  | connectChannel | disconnect
  deriving DecidableEq

inductive ServCall
  | serverFree | startTimer

/-- What is registered in a context: the lengths of four lists of `struct _triton_context_t`. -/
structure Registered where
  handlers : Nat
  pendingHandlers : Nat
  timers : Nat
  pendingTimers : Nat

def Registered.nothing : Registered := ⟨0, 0, 0, 0⟩

structure Ctx where
  pendingCalls : List Call
  registered : Registered
  needClose : Bool
  needFree : Bool

/-- The PPP session: not there yet, running and perhaps reported started, finished. -/
inductive Ses
  | absent
  | running (started : Bool)
  | finished
  deriving DecidableEq

/-- The context of a connection is between two calls, in `establish_ppp`, or before a step of
`disconnect`. -/
inductive Place
  | idle | connecting
  | unhash | remove | terminate | uncount | release | unregister
  | freed
  deriving DecidableEq

inductive Resource
  | cookie | key | sid | memory
  deriving DecidableEq

/-- `struct pppoe_conn_t`. `released`: what `disconnect` has given back. -/
structure PppoeConn where
  addr : Mac
  sid : BitVec 16
  cookie : Cookie
  ctx : Ctx
  ses : Ses
  pppStarted : Bool
  sessionStarted : Nat
  place : Place
  released : List Resource

/-- `struct pppoe_serv_t`. `padr` is the PADR that is being served. -/
structure PppoeServ where
  conns : List PppoeConn
  cookie2conn : Chained Cookie Nat
  macSessid2conn : Chained (BitVec 64) Nat
  padr : Option Padr
  connCnt : Int
  stopping : Bool
  vlanMon : Bool
  pendingCalls : List ServCall

/-- `stat_starting`, `stat_active` and `stat_session_active`. -/
structure Stats where
  starting : Int
  active : Int
  sessionActive : Int

/-- The servers, the session identifiers and the statistics. -/
structure World where
  serv : Nat → PppoeServ
  sids : Sid.Sids
  stats : Stats

def World.init (vlanMon : Nat → Bool) : World where
  serv j := ⟨[], .empty, .empty, none, 0, false, vlanMon j, []⟩
  sids := Sid.pppoeInit
  stats := ⟨0, 0, 0⟩

/-- Connection `i` of server `j`. -/
def World.conn (w : World) (j i : Nat) : Option PppoeConn := (w.serv j).conns[i]?

/-- Server `j` has changed, and perhaps what all servers share. -/
def World.put (w : World) (j : Nat) (v : PppoeServ) (sids : Sid.Sids) (st : Stats) : World :=
  ⟨Function.update w.serv j v, sids, st⟩

def PppoeServ.set (v : PppoeServ) (i : Nat) (c : PppoeConn) : PppoeServ :=
  { v with conns := v.conns.set i c }

/-! ## The functions of the context -/

/-- `triton_context_call`; a context that is unregistered is not found. -/
def tritonContextCall (ctx : Ctx) (call : Call) : Ctx :=
  if ctx.needFree then ctx else { ctx with pendingCalls := ctx.pendingCalls ++ [call] }

/-- `triton_context_unregister`; it refuses while something is registered. -/
def tritonContextUnregister (ctx : Ctx) : Ctx × Int :=
  let ctx := { ctx with pendingCalls := [] }
  if ctx.registered.handlers ≠ 0 then (ctx, -1)
  else if ctx.registered.pendingHandlers ≠ 0 then (ctx, -1)
  else if ctx.registered.timers ≠ 0 then (ctx, -1)
  else if ctx.registered.pendingTimers ≠ 0 then (ctx, -1)
  else ({ ctx with needFree := true }, 0)

/-! ## The callbacks of the session -/

/-- The end of `ppp_finished`, the middle of `disconnect`: the session leaves the statistics. -/
def endSession (st : Stats) (c : PppoeConn) : Stats × PppoeConn :=
  if c.sessionStarted = 1 then
    ({ st with sessionActive := st.sessionActive - 1 }, { c with sessionStarted := 2 })
  else if c.sessionStarted = 0 then
    ({ st with starting := st.starting - 1 }, { c with sessionStarted := 2 })
  else (st, c)

def pppStarted (st : Stats) (c : PppoeConn) : Stats × PppoeConn :=
  ({ st with starting := st.starting - 1, sessionActive := st.sessionActive + 1 },
    { c with sessionStarted := 1 })

def pppFinished (st : Stats) (c : PppoeConn) : Stats × PppoeConn :=
  if c.pppStarted then
    endSession { st with active := st.active - 1 }
      { c with pppStarted := false, ctx := tritonContextCall c.ctx .disconnect }
  else endSession st c

/-- `ap_session_finished` with the rest of `destablish_ppp`. -/
def apSessionFinished (st : Stats) (c : PppoeConn) : Stats × PppoeConn :=
  let r := pppFinished st { c with ses := .finished }
  (r.1, { r.2 with ctx := { r.2.ctx with registered := .nothing } })

/-- `ap_session_terminate`, at once if hard or if no layer is started (`now`). -/
def apSessionTerminate (now : Bool) (st : Stats) (c : PppoeConn) : Stats × PppoeConn :=
  if c.ses = .finished then (st, c)
  else if now then apSessionFinished st c
  else (st, c)

/-! ## The functions of the connection -/

/-- The beginning of `connect_channel`. -/
def connectChannel (st : Stats) (c : PppoeConn) : Stats × PppoeConn :=
  ({ st with starting := st.starting + 1 }, { c with place := .connecting })

/-- The rest of `connect_channel`: `establish_ppp` has failed, or timers are registered. -/
def established (st : Stats) (c : PppoeConn) : Option Registered → Stats × PppoeConn
  | none => (st, { c with place := .unhash })
  | some r =>
    ({ st with active := st.active + 1 },
      { c with
        place := .idle
        ses := .running false
        pppStarted := true
        ctx := { c.ctx with registered := r } })

def pppoeConnClose (now : Bool) (st : Stats) (c : PppoeConn) : Stats × PppoeConn :=
  let c := { c with ctx := { c.ctx with needClose := false } }
  if c.pppStarted then apSessionTerminate now st c else (st, { c with place := .unhash })

/-- `disconnect` ends the session. -/
def terminateStep (st : Stats) (c : PppoeConn) : Stats × PppoeConn :=
  let r := if c.pppStarted then
      apSessionTerminate true { st with active := st.active - 1 } { c with pppStarted := false }
    else (st, c)
  let r := endSession r.1 r.2
  (r.1, { r.2 with place := .uncount })

/-- `disconnect` takes the connection out of `conn_cnt`. -/
def PppoeServ.uncount (v : PppoeServ) : PppoeServ :=
  let v := { v with connCnt := v.connCnt - 1 }
  if v.connCnt = 0 then
    if v.stopping then { v with pendingCalls := v.pendingCalls ++ [.serverFree] }
    else if v.vlanMon then { v with pendingCalls := v.pendingCalls ++ [.startTimer] }
    else v
  else v

/-- The end of `disconnect`: memory is kept if the context cannot be unregistered. -/
def unregisterStep (c : PppoeConn) : PppoeConn :=
  let r := tritonContextUnregister c.ctx
  if r.2 ≠ 0 then { c with ctx := r.1, place := .idle }
  else { c with ctx := r.1, place := .freed, released := c.released ++ [.memory] }

/-- The next step of `disconnect`; `behind` follows the address, `junk` is what an undefined shift
computes. -/
def disconnectStep (w : World) (j i : Nat) (c : PppoeConn) (behind : BitVec 16)
    (junk : BitVec 64) : Option World :=
  let v := w.serv j
  match c.place with
  | .idle | .connecting | .freed => none
  | .unhash =>
    some (w.put j
      { v.set i { c with place := .remove, released := c.released ++ [.cookie] } with
        cookie2conn := v.cookie2conn.free cookieIdx c.cookie } w.sids w.stats)
  | .remove =>
    some (w.put j
      { v.set i { c with place := .terminate, released := c.released ++ [.key] } with
        macSessid2conn := v.macSessid2conn.free keyIdx (key64 c.addr behind c.sid) }
      w.sids w.stats)
  | .terminate =>
    let r := terminateStep w.stats c
    some (w.put j (v.set i r.2) w.sids r.1)
  | .uncount => some (w.put j ((v.set i { c with place := .release }).uncount) w.sids w.stats)
  | .release =>
    some (w.put j (v.set i { c with place := .unregister, released := c.released ++ [.sid] })
      (Sid.disconnect w.sids (w.sids.live.idxOf c.sid.toNat) c.sid.toNat junk) w.stats)
  | .unregister => some (w.put j (v.set i (unregisterStep c)) w.sids w.stats)

/-! ## The functions of the server -/

/-- `pppoe_recv_PADR` up to `allocate_channel`, without what it sends. -/
def pppoeRecvPadr (v : PppoeServ) (p : Padr) : PppoeServ :=
  if p.passes && p.service then
    match (v.cookie2conn.get cookieIdx p.cookie).bind fun i => v.conns[i]? with
    | some _ => v
    | none => if p.full then v else { v with padr := some p }
  else v

/-- A connection as `allocate_channel` makes it, with the call queued by `pppoe_recv_PADR`. -/
def newConn (p : Padr) (sid : BitVec 16) : PppoeConn where
  addr := p.addr
  sid := sid
  cookie := p.cookie
  ctx := ⟨[.connectChannel], .nothing, false, false⟩
  ses := .absent
  pppStarted := false
  sessionStarted := 0
  place := .idle
  released := []

def PppoeServ.add (v : PppoeServ) (p : Padr) (behind sid : BitVec 16) : PppoeServ :=
  { v with
    conns := v.conns ++ [newConn p sid]
    cookie2conn := v.cookie2conn.insert cookieIdx p.cookie v.conns.length
    macSessid2conn := v.macSessid2conn.insert keyIdx (key64 p.addr behind sid) v.conns.length
    padr := none
    connCnt := v.connCnt + 1 }

/-- `allocate_channel` and the rest of `pppoe_recv_PADR`. -/
def allocateChannel (w : World) (j : Nat) (p : Padr) (behind : BitVec 16) : World :=
  match Sid.allocateChannel w.sids with
  | (sids, none) => w.put j { w.serv j with padr := none } sids w.stats
  | (sids, some sid) => w.put j ((w.serv j).add p behind (BitVec.ofNat 16 sid)) sids w.stats

def pppoeRecvPadt (v : PppoeServ) (f : Frame) : PppoeServ :=
  if hDest f = bcAddr then v
  else
    match v.macSessid2conn.get keyIdx (key64 (hSource f) (hProto f) (frameSid f)) with
    | none => v
    | some i =>
      { v with
        conns := v.conns.modify i fun c => { c with ctx := tritonContextCall c.ctx .disconnect } }

/-! ## Steps -/

/-- What happens next: a server handles a frame or is closed; the daemon asks a context to close; a
connection takes a call, returns from `establish_ppp`, reports the session, registers timers, is
closed, or goes on with `disconnect`. -/
inductive Event
  | padr (j : Nat) (p : Padr)
  | allocated (j : Nat) (behind : BitVec 16)
  | padt (j : Nat) (f : Frame)
  | servClose (j : Nat)
  | needClose (j i : Nat)
  | call (j i : Nat)
  | established (j i : Nat) (r : Option Registered)
  | started (j i : Nat)
  | finished (j i : Nat)
  | register (j i : Nat) (r : Registered)
  | close (j i : Nat) (now : Bool)
  | disconnect (j i : Nat) (behind : BitVec 16) (junk : BitVec 64)

/-- A function of connection `i` of server `j` runs, where `enabled` holds. -/
def World.perform (w : World) (j i : Nat) (enabled : PppoeConn → Bool)
    (f : Stats → PppoeConn → Stats × PppoeConn) : Option World :=
  ((w.conn j i).filter enabled).map fun c =>
    w.put j ((w.serv j).set i (f w.stats c).2) w.sids (f w.stats c).1

def takeCall (st : Stats) (c : PppoeConn) : Stats × PppoeConn :=
  match c.ctx.pendingCalls with
  | [] => (st, c)
  | .connectChannel :: calls =>
    connectChannel st { c with ctx := { c.ctx with pendingCalls := calls } }
  | .disconnect :: calls =>
    (st, { c with ctx := { c.ctx with pendingCalls := calls }, place := .unhash })

/-- One step. A server handles one frame at a time; a context looks at `need_close` when no call is
left, and the session reports only between two calls. -/
def step (w : World) : Event → Option World
  | .padr j p =>
    if (w.serv j).padr.isNone then some (w.put j (pppoeRecvPadr (w.serv j) p) w.sids w.stats)
    else none
  | .allocated j behind => (w.serv j).padr.map fun p => allocateChannel w j p behind
  | .padt j f =>
    if (w.serv j).padr.isNone then some (w.put j (pppoeRecvPadt (w.serv j) f) w.sids w.stats)
    else none
  | .servClose j => some (w.put j { w.serv j with stopping := true } w.sids w.stats)
  | .needClose j i =>
    w.perform j i (fun c => !c.ctx.needFree) fun st c =>
      (st, { c with ctx := { c.ctx with needClose := true } })
  | .call j i => w.perform j i (fun c => c.place = .idle && !c.ctx.pendingCalls.isEmpty) takeCall
  | .established j i r =>
    w.perform j i (fun c => c.place = .connecting) fun st c => established st c r
  | .started j i =>
    w.perform j i (fun c => c.place = .idle && c.ses = .running false) fun st c =>
      pppStarted st { c with ses := .running true }
  | .finished j i =>
    w.perform j i (fun c => c.place = .idle && (c.ses = .running false || c.ses = .running true))
      apSessionFinished
  | .register j i r =>
    w.perform j i (fun c => c.place = .idle && (c.ses = .running false || c.ses = .running true))
      fun st c => (st, { c with ctx := { c.ctx with registered := r } })
  | .close j i now =>
    w.perform j i (fun c => c.place = .idle && c.ctx.needClose && c.ctx.pendingCalls.isEmpty)
      (pppoeConnClose now)
  | .disconnect j i behind junk => (w.conn j i).bind fun c => disconnectStep w j i c behind junk

end Pppoe.Conn
