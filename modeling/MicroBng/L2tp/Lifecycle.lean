import MicroBng.L2tp.Tunnel

/-!
# L2TP tunnels and sessions: creation, counting and release

All tunnels and sessions of the daemon (`struct l2tp_conn_t` and `struct l2tp_sess_t` of
`ctrl/l2tp/l2tp.c`) with their reference counts, the trees of sessions, the data channels and the
statistics `stat_conn_*` and `stat_sess_*`.

* An object is a number, its address; memory that was handed out stays readable, and `destroyed`
  counts the runs of `__tunnel_destroy` and `__session_destroy` on it.
* `ref_count`, `sess_count` and the statistics are integers: one below zero wraps in the source.
* A tunnel, a data channel and the creator of a tunnel run in threads of their own. `Thread` says
  where the thread of a tunnel is inside `l2tp_conn_read`.
* Message contents and the answers of fallible calls come with the events (`Content`, `Answers`).
  A chain of checks that lead to the same branch is one answer.

Windows, queues and attributes are in the other modules of `L2tp`.
-/

namespace L2tp.Life

/-! ## Memory -/

inductive Stage where
  | starting | active | finishing
  deriving DecidableEq

/-- The states of `sess->state1`. -/
inductive SessState where
  | init | waitIcrp | waitIccn | waitOcrp | waitOccn | estb | close
  deriving DecidableEq

def stageOfConn : TunState → Stage
  | .init | .waitSccrp | .waitScccn => .starting
  | .estb => .active
  | .fin | .finWait | .close => .finishing

def SessState.stage : SessState → Stage
  | .init | .waitIcrp | .waitIccn | .waitOcrp | .waitOccn => .starting
  | .estb => .active
  | .close => .finishing

/-- The three statistics of the tunnels, or those of the sessions. -/
structure Stats where
  starting : Int := 0
  active : Int := 0
  finishing : Int := 0
  deriving DecidableEq

def Stats.get (st : Stats) : Stage → Int
  | .starting => st.starting
  | .active => st.active
  | .finishing => st.finishing

/-- The switch over the state in which an object starts finishing. -/
def Stats.toFinishing (st : Stats) : Stage → Stats
  | .starting => { st with starting := st.starting - 1, finishing := st.finishing + 1 }
  | .active => { st with active := st.active - 1, finishing := st.finishing + 1 }
  | .finishing => st

def Stats.incStarting (st : Stats) : Stats := { st with starting := st.starting + 1 }

def Stats.toActive (st : Stats) : Stats :=
  { st with starting := st.starting - 1, active := st.active + 1 }

def Stats.decFinishing (st : Stats) : Stats := { st with finishing := st.finishing - 1 }

/-- The functions scheduled in the context of a tunnel. -/
inductive ConnCall where
  | start (f : StartFunc)
  | createSession
  | apsesFinished (sid : UInt16)

/-- The functions scheduled in the context of a data channel. -/
inductive ApsesCall where
  | start | stop | destroy

/-- `APSTATE_*`. -/
inductive ApState where
  | init | starting | started | finishing
  deriving DecidableEq

/-- Where the thread of a tunnel is: in `l2tp_conn_read`, or in `l2tp_session_start_data_channel`
before `apses_start` is scheduled. -/
inductive Thread where
  | idle
  | reading
  | connecting (s : Nat)
  deriving DecidableEq

/-- `struct l2tp_conn_t`. `sessions` is the tree, `calls` what is scheduled, `toStart` what
`l2tp_tunnel_start` has yet to schedule. -/
structure Conn where
  allocated : Bool := false
  refCount : Int := 0
  state : TunState := .close
  lnsMode : Bool := false
  sessions : List Nat := []
  sessCount : Int := 0
  ctx : Bool := false
  calls : List ConnCall := []
  toStart : Option StartFunc := none
  thread : Thread := .idle
  destroyed : Nat := 0

/-- `struct l2tp_sess_t`. -/
structure Sess where
  allocated : Bool := false
  parenConn : Nat := 0
  sid : UInt16 := 0
  refCount : Int := 0
  state1 : SessState := .close
  apsesCtx : Bool := false
  apsesCalls : List ApsesCall := []
  apsesState : ApState := .init
  destroyed : Nat := 0

/-- The memory of the daemon: addresses from `nconns` and `nsess` on are not handed out. -/
structure Daemon where
  conn : Nat → Conn := fun _ => {}
  nconns : Nat := 0
  sess : Nat → Sess := fun _ => {}
  nsess : Nat := 0
  statConn : Stats := {}
  statSess : Stats := {}

/-- What a message brings: a mandatory type, the attributes its handler needs, known mandatory ones,
other checks passed. -/
structure Content where
  mandatory : Bool := true
  complete : Bool := true
  known : Bool := true
  verified : Bool := true

/-- The answers of the calls a function depends on; `true` is success. -/
structure Answers where
  /-- no shutdown and no limit is against a new tunnel or session -/
  allowed : Bool := true
  /-- the allocations and sockets of a new tunnel or session -/
  alloc : Bool := true
  /-- the session ID `l2tp_tunnel_new_session` comes to -/
  sid : UInt16 := 1
  /-- the timers and messages of a handler -/
  reply : Bool := true
  /-- the sockets of `l2tp_tunnel_connect` and `l2tp_session_connect` -/
  connect : Bool := true
  /-- the allocations of `l2tp_session_start_data_channel` -/
  channel : Bool := true
  /-- the registration of a context -/
  register : Bool := true
  /-- a call to the context of a tunnel -/
  call : Bool := true
  /-- a call to the context of the data channel of a session -/
  callApses : Nat → Bool := fun _ => true
  stopCCN : Bool := true
  /-- `l2tp_tunnel_push_sendqueue` -/
  push : Bool := true
  /-- the timer of `l2tp_tunnel_finwait` -/
  timer : Bool := true
  establishPpp : Bool := true
  /-- `ap_session_terminate` leads to `ap_session_finished` -/
  finishes : Bool := true
  /-- a handler or a timer is still in the context of the data channel -/
  busy : Bool := false

variable (a : Answers)

def Daemon.modConn (t : Nat) (f : Conn → Conn) (d : Daemon) : Daemon :=
  { d with conn := Function.update d.conn t (f (d.conn t)) }

def Daemon.modSess (s : Nat) (f : Sess → Sess) (d : Daemon) : Daemon :=
  { d with sess := Function.update d.sess s (f (d.sess s)) }

section Projections

variable (d : Daemon) (t s : Nat) (f : Conn → Conn) (g : Sess → Sess)

@[simp] theorem modConn_conn_self : (d.modConn t f).conn t = f (d.conn t) := by
  simp [Daemon.modConn]

@[simp] theorem modConn_sess : (d.modConn t f).sess = d.sess := rfl

@[simp] theorem modSess_sess_self : (d.modSess s g).sess s = g (d.sess s) := by
  simp [Daemon.modSess]

@[simp] theorem modSess_conn : (d.modSess s g).conn = d.conn := rfl

end Projections

/-! ## References -/

def tunnelHold (t : Nat) : Daemon → Daemon :=
  Daemon.modConn t fun c => { c with refCount := c.refCount + 1 }

def tunnelDestroy (t : Nat) (d : Daemon) : Daemon :=
  { d.modConn t (fun c => { c with destroyed := c.destroyed + 1 }) with
    statConn := d.statConn.decFinishing }

def tunnelPut (t : Nat) (d : Daemon) : Daemon :=
  let d := d.modConn t fun c => { c with refCount := c.refCount - 1 }
  if (d.conn t).refCount = 0 then tunnelDestroy t d else d

def sessionHold (s : Nat) : Daemon → Daemon :=
  Daemon.modSess s fun x => { x with refCount := x.refCount + 1 }

def sessionDestroy (s : Nat) (d : Daemon) : Daemon :=
  tunnelPut (d.sess s).parenConn
    { d.modSess s (fun x => { x with destroyed := x.destroyed + 1 }) with
      statSess := d.statSess.decFinishing }

def sessionPut (s : Nat) (d : Daemon) : Daemon :=
  let d := d.modSess s fun x => { x with refCount := x.refCount - 1 }
  if (d.sess s).refCount = 0 then sessionDestroy s d else d

/-! ## Calls between contexts -/

/-- `triton_context_call` with the context of a tunnel. -/
def callTunnel (t : Nat) (call : ConnCall) (ok : Bool) (d : Daemon) : Daemon :=
  if (d.conn t).ctx && ok then d.modConn t fun c => { c with calls := c.calls ++ [call] } else d

/-- `triton_context_call` with the context of a data channel. -/
def callApses (s : Nat) (call : ApsesCall) (ok : Bool) (d : Daemon) : Bool × Daemon :=
  if (d.sess s).apsesCtx && ok then
    (true, d.modSess s fun x => { x with apsesCalls := x.apsesCalls ++ [call] })
  else
    (false, d)

/-- `triton_context_unregister` of a data channel: its calls are dropped; a handler or timer left
keeps it. -/
def unregisterApses (s : Nat) (busy : Bool) (d : Daemon) : Daemon :=
  if (d.sess s).apsesCtx then
    d.modSess s fun x => { x with apsesCalls := [], apsesCtx := busy }
  else
    d

/-! ## Sessions and tunnels come to an end -/

/-- The session becomes `STATE_CLOSE` and its data channel is told to stop. -/
def sessionClose (s : Nat) (d : Daemon) : Daemon :=
  let st := (d.sess s).state1
  let d := { d with statSess := d.statSess.toFinishing st.stage }
  let d := if st = .estb then (callApses s .stop (a.callApses s) d).2 else d
  d.modSess s fun x => { x with state1 := .close }

/-- The tunnel gives up a session: `none` if `tdelete` does not find its ID in the tree. -/
def sessionUnlink (s : Nat) (d : Daemon) : Option Daemon :=
  let p := (d.sess s).parenConn
  let same := fun i => decide ((d.sess i).sid = (d.sess s).sid)
  if (d.conn p).sessions ≠ [] ∧ (d.conn p).sessions.any same = false then
    none
  else
    let d := d.modConn p fun c => { c with sessions := c.sessions.eraseP same }
    let d := sessionPut s d
    some (d.modConn p fun c => { c with sessCount := c.sessCount - 1 })

/-- `l2tp_session_free`; `disconnect` disconnects an established tunnel with its last session. -/
def sessionFreeWith (disconnect : Daemon → Daemon) (a : Answers) (s : Nat) (d : Daemon) : Daemon :=
  if (d.sess s).state1 = .close then
    d
  else
    let p := (d.sess s).parenConn
    let d := sessionClose a s d
    match sessionUnlink s d with
    | none => d
    | some d =>
      let d := if (d.conn p).sessCount = 0 ∧ (d.conn p).state = .estb then disconnect d else d
      sessionPut s d

/-- `l2tp_tunnel_free_sessions`, called outside `STATE_ESTB`: no further disconnection. -/
def tunnelFreeSessions (t : Nat) (d : Daemon) : Daemon :=
  (d.conn t).sessions.foldl (fun d s => sessionFreeWith id a s d)
    (d.modConn t fun c => { c with sessions := [] })

/-- `l2tp_tunnel_free`. Scheduled calls are dropped after the sessions are deleted. -/
def tunnelFree (t : Nat) (d : Daemon) : Daemon :=
  let st := (d.conn t).state
  if st = .close then
    d
  else
    let d := { d with statConn := d.statConn.toFinishing (stageOfConn st) }
    let d := d.modConn t fun c => { c with state := .close, ctx := false, calls := [] }
    let d := tunnelFreeSessions a t d
    tunnelPut t d

/-- `l2tp_tunnel_disconnect`: does the peer get to know? -/
def tunnelDisconnect (t : Nat) (d : Daemon) : Bool × Daemon :=
  let st := (d.conn t).state
  if stageOfConn st = .finishing then
    (true, d)
  else
    let d := { d with statConn := d.statConn.toFinishing (stageOfConn st) }
    let d := d.modConn t fun c => { c with state := .fin }
    if a.stopCCN then (true, tunnelFreeSessions a t d) else (false, tunnelFree a t d)

def tunnelDisconnectPush (t : Nat) (d : Daemon) : Daemon :=
  match tunnelDisconnect a t d with
  | (false, d) => d
  | (true, d) => if a.push then d else tunnelFree a t d

/-- `l2tp_session_free`. `l2tp_session_disconnect` and `l2tp_session_disconnect_push` reach it
whether or not the CDN was sent. -/
def sessionFree (s : Nat) (d : Daemon) : Daemon :=
  sessionFreeWith (tunnelDisconnectPush a (d.sess s).parenConn) a s d

def tunnelFinwait (t : Nat) (d : Daemon) : Daemon :=
  let st := (d.conn t).state
  match st with
  | .init | .finWait | .close => d
  | .waitSccrp | .waitScccn | .estb | .fin =>
    let d := { d with statConn := d.statConn.toFinishing (stageOfConn st) }
    let d := d.modConn t fun c => { c with state := .finWait }
    let d := tunnelFreeSessions a t d
    if a.timer then d else tunnelFree a t d

/-! ## Data channels -/

def apsesDestroy (s : Nat) (d : Daemon) : Daemon := sessionPut s (unregisterApses s a.busy d)

/-- The tunnel of a session is told that the data channel is over. -/
def notifyTunnel (s : Nat) (d : Daemon) : Daemon :=
  callTunnel (d.sess s).parenConn (.apsesFinished (d.sess s).sid) a.call d

def apsesFinished (s : Nat) (d : Daemon) : Daemon :=
  match (d.sess s).apsesState with
  | .init => d
  | .starting | .started | .finishing =>
    let d := d.modSess s fun x => { x with apsesState := .finishing }
    (callApses s .destroy (a.callApses s) (notifyTunnel a s d)).2

def apsesStop (s : Nat) (d : Daemon) : Daemon :=
  match (d.sess s).apsesState with
  | .starting | .started =>
    let d := d.modSess s fun x => { x with apsesState := .finishing }
    let d := if a.finishes then apsesFinished a s d else d
    apsesDestroy a s d
  | .init | .finishing => apsesDestroy a s (notifyTunnel a s d)

def apsesStarted (s : Nat) (d : Daemon) : Daemon :=
  if (d.sess s).apsesState = .starting then
    d.modSess s fun x => { x with apsesState := .started }
  else
    d

def apsesStart (s : Nat) (d : Daemon) : Daemon :=
  if (d.sess s).apsesState ≠ .init then
    d
  else if a.establishPpp then
    d.modSess s fun x => { x with apsesState := .starting }
  else
    apsesStop a s d

/-! ## Tunnels and sessions come up -/

def getSession (t : Nat) (sid : UInt16) (d : Daemon) : Option Nat :=
  (d.conn t).sessions.find? fun i => (d.sess i).sid = sid

/-- `l2tp_tunnel_new_session` and `l2tp_tunnel_alloc_session`. -/
def tunnelAllocSession (t : Nat) (d : Daemon) : Option (Nat × Daemon) :=
  if a.alloc = false ∨ a.sid = 0 ∨ (getSession t a.sid d).isSome then
    none
  else
    let s := d.nsess
    let d := d.modConn t fun c =>
      { c with sessions := s :: c.sessions, sessCount := c.sessCount + 1 }
    let d := d.modSess s fun _ =>
      { allocated := true, parenConn := t, sid := a.sid, state1 := .init }
    let d := sessionHold s d
    let d := tunnelHold t d
    let d := sessionHold s d
    some (s, { d with nsess := s + 1, statSess := d.statSess.incStarting })

def tunnelAlloc (lnsMode : Bool) (d : Daemon) : Daemon :=
  let t := d.nconns
  let d := d.modConn t fun _ => { allocated := true, state := .init, lnsMode := lnsMode }
  let d := tunnelHold t d
  { d with nconns := t + 1, statConn := d.statConn.incStarting }

/-- A tunnel is created, for an SCCRQ or by command, and runs once its context is registered. -/
def createTunnel (lnsMode : Bool) (f : StartFunc) (a : Answers) (d : Daemon) : Daemon :=
  if a.alloc = false then
    d
  else
    let t := d.nconns
    let d := tunnelAlloc lnsMode d
    if a.reply && a.register then
      d.modConn t fun c => { c with ctx := true, toStart := some f }
    else
      tunnelFree a t d

/-- `l2tp_tunnel_start` schedules the start function; on failure the creator frees the tunnel. -/
def tunnelStart (f : StartFunc) (a : Answers) (t : Nat) (d : Daemon) : Daemon :=
  let d := d.modConn t fun c => { c with toStart := none }
  if (d.conn t).ctx && a.call then
    callTunnel t (.start f) true d
  else
    tunnelFree a t (d.modConn t fun c => { c with ctx := false, calls := [] })

/-- The state in which a tunnel awaits the answer to its first message. -/
def waitState : StartFunc → TunState
  | .sendSCCRQ => .waitSccrp
  | .sendSCCRP => .waitScccn

/-- `l2tp_send_SCCRQ` and `l2tp_send_SCCRP`: the state is not looked at. -/
def sendFirst (f : StartFunc) (a : Answers) (t : Nat) (d : Daemon) : Daemon :=
  if a.reply then d.modConn t fun c => { c with state := waitState f } else tunnelFree a t d

def tunnelConnect (t : Nat) (d : Daemon) : Daemon :=
  { d.modConn t (fun c => { c with state := .estb }) with statConn := d.statConn.toActive }

/-- `l2tp_session_start_data_channel`, up to the registration of the context. -/
def sessionStartDataChannel (s : Nat) (d : Daemon) : Bool × Daemon :=
  if a.channel = false then
    (false, d)
  else
    let d := d.modSess s fun x => { x with apsesState := .init }
    let d := sessionHold s d
    if a.register then
      let d := d.modSess s fun x => { x with apsesCtx := true, apsesCalls := [] }
      (true, d.modConn (d.sess s).parenConn fun c => { c with thread := .connecting s })
    else
      (false, sessionPut s d)

def sessionConnect (s : Nat) (d : Daemon) : Bool × Daemon :=
  if a.connect = false then
    (false, d)
  else
    let d := { d with statSess := d.statSess.toActive }
    let d := d.modSess s fun x => { x with state1 := .estb }
    sessionStartDataChannel a s d

/-- The callers of `l2tp_session_connect` delete the session on failure. -/
def connectSession (s : Nat) (d : Daemon) : Daemon :=
  match sessionConnect a s d with
  | (true, d) => d
  | (false, d) => sessionFree a s d

/-- The rest of `l2tp_session_start_data_channel` and of the handler that connects. -/
def scheduleStart (t s : Nat) (d : Daemon) : Daemon :=
  let d := d.modConn t fun c => { c with thread := .reading }
  match callApses s .start (a.callApses s) d with
  | (true, d) => d
  | (false, d) => sessionFree a s (sessionPut s (unregisterApses s false d))

/-! ## Messages -/

/-- `l2tp_recv_SCCRP` (`awaited` is `STATE_WAIT_SCCRP`) and `l2tp_recv_SCCCN`
(`STATE_WAIT_SCCCN`). -/
def recvSCCRPorSCCCN (awaited : TunState) (m : Content) (a : Answers) (t : Nat) (d : Daemon) :
    Daemon :=
  if (d.conn t).state ≠ awaited then
    d
  else if m.complete && m.known && m.verified && a.reply && a.connect then
    tunnelConnect t d
  else
    (tunnelDisconnect a t d).2

def recvStopCCN (t : Nat) (d : Daemon) : Daemon := tunnelFinwait a t d

def recvICRQ (m : Content) (a : Answers) (t : Nat) (d : Daemon) : Daemon :=
  if (d.conn t).state ≠ .estb ∧ (d.conn t).lnsMode = true then
    d
  else if a.allowed && m.complete then
    match tunnelAllocSession a t d with
    | none => d
    | some (s, d) =>
      if m.known && a.reply then
        d.modSess s fun x => { x with state1 := .waitIccn }
      else
        sessionFree a s d
  else
    d

def recvOCRQ (m : Content) (a : Answers) (t : Nat) (d : Daemon) : Daemon :=
  if (d.conn t).state ≠ .estb ∧ (d.conn t).lnsMode = false then
    d
  else if a.allowed && m.complete then
    match tunnelAllocSession a t d with
    | none => d
    | some (s, d) => if m.known && a.reply then connectSession a s d else sessionFree a s d
  else
    d

def recvICRP (m : Content) (a : Answers) (s : Nat) (d : Daemon) : Daemon :=
  if (d.sess s).state1 ≠ .waitIcrp then d
  else if m.complete && m.known && a.reply then connectSession a s d
  else sessionFree a s d

/-- `l2tp_recv_ICCN` (`awaited` is `STATE_WAIT_ICCN`) and `l2tp_recv_OCCN`
(`STATE_WAIT_OCCN`). -/
def recvICCNorOCCN (awaited : SessState) (m : Content) (a : Answers) (s : Nat) (d : Daemon) :
    Daemon :=
  if (d.sess s).state1 ≠ awaited then d
  else if m.known then connectSession a s d
  else sessionFree a s d

def recvOCRP (m : Content) (a : Answers) (s : Nat) (d : Daemon) : Daemon :=
  if (d.sess s).state1 ≠ .waitOcrp then d
  else if m.complete && m.known then d.modSess s fun x => { x with state1 := .waitOccn }
  else sessionFree a s d

def sessionRecv (msg : MsgType) (m : Content) (a : Answers) (s : Nat) (d : Daemon) : Daemon :=
  match msg with
  | .ocrp => recvOCRP m a s d
  | .occn => recvICCNorOCCN .waitOccn m a s d
  | .icrp => recvICRP m a s d
  | .iccn => recvICCNorOCCN .waitIccn m a s d
  | .cdn => sessionFree a s d
  | .other _ => if m.mandatory then sessionFree a s d else d
  | .sccrq | .sccrp | .scccn | .stopCCN | .hello | .ocrq | .icrq | .wen | .sli => d

def tunnelRecv (msg : MsgType) (m : Content) (a : Answers) (t : Nat) (d : Daemon) : Daemon :=
  match msg with
  | .sccrp => recvSCCRPorSCCCN .waitSccrp m a t d
  | .scccn => recvSCCRPorSCCCN .waitScccn m a t d
  | .stopCCN => recvStopCCN a t d
  | .ocrq => recvOCRQ m a t d
  | .icrq => recvICRQ m a t d
  | .other _ => if m.mandatory then (tunnelDisconnect a t d).2 else d
  | .sccrq | .hello | .cdn | .ocrp | .occn | .icrp | .iccn | .wen | .sli => d

/-- One turn of the loop of `l2tp_tunnel_reply`. -/
def reply (sid : UInt16) (msg : MsgType) (m : Content) (a : Answers) (t : Nat) (d : Daemon) :
    Daemon :=
  if stageOfConn (d.conn t).state = .finishing then
    d
  else if sid = 0 then
    tunnelRecv msg m a t d
  else
    match getSession t sid d with
    | none => d
    | some s => sessionRecv msg m a s d

/-! ## Calls in the context of a tunnel -/

/-- `l2tp_tunnel_create_session` with `l2tp_session_place_call`. -/
def tunnelCreateSession (t : Nat) (d : Daemon) : Daemon :=
  if (d.conn t).state ≠ .estb then
    d
  else
    match tunnelAllocSession a t d with
    | none => d
    | some (s, d) =>
      if a.reply then
        d.modSess s fun x =>
          { x with state1 := if (d.conn t).lnsMode then .waitOcrp else .waitIcrp }
      else
        sessionFree a s d

def sessionApsesFinished (sid : UInt16) (a : Answers) (t : Nat) (d : Daemon) : Daemon :=
  match getSession t sid d with
  | none => d
  | some s => if (d.sess s).state1 = .estb then sessionFree a s d else d

def runConnCall (t : Nat) (d : Daemon) : ConnCall → Daemon
  | .start f => sendFirst f a t d
  | .createSession => tunnelCreateSession a t d
  | .apsesFinished sid => sessionApsesFinished sid a t d

def runApsesCall (s : Nat) (d : Daemon) : ApsesCall → Daemon
  | .start => apsesStart a s d
  | .stop => apsesStop a s d
  | .destroy => apsesDestroy a s d

/-! ## Runs -/

/-- What timers and the closing of the context lead to: a disconnection (`l2tp_tunnel_timeout`,
`l2tp_conn_close`) or deletion. -/
inductive Ending where
  | disconnect | delete

inductive Event where
  | recvSCCRQ (a : Answers)
  /-- `l2tp_create_tunnel_exec` -/
  | createTunnel (lnsMode : Bool) (a : Answers)
  /-- the creator of a tunnel schedules its start function -/
  | start (t : Nat) (a : Answers)
  /-- `l2tp_create_session_exec` -/
  | createSession (t : Nat) (a : Answers)
  /-- the context of a tunnel runs its first scheduled function -/
  | call (t : Nat) (a : Answers)
  | ending (t : Nat) (how : Ending) (a : Answers)
  | sessionTimeout (t s : Nat) (a : Answers)
  /-- `l2tp_conn_read` begins -/
  | read (t : Nat)
  /-- a message is taken from the reception queue -/
  | message (t : Nat) (sid : UInt16) (msg : MsgType) (m : Content) (a : Answers)
  /-- the start of a data channel is scheduled -/
  | schedule (t : Nat) (a : Answers)
  /-- `l2tp_conn_read` returns; it deletes the tunnel after an error and when the peer has
  acknowledged the StopCCN -/
  | readDone (t : Nat) (delete : Bool) (a : Answers)
  /-- the context of a data channel runs its first scheduled function -/
  | apsesCall (s : Nat) (a : Answers)
  /-- `apses_ctx_stop` -/
  | apsesClose (s : Nat) (a : Answers)
  /-- PPP has started -/
  | apsesStarted (s : Nat)
  /-- PPP is over -/
  | apsesFinished (s : Nat) (a : Answers)

def Conn.ready (c : Conn) : Bool := c.ctx && c.thread == .idle

def runEnding (t : Nat) (d : Daemon) : Ending → Daemon
  | .disconnect => tunnelDisconnectPush a t d
  | .delete => tunnelFree a t d

/-- The return of `l2tp_conn_read`. -/
def connReadDone (delete : Bool) (a : Answers) (t : Nat) (d : Daemon) : Daemon :=
  let d := d.modConn t fun c => { c with thread := .idle }
  tunnelPut t (if delete then tunnelFree a t d else d)

def step (d : Daemon) : Event → Option Daemon
  | .recvSCCRQ a => if a.allowed then some (createTunnel true .sendSCCRP a d) else some d
  | .createTunnel lnsMode a => some (createTunnel lnsMode .sendSCCRQ a d)
  | .start t a => (d.conn t).toStart.map fun f => tunnelStart f a t d
  | .createSession t a =>
    if (d.conn t).state ≠ .close then some (callTunnel t .createSession a.call d) else none
  | .call t a =>
    match (d.conn t).ready, (d.conn t).calls with
    | true, call :: rest =>
      some (runConnCall a t (d.modConn t fun c => { c with calls := rest }) call)
    | _, _ => none
  | .ending t how a => if (d.conn t).ready then some (runEnding a t d how) else none
  | .sessionTimeout t s a =>
    -- `l2tp_session_free` deletes the timer
    if (d.conn t).ready = true ∧ s ∈ (d.conn t).sessions then some (sessionFree a s d) else none
  | .read t =>
    if (d.conn t).ready then
      some (tunnelHold t (d.modConn t fun c => { c with thread := .reading }))
    else none
  | .message t sid msg m a =>
    if (d.conn t).thread = .reading then some (reply sid msg m a t d) else none
  | .schedule t a =>
    match (d.conn t).thread with
    | .connecting s => some (scheduleStart a t s d)
    | .idle | .reading => none
  | .readDone t delete a =>
    if (d.conn t).thread = .reading then some (connReadDone delete a t d) else none
  | .apsesCall s a =>
    match (d.sess s).apsesCtx, (d.sess s).apsesCalls with
    | true, call :: rest =>
      some (runApsesCall a s (d.modSess s fun x => { x with apsesCalls := rest }) call)
    | _, _ => none
  | .apsesClose s a =>
    -- a context closes when nothing is scheduled in it any more
    if (d.sess s).apsesCtx = true ∧ (d.sess s).apsesCalls = [] then some (apsesStop a s d) else none
  | .apsesStarted s => if (d.sess s).apsesCtx then some (apsesStarted s d) else none
  | .apsesFinished s a => if (d.sess s).apsesCtx then some (apsesFinished a s d) else none

end L2tp.Life
