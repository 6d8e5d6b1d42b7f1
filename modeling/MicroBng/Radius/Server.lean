import MicroBng.Lib.Machine

/-!
# The requests at a RADIUS server

`radius/serv.c` lets at most `req_limit` requests be on their way to a server. A request that
finds no room waits in one of two queues, by priority. One that leaves wakes the next, with a
call of `req_wakeup` in the context of the session it belongs to.

* What a function does while it holds `serv->lock` is one step, with what it does before and
  after to the request's own fields: between two such sections only the context of the request
  touches them. `Pc` says where in a function that context is.
* `req_wakeup` and `rad_server_fail` read the clock before they take the lock, so what they
  compare with `fail_time` may be old.
* The callback `send` is always set; what it returns comes with the event. Calls that wait in a
  context may run in any order.
* `load_config` drains the queues of a removed server without the lock. Here it is one step.
* The numbers of clients, the statistics and the log are left out.
-/

namespace Radius.Server

open Machine

variable {R C : Type*}

/-! ## State -/

/-- `req->prio`, 0 or 1. -/
inductive Prio
  | high | low
  deriving DecidableEq

inductive Func
  | reqWakeup | reqWakeupFailed
  deriving DecidableEq

/-- A call that waits in a context; `none` is the default context. -/
structure Call (R C : Type*) where
  ctx : Option C
  func : Func
  req : R
  deriving DecidableEq

/-- Where the context of a request is: in `rad_server_req_enter` before the lock, in its callback or
before `rad_server_fail`, in `req_wakeup` with the time read, or in none. -/
inductive Pc
  | idle | entering (prio : Prio) | sending | failing | waking (ts : Nat)
  deriving DecidableEq

/-- A request in a queue, and how many had been queued before it. -/
structure Waiter (R : Type*) where
  req : R
  prio : Prio
  stamp : Nat

def Waiter.Before (w w' : Waiter R) : Prop :=
  w.prio = .high ∧ w'.prio = .low ∨ w.prio = w'.prio ∧ w.stamp < w'.stamp

/-- A request that was woken, and those that were left waiting. -/
structure Served (R : Type*) where
  chosen : Waiter R
  left : List (Waiter R)

/-- `struct rad_server_t`, its requests' fields and the waiting calls. `stamp`, `stamps` and
`served` record the order of service, `owed` marks a request out of a queue without its callback. -/
structure Serv (R C : Type*) where
  reqLimit : Int
  reqCnt : Int
  queueCnt : Int
  queue : Prio → List R
  failTime : Nat
  failTimeout : Nat
  needFree : Bool
  ctx : R → Option C
  active : R → Bool
  pc : R → Pc
  calls : List (Call R C)
  now : Nat
  crashed : Bool
  stamp : R → Nat
  stamps : Nat
  served : List (Served R)
  owed : R → Bool

/-- A server after `__add_server`. -/
def Serv.init (reqLimit : Int) (failTimeout : Nat) (ctx : R → Option C) : Serv R C where
  reqLimit := reqLimit
  reqCnt := 0
  queueCnt := 0
  queue _ := []
  failTime := 0
  failTimeout := failTimeout
  needFree := false
  ctx := ctx
  active _ := false
  pc _ := .idle
  calls := []
  now := 0
  crashed := false
  stamp _ := 0
  stamps := 0
  served := []
  owed _ := false

/-- All requests in the queues, in the order of `rad_server_fail`. -/
def Serv.queued (s : Serv R C) : List R := s.queue .high ++ s.queue .low

def Serv.waiters (s : Serv R C) : List (Waiter R) :=
  ((s.queue .high).map fun r => ⟨r, .high, s.stamp r⟩) ++
    (s.queue .low).map fun r => ⟨r, .low, s.stamp r⟩

def Serv.next (s : Serv R C) : Option (Prio × R) :=
  match s.queue .high, s.queue .low with
  | r :: _, _ => some (.high, r)
  | [], r :: _ => some (.low, r)
  | [], [] => none

variable [DecidableEq R]

def Serv.setPc (s : Serv R C) (r : R) (pc : Pc) : Serv R C :=
  { s with pc := Function.update s.pc r pc }

/-! ## The functions -/

/-- The head of queue `p` is taken out. -/
def Serv.pop (s : Serv R C) (p : Prio) : Serv R C :=
  { s with
    queue := Function.update s.queue p (s.queue p).tail
    queueCnt := s.queueCnt - 1 }

/-- `r`, which has been taken out of queue `p`, gets a slot and is called. -/
def Serv.wake (s : Serv R C) (p : Prio) (r : R) : Serv R C :=
  { s with
    reqCnt := s.reqCnt + 1
    active := Function.update s.active r true
    calls := s.calls ++ [⟨s.ctx r, .reqWakeup, r⟩]
    served := s.served ++ [⟨⟨r, p, s.stamp r⟩, s.waiters⟩]
    owed := Function.update s.owed r true }

/-- The end of `rad_server_req_exit`. -/
def wakeNext (s : Serv R C) : Serv R C :=
  if s.reqCnt < s.reqLimit then
    match s.next with
    | some (p, r) => (s.pop p).wake p r
    | none => s
  else s

def Serv.release (s : Serv R C) (r : R) : Serv R C :=
  { s with
    active := Function.update s.active r false
    reqCnt := if 0 < s.reqCnt then s.reqCnt - 1 else 0 }

def radServerReqExit (r : R) (s : Serv R C) : Serv R C :=
  if s.reqLimit = 0 then s
  else if s.active r = false then s
  else wakeNext (s.release r)

def Serv.drop (s : Serv R C) (r : R) : Serv R C :=
  { s with
    active := Function.update s.active r false
    reqCnt := s.reqCnt - 1 }

/-- The two loops of `rad_server_fail`. -/
def Serv.failQueued (s : Serv R C) : Serv R C :=
  { s with
    queue := fun _ => []
    queueCnt := 0
    calls := s.calls ++ s.queued.map fun r => ⟨s.ctx r, .reqWakeupFailed, r⟩
    owed := fun r => s.owed r || decide (r ∈ s.queued) }

/-- `rad_server_fail`, with the time it has read. -/
def radServerFail (ts : Nat) (s : Serv R C) : Serv R C :=
  { s.failQueued with
    failTime := if s.failTime ≤ ts then ts + s.failTimeout else s.failTime }

/-- `rad_server_req_enter` up to the lock. -/
def reqEnterCheck (r : R) (prio : Prio) (s : Serv R C) : Serv R C :=
  if s.needFree then s
  else if s.now < s.failTime then s
  else if s.reqLimit = 0 then s
  else if s.active r = true ∨ r ∈ s.queued then s
  else s.setPc r (.entering prio)

def Serv.push (s : Serv R C) (p : Prio) (r : R) : Serv R C :=
  { s with
    queue := Function.update s.queue p (s.queue p ++ [r])
    queueCnt := s.queueCnt + 1
    stamp := Function.update s.stamp r s.stamps
    stamps := s.stamps + 1 }

def Serv.take (s : Serv R C) (r : R) : Serv R C :=
  { s with
    reqCnt := s.reqCnt + 1
    active := Function.update s.active r true }

/-- `rad_server_req_enter` with the lock. -/
def reqEnterLocked (r : R) (prio : Prio) (s : Serv R C) : Serv R C :=
  if s.now < s.failTime then s.setPc r .idle
  else if s.reqLimit ≤ s.reqCnt then (s.push prio r).setPc r .idle
  else (s.take r).setPc r .sending

/-- The callback's result: 0, -2 for a socket that cannot be made, or another error. -/
inductive Sent
  | ok | noSocket | error

/-- `rad_server_req_enter` after the callback. -/
def reqEnterSent (r : R) (res : Sent) (s : Serv R C) : Serv R C :=
  match res with
  | .ok => s.setPc r .idle
  | .noSocket => (s.drop r).setPc r .failing
  | .error => (radServerReqExit r s).setPc r .idle

def Serv.send (s : Serv R C) (r : R) : Serv R C :=
  { s with owed := Function.update s.owed r false }

/-- `req_wakeup` up to the lock, or `req_wakeup_failed`. -/
def runCall [DecidableEq C] (c : Call R C) (s : Serv R C) : Serv R C :=
  let s : Serv R C := { s with calls := s.calls.erase c }
  match c.func with
  | .reqWakeup => if s.active c.req = false then s else s.setPc c.req (.waking s.now)
  | .reqWakeupFailed => s.send c.req

section RunCall

variable [DecidableEq C] {c : Call R C} {s : Serv R C}

theorem runCall_inactive (hf : c.func = .reqWakeup) (ha : s.active c.req = false) :
    runCall c s = { s with calls := s.calls.erase c } := by
  simp [runCall, hf, ha]

theorem runCall_active (hf : c.func = .reqWakeup) (ha : s.active c.req = true) :
    runCall c s = { s.setPc c.req (.waking s.now) with calls := s.calls.erase c } := by
  simp [runCall, hf, ha, Serv.setPc]

theorem runCall_failed (hf : c.func = .reqWakeupFailed) :
    runCall c s = { s.send c.req with calls := s.calls.erase c } := by
  simp [runCall, hf, Serv.send]

end RunCall

/-- The rest of `req_wakeup`. -/
def reqWakeupLocked (r : R) (ts : Nat) (s : Serv R C) : Serv R C :=
  if ts < s.failTime ∨ s.needFree = true then ((s.drop r).send r).setPc r .idle
  else (s.send r).setPc r .idle

def Serv.unqueue (s : Serv R C) (r : R) : Serv R C :=
  if r ∈ s.queued then
    { s with
      queue := fun p => (s.queue p).erase r
      queueCnt := s.queueCnt - 1 }
  else s

/-- `rad_server_req_cancel` up to `full`. `triton_cancel_call` takes out all `req_wakeup` calls. -/
def radServerReqCancel [DecidableEq C] (r : R) (s : Serv R C) : Serv R C :=
  let s := s.unqueue r
  { s with
    calls := s.calls.filter fun c => ¬ (c.ctx = s.ctx r ∧ c.func = .reqWakeup)
    owed := Function.update s.owed r false }

/-- The loops of `load_config` over a removed server's queues. They read `r->rpd->ses`, which a
deferred request does not have. -/
def Serv.drain (s : Serv R C) : Serv R C :=
  { s with
    queue := fun _ => []
    calls := s.calls ++ s.queued.map fun r => ⟨s.ctx r, .reqWakeup, r⟩
    owed := fun r => s.owed r || decide (r ∈ s.queued)
    crashed := s.crashed || s.queued.any fun r => s.ctx r = none }

/-! ## Events -/

/-- What requests do. After `cancel` with `full` set an active one's owner goes on with `exit`. -/
inductive Work (R C : Type*)
  | tick
  | check (r : R) (prio : Prio)
  | enter (r : R)
  | sent (r : R) (res : Sent)
  | failed (r : R) (ts : Nat)
  | fail (ts : Nat)
  | call (c : Call R C)
  | wakeup (r : R)
  | exit (r : R)
  | cancel (r : R)
  /-- `rad_acct_stop_defer`: the request is no longer the session's. -/
  | defer (r : R)

/-- What `load_config` does: it marks every server, unmarks those configured again, and removes the
others. -/
inductive Reload
  | mark | keep (reqLimit : Int) (failTimeout : Nat) | remove

inductive Event (R C : Type*)
  | work (w : Work R C)
  | reload (x : Reload)

variable [DecidableEq C]

def workStep (s : Serv R C) : Work R C → Option (Serv R C)
  | .tick => some { s with now := s.now + 1 }
  | .check r prio => if s.pc r = .idle then some (reqEnterCheck r prio s) else none
  | .enter r =>
    match s.pc r with
    | .entering prio => some (reqEnterLocked r prio s)
    | _ => none
  | .sent r res => if s.pc r = .sending then some (reqEnterSent r res s) else none
  | .failed r ts =>
    if s.pc r = .failing ∧ ts ≤ s.now then some ((radServerFail ts s).setPc r .idle) else none
  | .fail ts => if ts ≤ s.now then some (radServerFail ts s) else none
  | .call c => if c ∈ s.calls ∧ s.pc c.req = .idle then some (runCall c s) else none
  | .wakeup r =>
    match s.pc r with
    | .waking ts => some (reqWakeupLocked r ts s)
    | _ => none
  | .exit r => if s.pc r = .idle then some (radServerReqExit r s) else none
  | .cancel r => if s.pc r = .idle then some (radServerReqCancel r s) else none
  | .defer r =>
    if s.pc r = .idle ∧ s.active r = false ∧ r ∉ s.queued then
      some { s with ctx := Function.update s.ctx r none }
    else none

theorem of_enter {s s' : Serv R C} {r : R} (h : workStep s (.enter r) = some s') :
    ∃ prio, s.pc r = .entering prio ∧ s' = reqEnterLocked r prio s := by
  grind [workStep]

theorem of_wakeup {s s' : Serv R C} {r : R} (h : workStep s (.wakeup r) = some s') :
    ∃ ts, s.pc r = .waking ts ∧ s' = reqWakeupLocked r ts s := by
  grind [workStep]

/-- A step of `load_config`. -/
def reloadStep (s : Serv R C) : Reload → Option (Serv R C)
  | .mark => some { s with needFree := true }
  | .keep reqLimit failTimeout =>
    some { s with needFree := false, reqLimit := reqLimit, failTimeout := failTimeout }
  | .remove => if s.needFree = true then some s.drain else none

def step (s : Serv R C) : Event R C → Option (Serv R C)
  | .work w => workStep s w
  | .reload x => reloadStep s x

end Radius.Server
