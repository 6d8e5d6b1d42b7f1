import Mathlib.Data.Fintype.Card
import MicroBng.Lib.Machine

/-!
# The triton event loop

The scheduler of `triton.c` (with the queueing parts of `md.c` and `timer.c`): worker threads
take contexts from priority queues and run their pending timers, descriptor handlers and calls;
a handler may put its context to sleep, and another thread may wake it up.

Every section that the code protects by a lock is one atomic step. What lies between two
sections of a worker is its program counter `Pc`; user code (a timer's `expire`, a handler, a
call, `close`) runs while the worker is at `Pc.user` and ends at any time.

* `workerStep` — the next section of a worker (`triton_thread`, `ctx_thread`);
* `step` — the system: workers, user code and every other thread calling into triton.

The history of a context's calls (`made`, `executed`, `cancelled`) is ghost: no step reads it
except to number a new call.
-/

namespace Triton

/-- An index below `CTX_PRIO_MAX`. -/
abbrev Prio := Fin 4

/-- `struct _triton_ctx_call_t`. The serial number names the object. -/
structure Call (F A : Type) where
  serial : Nat
  func : F
  arg : A

/-- The user code a worker runs on behalf of a context. -/
inductive Frame (F A : Type) where
  | timer (t : Nat)
  | handler (h : Nat)
  | call (k : Call F A)
  | close

/-- `struct _triton_context_t`. -/
structure Ctx (Tid F A : Type) where
  /-- the object has been allocated by `triton_context_register` -/
  alloc : Bool := false
  /-- it is on `ctx_list` and its `ud->tpd` points to it -/
  registered : Bool := false
  thread : Option Tid := none
  /-- `entry2.next` is not NULL: the context is linked in some list -/
  entry2 : Bool := false
  handlers : List Nat := []
  timers : List Nat := []
  pendingHandlers : List Nat := []
  pendingTimers : List Nat := []
  pendingCalls : List (Call F A) := []
  init : Bool := false
  queued : Bool := false
  wakeup : Bool := false
  asleep : Bool := false
  needClose : Bool := false
  needFree : Bool := false
  pending : Bool := false
  priority : Prio := 1
  /-- the saved stack of a sleeping context: the user code it continues -/
  uc : Option (Frame F A) := none
  /-- ghost: every call ever made on the context, in the order of the calls -/
  made : List (Call F A) := []
  /-- ghost: the calls a worker has taken out to execute, in that order -/
  executed : List (Call F A) := []
  /-- ghost: the serial numbers of the calls removed by `triton_cancel_call` -/
  cancelled : List Nat := []
  /-- ghost: `triton_context_unregister` has been called -/
  unregisterCalled : Bool := false

/-- Where a worker stands between two locked sections. -/
inductive Pc (Cid F A : Type) where
  /-- head of the outer loop of `triton_thread` -/
  | top
  /-- inside `__config_reload` -/
  | reload
  /-- declared sleeping, before the check of `terminate` -/
  | slept
  | sigwait
  /-- a signal was taken, before the section that follows `sigwait` -/
  | woken
  /-- a sleeping context was taken from the wakeup list, before it continues -/
  | resume (x : Cid)
  /-- in `ctx_thread`, before the next piece of work is taken -/
  | fetch (x : Cid)
  | user (x : Cid) (f : Frame F A)
  /-- in `ctx_thread`, after the loop, before the test of `need_close` -/
  | closeCheck (x : Cid)
  /-- `ud->close` has returned -/
  | closed (x : Cid)
  /-- `ctx_thread` has returned -/
  | finish (x : Cid)
  /-- the context was given up, `thread->ctx` still points to it -/
  | release
  | exited

/-- `struct _triton_thread_t`. -/
structure Thread (Cid F A : Type) where
  ctx : Option Cid := none
  wakeupList : Prio → List Cid := fun _ => []
  /-- SIGUSR1 is pending -/
  sig : Bool := false
  pc : Pc Cid F A := .top

structure State (Tid Cid F A : Type) where
  threads : Tid → Thread Cid F A
  ctxs : Cid → Ctx Tid F A
  ctxQueue : Prio → List Cid
  sleepThreads : List Tid
  needConfigReload : Bool
  terminate : Bool
  needTerminate : Bool
  contextCount : Int
  threadActive : Int
  /-- threads that some caller is about to signal -/
  kills : Tid → Nat
  /-- contexts whose thread some caller is about to signal -/
  killsVia : Cid → Nat
  /-- other threads inside `__config_reload` -/
  reloaders : Nat

variable {Tid Cid F A : Type}

/-- Before the first step: no contexts, workers about to enter the loop. -/
def State.initial [Fintype Tid] : State Tid Cid F A where
  threads := fun _ => {}
  ctxs := fun _ => {}
  ctxQueue := fun _ => []
  sleepThreads := []
  needConfigReload := false
  terminate := false
  needTerminate := false
  contextCount := 0
  threadActive := Fintype.card Tid
  kills := fun _ => 0
  killsVia := fun _ => 0
  reloaders := 0

/-! ## Updates -/

variable [DecidableEq Cid]

def State.modCtx (s : State Tid Cid F A) (x : Cid) (f : Ctx Tid F A → Ctx Tid F A) :
    State Tid Cid F A :=
  { s with ctxs := Function.update s.ctxs x (f (s.ctxs x)) }

variable (s : State Tid Cid F A)

@[simp] theorem State.modCtx_ctxs_self (x : Cid)
    (f : Ctx Tid F A → Ctx Tid F A) : (s.modCtx x f).ctxs x = f (s.ctxs x) := by
  simp [State.modCtx]

theorem State.modCtx_ctxs_ne {x y : Cid} (h : y ≠ x)
    (f : Ctx Tid F A → Ctx Tid F A) : (s.modCtx x f).ctxs y = s.ctxs y := by
  simp [State.modCtx, h]

@[simp] theorem State.modCtx_threads (x : Cid)
    (f : Ctx Tid F A → Ctx Tid F A) : (s.modCtx x f).threads = s.threads := rfl

@[simp] theorem State.modCtx_sleepThreads (x : Cid)
    (f : Ctx Tid F A → Ctx Tid F A) : (s.modCtx x f).sleepThreads = s.sleepThreads := rfl

@[simp] theorem State.modCtx_needConfigReload (x : Cid)
    (f : Ctx Tid F A → Ctx Tid F A) : (s.modCtx x f).needConfigReload = s.needConfigReload := rfl

variable [DecidableEq Tid]

def State.modThread (s : State Tid Cid F A) (t : Tid) (f : Thread Cid F A → Thread Cid F A) :
    State Tid Cid F A :=
  { s with threads := Function.update s.threads t (f (s.threads t)) }

def State.setPc (s : State Tid Cid F A) (t : Tid) (pc : Pc Cid F A) : State Tid Cid F A :=
  s.modThread t fun th => { th with pc := pc }

omit [DecidableEq Cid] in
@[simp] theorem State.modThread_ctxs (t : Tid)
    (f : Thread Cid F A → Thread Cid F A) : (s.modThread t f).ctxs = s.ctxs := rfl

/-- A caller decides to signal the thread; the signal itself is sent outside the locks. -/
def State.addKill (s : State Tid Cid F A) (t : Tid) : State Tid Cid F A :=
  { s with kills := Function.update s.kills t (s.kills t + 1) }

/-- `list_del(&ctx->entry2)`. -/
def State.listDel (s : State Tid Cid F A) (x : Cid) : State Tid Cid F A :=
  { s with
    ctxQueue := fun p => (s.ctxQueue p).erase x
    threads := fun t =>
      { s.threads t with wakeupList := fun p => ((s.threads t).wakeupList p).erase x }
    ctxs := Function.update s.ctxs x { s.ctxs x with entry2 := false } }

/-- `triton_thread_wakeup` on every thread of `threads`. -/
def State.wakeAll (s : State Tid Cid F A) : State Tid Cid F A :=
  { s with threads := fun t => { s.threads t with sig := true } }

/-! ## The sections -/

/-- `triton_queue_ctx`, no thread sleeps: the context goes to its ready queue's tail. -/
def State.enqueue (s : State Tid Cid F A) (x : Cid) : State Tid Cid F A :=
  let p := (s.ctxs x).priority
  ({ s with ctxQueue := Function.update s.ctxQueue p (s.ctxQueue p ++ [x]) }).modCtx x
    fun c => { c with entry2 := true, queued := true }

/-- `triton_context_wakeup`: the context goes to the wakeup list of its thread. -/
def State.enqueueWoken (s : State Tid Cid F A) (x : Cid) (t : Tid) : State Tid Cid F A :=
  let p := (s.ctxs x).priority
  (s.modThread t fun th =>
    { th with wakeupList := Function.update th.wakeupList p (th.wakeupList p ++ [x]) }).modCtx x
    fun c => { c with entry2 := true }

/-- `triton_queue_ctx`, thread `t` is the first that sleeps: it gets the context. -/
def State.assign (s : State Tid Cid F A) (x : Cid) (t : Tid) (rest : List Tid) :
    State Tid Cid F A :=
  (({ s with sleepThreads := rest }).modCtx x fun c => { c with thread := some t }).modThread t
    fun th => { th with ctx := some x }

/-- `triton_queue_ctx`: mark the context pending, and unless a thread or list has it queue it or
assign it to a sleeping thread (returns 1). -/
def tritonQueueCtx (s : State Tid Cid F A) (x : Cid) : State Tid Cid F A × Bool :=
  let s := s.modCtx x fun c => { c with pending := true }
  let c := s.ctxs x
  if c.thread.isSome || c.entry2 || c.needFree || c.init then (s, false)
  else if s.needConfigReload then (s.enqueue x, false)
  else
    match s.sleepThreads with
    | [] => (s.enqueue x, false)
    | t :: rest => (s.assign x t rest, true)

/-- The tail of a caller of `triton_queue_ctx` that reads `ctx->thread` under the lock. -/
def queueAndWake (s : State Tid Cid F A) (x : Cid) : State Tid Cid F A :=
  match tritonQueueCtx s x with
  | (s', true) =>
    match (s'.ctxs x).thread with
    | some t => s'.addKill t
    | none => s'
  | (s', false) => s'

/-- The tail of a caller that reads `ctx->thread` without the lock. -/
def queueAndWakeVia (s : State Tid Cid F A) (x : Cid) : State Tid Cid F A :=
  match tritonQueueCtx s x with
  | (s', true) => { s' with killsVia := Function.update s'.killsVia x (s'.killsVia x + 1) }
  | (s', false) => s'

/-- `check_ctx_queue_empty`: the first context by priority, the thread's wakeup list first. -/
def checkCtxQueueEmpty (s : State Tid Cid F A) (t : Tid) : Option Cid :=
  (List.finRange 4).findSome? fun p =>
    match (s.threads t).wakeupList p with
    | x :: _ => some x
    | [] => (s.ctxQueue p).head?

/-- The locked section of the loop of `ctx_thread`: next timer, handler or call. -/
def ctxThreadFetch (c : Ctx Tid F A) : Ctx Tid F A × Option (Frame F A) :=
  match c.pendingTimers, c.pendingHandlers, c.pendingCalls with
  | t :: ts, _, _ => ({ c with pendingTimers := ts }, some (.timer t))
  | [], h :: hs, _ => ({ c with pendingHandlers := hs }, some (.handler h))
  | [], [], k :: ks =>
    ({ c with pendingCalls := ks, executed := c.executed ++ [k] }, some (.call k))
  | [], [], [] => ({ c with pending := false }, none)

/-- The locked section of `triton_context_schedule`: go on after a wakeup, else sleep. -/
def scheduleSection (s : State Tid Cid F A) (t : Tid) (x : Cid) (f : Frame F A) :
    State Tid Cid F A :=
  let c := s.ctxs x
  if c.wakeup then
    (s.modCtx x fun c => { c with asleep := false, wakeup := false, uc := none }).setPc t (.user x f)
  else
    let s := s.modCtx x fun c => { c with asleep := true, uc := some f }
    let s := match c.thread with
      | some t' => s.modThread t' fun th => { th with ctx := none }
      | none => s
    s.setPc t .top

/-- The next section of worker `t`; `none` in user code, waiting for a signal, or exited. -/
def workerStep (s : State Tid Cid F A) (t : Tid) : Option (State Tid Cid F A) :=
  match (s.threads t).pc with
  | .top =>
    match (if s.needConfigReload then none else checkCtxQueueEmpty s t) with
    | some x =>
      let s := s.modThread t fun th => { th with ctx := some x }
      if (s.ctxs x).asleep && (s.ctxs x).wakeup then
        some ((s.listDel x).setPc t (.resume x))
      else
        some (((s.listDel x).modCtx x fun c => { c with thread := some t, queued := false }).setPc t
          (.fetch x))
    | none =>
      let s := if s.terminate then s else { s with sleepThreads := t :: s.sleepThreads }
      let s := { s with threadActive := s.threadActive - 1 }
      some (s.setPc t (if s.threadActive = 0 ∧ s.needConfigReload then .reload else .slept))
  | .reload => some ((({ s with needConfigReload := false }).wakeAll).setPc t .slept)
  | .slept => some (s.setPc t (if s.terminate then .exited else .sigwait))
  | .sigwait =>
    if (s.threads t).sig then
      some (s.modThread t fun th => { th with sig := false, pc := .woken })
    else none
  | .woken =>
    let s := { s with threadActive := s.threadActive + 1 }
    match (s.threads t).ctx with
    | none => some (({ s with sleepThreads := s.sleepThreads.erase t }).setPc t .top)
    | some x => some (s.setPc t (.fetch x))
  | .resume x =>
    match (s.ctxs x).uc with
    | some f => some (scheduleSection s t x f)
    | none => none
  | .fetch x =>
    match ctxThreadFetch (s.ctxs x) with
    | (c, some f) => some ((s.modCtx x fun _ => c).setPc t (.user x f))
    | (c, none) => some ((s.modCtx x fun _ => c).setPc t (.closeCheck x))
  | .user _ _ => none
  | .closeCheck x =>
    if (s.ctxs x).needClose && !(s.ctxs x).needFree then some (s.setPc t (.user x .close))
    else some (s.setPc t (.finish x))
  | .closed x => some ((s.modCtx x fun c => { c with needClose := false }).setPc t (.finish x))
  | .finish _ =>
    match (s.threads t).ctx with
    | none => none
    | some x =>
      if !(s.ctxs x).pending || (s.ctxs x).needFree then
        some ((s.modCtx x fun c => { c with thread := none }).setPc t .release)
      else some (s.setPc t (.fetch x))
  | .release => some (s.modThread t fun th => { th with ctx := none, pc := .top })
  | .exited => none

/-! ## The system -/

/-- What can happen next; all but the first three are done by any thread. -/
inductive Act (Tid Cid F A : Type) where
  /-- the next section of a worker -/
  | worker (t : Tid)
  /-- the user code a worker runs returns -/
  | userReturn (t : Tid)
  /-- the user code a worker runs calls `triton_context_schedule`; the stack copy may fail -/
  | schedule (t : Tid) (allocOk : Bool)
  | register (x : Cid)
  | unregister (x : Cid)
  | setPriority (x : Cid) (prio : Prio)
  | call (x : Cid) (func : F) (arg : A)
  | cancelCall (x : Cid) (func : F)
  /-- `triton_context_wakeup` that has read `init` as set -/
  | wakeupInit (x : Cid)
  /-- `triton_context_wakeup` that has read `init` as cleared -/
  | wakeupRun (x : Cid)
  | timerAdd (x : Cid) (t : Nat)
  | timerDel (x : Cid) (t : Nat)
  /-- `timer_thread` reports an expiry -/
  | timerFire (x : Cid) (t : Nat)
  | mdRegister (x : Cid) (h : Nat)
  | mdUnregister (x : Cid) (h : Nat)
  /-- `md_thread` reports an event -/
  | mdFire (x : Cid) (h : Nat)
  /-- a decided `triton_thread_wakeup` is carried out -/
  | kill (t : Tid)
  | killVia (x : Cid)
  | terminate
  /-- the loop body of `triton_terminate` for one context -/
  | terminateCtx (x : Cid)
  /-- `triton_context_unregister` wakes the threads of a terminating daemon -/
  | wakeAll
  | confReload
  | confReloadDone

def tritonContextRegister (s : State Tid Cid F A) (x : Cid) : State Tid Cid F A :=
  { s with
    ctxs := Function.update s.ctxs x { alloc := true, registered := true, init := true }
    contextCount := s.contextCount + 1 }

/-- `triton_context_unregister`: the pending calls go first, whatever the checks then say. -/
def tritonContextUnregister (s : State Tid Cid F A) (x : Cid) : State Tid Cid F A :=
  let s := s.modCtx x fun c => { c with pendingCalls := [], unregisterCalled := true }
  let c := s.ctxs x
  if c.handlers ≠ [] ∨ c.pendingHandlers ≠ [] ∨ c.timers ≠ [] ∨ c.pendingTimers ≠ [] then s
  else
    let s := s.modCtx x fun c => { c with needFree := true, registered := false }
    let s := { s with contextCount := s.contextCount - 1 }
    if s.contextCount = 1 ∧ s.needTerminate then { s with terminate := true } else s

/-- The locked section of `triton_context_call`. -/
def tritonContextCall (s : State Tid Cid F A) (x : Cid) (func : F) (arg : A) : State Tid Cid F A :=
  let k : Call F A := ⟨(s.ctxs x).made.length, func, arg⟩
  queueAndWake (s.modCtx x fun c =>
    { c with pendingCalls := c.pendingCalls ++ [k], made := c.made ++ [k] }) x

variable [DecidableEq F]

/-- The locked section of `triton_cancel_call`. -/
def tritonCancelCall (s : State Tid Cid F A) (x : Cid) (func : F) : State Tid Cid F A :=
  s.modCtx x fun c =>
    { c with
      pendingCalls := c.pendingCalls.filter fun k => k.func ≠ func
      cancelled := c.cancelled ++ (c.pendingCalls.filter fun k => k.func = func).map Call.serial }

/-- `triton_context_wakeup` of a context that was never started. -/
def tritonContextWakeupInit (s : State Tid Cid F A) (x : Cid) : State Tid Cid F A :=
  let s := s.modCtx x fun c => { c with init := false }
  if (s.ctxs x).pending then queueAndWake s x else s

/-- `triton_context_wakeup` of a started context. -/
def tritonContextWakeupRun (s : State Tid Cid F A) (x : Cid) : State Tid Cid F A :=
  let c := s.ctxs x
  if c.wakeup then s
  else
    let s := s.modCtx x fun c => { c with wakeup := true }
    match c.asleep, c.thread with
    | true, some t =>
      let s := s.enqueueWoken x t
      if (s.threads t).ctx = none then s.addKill t else s
    | _, _ => s

/-- One step of the system; `none` if the event cannot happen. -/
def step (s : State Tid Cid F A) : Act Tid Cid F A → Option (State Tid Cid F A)
  | .worker t => workerStep s t
  | .userReturn t =>
    match (s.threads t).pc with
    | .user x .close => some (s.setPc t (.closed x))
    | .user x _ => some (s.setPc t (.fetch x))
    | _ => none
  | .schedule t allocOk =>
    match (s.threads t).pc with
    | .user x f =>
      if !(s.ctxs x).registered || (s.ctxs x).thread = none || !allocOk then some s
      else some (scheduleSection s t x f)
    | _ => none
  | .register x => if (s.ctxs x).alloc then none else some (tritonContextRegister s x)
  | .unregister x => if (s.ctxs x).registered then some (tritonContextUnregister s x) else none
  | .setPriority x prio =>
    if (s.ctxs x).registered then some (s.modCtx x fun c => { c with priority := prio }) else none
  | .call x func arg =>
    if (s.ctxs x).alloc then some (tritonContextCall s x func arg) else none
  | .cancelCall x func => if (s.ctxs x).alloc then some (tritonCancelCall s x func) else none
  | .wakeupInit x => if (s.ctxs x).alloc then some (tritonContextWakeupInit s x) else none
  | .wakeupRun x =>
    if (s.ctxs x).alloc && !(s.ctxs x).init then some (tritonContextWakeupRun s x) else none
  | .timerAdd x t =>
    if (s.ctxs x).alloc && t ∉ (s.ctxs x).timers then
      some (s.modCtx x fun c => { c with timers := c.timers ++ [t] })
    else none
  | .timerDel x t =>
    if t ∈ (s.ctxs x).timers then
      some (s.modCtx x fun c =>
        { c with timers := c.timers.erase t, pendingTimers := c.pendingTimers.erase t })
    else none
  | .timerFire x t =>
    if t ∈ (s.ctxs x).timers then
      if t ∈ (s.ctxs x).pendingTimers then some s
      else some (queueAndWakeVia
        (s.modCtx x fun c => { c with pendingTimers := c.pendingTimers ++ [t] }) x)
    else none
  | .mdRegister x h =>
    if (s.ctxs x).alloc && h ∉ (s.ctxs x).handlers then
      some (s.modCtx x fun c => { c with handlers := c.handlers ++ [h] })
    else none
  | .mdUnregister x h =>
    if h ∈ (s.ctxs x).handlers then
      some (s.modCtx x fun c =>
        { c with handlers := c.handlers.erase h, pendingHandlers := c.pendingHandlers.erase h })
    else none
  | .mdFire x h =>
    if h ∈ (s.ctxs x).handlers then
      if h ∈ (s.ctxs x).pendingHandlers then some s
      else some (queueAndWakeVia
        (s.modCtx x fun c => { c with pendingHandlers := c.pendingHandlers ++ [h] }) x)
    else none
  | .kill t =>
    if s.kills t = 0 then none
    else some (({ s with kills := Function.update s.kills t (s.kills t - 1) }).modThread t
      fun th => { th with sig := true })
  | .killVia x =>
    if s.killsVia x = 0 then none
    else
      let s := { s with killsVia := Function.update s.killsVia x (s.killsVia x - 1) }
      match (s.ctxs x).thread with
      | some t => some (s.modThread t fun th => { th with sig := true })
      | none => some s
  | .terminate => some { s with needTerminate := true }
  | .terminateCtx x =>
    if s.needTerminate && (s.ctxs x).registered then
      some (queueAndWake (s.modCtx x fun c => { c with needClose := true }) x)
    else none
  | .wakeAll => if s.terminate then some s.wakeAll else none
  | .confReload =>
    some { s with needConfigReload := true, reloaders := s.reloaders +
      if s.threadActive = 0 then 1 else 0 }
  | .confReloadDone =>
    if s.reloaders = 0 then none
    else some ({ s with needConfigReload := false, reloaders := s.reloaders - 1 }).wakeAll

end Triton
