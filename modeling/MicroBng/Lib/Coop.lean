import Mathlib.Data.List.Nodup

/-!
# Placement of tasks in a cooperative scheduler

Workers take tasks from prioritised ready lists. A task that a worker executes may fall asleep;
it then stays bound to that worker, and a wakeup puts it on the worker's own wakeup lists. A
worker that finds nothing to do parks, and a ready task may be handed to a parked worker directly.

Principal results: `Move`, `Inv`.
-/

namespace Coop

inductive Mode (Task : Type) where
  /-- between two tasks -/
  | idle
  /-- asleep, or on its way into or out of sleep -/
  | parked
  /-- executing a task -/
  | exec (x : Task)
  /-- about to continue a task that slept -/
  | resume (x : Task)
  /-- has given its task up -/
  | leaving

/-- Who has which task, and in which lists the tasks are. -/
structure Placement (Worker Task Prio : Type) where
  mode : Worker → Mode Task
  /-- the task a worker has at hand -/
  hand : Worker → Option Task
  /-- the worker a task is bound to -/
  owner : Task → Option Worker
  /-- the task is linked in some list -/
  linked : Task → Bool
  asleep : Task → Bool
  /-- a wakeup has come that the task has not consumed -/
  woken : Task → Bool
  ready : Prio → List Task
  wake : Worker → Prio → List Task
  parkedList : List Worker

variable {Worker Task Prio : Type}

namespace Placement

/-- Nothing is placed anywhere and every worker is between two tasks. -/
def empty : Placement Worker Task Prio where
  mode := fun _ => .idle
  hand := fun _ => none
  owner := fun _ => none
  linked := fun _ => false
  asleep := fun _ => false
  woken := fun _ => false
  ready := fun _ => []
  wake := fun _ _ => []
  parkedList := []

variable [DecidableEq Worker] [DecidableEq Task] [DecidableEq Prio]
variable (P : Placement Worker Task Prio)

def enqueue (x : Task) (p : Prio) : Placement Worker Task Prio :=
  { P with
    ready := Function.update P.ready p (P.ready p ++ [x])
    linked := Function.update P.linked x true }

def assign (x : Task) (t : Worker) (rest : List Worker) : Placement Worker Task Prio :=
  { P with
    parkedList := rest
    owner := Function.update P.owner x (some t)
    hand := Function.update P.hand t (some x) }

def unlink (x : Task) : Placement Worker Task Prio :=
  { P with
    ready := fun p => (P.ready p).erase x
    wake := fun t p => (P.wake t p).erase x
    linked := Function.update P.linked x false }

def setMode (t : Worker) (m : Mode Task) : Placement Worker Task Prio :=
  { P with mode := Function.update P.mode t m }

def setHand (t : Worker) (h : Option Task) : Placement Worker Task Prio :=
  { P with hand := Function.update P.hand t h }

def setOwner (x : Task) (o : Option Worker) : Placement Worker Task Prio :=
  { P with owner := Function.update P.owner x o }

def setSleep (x : Task) (asleep woken : Bool) : Placement Worker Task Prio :=
  { P with
    asleep := Function.update P.asleep x asleep
    woken := Function.update P.woken x woken }

/-- Append a sleeping task to a wakeup list of its worker. -/
def enqueueWoken (x : Task) (t : Worker) (p : Prio) : Placement Worker Task Prio :=
  { P with
    wake := Function.update P.wake t (Function.update (P.wake t) p (P.wake t p ++ [x]))
    woken := Function.update P.woken x true
    linked := Function.update P.linked x true }

end Placement

open Placement

/-- The transitions of the scheduler. -/
inductive Move [DecidableEq Worker] [DecidableEq Task] [DecidableEq Prio]
    (P : Placement Worker Task Prio) : Placement Worker Task Prio → Prop
  | enqueue {x : Task} (p : Prio)
      (free : P.owner x = none) (unlinked : P.linked x = false) : Move P (P.enqueue x p)
  | assign {x : Task} {t : Worker} {rest : List Worker}
      (free : P.owner x = none) (unlinked : P.linked x = false)
      (first : P.parkedList = t :: rest) : Move P (P.assign x t rest)
  /-- an idle worker takes a ready task -/
  | take {x : Task} {t : Worker} {p : Prio}
      (idle : P.mode t = .idle) (mem : x ∈ P.ready p) :
      Move P ((((P.setHand t (some x)).unlink x).setOwner x (some t)).setMode t (.exec x))
  /-- an idle worker takes a woken task of its own -/
  | takeWoken {x : Task} {t : Worker} {p : Prio}
      (idle : P.mode t = .idle) (mem : x ∈ P.wake t p) :
      Move P (((P.setHand t (some x)).unlink x).setMode t (.resume x))
  /-- the task consumes a wakeup and goes on -/
  | goOn {x : Task} {t : Worker}
      (mine : P.mode t = .exec x ∨ P.mode t = .resume x) (woken : P.woken x) :
      Move P ((P.setSleep x false false).setMode t (.exec x))
  /-- the task falls asleep and its worker is free for another one -/
  | sleep {x : Task} {t : Worker}
      (mine : P.mode t = .exec x) (awake : P.woken x = false) :
      Move P (((P.setSleep x true false).setHand t none).setMode t .idle)
  /-- a wakeup for a task that is not asleep -/
  | wakeEarly {x : Task} (awake : P.asleep x = false) :
      Move P (P.setSleep x false true)
  | wakeAsleep {x : Task} {t : Worker} (p : Prio)
      (asleep : P.asleep x) (first : P.woken x = false) (bound : P.owner x = some t) :
      Move P (P.enqueueWoken x t p)
  /-- an idle worker parks; `listed` says whether it can be found -/
  | park {t : Worker} (listed : Bool) (idle : P.mode t = .idle) :
      Move P ({ P with parkedList := if listed then t :: P.parkedList else P.parkedList }.setMode t
        .parked)
  /-- a parked worker that got nothing goes back to look for tasks -/
  | unpark {t : Worker} (parked : P.mode t = .parked)
      (nothing : P.hand t = none) :
      Move P ({ P with parkedList := P.parkedList.erase t }.setMode t .idle)
  /-- a parked worker starts the task it was handed -/
  | start {t : Worker} {x : Task} (parked : P.mode t = .parked)
      (given : P.hand t = some x) : Move P (P.setMode t (.exec x))
  /-- a worker gives its task up -/
  | finish {t : Worker} {x : Task} (mine : P.mode t = .exec x) :
      Move P ((P.setOwner x none).setMode t .leaving)
  | leave {t : Worker} (leaving : P.mode t = .leaving) :
      Move P ((P.setHand t none).setMode t .idle)

structure Inv (P : Placement Worker Task Prio) : Prop where
  exec : ∀ t x, P.mode t = .exec x → P.hand t = some x ∧ P.owner x = some t ∧ P.asleep x = false
  resume : ∀ t x, P.mode t = .resume x → P.hand t = some x ∧ P.owner x = some t ∧
    P.asleep x ∧ P.woken x
  idle : ∀ t, P.mode t = .idle → P.hand t = none
  /-- a parked worker that has been handed a task owns it, and the task is awake -/
  parked : ∀ t x, P.mode t = .parked → P.hand t = some x → P.owner x = some t ∧ P.asleep x = false
  /-- a leaving worker has a stale pointer only; the tasks bound to it are asleep -/
  leaving : ∀ t x, P.mode t = .leaving → P.owner x = some t → P.asleep x ∧ P.hand t ≠ some x
  listed : ∀ t ∈ P.parkedList, P.mode t = .parked ∧ P.hand t = none
  listed_nodup : P.parkedList.Nodup
  ready : ∀ p, ∀ x ∈ P.ready p, P.owner x = none ∧ P.linked x
  ready_nodup : ∀ p, (P.ready p).Nodup
  ready_unique : ∀ p q x, x ∈ P.ready p → x ∈ P.ready q → p = q
  wake : ∀ t p, ∀ x ∈ P.wake t p, P.owner x = some t ∧ P.asleep x ∧ P.woken x ∧ P.linked x ∧
    P.mode t ≠ .resume x
  wake_nodup : ∀ t p, (P.wake t p).Nodup
  wake_unique : ∀ t p q x, x ∈ P.wake t p → x ∈ P.wake t q → p = q
  linked : ∀ x, P.linked x → (∃ p, x ∈ P.ready p) ∨ ∃ t p, x ∈ P.wake t p
  /-- a task bound to a worker is asleep unless the worker has it at hand -/
  owned : ∀ x t, P.owner x = some t → P.asleep x ∨ P.hand t = some x
  asleep : ∀ x, P.asleep x → P.owner x ≠ none

theorem Inv.empty : Inv (Placement.empty : Placement Worker Task Prio) := by
  constructor <;> simp [Placement.empty]

/-! ## The lists -/

variable {P Q : Placement Worker Task Prio} {t : Worker} {x : Task}

theorem Inv.not_mem_ready (h : Inv P) (hx : P.linked x = false) (p : Prio) : x ∉ P.ready p :=
  fun hm => by simp [(h.ready p x hm).2] at hx

theorem Inv.not_mem_wake (h : Inv P) (hx : P.linked x = false) (t : Worker) (p : Prio) :
    x ∉ P.wake t p :=
  fun hm => by simp [(h.wake t p x hm).2.2.2.1] at hx

variable {p : Prio}

section

variable [DecidableEq Prio] {l : Prio → List Task}

theorem mem_update_append {q : Prio} {y : Task} :
    y ∈ Function.update l p (l p ++ [x]) q ↔ y ∈ l q ∨ (q = p ∧ y = x) := by
  by_cases hq : q = p
  · subst hq; simp
  · simp [hq]

theorem nodup_update_append (h : ∀ q, (l q).Nodup)
    (hx : x ∉ l p) (q : Prio) : (Function.update l p (l p ++ [x]) q).Nodup := by
  grind

theorem unique_update_append
    (h : ∀ q r y, y ∈ l q → y ∈ l r → q = r) (hx : ∀ q, x ∉ l q) (q r : Prio) (y : Task)
    (hq : y ∈ Function.update l p (l p ++ [x]) q) (hr : y ∈ Function.update l p (l p ++ [x]) r) :
    q = r := by
  grind

end

theorem Inv.unlinked_of_asleep (h : Inv P) (ha : P.asleep x) (hw : P.woken x = false) :
    P.linked x = false := by
  by_contra hl
  rcases h.linked x (by simpa using hl) with ⟨p, hp⟩ | ⟨t, p, hp⟩
  · exact h.asleep x ha (h.ready p x hp).1
  · simp [(h.wake t p x hp).2.2.1] at hw

/-! ## Every transition preserves the invariant -/

section

variable [DecidableEq Worker] [DecidableEq Task] (h : Inv P)
include h

omit [DecidableEq Worker] in
theorem Inv.enqueue [DecidableEq Prio] (p : Prio) (free : P.owner x = none)
    (unlinked : P.linked x = false) : Inv (P.enqueue x p) :=
  { h with
    ready := by
      intro q y hy
      by_cases hyx : y = x
      · subst hyx; simp [Placement.enqueue, free]
      · have hy' : y ∈ P.ready q := (mem_update_append.1 hy).resolve_right fun e => hyx e.2
        simpa [Placement.enqueue, hyx] using h.ready q y hy'
    ready_nodup := nodup_update_append h.ready_nodup (h.not_mem_ready unlinked p)
    ready_unique := unique_update_append h.ready_unique (h.not_mem_ready unlinked)
    wake := by
      intro t q y hy
      have hyx : y ≠ x := by rintro rfl; exact h.not_mem_wake unlinked t q hy
      simpa [Placement.enqueue, hyx] using h.wake t q y hy
    linked := by
      intro y hy
      by_cases hyx : y = x
      · exact .inl ⟨p, mem_update_append.2 (.inr ⟨rfl, hyx⟩)⟩
      · rcases h.linked y (by simpa [Placement.enqueue, hyx] using hy) with ⟨q, hq⟩ | hw
        · exact .inl ⟨q, mem_update_append.2 (.inl hq)⟩
        · exact .inr hw }

theorem Inv.enqueueWoken [DecidableEq Prio] (p : Prio) (asleep : P.asleep x)
    (first : P.woken x = false) (bound : P.owner x = some t) : Inv (P.enqueueWoken x t p) :=
  have hl := h.unlinked_of_asleep asleep first
  -- only the lists of `t` change, by one append
  have hwake : ∀ u, (P.enqueueWoken x t p).wake u =
      if u = t then Function.update (P.wake t) p (P.wake t p ++ [x]) else P.wake u := fun u => by
    simp only [Placement.enqueueWoken, Function.update_apply]
  have hmem : ∀ u q y, y ∈ (P.enqueueWoken x t p).wake u q ↔
      y ∈ P.wake u q ∨ (u = t ∧ q = p ∧ y = x) := fun u q y => by
    rw [hwake]
    grind
  -- a worker that was about to resume `x` would have consumed a wakeup
  have hres : ∀ u, P.mode u ≠ .resume x := fun u hu => by simp [(h.resume u x hu).2.2.2] at first
  { h with
    resume := by
      intro u y hu
      have hyx : y ≠ x := by rintro rfl; exact hres u hu
      simpa [Placement.enqueueWoken, hyx] using h.resume u y hu
    ready := by
      intro q y hy
      have hyx : y ≠ x := by rintro rfl; exact h.not_mem_ready hl q hy
      simpa [Placement.enqueueWoken, hyx] using h.ready q y hy
    wake := by
      intro u q y hy
      by_cases hyx : y = x
      · simp_all [h.not_mem_wake, Placement.enqueueWoken]
      · have hy' : y ∈ P.wake u q := ((hmem u q y).1 hy).resolve_right fun e => hyx e.2.2
        simpa [Placement.enqueueWoken, hyx] using h.wake u q y hy'
    wake_nodup := by
      intro u q
      rw [hwake]
      split
      · exact nodup_update_append (h.wake_nodup t) (h.not_mem_wake hl t p) q
      · exact h.wake_nodup u q
    wake_unique := by grind [h.wake_unique, h.not_mem_wake]
    linked := by
      intro y hy
      by_cases hyx : y = x
      · exact .inr ⟨t, p, (hmem t p y).2 (.inr ⟨rfl, rfl, hyx⟩)⟩
      simp_all [h.linked, Placement.enqueueWoken] }

attribute [local grind cases] Inv

theorem Inv.assign {rest : List Worker} (free : P.owner x = none)
    (unlinked : P.linked x = false) (first : P.parkedList = t :: rest) :
    Inv (P.assign x t rest) := by
  have hnodup := h.listed_nodup
  rw [first, List.nodup_cons] at hnodup
  -- nobody has `x`, and `t` is parked with empty hands
  constructor <;> simp only [Placement.assign]
  all_goals grind

theorem Inv.take (idle : P.mode t = .idle) (mem : x ∈ P.ready p) :
    Inv ((((P.setHand t (some x)).unlink x).setOwner x (some t)).setMode t (.exec x)) := by
  obtain ⟨free, -⟩ := h.ready p x mem
  have hawake : P.asleep x = false := by by_contra ha; exact h.asleep x (by simpa using ha) free
  -- `x` leaves its one ready list; it is in no wakeup list, being bound to nobody
  have hnr : ∀ q, x ∉ (P.ready q).erase x := fun q => (h.ready_nodup q).not_mem_erase
  constructor <;> simp only [setHand, unlink, setOwner, setMode]
  all_goals grind

theorem Inv.takeWoken (idle : P.mode t = .idle) (mem : x ∈ P.wake t p) :
    Inv (((P.setHand t (some x)).unlink x).setMode t (.resume x)) := by
  obtain ⟨howner, hasleep, hwoken, -, -⟩ := h.wake t p x mem
  have hnw : ∀ u q, x ∉ (P.wake u q).erase x := fun u q => (h.wake_nodup u q).not_mem_erase
  constructor <;> simp only [setHand, unlink, setMode]
  all_goals grind

theorem Inv.goOn (mine : P.mode t = .exec x ∨ P.mode t = .resume x) :
    Inv ((P.setSleep x false false).setMode t (.exec x)) := by
  -- either way `t` has `x` at hand and owns it, so `x` is in no list
  have hx : P.hand t = some x ∧ P.owner x = some t :=
    mine.elim (fun e => ⟨(h.exec t x e).1, (h.exec t x e).2.1⟩)
      fun e => ⟨(h.resume t x e).1, (h.resume t x e).2.1⟩
  constructor <;> simp only [setSleep, setMode]
  all_goals grind

theorem Inv.sleep (mine : P.mode t = .exec x) :
    Inv (((P.setSleep x true false).setHand t none).setMode t .idle) := by
  obtain ⟨hhand, howner, hawake⟩ := h.exec t x mine
  constructor <;> simp only [setSleep, setHand, setMode]
  all_goals grind

omit [DecidableEq Worker] in
theorem Inv.wakeEarly (awake : P.asleep x = false) : Inv (P.setSleep x false true) := by
  have hsame : Function.update P.asleep x false = P.asleep := by
    rw [← awake, Function.update_eq_self]
  refine { h with exec := ?_, resume := ?_, parked := ?_, leaving := ?_, wake := ?_,
                  owned := ?_, asleep := ?_ } <;> simp only [setSleep, hsame]
  · exact h.exec
  · grind
  · exact h.parked
  · exact h.leaving
  · grind
  · exact h.owned
  · exact h.asleep

theorem Inv.park (listed : Bool) (idle : P.mode t = .idle) :
    Inv ({ P with parkedList := if listed then t :: P.parkedList else P.parkedList }.setMode t
      .parked) := by
  constructor <;> simp only [setMode]
  all_goals grind

theorem Inv.unpark (nothing : P.hand t = none) :
    Inv ({ P with parkedList := P.parkedList.erase t }.setMode t .idle) := by
  have hnl : t ∉ P.parkedList.erase t := h.listed_nodup.not_mem_erase
  constructor <;> simp only [setMode]
  all_goals grind

theorem Inv.start (parked : P.mode t = .parked) (given : P.hand t = some x) :
    Inv (P.setMode t (.exec x)) := by
  constructor <;> simp only [setMode]
  all_goals grind

theorem Inv.finish (mine : P.mode t = .exec x) : Inv ((P.setOwner x none).setMode t .leaving) := by
  obtain ⟨hhand, howner, hawake⟩ := h.exec t x mine
  constructor <;> simp only [setOwner, setMode]
  all_goals grind

theorem Inv.leave (leaving : P.mode t = .leaving) : Inv ((P.setHand t none).setMode t .idle) := by
  -- what `t` still owns is asleep, so it loses nothing
  constructor <;> simp only [setHand, setMode]
  all_goals grind

end

theorem Move.inv [DecidableEq Worker] [DecidableEq Task] [DecidableEq Prio] (m : Move P Q) (h : Inv P) : Inv Q := by
  cases m with
  | enqueue p free unlinked => exact h.enqueue p free unlinked
  | assign free unlinked first => exact h.assign free unlinked first
  | take idle mem => exact h.take idle mem
  | takeWoken idle mem => exact h.takeWoken idle mem
  | goOn mine woken => exact h.goOn mine
  | sleep mine awake => exact h.sleep mine
  | wakeEarly awake => exact h.wakeEarly awake
  | wakeAsleep p asleep first bound => exact h.enqueueWoken p asleep first bound
  | park listed idle => exact h.park listed idle
  | unpark parked nothing => exact h.unpark nothing
  | start parked given => exact h.start parked given
  | finish mine => exact h.finish mine
  | leave leaving => exact h.leave leaving

/-! ## What the invariant says -/

def Placement.Executes (P : Placement Worker Task Prio) (t : Worker) (x : Task) : Prop :=
  P.mode t = .exec x ∨ P.mode t = .resume x

def Placement.Assigned (P : Placement Worker Task Prio) (t : Worker) (x : Task) : Prop :=
  P.owner x = some t ∧ P.hand t = some x

theorem Inv.executes_assigned (h : Inv P) (e : P.Executes t x) : P.Assigned t x :=
  e.elim (fun e => ⟨(h.exec t x e).2.1, (h.exec t x e).1⟩)
    fun e => ⟨(h.resume t x e).2.1, (h.resume t x e).1⟩

theorem Inv.executes_unique (h : Inv P) {u : Worker} (ht : P.Executes t x) (hu : P.Executes u x) :
    t = u :=
  Option.some.inj ((h.executes_assigned ht).1.symm.trans (h.executes_assigned hu).1)

theorem Inv.ready_alone (h : Inv P) (hx : x ∈ P.ready p) (t : Worker) :
    ¬ P.Assigned t x ∧ ∀ q, x ∉ P.wake t q := by
  have hfree := (h.ready p x hx).1
  refine ⟨fun ha => ?_, fun q hq => ?_⟩
  · simp [ha.1] at hfree
  · simp [(h.wake t q x hq).1] at hfree

theorem Inv.wake_alone (h : Inv P) (hx : x ∈ P.wake t p) (u : Worker) :
    ¬ P.Assigned u x ∧ ∀ q, x ∈ P.wake u q → u = t ∧ q = p := by
  obtain ⟨howner, hasleep, -, -, hmode⟩ := h.wake t p x hx
  refine ⟨fun ⟨ho, hh⟩ => ?_, fun q hq => ?_⟩
  · cases hm : P.mode u with
    | idle => simp [h.idle u hm] at hh
    | parked => simp [(h.parked u x hm hh).2] at hasleep
    | exec y =>
      obtain rfl : y = x := by simpa [(h.exec u y hm).1] using hh
      simp [(h.exec u y hm).2.2] at hasleep
    | resume y => simp_all [h.resume]
    | leaving => exact (h.leaving u x hm ho).2 hh
  · obtain rfl : u = t := by simpa [howner, eq_comm] using (h.wake u q x hq).1
    exact ⟨rfl, h.wake_unique u q p x hq hx⟩

end Coop
