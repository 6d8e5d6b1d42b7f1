import MicroBng.Lib.Coop
import MicroBng.Triton.Scheduler

/-!
# Where a context can be

The scheduler of `triton.c` is an instance of the cooperative scheduler of `Coop`: `place s` reads
the placement off a state.

* `Refines`: every section of the code leaves it alone or is one of the transitions `Coop.Move`
-/

namespace Triton

open Coop (Placement Move)

variable {Tid Cid F A : Type}
variable {s s' : State Tid Cid F A} {t : Tid} {x : Cid}

/-! ## The placement of a state -/

def Pc.mode : Pc Cid F A → Coop.Mode Cid
  | .top => .idle
  | .reload | .slept | .sigwait | .woken | .exited => .parked
  | .resume x => .resume x
  | .fetch x | .user x _ | .closeCheck x | .closed x | .finish x => .exec x
  | .release => .leaving

def place (s : State Tid Cid F A) : Placement Tid Cid Prio where
  mode := fun t => (s.threads t).pc.mode
  hand := fun t => (s.threads t).ctx
  owner := fun x => (s.ctxs x).thread
  linked := fun x => (s.ctxs x).entry2
  asleep := fun x => (s.ctxs x).asleep
  woken := fun x => (s.ctxs x).wakeup
  ready := s.ctxQueue
  wake := fun t => (s.threads t).wakeupList
  parkedList := s.sleepThreads

theorem checkCtxQueueEmpty_some (h : checkCtxQueueEmpty s t = some x) :
    ∃ p, x ∈ (s.threads t).wakeupList p ∨ x ∈ s.ctxQueue p := by
  obtain ⟨p, -, hp⟩ := List.exists_of_findSome?_eq_some h
  grind [List.mem_of_head?]

theorem proj_update {ι α β : Type} [DecidableEq ι] (π : α → β) (f : ι → α) (i : ι) (v : α) :
    (fun j => π (Function.update f i v j)) = Function.update (fun j => π (f j)) i (π v) :=
  funext fun j => by
    by_cases hj : j = i
    · subst hj; simp
    · simp [hj]

variable [DecidableEq Cid] {f : Ctx Tid F A → Ctx Tid F A}

theorem place_modCtx (s : State Tid Cid F A) (x : Cid) (f : Ctx Tid F A → Ctx Tid F A) :
    place (s.modCtx x f) = { place s with
      owner := Function.update (place s).owner x (f (s.ctxs x)).thread
      linked := Function.update (place s).linked x (f (s.ctxs x)).entry2
      asleep := Function.update (place s).asleep x (f (s.ctxs x)).asleep
      woken := Function.update (place s).woken x (f (s.ctxs x)).wakeup } := by
  simp only [place, State.modCtx, proj_update]

theorem place_modCtx_same
    (hf : ((f (s.ctxs x)).thread, (f (s.ctxs x)).entry2, (f (s.ctxs x)).asleep,
      (f (s.ctxs x)).wakeup) =
      ((s.ctxs x).thread, (s.ctxs x).entry2, (s.ctxs x).asleep, (s.ctxs x).wakeup)) :
    place (s.modCtx x f) = place s := by
  grind [place_modCtx, place, Function.update_eq_self]

theorem place_listDel (s : State Tid Cid F A) (x : Cid) :
    place (s.listDel x) = (place s).unlink x := by
  simp [place, State.listDel, Placement.unlink, proj_update]

variable [DecidableEq Tid]

omit [DecidableEq Cid] in
theorem place_modThread (s : State Tid Cid F A) (t : Tid)
    (f : Thread Cid F A → Thread Cid F A) :
    place (s.modThread t f) = { place s with
      mode := Function.update (place s).mode t (f (s.threads t)).pc.mode
      hand := Function.update (place s).hand t (f (s.threads t)).ctx
      wake := Function.update (place s).wake t (f (s.threads t)).wakeupList } := by
  simp only [place, State.modThread, proj_update, proj_update fun th : Thread Cid F A => th.pc.mode]

omit [DecidableEq Cid] in
theorem place_setPc (s : State Tid Cid F A) (t : Tid) (pc : Pc Cid F A) :
    place (s.setPc t pc) = (place s).setMode t pc.mode := by
  rw [State.setPc, place_modThread]
  simp [place, Placement.setMode]

omit [DecidableEq Cid] in
theorem place_setPc_same {pc : Pc Cid F A} (hpc : pc.mode = (s.threads t).pc.mode) :
    place (s.setPc t pc) = place s := by
  rw [place_setPc, hpc]
  simp [place, Placement.setMode]

/-! ## The sections of other threads -/

def Refines (P Q : Placement Tid Cid Prio) : Prop := Q = P ∨ Move P Q

theorem Refines.inv {P Q : Placement Tid Cid Prio} (r : Refines P Q) (h : Coop.Inv P) :
    Coop.Inv Q := by
  rcases r with rfl | m
  · exact h
  · exact m.inv h

omit [DecidableEq Tid] in
theorem place_enqueue (s : State Tid Cid F A) (x : Cid) :
    place (s.enqueue x) = (place s).enqueue x (s.ctxs x).priority := by
  rw [State.enqueue, place_modCtx]
  simp [place, Placement.enqueue]

theorem place_assign (s : State Tid Cid F A) (x : Cid) (t : Tid) (rest : List Tid) :
    place (s.assign x t rest) = (place s).assign x t rest := by
  rw [State.assign, place_modThread, place_modCtx]
  simp [place, Placement.assign]

theorem tritonQueueCtx_cases (s : State Tid Cid F A) (x : Cid) :
    ∃ s1, s1 = s.modCtx x (fun c => { c with pending := true }) ∧
    ((((s.ctxs x).thread.isSome ∨ (s.ctxs x).entry2 ∨ (s.ctxs x).needFree ∨ (s.ctxs x).init) ∧
        tritonQueueCtx s x = (s1, false)) ∨
     ((s.ctxs x).thread = none ∧ (s.ctxs x).entry2 = false ∧ (s.ctxs x).needFree = false ∧
        (s.ctxs x).init = false ∧
        (((s.needConfigReload ∨ s.sleepThreads = []) ∧ tritonQueueCtx s x = (s1.enqueue x, false)) ∨
         ∃ t rest, s.needConfigReload = false ∧ s.sleepThreads = t :: rest ∧
           tritonQueueCtx s x = (s1.assign x t rest, true)))) := by
  refine ⟨_, rfl, ?_⟩
  by_cases hbusy : (s.ctxs x).thread.isSome ∨ (s.ctxs x).entry2 ∨ (s.ctxs x).needFree ∨
      (s.ctxs x).init
  · exact .inl ⟨hbusy, by simp [tritonQueueCtx, or_assoc, hbusy]⟩
  · simp only [not_or, Bool.not_eq_true, Option.isSome_eq_false_iff,
      Option.isNone_iff_eq_none] at hbusy
    obtain ⟨h1, h2, h3, h4⟩ := hbusy
    refine .inr ⟨h1, h2, h3, h4, ?_⟩
    by_cases hr : s.needConfigReload
    · exact .inl ⟨.inl hr, by simp [tritonQueueCtx, h1, h2, h3, h4, hr]⟩
    · cases hs : s.sleepThreads with
      | nil => exact .inl ⟨.inr rfl, by simp [tritonQueueCtx, h1, h2, h3, h4, hs]⟩
      | cons t rest => simp_all [tritonQueueCtx]

theorem refines_tritonQueueCtx (s : State Tid Cid F A) (x : Cid) :
    Refines (place s) (place (tritonQueueCtx s x).1) := by
  obtain ⟨s1, rfl, h⟩ := tritonQueueCtx_cases s x
  have hp : place (s.modCtx x fun c => { c with pending := true }) = place s := place_modCtx_same rfl
  rcases h with ⟨-, h⟩ | ⟨hfree, hlink, -, -, ⟨-, h⟩ | ⟨t, rest, -, hs, h⟩⟩
  · exact .inl (by rw [h, hp])
  · rw [h, place_enqueue, hp]
    exact .inr (.enqueue _ hfree hlink)
  · rw [h, place_assign, hp]
    exact .inr (.assign hfree hlink hs)

theorem place_queueAndWake (s : State Tid Cid F A) (x : Cid) :
    place (queueAndWake s x) = place (tritonQueueCtx s x).1 := by
  unfold queueAndWake
  split
  · rename_i h; rw [h]; split <;> rfl
  · rename_i h; rw [h]

theorem place_queueAndWakeVia (s : State Tid Cid F A) (x : Cid) :
    place (queueAndWakeVia s x) = place (tritonQueueCtx s x).1 := by
  unfold queueAndWakeVia
  split
  · rename_i h; rw [h]; rfl
  · rename_i h; rw [h]

theorem refines_queueAndWake
    (hf : place (s.modCtx x f) = place s) :
    Refines (place s) (place (queueAndWake (s.modCtx x f) x)) := by
  rw [place_queueAndWake, ← hf]
  exact refines_tritonQueueCtx _ x

theorem refines_queueAndWakeVia
    (hf : place (s.modCtx x f) = place s) :
    Refines (place s) (place (queueAndWakeVia (s.modCtx x f) x)) := by
  rw [place_queueAndWakeVia, ← hf]
  exact refines_tritonQueueCtx _ x

theorem place_enqueueWoken (s : State Tid Cid F A) (x : Cid) (t : Tid) :
    place ((s.modCtx x fun c => { c with wakeup := true }).enqueueWoken x t) =
      (place s).enqueueWoken x t (s.ctxs x).priority := by
  rw [State.enqueueWoken, place_modCtx, place_modThread, place_modCtx]
  simp [place, Placement.enqueueWoken]

theorem refines_wakeupRun (h : Coop.Inv (place s)) (x : Cid) :
    Refines (place s) (place (tritonContextWakeupRun s x)) := by
  unfold tritonContextWakeupRun
  by_cases hw : (s.ctxs x).wakeup
  · exact .inl (by simp [hw])
  have hw' : (s.ctxs x).wakeup = false := by simpa using hw
  rw [if_neg hw]
  cases ha : (s.ctxs x).asleep with
  | false =>
    -- the context is awake: only the flag is set
    refine .inr ?_
    have hsame : place (s.modCtx x fun c => { c with wakeup := true }) =
        (place s).setSleep x false true := by
      rw [place_modCtx, ← ha]
      simp [place, Placement.setSleep]
    simp only [hsame]
    exact .wakeEarly ha
  | true =>
    cases ht : (s.ctxs x).thread with
    | none => exact absurd ht (h.asleep x ha)
    | some t =>
      refine .inr ?_
      have hmove : Move (place s) (place ((s.modCtx x fun c => { c with wakeup := true
          }).enqueueWoken x t)) := by
        rw [place_enqueueWoken]
        exact .wakeAsleep _ ha hw' ht
      simp only
      split <;> exact hmove

/-! ## The sections of the workers -/

theorem refines_scheduleSection (h : Coop.Inv (place s)) (f : Frame F A)
    (hm : (place s).Executes t x) : Refines (place s) (place (scheduleSection s t x f)) := by
  unfold scheduleSection
  by_cases hw : (s.ctxs x).wakeup
  · refine .inr ?_
    rw [if_pos hw, place_setPc, place_modCtx]
    simpa [place, Placement.setSleep, Pc.mode] using
      Move.goOn (P := place s) hm hw
  · rw [if_neg hw]
    have hexec : (place s).mode t = .exec x := hm.resolve_right fun e => hw (h.resume t x e).2.2.2
    have howner : (s.ctxs x).thread = some t := (h.exec t x hexec).2.1
    have hw' : (s.ctxs x).wakeup = false := by simpa using hw
    refine .inr ?_
    simp only [howner]
    rw [place_setPc, place_modThread, place_modCtx]
    simpa [place, Placement.setSleep,
      Placement.setHand, Pc.mode, hw'] using Move.sleep (P := place s) hexec hw'

end Triton
