import MicroBng.Triton.Placement
import Mathlib.Data.List.Range

/-!
# The calls of a context

`Books c` accounts for the calls of one context: what was made and not cancelled is what was taken
out for execution followed by what is still pending. `Ctx.Ok` adds what ties the pending flag to
the queues and to the place of the context.

* `step_safe`: every step keeps both, and its placement is a transition of `Coop` or the same
* `scheduler_safe`: a context is run by one worker at a time, none is lost, and its calls are
  executed in order
-/

namespace Triton

open Coop (Placement Move)

variable {Tid Cid F A : Type}
variable {s s' : State Tid Cid F A} {t : Tid} {x : Cid} {c : Ctx Tid F A}

/-! ## One context -/

/-- The calls made on the context that have not been cancelled. -/
def Ctx.standing (c : Ctx Tid F A) : List (Call F A) :=
  c.made.filter fun k => k.serial ∉ c.cancelled

structure Books (c : Ctx Tid F A) : Prop where
  saved : c.asleep → c.uc.isSome
  serials : c.made.map Call.serial = List.range c.made.length
  cancelled_lt : ∀ n ∈ c.cancelled, n < c.made.length
  pending_made : ∀ k ∈ c.pendingCalls, k ∈ c.made
  account : c.unregisterCalled = false → c.standing = c.executed ++ c.pendingCalls

structure Ctx.Ok (c : Ctx Tid F A) : Prop extends Books c where
  blank : c.alloc = false → c = {}
  /-- without the pending flag there is nothing to do -/
  quiet : c.pending = false → c.pendingTimers = [] ∧ c.pendingHandlers = [] ∧ c.pendingCalls = []
  /-- a started context with something to do is in some place -/
  placed : c.init = false → c.needFree = false → c.pending → c.thread.isSome ∨ c.entry2

theorem Ctx.Ok.empty : ({} : Ctx Tid F A).Ok := by
  constructor
  · constructor <;> simp [Ctx.standing]
  all_goals simp

theorem Books.made_nodup (h : Books c) : (c.made.map Call.serial).Nodup := by
  rw [h.serials]; exact List.nodup_range

theorem Books.standing_nodup (h : Books c) : (c.standing.map Call.serial).Nodup :=
  h.made_nodup.sublist (List.filter_sublist.map _)

theorem Books.call (h : Books c) (func : F) (arg : A) :
    Books { c with
      pendingCalls := c.pendingCalls ++ [⟨c.made.length, func, arg⟩]
      made := c.made ++ [⟨c.made.length, func, arg⟩] } := by
  have hnew : c.made.length ∉ c.cancelled := fun hm => (h.cancelled_lt _ hm).false
  refine ⟨h.saved, ?_, fun n hn => ?_, fun k hk => ?_, fun hu => ?_⟩
  · simp [h.serials, List.range_succ]
  · have := h.cancelled_lt n hn
    grind
  · grind [h.pending_made]
  · have ha : c.made.filter (fun k => k.serial ∉ c.cancelled) = _ := h.account hu
    rw [Ctx.standing, List.filter_append, ha]
    simp [hnew]

theorem filter_cancelled [DecidableEq F] {l e p : List (Call F A)} (func : F) (hl : l = e ++ p)
    (hn : (l.map Call.serial).Nodup) :
    l.filter (fun k => k.serial ∉ (p.filter fun k => k.func = func).map Call.serial) =
      e ++ p.filter fun k => k.func ≠ func := by
  subst hl
  rw [List.map_append, List.nodup_append'] at hn
  obtain ⟨-, hp, hdisj⟩ := hn
  rw [List.filter_append]
  congr 1
  · refine List.filter_eq_self.2 fun k hk => ?_
    simp only [List.mem_map, List.mem_filter, decide_eq_true_eq, not_exists, not_and, and_imp]
    exact fun j hj _ e => hdisj (List.mem_map_of_mem hk) (e ▸ List.mem_map_of_mem hj)
  · refine List.filter_congr fun k hk => ?_
    grind [List.inj_on_of_nodup_map]

theorem Books.cancel [DecidableEq F] (h : Books c) (func : F) :
    Books { c with
      pendingCalls := c.pendingCalls.filter fun k => k.func ≠ func
      cancelled := c.cancelled ++
        (c.pendingCalls.filter fun k => k.func = func).map Call.serial } := by
  refine ⟨h.saved, h.serials, fun n hn => ?_, fun k hk => ?_, fun hu => ?_⟩
  · rcases List.mem_append.1 hn with hn | hn
    · exact h.cancelled_lt n hn
    · obtain ⟨k, hk, rfl⟩ := List.mem_map.1 hn
      have hm := List.mem_map_of_mem (f := Call.serial) (h.pending_made k (List.mem_filter.1 hk).1)
      simpa [h.serials] using hm
  · exact h.pending_made k (List.mem_filter.1 hk).1
  · rw [← filter_cancelled func (h.account hu) h.standing_nodup, Ctx.standing, Ctx.standing]
    simp [Bool.and_comm]

theorem Books.fetch (h : Books c) : Books (ctxThreadFetch c).1 := by
  unfold ctxThreadFetch
  split
  · exact { h with }
  · exact { h with }
  · rename_i k ks hk
    refine ⟨h.saved, h.serials, h.cancelled_lt,
      fun j hj => h.pending_made j (hk ▸ List.mem_cons_of_mem _ hj),
      fun hu => ?_⟩
    have ha : c.standing = c.executed ++ c.pendingCalls := h.account hu
    rw [hk] at ha
    simpa [Ctx.standing] using ha
  · exact { h with }

theorem Ctx.Ok.of_same {c' : Ctx Tid F A} (h : c.Ok) (halloc : c'.alloc)
    (hu : c'.asleep → c'.uc.isSome) (hm : c'.made = c.made) (he : c'.executed = c.executed)
    (hc : c'.cancelled = c.cancelled) (hr : c'.unregisterCalled = c.unregisterCalled)
    (hp : c'.pendingCalls = c.pendingCalls)
    (hq : c'.pending = false → c'.pendingTimers = [] ∧ c'.pendingHandlers = [] ∧ c'.pendingCalls = [])
    (hl : c'.init = false → c'.needFree = false → c'.pending → c'.thread.isSome ∨ c'.entry2) :
    c'.Ok where
  saved := hu
  serials := by rw [hm]; exact h.serials
  cancelled_lt := by rw [hm, hc]; exact h.cancelled_lt
  pending_made := by rw [hm, hp]; exact h.pending_made
  account := by rw [Ctx.standing, hm, hc, hr, he, hp]; exact h.account
  blank := by simp [halloc]
  quiet := hq
  placed := hl

theorem Ctx.Ok.alloc_of (h : c.Ok) (hne : c ≠ {}) : c.alloc := by
  by_contra ha
  exact hne (h.blank (by simpa using ha))

theorem Ctx.Ok.alloc_of_thread (h : c.Ok) (ht : c.thread = some t) : c.alloc :=
  h.alloc_of fun e => by simp [e] at ht

theorem Ctx.Ok.alloc_of_registered (h : c.Ok) (hr : c.registered) : c.alloc :=
  h.alloc_of fun e => by simp [e] at hr

theorem Ctx.Ok.fetch (h : c.Ok) (halloc : c.alloc) : (ctxThreadFetch c).1.Ok := by
  have hb := h.toBooks.fetch
  refine { hb with blank := ?_, quiet := ?_, placed := ?_ }
  · unfold ctxThreadFetch; split <;> simp [halloc]
  · grind [ctxThreadFetch, h.quiet]
  · unfold ctxThreadFetch
    split
    · exact h.placed
    · exact h.placed
    · exact h.placed
    · simp

/-! ## The sections -/

def AllOk (s : State Tid Cid F A) : Prop := ∀ x, (s.ctxs x).Ok

theorem AllOk.congr (h : AllOk s) (e : s'.ctxs = s.ctxs) : AllOk s' := fun x => by
  rw [e]; exact h x

variable [DecidableEq Cid] {f : Ctx Tid F A → Ctx Tid F A}

theorem AllOk.modCtx (h : AllOk s) (hf : (f (s.ctxs x)).Ok) :
    AllOk (s.modCtx x f) := fun y => by
  by_cases hy : y = x
  · subst hy; simpa using hf
  · rw [s.modCtx_ctxs_ne hy]; exact h y

variable [DecidableEq Tid]

theorem tritonQueueCtx_ctxs (s : State Tid Cid F A) (x : Cid) :
    ∃ th en q, (tritonQueueCtx s x).1.ctxs = Function.update s.ctxs x { s.ctxs x with
        pending := true, thread := th, entry2 := en, queued := q } ∧
      ((s.ctxs x).init = false → (s.ctxs x).needFree = false → th.isSome ∨ en) := by
  obtain ⟨s1, rfl, ⟨hbusy, e⟩ | ⟨-, -, -, -, ⟨-, e⟩ | ⟨t, rest, -, -, e⟩⟩⟩ :=
    tritonQueueCtx_cases s x
  · refine ⟨_, _, _, by rw [e]; rfl, fun hi hf => ?_⟩
    simpa [hi, hf] using hbusy
  · exact ⟨(s.ctxs x).thread, true, true, by rw [e]; simp [State.enqueue, State.modCtx], by simp⟩
  · exact ⟨some t, (s.ctxs x).entry2, (s.ctxs x).queued,
      by rw [e]; simp [State.assign, State.modCtx], by simp⟩

theorem AllOk.tritonQueueCtx (h : ∀ y, y ≠ x → (s.ctxs y).Ok) (hx : Books (s.ctxs x))
    (halloc : (s.ctxs x).alloc) : AllOk (tritonQueueCtx s x).1 := by
  obtain ⟨th, en, q, e, hplaced⟩ := tritonQueueCtx_ctxs s x
  intro y
  rw [e]
  by_cases hy : y = x
  · subst hy
    rw [Function.update_self]
    exact { hx with
      blank := by simp [halloc]
      quiet := by simp
      placed := fun hi hf _ => hplaced hi hf }
  · rw [Function.update_of_ne hy]; exact h y hy

theorem queueAndWake_ctxs (s : State Tid Cid F A) (x : Cid) :
    (queueAndWake s x).ctxs = (tritonQueueCtx s x).1.ctxs := by
  unfold queueAndWake
  split
  · rename_i h; rw [h]; split <;> rfl
  · rename_i h; rw [h]

theorem queueAndWakeVia_ctxs (s : State Tid Cid F A) (x : Cid) :
    (queueAndWakeVia s x).ctxs = (tritonQueueCtx s x).1.ctxs := by
  grind [queueAndWakeVia]

theorem AllOk.queue_modCtx (h : AllOk s)
    (hf : Books (f (s.ctxs x))) (halloc : (f (s.ctxs x)).alloc) :
    AllOk (Triton.tritonQueueCtx (s.modCtx x f) x).1 :=
  .tritonQueueCtx (fun y hy => by rw [s.modCtx_ctxs_ne hy]; exact h y) (by simpa using hf)
    (by simpa using halloc)

omit [DecidableEq Cid] in
theorem AllOk.modThread (h : AllOk s) {f : Thread Cid F A → Thread Cid F A} :
    AllOk (s.modThread t f) := h

omit [DecidableEq Cid] in
theorem AllOk.setPc (h : AllOk s) {pc : Pc Cid F A} : AllOk (s.setPc t pc) := h

theorem AllOk.scheduleSection (h : AllOk s) (f : Frame F A) (hx : (s.ctxs x).thread = some t) :
    AllOk (scheduleSection s t x f) := by
  have hx' := h x
  have halloc := hx'.alloc_of_thread hx
  simp only [Triton.scheduleSection, hx]
  split
  · exact .setPc (h.modCtx (hx'.of_same halloc (by simp) rfl rfl rfl rfl rfl hx'.quiet hx'.placed))
  · exact .setPc (.modThread (h.modCtx (hx'.of_same halloc (fun _ => rfl) rfl rfl rfl rfl rfl
      hx'.quiet hx'.placed)))

omit [DecidableEq Tid] in
theorem AllOk.listDel (h : AllOk s)
    (hf : (f { s.ctxs x with entry2 := false }).Ok) : AllOk ((s.listDel x).modCtx x f) := fun y => by
  by_cases hy : y = x
  · subst hy; simpa [State.listDel] using hf
  · rw [State.modCtx_ctxs_ne _ hy]; simpa [State.listDel, hy] using h y

/-- A section leaves the placement or makes one transition, and the contexts stay in order. -/
structure Safe (s s' : State Tid Cid F A) : Prop where
  refines : Refines (place s) (place s')
  ok : AllOk s'

section

variable (h : AllOk s)
include h

theorem Safe.same (hp : place s' = place s) (hc : s'.ctxs = s.ctxs) : Safe s s' :=
  ⟨.inl hp, h.congr hc⟩

theorem Safe.setPc {pc : Pc Cid F A} (hpc : pc.mode = (s.threads t).pc.mode) :
    Safe s (s.setPc t pc) :=
  .same h (place_setPc_same hpc) rfl

theorem Safe.modCtx (hf : place (s.modCtx x f) = place s) (hok : (f (s.ctxs x)).Ok) :
    Safe s (s.modCtx x f) :=
  ⟨.inl hf, h.modCtx hok⟩

theorem Safe.queueAndWake (hf : place (s.modCtx x f) = place s)
    (hb : Books (f (s.ctxs x))) (halloc : (f (s.ctxs x)).alloc) :
    Safe s (queueAndWake (s.modCtx x f) x) :=
  ⟨refines_queueAndWake hf, (h.queue_modCtx hb halloc).congr (queueAndWake_ctxs _ x)⟩

theorem Safe.queueAndWakeVia (hf : place (s.modCtx x f) = place s)
    (hb : Books (f (s.ctxs x))) (halloc : (f (s.ctxs x)).alloc) :
    Safe s (queueAndWakeVia (s.modCtx x f) x) :=
  ⟨refines_queueAndWakeVia hf, (h.queue_modCtx hb halloc).congr (queueAndWakeVia_ctxs _ x)⟩

theorem safe_top (hi : Coop.Inv (place s)) (hpc : (s.threads t).pc = .top)
    (hs : workerStep s t = some s') : Safe s s' := by
  have hidle : (place s).mode t = .idle := by simp [place, hpc, Pc.mode]
  simp only [workerStep, hpc] at hs
  split at hs
  · -- a context was found: a woken one continues, a ready one starts
    rename_i x hx
    split at hx
    · cases hx
    have hx' := h x
    obtain ⟨p, hw | hr⟩ := checkCtxQueueEmpty_some hx
    · obtain ⟨ho, ha, hwoken, -, -⟩ := hi.wake t p x hw
      have hif : ((s.ctxs x).asleep && (s.ctxs x).wakeup) = true :=
        Bool.and_eq_true_iff.2 ⟨ha, hwoken⟩
      simp only [State.modThread_ctxs, hif, if_true, Option.some.injEq] at hs
      subst hs
      have hthread : (s.ctxs x).thread = some t := ho
      refine ⟨.inr ?_, (h.listDel (x := x) (f := id) (hx'.of_same (hx'.alloc_of_thread hthread)
        hx'.saved rfl rfl rfl rfl rfl hx'.quiet fun _ _ _ => .inl ?_)).congr ?_⟩
      · rw [place_setPc, place_listDel, place_modThread]
        simpa [place, Placement.setHand, Pc.mode] using
          Move.takeWoken (P := place s) hidle hw
      · simp [hthread]
      · simp [State.listDel, State.setPc, State.modCtx]
    · obtain ⟨hfree, hlink⟩ := hi.ready p x hr
      have hif : ((s.ctxs x).asleep && (s.ctxs x).wakeup) = false := by
        cases ha : (s.ctxs x).asleep with
        | false => rfl
        | true => exact absurd hfree (hi.asleep x ha)
      simp only [State.modThread_ctxs, hif, Bool.false_eq_true, if_false, Option.some.injEq] at hs
      subst hs
      refine ⟨.inr ?_, .setPc (AllOk.listDel (s := s.modThread t _) h (hx'.of_same
        (hx'.alloc_of fun e => by simp [place, e] at hlink) hx'.saved rfl rfl rfl rfl rfl hx'.quiet
        fun _ _ _ => .inl rfl))⟩
      rw [place_setPc, place_modCtx, place_listDel, place_modThread]
      simpa [place, State.listDel, Placement.unlink, Placement.setOwner, Placement.setHand, Pc.mode]
        using Move.take (P := place s) hidle hr
  · -- nothing to do: park, unless the daemon terminates also on the list of sleepers
    simp only [Option.some.injEq] at hs
    subst hs
    have hmode : ∀ c : Prop, [Decidable c] →
        (if c then (.reload : Pc Cid F A) else .slept).mode = .parked := by
      intro c _; split <;> rfl
    have hpark := Move.park (P := place s) (!s.terminate) hidle
    cases ht : s.terminate with
    | false | true =>
      refine ⟨.inr ?_, h.congr rfl⟩
      rw [place_setPc, hmode]
      simpa [place, ht] using hpark

theorem safe_workerStep (hi : Coop.Inv (place s)) (hs : workerStep s t = some s') : Safe s s' := by
  have hmode : (place s).mode t = (s.threads t).pc.mode := rfl
  cases hpc : (s.threads t).pc with
  | top => exact safe_top h hi hpc hs
  | reload =>
    simp only [workerStep, hpc, Option.some.injEq] at hs
    subst hs
    exact .same h (place_setPc_same (by simp [State.wakeAll, hpc, Pc.mode])) rfl
  | slept =>
    simp only [workerStep, hpc, Option.some.injEq] at hs
    subst hs
    exact .setPc h (by rw [hpc]; split <;> rfl)
  | sigwait =>
    simp only [workerStep, hpc] at hs
    split at hs
    · cases hs
      refine .same h ?_ rfl
      rw [place_modThread]
      simp [place, hpc, Pc.mode]
    · cases hs
  | woken =>
    simp only [workerStep, hpc] at hs
    rw [hpc] at hmode
    split at hs
    · rename_i hnone
      cases hs
      refine ⟨.inr ?_, h.congr rfl⟩
      rw [place_setPc]
      exact .unpark hmode hnone
    · rename_i x hx
      cases hs
      refine ⟨.inr ?_, h.congr rfl⟩
      rw [place_setPc]
      exact .start hmode hx
  | resume x =>
    rw [hpc] at hmode
    simp only [workerStep, hpc] at hs
    split at hs
    · cases hs
      exact ⟨refines_scheduleSection hi _ (.inr hmode),
        h.scheduleSection _ (hi.resume t x hmode).2.1⟩
    · cases hs
  | fetch x =>
    rw [hpc] at hmode
    simp only [workerStep, hpc] at hs
    have hx' := h x
    have hf := hx'.fetch (hx'.alloc_of_thread (hi.exec t x hmode).2.1)
    -- the work taken out of the context's queues does not touch its placement
    have hfetch : place (s.modCtx x fun _ => (ctxThreadFetch (s.ctxs x)).1) = place s := by
      unfold ctxThreadFetch
      split <;> exact place_modCtx_same rfl
    split at hs <;> (rename_i he; cases hs; rw [he] at hf hfetch)
    all_goals
      refine ⟨.inl ?_, .setPc (h.modCtx hf)⟩
      rw [← hfetch]
      exact place_setPc_same (by simp [hpc, Pc.mode])
  | user x f => simp [workerStep, hpc] at hs
  | closeCheck x =>
    simp only [workerStep, hpc] at hs
    split at hs <;> (cases hs; exact .setPc h (by simp [hpc, Pc.mode]))
  | closed x =>
    rw [hpc] at hmode
    simp only [workerStep, hpc, Option.some.injEq] at hs
    subst hs
    have hx' := h x
    refine ⟨.inl ?_, .setPc (h.modCtx (hx'.of_same (hx'.alloc_of_thread (hi.exec t x hmode).2.1)
      hx'.saved rfl rfl rfl rfl rfl hx'.quiet hx'.placed))⟩
    rw [place_setPc_same (by simp [hpc, Pc.mode])]
    exact place_modCtx_same rfl
  | finish x =>
    rw [hpc] at hmode
    have hctx : (s.threads t).ctx = some x := (hi.exec t x hmode).1
    simp only [workerStep, hpc, hctx] at hs
    split at hs
    · -- the context is given up: it has nothing to do, or is on its way out
      cases hs
      have hx' := h x
      refine ⟨.inr ?_, .setPc (h.modCtx (hx'.of_same (hx'.alloc_of_thread (hi.exec t x hmode).2.1)
        hx'.saved rfl rfl rfl rfl rfl hx'.quiet fun _ hf hp => ?_))⟩
      · rw [place_setPc, place_modCtx]
        simpa [place, Placement.setOwner, Pc.mode] using
          Move.finish (P := place s) hmode
      · simp_all
    · cases hs
      exact .setPc h (by simp [hpc, Pc.mode])
  | release =>
    simp only [workerStep, hpc, Option.some.injEq] at hs
    subst hs
    rw [hpc] at hmode
    refine ⟨.inr ?_, h.congr rfl⟩
    rw [place_modThread]
    simpa [place, Placement.setHand, Placement.setMode, Pc.mode] using
      Move.leave (P := place s) hmode
  | exited => simp [workerStep, hpc] at hs

/-! ## The system -/

theorem ok_wakeupRun (halloc : (s.ctxs x).alloc) : AllOk (tritonContextWakeupRun s x) := by
  have hx' := h x
  have hw : AllOk (s.modCtx x fun c => { c with wakeup := true }) :=
    h.modCtx (hx'.of_same halloc hx'.saved rfl rfl rfl rfl rfl hx'.quiet hx'.placed)
  have henq : ∀ t, AllOk ((s.modCtx x fun c => { c with wakeup := true }).enqueueWoken x t) := by
    intro t
    simp only [State.enqueueWoken]
    refine AllOk.modCtx (AllOk.modThread hw) ?_
    simp only [State.modThread_ctxs, State.modCtx_ctxs_self]
    exact hx'.of_same halloc hx'.saved rfl rfl rfl rfl rfl hx'.quiet fun _ _ _ => .inr rfl
  simp only [tritonContextWakeupRun]
  split
  · exact h
  · split
    · split
      · exact (henq _).congr rfl
      · exact henq _
    · exact hw

omit [DecidableEq Tid] in
theorem ok_unregister (halloc : (s.ctxs x).alloc) : AllOk (tritonContextUnregister s x) := by
  have hx' := h x
  have hquiet : (s.ctxs x).pending = false →
      (s.ctxs x).pendingTimers = [] ∧ (s.ctxs x).pendingHandlers = [] ∧ ([] : List (Call F A)) = [] :=
    fun hp => ⟨(hx'.quiet hp).1, (hx'.quiet hp).2.1, rfl⟩
  have hcalls : AllOk (s.modCtx x fun c => { c with pendingCalls := [], unregisterCalled := true }) :=
    h.modCtx { hx' with
      pending_made := by simp
      account := by simp
      blank := by simp [halloc]
      quiet := hquiet }
  have hfree : AllOk ((s.modCtx x fun c => { c with pendingCalls := [], unregisterCalled := true
      }).modCtx x fun c => { c with needFree := true, registered := false }) := by
    refine hcalls.modCtx ?_
    have hc := hcalls x
    rw [State.modCtx_ctxs_self] at hc ⊢
    exact hc.of_same halloc hx'.saved rfl rfl rfl rfl rfl hquiet (by simp)
  grind [tritonContextUnregister, hfree.congr]

/-- **Refinement**: every step leaves the placement alone or is one transition of the cooperative
scheduler. -/
theorem step_safe [DecidableEq F] (hi : Coop.Inv (place s)) {a : Act Tid Cid F A}
    (hs : step s a = some s') : Safe s s' := by
  cases a with
  | worker t => exact safe_workerStep h hi hs
  | userReturn t =>
    simp only [step] at hs
    split at hs
    · rename_i hpc; cases hs; exact .setPc h (by rw [hpc]; rfl)
    · rename_i hpc; cases hs; exact .setPc h (by rw [hpc]; rfl)
    · cases hs
  | schedule t ok =>
    simp only [step] at hs
    split at hs
    · rename_i x f hpc
      have hexec : (place s).mode t = .exec x := by simp [place, hpc, Pc.mode]
      split at hs
      · cases hs; exact .same h rfl rfl
      · cases hs
        exact ⟨refines_scheduleSection hi f (.inl hexec), h.scheduleSection f (hi.exec t x hexec).2.1⟩
    · cases hs
  | register x =>
    obtain ⟨ha, rfl⟩ := Machine.of_enabled_unless hs
    have hnew : (Ctx.Ok { alloc := true, registered := true, init := true } : Prop) :=
      (Ctx.Ok.empty : ({} : Ctx Tid F A).Ok).of_same rfl (by simp) rfl rfl rfl rfl rfl
        (by simp) (by simp)
    have hblank := (h x).blank
    refine ⟨.inl ?_, (h.modCtx (x := x) (f := fun _ => _) hnew).congr rfl⟩
    simp_all [tritonContextRegister, place, proj_update]
  | unregister x =>
    obtain ⟨hr, rfl⟩ := Machine.of_enabled_if hs
    refine ⟨.inl ?_, ok_unregister h ((h x).alloc_of_registered hr)⟩
    simp only [tritonContextUnregister]
    -- first the pending calls go, then, if nothing else is left, the registration
    have hcalls : place (s.modCtx x fun c => { c with pendingCalls := [], unregisterCalled := true })
        = place s := place_modCtx_same rfl
    split
    · exact hcalls
    · refine Eq.trans ?_ ((place_modCtx_same (x := x) (f := fun c =>
        { c with needFree := true, registered := false }) rfl).trans hcalls)
      split <;> rfl
  | setPriority x prio =>
    obtain ⟨hr, rfl⟩ := Machine.of_enabled_if hs
    have hx' := h x
    exact .modCtx h (place_modCtx_same rfl) (hx'.of_same (hx'.alloc_of_registered hr) hx'.saved
      rfl rfl rfl rfl rfl hx'.quiet hx'.placed)
  | call x func arg =>
    obtain ⟨halloc, rfl⟩ := Machine.of_enabled_if hs
    exact .queueAndWake h (place_modCtx_same rfl) ((h x).toBooks.call func arg) halloc
  | cancelCall x func =>
    obtain ⟨halloc, rfl⟩ := Machine.of_enabled_if hs
    have hb := (h x).toBooks.cancel func
    refine .modCtx h (place_modCtx_same rfl)
      { hb with blank := ?_, quiet := fun hp => ?_, placed := (h x).placed }
    · simp [halloc]
    · have hq := (h x).quiet hp
      exact ⟨hq.1, hq.2.1, by simp [hq.2.2]⟩
  | wakeupInit x =>
    obtain ⟨halloc, rfl⟩ := Machine.of_enabled_if hs
    have hx' := h x
    simp only [tritonContextWakeupInit, State.modCtx_ctxs_self]
    split
    · exact .queueAndWake h (place_modCtx_same rfl) { hx'.toBooks with } halloc
    · refine .modCtx h (place_modCtx_same rfl) ?_
      grind [hx'.of_same, hx'.saved, hx'.quiet]
  | wakeupRun x =>
    obtain ⟨hc, rfl⟩ := Machine.of_enabled_if hs
    exact ⟨refines_wakeupRun hi x, ok_wakeupRun h (Bool.and_eq_true_iff.1 hc).1⟩
  | timerAdd x n | mdRegister x n =>
    obtain ⟨hc, rfl⟩ := Machine.of_enabled_if hs
    have hx' := h x
    exact .modCtx h (place_modCtx_same rfl) (hx'.of_same (Bool.and_eq_true_iff.1 hc).1 hx'.saved
      rfl rfl rfl rfl rfl hx'.quiet hx'.placed)
  | timerDel x n | mdUnregister x n =>
    obtain ⟨hc, rfl⟩ := Machine.of_enabled_if hs
    have hx' := h x
    refine .modCtx h (place_modCtx_same rfl)
      (hx'.of_same ?_ hx'.saved rfl rfl rfl rfl rfl (fun hp => ?_) hx'.placed)
    · exact hx'.alloc_of fun e => by simp [e] at hc
    · have hq := hx'.quiet hp
      simp [hq]
  | timerFire x n | mdFire x n =>
    simp only [step] at hs
    split at hs
    · rename_i hc
      split at hs
      · cases hs; exact .same h rfl rfl
      · cases hs
        have hx' := h x
        refine .queueAndWakeVia h (place_modCtx_same rfl) { hx'.toBooks with } ?_
        exact hx'.alloc_of fun e => by simp [e] at hc
    · cases hs
  | kill t =>
    obtain ⟨-, rfl⟩ := Machine.of_enabled_unless hs
    refine .same h ?_ rfl
    rw [place_modThread]
    simp [place]
  | killVia x =>
    simp only [step] at hs
    split at hs
    · cases hs
    · split at hs
      · cases hs
        refine .same h ?_ rfl
        rw [place_modThread]
        simp [place]
      · cases hs; exact .same h rfl rfl
  | terminate => cases hs; exact .same h rfl rfl
  | terminateCtx x =>
    obtain ⟨hc, rfl⟩ := Machine.of_enabled_if hs
    have hx' := h x
    exact .queueAndWake h (place_modCtx_same rfl) { hx'.toBooks with }
      (hx'.alloc_of_registered (Bool.and_eq_true_iff.1 hc).2)
  | wakeAll =>
    obtain ⟨-, rfl⟩ := Machine.of_enabled_if hs
    exact .same h rfl rfl
  | confReload => cases hs; exact .same h rfl rfl
  | confReloadDone =>
    obtain ⟨-, rfl⟩ := Machine.of_enabled_unless hs
    exact .same h rfl rfl

end

/-! ## Every run -/

variable [DecidableEq F]

theorem run_safe [Fintype Tid] {acts : List (Act Tid Cid F A)}
    (hr : Machine.run step State.initial acts = some s) : Coop.Inv (place s) ∧ AllOk s := by
  refine Machine.run_invariant (I := fun s => Coop.Inv (place s) ∧ AllOk s) ?_ ?_ hr
  · rintro s a s' ⟨hi, h⟩ hs
    have hsafe := step_safe h hi hs
    exact ⟨hsafe.refines.inv hi, hsafe.ok⟩
  · exact ⟨Coop.Inv.empty, fun _ => Ctx.Ok.empty⟩

/-- Worker `t` runs the context: it is in `ctx_thread` or about to continue there. -/
def Runs (s : State Tid Cid F A) (t : Tid) (x : Cid) : Prop :=
  (s.threads t).pc.mode = .exec x ∨ (s.threads t).pc.mode = .resume x

inductive Place (Tid : Type) where
  | ready (p : Prio)
  | wakeupList (t : Tid) (p : Prio)
  | assigned (t : Tid)

def InPlace (s : State Tid Cid F A) (x : Cid) : Place Tid → Prop
  | .ready p => x ∈ s.ctxQueue p
  | .wakeupList t p => x ∈ (s.threads t).wakeupList p
  | .assigned t => (s.ctxs x).thread = some t ∧ (s.threads t).ctx = some x

omit [DecidableEq Cid] [DecidableEq Tid] [DecidableEq F] in
theorem inPlace_unique (h : Coop.Inv (place s)) {a b : Place Tid} (ha : InPlace s x a)
    (hb : InPlace s x b) : a = b := by
  cases a with
  | ready p =>
    cases b with
    | ready q => rw [h.ready_unique p q x ha hb]
    | wakeupList u q => exact absurd hb ((h.ready_alone ha u).2 q)
    | assigned u => exact absurd hb (h.ready_alone ha u).1
  | wakeupList t p =>
    cases b with
    | ready q => exact absurd ha ((h.ready_alone hb t).2 p)
    | wakeupList u q =>
      obtain ⟨rfl, rfl⟩ := (h.wake_alone ha u).2 q hb
      rfl
    | assigned u => exact absurd hb (h.wake_alone ha u).1
  | assigned t =>
    cases b with
    | ready q => exact absurd ha (h.ready_alone hb t).1
    | wakeupList u q => exact absurd ha (h.wake_alone hb t).1
    | assigned u => rw [Option.some.inj (ha.1.symm.trans hb.1)]

omit [DecidableEq Cid] [DecidableEq Tid] [DecidableEq F] in
theorem pending_call_placed (hi : Coop.Inv (place s)) (h : (s.ctxs x).Ok)
    (hinit : (s.ctxs x).init = false) (hfree : (s.ctxs x).needFree = false)
    (hcall : (s.ctxs x).pendingCalls ≠ []) :
    (∃ p, InPlace s x (.ready p)) ∨ (∃ t, InPlace s x (.assigned t)) ∨
      ((s.ctxs x).asleep ∧ ∃ t, (s.ctxs x).thread = some t) := by
  have hpend : (s.ctxs x).pending := by
    by_contra hp
    exact hcall (h.quiet (by simpa using hp)).2.2
  rcases h.placed hinit hfree hpend with ht | hl
  · obtain ⟨t, ht⟩ := Option.isSome_iff_exists.1 ht
    rcases hi.owned x t ht with ha | hh
    · exact .inr (.inr ⟨ha, t, ht⟩)
    · exact .inr (.inl ⟨t, ht, hh⟩)
  · rcases hi.linked x hl with hr | ⟨t, p, hp⟩
    · exact .inl hr
    · obtain ⟨ho, ha, -⟩ := hi.wake t p x hp
      exact .inr (.inr ⟨ha, t, ho⟩)

/-- **Scheduler safety.** No context is run by two workers; every context is in at most one of the
ready queues, wakeup lists and threads' hands, once; a started live context with a pending call is
queued, assigned or asleep; and the calls made and not cancelled are those executed followed by
those pending, unless the context was unregistered. -/
theorem scheduler_safe [Fintype Tid] {acts : List (Act Tid Cid F A)}
    (hr : Machine.run step State.initial acts = some s) :
    (∀ x t u, Runs s t x → Runs s u x → t = u) ∧
    (∀ x, (∀ a b, InPlace s x a → InPlace s x b → a = b) ∧ (∀ p, (s.ctxQueue p).count x ≤ 1) ∧
      ∀ t p, ((s.threads t).wakeupList p).count x ≤ 1) ∧
    (∀ x, (s.ctxs x).init = false → (s.ctxs x).needFree = false → (s.ctxs x).pendingCalls ≠ [] →
      (∃ p, InPlace s x (.ready p)) ∨ (∃ t, InPlace s x (.assigned t)) ∨
        ((s.ctxs x).asleep ∧ ∃ t, (s.ctxs x).thread = some t)) ∧
    (∀ x, ((s.ctxs x).made.map Call.serial).Nodup ∧ ((s.ctxs x).unregisterCalled = false →
      (s.ctxs x).executed ++ (s.ctxs x).pendingCalls =
        (s.ctxs x).made.filter fun k => k.serial ∉ (s.ctxs x).cancelled)) := by
  obtain ⟨hi, h⟩ := run_safe hr
  refine ⟨fun x t u ht hu => ?_, fun x => ⟨fun a b => inPlace_unique hi, fun p => ?_, fun t p => ?_⟩,
    fun x => pending_call_placed hi (h x), fun x => ⟨(h x).made_nodup, fun hu => ?_⟩⟩
  · exact hi.executes_unique (t := t) (x := x) ht hu
  · exact List.nodup_iff_count_le_one.1 (hi.ready_nodup p) x
  · exact List.nodup_iff_count_le_one.1 (hi.wake_nodup t p) x
  · exact ((h x).account hu).symm

/-- Two contexts on two workers. The first call puts its context to sleep; a second is made while
the other worker runs the other context; the context is woken, goes on and takes it. -/
def sleepAndWake : List (Act Bool Bool Bool Unit) :=
  let a := false
  let b := true
  [.register a, .register b, .wakeupInit a, .wakeupInit b, .call a true (), .worker a, .worker a,
    .schedule a true, .call b true (), .worker b, .worker b, .call a false (), .wakeupRun a,
    .worker a, .worker a, .userReturn a, .worker a]

theorem scheduler_safe_sleep :
    ∃ s, Machine.run step State.initial sleepAndWake = some s ∧ Runs s false false ∧
      Runs s true true ∧ (∀ t, Runs s t false → t = false) ∧
      (s.ctxs false).executed = [⟨0, true, ()⟩, ⟨1, false, ()⟩] ∧
      (s.ctxs false).executed ++ (s.ctxs false).pendingCalls =
        (s.ctxs false).made.filter fun k => k.serial ∉ (s.ctxs false).cancelled := by
  have hr : ∃ s, Machine.run step State.initial sleepAndWake = some s ∧ Runs s false false ∧
      Runs s true true ∧ (s.ctxs false).executed = [⟨0, true, ()⟩, ⟨1, false, ()⟩] ∧
      (s.ctxs false).unregisterCalled = false :=
    ⟨_, rfl, .inl rfl, .inl rfl, rfl, rfl⟩
  obtain ⟨s, hs, h0, h1, he, hu⟩ := hr
  obtain ⟨hone, -, -, hcalls⟩ := scheduler_safe hs
  exact ⟨s, hs, h0, h1, fun t ht => hone false t false ht h0, he, (hcalls false).2 hu⟩

end Triton
