import Mathlib.Data.Fintype.Basic
import MicroBng.Radius.Places

/-!
# Requests that leave a queue

A request that is taken out of a queue is owed its callback: a call is pending that will run it, or
its owner cancels it (`Kept`). `load_config` calls `req_wakeup` for the requests of a removed server,
which does nothing for a request without a slot, and leaves `queue_cnt` as it was.
`rad_server_req_cancel` takes every call of `req_wakeup` out of the context, also those of other
requests. `rad_server_req_exit` for a request that has been woken makes its pending call do nothing.

* `step_kept_iff`: what each step does to `Kept`
* `kept_iff`: a run keeps it exactly if no step is one of the three
-/

namespace Radius.Server

open Machine

variable {R C : Type*} {s s' : Serv R C} {r q : R} {p : Prio}

/-! ## No request is stranded -/

/-- A call of `req_wakeup_failed` is pending. -/
def Failing (s : Serv R C) (r : R) : Prop := ∃ c ∈ s.calls, c.req = r ∧ c.func = .reqWakeupFailed

/-- The callback of the request will run: `req_wakeup` runs, or a call is pending that does not
return at once. -/
def Promised (s : Serv R C) (r : R) : Prop :=
  (∃ ts, s.pc r = .waking ts) ∨
    ∃ c ∈ s.calls, c.req = r ∧ (c.func = .reqWakeupFailed ∨ s.active r = true)

/-- No request is stranded, and `queue_cnt` counts the requests in the queues. -/
structure Kept (s : Serv R C) : Prop where
  alive : s.crashed = false
  queues : s.queueCnt = s.queued.length
  promised : ∀ r, s.owed r = true → Promised s r

/-- A request that is owed its callback and tries again has a call of `req_wakeup_failed`. -/
def Retries (s : Serv R C) : Prop :=
  ∀ r, s.owed r = true → s.pc r ≠ .idle → (∀ ts, s.pc r ≠ .waking ts) → Failing s r

/-- A request does not leave before its callback has run, none relies on a call of `req_wakeup`
where one is cancelled, and a removed server has empty queues. -/
def NobodyStranded (s : Serv R C) : Event R C → Prop
  | .work (.exit r) => s.reqLimit ≠ 0 → s.owed r = true → Failing s r
  | .work (.cancel r) => ∀ q, q ≠ r → s.owed q = true → (∃ ts, s.pc q = .waking ts) ∨
      ∃ c ∈ s.calls, c.req = q ∧ (c.func = .reqWakeupFailed ∨ s.active q = true ∧ c.ctx ≠ s.ctx r)
  | .reload .remove => s.queued = []
  | _ => True

/-! ## Promises -/

section Promises

theorem Failing.promised (h : Failing s r) : Promised s r := by
  obtain ⟨c, hc, hr, hf⟩ := h
  exact .inr ⟨c, hc, hr, .inl hf⟩

theorem Promised.failing (h : Promised s r) (hpc : ∀ ts, s.pc r ≠ .waking ts)
    (ha : s.active r = false) : Failing s r := by
  rcases h with ⟨ts, h⟩ | ⟨c, hc, hr, hf | hact⟩
  · exact absurd h (hpc ts)
  · exact ⟨c, hc, hr, hf⟩
  · exact nomatch ha.symm.trans hact

theorem Failing.mono (h : Failing s r) (hcalls : ∀ c ∈ s.calls, c.req = r → c ∈ s'.calls) :
    Failing s' r := by
  obtain ⟨c, hc, hr, hf⟩ := h
  exact ⟨c, hcalls c hc hr, hr, hf⟩

theorem Promised.mono (h : Promised s r) (hpc : s'.pc r = s.pc r)
    (hcalls : ∀ c ∈ s.calls, c.req = r → c ∈ s'.calls)
    (ha : s.active r = true → s'.active r = true) : Promised s' r := by
  rcases h with ⟨ts, h⟩ | ⟨c, hc, hr, hf⟩
  · exact .inl ⟨ts, hpc.trans h⟩
  · exact .inr ⟨c, hcalls c hc hr, hr, hf.imp_right ha⟩

theorem Kept.failing (hk : Kept s) (ho : s.owed r = true) (hpc : s.pc r = .idle)
    (ha : s.active r = false) : Failing s r :=
  (hk.promised r ho).failing (fun _ h => nomatch hpc.symm.trans h) ha

theorem Kept.step (hk : Kept s) (hcrash : s'.crashed = s.crashed)
    (hq : s'.queueCnt = s'.queued.length)
    (h : ∀ q, s'.owed q = true → s.owed q = true ∧ (Promised s q → Promised s' q)) : Kept s' where
  alive := hcrash.trans hk.alive
  queues := hq
  promised q ho := (h q ho).2 (hk.promised q (h q ho).1)

theorem Kept.of_eq (hk : Kept s) (hcrash : s'.crashed = s.crashed) (hcnt : s'.queueCnt = s.queueCnt)
    (hqueue : s'.queue = s.queue) (howed : s'.owed = s.owed) (hpc : s'.pc = s.pc)
    (hcalls : s'.calls = s.calls) (ha : s'.active = s.active) : Kept s' := by
  have hq : s'.queued = s.queued := by unfold Serv.queued; rw [hqueue]
  refine hk.step hcrash (by rw [hcnt, hq]; exact hk.queues) fun q ho => ⟨howed ▸ ho, fun h => ?_⟩
  simp_all [h.mono]

theorem Retries.of_eq (hi : Retries s) (howed : s'.owed = s.owed) (hpc : s'.pc = s.pc)
    (hcalls : s'.calls = s.calls) : Retries s' := by
  intro q ho hidle hw
  rw [howed] at ho
  rw [hpc] at hidle hw
  exact (hi q ho hidle hw).mono fun c hc _ => hcalls ▸ hc

end Promises

/-! ## The functions -/

section Functions

variable [DecidableEq R]

theorem Kept.setPc (hk : Kept s) {x : Pc} (h : s.owed r = true → Promised (s.setPc r x) r) :
    Kept (s.setPc r x) := by
  refine hk.step rfl hk.queues fun q ho => ⟨ho, fun hq => ?_⟩
  by_cases hqr : q = r
  · subst hqr
    exact h ho
  · exact hq.mono (setPc_pc_of_ne s x hqr) (fun c hc _ => hc) id

theorem Retries.setPc (hi : Retries s) {x : Pc} (h : s.owed r = true → x ≠ .idle →
    (∀ ts, x ≠ .waking ts) → Failing s r) : Retries (s.setPc r x) := by
  intro q ho hidle hw
  by_cases hqr : q = r
  · subst hqr
    rw [setPc_pc_self] at hidle hw
    exact h ho hidle hw
  · rw [setPc_pc_of_ne s x hqr] at hidle hw
    exact hi q ho hidle hw

theorem Retries.setIdle (hi : Retries s) (r : R) : Retries (s.setPc r .idle) :=
  hi.setPc fun _ h => absurd rfl h

theorem wakeNext_cases (s : Serv R C) :
    wakeNext s = s ∨ ∃ p r, s.next = some (p, r) ∧ wakeNext s = (s.pop p).wake p r := by
  grind [wakeNext]

theorem wakeNext_kept (hk : Kept s) : Kept (wakeNext s) := by
  rcases wakeNext_cases s with heq | ⟨p, h, hnext, heq⟩
  · rw [heq]
    exact hk
  · have hlen : s.queued.length = (s.pop p).queued.length + 1 := by
      rw [queued_pop hnext, List.length_cons]
    rw [heq]
    refine ⟨hk.alive, ?_, fun q ho => ?_⟩
    · show s.queueCnt - 1 = ((s.pop p).queued.length : Int)
      rw [hk.queues]
      omega
    · by_cases hq : q = h
      · subst hq
        refine .inr ⟨⟨s.ctx q, .reqWakeup, q⟩, ?_, rfl, .inr ?_⟩
        · exact List.mem_append_right _ (List.mem_singleton_self _)
        · simp [Serv.wake]
      · have hold : s.owed q = true := by simpa [Serv.wake, Serv.pop, hq] using ho
        refine (hk.promised q hold).mono rfl (fun c hc _ => List.mem_append_left _ hc) fun ha => ?_
        simpa [Serv.wake, Serv.pop, hq] using ha

theorem wakeNext_retries (hi : Retries s) (hl : Located s) : Retries (wakeNext s) := by
  rcases wakeNext_cases s with heq | ⟨p, h, hnext, heq⟩
  · rw [heq]
    exact hi
  · have hmem : h ∈ s.queued := queued_pop hnext ▸ List.mem_cons_self
    rw [heq]
    intro q ho hidle hw
    by_cases hq : q = h
    · subst hq
      exact absurd (hl.passive q hmem).2 hidle
    · have hold : s.owed q = true := by simpa [Serv.wake, Serv.pop, hq] using ho
      exact (hi q hold hidle hw).mono fun c hc _ => List.mem_append_left _ hc

/-- **`rad_server_req_exit`** keeps the promises if the request that leaves does not wait for its
own callback. -/
theorem exit_kept_iff (hk : Kept s) (hl : Located s) (hpc : s.pc r = .idle) :
    Kept (radServerReqExit r s) ↔ (s.reqLimit ≠ 0 → s.owed r = true → Failing s r) := by
  unfold radServerReqExit
  by_cases hlimit : s.reqLimit = 0
  · simp_all
  rw [if_neg hlimit]
  cases ha : s.active r with
  | false => simp_all [hk.failing]
  | true =>
    have hnot : r ∉ s.queued := hl.not_queued_of_active ha
    have hoff : (s.release r).active r = false := by simp [Serv.release]
    constructor
    · -- The request that leaves is not the one that is woken.
      intro h _ ho
      rcases wakeNext_cases (s.release r) with heq | ⟨p, w, hnext, heq⟩
      · rw [heq] at h
        exact h.failing ho hpc hoff
      · have hw : w ∈ s.queued := (queued_pop hnext : s.queued = _) ▸ List.mem_cons_self
        have hne : r ≠ w := fun h => hnot (h ▸ hw)
        have howed : (wakeNext (s.release r)).owed r = true := by
          rw [heq]
          simpa [Serv.wake, Serv.pop, Serv.release, hne] using ho
        have hidle : (wakeNext (s.release r)).pc r = .idle := by
          rw [heq]
          exact hpc
        have hact : (wakeNext (s.release r)).active r = false := by
          rw [heq]
          simp [Serv.wake, Serv.pop, Serv.release, hne]
        obtain ⟨c, hc, hr, hf⟩ := h.failing howed hidle hact
        rw [heq] at hc
        rcases List.mem_append.1 hc with hc | hc
        · exact ⟨c, hc, hr, hf⟩
        · cases List.mem_singleton.1 hc
          cases hf
    · intro h
      refine wakeNext_kept (hk.step rfl hk.queues fun q ho => ⟨ho, fun hq => ?_⟩)
      by_cases hqr : q = r
      · subst hqr
        exact Failing.promised ((h hlimit ho).mono fun c hc _ => hc)
      simp_all [hq.mono, Serv.release]

theorem exit_retries (hi : Retries s) (hl : Located s) (hpc : s.pc r = .idle) :
    Retries (radServerReqExit r s) := by
  unfold radServerReqExit
  split
  · exact hi
  split
  · exact hi
  · exact wakeNext_retries (hi.of_eq rfl rfl rfl) (hl.deactivate_idle (.inl hpc))

theorem reqEnterCheck_kept (hk : Kept s) (hi : Retries s) (hpc : s.pc r = .idle) :
    Kept (reqEnterCheck r p s) ∧ Retries (reqEnterCheck r p s) := by
  unfold reqEnterCheck
  split
  · exact ⟨hk, hi⟩
  split
  · exact ⟨hk, hi⟩
  split
  · exact ⟨hk, hi⟩
  split
  · exact ⟨hk, hi⟩
  · next hbusy =>
    have ha : s.active r = false := Bool.eq_false_iff.2 fun h => hbusy (.inl h)
    have hfail : s.owed r = true → Failing s r := fun ho => hk.failing ho hpc ha
    exact ⟨hk.setPc fun ho => Failing.promised ((hfail ho).mono fun c hc _ => hc),
      hi.setPc fun ho _ _ => hfail ho⟩

theorem reqEnterLocked_kept (hk : Kept s) (hi : Retries s) (hpc : s.pc r = .entering p) :
    Kept (reqEnterLocked r p s) ∧ Retries (reqEnterLocked r p s) := by
  have hfail : s.owed r = true → Failing s r := fun ho =>
    hi r ho (fun h => nomatch hpc.symm.trans h) fun _ h => nomatch hpc.symm.trans h
  have hset : ∀ x, Kept (s.setPc r x) := fun x =>
    hk.setPc fun ho => Failing.promised ((hfail ho).mono fun c hc _ => hc)
  unfold reqEnterLocked
  split
  · exact ⟨hset .idle, hi.setIdle r⟩
  split
  · refine ⟨(hset .idle).step rfl ?_ fun q ho => ⟨ho, fun h => h.mono rfl (fun c hc _ => hc) id⟩,
      hi.setIdle r⟩
    show s.queueCnt + 1 = ((s.push p r).queued.length : Int)
    rw [(queued_push s p r).length_eq, hk.queues]
    rfl
  · refine ⟨(hset .sending).step rfl hk.queues fun q ho =>
      ⟨ho, fun h => h.mono rfl (fun c hc _ => hc) fun ha => ?_⟩, ?_⟩
    · by_cases hqr : q = r
      · simp [Serv.setPc, Serv.take, hqr]
      · simpa [Serv.setPc, Serv.take, hqr] using ha
    · have hsend : Retries (s.setPc r .sending) := hi.setPc fun ho _ _ => hfail ho
      exact hsend.of_eq rfl rfl rfl

theorem reqEnterSent_kept (hk : Kept s) (hi : Retries s) (hl : Located s) (hpc : s.pc r = .sending)
    (res : Sent) : Kept (reqEnterSent r res s) ∧ Retries (reqEnterSent r res s) := by
  have hfail : s.owed r = true → Failing s r := fun ho =>
    hi r ho (fun h => nomatch hpc.symm.trans h) fun _ h => nomatch hpc.symm.trans h
  have hset : ∀ x, Kept (s.setPc r x) := fun x =>
    hk.setPc fun ho => Failing.promised ((hfail ho).mono fun c hc _ => hc)
  cases res with
  | ok => exact ⟨hset .idle, hi.setIdle r⟩
  | noSocket =>
    have hfailing : Retries (s.setPc r .failing) := hi.setPc fun ho _ _ => hfail ho
    refine ⟨(hset .failing).step rfl hk.queues fun q ho => ⟨ho, fun h => ?_⟩,
      hfailing.of_eq rfl rfl rfl⟩
    by_cases hqr : q = r
    · subst hqr
      exact Failing.promised ((hfail ho).mono fun c hc _ => hc)
    · refine h.mono rfl (fun c hc _ => hc) fun ha => ?_
      simpa [reqEnterSent, Serv.setPc, Serv.drop, hqr] using ha
  | error =>
    have hidle := hl.setIdle r
    have hfree := setPc_pc_self s r .idle
    unfold reqEnterSent
    rw [exit_setPc]
    exact ⟨(exit_kept_iff (hset .idle) hidle hfree).2 fun _ ho => (hfail ho).mono fun c hc _ => hc,
      exit_retries (hi.setIdle r) hidle hfree⟩

/-- **`rad_server_fail`** calls `req_wakeup_failed` for every request it takes out. -/
theorem fail_kept (hk : Kept s) (hi : Retries s) (ts : Nat) :
    Kept (radServerFail ts s) ∧ Retries (radServerFail ts s) := by
  have hnew : ∀ q ∈ s.queued, Failing (radServerFail ts s) q := fun q hm =>
    ⟨⟨s.ctx q, .reqWakeupFailed, q⟩, List.mem_append_right _ (List.mem_map.2 ⟨q, hm, rfl⟩), rfl, rfl⟩
  have hold : ∀ q, (radServerFail ts s).owed q = true → s.owed q = true ∨ q ∈ s.queued :=
    fun q ho => by simpa [radServerFail, Serv.failQueued] using ho
  refine ⟨⟨hk.alive, rfl, fun q ho => ?_⟩, fun q ho hidle hw => ?_⟩
  · rcases hold q ho with ho | hm
    · exact (hk.promised q ho).mono rfl (fun c hc _ => List.mem_append_left _ hc) id
    · exact (hnew q hm).promised
  · rcases hold q ho with ho | hm
    · exact (hi q ho hidle hw).mono fun c hc _ => List.mem_append_left _ hc
    · exact hnew q hm

theorem reqWakeupLocked_kept (hk : Kept s) (hi : Retries s) {ts : Nat} :
    Kept (reqWakeupLocked r ts s) ∧ Retries (reqWakeupLocked r ts s) := by
  have howed : ∀ q, Function.update s.owed r false q = true → q ≠ r ∧ s.owed q = true := fun q ho => by
    grind
  -- In both branches the others keep what they have.
  have hrest : ∀ t : Serv R C, t.crashed = s.crashed → t.queueCnt = s.queueCnt → t.queue = s.queue →
      t.calls = s.calls → t.owed = Function.update s.owed r false → (∀ q, q ≠ r → t.pc q = s.pc q) →
      (∀ q, q ≠ r → t.active q = s.active q) → Kept t ∧ Retries t := by
    intro t hcrash hcnt hqueue hcalls ho hpc hact
    have hq : t.queued = s.queued := by unfold Serv.queued; rw [hqueue]
    refine ⟨hk.step hcrash (by rw [hcnt, hq]; exact hk.queues) fun q hoq => ?_, fun q hoq hidle hw => ?_⟩
    · obtain ⟨hne, hold⟩ := howed q (ho ▸ hoq)
      exact ⟨hold, fun h => h.mono (hpc q hne) (fun c hc _ => hcalls ▸ hc) fun h => (hact q hne) ▸ h⟩
    · obtain ⟨hne, hold⟩ := howed q (ho ▸ hoq)
      rw [hpc q hne] at hidle hw
      exact (hi q hold hidle hw).mono fun c hc _ => hcalls ▸ hc
  unfold reqWakeupLocked
  split
  · refine hrest _ rfl rfl rfl rfl rfl (fun q hq => ?_) fun q hq => ?_
    · simp [Serv.setPc, Serv.send, Serv.drop, hq]
    · simp [Serv.setPc, Serv.send, Serv.drop, hq]
  · refine hrest _ rfl rfl rfl rfl rfl (fun q hq => ?_) fun q hq => rfl
    simp [Serv.setPc, Serv.send, hq]

theorem drain_kept_iff (hk : Kept s) : Kept s.drain ↔ s.queued = [] := by
  constructor
  · intro h
    have hzero : s.queueCnt = 0 := h.queues
    simp_all [hk.queues]
  · intro h
    have hnone : ∀ q, s.drain.owed q = true → s.owed q = true := fun q ho => by
      simpa [Serv.drain, h] using ho
    have hcnt : s.drain.queueCnt = s.drain.queued.length := by
      show s.queueCnt = 0
      rw [hk.queues, h]
      rfl
    refine hk.step (by simp [Serv.drain, h]) hcnt fun q ho => ⟨hnone q ho, fun hq => ?_⟩
    exact hq.mono rfl (fun c hc _ => List.mem_append_left _ hc) id

theorem drain_retries (hi : Retries s) (h : s.queued = []) : Retries s.drain := by
  intro q ho hidle hw
  have hold : s.owed q = true := by simpa [Serv.drain, h] using ho
  exact (hi q hold hidle hw).mono fun c hc _ => List.mem_append_left _ hc

variable [DecidableEq C]

theorem cancel_frame (s : Serv R C) (r : R) :
    (radServerReqCancel r s).pc = s.pc ∧ (radServerReqCancel r s).active = s.active ∧
      (radServerReqCancel r s).crashed = s.crashed ∧
      (radServerReqCancel r s).owed = Function.update s.owed r false ∧
      (radServerReqCancel r s).calls =
        s.calls.filter fun c => ¬ (c.ctx = s.ctx r ∧ c.func = .reqWakeup) := by
  grind [radServerReqCancel, Serv.unqueue]

/-- **`rad_server_req_cancel`** keeps the promises if no other request relies on its calls. -/
theorem cancel_kept_iff (hk : Kept s) (hl : Located s) :
    Kept (radServerReqCancel r s) ↔ NobodyStranded s (.work (.cancel r)) := by
  obtain ⟨hpc, hact, hcrash, howed, hcalls⟩ := cancel_frame s r
  have hqueues : (radServerReqCancel r s).queueCnt = (radServerReqCancel r s).queued.length := by
    show (s.unqueue r).queueCnt = ((s.unqueue r).queued.length : Int)
    unfold Serv.unqueue
    split
    · next hr =>
      have hlen := queued_erase hl.nodup hr
      show s.queueCnt - 1 = (((s.queue .high).erase r ++ (s.queue .low).erase r).length : Int)
      rw [hk.queues]
      omega
    · exact hk.queues
  -- The calls that are left.
  have hpromised : ∀ q, Promised (radServerReqCancel r s) q ↔ (∃ ts, s.pc q = .waking ts) ∨
      ∃ c ∈ s.calls, c.req = q ∧
        (c.func = .reqWakeupFailed ∨ s.active q = true ∧ c.ctx ≠ s.ctx r) := by
    intro q
    unfold Promised
    rw [hpc, hcalls]
    refine or_congr_right ⟨?_, ?_⟩
    · rintro ⟨c, hc, hq, hf⟩
      obtain ⟨hc, hkeep⟩ := List.mem_filter.1 hc
      refine ⟨c, hc, hq, ?_⟩
      cases hfunc : c.func with
      | reqWakeupFailed => exact .inl rfl
      | reqWakeup => simp_all
    grind
  constructor
  · intro h q hne ho
    refine (hpromised q).1 (h.promised q ?_)
    rw [howed, Function.update_of_ne hne]
    exact ho
  · intro h
    refine ⟨hcrash.trans hk.alive, hqueues, fun q ho => ?_⟩
    rw [howed] at ho
    by_cases hqr : q = r
    · simp [hqr] at ho
    · rw [Function.update_of_ne hqr] at ho
      exact (hpromised q).2 (h q hqr ho)

theorem cancel_retries (hi : Retries s) : Retries (radServerReqCancel r s) := by
  obtain ⟨hpc, -, -, howed, hcalls⟩ := cancel_frame s r
  intro q ho hidle hw
  rw [hpc] at hidle hw
  rw [howed] at ho
  by_cases hqr : q = r
  · simp [hqr] at ho
  · rw [Function.update_of_ne hqr] at ho
    obtain ⟨c, hc, hq, hf⟩ := hi q ho hidle hw
    refine ⟨c, ?_, hq, hf⟩
    simp_all

theorem runCall_kept (hk : Kept s) (hi : Retries s) {c : Call R C} (hpc : s.pc c.req = .idle) :
    Kept (runCall c s) ∧ Retries (runCall c s) := by
  have hother : ∀ q, q ≠ c.req → ∀ d ∈ s.calls, d.req = q → d ∈ s.calls.erase c :=
    fun q hq d hd hdq =>
      (List.mem_erase_of_ne fun h => hq (hdq.symm.trans (congrArg Call.req h))).2 hd
  -- A request whose context is in a function is not that of the call.
  have hretries : ∀ q, s.owed q = true → s.pc q ≠ .idle → (∀ ts, s.pc q ≠ .waking ts) →
      ∃ d ∈ s.calls.erase c, d.req = q ∧ d.func = .reqWakeupFailed := fun q ho hidle hw => by
    obtain ⟨d, hd, hdq, hf⟩ := hi q ho hidle hw
    grind
  cases hf : c.func with
  | reqWakeup =>
    cases ha : s.active c.req with
    | false =>
      rw [runCall_inactive hf ha]
      refine ⟨hk.step rfl hk.queues fun q ho => ⟨ho, fun h => ?_⟩, hretries⟩
      by_cases hq : q = c.req
      · subst hq
        obtain ⟨d, hd, hdq, hdf⟩ := hk.failing ho hpc ha
        refine .inr ⟨d, (List.mem_erase_of_ne fun h => ?_).2 hd, hdq, .inl hdf⟩
        exact nomatch hdf.symm.trans ((congrArg Call.func h).trans hf)
      · exact h.mono rfl (hother q hq) id
    | true =>
      rw [runCall_active hf ha]
      refine ⟨hk.step rfl hk.queues fun q ho => ⟨ho, fun h => ?_⟩, fun q ho hidle hw => ?_⟩
      · by_cases hq : q = c.req
        · subst hq
          exact .inl ⟨s.now, setPc_pc_self s _ _⟩
        · exact h.mono (setPc_pc_of_ne s _ hq) (hother q hq) id
      · by_cases hq : q = c.req
        · subst hq
          exact absurd (setPc_pc_self s _ _) (hw s.now)
        · have hsame : (s.setPc c.req (.waking s.now)).pc q = s.pc q := setPc_pc_of_ne s _ hq
          exact hretries q ho (fun h => hidle (hsame.trans h)) fun ts h => hw ts (hsame.trans h)
  | reqWakeupFailed =>
    rw [runCall_failed hf]
    have howed : ∀ q, Function.update s.owed c.req false q = true → q ≠ c.req ∧ s.owed q = true :=
      fun q ho => by
        grind
    refine ⟨hk.step rfl hk.queues fun q ho => ?_, fun q ho hidle hw => ?_⟩
    · obtain ⟨hq, hold⟩ := howed q ho
      exact ⟨hold, fun h => h.mono rfl (hother q hq) id⟩
    · exact hretries q (howed q ho).2 hidle hw

end Functions

/-! ## Runs -/

section Runs

variable [DecidableEq R] [DecidableEq C]

theorem workStep_kept {e : Work R C} (hk : Kept s) (hi : Retries s) (hl : Located s)
    (h : workStep s e = some s') : (Kept s' ↔ NobodyStranded s (.work e)) ∧ Retries s' := by
  have always : ∀ {t : Serv R C}, Kept t ∧ Retries t → (Kept t ↔ True) ∧ Retries t :=
    fun ht => ⟨iff_true_intro ht.1, ht.2⟩
  cases e with
  | tick =>
    cases h
    exact always ⟨hk.of_eq rfl rfl rfl rfl rfl rfl rfl, hi.of_eq rfl rfl rfl⟩
  | check r prio =>
    obtain ⟨hpc, rfl⟩ := of_enabled_if h
    exact always (reqEnterCheck_kept hk hi hpc)
  | enter r =>
    obtain ⟨prio, hpc, rfl⟩ := of_enter h
    exact always (reqEnterLocked_kept hk hi hpc)
  | sent r res =>
    obtain ⟨hpc, rfl⟩ := of_enabled_if h
    exact always (reqEnterSent_kept hk hi hl hpc res)
  | failed r ts =>
    obtain ⟨⟨hpc, -⟩, rfl⟩ := of_enabled_if h
    obtain ⟨hk', hi'⟩ := fail_kept hk hi ts
    have hfail : (radServerFail ts s).owed r = true → Failing (radServerFail ts s) r := fun ho =>
      hi' r ho (fun h => nomatch hpc.symm.trans h) fun _ h => nomatch hpc.symm.trans h
    exact always ⟨hk'.setPc fun ho => Failing.promised ((hfail ho).mono fun c hc _ => hc),
      hi'.setIdle r⟩
  | fail ts =>
    obtain ⟨-, rfl⟩ := of_enabled_if h
    exact always (fail_kept hk hi ts)
  | call c =>
    obtain ⟨⟨-, hpc⟩, rfl⟩ := of_enabled_if h
    exact always (runCall_kept hk hi hpc)
  | wakeup r =>
    obtain ⟨ts, hpc, rfl⟩ := of_wakeup h
    exact always (reqWakeupLocked_kept hk hi)
  | exit r =>
    obtain ⟨hpc, rfl⟩ := of_enabled_if h
    exact ⟨exit_kept_iff hk hl hpc, exit_retries hi hl hpc⟩
  | cancel r =>
    obtain ⟨-, rfl⟩ := of_enabled_if h
    exact ⟨cancel_kept_iff hk hl, cancel_retries hi⟩
  | defer r =>
    obtain ⟨-, rfl⟩ := of_enabled_if h
    exact always ⟨hk.of_eq rfl rfl rfl rfl rfl rfl rfl, hi.of_eq rfl rfl rfl⟩

/-- **One step** keeps the promises if and only if it meets the condition. -/
theorem step_kept_iff {e : Event R C} (hk : Kept s) (hi : Retries s) (hl : Located s)
    (h : step s e = some s') : Kept s' ↔ NobodyStranded s e := by
  cases e with
  | work e => exact (workStep_kept hk hi hl h).1
  | reload x =>
    cases x with
    | mark | keep limit timeout =>
      cases h
      exact iff_true_intro (hk.of_eq rfl rfl rfl rfl rfl rfl rfl)
    | remove =>
      obtain ⟨-, rfl⟩ := of_enabled_if h
      exact drain_kept_iff hk

theorem step_retries {e : Event R C} (hk : Kept s) (hi : Retries s) (hl : Located s)
    (hc : NobodyStranded s e) (h : step s e = some s') : Retries s' := by
  cases e with
  | work e => exact (workStep_kept hk hi hl h).2
  | reload x =>
    cases x with
    | mark | keep limit timeout =>
      cases h
      exact hi.of_eq rfl rfl rfl
    | remove =>
      obtain ⟨-, rfl⟩ := of_enabled_if h
      exact drain_retries hi hc

/-- **No request is stranded**: every request that has left a queue has a call that will run its
callback, until it runs or is cancelled, and `queue_cnt` counts the queues, if and only if every
step meets the condition. -/
theorem kept_iff (limit : Int) (timeout : Nat) (ctx : R → Option C) (es : List (Event R C))
    (s : Serv R C) (hr : run step (Serv.init limit timeout ctx) es = some s) :
    Throughout step Kept (Serv.init limit timeout ctx) es ↔
      Guarded step NobodyStranded (Serv.init limit timeout ctx) es :=
  throughout_iff_guarded_of (J := fun s => Retries s ∧ Located s)
    (fun _ _ _ hk hj h => step_kept_iff hk hj.1 hj.2 h)
    (fun _ _ _ hk hj hc h => ⟨step_retries hk hj.1 hj.2 hc h, step_located hj.2 h⟩)
    ⟨rfl, rfl, nofun⟩ ⟨fun _ h => (nomatch h), init_located limit timeout ctx⟩ hr

end Runs

/-! ## Runs with one slot -/

/-- The context is in `req_wakeup`. -/
def Pc.isWaking : Pc → Bool
  | .waking _ => true
  | _ => false

theorem Pc.isWaking_iff {x : Pc} : x.isWaking = true ↔ ∃ ts, x = .waking ts := by
  constructor
  · intro h
    cases x with
    | waking ts => exact ⟨ts, rfl⟩
    | _ => cases h
  · rintro ⟨ts, rfl⟩
    rfl

instance [DecidableEq R] (s : Serv R C) (r : R) : Decidable (Failing s r) :=
  inferInstanceAs (Decidable (∃ c ∈ s.calls, _ ∧ _))

instance [DecidableEq R] [DecidableEq C] [Fintype R] (s : Serv R C) (e : Event R C) :
    Decidable (NobodyStranded s e) :=
  match e with
  | .work (.exit r) => inferInstanceAs (Decidable (s.reqLimit ≠ 0 → s.owed r = true → Failing s r))
  | .work (.cancel r) =>
    decidable_of_iff (∀ q, q ≠ r → s.owed q = true → (s.pc q).isWaking = true ∨
        ∃ c ∈ s.calls, c.req = q ∧
          (c.func = .reqWakeupFailed ∨ s.active q = true ∧ c.ctx ≠ s.ctx r))
      (forall_congr' fun _ => imp_congr_right fun _ => imp_congr_right fun _ =>
        or_congr_left Pc.isWaking_iff)
  | .reload .remove => inferInstanceAs (Decidable (s.queued = []))
  | .work .tick | .work (.check _ _) | .work (.enter _) | .work (.sent _ _) | .work (.failed _ _)
  | .work (.fail _) | .work (.call _) | .work (.wakeup _) | .work (.defer _) | .reload .mark
  | .reload (.keep _ _) => isTrue trivial

/-- A request is sent, a second one is woken and sent, and then the server is removed. -/
def tidyRun : List (Event (Fin 2) (Fin 2)) :=
  [.work (.check 0 .high), .work (.enter 0), .work (.sent 0 .ok), .work (.check 1 .low),
    .work (.enter 1), .work (.exit 0), .work (.call ⟨some 1, .reqWakeup, 1⟩), .work (.wakeup 1),
    .reload .mark, .reload .remove]

/-- The server is removed while the second request waits, and its call runs. -/
def reloadRun : List (Event (Fin 2) (Fin 2)) :=
  [.work (.check 0 .high), .work (.enter 0), .work (.sent 0 .ok), .work (.check 1 .low),
    .work (.enter 1), .reload .mark, .reload .remove, .work (.call ⟨some 1, .reqWakeup, 1⟩)]

theorem kept_iff_tidy : Guarded step NobodyStranded (Serv.init 1 1 some) tidyRun ∧
    Throughout step Kept (Serv.init 1 1 some) tidyRun := by
  obtain ⟨s, hr, -⟩ : ∃ s, run step (Serv.init 1 1 some) tidyRun = some s ∧ s.queued = [] := by
    decide +kernel
  have hg : Guarded step NobodyStranded (Serv.init 1 1 some) tidyRun := by decide +kernel
  exact ⟨hg, (kept_iff 1 1 some tidyRun s hr).2 hg⟩

/-- **A stranded request.**  After the run request 1 is owed its callback, is in no queue, and no
call is pending; `queue_cnt` is still 1. -/
theorem reload_strands : ∃ s, run step (Serv.init 1 1 some) reloadRun = some s ∧
    s.owed 1 = true ∧ s.queued = [] ∧ s.calls = [] ∧ s.pc 1 = .idle ∧ s.queueCnt = 1 ∧
    s.crashed = false ∧ ¬ Kept s := by
  obtain ⟨s, hr, ho, hq, hc, hpc, hcnt, halive⟩ :
      ∃ s, run step (Serv.init 1 1 some) reloadRun = some s ∧ s.owed 1 = true ∧ s.queued = [] ∧
        s.calls = [] ∧ s.pc 1 = .idle ∧ s.queueCnt = 1 ∧ s.crashed = false := by decide +kernel
  refine ⟨s, hr, ho, hq, hc, hpc, hcnt, halive, fun h => ?_⟩
  have hqueues := h.queues
  rw [hcnt, hq] at hqueues
  exact absurd hqueues (by decide)

end Radius.Server
