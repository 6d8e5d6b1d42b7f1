import MicroBng.Lib.Tally
import MicroBng.Radius.Places

/-!
# The slots of a server

`Scheduled` says what the counters and queues of a server are for: `req_cnt` is the number of
active requests and at most `req_limit`, `queue_cnt` is the number of requests in the queues, a
request waits only while all slots are taken, and the one that is woken comes before all that are
left waiting. `rad_server_req_enter` gives a slot back and wakes nobody when its callback finds no
socket, and so does `req_wakeup` when the server has failed, by a clock it has read before it took
the lock. Both rely on `rad_server_fail` having emptied the queues.

* `wakeNext_scheduled`, `workStep_scheduled`: what the other steps do
* `scheduled_iff`: a run keeps it exactly if no request waits when such a slot is given back
-/

namespace Radius.Server

open Machine Tally

variable {R C : Type*} {s s' : Serv R C} {r : R} {p : Prio}

/-! ## Slots are counted, and queues are served in order -/

structure Tallied (s : Serv R C) : Prop where
  slots : Counts s.active s.reqCnt
  within : s.reqCnt ≤ s.reqLimit
  queues : s.queueCnt = s.queued.length
  order : ∀ e ∈ s.served, ∀ w ∈ e.left, e.chosen.Before w

/-- Besides, a request waits only while all slots are taken. -/
structure Scheduled (s : Serv R C) : Prop extends Tallied s where
  waits : s.queued ≠ [] → s.reqCnt = s.reqLimit

structure Sorted (s : Serv R C) : Prop where
  limit : 0 < s.reqLimit
  configured : s.needFree = false
  sorted : ∀ p, (s.queue p).Pairwise fun r r' => s.stamp r < s.stamp r'
  stamps : ∀ r ∈ s.queued, s.stamp r < s.stamps

/-- At the two places where a slot is given back and nobody is woken, nobody waits. -/
def NobodyLeft (s : Serv R C) : Work R C → Prop
  | .sent _ .noSocket => s.queued = []
  | .wakeup r =>
    match s.pc r with
    | .waking ts => ts < s.failTime → s.queued = []
    | _ => True
  | _ => True

/-! ## What the parts of the functions keep -/

section Parts

theorem mem_waiters {w : Waiter R} :
    w ∈ s.waiters ↔ w.req ∈ s.queue w.prio ∧ w.stamp = s.stamp w.req := by
  obtain ⟨r, p, n⟩ := w
  unfold Serv.waiters
  cases p with
  | high | low => grind

theorem Sorted.before (ho : Sorted s) (h : s.next = some (p, r)) :
    ∀ w ∈ (s.pop p).waiters, (⟨r, p, s.stamp r⟩ : Waiter R).Before w := by
  intro w hw
  obtain ⟨hm, hstamp⟩ := mem_waiters.1 hw
  obtain ⟨hq, hlow⟩ := next_eq_some h
  have hsorted := ho.sorted p
  rw [hq] at hsorted
  have hold : w.req ∈ s.queue w.prio := (pop_sublist s p w.prio).subset hm
  by_cases hwp : w.prio = p
  · -- In the same queue the others came later.
    have htail : w.req ∈ (s.queue p).tail := by
      rw [hwp] at hm
      simpa [Serv.pop] using hm
    refine .inr ⟨hwp.symm, ?_⟩
    rw [hstamp]
    exact (List.pairwise_cons.1 hsorted).1 _ htail
  · cases p with
    | high =>
      cases hw' : w.prio with
      | high => exact absurd hw' hwp
      | low => exact .inl ⟨rfl, hw'⟩
    | low =>
      cases hw' : w.prio with
      | high =>
        rw [hw', hlow rfl] at hold
        cases hold
      | low => exact absurd hw' hwp

theorem Sorted.shrink (ho : Sorted s) (hsub : ∀ p, (s'.queue p).Sublist (s.queue p))
    (hlimit : s'.reqLimit = s.reqLimit) (hfree : s'.needFree = s.needFree)
    (hstamp : s'.stamp = s.stamp) (hstamps : s'.stamps = s.stamps) : Sorted s' := by
  have hq : s'.queued.Sublist s.queued := (hsub .high).append (hsub .low)
  constructor
  case limit => rw [hlimit]; exact ho.limit
  case configured => rw [hfree]; exact ho.configured
  case sorted => rw [hstamp]; exact fun p => (ho.sorted p).sublist (hsub p)
  case stamps => rw [hstamp, hstamps]; exact fun q hm => ho.stamps q (hq.subset hm)

theorem Scheduled.frame (hs : Scheduled s) {now failTime : Nat} {ctx : R → Option C} {pc : R → Pc}
    {calls : List (Call R C)} {owed : R → Bool} :
    Scheduled { s with
      now := now, failTime := failTime, ctx := ctx, pc := pc, calls := calls, owed := owed } :=
  ⟨⟨hs.slots, hs.within, hs.queues, hs.order⟩, hs.waits⟩

theorem Sorted.frame (ho : Sorted s) {reqCnt : Int} {now failTime : Nat} {ctx : R → Option C}
    {active : R → Bool} {pc : R → Pc} {calls : List (Call R C)} {owed : R → Bool}
    {served : List (Served R)} :
    Sorted { s with
      reqCnt := reqCnt, now := now, failTime := failTime, ctx := ctx, active := active, pc := pc,
      calls := calls, owed := owed, served := served } :=
  ⟨ho.limit, ho.configured, ho.sorted, ho.stamps⟩

variable [DecidableEq R]

theorem Tallied.drop (ht : Tallied s) (ha : s.active r = true) : Tallied (s.drop r) where
  slots := ht.slots.clear ha
  within := Int.le_trans (Int.sub_le_self _ (by decide)) ht.within
  queues := ht.queues
  order := ht.order

theorem drop_scheduled_iff (hs : Scheduled s) (ha : s.active r = true) :
    Scheduled (s.drop r) ↔ s.queued = [] := by
  constructor
  · intro h
    by_contra hne
    have hnow : s.reqCnt - 1 = s.reqLimit := h.waits hne
    have := hs.within
    omega
  · intro h
    exact ⟨hs.toTallied.drop ha, fun hne => absurd h hne⟩

/-- **The end of `rad_server_req_exit`**, after a slot has been given back. -/
theorem wakeNext_scheduled (ht : Tallied s) (hl : Located s) (ho : Sorted s)
    (hroom : s.reqCnt < s.reqLimit) (hwaits : s.queued ≠ [] → s.reqCnt + 1 = s.reqLimit) :
    Scheduled (wakeNext s) ∧ Sorted (wakeNext s) := by
  unfold wakeNext
  rw [if_pos hroom]
  cases h : s.next with
  | none => exact ⟨⟨ht, fun hne => absurd (next_eq_none h) hne⟩, ho⟩
  | some a =>
    obtain ⟨p, r⟩ := a
    have hmem : r ∈ s.queued := queued_pop h ▸ List.mem_cons_self
    have hlen : s.queued.length = (s.pop p).queued.length + 1 := by
      rw [queued_pop h, List.length_cons]
    have hpop : Sorted (s.pop p) := ho.shrink (pop_sublist s p) rfl rfl rfl rfl
    refine ⟨⟨⟨ht.slots.set (hl.passive r hmem).1, Int.add_one_le_iff.2 hroom, ?_, ?_⟩,
      fun _ => hwaits (List.ne_nil_of_mem hmem)⟩, hpop.frame⟩
    · show s.queueCnt - 1 = ((s.pop p).queued.length : Int)
      rw [ht.queues]
      omega
    · intro e he
      rcases List.mem_append.1 he with he | he
      · exact ht.order e he
      · cases List.mem_singleton.1 he
        exact ho.before h

theorem Scheduled.push (hs : Scheduled s) (hfull : s.reqLimit ≤ s.reqCnt) :
    Scheduled (s.push p r) where
  slots := hs.slots
  within := hs.within
  queues := by
    show s.queueCnt + 1 = _
    rw [(queued_push s p r).length_eq, hs.queues]
    rfl
  order := hs.order
  waits _ := Int.le_antisymm hs.within hfull

theorem Sorted.push (ho : Sorted s) (hq : r ∉ s.queued) : Sorted (s.push p r) := by
  have hstamp : ∀ q ∈ s.queued, (s.push p r).stamp q = s.stamp q := fun q hm => by
    have hne : q ≠ r := fun h => hq (h ▸ hm)
    simp [Serv.push, hne]
  have hself : (s.push p r).stamp r = s.stamps := by simp [Serv.push]
  have hsorted : ∀ p', (s.queue p').Pairwise fun a b => (s.push p r).stamp a < (s.push p r).stamp b :=
    fun p' => (ho.sorted p').imp_of_mem fun {a b} ha hb hlt => by
      rw [hstamp a (mem_queued.2 ⟨p', ha⟩), hstamp b (mem_queued.2 ⟨p', hb⟩)]
      exact hlt
  constructor
  case limit => exact ho.limit
  case configured => exact ho.configured
  case sorted =>
    intro p'
    by_cases hpp : p' = p
    · subst hpp
      have hqueue : (s.push p' r).queue p' = s.queue p' ++ [r] := by simp [Serv.push]
      rw [hqueue, List.pairwise_append]
      refine ⟨hsorted p', List.pairwise_singleton _ _, fun a ha b hb => ?_⟩
      have haq : a ∈ s.queued := mem_queued.2 ⟨p', ha⟩
      simp_all [ho.stamps]
    simp_all [Serv.push]
  case stamps =>
    intro q hm
    rcases List.mem_cons.1 ((queued_push s p r).mem_iff.1 hm) with rfl | hm
    · rw [hself]
      exact Nat.lt_succ_self _
    · rw [hstamp q hm]
      exact Nat.lt_succ_of_lt (ho.stamps q hm)

theorem unqueue_scheduled (hs : Scheduled s) (hl : Located s) (ho : Sorted s) (r : R) :
    Scheduled (s.unqueue r) ∧ Sorted (s.unqueue r) := by
  unfold Serv.unqueue
  split
  · next hr =>
    have hlen := queued_erase hl.nodup hr
    refine ⟨⟨⟨hs.slots, hs.within, ?_, hs.order⟩, fun _ => hs.waits (List.ne_nil_of_mem hr)⟩,
      ho.shrink (fun _ => List.erase_sublist) rfl rfl rfl rfl⟩
    show s.queueCnt - 1 = (((s.queue .high).erase r ++ (s.queue .low).erase r).length : Int)
    rw [hs.queues]
    omega
  · exact ⟨hs, ho⟩

end Parts

/-! ## The functions -/

section Functions

variable [DecidableEq R]

section

variable (hs : Scheduled s)
include hs

theorem exit_scheduled (hl : Located s) (ho : Sorted s) (hpc : s.pc r = .idle) :
    Scheduled (radServerReqExit r s) ∧ Sorted (radServerReqExit r s) := by
  unfold radServerReqExit
  split
  · exact ⟨hs, ho⟩
  split
  · exact ⟨hs, ho⟩
  · next ha =>
    have ha : s.active r = true := Bool.not_eq_false _ ▸ ha
    have hrel : s.release r = s.drop r := by
      unfold Serv.release Serv.drop
      rw [if_pos (hs.slots.pos ha)]
    have hroom : s.reqCnt - 1 < s.reqLimit := Int.sub_one_lt_of_le hs.within
    have hwaits : s.queued ≠ [] → s.reqCnt - 1 + 1 = s.reqLimit := fun h => by
      rw [Int.sub_add_cancel]
      exact hs.waits h
    rw [hrel]
    exact wakeNext_scheduled (hs.toTallied.drop ha) (hl.deactivate_idle (.inl hpc))
      (ho.frame) hroom hwaits

theorem reqEnterCheck_scheduled (ho : Sorted s) :
    Scheduled (reqEnterCheck r p s) ∧ Sorted (reqEnterCheck r p s) := by
  unfold reqEnterCheck
  split
  · exact ⟨hs, ho⟩
  split
  · exact ⟨hs, ho⟩
  split
  · exact ⟨hs, ho⟩
  split
  · exact ⟨hs, ho⟩
  · exact ⟨hs.frame, ho.frame⟩

theorem reqEnterLocked_scheduled (hl : Located s) (ho : Sorted s) (hpc : s.pc r = .entering p) :
    Scheduled (reqEnterLocked r p s) ∧ Sorted (reqEnterLocked r p s) := by
  have hq : r ∉ s.queued := hl.not_queued fun h => nomatch hpc.symm.trans h
  unfold reqEnterLocked
  split
  · exact ⟨hs.frame, ho.frame⟩
  split
  · next hfull => exact ⟨(hs.push hfull).frame, (ho.push hq).frame⟩
  · next hfull =>
    have hroom : s.reqCnt < s.reqLimit := Int.not_le.1 hfull
    have hempty : s.queued = [] := by
      by_contra hne
      have := hs.waits hne
      omega
    exact ⟨⟨⟨hs.slots.set (hl.entering r p hpc), Int.add_one_le_iff.2 hroom, hs.queues, hs.order⟩,
      fun hne => absurd hempty hne⟩, ho.frame⟩

theorem reqEnterSent_scheduled (hl : Located s) (ho : Sorted s)
    (hpc : s.pc r = .sending) (res : Sent) :
    (Scheduled (reqEnterSent r res s) ↔ (res = .noSocket → s.queued = [])) ∧
      Sorted (reqEnterSent r res s) := by
  cases res with
  | ok => exact ⟨⟨fun _ => nofun, fun _ => hs.frame⟩, ho.frame⟩
  | noSocket =>
    have hdrop := drop_scheduled_iff hs (hl.sending r hpc)
    refine ⟨⟨fun h _ => ?_, fun h => (hdrop.2 (h rfl)).frame⟩, ho.frame⟩
    exact hdrop.1 ⟨⟨h.slots, h.within, h.queues, h.order⟩, h.waits⟩
  | error =>
    have hidle : Scheduled (s.setPc r .idle) := hs.frame
    have hexit := exit_scheduled hidle (hl.setIdle r) (ho.frame) (setPc_pc_self s r .idle)
    simp [reqEnterSent, exit_setPc, hexit.1, hexit.2]

theorem fail_scheduled (ho : Sorted s) (ts : Nat) :
    Scheduled (radServerFail ts s) ∧ Sorted (radServerFail ts s) :=
  ⟨⟨⟨hs.slots, hs.within, rfl, hs.order⟩, fun h => absurd rfl h⟩,
    ho.shrink (fun _ => List.nil_sublist _) rfl rfl rfl rfl⟩

theorem reqWakeupLocked_scheduled (hl : Located s) (ho : Sorted s) {ts : Nat}
    (hpc : s.pc r = .waking ts) :
    (Scheduled (reqWakeupLocked r ts s) ↔ (ts < s.failTime → s.queued = [])) ∧
      Sorted (reqWakeupLocked r ts s) := by
  unfold reqWakeupLocked
  rw [ho.configured]
  by_cases hts : ts < s.failTime
  · rw [if_pos (.inl hts)]
    have hdrop := drop_scheduled_iff hs (hl.waking r ts hpc)
    refine ⟨⟨fun h _ => ?_, fun h => (hdrop.2 (h hts)).frame⟩, ho.frame⟩
    exact hdrop.1 ⟨⟨h.slots, h.within, h.queues, h.order⟩, h.waits⟩
  · rw [if_neg (by simpa using hts)]
    exact ⟨⟨fun _ h => absurd h hts, fun _ => hs.frame⟩, ho.frame⟩

end

variable [DecidableEq C]

theorem cancel_scheduled (hs : Scheduled s) (hl : Located s) (ho : Sorted s) :
    Scheduled (radServerReqCancel r s) ∧ Sorted (radServerReqCancel r s) := by
  obtain ⟨hs', ho'⟩ := unqueue_scheduled hs hl ho r
  exact ⟨hs'.frame, ho'.frame⟩

theorem runCall_scheduled (hs : Scheduled s) (ho : Sorted s) (c : Call R C) :
    Scheduled (runCall c s) ∧ Sorted (runCall c s) := by
  cases hf : c.func with
  | reqWakeup =>
    cases ha : s.active c.req with
    | false =>
      rw [runCall_inactive hf ha]
      exact ⟨hs.frame, ho.frame⟩
    | true =>
      rw [runCall_active hf ha]
      exact ⟨hs.frame, ho.frame⟩
  | reqWakeupFailed =>
    rw [runCall_failed hf]
    exact ⟨hs.frame, ho.frame⟩

end Functions

/-! ## Runs -/

section Runs

theorem init_scheduled (limit : Int) (hl : 0 < limit) (timeout : Nat) (ctx : R → Option C) :
    Scheduled (Serv.init limit timeout ctx) where
  slots := counts_none
  within := Int.le_of_lt hl
  queues := rfl
  order _ h := nomatch h
  waits h := absurd rfl h

theorem init_sorted (limit : Int) (hl : 0 < limit) (timeout : Nat) (ctx : R → Option C) :
    Sorted (Serv.init limit timeout ctx) where
  limit := hl
  configured := rfl
  sorted _ := List.Pairwise.nil
  stamps _ h := nomatch h

variable [DecidableEq R] [DecidableEq C]

/-- **One step**: it keeps the schedule if and only if nobody is left waiting. -/
theorem workStep_scheduled {e : Work R C} (hs : Scheduled s) (hl : Located s) (ho : Sorted s)
    (h : workStep s e = some s') : (Scheduled s' ↔ NobodyLeft s e) ∧ Sorted s' := by
  have always : ∀ {t : Serv R C}, Scheduled t ∧ Sorted t → (Scheduled t ↔ True) ∧ Sorted t :=
    fun ht => ⟨iff_true_intro ht.1, ht.2⟩
  cases e with
  | tick =>
    cases h
    exact always ⟨hs.frame, ho.frame⟩
  | check r prio =>
    obtain ⟨-, rfl⟩ := of_enabled_if h
    exact always (reqEnterCheck_scheduled hs ho)
  | enter r =>
    obtain ⟨prio, hpc, rfl⟩ := of_enter h
    exact always (reqEnterLocked_scheduled hs hl ho hpc)
  | sent r res =>
    obtain ⟨hpc, rfl⟩ := of_enabled_if h
    obtain ⟨hiff, hsorted⟩ := reqEnterSent_scheduled hs hl ho hpc res
    refine ⟨hiff.trans ?_, hsorted⟩
    cases res with
    | noSocket => exact ⟨fun h => h rfl, fun h _ => h⟩
    | ok | error => exact ⟨fun _ => trivial, fun _ => nofun⟩
  | failed r ts =>
    obtain ⟨-, rfl⟩ := of_enabled_if h
    obtain ⟨hs', ho'⟩ := fail_scheduled hs ho ts
    exact always ⟨hs'.frame, ho'.frame⟩
  | fail ts =>
    obtain ⟨-, rfl⟩ := of_enabled_if h
    exact always (fail_scheduled hs ho ts)
  | call c =>
    obtain ⟨-, rfl⟩ := of_enabled_if h
    exact always (runCall_scheduled hs ho c)
  | wakeup r =>
    obtain ⟨ts, hpc, rfl⟩ := of_wakeup h
    rw [NobodyLeft, hpc]
    exact reqWakeupLocked_scheduled hs hl ho hpc
  | exit r =>
    obtain ⟨hpc, rfl⟩ := of_enabled_if h
    exact always (exit_scheduled hs hl ho hpc)
  | cancel r =>
    obtain ⟨-, rfl⟩ := of_enabled_if h
    exact always (cancel_scheduled hs hl ho)
  | defer r =>
    obtain ⟨-, rfl⟩ := of_enabled_if h
    exact always ⟨hs.frame, ho.frame⟩

/-- **The scheduler of a server**: counters, queues and order of service are right at every moment
if and only if nobody waits when a slot is given back and nobody is woken. -/
theorem scheduled_iff (limit : Int) (hl : 0 < limit) (timeout : Nat) (ctx : R → Option C)
    (es : List (Work R C)) (s : Serv R C)
    (hr : run workStep (Serv.init limit timeout ctx) es = some s) :
    Throughout workStep Scheduled (Serv.init limit timeout ctx) es ↔
      Guarded workStep NobodyLeft (Serv.init limit timeout ctx) es :=
  throughout_iff_guarded_of (J := fun s => Located s ∧ Sorted s)
    (fun _ _ _ hs hj h => (workStep_scheduled hs hj.1 hj.2 h).1)
    (fun _ _ _ hs hj _ h => ⟨workStep_located hj.1 h, (workStep_scheduled hs hj.1 hj.2 h).2⟩)
    (init_scheduled limit hl timeout ctx)
    ⟨init_located limit timeout ctx, init_sorted limit hl timeout ctx⟩ hr

end Runs

/-! ## Runs with one slot -/

/-- A request is sent, a second one waits, is woken and is sent. -/
def plainRun : List (Work Nat Nat) :=
  [.check 0 .high, .enter 0, .sent 0 .ok, .check 1 .low, .enter 1, .exit 0,
    .call ⟨none, .reqWakeup, 1⟩, .wakeup 1, .exit 1]

/-- Request 1 is woken when the server fails; `req_wakeup` reads the clock, the failure ends,
request 2 is queued, then it takes the lock. -/
def staleRun : List (Work Nat Nat) :=
  [.check 0 .high, .enter 0, .sent 0 .ok, .check 1 .high, .enter 1, .exit 0, .fail 0,
    .call ⟨none, .reqWakeup, 1⟩, .tick, .check 2 .high, .enter 2, .wakeup 1]

instance [DecidableEq R] (s : Serv R C) (e : Work R C) : Decidable (NobodyLeft s e) :=
  match e with
  | .sent _ .noSocket => inferInstanceAs (Decidable (s.queued = []))
  | .sent _ .ok | .sent _ .error => isTrue trivial
  | .wakeup r =>
    match h : s.pc r with
    | .waking ts => decidable_of_iff (ts < s.failTime → s.queued = []) (by rw [NobodyLeft, h])
    | .idle | .entering _ | .sending | .failing => isTrue (by rw [NobodyLeft, h]; trivial)
  | .tick | .check _ _ | .enter _ | .failed _ _ | .fail _ | .call _ | .exit _ | .cancel _ | .defer _ =>
    isTrue trivial

/-- The condition holds in a run in which a request waits. -/
theorem scheduled_iff_plain : Guarded workStep NobodyLeft (Serv.init 1 1 fun _ => none) plainRun ∧
    Throughout workStep Scheduled (Serv.init 1 1 fun _ => none) plainRun := by
  obtain ⟨s, hr, -⟩ : ∃ s, run workStep (Serv.init 1 1 fun _ => none) plainRun = some s ∧
      s.queued = [] := by decide +kernel
  have hg : Guarded workStep NobodyLeft (Serv.init 1 1 fun _ => none) plainRun := by decide +kernel
  exact ⟨hg, (scheduled_iff 1 (by decide) 1 (fun _ => none) plainRun s hr).2 hg⟩

/-- **A request that waits for nothing.**  After the run request 2 is in the queue, no slot is
taken and no call is pending. -/
theorem waits_without_call : ∃ s, run workStep (Serv.init 1 1 fun _ => none) staleRun = some s ∧
    s.queued = [2] ∧ s.reqCnt = 0 ∧ s.reqLimit = 1 ∧ s.calls = [] ∧
    (∀ r ∈ [0, 1, 2], s.pc r = .idle ∧ s.active r = false) ∧ ¬ Scheduled s := by
  obtain ⟨s, hr, hq, hc, hl, hcalls, hpc⟩ :
      ∃ s, run workStep (Serv.init 1 1 fun _ => none) staleRun = some s ∧ s.queued = [2] ∧
        s.reqCnt = 0 ∧ s.reqLimit = 1 ∧ s.calls = [] ∧
        ∀ r ∈ ([0, 1, 2] : List Nat), s.pc r = .idle ∧ s.active r = false := by decide +kernel
  refine ⟨s, hr, hq, hc, hl, hcalls, hpc, fun h => ?_⟩
  have hwait := h.waits (by rw [hq]; exact List.cons_ne_nil 2 [])
  rw [hc, hl] at hwait
  exact absurd hwait (by decide)

end Radius.Server
