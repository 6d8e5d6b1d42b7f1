import Mathlib.Data.List.Nodup
import MicroBng.Radius.Server

/-!
# Where a request is

`Located`: a request is in one queue at most, and one that waits there has no slot and its context is
in none of the functions. A request whose context is in a function has a slot or has none, by the
place in the function.

* `step_located`: every step keeps it, those of `load_config` included
-/

namespace Radius.Server

open Machine

variable {R C : Type*} {s s' : Serv R C} {r : R} {p : Prio}

/-! ## Queues -/

section Queues

theorem mem_queued : r ∈ s.queued ↔ ∃ p, r ∈ s.queue p := by
  constructor
  · intro h
    rcases List.mem_append.1 h with h | h
    · exact ⟨.high, h⟩
    · exact ⟨.low, h⟩
  · rintro ⟨p, h⟩
    cases p with
    | high => exact List.mem_append_left _ h
    | low => exact List.mem_append_right _ h

theorem next_eq_some (h : s.next = some (p, r)) :
    s.queue p = r :: (s.queue p).tail ∧ (p = .low → s.queue .high = []) := by
  grind [Serv.next]

theorem next_eq_none (h : s.next = none) : s.queued = [] := by
  unfold Serv.next at h
  split at h
  · cases h
  · cases h
  · next hq hq' => exact List.append_eq_nil_iff.2 ⟨hq, hq'⟩

theorem queued_pop (h : s.next = some (p, r)) : s.queued = r :: (s.pop p).queued := by
  obtain ⟨hq, hlow⟩ := next_eq_some h
  cases p with
  | high =>
    have hpop : (s.pop .high).queued = (s.queue .high).tail ++ s.queue .low := by
      simp [Serv.queued, Serv.pop]
    rw [hpop, ← List.cons_append, ← hq]
    rfl
  | low =>
    have hpop : (s.pop .low).queued = (s.queue .low).tail := by
      simp [Serv.queued, Serv.pop, hlow rfl]
    rw [hpop, ← hq, Serv.queued, hlow rfl, List.nil_append]

theorem pop_sublist (s : Serv R C) (p q : Prio) : ((s.pop p).queue q).Sublist (s.queue q) := by
  show (Function.update s.queue p (s.queue p).tail q).Sublist _
  grind

variable [DecidableEq R]

theorem queued_push (s : Serv R C) (p : Prio) (r : R) :
    (s.push p r).queued.Perm (r :: s.queued) := by
  cases p with
  | high => simp [Serv.queued, Serv.push]
  | low =>
    have hpush : (s.push .low r).queued = s.queued ++ [r] := by simp [Serv.queued, Serv.push]
    rw [hpush]
    exact List.perm_append_singleton r _

theorem queued_erase (hn : s.queued.Nodup) (hr : r ∈ s.queued) :
    ((s.queue .high).erase r ++ (s.queue .low).erase r).length + 1 = s.queued.length := by
  have hdisj := (List.nodup_append.1 hn).2.2
  unfold Serv.queued at hr ⊢
  grind

end Queues

/-! ## The invariant -/

structure Located (s : Serv R C) : Prop where
  nodup : s.queued.Nodup
  passive : ∀ r ∈ s.queued, s.active r = false ∧ s.pc r = .idle
  entering : ∀ r p, s.pc r = .entering p → s.active r = false
  sending : ∀ r, s.pc r = .sending → s.active r = true
  waking : ∀ r ts, s.pc r = .waking ts → s.active r = true

section Parts

section

variable (hl : Located s)
include hl

theorem Located.not_queued (h : s.pc r ≠ .idle) : r ∉ s.queued :=
  fun hm => h (hl.passive r hm).2

theorem Located.not_queued_of_active (h : s.active r = true) : r ∉ s.queued :=
  fun hm => nomatch (hl.passive r hm).1.symm.trans h

theorem Located.nodup_pop (h : s.next = some (p, r)) :
    r ∉ (s.pop p).queued ∧ (s.pop p).queued.Nodup := by
  have hn := hl.nodup
  rw [queued_pop h] at hn
  exact List.nodup_cons.1 hn

theorem Located.shrink (hsub : ∀ p, (s'.queue p).Sublist (s.queue p))
    (ha : s'.active = s.active) (hpc : s'.pc = s.pc) : Located s' := by
  have hq : s'.queued.Sublist s.queued := (hsub .high).append (hsub .low)
  constructor
  case nodup => exact hl.nodup.sublist hq
  case passive => rw [ha, hpc]; exact fun q hm => hl.passive q (hq.subset hm)
  case entering => rw [ha, hpc]; exact hl.entering
  case sending => rw [ha, hpc]; exact hl.sending
  case waking => rw [ha, hpc]; exact hl.waking

theorem Located.of_eq (hq : s'.queue = s.queue) (ha : s'.active = s.active)
    (hpc : s'.pc = s.pc) : Located s' :=
  hl.shrink (fun p => by rw [hq]) ha hpc

end

variable [DecidableEq R]

theorem setPc_pc_self (s : Serv R C) (r : R) (x : Pc) : (s.setPc r x).pc r = x := by
  simp [Serv.setPc]

theorem setPc_pc_of_ne (s : Serv R C) {r q : R} (x : Pc) (h : q ≠ r) :
    (s.setPc r x).pc q = s.pc q := by
  simp [Serv.setPc, h]

theorem setPc_cases {q r : R} {x : Pc} {motive : Pc → Prop} (hr : q = r → motive x)
    (hne : q ≠ r → motive (s.pc q)) : motive ((s.setPc r x).pc q) := by
  by_cases h : q = r
  · subst h
    rw [setPc_pc_self]
    exact hr rfl
  · rw [setPc_pc_of_ne s x h]
    exact hne h

variable (hl : Located s)
include hl

theorem Located.setPc {x : Pc} (hq : x = .idle ∨ r ∉ s.queued)
    (he : ∀ p, x = .entering p → s.active r = false) (hs : x = .sending → s.active r = true)
    (hw : ∀ ts, x = .waking ts → s.active r = true) : Located (s.setPc r x) := by
  constructor
  case nodup => exact hl.nodup
  case passive =>
    intro q hmem
    obtain ⟨ha, hidle⟩ := hl.passive q hmem
    refine ⟨ha, setPc_cases (motive := (· = .idle)) (fun h => ?_) fun _ => hidle⟩
    exact hq.resolve_right fun hr => hr (h ▸ hmem)
  case entering =>
    intro q p'
    exact setPc_cases (motive := fun y => y = _ → _) (fun h => h ▸ he p') fun _ => hl.entering q p'
  case sending =>
    intro q
    exact setPc_cases (motive := fun y => y = _ → _) (fun h => h ▸ hs) fun _ => hl.sending q
  case waking =>
    intro q ts
    exact setPc_cases (motive := fun y => y = _ → _) (fun h => h ▸ hw ts) fun _ => hl.waking q ts

theorem Located.setIdle (r : R) : Located (s.setPc r .idle) :=
  hl.setPc (.inl rfl) nofun nofun nofun

theorem Located.deactivate (hs : s.pc r ≠ .sending) (hw : ∀ ts, s.pc r ≠ .waking ts)
    {n : Int} : Located { s with reqCnt := n, active := Function.update s.active r false } := by
  have hkeep : ∀ q, q ≠ r → s.active q = true → Function.update s.active r false q = true :=
    fun q hq h => by simpa [hq] using h
  have hfalse : ∀ q, s.active q = false → Function.update s.active r false q = false := fun q h => by
    grind
  constructor
  case nodup => exact hl.nodup
  case passive => exact fun q hm => ⟨hfalse q (hl.passive q hm).1, (hl.passive q hm).2⟩
  case entering => exact fun q p' h => hfalse q (hl.entering q p' h)
  case sending => exact fun q h => hkeep q (fun hq => hs (hq ▸ h)) (hl.sending q h)
  grind [hl.waking]

theorem Located.deactivate_idle (hpc : s.pc r = .idle ∨ s.pc r = .failing)
    {n : Int} : Located { s with reqCnt := n, active := Function.update s.active r false } := by
  grind [hl.deactivate]

theorem Located.activate (hq : r ∉ s.queued) (he : ∀ p, s.pc r ≠ .entering p)
    {n : Int} : Located { s with reqCnt := n, active := Function.update s.active r true } := by
  have hkeep : ∀ q, s.active q = true → Function.update s.active r true q = true := fun q h => by
    grind
  have hfalse : ∀ q, q ≠ r → s.active q = false → Function.update s.active r true q = false :=
    fun q hqr h => by simpa [hqr] using h
  constructor
  case nodup => exact hl.nodup
  case passive =>
    exact fun q hm => ⟨hfalse q (fun h => hq (h ▸ hm)) (hl.passive q hm).1, (hl.passive q hm).2⟩
  case entering => exact fun q p' h => hfalse q (fun hqr => he p' (hqr ▸ h)) (hl.entering q p' h)
  case sending => exact fun q h => hkeep q (hl.sending q h)
  case waking => exact fun q ts h => hkeep q (hl.waking q ts h)

theorem Located.push (hq : r ∉ s.queued) (ha : s.active r = false)
    (hpc : s.pc r = .idle) : Located (s.push p r) := by
  have hperm := queued_push s p r
  constructor
  case nodup => exact hperm.nodup_iff.2 (List.nodup_cons.2 ⟨hq, hl.nodup⟩)
  case passive =>
    intro q hm
    rcases List.mem_cons.1 (hperm.mem_iff.1 hm) with rfl | hm
    · exact ⟨ha, hpc⟩
    · exact hl.passive q hm
  case entering => exact hl.entering
  case sending => exact hl.sending
  case waking => exact hl.waking

end Parts

/-! ## The functions -/

section Functions

variable [DecidableEq R]

section

variable (hl : Located s)
include hl

theorem wakeNext_located : Located (wakeNext s) := by
  unfold wakeNext
  split
  · cases h : s.next with
    | none => exact hl
    | some a =>
      obtain ⟨p, r⟩ := a
      have hmem : r ∈ s.queued := queued_pop h ▸ List.mem_cons_self
      have hpop : Located (s.pop p) := hl.shrink (pop_sublist s p) rfl rfl
      have hact := hpop.activate (r := r) (n := s.reqCnt + 1) (hl.nodup_pop h).1 fun p' hpc =>
        nomatch (hl.passive r hmem).2.symm.trans hpc
      exact hact.of_eq rfl rfl rfl
  · exact hl

theorem exit_located (hpc : s.pc r = .idle) : Located (radServerReqExit r s) := by
  unfold radServerReqExit
  split
  · exact hl
  split
  · exact hl
  · exact wakeNext_located (hl.deactivate_idle (.inl hpc))

omit hl in
theorem exit_setPc (s : Serv R C) (r q : R) (x : Pc) :
    (radServerReqExit r s).setPc q x = radServerReqExit r (s.setPc q x) := by
  have hwake : ∀ t : Serv R C, (wakeNext t).setPc q x = wakeNext (t.setPc q x) := fun t => by
    have hnext : (t.setPc q x).next = t.next := rfl
    unfold wakeNext
    rw [hnext, apply_ite fun t : Serv R C => t.setPc q x]
    cases t.next with
    | none | some a => rfl
  unfold radServerReqExit
  rw [apply_ite fun t : Serv R C => t.setPc q x, apply_ite fun t : Serv R C => t.setPc q x, hwake]
  rfl

theorem reqEnterCheck_located : Located (reqEnterCheck r p s) := by
  unfold reqEnterCheck
  split
  · exact hl
  split
  · exact hl
  split
  · exact hl
  split
  · exact hl
  simp_all [hl.setPc]

theorem reqEnterLocked_located (hpc : s.pc r = .entering p) : Located (reqEnterLocked r p s) := by
  have hq : r ∉ s.queued := hl.not_queued fun h => nomatch hpc.symm.trans h
  have hidle := hl.setIdle r
  have hfree := setPc_pc_self s r .idle
  unfold reqEnterLocked
  split
  · exact hidle
  split
  · exact hidle.push hq (hl.entering r p hpc) hfree
  · have hact : Located ((s.setPc r .idle).take r) :=
      hidle.activate hq fun p' h => nomatch hfree.symm.trans h
    have hsend : Located (((s.setPc r .idle).take r).setPc r .sending) :=
      hact.setPc (.inr hq) nofun (fun _ => by simp [Serv.take]) nofun
    simp_all [Serv.setPc, Serv.take]

theorem reqEnterSent_located (hpc : s.pc r = .sending) (res : Sent) :
    Located (reqEnterSent r res s) := by
  cases res with
  | ok => exact hl.setIdle r
  | noSocket =>
    have hq : r ∉ s.queued := hl.not_queued fun h => nomatch hpc.symm.trans h
    have hfailing : Located (s.setPc r .failing) := hl.setPc (.inr hq) nofun nofun nofun
    exact hfailing.deactivate_idle (.inr (setPc_pc_self s r _))
  | error =>
    unfold reqEnterSent
    rw [exit_setPc]
    exact exit_located (hl.setIdle r) (setPc_pc_self s r _)

theorem fail_located (ts : Nat) : Located (radServerFail ts s) :=
  hl.shrink (fun _ => List.nil_sublist _) rfl rfl

theorem reqWakeupLocked_located (ts : Nat) : Located (reqWakeupLocked r ts s) := by
  have hidle := hl.setIdle r
  unfold reqWakeupLocked
  split
  · exact (hidle.deactivate_idle (n := s.reqCnt - 1) (.inl (setPc_pc_self s r _))).of_eq rfl rfl rfl
  · exact hidle.of_eq rfl rfl rfl

end

theorem unqueue_queue (s : Serv R C) (r : R) (p : Prio) :
    ((s.unqueue r).queue p).Sublist (s.queue p) := by
  grind [Serv.unqueue, List.erase_sublist]

variable [DecidableEq C]

variable (hl : Located s)
include hl

theorem cancel_located : Located (radServerReqCancel r s) := by
  refine hl.shrink (unqueue_queue s r) ?_ ?_
  · unfold radServerReqCancel Serv.unqueue
    split <;> rfl
  · unfold radServerReqCancel Serv.unqueue
    split <;> rfl

theorem runCall_located (c : Call R C) : Located (runCall c s) := by
  cases hf : c.func with
  | reqWakeup =>
    cases ha : s.active c.req with
    | false =>
      rw [runCall_inactive hf ha]
      exact hl.of_eq rfl rfl rfl
    | true =>
      have hwaking : Located (s.setPc c.req (.waking s.now)) :=
        hl.setPc (.inr (hl.not_queued_of_active ha)) nofun nofun fun _ _ => ha
      rw [runCall_active hf ha]
      exact hwaking.of_eq rfl rfl rfl
  | reqWakeupFailed =>
    rw [runCall_failed hf]
    exact hl.of_eq rfl rfl rfl

theorem workStep_located {e : Work R C} (h : workStep s e = some s') : Located s' := by
  cases e with
  | tick =>
    cases h
    exact hl.of_eq rfl rfl rfl
  | check r prio =>
    obtain ⟨-, rfl⟩ := of_enabled_if h
    exact reqEnterCheck_located hl
  | enter r =>
    obtain ⟨prio, hpc, rfl⟩ := of_enter h
    exact reqEnterLocked_located hl hpc
  | sent r res =>
    obtain ⟨hpc, rfl⟩ := of_enabled_if h
    exact reqEnterSent_located hl hpc res
  | failed r ts =>
    obtain ⟨-, rfl⟩ := of_enabled_if h
    exact (fail_located hl ts).setIdle r
  | fail ts =>
    obtain ⟨-, rfl⟩ := of_enabled_if h
    exact fail_located hl ts
  | call c =>
    obtain ⟨-, rfl⟩ := of_enabled_if h
    exact runCall_located hl c
  | wakeup r =>
    obtain ⟨ts, hpc, rfl⟩ := of_wakeup h
    exact reqWakeupLocked_located hl ts
  | exit r =>
    obtain ⟨hpc, rfl⟩ := of_enabled_if h
    exact exit_located hl hpc
  | cancel r =>
    obtain ⟨-, rfl⟩ := of_enabled_if h
    exact cancel_located hl
  | defer r =>
    obtain ⟨-, rfl⟩ := of_enabled_if h
    exact hl.of_eq rfl rfl rfl

theorem step_located {e : Event R C} (h : step s e = some s') : Located s' := by
  cases e with
  | work e => exact workStep_located hl h
  | reload x =>
    cases x with
    | mark | keep limit timeout =>
      cases h
      exact hl.of_eq rfl rfl rfl
    | remove =>
      obtain ⟨-, rfl⟩ := of_enabled_if h
      exact hl.shrink (fun _ => List.nil_sublist _) rfl rfl

end Functions

theorem init_located (limit : Int) (timeout : Nat) (ctx : R → Option C) :
    Located (Serv.init limit timeout ctx) where
  nodup := List.nodup_nil
  passive _ h := nomatch h
  entering _ _ h := nomatch h
  sending _ h := nomatch h
  waking _ _ h := nomatch h

end Radius.Server
