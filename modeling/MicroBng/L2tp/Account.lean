import MicroBng.Lib.Machine
import MicroBng.L2tp.Refs

/-!
# Accounting of L2TP tunnels and sessions

`stat_conn_*` and `stat_sess_*` count the live tunnels and sessions by their states, `sess_count`
is the size of the tree, and an object is destroyed once, when its last reference is dropped.
Every function keeps `Sound`, the code that runs holding whatever it holds.

* `accounted_throughout`: all of this holds in runs of `Calm` events
-/

namespace L2tp.Life

open Machine Tally

/-- Statistics and counters are right, and objects without a reference were destroyed once. -/
structure Accounted (d : Daemon) : Prop where
  conns : ∀ b, Counts (fun t => (d.conn t).counted b) (d.statConn.get b)
  sessions : ∀ b, Counts (fun s => (d.sess s).counted b) (d.statSess.get b)
  sessCount : ∀ t, (d.conn t).sessions.Nodup ∧ (d.conn t).sessCount = (d.conn t).sessions.length
  connOnce : ∀ t, (d.conn t).allocated = true →
    (d.conn t).destroyed = if (d.conn t).refCount = 0 then 1 else 0
  sessOnce : ∀ s, (d.sess s).allocated = true →
    (d.sess s).destroyed = if (d.sess s).refCount = 0 then 1 else 0

variable (a : Answers)

variable (call : ApsesCall) (m : Content)

/-- The next function to run in the tunnel's context is its start function. -/
def Conn.startDue (c : Conn) : Bool :=
  match c.calls with
  | .start _ :: _ => true
  | _ => false

def Daemon.Scheduled (d : Daemon) (s : Nat) : Prop :=
  (d.conn (d.sess s).parenConn).thread ≠ .connecting s
deriving Decidable

/-- The start function finds its tunnel in `STATE_INIT`; a data channel runs only after its start
was scheduled and leaves nothing in its context. -/
def Calm (d : Daemon) : Event → Prop
  | .call t _ => (d.conn t).startDue = true → (d.conn t).state = .init
  | .apsesCall s a | .apsesClose s a | .apsesFinished s a => d.Scheduled s ∧ a.busy = false
  | _ => True

theorem Sound.accounted {d : Daemon} (h : Sound .nothing d) : Accounted d where
  conns := h.conns
  sessions := h.sessions
  sessCount t := by grind [h.nodup, h.count, Loan.nothing]
  connOnce t ht := (h.conn t ht).elim fun _ hk => hk.2.once
  sessOnce s hs := (h.sess s hs).once

/-! ## Transactions -/

section Transactions

variable {L : Loan} {d : Daemon} {t s : Nat}

theorem Loan.detach_self {l : List Nat} (h : L.det t = l) : L.detach t l = L := by
  simp [Loan.detach, ← h]

theorem Loan.detach_detach (l l' : List Nat) : (L.detach t l).detach t l' = L.detach t l' := by
  simp [Loan.detach]

theorem sessionFreeWith_sound {p : Nat} {disconnect : Daemon → Daemon} (a : Answers)
    (h : Sound L d) (hp : (d.sess s).parenConn = p)
    (hd : ∀ e, Sound (L.leave p s) e → Sound (L.leave p s) (disconnect e)) :
    Sound (L.detach p ((L.det p).erase s)) (sessionFreeWith disconnect a s d) := by
  unfold sessionFreeWith
  by_cases hx : (d.sess s).state1 = .close
  · rw [if_pos hx]
    have hnot : s ∉ L.det p := by
      intro hq
      exact ((h.tree p s).1 (List.mem_append_right _ hq)).2 hx
    rwa [Loan.detach_self (List.erase_of_not_mem hnot).symm]
  · obtain ⟨d', hd', hc⟩ := sessionUnlink_closed h hx hp a
    rw [if_neg hx]
    simp only [hd']
    refine sessionPut_sound ?_
    split
    · exact hd d' (h.closed hx hp hc)
    · exact h.closed hx hp hc

theorem freeSessions_loop (l : List Nat) (e : Daemon) (h : Sound (L.detach t l) e) :
    Sound (L.detach t []) (l.foldl (fun d s => sessionFreeWith id a s d) e) := by
  induction l generalizing e with
  | nil => exact h
  | cons s l ih =>
    have hdet : (L.detach t (s :: l)).det t = s :: l := Function.update_self ..
    have hmem : s ∈ (e.conn t).sessions ++ (L.detach t (s :: l)).det t := by simp_all
    have hs := sessionFreeWith_sound a h ((h.tree t s).1 hmem).1 (fun _ he => he)
    rw [hdet, List.erase_cons_head, Loan.detach_detach] at hs
    exact ih _ hs

theorem tunnelFreeSessions_sound (h : Sound L d) (ht : (d.conn t).allocated = true)
    (hdet : L.det t = []) : Sound L (tunnelFreeSessions a t d) := by
  have hset : (L.detach t (d.conn t).sessions).det t = (d.conn t).sessions :=
    Function.update_self ..
  have hout : Sound (L.detach t (d.conn t).sessions)
      (d.modConn t fun c => { c with sessions := [] }) := by
    refine h.updateConn (onlyConn_modConn _) ht ?_ ?_ ?_ ?_ ?_ ?_ ?_ ?_ ?_
      (fun t' ht' => ⟨rfl, Function.update_of_ne ht' ..⟩) rfl
    all_goals simp only [modConn_conn_self]
    · exact ht
    · exact fun b => (Int.add_sub_cancel _ _).symm
    · exact fun k _ hb => ⟨hb.refs, hb.once⟩
    · rw [hset, hdet, List.append_nil, List.nil_append]
    · exact List.nil_subset _
    · exact .inr trivial
    · exact fun s hth => h.window t s hth
    · exact h.opened t
  have hloop := freeSessions_loop a _ _ hout
  rwa [Loan.detach_self hdet] at hloop

/-- The loan when a tunnel enters a state: a closed tunnel no longer holds itself. -/
def Loan.enter (L : Loan) (t : Nat) (st : TunState) : Loan :=
  if st = .close then L.tunnel t else L

theorem Loan.enter_of_ne {st : TunState} (h : st ≠ .close) : L.enter t st = L := if_neg h

theorem Loan.enter_same {st : TunState} : (∀ t', t' ≠ t → (L.enter t st).conn t' = L.conn t') ∧
    (L.enter t st).det = L.det ∧ (L.enter t st).sess = L.sess := by
  unfold Loan.enter
  split
  · exact ⟨fun t' ht' => Function.update_of_ne ht' .., rfl, rfl⟩
  · exact ⟨fun _ _ => rfl, rfl, rfl⟩

theorem Sound.changeState {stat : Stats} (h : Sound L d) (st : TunState) (f : Conn → Conn)
    (hne : (d.conn t).state ≠ .close)
    (hf : f (d.conn t) = { (d.conn t).rescheduled (f (d.conn t)) with state := st })
    (hopen : (f (d.conn t)).ctx = true → st ≠ .close)
    (hst : ∀ b, stat.get b =
      d.statConn.get b + (stageOfConn st).ind b - (stageOfConn (d.conn t).state).ind b) :
    Sound (L.enter t st) ({ d with statConn := stat }.modConn t f) := by
  have ht := h.allocated_of_state hne
  have hown := Conn.own_of_ne hne
  have hhold := (d.conn t).hold_nonneg
  obtain ⟨k, hk, hb⟩ := h.conn t ht
  have hk0 := hk.nonneg
  have hrefs := hb.refs
  have halive := hb.alive (by omega)
  have hl : (d.conn t).live = true := by simp [Conn.live, ht, halive]
  obtain ⟨hother, hdet, hsess⟩ := @Loan.enter_same L t st
  refine h.adjustConn ((onlyConn_stat _).trans (onlyConn_modConn _)) ht ?_ ?_ ?_ ?_ ?_ ?_ ?_
    hother hdet hsess
  all_goals rw [modConn_conn_self, hf]
  · exact ht
  · intro b
    rw [Conn.ind_counted (by exact hl) b, Conn.ind_counted hl b]
    exact hst b
  · intro k' hk' hb'
    have hr := hb'.refs
    refine ⟨?_, hb'.once⟩
    change (d.conn t).refCount = (if st = .close then 0 else 1) + (d.conn t).hold + _
    by_cases hc : st = .close
    · have hloan : (L.enter t st).conn t = L.conn t + 1 := by
        rw [Loan.enter, if_pos hc]
        exact Function.update_self ..
      rw [if_pos hc]
      omega
    · rw [Loan.enter, if_neg hc, if_neg hc]
      omega
  · rfl
  · rfl
  · rfl
  · exact hopen

theorem tunnelFree_sound (h : Sound L d) (hdet : L.det t = []) : Sound L (tunnelFree a t d) := by
  unfold tunnelFree
  by_cases hc : (d.conn t).state = .close
  · rwa [if_pos hc]
  · rw [if_neg hc]
    have hclosed : Sound (L.tunnel t) _ := h.changeState .close
      (fun c => { c with state := .close, ctx := false, calls := [] }) hc rfl (nofun)
      (Stats.get_toFinishing d.statConn (stageOfConn (d.conn t).state))
    exact tunnelPut_sound (tunnelFreeSessions_sound a hclosed
      (hclosed.heldConn t (by simp [Loan.tunnel])) hdet)

theorem tunnelDisconnect_sound (h : Sound L d) (hdet : L.det t = []) :
    Sound L (tunnelDisconnect a t d).2 := by
  unfold tunnelDisconnect
  by_cases hf : stageOfConn (d.conn t).state = .finishing
  · rwa [if_pos hf]
  · have hc : (d.conn t).state ≠ .close := fun hq => hf (by rw [hq]; rfl)
    have hfin := h.changeState .fin (fun c => { c with state := .fin }) hc rfl (nofun)
      (Stats.get_toFinishing d.statConn (stageOfConn (d.conn t).state))
    rw [Loan.enter_of_ne (show TunState.fin ≠ .close by decide)] at hfin
    grind [tunnelFreeSessions_sound, modConn_conn_self, h.allocated_of_state, tunnelFree_sound]

theorem tunnelDisconnectPush_sound (h : Sound L d) (hdet : L.det t = []) :
    Sound L (tunnelDisconnectPush a t d) := by
  grind [tunnelDisconnect_sound, tunnelDisconnectPush, tunnelFree_sound]

theorem sessionFree_sound (h : Sound L d) (hdet : ∀ t, L.det t = []) :
    Sound L (sessionFree a s d) := by
  have hleave : (L.leave (d.sess s).parenConn s).det (d.sess s).parenConn = [] := by
    simp [Loan.leave, Loan.session, Loan.detach, hdet]
  have hfree := sessionFreeWith_sound a h rfl (fun e he => tunnelDisconnectPush_sound a he hleave)
  rw [hdet, List.erase_nil, Loan.detach_self (hdet _)] at hfree
  exact hfree

theorem tunnelFinwait_sound (h : Sound L d) (hdet : L.det t = []) :
    Sound L (tunnelFinwait a t d) := by
  have hwait : (d.conn t).state ≠ .close → Sound L (
      let d := { d with statConn := d.statConn.toFinishing (stageOfConn (d.conn t).state) }
      let d := d.modConn t fun c => { c with state := .finWait }
      let d := tunnelFreeSessions a t d
      if a.timer then d else tunnelFree a t d) := by
    intro hc
    have hfin := h.changeState .finWait (fun c => { c with state := .finWait }) hc rfl
      (nofun)
      (Stats.get_toFinishing d.statConn (stageOfConn (d.conn t).state))
    rw [Loan.enter_of_ne (show TunState.finWait ≠ .close by decide)] at hfin
    grind [tunnelFreeSessions_sound, modConn_conn_self, h.allocated_of_state, tunnelFree_sound]
  grind [tunnelFinwait]

end Transactions

/-! ## Data channels -/

section Channels

variable {L : Loan} {d : Daemon} {t s : Nat}

theorem callTunnel_sound (call : ConnCall) (ok : Bool) (h : Sound L d) :
    Sound L (callTunnel t call ok d) := by
  unfold callTunnel
  split
  · rename_i hctx
    have hctx := (Bool.and_eq_true_iff.1 hctx).1
    exact h.touchConn (h.allocated_of_state (h.opened t hctx)) _ rfl (h.opened t)
  · exact h

theorem Sound.allocated_of_apsesCtx (h : Sound L d) (hctx : (d.sess s).apsesCtx = true) :
    (d.sess s).allocated = true := by
  cases hf : (d.sess s).allocated
  · cases (h.unusedSess s hf).2.symm.trans hctx
  · rfl

theorem callApses_sound (ok : Bool) (h : Sound L d) : Sound L (callApses s call ok d).2 := by
  unfold callApses
  split
  · rename_i hctx
    dsimp only
    exact h.touchSess (h.allocated_of_apsesCtx (Bool.and_eq_true_iff.1 hctx).1) _ rfl
  · exact h

theorem Sound.scheduled (h : Sound L d) (hs : d.Scheduled s) (t : Nat) :
    (d.conn t).thread ≠ .connecting s := by
  intro hth
  have hp := (h.window t s hth).1
  exact hs (hp ▸ hth)

theorem unregisterApses_sound (h : Sound L d) (hctx : (d.sess s).apsesCtx = true)
    (hs : d.Scheduled s) : Sound (L.session s) (unregisterApses s false d) := by
  have hsa := h.allocated_of_apsesCtx hctx
  have hloan : (L.session s).sess s = L.sess s + 1 := Function.update_self ..
  unfold unregisterApses
  rw [if_pos hctx]
  refine h.updateSess (onlySess_modSess _) hsa ?_ ?_ ?_ ?_ ?_ ?_ (fun _ => h.scheduled hs) ?_
    (fun s' hs' => Function.update_of_ne hs' ..) rfl ?_
  all_goals simp only [modSess_sess_self]
  · exact hsa
  · exact fun b => (Int.add_sub_cancel _ _).symm
  · intro hb
    have hr := hb.refs
    refine ⟨?_, hb.once⟩
    simp only [Sess.own, Sess.channel, hctx, if_true] at hr ⊢
    simp only [Bool.false_eq_true, if_false]
    omega
  · exact fun _ => trivial
  · exact fun t => (Int.add_sub_cancel _ _).symm

theorem apsesDestroy_sound {a : Answers} (h : Sound L d) (hctx : (d.sess s).apsesCtx = true)
    (hs : d.Scheduled s) (ha : a.busy = false) : Sound L (apsesDestroy a s d) := by
  unfold apsesDestroy
  rw [ha]
  exact sessionPut_sound (unregisterApses_sound h hctx hs)

/-- The context of the data channel of `s` is registered and its start scheduled. -/
structure Daemon.Running (d : Daemon) (s : Nat) : Prop where
  ctx : (d.sess s).apsesCtx = true
  scheduled : d.Scheduled s

theorem Daemon.Running.of_eq {d' : Daemon} (h : d.Running s)
    (hth : ∀ t, (d'.conn t).thread = (d.conn t).thread)
    (hctx : (d'.sess s).apsesCtx = (d.sess s).apsesCtx)
    (hpar : (d'.sess s).parenConn = (d.sess s).parenConn) : d'.Running s :=
  ⟨hctx.trans h.ctx, by
    unfold Daemon.Scheduled
    rw [hth, hpar]
    exact h.scheduled⟩

theorem callTunnel_running (call : ConnCall) (ok : Bool) (h : d.Running s) :
    (callTunnel t call ok d).Running s := by
  unfold callTunnel
  split
  · refine h.of_eq (fun t' => ?_) rfl rfl
    by_cases htt : t' = t
    · subst htt
      simp
    · rw [(onlyConn_modConn _).conn t' htt]
  · exact h

theorem modSess_running {f : Sess → Sess} (h : d.Running s)
    (hctx : (f (d.sess s)).apsesCtx = (d.sess s).apsesCtx)
    (hpar : (f (d.sess s)).parenConn = (d.sess s).parenConn) : (d.modSess s f).Running s :=
  h.of_eq (fun _ => rfl) (by rw [modSess_sess_self, hctx]) (by rw [modSess_sess_self, hpar])

theorem callApses_running (ok : Bool) (h : d.Running s) : (callApses s call ok d).2.Running s := by
  grind [callApses, modSess_running]

theorem apsesFinished_sound (h : Sound L d) (hr : d.Running s) :
    Sound L (apsesFinished a s d) ∧ (apsesFinished a s d).Running s := by
  have hs := h.allocated_of_apsesCtx hr.ctx
  unfold apsesFinished
  split
  · exact ⟨h, hr⟩
  all_goals
    exact ⟨callApses_sound _ _ (callTunnel_sound _ _ (h.touchSess hs _ rfl)),
      callApses_running _ _ (callTunnel_running _ _ (modSess_running hr rfl rfl))⟩

theorem apsesStop_sound {a : Answers} (h : Sound L d) (hr : d.Running s) (ha : a.busy = false) :
    Sound L (apsesStop a s d) := by
  have hs := h.allocated_of_apsesCtx hr.ctx
  have hending : Sound L (apsesDestroy a s (
      let d := d.modSess s fun x => { x with apsesState := .finishing }
      if a.finishes then apsesFinished a s d else d)) := by
    have hm := h.touchSess hs (fun x => { x with apsesState := .finishing }) rfl
    have hrm : (d.modSess s fun x => { x with apsesState := .finishing }).Running s :=
      modSess_running hr rfl rfl
    split
    · obtain ⟨hf, hrf⟩ := apsesFinished_sound a hm hrm
      exact apsesDestroy_sound hf hrf.ctx hrf.scheduled ha
    · exact apsesDestroy_sound hm hrm.ctx hrm.scheduled ha
  have hnotified : Sound L (apsesDestroy a s (notifyTunnel a s d)) := by
    have hrn : (notifyTunnel a s d).Running s := callTunnel_running _ _ hr
    exact apsesDestroy_sound (callTunnel_sound _ _ h) hrn.ctx hrn.scheduled ha
  grind [apsesStop]

theorem apsesStart_sound {a : Answers} (h : Sound L d) (hr : d.Running s) (ha : a.busy = false) :
    Sound L (apsesStart a s d) := by
  unfold apsesStart
  split
  · exact h
  · split
    · exact h.touchSess (h.allocated_of_apsesCtx hr.ctx) _ rfl
    · exact apsesStop_sound h hr ha

end Channels

/-! ## Messages and calls -/

section Handlers

variable {L : Loan} {d d' : Daemon} {t s : Nat}

theorem Sound.changeState1 {stat : Stats} (h : Sound L d) (st : SessState)
    (hne : (d.sess s).state1 ≠ .close) (hst' : st ≠ .close)
    (hback : st.stage = .starting → (d.sess s).state1.stage = .starting)
    (hst : ∀ b, stat.get b = d.statSess.get b + st.stage.ind b - (d.sess s).state1.stage.ind b) :
    Sound L ({ d with statSess := stat }.modSess s fun x => { x with state1 := st }) := by
  have hs := h.allocated_of_state1 hne
  have hb := h.sess s hs
  have hr := hb.refs
  have hown := Sess.own_of_ne hne
  have hch := (d.sess s).channel_nonneg
  have halive := hb.alive (by omega)
  have hl : (d.sess s).live = true := by simp [Sess.live, hs, halive]
  refine h.updateSess ((onlySess_stat _).trans (onlySess_modSess _)) hs ?_ ?_ ?_ ?_ ?_ ?_ ?_ ?_
    (fun _ _ => rfl) rfl ?_
  all_goals simp only [modSess_sess_self]
  · exact hs
  · exact iff_of_false hst' hne
  · intro b
    have hl' : ({ d.sess s with state1 := st } : Sess).live = true := hl
    rw [Sess.ind_counted hl' b, Sess.ind_counted hl b]
    exact hst b
  · intro _
    refine ⟨?_, hb.once⟩
    simp only [Sess.own, Sess.channel, if_neg hst'] at hr hown ⊢
    omega
  · intro hctx t hth
    cases hctx.symm.trans (h.window t s hth).2
  · exact fun hq => h.quiet s (hback hq)
  · exact fun t => (Int.add_sub_cancel _ _).symm

theorem SessState.ne_close_of_starting {st : SessState} (h : st.stage = .starting) :
    st ≠ .close := by
  rintro rfl
  cases h

theorem Sound.keepStarting (h : Sound L d) (st : SessState)
    (hold : (d.sess s).state1.stage = .starting) (hst : st.stage = .starting) :
    Sound L (d.modSess s fun x => { x with state1 := st }) := by
  refine @Sound.changeState1 L d s d.statSess h st (SessState.ne_close_of_starting hold)
    (SessState.ne_close_of_starting hst) (fun _ => hold) fun b => ?_
  rw [hst, hold]
  exact (Int.add_sub_cancel _ _).symm

theorem sessionHold_sound (h : Sound L d) (hne : (d.sess s).state1 ≠ .close) :
    Sound (L.session s) (sessionHold s d) := by
  have hs := h.allocated_of_state1 hne
  have hloan : (L.session s).sess s = L.sess s + 1 := Function.update_self ..
  unfold sessionHold
  refine h.updateSess (onlySess_modSess _) hs ?_ ?_ ?_ ?_ ?_ ?_ ?_ ?_
    (fun s' hs' => Function.update_of_ne hs' ..) rfl ?_
  all_goals simp only [modSess_sess_self]
  · exact hs
  · exact fun b => (Int.add_sub_cancel _ _).symm
  · intro hb
    have hr := hb.refs
    have hown := Sess.own_of_ne hne
    have hch := (d.sess s).channel_nonneg
    refine ⟨?_, ?_⟩
    · simp only [Sess.own, Sess.channel] at hr ⊢
      omega
    grind [hb.alive]
  · intro hctx t hth
    cases hctx.symm.trans (h.window t s hth).2
  · exact h.quiet s
  · exact fun t => (Int.add_sub_cancel _ _).symm

theorem registerApses_sound (h : Sound (L.session s) d) (hest : (d.sess s).state1 = .estb)
    (hctx : (d.sess s).apsesCtx = false) :
    Sound L (d.modSess s fun x => { x with apsesCtx := true, apsesCalls := [] }) := by
  have hloan : (L.session s).sess s = L.sess s + 1 := Function.update_self ..
  have hs := h.heldSess s (by omega)
  refine h.updateSess (onlySess_modSess _) hs ?_ ?_ ?_ ?_ ?_ ?_ ?_ ?_
    (fun s' hs' => (Function.update_of_ne hs' ..).symm) rfl ?_
  all_goals simp only [modSess_sess_self]
  · exact hs
  · exact fun b => (Int.add_sub_cancel _ _).symm
  · intro hb
    have hr := hb.refs
    refine ⟨?_, hb.once⟩
    simp only [Sess.own, Sess.channel, hctx, if_true, Bool.false_eq_true, if_false] at hr ⊢
    omega
  · exact fun hq => by cases hq
  · rw [hest]
    exact fun hq => by cases hq
  · exact fun t => (Int.add_sub_cancel _ _).symm

theorem Sound.moveThread {th : Thread} (h : Sound L d) (hold : (d.conn t).thread ≠ .idle)
    (hnew : th ≠ .idle) (hwin : ∀ s, th = .connecting s →
      (d.sess s).parenConn = t ∧ (d.sess s).apsesCtx = true) :
    Sound L (d.modConn t fun c => { c with thread := th }) := by
  have ht := h.allocated_of_thread hold
  refine h.updateConn (onlyConn_modConn _) ht ?_ ?_ ?_ ?_ ?_ ?_ ?_ ?_ ?_ (fun _ _ => ⟨rfl, rfl⟩) rfl
  all_goals simp only [modConn_conn_self]
  · exact ht
  · exact fun b => (Int.add_sub_cancel _ _).symm
  · intro k _ hb
    have hr := hb.refs
    refine ⟨?_, hb.once⟩
    simp_all [Conn.own, Conn.hold]
  · exact List.Subset.refl _
  · exact h.whole t
  · exact hwin
  · exact h.opened t

theorem sessionStartDataChannel_sound (h : Sound L d) (hest : (d.sess s).state1 = .estb)
    (hctx : (d.sess s).apsesCtx = false) (hth : (d.conn (d.sess s).parenConn).thread = .reading) :
    Sound L (sessionStartDataChannel a s d).2 := by
  have hne : (d.sess s).state1 ≠ .close := by
    rw [hest]
    exact fun hq => by cases hq
  have hheld := sessionHold_sound
    (h.touchSess (h.allocated_of_state1 hne) (fun x => { x with apsesState := .init }) rfl)
    (by rw [modSess_sess_self]; exact hne)
  unfold sessionStartDataChannel
  split
  · exact h
  · split
    · have hreg := registerApses_sound hheld
        (by simp only [sessionHold, modSess_sess_self]; exact hest)
        (by simp only [sessionHold, modSess_sess_self]; exact hctx)
      refine hreg.moveThread ?_ (fun hq => by cases hq) ?_
      · simp_all [sessionHold]
      simp
    · exact sessionPut_sound hheld

theorem sessionConnect_sound (h : Sound L d) (hst : (d.sess s).state1.stage = .starting)
    (hth : (d.conn (d.sess s).parenConn).thread = .reading) : Sound L (sessionConnect a s d).2 := by
  unfold sessionConnect
  split
  · exact h
  · have hest := h.changeState1 .estb (SessState.ne_close_of_starting hst)
      (nofun) (nofun)
      (fun b => by rw [hst]; exact Stats.get_toActive d.statSess b)
    simp_all [sessionStartDataChannel_sound, h.quiet]

theorem connectSession_sound (h : Sound L d) (hdet : ∀ t, L.det t = [])
    (hst : (d.sess s).state1.stage = .starting)
    (hth : (d.conn (d.sess s).parenConn).thread = .reading) : Sound L (connectSession a s d) := by
  grind [sessionConnect_sound, connectSession, sessionFree_sound]

theorem scheduleStart_sound (h : Sound L d) (hdet : ∀ t, L.det t = [])
    (hth : (d.conn t).thread = .connecting s) : Sound L (scheduleStart a t s d) := by
  obtain ⟨hp, hctx⟩ := h.window t s hth
  have hread : Sound L (d.modConn t fun c => { c with thread := .reading }) :=
    h.moveThread (by rw [hth]; exact nofun) (nofun)
      (nofun)
  have hcall := callApses_sound (s := s) .start (a.callApses s) hread
  unfold scheduleStart
  dsimp only
  split
  · rename_i e he
    rw [he] at hcall
    exact hcall
  · rename_i e he
    rw [he] at hcall
    have hrun : e.Running s := by
      have hr : (d.modConn t fun c => { c with thread := .reading }).Running s := by
        refine ⟨hctx, ?_⟩
        simp_all [Daemon.Scheduled]
      grind [callApses_running]
    exact sessionFree_sound a
      (sessionPut_sound (unregisterApses_sound hcall hrun.ctx hrun.scheduled)) hdet

theorem recvSCCRPorSCCCN_sound {awaited : TunState} (m : Content) (a : Answers) (h : Sound L d)
    (hdet : L.det t = []) (haw : stageOfConn awaited = .starting) :
    Sound L (recvSCCRPorSCCCN awaited m a t d) := by
  unfold recvSCCRPorSCCCN
  split
  · exact h
  · rename_i hst
    have hst : (d.conn t).state = awaited := not_not.1 hst
    split
    · have hne : (d.conn t).state ≠ .close := by
        intro hq
        rw [← hst, hq] at haw
        cases haw
      have hc := h.changeState .estb (fun c => { c with state := .estb }) hne rfl (nofun)
        (fun b => by rw [hst, haw]; exact Stats.get_toActive d.statConn b)
      rwa [Loan.enter_of_ne (show TunState.estb ≠ .close by decide)] at hc
    · exact tunnelDisconnect_sound a h hdet

theorem tunnelAllocSession_sound {a : Answers} (h : Sound L d) (hne : (d.conn t).state ≠ .close)
    (hdet : L.det t = []) (hs : tunnelAllocSession a t d = some (s, d')) :
    Sound L d' ∧ (d'.sess s).state1.stage = .starting ∧ (d'.sess s).parenConn = t ∧
      (d'.conn t).thread = (d.conn t).thread := by
  obtain ⟨hb, hnew⟩ := tunnelAllocSession_born hs
  refine ⟨h.born hne hdet hnew hb, ?_, ?_, ?_⟩
  · rw [hb.session]
    rfl
  · rw [hb.session]
  · rw [hb.tunnel]

theorem recvICRQ_sound (a : Answers) (h : Sound L d) (hdet : ∀ t, L.det t = [])
    (hne : (d.conn t).state ≠ .close) : Sound L (recvICRQ m a t d) := by
  unfold recvICRQ
  split
  · exact h
  · split
    · split
      · exact h
      · rename_i s d' hs
        obtain ⟨hd', hst, -, -⟩ := tunnelAllocSession_sound h hne (hdet t) hs
        split
        · exact hd'.keepStarting .waitIccn hst rfl
        · exact sessionFree_sound a hd' hdet
    · exact h

theorem recvOCRQ_sound (a : Answers) (h : Sound L d) (hdet : ∀ t, L.det t = [])
    (hne : (d.conn t).state ≠ .close) (hth : (d.conn t).thread = .reading) :
    Sound L (recvOCRQ m a t d) := by
  unfold recvOCRQ
  split
  · exact h
  · split
    · split
      · exact h
      · rename_i s d' hs
        obtain ⟨hd', hst, hp, hthr⟩ := tunnelAllocSession_sound h hne (hdet t) hs
        grind [connectSession_sound, sessionFree_sound]
    · exact h

theorem tunnelCreateSession_sound (h : Sound L d) (hdet : ∀ t, L.det t = []) :
    Sound L (tunnelCreateSession a t d) := by
  unfold tunnelCreateSession
  split
  · exact h
  · rename_i hst
    have hne : (d.conn t).state ≠ .close := by
      rw [not_not.1 hst]
      exact nofun
    split
    · exact h
    · rename_i s d' hs
      obtain ⟨hd', hst', -, -⟩ := tunnelAllocSession_sound h hne (hdet t) hs
      split
      · refine hd'.keepStarting _ hst' ?_
        split <;> rfl
      · exact sessionFree_sound a hd' hdet

theorem recvOCRP_sound (a : Answers) (h : Sound L d) (hdet : ∀ t, L.det t = []) :
    Sound L (recvOCRP m a s d) := by
  unfold recvOCRP
  split
  · exact h
  · rename_i hst
    split
    · exact h.keepStarting .waitOccn (by rw [not_not.1 hst]; rfl) rfl
    · exact sessionFree_sound a h hdet

theorem connectAwaited_sound {awaited : SessState} (ok : Bool) (a : Answers) (h : Sound L d)
    (hdet : ∀ t, L.det t = []) (haw : awaited.stage = .starting)
    (hth : (d.conn (d.sess s).parenConn).thread = .reading) :
    Sound L (if (d.sess s).state1 ≠ awaited then d
      else if ok then connectSession a s d else sessionFree a s d) := by
  grind [connectSession_sound, sessionFree_sound]

theorem sessionRecv_sound (msg : MsgType) (m : Content) (a : Answers) (h : Sound L d)
    (hdet : ∀ t, L.det t = []) (hth : (d.conn (d.sess s).parenConn).thread = .reading) :
    Sound L (sessionRecv msg m a s d) := by
  cases msg with
  | ocrp => exact recvOCRP_sound m a h hdet
  | occn => exact connectAwaited_sound m.known a h hdet rfl hth
  | icrp => exact connectAwaited_sound (m.complete && m.known && a.reply) a h hdet rfl hth
  | iccn => exact connectAwaited_sound m.known a h hdet rfl hth
  | cdn => exact sessionFree_sound a h hdet
  | other code => grind [sessionRecv, sessionFree_sound]
  | sccrq | sccrp | scccn | stopCCN | hello | ocrq | icrq | wen | sli => exact h

theorem tunnelRecv_sound (msg : MsgType) (m : Content) (a : Answers) (h : Sound L d)
    (hdet : ∀ t, L.det t = []) (hne : (d.conn t).state ≠ .close)
    (hth : (d.conn t).thread = .reading) : Sound L (tunnelRecv msg m a t d) := by
  cases msg with
  | sccrp | scccn => exact recvSCCRPorSCCCN_sound m a h (hdet t) rfl
  | stopCCN => exact tunnelFinwait_sound a h (hdet t)
  | ocrq => exact recvOCRQ_sound m a h hdet hne hth
  | icrq => exact recvICRQ_sound m a h hdet hne
  | other code => grind [tunnelRecv, tunnelDisconnect_sound]
  | sccrq | hello | cdn | ocrp | occn | icrp | iccn | wen | sli => exact h

theorem Sound.getSession_parent {sid : UInt16} (h : Sound L d)
    (hs : getSession t sid d = some s) : (d.sess s).parenConn = t :=
  ((h.tree t s).1 (List.mem_append_left _ (List.mem_of_find?_eq_some hs))).1

theorem reply_sound (sid : UInt16) (msg : MsgType) (m : Content) (a : Answers) (h : Sound L d)
    (hdet : ∀ t, L.det t = []) (hth : (d.conn t).thread = .reading) :
    Sound L (reply sid msg m a t d) := by
  unfold reply
  split
  · exact h
  · rename_i hfin
    split
    · refine tunnelRecv_sound msg m a h hdet (fun hq => hfin ?_) hth
      rw [hq]
      rfl
    grind [sessionRecv_sound, h.getSession_parent]

theorem runConnCall_sound {call : ConnCall} (a : Answers) (h : Sound L d)
    (hdet : ∀ t, L.det t = []) (hfresh : ∀ f, call = .start f → (d.conn t).state = .init) :
    Sound L (runConnCall a t d call) := by
  cases call with
  | start f =>
    have hinit := hfresh f rfl
    change Sound L (sendFirst f a t d)
    unfold sendFirst
    split
    · have hst : stageOfConn (waitState f) = .starting := by cases f <;> rfl
      have hne : waitState f ≠ .close := by cases f <;> exact nofun
      have hc := @Sound.changeState L d t d.statConn h (waitState f)
        (fun c => { c with state := waitState f }) (by rw [hinit]; exact nofun) rfl (fun _ => hne)
        (fun b => by rw [hst, hinit]; exact (Int.add_sub_cancel _ _).symm)
      rwa [Loan.enter_of_ne hne] at hc
    · exact tunnelFree_sound a h (hdet t)
  | createSession => exact tunnelCreateSession_sound a h hdet
  | apsesFinished sid =>
    change Sound L (sessionApsesFinished sid a t d)
    grind [sessionApsesFinished, sessionFree_sound]

theorem runApsesCall_sound {a : Answers} (h : Sound L d) (hr : d.Running s) (ha : a.busy = false) :
    Sound L (runApsesCall a s d call) := by
  cases call with
  | start => exact apsesStart_sound h hr ha
  | stop => exact apsesStop_sound h hr ha
  | destroy => exact apsesDestroy_sound h hr.ctx hr.scheduled ha

end Handlers

/-! ## Runs -/

section Steps

variable {L : Loan} {d d' : Daemon} {t s : Nat}

theorem readBegin_sound (h : Sound L d) (hr : (d.conn t).ready = true) :
    Sound L (tunnelHold t (d.modConn t fun c => { c with thread := .reading })) := by
  obtain ⟨hctx, hidle⟩ := Bool.and_eq_true_iff.1 hr
  have hidle : (d.conn t).thread = .idle := eq_of_beq hidle
  have hne := h.opened t hctx
  have ht := h.allocated_of_state hne
  refine h.updateConn ((onlyConn_modConn _).trans (onlyConn_modConn _)) ht
    ?_ ?_ ?_ ?_ ?_ ?_ ?_ ?_ ?_ (fun _ _ => ⟨rfl, rfl⟩) rfl
  all_goals simp only [tunnelHold, modConn_conn_self]
  · exact ht
  · exact fun b => (Int.add_sub_cancel _ _).symm
  · intro k hk hb
    have hrefs := hb.refs
    have hown := Conn.own_of_ne hne
    have halive := hb.alive (by have := (d.conn t).hold_nonneg; omega)
    refine ⟨?_, ?_⟩
    · simp only [Conn.own, Conn.hold, hidle, if_true, reduceCtorEq, if_false] at hrefs ⊢
      omega
    · rw [if_neg (by have := (d.conn t).hold_nonneg; dsimp only; omega)]
      exact halive
  · exact List.Subset.refl _
  · exact h.whole t
  · exact fun s hq => by cases hq
  · exact h.opened t

theorem Sound.leaveRead (h : Sound L d) (hth : (d.conn t).thread = .reading) :
    Sound (L.tunnel t) (d.modConn t fun c => { c with thread := .idle }) := by
  have hloan : (L.tunnel t).conn t = L.conn t + 1 := Function.update_self ..
  have ht := h.allocated_of_thread (by rw [hth]; nofun)
  refine h.updateConn (onlyConn_modConn _) ht ?_ ?_ ?_ ?_ ?_ ?_ ?_ ?_ ?_
    (fun t' ht' => ⟨Function.update_of_ne ht' .., rfl⟩) rfl
  all_goals simp only [modConn_conn_self]
  · exact ht
  · exact fun b => (Int.add_sub_cancel _ _).symm
  · intro k _ hb
    have hr := hb.refs
    refine ⟨?_, hb.once⟩
    simp only [Conn.own, Conn.hold, hth, if_true, reduceCtorEq, if_false] at hr ⊢
    omega
  · rfl
  · exact List.Subset.refl _
  · exact h.whole t
  · exact fun s hq => by cases hq
  · exact h.opened t

theorem connReadDone_sound (delete : Bool) (a : Answers) (h : Sound L d) (hdet : L.det t = [])
    (hth : (d.conn t).thread = .reading) : Sound L (connReadDone delete a t d) := by
  have hl := h.leaveRead hth
  refine tunnelPut_sound ?_
  split
  · exact tunnelFree_sound a hl hdet
  · exact hl

theorem createTunnel_sound (lnsMode : Bool) (f : StartFunc) (a : Answers) (h : Sound L d)
    (hdet : ∀ t, L.det t = []) : Sound L (createTunnel lnsMode f a d) := by
  have halloc := tunnelAlloc_sound lnsMode h
  unfold createTunnel
  split
  · exact h
  · split
    · exact halloc.touchConn (by simp [tunnelAlloc, tunnelHold]) _ rfl
        (fun _ => by simp [tunnelAlloc, tunnelHold])
    · exact tunnelFree_sound a halloc (hdet _)

theorem tunnelStart_sound {f : StartFunc} (a : Answers) (h : Sound L d) (hdet : L.det t = [])
    (hf : (d.conn t).toStart = some f) : Sound L (tunnelStart f a t d) := by
  have ht : (d.conn t).allocated = true := by
    cases hq : (d.conn t).allocated
    · cases hf.symm.trans (h.unusedConn t hq).2.2
    · rfl
  have hs := h.touchConn ht (fun c => { c with toStart := none }) rfl (h.opened t)
  unfold tunnelStart
  dsimp only
  split
  · exact callTunnel_sound _ _ hs
  · exact tunnelFree_sound a
      (hs.touchConn (by rw [modConn_conn_self]; exact ht) _ rfl (nofun)) hdet

theorem step_sound {e : Event} (h : Sound .nothing d) (hcalm : Calm d e)
    (hstep : step d e = some d') : Sound .nothing d' := by
  have hdet : ∀ t, Loan.nothing.det t = [] := fun _ => rfl
  cases e with
  | recvSCCRQ a => grind [step, createTunnel_sound]
  | createTunnel lnsMode a =>
    cases hstep
    exact createTunnel_sound lnsMode .sendSCCRQ a h hdet
  | start t a =>
    obtain ⟨f, hf, rfl⟩ := Option.map_eq_some_iff.1 hstep
    exact tunnelStart_sound a h (hdet t) hf
  | createSession t a =>
    obtain ⟨-, rfl⟩ := of_enabled_if hstep
    exact callTunnel_sound _ _ h
  | call t a =>
    simp only [step] at hstep
    split at hstep
    · rename_i call rest hready hcalls
      cases hstep
      obtain ⟨hctx, -⟩ := Bool.and_eq_true_iff.1 hready
      have ht := h.allocated_of_state (h.opened t hctx)
      refine runConnCall_sound a (h.touchConn ht _ rfl (h.opened t)) hdet fun f hf => ?_
      rw [modConn_conn_self]
      exact hcalm (by rw [Conn.startDue, hcalls, hf])
    · cases hstep
  | ending t how a =>
    obtain ⟨-, rfl⟩ := of_enabled_if hstep
    cases how with
    | disconnect => exact tunnelDisconnectPush_sound a h (hdet t)
    | delete => exact tunnelFree_sound a h (hdet t)
  | sessionTimeout t s a =>
    obtain ⟨-, rfl⟩ := of_enabled_if hstep
    exact sessionFree_sound a h hdet
  | read t =>
    obtain ⟨hr, rfl⟩ := of_enabled_if hstep
    exact readBegin_sound h hr
  | message t sid msg m a =>
    obtain ⟨hth, rfl⟩ := of_enabled_if hstep
    exact reply_sound sid msg m a h hdet hth
  | schedule t a => grind [step, scheduleStart_sound]
  | readDone t delete a =>
    obtain ⟨hth, rfl⟩ := of_enabled_if hstep
    exact connReadDone_sound delete a h (hdet t) hth
  | apsesCall s a =>
    simp only [step] at hstep
    split at hstep
    · rename_i call rest hctx hcalls
      cases hstep
      exact runApsesCall_sound call (h.touchSess (h.allocated_of_apsesCtx hctx) _ rfl)
        (modSess_running ⟨hctx, hcalm.1⟩ rfl rfl) hcalm.2
    · cases hstep
  | apsesClose s a =>
    obtain ⟨hs, rfl⟩ := of_enabled_if hstep
    exact apsesStop_sound h ⟨hs.1, hcalm.1⟩ hcalm.2
  | apsesStarted s =>
    obtain ⟨hctx, rfl⟩ := of_enabled_if hstep
    unfold apsesStarted
    split
    · exact h.touchSess (h.allocated_of_apsesCtx hctx) _ rfl
    · exact h
  | apsesFinished s a =>
    obtain ⟨hctx, rfl⟩ := of_enabled_if hstep
    exact (apsesFinished_sound a h ⟨hctx, hcalm.1⟩).1

theorem sound_init : Sound .nothing {} := by
  have hcounted : Counted {} := by
    constructor
    all_goals
      intro b
      cases b <;> exact counts_none
  refine ⟨hcounted, ?_, ?_, ?_⟩
  all_goals constructor <;> simp [Loan.nothing]

end Steps

/-- **Tunnels and sessions are accounted for** in every run whose events are `Calm`. -/
theorem accounted_throughout (es : List Event) (h : Guarded step Calm {} es) :
    Throughout step Accounted {} es :=
  (h.throughout (I := Sound .nothing) (fun _ _ _ hi hc hs => step_sound hi hc hs)
    sound_init).mono fun _ hs => hs.accounted

instance (d : Daemon) (e : Event) : Decidable (Calm d e) := by
  unfold Calm
  split <;> infer_instance

/-- An incoming call is connected and hung up; the tunnel goes with it, the data channel last. -/
def oneCall : List Event :=
  [.recvSCCRQ {}, .start 0 {}, .call 0 {}, .read 0, .message 0 0 .scccn {} {},
    .message 0 0 .icrq {} {}, .message 0 1 .iccn {} {}, .schedule 0 {}, .readDone 0 false {},
    .apsesCall 0 {}, .apsesStarted 0, .read 0, .message 0 1 .cdn {} {}, .readDone 0 true {},
    .apsesCall 0 {}]

theorem accounted_oneCall : Guarded step Calm {} oneCall ∧
    Throughout step Accounted {} oneCall ∧
    endsIn step {} oneCall (fun d =>
      (d.conn 0).destroyed == 1 && (d.sess 0).destroyed == 1 && d.statConn == {} &&
        d.statSess == {}) = true := by
  have hg : Guarded step Calm {} oneCall := by decide +kernel
  exact ⟨hg, accounted_throughout oneCall hg, by decide +kernel⟩

/-- A message of an unknown mandatory type is read before the start function runs. -/
def refusedEarly : List Event :=
  [.recvSCCRQ {}, .start 0 {}, .read 0, .message 0 0 (.other 99) {} {}, .readDone 0 false {},
    .call 0 {}]

/-- The start function ignores the state: a disconnected tunnel waits for the peer again, counted as
finishing. -/
theorem start_uncounts : ∃ d, run step {} refusedEarly = some d ∧ (d.conn 0).live = true ∧
    (d.conn 0).state = .waitScccn ∧ d.statConn = ⟨0, 0, 1⟩ ∧ ¬ Accounted d := by
  obtain ⟨d, hr, hlive, hst, hstat⟩ : ∃ d, run step {} refusedEarly = some d ∧
      (d.conn 0).live = true ∧ (d.conn 0).state = .waitScccn ∧ d.statConn = ⟨0, 0, 1⟩ := by
    decide +kernel
  refine ⟨d, hr, hlive, hst, hstat, fun ha => ?_⟩
  have hcount := ha.conns .starting
  have hpos := hcount.pos (a := 0) (by simp [Conn.counted, hlive, hst, stageOfConn])
  rw [hstat] at hpos
  exact absurd hpos (by decide)

end L2tp.Life
