import MicroBng.Lib.Tally
import MicroBng.L2tp.Lifecycle

/-!
# References to L2TP tunnels and sessions

A reference is accounted for by what holds it: a tunnel is held by itself until it is closed, by
each of its live sessions and by `l2tp_conn_read`; a session by its tunnel and by itself until it
is closed, and by the registered context of its data channel. Between two lines of a function the
code holds references of its own and sessions that are in no tree; they are a parameter of the
invariant (`Loan`), so that every function is a transaction that gives back what it took.
-/

namespace L2tp.Life

open Tally

/-! ## What is counted -/

def Conn.live (c : Conn) : Bool := c.allocated && decide (c.destroyed = 0)

def Sess.live (x : Sess) : Bool := x.allocated && decide (x.destroyed = 0)

def Conn.counted (c : Conn) (b : Stage) : Bool := c.live && decide (stageOfConn c.state = b)

def Sess.counted (x : Sess) (b : Stage) : Bool := x.live && decide (x.state1.stage = b)

/-! ## References and their holders -/

def Conn.own (c : Conn) : Int := if c.state = .close then 0 else 1

/-- The reference of `l2tp_conn_read`. -/
def Conn.hold (c : Conn) : Int := if c.thread = .idle then 0 else 1

def Sess.own (x : Sess) : Int := if x.state1 = .close then 0 else 2

def Sess.channel (x : Sess) : Int := if x.apsesCtx then 1 else 0

def Sess.childOf (t : Nat) (x : Sess) : Bool := x.live && decide (x.parenConn = t)

/-- `others` references besides the tunnel's own and that of `l2tp_conn_read`. -/
structure Conn.Balanced (c : Conn) (others : Int) : Prop where
  refs : c.refCount = c.own + c.hold + others
  once : c.destroyed = if c.refCount = 0 then 1 else 0

structure Sess.Balanced (x : Sess) (others : Int) : Prop where
  refs : x.refCount = x.own + x.channel + others
  once : x.destroyed = if x.refCount = 0 then 1 else 0

/-- What the running code holds: references, and sessions taken out of a tree. -/
structure Loan where
  conn : Nat → Nat
  sess : Nat → Nat
  det : Nat → List Nat

def Loan.nothing : Loan := ⟨fun _ => 0, fun _ => 0, fun _ => []⟩

def Loan.tunnel (L : Loan) (t : Nat) : Loan :=
  { L with conn := Function.update L.conn t (L.conn t + 1) }

def Loan.session (L : Loan) (s : Nat) : Loan :=
  { L with sess := Function.update L.sess s (L.sess s + 1) }

def Loan.detach (L : Loan) (t : Nat) (l : List Nat) : Loan :=
  { L with det := Function.update L.det t l }

structure Counted (d : Daemon) : Prop where
  conns : ∀ b, Counts (fun t => (d.conn t).counted b) (d.statConn.get b)
  sessions : ∀ b, Counts (fun s => (d.sess s).counted b) (d.statSess.get b)

structure Held (L : Loan) (d : Daemon) : Prop where
  conn : ∀ t, (d.conn t).allocated = true →
    ∃ k, Counts (fun s => (d.sess s).childOf t) k ∧ (d.conn t).Balanced (k + L.conn t)
  sess : ∀ s, (d.sess s).allocated = true → (d.sess s).Balanced (L.sess s)
  parent : ∀ s, (d.sess s).allocated = true → (d.conn (d.sess s).parenConn).allocated = true
  heldConn : ∀ t, L.conn t ≠ 0 → (d.conn t).allocated = true
  heldSess : ∀ s, L.sess s ≠ 0 → (d.sess s).allocated = true

/-- The trees and the sessions taken out of them are the sessions that are not closed. -/
structure Trees (L : Loan) (d : Daemon) : Prop where
  tree : ∀ t s, s ∈ (d.conn t).sessions ++ L.det t ↔
    (d.sess s).parenConn = t ∧ (d.sess s).state1 ≠ .close
  nodup : ∀ t, ((d.conn t).sessions ++ L.det t).Nodup
  count : ∀ t, (d.conn t).sessCount = ((d.conn t).sessions ++ L.det t).length
  whole : ∀ t, L.det t = [] ∨ (d.conn t).sessions = []
  sids : ∀ t, ∀ s ∈ (d.conn t).sessions, ∀ s' ∈ (d.conn t).sessions,
    (d.sess s).sid = (d.sess s').sid → s = s'

/-- Contexts and threads are where their object's life has come to, and memory not handed out is as
it was. -/
structure Placed (d : Daemon) : Prop where
  window : ∀ t s, (d.conn t).thread = .connecting s →
    (d.sess s).parenConn = t ∧ (d.sess s).apsesCtx = true
  quiet : ∀ s, (d.sess s).state1.stage = .starting → (d.sess s).apsesCtx = false
  opened : ∀ t, (d.conn t).ctx = true → (d.conn t).state ≠ .close
  unusedConn : ∀ t, (d.conn t).allocated = false → (d.conn t).state = .close ∧
    (d.conn t).thread = .idle ∧ (d.conn t).toStart = none
  unusedSess : ∀ s, (d.sess s).allocated = false →
    (d.sess s).state1 = .close ∧ (d.sess s).apsesCtx = false
  freshConn : ∀ t, d.nconns ≤ t → (d.conn t).allocated = false
  freshSess : ∀ s, d.nsess ≤ s → (d.sess s).allocated = false

/-- The invariant of the daemon while the running code holds `L`. -/
structure Sound (L : Loan) (d : Daemon) : Prop extends Counted d, Held L d, Trees L d, Placed d

theorem Sound.allocated_of_state {L : Loan} {d : Daemon} (h : Sound L d) {t : Nat}
    (hne : (d.conn t).state ≠ .close) : (d.conn t).allocated = true := by
  grind [h.unusedConn]

theorem Sound.allocated_of_thread {L : Loan} {d : Daemon} (h : Sound L d) {t : Nat}
    (hne : (d.conn t).thread ≠ .idle) : (d.conn t).allocated = true := by
  cases hf : (d.conn t).allocated
  · exact absurd (h.unusedConn t hf).2.1 hne
  · rfl

theorem Sound.allocated_of_state1 {L : Loan} {d : Daemon} (h : Sound L d) {s : Nat}
    (hne : (d.sess s).state1 ≠ .close) : (d.sess s).allocated = true := by
  grind [h.unusedSess]

section Objects

variable {c c' : Conn} {x x' : Sess} {b : Stage}

theorem Conn.own_nonneg (c : Conn) : 0 ≤ c.own := by
  unfold Conn.own
  split <;> omega

theorem Conn.hold_nonneg (c : Conn) : 0 ≤ c.hold := by
  unfold Conn.hold
  split <;> omega

theorem Sess.own_nonneg (x : Sess) : 0 ≤ x.own := by
  unfold Sess.own
  split <;> omega

theorem Sess.channel_nonneg (x : Sess) : 0 ≤ x.channel := by
  unfold Sess.channel
  split <;> omega

theorem Conn.own_of_ne (h : c.state ≠ .close) : c.own = 1 := if_neg h

theorem Sess.own_of_ne (h : x.state1 ≠ .close) : x.own = 2 := if_neg h

theorem Sess.childOf_of_ne {t : Nat} (h : t ≠ x.parenConn) : x.childOf t = false := by
  simp [Sess.childOf, h.symm]

theorem Conn.Balanced.alive {n : Int} (h : c.Balanced n) (hn : c.refCount ≠ 0) :
    c.destroyed = 0 := by
  rw [h.once, if_neg hn]

theorem Sess.Balanced.alive {n : Int} (h : x.Balanced n) (hn : x.refCount ≠ 0) :
    x.destroyed = 0 := by
  rw [h.once, if_neg hn]

end Objects

section Stats

variable (st : Stats) (b b' : Stage)

def Stage.ind (b b' : Stage) : Int := Tally.ind (decide (b = b'))

theorem Stats.get_toFinishing :
    (st.toFinishing b).get b' = st.get b' + Stage.ind .finishing b' - Stage.ind b b' := by
  cases b <;> cases b' <;> simp [Stats.toFinishing, Stats.get, Stage.ind, Tally.ind]

theorem Stats.get_toActive :
    st.toActive.get b' = st.get b' + Stage.ind .active b' - Stage.ind .starting b' := by
  cases b' <;> simp [Stats.toActive, Stats.get, Stage.ind, Tally.ind]

theorem Stats.get_incStarting : st.incStarting.get b' = st.get b' + Stage.ind .starting b' := by
  cases b' <;> simp [Stats.incStarting, Stats.get, Stage.ind, Tally.ind]

theorem Stats.get_decFinishing : st.decFinishing.get b' = st.get b' - Stage.ind .finishing b' := by
  cases b' <;> simp [Stats.decFinishing, Stats.get, Stage.ind, Tally.ind]

theorem Conn.ind_counted {c : Conn} (h : c.live = true) (b : Stage) :
    ind (c.counted b) = (stageOfConn c.state).ind b := by
  simp [Conn.counted, h, Stage.ind]

theorem Sess.ind_counted {x : Sess} (h : x.live = true) (b : Stage) :
    ind (x.counted b) = x.state1.stage.ind b := by
  simp [Sess.counted, h, Stage.ind]

end Stats

/-! ## Changes of one tunnel and one session -/

/-- Only the tunnel `t`, the session `s` and the counters change. -/
structure Change (t s : Nat) (d d' : Daemon) : Prop where
  conn : ∀ t', t' ≠ t → d'.conn t' = d.conn t'
  sess : ∀ s', s' ≠ s → d'.sess s' = d.sess s'

section Changes

variable {L L' : Loan} {d d' : Daemon} {t s : Nat}

theorem Change.conn_same {α : Type} (h : Change t s d d') (f : Conn → α)
    (hf : f (d'.conn t) = f (d.conn t)) (t' : Nat) : f (d'.conn t') = f (d.conn t') := by
  grind [h.conn]

theorem Change.sess_same {α : Type} (h : Change t s d d') (f : Sess → α)
    (hf : f (d'.sess s) = f (d.sess s)) (s' : Nat) : f (d'.sess s') = f (d.sess s') := by
  grind [h.sess]

theorem Counted.change (h : Counted d) (hc : Change t s d d')
    (hconn : ∀ b, d'.statConn.get b =
      d.statConn.get b + ind ((d'.conn t).counted b) - ind ((d.conn t).counted b))
    (hsess : ∀ b, d'.statSess.get b =
      d.statSess.get b + ind ((d'.sess s).counted b) - ind ((d.sess s).counted b)) :
    Counted d' where
  conns b := (h.conns b).move (fun t' ht' => by rw [hc.conn t' ht']) (hconn b)
  sessions b := (h.sessions b).move (fun s' hs' => by rw [hc.sess s' hs']) (hsess b)

theorem Held.change (h : Held L d) (hc : Change t s d d')
    (hup : (d.conn t).allocated = true → (d'.conn t).allocated = true)
    (hchild : ∀ t', t' ≠ t → (d'.sess s).childOf t' = (d.sess s).childOf t')
    (hconn : (d'.conn t).allocated = true →
      ∃ k, Counts (fun s' => (d.sess s').childOf t) k ∧ (d'.conn t).Balanced
        (k + ind ((d'.sess s).childOf t) - ind ((d.sess s).childOf t) + L'.conn t))
    (hsess : (d'.sess s).allocated = true → (d'.sess s).Balanced (L'.sess s))
    (hpar : (d'.sess s).allocated = true → (d'.conn (d'.sess s).parenConn).allocated = true)
    (hheld : L'.conn t ≠ 0 → (d'.conn t).allocated = true)
    (hheldSess : L'.sess s ≠ 0 → (d'.sess s).allocated = true)
    (hL : ∀ t', t' ≠ t → L'.conn t' = L.conn t')
    (hLs : ∀ s', s' ≠ s → L'.sess s' = L.sess s') : Held L' d' := by
  have hup' : ∀ t', (d.conn t').allocated = true → (d'.conn t').allocated = true := by
    grind [hc.conn]
  constructor
  · intro t' ht'
    by_cases htt : t' = t
    · subst htt
      obtain ⟨k, hk, hb⟩ := hconn ht'
      exact ⟨_, hk.move (fun s' hs' => by rw [hc.sess s' hs']) rfl, hb⟩
    · rw [hc.conn t' htt] at ht' ⊢
      rw [hL t' htt]
      simp only [hc.sess_same (Sess.childOf t') (hchild t' htt)]
      exact h.conn t' ht'
  · grind [hc.sess, h.sess]
  · grind [hc.sess, h.parent]
  · grind [h.heldConn]
  grind [hc.sess, h.heldSess]

theorem Trees.change (h : Trees L d) (hc : Change t s d d')
    (hcat : (d'.conn t).sessions ++ L'.det t = (d.conn t).sessions ++ L.det t)
    (hsub : (d'.conn t).sessions ⊆ (d.conn t).sessions)
    (hwhole : L'.det t = [] ∨ (d'.conn t).sessions = [])
    (hcount : (d'.conn t).sessCount = (d.conn t).sessCount)
    (hpar : (d'.sess s).parenConn = (d.sess s).parenConn)
    (hclose : (d'.sess s).state1 = .close ↔ (d.sess s).state1 = .close)
    (hsid : (d'.sess s).sid = (d.sess s).sid)
    (hdet : ∀ t', t' ≠ t → L'.det t' = L.det t') : Trees L' d' := by
  have hcat' : ∀ t', (d'.conn t').sessions ++ L'.det t' = (d.conn t').sessions ++ L.det t' := by
    intro t'
    by_cases htt : t' = t
    · rw [htt, hcat]
    · rw [hc.conn t' htt, hdet t' htt]
  have hclose' := hc.sess_same (fun x => x.state1 = .close) (propext hclose)
  have hsid' := hc.sess_same Sess.sid hsid
  constructor
  · intro t' s'
    rw [hcat', hc.sess_same Sess.parenConn hpar, ne_eq, hclose']
    exact h.tree t' s'
  · intro t'
    rw [hcat']
    exact h.nodup t'
  · intro t'
    rw [hcat', hc.conn_same Conn.sessCount hcount]
    exact h.count t'
  · intro t'
    by_cases htt : t' = t
    · rwa [htt]
    · rw [hc.conn t' htt, hdet t' htt]
      exact h.whole t'
  grind [h.sids, hc.conn]

section Placed

variable (h : Placed d) (hc : Change t s d d')
  (hwinConn : ∀ s', (d'.conn t).thread = .connecting s' →
    (d'.sess s').parenConn = t ∧ (d'.sess s').apsesCtx = true)
  (hwinSess : ∀ t', t' ≠ t → (d.conn t').thread = .connecting s →
    (d'.sess s).parenConn = t' ∧ (d'.sess s).apsesCtx = true)
  (hquiet : (d'.sess s).state1.stage = .starting → (d'.sess s).apsesCtx = false)
  (hopen : (d'.conn t).ctx = true → (d'.conn t).state ≠ .close)

include h hc hwinConn hwinSess hquiet hopen

theorem Placed.change
    (hconn : (d'.conn t).allocated = false → (d'.conn t).state = .close ∧
      (d'.conn t).thread = .idle ∧ (d'.conn t).toStart = none)
    (hsess : (d'.sess s).allocated = false →
      (d'.sess s).state1 = .close ∧ (d'.sess s).apsesCtx = false)
    (hnconns : d.nconns ≤ d'.nconns) (hnsess : d.nsess ≤ d'.nsess)
    (hfreshConn : d'.nconns ≤ t → (d'.conn t).allocated = false)
    (hfreshSess : d'.nsess ≤ s → (d'.sess s).allocated = false) : Placed d' := by
  constructor
  · grind [hc.conn, hc.sess, h.window]
  · intro s'
    by_cases hss : s' = s
    · subst hss
      exact hquiet
    · rw [hc.sess s' hss]
      exact h.quiet s'
  · intro t'
    by_cases htt : t' = t
    · subst htt
      exact hopen
    · rw [hc.conn t' htt]
      exact h.opened t'
  · intro t'
    by_cases htt : t' = t
    · subst htt
      exact hconn
    · rw [hc.conn t' htt]
      exact h.unusedConn t'
  · intro s'
    by_cases hss : s' = s
    · subst hss
      exact hsess
    · rw [hc.sess s' hss]
      exact h.unusedSess s'
  · grind [hc.conn, h.freshConn]
  grind [hc.sess, h.freshSess]

theorem Placed.changeUsed
    (hconn : (d'.conn t).allocated = (d.conn t).allocated)
    (hsess : (d'.sess s).allocated = (d.sess s).allocated)
    (hnconns : d'.nconns = d.nconns) (hnsess : d'.nsess = d.nsess)
    (huseConn : (d.conn t).allocated = false → d'.conn t = d.conn t)
    (huseSess : (d.sess s).allocated = false → d'.sess s = d.sess s) : Placed d' := by
  refine h.change hc hwinConn hwinSess hquiet hopen ?_ ?_ (Nat.le_of_eq hnconns.symm)
    (Nat.le_of_eq hnsess.symm) ?_ ?_
  · intro hf
    rw [hconn] at hf
    rw [huseConn hf]
    exact h.unusedConn t hf
  · intro hf
    rw [hsess] at hf
    rw [huseSess hf]
    exact h.unusedSess s hf
  · intro hle
    rw [hnconns] at hle
    rw [hconn]
    exact h.freshConn t hle
  · intro hle
    rw [hnsess] at hle
    rw [hsess]
    exact h.freshSess s hle

end Placed

end Changes

/-- Only the tunnel `t` and the statistics of the tunnels change. -/
structure OnlyConn (t : Nat) (d d' : Daemon) : Prop where
  conn : ∀ t', t' ≠ t → d'.conn t' = d.conn t'
  sess : d'.sess = d.sess
  nconns : d'.nconns = d.nconns
  nsess : d'.nsess = d.nsess
  statSess : d'.statSess = d.statSess

/-- Only the session `s` and the statistics of the sessions change. -/
structure OnlySess (s : Nat) (d d' : Daemon) : Prop where
  sess : ∀ s', s' ≠ s → d'.sess s' = d.sess s'
  conn : d'.conn = d.conn
  nconns : d'.nconns = d.nconns
  nsess : d'.nsess = d.nsess
  statConn : d'.statConn = d.statConn

section Updates

variable {L L' : Loan} {d d' : Daemon} {t s : Nat}

theorem onlyConn_modConn (f : Conn → Conn) : OnlyConn t d (d.modConn t f) :=
  ⟨fun _ h => Function.update_of_ne h .., rfl, rfl, rfl, rfl⟩

theorem onlySess_modSess (f : Sess → Sess) : OnlySess s d (d.modSess s f) :=
  ⟨fun _ h => Function.update_of_ne h .., rfl, rfl, rfl, rfl⟩

theorem onlyConn_stat (st : Stats) : OnlyConn t d { d with statConn := st } :=
  ⟨fun _ _ => rfl, rfl, rfl, rfl, rfl⟩

theorem onlySess_stat (st : Stats) : OnlySess s d { d with statSess := st } :=
  ⟨fun _ _ => rfl, rfl, rfl, rfl, rfl⟩

theorem OnlyConn.trans {d'' : Daemon} (h : OnlyConn t d d') (h' : OnlyConn t d' d'') :
    OnlyConn t d d'' :=
  ⟨fun t' ht' => (h'.conn t' ht').trans (h.conn t' ht'), h'.sess.trans h.sess,
    h'.nconns.trans h.nconns, h'.nsess.trans h.nsess, h'.statSess.trans h.statSess⟩

theorem OnlySess.trans {d'' : Daemon} (h : OnlySess s d d') (h' : OnlySess s d' d'') :
    OnlySess s d d'' :=
  ⟨fun s' hs' => (h'.sess s' hs').trans (h.sess s' hs'), h'.conn.trans h.conn,
    h'.nconns.trans h.nconns, h'.nsess.trans h.nsess, h'.statConn.trans h.statConn⟩

theorem OnlyConn.change (h : OnlyConn t d d') (s : Nat) : Change t s d d' :=
  ⟨h.conn, fun _ _ => by rw [h.sess]⟩

theorem OnlySess.change (h : OnlySess s d d') (t : Nat) : Change t s d d' :=
  ⟨fun _ _ => by rw [h.conn], h.sess⟩

section Tunnel

variable (h : Sound L d) (ho : OnlyConn t d d')
  (ht : (d.conn t).allocated = true) (hc : (d'.conn t).allocated = true)
  (hst : ∀ b, d'.statConn.get b =
    d.statConn.get b + ind ((d'.conn t).counted b) - ind ((d.conn t).counted b))
  (hbal : ∀ k, 0 ≤ k → (d.conn t).Balanced (k + L.conn t) → (d'.conn t).Balanced (k + L'.conn t))

include h ho ht hc hst hbal

theorem Sound.updateConn
    (htree : (d'.conn t).sessions ++ L'.det t = (d.conn t).sessions ++ L.det t)
    (hsub : (d'.conn t).sessions ⊆ (d.conn t).sessions)
    (hwhole : L'.det t = [] ∨ (d'.conn t).sessions = [])
    (hcount : (d'.conn t).sessCount = (d.conn t).sessCount)
    (hwin : ∀ s, (d'.conn t).thread = .connecting s →
      (d.sess s).parenConn = t ∧ (d.sess s).apsesCtx = true)
    (hopen : (d'.conn t).ctx = true → (d'.conn t).state ≠ .close)
    (hL : ∀ t', t' ≠ t → L'.conn t' = L.conn t' ∧ L'.det t' = L.det t')
    (hLs : L'.sess = L.sess) : Sound L' d' := by
  have hch : Change t 0 d d' := ho.change 0
  have hup := hch.conn_same Conn.allocated (hc.trans ht.symm)
  have hcounted : Counted d' := by
    refine h.toCounted.change hch hst fun b => ?_
    rw [ho.sess, ho.statSess]
    omega
  have hheld : Held L' d' := by
    refine h.toHeld.change hch (fun _ => hc) ?_ ?_ ?_ ?_ (fun _ => hc) ?_
      (fun t' ht' => (hL t' ht').1) (fun _ _ => by rw [hLs])
    all_goals rw [ho.sess]
    · exact fun _ _ => rfl
    · intro _
      obtain ⟨k, hk, hb⟩ := h.conn t ht
      refine ⟨k, hk, ?_⟩
      rw [Int.add_sub_cancel]
      exact hbal k hk.nonneg hb
    · rw [hLs]
      exact h.sess 0
    · rw [hup]
      exact h.parent 0
    · rw [hLs]
      exact h.heldSess 0
  have htrees : Trees L' d' := by grind [h.toTrees.change, ho.sess]
  have hplaced : Placed d' := by
    refine h.toPlaced.changeUsed hch ?_ ?_ ?_ hopen (hc.trans ht.symm) ?_ ho.nconns ho.nsess
      (fun hf => by cases ht.symm.trans hf) ?_
    all_goals rw [ho.sess]
    · exact hwin
    · exact fun t' _ => h.window t' 0
    · exact h.quiet 0
    · exact fun _ => rfl
  exact ⟨hcounted, hheld, htrees, hplaced⟩

theorem Sound.adjustConn
    (htree : (d'.conn t).sessions = (d.conn t).sessions)
    (hcount : (d'.conn t).sessCount = (d.conn t).sessCount)
    (hth : (d'.conn t).thread = (d.conn t).thread)
    (hopen : (d'.conn t).ctx = true → (d'.conn t).state ≠ .close)
    (hL : ∀ t', t' ≠ t → L'.conn t' = L.conn t') (hdet : L'.det = L.det)
    (hLs : L'.sess = L.sess) : Sound L' d' := by
  refine h.updateConn ho ht hc hst hbal ?_ ?_ ?_ hcount ?_ hopen ?_ hLs
  · rw [htree, hdet]
  · rw [htree]
    exact List.Subset.refl _
  · rw [htree, hdet]
    exact h.whole t
  · rw [hth]
    exact h.window t
  · exact fun t' ht' => ⟨hL t' ht', by rw [hdet]⟩

end Tunnel

theorem Sound.updateSess (h : Sound L d) (ho : OnlySess s d d')
    (hs : (d.sess s).allocated = true) (hx : (d'.sess s).allocated = true)
    (hpar : (d'.sess s).parenConn = (d.sess s).parenConn)
    (hsid : (d'.sess s).sid = (d.sess s).sid)
    (hclose : (d'.sess s).state1 = .close ↔ (d.sess s).state1 = .close)
    (hst : ∀ b, d'.statSess.get b =
      d.statSess.get b + ind ((d'.sess s).counted b) - ind ((d.sess s).counted b))
    (hbal : (d.sess s).Balanced (L.sess s) → (d'.sess s).Balanced (L'.sess s))
    (hwin : (d'.sess s).apsesCtx = false → ∀ t, (d.conn t).thread ≠ .connecting s)
    (hquiet : (d'.sess s).state1.stage = .starting → (d'.sess s).apsesCtx = false)
    (hL : ∀ s', s' ≠ s → L'.sess s' = L.sess s') (hdet : L'.det = L.det)
    (hconn : ∀ t, (L'.conn t : Int) =
      L.conn t + ind ((d.sess s).childOf t) - ind ((d'.sess s).childOf t)) : Sound L' d' := by
  have hp := h.parent s hs
  have hch := ho.change (d.sess s).parenConn
  have hwindow : ∀ t s', (d.conn t).thread = .connecting s' →
      (d'.sess s').parenConn = t ∧ (d'.sess s').apsesCtx = true := by
    intro t s' hth
    obtain ⟨hpt, hctx⟩ := h.window t s' hth
    grind [ho.sess]
  have hcounted : Counted d' := by
    refine h.toCounted.change hch (fun b => ?_) hst
    rw [ho.conn, ho.statConn]
    omega
  have hheld : Held L' d' := by
    refine h.toHeld.change hch ?_ ?_ ?_ (fun _ => hbal (h.sess s hs)) ?_ ?_ (fun _ => hx) ?_ hL
    · rw [ho.conn]
      exact id
    · intro t ht
      rw [Sess.childOf_of_ne ht, Sess.childOf_of_ne (hpar ▸ ht)]
    · intro _
      rw [ho.conn]
      obtain ⟨k, hk, hb⟩ := h.conn _ hp
      refine ⟨k, hk, ?_⟩
      rw [hconn]
      convert hb using 1
      omega
    · rw [hpar, ho.conn]
      exact fun _ => hp
    · rw [ho.conn]
      exact fun _ => hp
    grind [Sess.childOf_of_ne]
  have htrees : Trees L' d' := by
    refine h.toTrees.change hch ?_ ?_ ?_ ?_ hpar hclose hsid (fun _ _ => by rw [hdet])
    all_goals rw [ho.conn]
    · rw [hdet]
    · exact List.Subset.refl _
    · rw [hdet]
      exact h.whole _
  have hplaced : Placed d' := by
    refine h.toPlaced.changeUsed hch ?_ ?_ hquiet ?_ ?_ (hx.trans hs.symm) ho.nconns ho.nsess ?_
      (fun hf => by cases hs.symm.trans hf)
    · rw [ho.conn]
      exact hwindow _
    · exact fun t' _ => hwindow t' s
    · rw [ho.conn]
      exact h.opened _
    · rw [ho.conn]
    · rw [ho.conn]
      exact fun _ => rfl
  exact ⟨hcounted, hheld, htrees, hplaced⟩

/-- The tunnel `c` with what is scheduled in the context of `c'`. -/
def Conn.rescheduled (c c' : Conn) : Conn :=
  { c with ctx := c'.ctx, calls := c'.calls, toStart := c'.toStart }

/-- The session `x` with the data channel of `x'`, the registration of its context apart. -/
def Sess.rescheduled (x x' : Sess) : Sess :=
  { x with apsesCalls := x'.apsesCalls, apsesState := x'.apsesState }

theorem Sound.touchConn (h : Sound L d) (ht : (d.conn t).allocated = true) (f : Conn → Conn)
    (hf : f (d.conn t) = (d.conn t).rescheduled (f (d.conn t)))
    (hopen : (f (d.conn t)).ctx = true → (d.conn t).state ≠ .close) :
    Sound L (d.modConn t f) := by
  refine h.adjustConn (onlyConn_modConn f) ht ?_ ?_ ?_ ?_ ?_ ?_ ?_ (fun _ _ => rfl) rfl rfl
  all_goals rw [modConn_conn_self, hf]
  · exact ht
  · exact fun b => (Int.add_sub_cancel _ _).symm
  · exact fun k _ hb => ⟨hb.refs, hb.once⟩
  · rfl
  · rfl
  · rfl
  · exact hopen

theorem Sound.touchSess (h : Sound L d) (hs : (d.sess s).allocated = true) (f : Sess → Sess)
    (hf : f (d.sess s) = (d.sess s).rescheduled (f (d.sess s))) :
    Sound L (d.modSess s f) := by
  refine h.updateSess (onlySess_modSess f) hs ?_ ?_ ?_ ?_ ?_ ?_ ?_ ?_ (fun _ _ => rfl) rfl ?_
  all_goals rw [modSess_sess_self, hf]
  · exact hs
  · rfl
  · rfl
  · exact Iff.rfl
  · exact fun b => (Int.add_sub_cancel _ _).symm
  · exact fun hb => ⟨hb.refs, hb.once⟩
  · intro hctx t hth
    cases hctx.symm.trans (h.window t s hth).2
  · exact h.quiet s
  · exact fun t => (Int.add_sub_cancel _ _).symm

end Updates

/-! ## Dropping references -/

section Puts

variable {L : Loan} {d : Daemon} {t s : Nat}

theorem Conn.Balanced.closed {c : Conn} {n : Int} (h : c.Balanced n) (hn : 0 < n)
    (h0 : c.refCount = 1) : c.state = .close ∧ c.thread = .idle ∧ n = 1 := by
  have hr := h.refs
  have ho := c.own_nonneg
  have hh := c.hold_nonneg
  refine ⟨?_, ?_, by omega⟩
  · by_contra hc
    have := Conn.own_of_ne hc
    omega
  · by_contra hc
    have : c.hold = 1 := if_neg hc
    omega

theorem Sess.Balanced.closed {x : Sess} {n : Int} (h : x.Balanced n) (hn : 0 < n)
    (h0 : x.refCount = 1) : x.state1 = .close ∧ x.apsesCtx = false ∧ n = 1 := by
  have hr := h.refs
  have ho := x.own_nonneg
  have hh := x.channel_nonneg
  refine ⟨?_, ?_, by omega⟩
  · by_contra hc
    have := Sess.own_of_ne hc
    omega
  · by_contra hc
    have : x.channel = 1 := if_pos (Bool.not_eq_false _ ▸ hc)
    omega

theorem tunnelPut_sound (h : Sound (L.tunnel t) d) : Sound L (tunnelPut t d) := by
  have hloan : (L.tunnel t).conn t = L.conn t + 1 := Function.update_self ..
  have ht : (d.conn t).allocated = true := h.heldConn t (by omega)
  have hother : ∀ t', t' ≠ t → L.conn t' = (L.tunnel t).conn t' :=
    fun t' ht' => (Function.update_of_ne ht' ..).symm
  unfold tunnelPut
  simp only [modConn_conn_self]
  by_cases h0 : (d.conn t).refCount - 1 = 0
  · rw [if_pos h0]
    obtain ⟨k, hk, hb⟩ := h.conn t ht
    have hk0 := hk.nonneg
    obtain ⟨hclose, hidle, hn⟩ := hb.closed (by omega) (by omega)
    have halive := hb.alive (by omega)
    unfold tunnelDestroy
    refine h.adjustConn (((onlyConn_modConn _).trans (onlyConn_modConn _)).trans
      (onlyConn_stat _)) ht ?_ ?_ ?_ ?_ ?_ ?_ ?_ hother rfl rfl
    all_goals simp only [modConn_conn_self]
    · exact ht
    · simp [Stats.get_decFinishing, Conn.counted, Conn.live, ht, halive, hclose, stageOfConn,
        Stage.ind, ind, Daemon.modConn]
    · intro k' _ hb'
      have hr := hb'.refs
      refine ⟨?_, ?_⟩
      · simp only [Conn.own, Conn.hold] at hr ⊢
        omega
      · simp [h0, halive]
    · exact h.opened t
  · rw [if_neg h0]
    refine h.adjustConn (onlyConn_modConn _) ht ?_ ?_ ?_ ?_ ?_ ?_ ?_ hother rfl rfl
    all_goals simp only [modConn_conn_self]
    · exact ht
    · exact fun b => (Int.add_sub_cancel _ _).symm
    · intro k hk hb
      have hr := hb.refs
      have ho := (d.conn t).own_nonneg
      have hh := (d.conn t).hold_nonneg
      refine ⟨?_, ?_⟩
      · simp only [Conn.own, Conn.hold] at hr ⊢
        omega
      · rw [if_neg h0]
        exact hb.alive (by omega)
    · exact h.opened t

theorem sessionPut_sound (h : Sound (L.session s) d) : Sound L (sessionPut s d) := by
  have hloan : (L.session s).sess s = L.sess s + 1 := Function.update_self ..
  have hs : (d.sess s).allocated = true := h.heldSess s (by omega)
  have hother : ∀ s', s' ≠ s → L.sess s' = (L.session s).sess s' :=
    fun s' hs' => (Function.update_of_ne hs' ..).symm
  have hb := h.sess s hs
  have hr := hb.refs
  have ho := (d.sess s).own_nonneg
  have hc := (d.sess s).channel_nonneg
  have halive := hb.alive (by omega)
  unfold sessionPut
  simp only [modSess_sess_self]
  by_cases h0 : (d.sess s).refCount - 1 = 0
  · rw [if_pos h0]
    obtain ⟨hclose, hctx, hn⟩ := hb.closed (by omega) (by omega)
    refine tunnelPut_sound ?_
    refine h.updateSess (((onlySess_modSess _).trans (onlySess_modSess _)).trans
      (onlySess_stat _)) hs ?_ ?_ ?_ ?_ ?_ ?_ ?_ ?_ hother rfl ?_
    all_goals simp only [modSess_sess_self]
    · exact hs
    · simp [Stats.get_decFinishing, Sess.counted, Sess.live, hs, halive, hclose, SessState.stage,
        Stage.ind, ind, Daemon.modSess]
    · intro _
      refine ⟨?_, ?_⟩
      · simp only [Loan.tunnel, Sess.own, Sess.channel] at hr ⊢
        omega
      · simp [h0, halive]
    · intro _ t hth
      cases hctx.symm.trans (h.window t s hth).2
    · exact fun _ => hctx
    · intro t
      by_cases htp : (d.sess s).parenConn = t
      · simp [Loan.tunnel, Loan.session, Sess.childOf, Sess.live, hs, halive, htp, ind]
      · simp [Loan.tunnel, Loan.session, Sess.childOf, htp,
          Function.update_of_ne (Ne.symm htp)]
  · rw [if_neg h0]
    refine h.updateSess (onlySess_modSess _) hs ?_ ?_ ?_ ?_ ?_ ?_ ?_ ?_ hother rfl ?_
    all_goals simp only [modSess_sess_self]
    · exact hs
    · exact fun b => (Int.add_sub_cancel _ _).symm
    · intro _
      refine ⟨?_, ?_⟩
      · simp only [Sess.own, Sess.channel] at hr ⊢
        omega
      · rw [if_neg h0, halive]
    · intro hctx t hth
      cases hctx.symm.trans (h.window t s hth).2
    · exact h.quiet s
    · exact fun t => (Int.add_sub_cancel _ _).symm

end Puts

/-! ## A session is closed -/

section Close

variable {L : Loan} {d d' : Daemon} {p s : Nat}

theorem erase_append_erase {l m : List Nat} (h : (l ++ m).Nodup) (s : Nat) :
    l.erase s ++ m.erase s = (l ++ m).erase s := by
  grind [List.erase_of_not_mem]

theorem Sound.live_of_state1 (h : Sound L d) (hx : (d.sess s).state1 ≠ .close) :
    (d.sess s).live = true := by
  have hs := h.allocated_of_state1 hx
  have hb := h.sess s hs
  have hr := hb.refs
  have hown := Sess.own_of_ne hx
  have hch := (d.sess s).channel_nonneg
  simp [Sess.live, hs, hb.alive (by omega)]

/-- The loan after a session has left its tunnel: its own reference is still to be dropped. -/
def Loan.leave (L : Loan) (p s : Nat) : Loan := (L.detach p ((L.det p).erase s)).session s

/-- The two objects a closing session changes, and how. -/
structure Closed (p s : Nat) (d d' : Daemon) : Prop where
  sess : ∀ s', s' ≠ s → d'.sess s' = d.sess s'
  conn : ∀ t, t ≠ p → d'.conn t = d.conn t
  session : ∃ calls, d'.sess s =
    { d.sess s with state1 := .close, refCount := (d.sess s).refCount - 1, apsesCalls := calls }
  tunnel : d'.conn p =
    { d.conn p with
      sessions := (d.conn p).sessions.erase s
      sessCount := (d.conn p).sessCount - 1 }
  nconns : d'.nconns = d.nconns
  nsess : d'.nsess = d.nsess
  statConn : d'.statConn = d.statConn
  statSess : d'.statSess = d.statSess.toFinishing (d.sess s).state1.stage

theorem Closed.change (hc : Closed p s d d') : Change p s d d' := ⟨hc.conn, hc.sess⟩

theorem Trees.closed (h : Trees L d) (hx : (d.sess s).state1 ≠ .close)
    (hp : (d.sess s).parenConn = p) (hc : Closed p s d d') : Trees (L.leave p s) d' := by
  obtain ⟨calls, hx'⟩ := hc.session
  have hmem : s ∈ (d.conn p).sessions ++ L.det p := (h.tree p s).2 ⟨hp, hx⟩
  have hsid := hc.change.sess_same Sess.sid (by rw [hx'])
  have hself : (d'.conn p).sessions ++ (L.leave p s).det p =
      ((d.conn p).sessions ++ L.det p).erase s := by
    have hdet : (L.leave p s).det p = (L.det p).erase s := Function.update_self ..
    rw [hdet, hc.tunnel]
    exact erase_append_erase (h.nodup p) s
  have hother : ∀ t, t ≠ p → (L.leave p s).det t = L.det t :=
    fun t ht => Function.update_of_ne ht ..
  constructor
  · intro t s'
    by_cases hss : s' = s
    · refine iff_of_false ?_ fun hq => hq.2 (by rw [hss, hx'])
      subst hss
      by_cases htp : t = p
      · rw [htp, hself]
        exact (h.nodup p).not_mem_erase
      grind [hc.conn, h.tree]
    grind [hc.sess, h.tree, hc.conn]
  · intro t
    by_cases htp : t = p
    · rw [htp, hself]
      exact (h.nodup p).erase s
    · rw [hc.conn t htp, hother t htp]
      exact h.nodup t
  · grind [h.count, hc.tunnel, hc.conn]
  · intro t
    by_cases htp : t = p
    · have hdet : (L.leave p s).det p = (L.det p).erase s := Function.update_self ..
      grind [hc.tunnel, h.whole]
    · rw [hc.conn t htp, hother t htp]
      exact h.whole t
  grind [hc.tunnel, h.sids, hc.conn]

theorem Held.closed (h : Held L d) (hs : (d.sess s).allocated = true)
    (hx : (d.sess s).state1 ≠ .close) (hp : (d.sess s).parenConn = p) (hc : Closed p s d d') :
    Held (L.leave p s) d' := by
  obtain ⟨calls, hx'⟩ := hc.session
  have hb := h.sess s hs
  have hr := hb.refs
  have hown := Sess.own_of_ne hx
  have hch := (d.sess s).channel_nonneg
  have halive := hb.alive (by omega)
  have halloc : (d.conn p).allocated = true := hp ▸ h.parent s hs
  have hchild : ∀ t, (d'.sess s).childOf t = (d.sess s).childOf t := fun t => by rw [hx']; rfl
  refine h.change hc.change ?_ (fun t _ => hchild t) ?_ ?_ ?_ ?_ ?_ (fun _ _ => rfl)
    (fun s' hs' => Function.update_of_ne hs' ..)
  · rw [hc.tunnel]
    exact id
  · intro _
    obtain ⟨k, hk, hbal⟩ := h.conn p halloc
    refine ⟨k, hk, ?_⟩
    rw [hchild, Int.add_sub_cancel, hc.tunnel]
    exact ⟨hbal.refs, hbal.once⟩
  · intro _
    have hloan : (L.leave p s).sess s = L.sess s + 1 := Function.update_self ..
    rw [hx']
    refine ⟨?_, ?_⟩
    · simp only [Sess.own, Sess.channel, if_true] at hr hown ⊢
      omega
    · rw [if_neg (by dsimp only; omega)]
      exact halive
  · rw [hx', hp, hc.tunnel]
    exact fun _ => halloc
  · rw [hc.tunnel]
    exact fun _ => halloc
  · rw [hx']
    exact fun _ => hs

theorem Sound.closed (h : Sound L d) (hx : (d.sess s).state1 ≠ .close)
    (hp : (d.sess s).parenConn = p) (hc : Closed p s d d') : Sound (L.leave p s) d' := by
  obtain ⟨calls, hx'⟩ := hc.session
  have hs := h.allocated_of_state1 hx
  have hwindow : ∀ t s', (d.conn t).thread = .connecting s' →
      (d'.sess s').parenConn = t ∧ (d'.sess s').apsesCtx = true := by
    intro t s' hth
    rw [hc.change.sess_same Sess.parenConn (by rw [hx']),
      hc.change.sess_same Sess.apsesCtx (by rw [hx'])]
    exact h.window t s' hth
  have hcounted : Counted d' := by
    refine h.toCounted.change hc.change (fun b => ?_) fun b => ?_
    · rw [hc.statConn, hc.tunnel]
      exact (Int.add_sub_cancel _ _).symm
    · have hl := h.live_of_state1 hx
      have hl' : (d'.sess s).live = true := by rw [hx']; exact hl
      rw [hc.statSess, Stats.get_toFinishing, Sess.ind_counted hl b, Sess.ind_counted hl' b, hx']
      rfl
  have hplaced : Placed d' := by
    refine h.toPlaced.changeUsed hc.change ?_ (fun t _ => hwindow t s) ?_ ?_ ?_ ?_ hc.nconns
      hc.nsess ?_ (fun hf => by cases hs.symm.trans hf)
    · rw [hc.tunnel]
      exact hwindow p
    · rw [hx']
      exact nofun
    · rw [hc.tunnel]
      exact h.opened p
    · rw [hc.tunnel]
    · rw [hx']
    grind [h.parent]
  exact ⟨hcounted, h.toHeld.closed hs hx hp hc, h.toTrees.closed hx hp hc, hplaced⟩

theorem callApses_eq (call : ApsesCall) (ok : Bool) : ∃ calls, (callApses s call ok d).2 =
    d.modSess s fun x => { x with apsesCalls := calls } := by
  unfold callApses
  split
  · exact ⟨(d.sess s).apsesCalls ++ [call], rfl⟩
  · refine ⟨(d.sess s).apsesCalls, ?_⟩
    simp [Daemon.modSess]

theorem sessionClose_eq (a : Answers) : ∃ calls,
    (sessionClose a s d).sess s = { d.sess s with state1 := .close, apsesCalls := calls } ∧
    OnlySess s d (sessionClose a s d) ∧
    (sessionClose a s d).statSess = d.statSess.toFinishing (d.sess s).state1.stage := by
  unfold sessionClose
  dsimp only
  split
  · obtain ⟨calls, hcalls⟩ := @callApses_eq
      { d with statSess := d.statSess.toFinishing (d.sess s).state1.stage } s .stop (a.callApses s)
    refine ⟨calls, ?_, ?_, ?_⟩
    · simp [hcalls]
    · rw [hcalls]
      exact ((onlySess_stat _).trans (onlySess_modSess _)).trans (onlySess_modSess _)
    · rw [hcalls]
      rfl
  · exact ⟨(d.sess s).apsesCalls, modSess_sess_self ..,
      (onlySess_stat _).trans (onlySess_modSess _), rfl⟩

theorem eraseP_eq_erase {l : List Nat} {q : Nat → Bool} (h : ∀ i ∈ l, q i = decide (i = s)) :
    l.eraseP q = l.erase s := by
  induction l with
  | nil => rfl
  | cons i l ih =>
    have hi := h i List.mem_cons_self
    by_cases his : i = s
    · rw [List.eraseP_cons_of_pos (hi.trans (decide_eq_true his)), his, List.erase_cons_head]
    simp_all

theorem Sound.sameSid (h : Sound L d) (hx : (d.sess s).state1 ≠ .close)
    (hp : (d.sess s).parenConn = p) :
    ((d.conn p).sessions ≠ [] → s ∈ (d.conn p).sessions) ∧
    ∀ i ∈ (d.conn p).sessions,
      decide ((d.sess i).sid = (d.sess s).sid) = decide (i = s) := by
  have hmem : s ∈ (d.conn p).sessions ++ L.det p := (h.tree p s).2 ⟨hp, hx⟩
  have hin : (d.conn p).sessions ≠ [] → s ∈ (d.conn p).sessions := by grind [h.whole]
  refine ⟨hin, fun i hi => ?_⟩
  have hs := hin (List.ne_nil_of_mem hi)
  refine decide_eq_decide.2 ⟨fun hq => h.sids p i hi s hs hq, ?_⟩
  rintro rfl
  rfl

theorem sessionPut_of_ne (h : (d.sess s).refCount - 1 ≠ 0) :
    sessionPut s d = d.modSess s fun x => { x with refCount := x.refCount - 1 } := by
  unfold sessionPut
  simp only [modSess_sess_self]
  rw [if_neg h]

theorem sessionUnlink_closed (h : Sound L d) (hx : (d.sess s).state1 ≠ .close)
    (hp : (d.sess s).parenConn = p) (a : Answers) :
    ∃ d', sessionUnlink s (sessionClose a s d) = some d' ∧ Closed p s d d' := by
  obtain ⟨calls, hself, honly, hstat⟩ := @sessionClose_eq d s a
  obtain ⟨hin, hsame⟩ := h.sameSid hx hp
  generalize sessionClose a s d = e at hself honly hstat
  have hsid : ∀ i, (e.sess i).sid = (d.sess i).sid := (honly.change p).sess_same Sess.sid (by rw [hself])
  have hpar : (e.sess s).parenConn = p := by rw [hself, ← hp]
  have hs := h.allocated_of_state1 hx
  have hne : (d.sess s).refCount - 1 ≠ 0 := by
    have hr := (h.sess s hs).refs
    have hown := Sess.own_of_ne hx
    have hch := (d.sess s).channel_nonneg
    omega
  unfold sessionUnlink
  simp only [hpar, hsid, honly.conn]
  rw [if_neg]
  · refine ⟨_, rfl, ?_⟩
    rw [sessionPut_of_ne (by rw [modConn_sess, hself]; exact hne)]
    constructor
    · intro s' hs'
      exact (Function.update_of_ne hs' ..).trans (honly.sess s' hs')
    · intro t ht
      simp [Daemon.modConn, honly.conn, ht]
    · exact ⟨calls, by simp [hself]⟩
    · simp [honly.conn, eraseP_eq_erase hsame]
    · exact honly.nconns
    · exact honly.nsess
    · exact honly.statConn
    · exact hstat
  · rintro ⟨hnil, hany⟩
    rw [List.any_eq_false] at hany
    exact hany s (hin hnil) (decide_eq_true rfl)

end Close

/-! ## New tunnels and sessions -/

section Creation

variable {L : Loan} {d d' : Daemon} {t s : Nat} {sid : UInt16}

structure Born (sid : UInt16) (t s : Nat) (d d' : Daemon) : Prop where
  sess : ∀ s', s' ≠ s → d'.sess s' = d.sess s'
  conn : ∀ t', t' ≠ t → d'.conn t' = d.conn t'
  session : d'.sess s =
    { allocated := true, parenConn := t, sid := sid, refCount := 2, state1 := .init }
  tunnel : d'.conn t =
    { d.conn t with
      sessions := s :: (d.conn t).sessions
      sessCount := (d.conn t).sessCount + 1
      refCount := (d.conn t).refCount + 1 }
  nconns : d'.nconns = d.nconns
  fresh : d.nsess = s
  nsess : d'.nsess = s + 1
  statConn : d'.statConn = d.statConn
  statSess : d'.statSess = d.statSess.incStarting

theorem Born.change (hb : Born sid t s d d') : Change t s d d' := ⟨hb.conn, hb.sess⟩

theorem Trees.sids_born (h : Trees L d) (hnot : ∀ t', s ∉ (d.conn t').sessions ++ L.det t')
    (hnew : ∀ i ∈ (d.conn t).sessions, (d.sess i).sid ≠ sid) (hb : Born sid t s d d') :
    ∀ t', ∀ i ∈ (d'.conn t').sessions, ∀ j ∈ (d'.conn t').sessions,
      (d'.sess i).sid = (d'.sess j).sid → i = j := by
  intro t' i hi j hj hq
  by_cases htt : t' = t
  · grind [hb.tunnel, hb.session, hb.sess, h.sids]
  grind [hb.conn, hb.sess, h.sids]

theorem Trees.born (h : Trees L d) (hclose : (d.sess s).state1 = .close) (hdet : L.det t = [])
    (hnew : ∀ i ∈ (d.conn t).sessions, (d.sess i).sid ≠ sid) (hb : Born sid t s d d') :
    Trees L d' := by
  have hnot : ∀ t', s ∉ (d.conn t').sessions ++ L.det t' :=
    fun t' hq => ((h.tree t' s).1 hq).2 hclose
  have hself : (d'.conn t).sessions ++ L.det t = s :: ((d.conn t).sessions ++ L.det t) := by
    rw [hb.tunnel]
    rfl
  constructor
  · intro t' s'
    by_cases hss : s' = s
    · rw [hss, hb.session]
      by_cases htt : t' = t
      · simp_all
      · rw [hb.conn t' htt]
        exact iff_of_false (hnot t') fun hq => htt hq.1.symm
    grind [hb.sess, h.tree, hb.conn]
  · intro t'
    by_cases htt : t' = t
    · rw [htt, hself]
      exact List.nodup_cons.2 ⟨hnot t, h.nodup t⟩
    · rw [hb.conn t' htt]
      exact h.nodup t'
  · grind [h.count, hb.tunnel, hb.conn]
  · grind [hb.conn, h.whole]
  · exact h.sids_born hnot hnew hb

theorem Held.born (h : Held L d) (ht : (d.conn t).allocated = true)
    (hne : (d.conn t).state ≠ .close) (hfree : (d.sess s).allocated = false)
    (hb : Born sid t s d d') : Held L d' := by
  have hloan : L.sess s = 0 := by
    by_contra hq
    cases hfree.symm.trans (h.heldSess s hq)
  have hold : ∀ t', (d.sess s).childOf t' = false :=
    fun t' => by simp [Sess.childOf, Sess.live, hfree]
  refine h.change hb.change ?_ ?_ ?_ ?_ ?_ ?_ ?_ (fun _ _ => rfl) (fun _ _ => rfl)
  · rw [hb.tunnel]
    exact id
  · intro t' htt
    rw [hold, Sess.childOf_of_ne]
    rwa [hb.session]
  · intro _
    obtain ⟨k, hk, hbal⟩ := h.conn t ht
    have hk0 := hk.nonneg
    have hr := hbal.refs
    have hown := Conn.own_of_ne hne
    have hhold := (d.conn t).hold_nonneg
    have halive := hbal.alive (by omega)
    have hchild : ind ((d'.sess s).childOf t) = 1 := by
      rw [hb.session]
      simp [Sess.childOf, Sess.live, ind]
    have hnone : ind false = 0 := rfl
    refine ⟨k, hk, ?_, ?_⟩
    · rw [hold, hb.tunnel]
      simp only [Conn.own, Conn.hold] at hr ⊢
      omega
    grind [hb.tunnel]
  · rw [hb.session, hloan]
    exact fun _ => ⟨rfl, rfl⟩
  · rw [hb.session, hb.tunnel]
    exact fun _ => ht
  · rw [hb.tunnel]
    exact fun _ => ht
  · rw [hb.session]
    exact fun _ => rfl

theorem Placed.born (h : Placed d) (hfree : (d.sess s).allocated = false)
    (hb : Born sid t s d d') : Placed d' := by
  have hwindow : ∀ t' s', (d.conn t').thread = .connecting s' →
      (d'.sess s').parenConn = t' ∧ (d'.sess s').apsesCtx = true := by
    intro t' s' hth
    have hw := h.window t' s' hth
    have hss : s' ≠ s := by
      rintro rfl
      cases (h.unusedSess s' hfree).2.symm.trans hw.2
    rwa [hb.sess s' hss]
  have hfresh := hb.fresh
  refine h.change hb.change ?_ (fun t' _ => hwindow t' s) ?_ ?_ ?_ ?_ ?_ ?_ ?_ ?_
  · rw [hb.tunnel]
    exact hwindow t
  · rw [hb.session]
    exact fun _ => rfl
  · rw [hb.tunnel]
    exact h.opened t
  · rw [hb.tunnel]
    exact h.unusedConn t
  · rw [hb.session]
    exact nofun
  · rw [hb.nconns]
  · rw [hb.nsess]
    omega
  · rw [hb.nconns, hb.tunnel]
    exact h.freshConn t
  · rw [hb.nsess]
    omega

theorem Sound.born (h : Sound L d) (hne : (d.conn t).state ≠ .close) (hdet : L.det t = [])
    (hnew : ∀ i ∈ (d.conn t).sessions, (d.sess i).sid ≠ sid) (hb : Born sid t s d d') :
    Sound L d' := by
  have ht := h.allocated_of_state hne
  have hfree : (d.sess s).allocated = false := h.freshSess s (Nat.le_of_eq hb.fresh)
  have hcounted : Counted d' := by
    refine h.toCounted.change hb.change (fun b => ?_) fun b => ?_
    · rw [hb.statConn, hb.tunnel]
      exact (Int.add_sub_cancel _ _).symm
    · rw [hb.statSess, hb.session, Stats.get_incStarting, Sess.ind_counted rfl b]
      simp [Sess.counted, Sess.live, hfree, ind, SessState.stage]
  exact ⟨hcounted, h.toHeld.born ht hne hfree hb,
    h.toTrees.born (h.unusedSess s hfree).1 hdet hnew hb, h.toPlaced.born hfree hb⟩

theorem tunnelAllocSession_born {a : Answers} (hs : tunnelAllocSession a t d = some (s, d')) :
    Born a.sid t s d d' ∧ ∀ i ∈ (d.conn t).sessions, (d.sess i).sid ≠ a.sid := by
  unfold tunnelAllocSession at hs
  split at hs
  · cases hs
  · rename_i hno
    obtain ⟨rfl, rfl⟩ := Prod.mk.inj (Option.some.inj hs)
    refine ⟨⟨?_, ?_, ?_, ?_, rfl, rfl, rfl, rfl, rfl⟩, ?_⟩
    · intro s' hs'
      simp [sessionHold, tunnelHold, Daemon.modSess, hs']
    · intro t' ht'
      simp [sessionHold, tunnelHold, Daemon.modConn, ht']
    · simp [sessionHold, tunnelHold]
    · simp [sessionHold, tunnelHold]
    · intro i hi hq
      refine hno (.inr (.inr ?_))
      rw [getSession, List.find?_isSome]
      exact ⟨i, hi, decide_eq_true hq⟩

theorem Sound.childless (h : Sound L d) (hfree : (d.conn t).allocated = false) :
    (d.conn t).sessions ++ L.det t = [] ∧ ∀ s, (d.sess s).childOf t = false := by
  have hchild : ∀ s, (d.sess s).parenConn = t → (d.sess s).allocated = false := by
    rintro s rfl
    cases hs : (d.sess s).allocated
    · rfl
    · cases hfree.symm.trans (h.parent s hs)
  refine ⟨List.eq_nil_iff_forall_not_mem.2 fun s hq => ?_, fun s => ?_⟩
  · grind [h.tree, h.unusedSess]
  grind [Sess.childOf, Sess.live]

theorem tunnelAlloc_sound (lnsMode : Bool) (h : Sound L d) : Sound L (tunnelAlloc lnsMode d) := by
  have hfree : (d.conn d.nconns).allocated = false := h.freshConn _ (Nat.le_refl _)
  obtain ⟨hnil, hchild⟩ := h.childless hfree
  obtain ⟨hsess, hdet⟩ := List.append_eq_nil_iff.1 hnil
  have hloan : L.conn d.nconns = 0 := by
    by_contra hq
    cases hfree.symm.trans (h.heldConn _ hq)
  have hself : (tunnelAlloc lnsMode d).conn d.nconns =
      { allocated := true, state := .init, lnsMode := lnsMode, refCount := 1 } := by
    simp [tunnelAlloc, tunnelHold]
  have hch : Change d.nconns 0 d (tunnelAlloc lnsMode d) := by
    refine ⟨fun t ht => ?_, fun _ _ => rfl⟩
    simp [tunnelAlloc, tunnelHold, Daemon.modConn, ht]
  have hcounted : Counted (tunnelAlloc lnsMode d) := by
    refine h.toCounted.change hch (fun b => ?_) fun b => (Int.add_sub_cancel _ _).symm
    rw [hself, Conn.ind_counted rfl b]
    refine (Stats.get_incStarting d.statConn b).trans ?_
    simp [Conn.counted, Conn.live, hfree, ind, stageOfConn]
  have hheld : Held L (tunnelAlloc lnsMode d) := by
    refine h.toHeld.change hch (fun hf => by cases hfree.symm.trans hf) (fun _ _ => rfl) ?_
      (h.sess 0) ?_ (fun hl => absurd hloan hl) (h.heldSess 0) (fun _ _ => rfl) (fun _ _ => rfl)
    · intro _
      refine ⟨0, ?_, ?_⟩
      · simp only [hchild]
        exact counts_none
      · rw [hself, hloan, show (tunnelAlloc lnsMode d).sess = d.sess from rfl, Int.add_sub_cancel]
        exact ⟨rfl, rfl⟩
    · intro hs
      have hp := h.parent 0 hs
      have hne : (d.sess 0).parenConn ≠ d.nconns := by grind
      exact (congrArg Conn.allocated (hch.conn _ hne)).trans hp
  have htrees : Trees L (tunnelAlloc lnsMode d) := by
    refine h.toTrees.change hch ?_ ?_ (.inl hdet) ?_ rfl Iff.rfl rfl (fun _ _ => rfl)
    · rw [hself, hsess]
    · rw [hself, hsess]
      exact List.Subset.refl _
    · rw [hself, h.count, hnil]
      rfl
  have hplaced : Placed (tunnelAlloc lnsMode d) := by
    refine h.toPlaced.change hch ?_ (fun t _ => h.window t 0) (h.quiet 0) ?_ ?_ (h.unusedSess 0)
      (Nat.le_succ _) (Nat.le_refl _) (fun hle => absurd hle (Nat.not_succ_le_self _))
      (h.freshSess 0)
    all_goals rw [hself]
    · exact fun _ hq => by cases hq
    · exact fun _ hq => by cases hq
    · exact fun hq => by cases hq
  exact ⟨hcounted, hheld, htrees, hplaced⟩

end Creation

end L2tp.Life
