import MicroBng.L2tp.Receive

/-!
# What a push of the send queue transmits

`l2tp_tunnel_push_sendqueue` compares `Ns` with `peer_Nr` plus the window of the peer, before each
message, through `nsnr_cmp`.

* `push_transmits_iff`: it sends what there is room for exactly if the window is not 32768
-/

namespace L2tp

open StateProg Serial

/-! ## The room in the window -/

theorem validWindow.toNat_le {w : UInt16} (h : validWindow w) : 0 < w.toNat ∧ w.toNat ≤ 32768 := by
  have h1 : w.toNat ≠ 0 := fun h0 => h.1 (UInt16.toNat_inj.1 h0)
  have h2 : w.toNat ≤ 32768 := UInt16.le_iff_toNat_le.1 h.2
  omega

/-- How many messages `nsnr_cmp` lets through before `Ns` is at the limit. -/
def room (ns nrMax : UInt16) : Nat :=
  if (nrMax - ns).toNat < 32768 then (nrMax - ns).toNat else 0

theorem nsnrCmp_nonneg_iff (ns nrMax : UInt16) : 0 ≤ nsnrCmp ns nrMax ↔ room ns nrMax = 0 := by
  have hneg : nsnrCmp ns nrMax < 0 ↔ _ := nsnrCmp_neg
  have hns := ns.toNat_lt
  have hmax := nrMax.toNat_lt
  simp only [UInt16.toNat_sub] at hneg
  unfold room
  rw [UInt16.toNat_sub]
  split <;> omega

theorem room_succ {ns nrMax : UInt16} (h : room ns nrMax ≠ 0) :
    room (ns + 1) nrMax = room ns nrMax - 1 := by
  have hns := ns.toNat_lt
  unfold room at h ⊢
  simp only [UInt16.toNat_sub, UInt16.toNat_add, UInt16.toNat_one] at h ⊢
  split at h
  · rw [if_pos (by omega), if_pos (by omega)]
    omega
  · exact absurd rfl h

theorem room_acked {w : UInt16} (hw : validWindow w) (ns : UInt16) :
    room ns (ns + w) = if w = 32768 then 0 else w.toNat := by
  have hle := hw.toNat_le
  have hns := ns.toNat_lt
  have heq : w = 32768 ↔ w.toNat = 32768 := by
    rw [← UInt16.toNat_inj]
    rfl
  grind [room, UInt16.toNat_sub, UInt16.toNat_add]

/-! ## A push -/

def numbered (ns : UInt16) : List Out → List Packet
  | [] => []
  | o :: rest => { o.pack with ns := ns } :: numbered (ns + 1) rest

@[simp] theorem length_numbered (ns : UInt16) (q : List Out) : (numbered ns q).length = q.length := by
  induction q generalizing ns with
  | nil => rfl
  | cons o rest ih => rw [numbered, List.length_cons, ih, List.length_cons]

/-- The tunnel after `j` more messages were sent. -/
def Conn.pushed (c : Conn) (j : Nat) : Conn :=
  { c with
    tx := { c.tx with
      sendQueue := c.tx.sendQueue.drop j
      rtmsQueue := c.tx.rtmsQueue ++ numbered c.tx.ns (c.tx.sendQueue.take j)
      sent := c.tx.sent ++ numbered c.tx.ns (c.tx.sendQueue.take j)
      ns := num c.tx.ns j }
    misc := { c.misc with tick := c.misc.tick + j } }

def Conn.asked (c : Conn) : Conn := { c with misc := { c.misc with tick := c.misc.tick + 1 } }

/-- The `i`-th fallible call from now on succeeds. -/
def Conn.Grants (c : Conn) (i : Nat) : Prop := c.misc.env (c.misc.tick + i) ≠ 0
deriving Decidable

def Conn.load (c : Conn) : Nat :=
  min (room c.tx.ns (c.tx.peerNr + c.tx.peerRcvWndSz)) c.tx.sendQueue.length

theorem ask_eq (c : Conn) : ask c = (decide (c.Grants 0), c.asked) := by
  refine Prod.ext ?_ rfl
  show (c.misc.env c.misc.tick != 0) = decide (c.misc.env c.misc.tick ≠ 0)
  cases h : c.misc.env c.misc.tick <;> rfl

theorem Conn.pushed_zero (c : Conn) : c.pushed 0 = c := by
  simp [Conn.pushed, numbered]

theorem Conn.pushed_succ {c : Conn} {o : Out} {rest : List Out} (hq : c.tx.sendQueue = o :: rest)
    (j : Nat) :
    Conn.pushed { c.asked with tx := c.tx.transmitted o rest } j = c.pushed (j + 1) := by
  have hnum : num (c.tx.ns + 1) j = num c.tx.ns (j + 1) := by grind [num, UInt16.ofNat_add]
  grind [Conn.pushed, Conn.asked, Tx.transmitted, numbered]

theorem pushLoop_cases {nrMax : UInt16} {q : List Out} {c : Conn} (pktSent : Nat)
    (hq : c.tx.sendQueue = q) {n : Nat} (hn : n = min (room c.tx.ns nrMax) q.length) :
    (∀ i < n, c.Grants i) ∧ pushLoop nrMax q pktSent c = (some (pktSent + n), c.pushed n) ∨
      ∃ j < n, (∀ i < j, c.Grants i) ∧ ¬ c.Grants j ∧
        pushLoop nrMax q pktSent c = (none, (c.pushed j).asked) := by
  induction q generalizing c n pktSent with
  | nil =>
    obtain rfl : n = 0 := by rw [hn, List.length_nil, Nat.min_zero]
    left
    refine ⟨fun i hi => absurd hi (Nat.not_lt_zero i), ?_⟩
    rw [c.pushed_zero]
    rfl
  | cons o rest ih =>
    by_cases hroom : room c.tx.ns nrMax = 0
    · obtain rfl : n = 0 := by rw [hn, hroom, Nat.zero_min]
      left
      refine ⟨fun i hi => absurd hi (Nat.not_lt_zero i), ?_⟩
      rw [pushLoop, get_bind_apply, if_pos ((nsnrCmp_nonneg_iff _ _).2 hroom), c.pushed_zero]
      rfl
    have hstep : pushLoop nrMax (o :: rest) pktSent c =
        if c.Grants 0 then
          pushLoop nrMax rest (pktSent + 1) { c.asked with tx := c.tx.transmitted o rest }
        else (none, (c.pushed 0).asked) := by
      rw [pushLoop, get_bind_apply, if_neg fun h => hroom ((nsnrCmp_nonneg_iff _ _).1 h),
        bind_apply, ask_eq, c.pushed_zero]
      by_cases h0 : c.Grants 0
      · simp only [h0]
        rfl
      · simp only [h0]
        rfl
    by_cases h0 : c.Grants 0
    · -- the message is sent, and the loop goes on with one message and one place less
      have hlen : (o :: rest).length = rest.length + 1 := rfl
      obtain ⟨m, rfl⟩ : ∃ m, n = m + 1 := ⟨n - 1, by omega⟩
      have hshift : ∀ i, Conn.Grants { c.asked with tx := c.tx.transmitted o rest } i ↔
          c.Grants (i + 1) := by
        intro i
        show c.misc.env (c.misc.tick + 1 + i) ≠ 0 ↔ c.misc.env (c.misc.tick + (i + 1)) ≠ 0
        rw [Nat.add_assoc, Nat.add_comm 1 i]
      have hm : m = min (room (c.tx.ns + 1) nrMax) rest.length := by
        rw [room_succ hroom]
        omega
      rw [if_pos h0] at hstep
      rw [hstep]
      rcases ih (c := { c.asked with tx := c.tx.transmitted o rest }) (pktSent + 1) rfl hm with
        ⟨hok, hrun⟩ | ⟨j, hj, hok, hfail, hrun⟩
      · left
        refine ⟨?_, ?_⟩
        · intro i hi
          cases i with
          | zero => exact h0
          | succ i => exact (hshift i).1 (hok i (by omega))
        · rw [hrun, Conn.pushed_succ hq, Nat.add_assoc, Nat.add_comm 1 m]
      · right
        refine ⟨j + 1, by omega, ?_, fun h => hfail ((hshift j).2 h), ?_⟩
        · intro i hi
          cases i with
          | zero => exact h0
          | succ i => exact (hshift i).1 (hok i (by omega))
        · rw [hrun, Conn.pushed_succ hq]
    grind

inductive Pushed (c : Conn) : Int → Conn → Prop
  /-- nothing to send, or no room -/
  | nothing (h : c.load = 0) : Pushed c 0 c
  /-- sending a message failed after `j` others -/
  | failed (j : Nat) (hj : j < c.load) (hok : ∀ i < j, c.Grants i) (hfail : ¬ c.Grants j) :
      Pushed c (-1) (c.pushed j).asked
  /-- all were sent while the timer is running -/
  | sent (hpos : 0 < c.load) (hok : ∀ i < c.load, c.Grants i) (ht : c.misc.rtimeoutTimer = true) :
      Pushed c 1 (c.pushed c.load)
  /-- all were sent and the timer is set -/
  | armed (hpos : 0 < c.load) (hok : ∀ i < c.load, c.Grants i) (ht : c.misc.rtimeoutTimer = false)
      (htimer : c.Grants c.load) :
      Pushed c 1 { (c.pushed c.load).asked with
        misc := { (c.pushed c.load).asked.misc with rtimeoutTimer := true } }
  /-- all were sent and the timer could not be set -/
  | unarmed (hpos : 0 < c.load) (hok : ∀ i < c.load, c.Grants i) (ht : c.misc.rtimeoutTimer = false)
      (htimer : ¬ c.Grants c.load) : Pushed c (-1) (c.pushed c.load).asked

theorem pushSendqueue_cases (c : Conn) : Pushed c (pushSendqueue c).1 (pushSendqueue c).2 := by
  have hload : c.load = min (room c.tx.ns (c.tx.peerNr + c.tx.peerRcvWndSz))
    c.tx.sendQueue.length := rfl
  rw [pushSendqueue, get_bind_apply, bind_apply]
  rcases pushLoop_cases 0 rfl hload with ⟨hok, hloop⟩ | ⟨j, hj, hok, hfail, hloop⟩
  · rw [hloop]
    cases hn : c.load with
    | zero =>
      rw [c.pushed_zero]
      exact .nothing hn
    | succ k =>
      have hpos : 0 < c.load := by omega
      simp only
      rw [← hn, get_bind_apply]
      by_cases ht : c.misc.rtimeoutTimer = true
      · rw [if_pos (show (c.pushed c.load).misc.rtimeoutTimer = true from ht)]
        exact .sent hpos hok ht
      · have ht' : c.misc.rtimeoutTimer = false := by simpa using ht
        rw [if_neg (show ¬ (c.pushed c.load).misc.rtimeoutTimer = true from ht), bind_apply, ask_eq]
        by_cases hg : c.Grants c.load
        · have hg' : (c.pushed c.load).Grants 0 := hg
          simp only [hg']
          exact .armed hpos hok ht' hg
        · have hg' : ¬ (c.pushed c.load).Grants 0 := hg
          simp only [hg']
          exact .unarmed hpos hok ht' hg
  · rw [hloop]
    exact .failed j hj hok hfail

/-! ## Progress -/

theorem pushSendqueue_sent {c : Conn} (hok : ∀ i < c.tx.sendQueue.length, c.Grants i) :
    (pushSendqueue c).2.tx.sent = c.tx.sent ++ numbered c.tx.ns (c.tx.sendQueue.take c.load) := by
  have hle : c.load ≤ c.tx.sendQueue.length := Nat.min_le_right _ _
  have h := pushSendqueue_cases c
  generalize pushSendqueue c = x at h ⊢
  obtain ⟨r, c'⟩ := x
  cases h with
  | nothing h => simp [h, numbered]
  | failed j hj _ hfail => exact absurd (hok j (by omega)) hfail
  | sent | armed | unarmed => rfl

/-- **A push with everything acknowledged transmits what window and queue have**, for every accepted
window but 32768. -/
theorem push_transmits_iff {c : Conn} (hw : validWindow c.tx.peerRcvWndSz)
    (hq : c.tx.sendQueue ≠ []) (hacked : c.tx.peerNr = c.tx.ns)
    (hok : ∀ i < c.tx.sendQueue.length, c.Grants i) :
    (pushSendqueue c).2.tx.sent.length =
        c.tx.sent.length + min c.tx.peerRcvWndSz.toNat c.tx.sendQueue.length ↔
      c.tx.peerRcvWndSz ≠ 32768 := by
  have hle := hw.toNat_le
  have hload : c.load = min (if c.tx.peerRcvWndSz = 32768 then 0 else c.tx.peerRcvWndSz.toNat)
      c.tx.sendQueue.length := by
    rw [Conn.load, hacked, room_acked hw]
  rw [pushSendqueue_sent hok, List.length_append, length_numbered]
  grind

/-- The tunnel of `sampleTunnel` with two messages queued. -/
def queuedTunnel : Conn :=
  { sampleTunnel with tx := { sampleTunnel.tx with
      sendQueue := [⟨sampleMsg .hello 0 0 [], none⟩, ⟨sampleMsg .hello 0 0 [], none⟩] } }

theorem push_transmits_iff_sample :
    queuedTunnel.tx.peerRcvWndSz ≠ 32768 ∧ (pushSendqueue queuedTunnel).2.tx.sent.length = 2 :=
  ⟨by decide, (push_transmits_iff (c := queuedTunnel) (by decide) (by decide) rfl (by decide)).2
    (by decide)⟩

def fullWindowRequest : Packet :=
  sampleMsg .sccrq 0 0 [{ id := .protocolVersion, val := 256 }, { id := .framingCapabilities, val := 3 },
    { id := .assignedTunnelId, val := 5 }, { id := .recvWindowSize, val := 32768 }]

/-- The request is accepted, and the SCCRP stays in the send queue: a push transmits nothing. -/
theorem full_window_stuck :
    ∃ c t, recvSCCRQ sampleConf sampleAlloc fullWindowRequest = some c ∧
      Machine.run (step sampleConf) ⟨c, .idle⟩ [.start] = some t ∧
      t.conn.ctl.state = .waitScccn ∧ validWindow t.conn.tx.peerRcvWndSz ∧
      t.conn.tx.sendQueue.length = 1 ∧ t.conn.tx.peerNr = t.conn.tx.ns ∧ t.conn.Grants 0 ∧
      (pushSendqueue t.conn).2.tx.sent = [] := by
  simp only [exists_and_left]
  decide +kernel

/-! ## The retransmission timer -/

/-- The timer runs exactly while messages await their acknowledgement; a deleted tunnel is empty. -/
structure Timed (c : Conn) : Prop where
  timer : c.misc.rtimeoutTimer = true ↔ c.tx.rtmsQueue ≠ []
  closed : c.ctl.state = .close → c.tx.sendQueue = []

variable {c : Conn} {j : Nat}

theorem Conn.freed_timed (c : Conn) : Timed c.freed := by
  refine ⟨?_, fun _ => rfl⟩
  show false = true ↔ [] ≠ []
  simp

theorem tunnelFree_restores (h : Timed c ∨ c.ctl.state ≠ .close) : Timed (tunnelFree c).2 := by
  unfold tunnelFree
  rw [get_bind_apply]
  split
  · rename_i hs
    exact h.resolve_right fun hne => hne hs
  · exact c.freed_timed

theorem Timed.live_of_load (h : Timed c) (hpos : 0 < c.load) : c.ctl.state ≠ .close := by
  intro hs
  have hle : c.load ≤ c.tx.sendQueue.length := Nat.min_le_right _ _
  rw [h.closed hs, List.length_nil] at hle
  omega

theorem length_pushed_rtmsQueue (hj : j ≤ c.load) :
    (c.pushed j).tx.rtmsQueue.length = c.tx.rtmsQueue.length + j := by
  have hle : c.load ≤ c.tx.sendQueue.length := Nat.min_le_right _ _
  show (c.tx.rtmsQueue ++ numbered c.tx.ns (c.tx.sendQueue.take j)).length = _
  rw [List.length_append, length_numbered, List.length_take]
  omega

theorem pushed_rtmsQueue_ne (hpos : 0 < j) (hj : j ≤ c.load) : (c.pushed j).tx.rtmsQueue ≠ [] := by
  grind [length_pushed_rtmsQueue]

theorem Timed.pushed (h : Timed c) (hpos : 0 < j) (hj : j ≤ c.load)
    (ht : c.misc.rtimeoutTimer = true) : Timed (c.pushed j) :=
  ⟨⟨fun _ => pushed_rtmsQueue_ne hpos hj, fun _ => ht⟩,
    fun hs => absurd hs (h.live_of_load (Nat.lt_of_lt_of_le hpos hj))⟩

theorem Timed.asked (h : Timed c) : Timed c.asked := ⟨h.timer, h.closed⟩

/-- `j` messages are sent, the call after them fails, and the timer is not running. -/
def Conn.Breaks (c : Conn) (j : Nat) : Prop :=
  0 < j ∧ j ≤ c.load ∧ (∀ i < j, c.Grants i) ∧ ¬ c.Grants j ∧ c.misc.rtimeoutTimer = false

theorem pushSendqueue_timed (h : Timed c) :
    Timed (pushSendqueue c).2 ∨
      ∃ j, c.Breaks j ∧ pushSendqueue c = (-1, (c.pushed j).asked) := by
  have hcases := pushSendqueue_cases c
  generalize pushSendqueue c = x at hcases ⊢
  obtain ⟨r, c'⟩ := x
  cases hcases with
  | nothing => exact .inl h
  | failed j hj hok hfail =>
    cases j with
    | zero =>
      left
      rw [Conn.pushed_zero]
      exact h.asked
    | succ j =>
      cases ht : c.misc.rtimeoutTimer with
      | true => exact .inl (h.pushed (Nat.succ_pos j) (Nat.le_of_lt hj) ht).asked
      | false => exact .inr ⟨j + 1, ⟨Nat.succ_pos j, Nat.le_of_lt hj, hok, hfail, ht⟩, rfl⟩
  | sent hpos hok ht => exact .inl (h.pushed hpos (Nat.le_refl _) ht)
  | armed hpos =>
    exact .inl ⟨⟨fun _ => pushed_rtmsQueue_ne hpos (Nat.le_refl _), fun _ => rfl⟩,
      fun hs => absurd hs (h.live_of_load hpos)⟩
  | unarmed hpos hok ht htimer => exact .inr ⟨c.load, ⟨hpos, Nat.le_refl _, hok, htimer, ht⟩, rfl⟩

theorem pushSendqueue_restorable (h : Timed c) :
    Timed (pushSendqueue c).2 ∨ (pushSendqueue c).2.ctl.state ≠ .close := by
  rcases pushSendqueue_timed h with ht | ⟨j, ⟨hpos, hj, -⟩, heq⟩
  · exact .inl ht
  · right
    rw [heq]
    exact h.live_of_load (Nat.lt_of_lt_of_le hpos hj)

theorem pushSendqueue_timed_of_nonneg (h : Timed c) (hr : ¬ (pushSendqueue c).1 < 0) :
    Timed (pushSendqueue c).2 := by
  rcases pushSendqueue_timed h with ht | ⟨j, -, heq⟩
  · exact ht
  · have hneg : (-1 : Int) < 0 := by decide
    rw [heq] at hr
    exact absurd hneg hr

end L2tp
