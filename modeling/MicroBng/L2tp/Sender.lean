import Mathlib.Data.List.TakeWhile
import MicroBng.L2tp.Moves

/-!
# The L2TP sender window

`Outstanding t a` says that of the messages sent so far the first `a` are acknowledged: `peer_Nr`
is the number after them, `Ns` the number after the last one sent, and no more than the peer's
window are in between. Between two events the retransmission queue is `sent.drop a`; while
datagrams are read, `peer_Nr` may be ahead of it, until `l2tp_tunnel_clean_rtmsqueue` catches up.

Three inputs break it, since `nsnr_cmp` takes the number 32768 ahead for a later one: such an
acknowledgement number when nothing is outstanding, 32768 messages acknowledged by one read, and an
SCCRP that announces a window smaller than the number of messages in flight.

* `sender_window`: runs without them (`SenderOk`) keep it
-/

namespace L2tp

open StateProg Relation Serial

variable {base : UInt16} {t : Tx} {a b : Nat} {L : Lax} {cf : Conf}

/-- The first `a` messages sent are acknowledged and the others fit in the peer's window. -/
structure Outstanding (base : UInt16) (t : Tx) (a : Nat) : Prop where
  le : a ≤ t.sent.length
  peerNr : t.peerNr = num base a
  ns : t.ns = num base t.sent.length
  numbered : ∀ i p, t.sent[i]? = some p → p.ns = num base i
  window : validWindow t.peerRcvWndSz

/-- The queue holds what was sent after the first `b` messages, within the peer's window. -/
structure Kept (t : Tx) (b : Nat) : Prop where
  queue : t.rtmsQueue = t.sent.drop b
  fits : t.sent.length ≤ b + t.peerRcvWndSz.toNat

theorem Outstanding.distance (h : Outstanding base t a) (hk : Kept t b) (hb : b ≤ a) :
    (t.ns - t.peerNr).toNat = t.sent.length - a := by
  grind [h.le, h.window.toNat_le, hk.fits, h.ns, h.peerNr, sub_of_le]

theorem Kept.length (hk : Kept t b) : t.rtmsQueue.length = t.sent.length - b := by
  rw [hk.queue, List.length_drop]

/-! ## Sending -/

theorem Outstanding.room (h : Outstanding base t a) (hk : Kept t a)
    (hcmp : nsnrCmp t.ns (t.peerNr + t.peerRcvWndSz) < 0) :
    t.sent.length < a + t.peerRcvWndSz.toNat := by
  have hfits := hk.fits
  by_contra hfull
  have hlen : t.sent.length = a + t.peerRcvWndSz.toNat := by omega
  have hmax : t.peerNr + t.peerRcvWndSz = num base t.sent.length := by
    rw [hlen, ← num_add, h.peerNr, UInt16.ofNat_toNat]
  simp_all [nsnrCmp_neg, h.ns]

theorem Outstanding.transmitted (h : Outstanding base t a) (o : Out) (rest : List Out) :
    Outstanding base (t.transmitted o rest) a := by
  have hlen : (t.sent ++ [{ o.pack with ns := t.ns }]).length = t.sent.length + 1 := by simp
  refine ⟨?_, h.peerNr, ?_, ?_, h.window⟩
  · show a ≤ (t.sent ++ [{ o.pack with ns := t.ns }]).length
    have := h.le
    omega
  · show t.ns + 1 = num base (t.sent ++ [{ o.pack with ns := t.ns }]).length
    rw [hlen, h.ns, num_succ]
  · intro i p hp
    have hp' : (t.sent ++ [{ o.pack with ns := t.ns }])[i]? = some p := hp
    grind [h.numbered, h.ns]

theorem Kept.transmitted (hk : Kept t b) (hb : b ≤ t.sent.length)
    (hroom : t.sent.length < b + t.peerRcvWndSz.toNat) (o : Out) (rest : List Out) :
    Kept (t.transmitted o rest) b := by
  refine ⟨?_, ?_⟩
  · show t.rtmsQueue ++ [{ o.pack with ns := t.ns }] = (t.sent ++ [{ o.pack with ns := t.ns }]).drop b
    rw [hk.queue, List.drop_append_of_le_length hb]
  · show (t.sent ++ [{ o.pack with ns := t.ns }]).length ≤ b + t.peerRcvWndSz.toNat
    rw [List.length_append, List.length_singleton]
    omega

/-! ## Acknowledgements -/

/-- The acknowledgement number is 32768 ahead of `Ns` while nothing is outstanding. -/
def BogusAck (t : Tx) (nr : UInt16) : Prop := t.peerNr = t.ns ∧ nr = t.ns + 32768

theorem eq_add_half {x y : UInt16} (h : (x - y).toNat = 32768) : y = x + 32768 := by
  have hx : y + UInt16.ofNat 32768 = x := h ▸ add_toNat_sub x y
  grind

variable {nr : UInt16} {c d : Conn}

theorem Outstanding.ack_le (h : Outstanding base t a) (hk : Kept t b) (hb : b ≤ a)
    (hsent : ¬ nsnrCmp t.ns nr < 0) (hok : ¬ BogusAck t nr) (hnew : 0 < nsnrCmp nr t.peerNr) :
    (nr - t.peerNr).toNat ≤ (t.ns - t.peerNr).toNat := by
  have hvia := sub_via t.ns nr t.peerNr
  have hdist := h.distance hk hb
  rw [nsnrCmp_neg] at hsent
  rw [nsnrCmp_pos] at hnew
  by_contra hgt
  have hhalf : (t.ns - nr).toNat = 32768 ∧ (t.ns - t.peerNr).toNat = 0 := by omega
  refine hok ⟨?_, eq_add_half hhalf.1⟩
  rw [h.ns, h.peerNr, show a = t.sent.length by have := h.le; omega]

theorem Outstanding.ack (h : Outstanding base t a) (hk : Kept t b) (hb : b ≤ a)
    (hsent : ¬ nsnrCmp t.ns nr < 0) (hok : ¬ BogusAck t nr) :
    ∃ a', a ≤ a' ∧ Outstanding base (t.ack nr) a' := by
  unfold Tx.ack
  split
  · rename_i hnew
    have hle := h.ack_le hk hb hsent hok hnew
    rw [h.distance hk hb] at hle
    refine ⟨a + (nr - t.peerNr).toNat, Nat.le_add_right _ _, ?_, ?_, h.ns, h.numbered, h.window⟩
    · grind [h.le]
    · rw [← num_add, ← h.peerNr, add_toNat_sub]
  · exact ⟨a, Nat.le_refl a, h⟩

theorem Kept.ack (hk : Kept t b) (nr : UInt16) : Kept (t.ack nr) b := by
  unfold Tx.ack
  split
  · exact ⟨hk.queue, hk.fits⟩
  · exact hk

theorem Outstanding.ack_unsent (h : Outstanding base t a) (hk : Kept t b) (hb : b ≤ a)
    (hsent : ¬ nsnrCmp t.ns nr < 0) (hok : ¬ BogusAck t nr)
    (hunsent : (t.ns - t.peerNr).toNat < (nr - t.peerNr).toNat) : (t.ack nr).peerNr = t.peerNr := by
  unfold Tx.ack
  split
  · rename_i hnew
    have := h.ack_le hk hb hsent hok hnew
    omega
  · rfl

/-- The first message kept is exactly 32768 numbers before `peer_Nr`. -/
def HalfBehind (t : Tx) : Prop := ∃ p ∈ t.rtmsQueue.head?, t.peerNr - p.ns = 32768

theorem Outstanding.dropWhile (h : Outstanding base t a) (hN : t.sent.length < a + 65536) (k : Nat) :
    ∀ b, a = b + k → k < 32768 → cleaned t.peerNr (t.sent.drop b) = t.sent.drop a := by
  induction k with
  | zero =>
    grind [cleaned, List.dropWhile_eq_self_iff, h.numbered, h.peerNr, nsnrCmp_neg, sub_of_le]
  | succ k ih =>
    rintro b rfl hk
    have hle := h.le
    have hlt : b < t.sent.length := by omega
    have hns := h.numbered b _ (List.getElem?_eq_getElem hlt)
    grind [h.peerNr, nsnrCmp_neg, sub_of_lt, List.drop_eq_getElem_cons, cleaned,
      List.dropWhile_cons_of_pos]

theorem Outstanding.clean (h : Outstanding base t a) (hk : Kept t b) (hb : b ≤ a)
    (hok : ¬ HalfBehind t) :
    Kept { t with rtmsQueue := cleaned t.peerNr t.rtmsQueue } a := by
  have hle := h.le
  have hw := h.window.toNat_le
  have hfits := hk.fits
  have hlt : a - b < 32768 := by
    by_contra hge
    have hsent : b < t.sent.length := by omega
    have hns := h.numbered b _ (List.getElem?_eq_getElem hsent)
    refine hok ⟨t.sent[b], ?_, ?_⟩
    · simp [hk.queue]
    · apply UInt16.toNat_inj.1
      rw [hns, h.peerNr, sub_of_le base hb (by omega)]
      show a - b = 32768
      omega
  refine ⟨?_, ?_⟩
  · grind [hk.queue, h.dropWhile]
  grind

/-! ## Moves and steps -/

/-- The sender between two events: the queue is what is unacknowledged. -/
def Synced (base : UInt16) (t : Tx) : Prop := ∃ a, Outstanding base t a ∧ Kept t a

/-- The sender while datagrams are read: `peer_Nr` may be ahead. -/
def Acking (base : UInt16) (t : Tx) : Prop := ∃ a b, b ≤ a ∧ Outstanding base t a ∧ Kept t b

theorem Synced.acking (h : Synced base t) : Acking base t :=
  let ⟨a, ha, hk⟩ := h
  ⟨a, a, Nat.le_refl a, ha, hk⟩

def SenderFine (base : UInt16) (c : Conn) : Prop := c.ctl.state = .close ∨ Synced base c.tx

theorem Move.closed (h : Move L c d) (hc : c.ctl.state = .close) : d.ctl.state = .close := by
  cases h with
  | wait _ _ hlive _ | closing _ _ hlive => exact absurd hc hlive
  | established hwait _ =>
    rw [hc] at hwait
    cases hwait
  | free => rfl
  | _ => exact hc

/-- **Every move keeps the sender in order**, as long as the window is not set below the number of
messages in flight. -/
theorem senderFine_move (hL : ¬ L.shrink) (c d : Conn) (hc : SenderFine base c) (h : Move L c d) :
    SenderFine base d := by
  rcases hc with hc | ⟨a, ha, hk⟩
  · exact .inl (h.closed hc)
  · cases h with
    | free => exact .inl rfl
    | send o rest hwindow =>
      exact .inr ⟨a, ha.transmitted o rest, hk.transmitted ha.le (ha.room hk hwindow) o rest⟩
    | window w hvalid hfit =>
      refine .inr ⟨a, { ha with window := hvalid }, hk.queue, ?_⟩
      grind [hk.length]
    | queue | remove => exact .inr ⟨a, { ha with }, { hk with }⟩
    | _ => exact .inr ⟨a, ha, hk⟩

theorem senderFine_path (hL : ¬ L.shrink) (h : ReflTransGen (Move L) c d)
    (hc : SenderFine base c) : SenderFine base d :=
  path_keeps (senderFine_move hL) h hc

/-- The condition on a step under which the sender stays in order. -/
def SenderOk (s : State) : Ev → Prop
  | .recv (.pack p) => ¬ BogusAck s.conn.tx p.nr
  | .recv .done => ¬ HalfBehind s.conn.tx
  | .pass => ∀ p ∈ s.next, FitsOk s.conn p
  | _ => True

instance (s : State) (e : Ev) : Decidable (SenderOk s e) := by
  unfold SenderOk BogusAck HalfBehind FitsOk WindowFits
  split <;> infer_instance

structure TxInv (base : UInt16) (s : State) : Prop where
  live : ReadingLive s
  fine : (∀ needAck, s.phase ≠ .reading needAck) → SenderFine base s.conn
  acking : ∀ needAck, s.phase = .reading needAck → Acking base s.conn.tx

theorem storeMsg_tx (c : Conn) (p : Packet) (needAck : Bool) :
    (storeMsg c p needAck).conn.tx = c.tx ∨
    ¬ nsnrCmp c.tx.ns p.nr < 0 ∧ (storeMsg c p needAck).conn.tx = c.tx.ack p.nr := by
  grind [storeMsg]

theorem Left.senderFine (hL : ¬ L.shrink) {n : Nat} {s : State} (hs : Left L c n s)
    (hc : SenderFine base c) : SenderFine base s.conn ∧ s.phase = .idle := by
  obtain ⟨hmoves⟩ := hs
  exact ⟨senderFine_path hL hmoves hc, rfl⟩

theorem txInv_step (s : State) (e : Ev) (s' : State) (h : TxInv base s) (hok : SenderOk s e)
    (hstep : step cf s e = some s') : TxInv base s' := by
  have hstepOk : StepOk ⟨True, False⟩ s := by
    intro p hp
    refine ⟨.inr trivial, .inl ?_⟩
    obtain rfl := pass_of_next hp hstep
    exact hok p hp
  have hL : ¬ (⟨True, False⟩ : Lax).shrink := id
  have hs : Step cf ⟨True, False⟩ s e s' := step_sound h.live hstepOk hstep
  refine ⟨hs.readingLive h.live, fun hph => ?_, fun needAck hph => ?_⟩
  · cases hs with
    | handler _ hmoves => exact senderFine_path hL hmoves (h.fine nofun)
    | abort _ hclosed => exact .inl hclosed
    | readable | discard | store => exact absurd rfl (hph _)
    | clean m =>
      obtain ⟨a, b, hb, ha, hk⟩ := h.acking _ rfl
      exact .inr ⟨a, { ha with }, ha.clean hk hb hok⟩
    | take _ _ hmoves => exact senderFine_path hL hmoves (h.fine nofun)
    | takeLast _ _ hmoves _ hleft =>
      exact (hleft.senderFine hL (senderFine_path hL hmoves (h.fine nofun))).1
    | leave _ hleft => exact (hleft.senderFine hL (h.fine nofun)).1
  · cases hs with
    | handler | abort | clean | take => cases hph
    | readable c hlive => exact ((h.fine nofun).resolve_left hlive).acking
    | discard m => exact h.acking _ rfl
    | @store c na p m =>
      obtain ⟨a, b, hb, ha, hk⟩ := h.acking _ rfl
      rcases storeMsg_tx { c with misc := m } p na with htx | ⟨hsent, htx⟩
      · rw [htx]
        exact ⟨a, b, hb, ha, hk⟩
      · obtain ⟨a', ha', hout⟩ := ha.ack hk hb hsent hok
        rw [htx]
        exact ⟨a', b, Nat.le_trans hb ha', hout, hk.ack _⟩
    | takeLast _ _ _ _ hleft | leave _ hleft => cases hleft; cases hph

/-! ## Main result -/

structure Tx.Fresh (t : Tx) (base : UInt16) : Prop where
  ns : t.ns = base
  peerNr : t.peerNr = base
  window : validWindow t.peerRcvWndSz
  rtmsQueue : t.rtmsQueue = []
  sent : t.sent = []

theorem Created.tx_fresh (h : Created cf c) : c.tx.Fresh 0 := by
  cases h with
  | cli a lns secret =>
    exact ⟨rfl, rfl, (by decide : validWindow DEFAULT_PEER_RECV_WINDOW_SIZE), rfl, rfl⟩
  | peer h =>
    obtain ⟨_, _, _, _, hwindow, -, rfl⟩ := recvSCCRQ_some h
    exact ⟨rfl, rfl, hwindow, rfl, rfl⟩

theorem Tx.Fresh.synced (h : t.Fresh base) : Synced base t := by
  refine ⟨0, ⟨Nat.zero_le _, ?_, ?_, ?_, h.window⟩, ?_, ?_⟩
  · rw [h.peerNr, num_zero]
  · rw [h.ns, h.sent, List.length_nil, num_zero]
  · intro i p hp
    rw [h.sent] at hp
    cases hp
  · rw [h.rtmsQueue, h.sent, List.drop_nil]
  · rw [h.sent, List.length_nil]
    omega

theorem Move.peerNr_eq (h : Move L c d) : d.tx.peerNr = c.tx.peerNr := by
  cases h <;> rfl

theorem peerNr_of_moves (h : ReflTransGen (Move L) c d) : d.tx.peerNr = c.tx.peerNr := by
  induction h with
  | refl => rfl
  | tail _ hmove ih => rw [hmove.peerNr_eq, ih]

theorem TxInv.ack_unsent {s s' : State} {p : Packet} (h : TxInv base s)
    (hstep : step cf s (.recv (.pack p)) = some s') (hok : ¬ BogusAck s.conn.tx p.nr)
    (hunsent : (s.conn.tx.ns - s.conn.tx.peerNr).toNat < (p.nr - s.conn.tx.peerNr).toNat) :
    s'.conn.tx.peerNr = s.conn.tx.peerNr := by
  have hs : Step cf ⟨True, True⟩ s (.recv (.pack p)) s' :=
    step_sound h.live (fun _ _ => ⟨.inr trivial, .inr trivial⟩) hstep
  cases hs with
  | handler _ hmoves | abort hmoves _ => exact peerNr_of_moves hmoves
  | discard m => rfl
  | @store c na _ m =>
    obtain ⟨a, b, hb, ha, hk⟩ := h.acking _ rfl
    grind [storeMsg_tx, ha.ack_unsent]

/-- **The sender window**: in every run whose steps meet `SenderOk`, the retransmission queue of a
tunnel that is not deleted is numbered from `peer_Nr` to `Ns - 1` and fits the window, and no
acknowledgement of messages never sent changes `peer_Nr`. -/
theorem sender_window (cf : Conf) (base : UInt16) (c : Conn) (hfresh : c.tx.Fresh base)
    (es : List Ev) (s : State) (hguard : Machine.Guarded (step cf) SenderOk ⟨c, .idle⟩ es)
    (hrun : Machine.run (step cf) ⟨c, .idle⟩ es = some s) :
    (s.phase = .idle → s.conn.ctl.state ≠ .close →
      ∃ a ≤ s.conn.tx.sent.length,
        s.conn.tx.rtmsQueue = s.conn.tx.sent.drop a ∧
        s.conn.tx.peerNr = base + UInt16.ofNat a ∧
        s.conn.tx.ns = base + UInt16.ofNat s.conn.tx.sent.length ∧
        (∀ i p, s.conn.tx.rtmsQueue[i]? = some p → p.ns = s.conn.tx.peerNr + UInt16.ofNat i) ∧
        (s.conn.tx.ns - s.conn.tx.peerNr).toNat = s.conn.tx.rtmsQueue.length ∧
        s.conn.tx.rtmsQueue.length ≤ s.conn.tx.peerRcvWndSz.toNat) ∧
    (∀ p s', step cf s (.recv (.pack p)) = some s' → SenderOk s (.recv (.pack p)) →
      (s.conn.tx.ns - s.conn.tx.peerNr).toNat < (p.nr - s.conn.tx.peerNr).toNat →
      s'.conn.tx.peerNr = s.conn.tx.peerNr) := by
  have hinit : TxInv base ⟨c, .idle⟩ :=
    ⟨fun _ h => (nomatch h), fun _ => .inr hfresh.synced, fun _ h => (nomatch h)⟩
  have hinv : TxInv base s := Machine.Guarded.invariant txInv_step hguard hinit hrun
  refine ⟨fun hidle hlive => ?_, fun p s' hstep hok hunsent => hinv.ack_unsent hstep hok hunsent⟩
  obtain ⟨a, ha, hk⟩ := (hinv.fine (by rw [hidle]; exact nofun)).resolve_left hlive
  have hfits := hk.fits
  refine ⟨a, ha.le, hk.queue, ha.peerNr, ha.ns, fun i p hp => ?_, ?_, ?_⟩
  · rw [hk.queue, List.getElem?_drop] at hp
    rw [ha.numbered _ p hp, ha.peerNr, num_add]
  · rw [ha.distance hk (Nat.le_refl a), hk.length]
  · rw [hk.length]
    omega

def sccrqAcked : List Ev :=
  [.start, .readable, .recv (.pack { tid := 7, nr := 1, attrs := [] }), .recv .done, .pass]

theorem sender_window_sccrq_acked :
    ∃ s, Machine.run (step sampleConf) ⟨sampleTunnel, .idle⟩ sccrqAcked = some s ∧
      s.conn.tx.sent.length = 1 ∧
      (s.conn.tx.ns - s.conn.tx.peerNr).toNat = s.conn.tx.rtmsQueue.length := by
  obtain ⟨s, hs, hph, hst, hlen⟩ :
      ∃ s, Machine.run (step sampleConf) ⟨sampleTunnel, .idle⟩ sccrqAcked = some s ∧
        s.phase = .idle ∧ s.conn.ctl.state = .waitSccrp ∧ s.conn.tx.sent.length = 1 := by
    decide +kernel
  obtain ⟨a, -, -, -, -, -, hdist, -⟩ := (sender_window sampleConf 0 sampleTunnel
    (Created.cli sampleAlloc true [115]).tx_fresh sccrqAcked s (by decide +kernel) hs).1 hph
    (by rw [hst]; decide)
  exact ⟨s, hs, hlen, hdist⟩

/-- An acknowledgement of 32768 messages on a tunnel that has sent none is accepted. -/
theorem bogus_ack_accepted :
    ∃ s, Machine.run (step sampleConf) ⟨sampleTunnel, .idle⟩
        [.readable, .recv (.pack { tid := 7, nr := 32768, attrs := [] }), .recv .done, .pass]
        = some s ∧
      s.phase = .idle ∧ s.conn.ctl.state ≠ .close ∧ s.conn.tx.sent = [] ∧
      sampleTunnel.tx.peerNr = 0 ∧ s.conn.tx.peerNr = 32768 ∧
      (s.conn.tx.ns - s.conn.tx.peerNr).toNat ≠ s.conn.tx.rtmsQueue.length :=
  ⟨_, rfl, rfl, by decide, rfl, rfl, rfl, by decide⟩

end L2tp
