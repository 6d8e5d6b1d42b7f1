import MicroBng.L2tp.Moves

/-!
# The retransmission timer of an L2TP tunnel

The timer should run exactly while a message waits for its acknowledgement. Where a push of the send
queue fails, `l2tp_session_disconnect_push` and `l2tp_tunnel_create_session` do not delete the
tunnel, as other callers do. What such a push has sent before the failure is never sent again: only
the next push that sends something sets the timer.

* `rtimer_iff`: the timer is right throughout a run exactly if no step `Strands`
-/

namespace L2tp

open StateProg

variable {cf : Conf} {c : Conn} {j : Nat} {sid : UInt16} {e : Ev}

/-- No condition on what the peer sends. -/
def anyMove : Lax := ⟨True, True⟩

theorem keeps_timed {α : Type} {m : TunM α} (h : Acts anyMove m) : Keeps Timed m :=
  fun _ => timed_of_acts h trivial

/-! ## Reading -/

theorem updatePeerport_acts (port : UInt16) : Acts anyMove (updatePeerport port) :=
  .bind .get fun _ => .ite (.pure _) (.bind ask_quiet.moved fun _ => .ite
    (.bind (modMisc_acts fun _ => rfl) fun _ => .pure _) (.pure _))

theorem Timed.storeMsg (h : Timed c) (pack : Packet) (needAck : Bool) :
    Timed (storeMsg c pack needAck).conn := by
  unfold L2tp.storeMsg
  split
  · exact h
  · have hack : Timed { c with tx := c.tx.ack pack.nr } := by
      unfold Tx.ack
      split
      · exact ⟨h.timer, h.closed⟩
      · exact h
    split
    · exact hack
    · exact ⟨hack.timer, hack.closed⟩

theorem readPack_timed (h : Timed c) (p : Packet) (needAck : Bool) :
    Timed (readPack cf c p needAck).conn := by
  have hport := keeps_timed (updatePeerport_acts p.port) c h
  unfold readPack
  generalize updatePeerport p.port c = x at hport ⊢
  obtain ⟨ok, c'⟩ := x
  simp only
  split
  · split
    · exact hport.storeMsg p needAck
    · exact hport
  · exact keeps_timed tunnelFree_acts c' hport

theorem cleanRtmsqueue_timed : Keeps Timed cleanRtmsqueue := by
  intro c h
  have hsub : cleaned c.tx.peerNr c.tx.rtmsQueue ≠ [] → c.tx.rtmsQueue ≠ [] := by
    intro hne hnil
    rw [hnil] at hne
    exact hne rfl
  have hlast : c.tx.rtmsQueue ≠ [] →
      (cleaned c.tx.peerNr c.tx.rtmsQueue).length = c.tx.rtmsQueue.length →
      cleaned c.tx.peerNr c.tx.rtmsQueue ≠ [] := by
    grind
  unfold cleanRtmsqueue
  simp only [bind_apply]
  split
  · rename_i hlen
    exact ⟨⟨fun ht => hlast (h.timer.1 ht) hlen, fun hne => h.timer.2 (hsub hne)⟩, h.closed⟩
  · split
    · rename_i hnil
      exact ⟨⟨fun ht => (nomatch (ht : false = true)),
        fun hne => absurd (List.isEmpty_iff.1 hnil) hne⟩, h.closed⟩
    · rename_i hne
      have hleft : cleaned c.tx.peerNr c.tx.rtmsQueue ≠ [] := fun hnil => hne (List.isEmpty_iff.2 hnil)
      simp only [bind_apply]
      split
      · exact ⟨⟨fun _ => hleft, fun _ => rfl⟩, h.closed⟩
      · exact ⟨⟨fun _ => hleft, fun _ => h.timer.2 (hsub hleft)⟩, h.closed⟩

theorem endReading_timed (h : Timed c) (needAck : Bool) : Timed (endReading c needAck).conn := by
  have hclean := cleanRtmsqueue_timed c h
  unfold endReading
  generalize cleanRtmsqueue c = x at hclean ⊢
  obtain ⟨ok, c'⟩ := x
  simp only
  split
  · exact hclean
  · exact keeps_timed tunnelFree_acts c' hclean

theorem pushOrAck_timed (h : Timed c) (needAck : Bool) :
    Timed (pushOrAck needAck c).2 ∨
      (pushOrAck needAck c).1 < 0 ∧ (pushOrAck needAck c).2.ctl.state ≠ .close := by
  unfold pushOrAck
  rw [bind_apply]
  by_cases hz : (pushSendqueue c).1 = 0 ∧ needAck = true
  · rw [if_pos hz]
    have hsend : Keeps Timed (do if ← sendZLB then return 0 else return -1 : TunM Int) :=
      .bind (keeps_timed ask_quiet.moved) fun _ => .ite (.pure _) (.pure _)
    exact .inl (hsend _ (pushSendqueue_timed_of_nonneg h (by omega)))
  · rw [if_neg hz]
    rcases pushSendqueue_timed h with ht | ⟨j, ⟨hpos, hj, -⟩, heq⟩
    · exact .inl ht
    · rw [heq]
      exact .inr ⟨(by decide : (-1 : Int) < 0), h.live_of_load (Nat.lt_of_lt_of_le hpos hj)⟩

theorem finishRead_timed (needAck : Bool) : Keeps Timed (finishRead needAck) := by
  intro c h
  unfold finishRead
  rw [bind_apply]
  by_cases hr : (pushOrAck needAck c).1 < 0
  · rw [if_pos hr]
    exact tunnelFree_restores ((pushOrAck_timed h needAck).imp_right And.right)
  · rw [if_neg hr]
    have hdone : Keeps Timed (do
        let c ← get
        if c.ctl.state = .fin ∧ c.tx.sendQueue = [] ∧ c.tx.rtmsQueue = [] then tunnelFree
        else return () : TunM Unit) :=
      .bind .get fun _ => .ite (keeps_timed tunnelFree_acts) (.pure _)
    exact hdone _ ((pushOrAck_timed h needAck).resolve_right fun hn => hr hn.1)

theorem endReplying_timed (h : Timed c) (pktCount : Nat) (needAck : Bool) :
    Timed (endReplying c pktCount needAck).conn :=
  finishRead_timed needAck _ ⟨h.timer, h.closed⟩

theorem replyPass_timed (h : Timed c) (id pktCount : Nat) (needAck : Bool) :
    Timed (replyPass cf c id pktCount needAck).conn := by
  unfold replyPass
  split
  · exact endReplying_timed h pktCount needAck
  · rename_i pack hpack
    have hmsg := timed_of_acts (handleMsg_acts (L := anyMove) cf pack)
      (c := { c with rx := c.rx.take id pack }) ⟨.inr trivial, .inr trivial⟩ ⟨h.timer, h.closed⟩
    grind [endReplying_timed]

/-! ## A session is deleted after a push -/

def Ctl.Last (k : Ctl) (sid : UInt16) : Prop := k.sessions ≠ [] ∧ ∀ s ∈ k.sessions, s.sid = sid
deriving Decidable

/-- **A push that leaves sent messages without a timer**: it breaks after `j` messages and a session
is deleted without a StopCCN. -/
def Conn.Strands (c : Conn) (sid : UInt16) : Prop :=
  ∃ j, c.Breaks j ∧ (c.ctl.Last sid ∧ c.ctl.state = .estb →
    j = room c.tx.ns (c.tx.peerNr + c.tx.peerRcvWndSz) ∧ c.Grants (j + 1))

/-- Sent messages wait for their acknowledgement without a timer. -/
def Conn.Forgets (c : Conn) : Prop :=
  c.ctl.state ≠ .close ∧ c.misc.rtimeoutTimer = false ∧ c.tx.rtmsQueue ≠ []

theorem Conn.Breaks.forgets (h : c.Breaks j) (hlive : c.ctl.state ≠ .close) :
    (c.pushed j).asked.Forgets := by
  obtain ⟨hpos, hj, -, -, ht⟩ := h
  exact ⟨hlive, ht, pushed_rtmsQueue_ne hpos hj⟩

theorem sessionFree_eq (sid : UInt16) (c : Conn) :
    (sessionFree sid c).2 =
      if c.ctl.Last sid ∧ c.ctl.state = .estb then (disconnectPush 1 0 (c.withoutSession sid)).2
      else if (c.ctl.getSession sid).isSome then c.withoutSession sid else c := by
  have hlast : c.ctl.Last sid ↔ (c.ctl.getSession sid).isSome ∧
      (c.withoutSession sid).ctl.sessions.isEmpty := by
    have hfind : (c.ctl.getSession sid).isSome = true ↔ ∃ s ∈ c.ctl.sessions, s.sid = sid := by
      simp [Ctl.getSession]
    have hempty : (c.withoutSession sid).ctl.sessions.isEmpty = true ↔
        ∀ s ∈ c.ctl.sessions, s.sid = sid := by
      simp [Conn.withoutSession]
    rw [hfind, hempty, Ctl.Last]
    constructor
    · rintro ⟨hne, hall⟩
      obtain ⟨s, hs⟩ := List.exists_mem_of_ne_nil _ hne
      exact ⟨⟨s, hs, hall s hs⟩, hall⟩
    grind
  unfold sessionFree
  rw [get_bind_apply]
  cases hget : c.ctl.getSession sid with
  | none =>
    have hno : ¬ (c.ctl.Last sid ∧ c.ctl.state = .estb) := by simp_all
    rw [if_neg hno]
    rfl
  | some s =>
    have hiff : ((c.withoutSession sid).ctl.sessions.isEmpty = true ∧
        (c.withoutSession sid).ctl.state = .estb) ↔ c.ctl.Last sid ∧ c.ctl.state = .estb := by
      rw [hlast, hget]
      exact ⟨fun h => ⟨⟨rfl, h.1⟩, h.2⟩, fun h => ⟨h.1.2, h.2⟩⟩
    show ((ite ((c.withoutSession sid).ctl.sessions.isEmpty = true ∧
      (c.withoutSession sid).ctl.state = .estb) _ _ : TunM Unit) (c.withoutSession sid)).2 = _
    by_cases h : c.ctl.Last sid ∧ c.ctl.state = .estb
    · rw [if_pos h, if_pos (hiff.2 h)]
      rfl
    · rw [if_neg h, if_neg fun h' => h (hiff.1 h')]
      rfl

theorem sendStopCCN_eq (res err : UInt16) (c : Conn) : ∃ pack, sendStopCCN res err c =
    if c.Grants 0 then (true, (tunnelSend pack none c.asked).2) else (false, c.asked) := by
  refine ⟨{ attrs := { id := .messageType, val := MsgType.stopCCN.code.toUInt32 } ::
    [{ id := .assignedTunnelId, val := c.misc.tid.toUInt32 }, resultCode res err] }, ?_⟩
  unfold sendStopCCN packetAlloc
  rw [get_bind_apply, bind_apply, bind_apply, ask_eq]
  by_cases hg : c.Grants 0
  · simp only [hg]
    rfl
  · simp only [hg]
    rfl

/-- The tunnel is disconnected, with a StopCCN as the only message to send. -/
def Conn.stopping (c : Conn) (pack : Packet) : Conn :=
  { c.asked with
    tx := { c.tx with sendQueue := [⟨pack, none⟩] }
    ctl := { c.ctl with state := .fin, sessions := [] }
    misc := { c.asked.misc with timeoutTimer := .off, helloTimer := false } }

theorem Conn.load_stopping (c : Conn) (pack : Packet) :
    (c.stopping pack).load = min (room c.tx.ns (c.tx.peerNr + c.tx.peerRcvWndSz)) 1 := rfl

theorem Conn.stopping_live (c : Conn) (pack : Packet) (j : Nat) :
    ((c.stopping pack).pushed j).ctl.state ≠ .close :=
  (by decide : TunState.fin ≠ .close)

theorem disconnect_estb (res err : UInt16) (hs : c.ctl.state = .estb) :
    ∃ pack, disconnect res err c =
      if c.Grants 0 then (true, c.stopping pack)
      else
        (false, Conn.freed { c.asked with ctl := { c.ctl with state := .fin } }) := by
  have hno : ¬ c.ctl.state.closing = true := by
    rw [hs]
    decide
  obtain ⟨pack, hstop⟩ := sendStopCCN_eq res err { c with tx := { c.tx with sendQueue := [] } }
  refine ⟨{ pack with tid := c.misc.peerTid }, ?_⟩
  have hrun : disconnect res err c =
      (if (sendStopCCN res err { c with tx := { c.tx with sendQueue := [] } }).1 = true then (do
        setState .fin
        delTimers
        freeSessions
        return true)
      else (do
        setState .fin
        tunnelFree
        return false) : TunM Bool)
        (sendStopCCN res err { c with tx := { c.tx with sendQueue := [] } }).2 := by
    unfold disconnect
    rw [get_bind_apply, if_neg hno]
    rfl
  rw [hrun, hstop]
  by_cases hg : c.Grants 0
  · have hg' : Conn.Grants { c with tx := { c.tx with sendQueue := [] } } 0 := hg
    rw [if_pos hg', if_pos hg]
    unfold tunnelSend
    rw [get_bind_apply, if_neg (show ¬ (Conn.asked { c with tx := { c.tx with sendQueue := [] } }
      ).ctl.state.closing = true from hno)]
    rfl
  · have hg' : ¬ Conn.Grants { c with tx := { c.tx with sendQueue := [] } } 0 := hg
    rw [if_neg hg', if_neg hg]
    rfl

theorem disconnectPush_restores (hs : c.ctl.state = .estb)
    (hroom : room c.tx.ns (c.tx.peerNr + c.tx.peerRcvWndSz) ≠ 0 ∨ ¬ c.Grants 0) :
    Timed (disconnectPush 1 0 c).2 := by
  obtain ⟨pack, hdis⟩ := disconnect_estb 1 0 hs
  unfold disconnectPush
  rw [bind_apply, hdis]
  by_cases hg : c.Grants 0
  · have hload := c.load_stopping pack
    have hpos := hroom.resolve_right (not_not_intro hg)
    have hout : Timed (pushSendqueue (c.stopping pack)).2 ∨ (pushSendqueue (c.stopping pack)).1 < 0 ∧
        (pushSendqueue (c.stopping pack)).2.ctl.state ≠ .close := by
      have hcases := pushSendqueue_cases (c.stopping pack)
      generalize pushSendqueue (c.stopping pack) = x at hcases ⊢
      obtain ⟨r, d⟩ := x
      cases hcases with
      | nothing h => omega
      | failed j hj => exact .inr ⟨(by decide : (-1 : Int) < 0), c.stopping_live pack j⟩
      | sent hpos hok ht =>
        exact .inl ⟨⟨fun _ => pushed_rtmsQueue_ne hpos (Nat.le_refl _), fun _ => ht⟩,
          fun hc => absurd hc (c.stopping_live pack _)⟩
      | armed hpos =>
        exact .inl ⟨⟨fun _ => pushed_rtmsQueue_ne hpos (Nat.le_refl _), fun _ => rfl⟩,
          fun hc => absurd hc (c.stopping_live pack (c.stopping pack).load)⟩
      | unarmed => exact .inr ⟨(by decide : (-1 : Int) < 0), c.stopping_live pack (c.stopping pack).load⟩
    rw [if_pos hg, if_pos rfl, bind_apply]
    by_cases hr : (pushSendqueue (c.stopping pack)).1 < 0
    · rw [if_pos hr]
      exact tunnelFree_restores (hout.imp_right And.right)
    · rw [if_neg hr]
      exact hout.resolve_right fun h => hr h.1
  · rw [if_neg hg]
    exact Conn.freed_timed _

theorem disconnectPush_forgets (hs : c.ctl.state = .estb)
    (hroom : room c.tx.ns (c.tx.peerNr + c.tx.peerRcvWndSz) = 0) (hg : c.Grants 0)
    (h : c.Forgets) : (disconnectPush 1 0 c).2.Forgets := by
  obtain ⟨pack, hdis⟩ := disconnect_estb 1 0 hs
  unfold disconnectPush
  rw [bind_apply, hdis, if_pos hg, if_pos rfl, bind_apply]
  have hload := c.load_stopping pack
  have hstop : (c.stopping pack).Forgets := ⟨c.stopping_live pack 0, h.2⟩
  have hcases := pushSendqueue_cases (c.stopping pack)
  generalize pushSendqueue (c.stopping pack) = x at hcases ⊢
  obtain ⟨r, d⟩ := x
  cases hcases with
  | nothing => exact hstop
  | failed j hj | sent hpos | armed hpos | unarmed hpos => omega

/-! ## The handlers that do not delete the tunnel -/

theorem room_pushed {ns nrMax : UInt16} (hj : j ≤ room ns nrMax) :
    room (Serial.num ns j) nrMax = room ns nrMax - j := by
  induction j with
  | zero => rw [Serial.num_zero, Nat.sub_zero]
  | succ j ih =>
    rw [← Serial.num_succ, room_succ (by omega)]
    omega

theorem Conn.load_le_room (c : Conn) : c.load ≤ room c.tx.ns (c.tx.peerNr + c.tx.peerRcvWndSz) :=
  Nat.min_le_left _ _

theorem Conn.Breaks.push_eq (h : c.Breaks j) : pushSendqueue c = (-1, (c.pushed j).asked) := by
  obtain ⟨hpos, hj, hok, hfail, ht⟩ := h
  have hcases := pushSendqueue_cases c
  generalize pushSendqueue c = x at hcases ⊢
  obtain ⟨r, c'⟩ := x
  cases hcases with
  | nothing h => omega
  | failed i hi hok' hfail' =>
    obtain hlt | rfl | hgt := Nat.lt_trichotomy i j
    · exact absurd (hok i hlt) hfail'
    · rfl
    · exact absurd (hok' j hgt) hfail
  | sent _ _ ht' =>
    rw [ht] at ht'
    cases ht'
  | armed _ hok' _ hg => grind
  | unarmed _ hok' =>
    obtain hlt | rfl := Nat.lt_or_eq_of_le hj
    · exact absurd (hok' j hlt) hfail
    · rfl

theorem room_after_break (hj : j ≤ c.load) :
    room (c.pushed j).tx.ns ((c.pushed j).tx.peerNr + (c.pushed j).tx.peerRcvWndSz) =
      room c.tx.ns (c.tx.peerNr + c.tx.peerRcvWndSz) - j :=
  room_pushed (Nat.le_trans hj c.load_le_room)

theorem grants_after_break (j : Nat) : (c.pushed j).asked.Grants 0 ↔ c.Grants (j + 1) := Iff.rfl

theorem Conn.Strands.forgets (h : c.Strands sid) (ht : Timed c) :
    (pushSendqueue c).1 < 0 ∧ (sessionFree sid (pushSendqueue c).2).2.Forgets := by
  obtain ⟨j, hbreaks, himp⟩ := h
  have hlive := ht.live_of_load (Nat.lt_of_lt_of_le hbreaks.1 hbreaks.2.1)
  have hforgets := hbreaks.forgets hlive
  rw [hbreaks.push_eq]
  refine ⟨(by decide : (-1 : Int) < 0), ?_⟩
  rw [sessionFree_eq]
  by_cases hlast : c.ctl.Last sid ∧ c.ctl.state = .estb
  · obtain ⟨hfull, hg⟩ := himp hlast
    rw [if_pos (show (c.pushed j).asked.ctl.Last sid ∧ (c.pushed j).asked.ctl.state = .estb from hlast)]
    refine disconnectPush_forgets hlast.2 ?_ ((grants_after_break j).2 hg) hforgets
    have hroom := room_after_break hbreaks.2.1
    rw [← hfull, Nat.sub_self] at hroom
    exact hroom
  · rw [if_neg (show ¬ ((c.pushed j).asked.ctl.Last sid ∧ (c.pushed j).asked.ctl.state = .estb)
      from hlast)]
    split
    · exact hforgets
    · exact hforgets

theorem sessionFree_timed_of_not_strands (ht : Timed c) (h : ¬ c.Strands sid) :
    Timed (sessionFree sid (pushSendqueue c).2).2 := by
  rcases pushSendqueue_timed ht with hpush | ⟨j, hbreaks, heq⟩
  · exact keeps_timed (sessionFree_acts sid) _ hpush
  · have hj := hbreaks.2.1
    have himp : (c.ctl.Last sid ∧ c.ctl.state = .estb) ∧
        ¬ (j = room c.tx.ns (c.tx.peerNr + c.tx.peerRcvWndSz) ∧ c.Grants (j + 1)) :=
      Classical.not_imp.1 fun himp => h ⟨j, hbreaks, himp⟩
    rw [heq, sessionFree_eq, if_pos (show (c.pushed j).asked.ctl.Last sid ∧
      (c.pushed j).asked.ctl.state = .estb from himp.1)]
    refine disconnectPush_restores himp.1.2 ?_
    have hroom := room_after_break hj
    have hle := c.load_le_room
    by_cases hfull : j = room c.tx.ns (c.tx.peerNr + c.tx.peerRcvWndSz)
    · exact .inr fun hg => himp.2 ⟨hfull, (grants_after_break j).1 hg⟩
    · left
      show room (c.pushed j).tx.ns ((c.pushed j).tx.peerNr + (c.pushed j).tx.peerRcvWndSz) ≠ 0
      omega

/-- Session and tunnel when a handler pushes the queue and keeps the tunnel if that fails. -/
def pushPoint (cf : Conf) (c : Conn) : Ev → Option (UInt16 × Conn)
  | .sessionTimeout sid =>
    let r := sendCDN sid 10 0 (delSessionTimer sid c).2
    if r.1 then some (sid, r.2) else none
  | .apsesFinished sid =>
    match c.ctl.getSession sid with
    | none => none
    | some sess =>
      let r := sendCDN sid 2 0 c
      if sess.state1 = .estb ∧ r.1 then some (sid, r.2) else none
  | .createSession =>
    if c.ctl.state ≠ .estb then none
    else
      match (allocSession cf c).1 with
      | none => none
      | some sid =>
        let r := placeCall c.ctl.lnsMode sid (allocSession cf c).2
        if r.1 then some (sid, r.2) else none
  | _ => none

/-- What a handler does: it keeps the invariant, or pushes the queue and deletes a session. -/
inductive Handled (cf : Conf) (c : Conn) (e : Ev) (d : Conn) : Prop
  | kept (hpoint : pushPoint cf c e = none) (h : Timed d)
  | pushed {sid : UInt16} {b : Conn} (hpoint : pushPoint cf c e = some (sid, b)) (hb : Timed b)
      (hd : d = (sessionFree sid (pushSendqueue b).2).2 ∨
        ¬ (pushSendqueue b).1 < 0 ∧ d = (pushSendqueue b).2)

theorem sessionDisconnectPush_eq (sid res err : UInt16) (c : Conn) :
    (sessionDisconnectPush sid res err c).2 =
      if (sendCDN sid res err c).1 then
        (sessionFree sid (pushSendqueue (sendCDN sid res err c).2).2).2
      else (sessionFree sid (sendCDN sid res err c).2).2 := by
  unfold sessionDisconnectPush
  rw [bind_apply]
  split <;> rfl

theorem createSession_handled (h : Timed c) : Handled cf c .createSession (createSession cf c).2 := by
  have halloc := timed_of_acts (allocSession_acts (L := anyMove) cf) (.inr trivial) h
  have hpoint : pushPoint cf c .createSession = if c.ctl.state ≠ .estb then none else
      match (allocSession cf c).1 with
      | none => none
      | some sid =>
        if (placeCall c.ctl.lnsMode sid (allocSession cf c).2).1 then
          some (sid, (placeCall c.ctl.lnsMode sid (allocSession cf c).2).2)
        else none := rfl
  unfold createSession
  rw [get_bind_apply]
  by_cases hs : c.ctl.state ≠ .estb
  · rw [if_pos hs] at hpoint ⊢
    exact .kept hpoint h
  rw [if_neg hs] at hpoint ⊢
  rw [bind_apply]
  cases ho : (allocSession cf c).1 with
  | none =>
    rw [ho] at hpoint
    exact .kept hpoint halloc
  | some sid =>
    have hcall := keeps_timed (placeCall_acts c.ctl.lnsMode sid) _ halloc
    rw [ho] at hpoint
    dsimp only at hpoint ⊢
    rw [bind_apply]
    by_cases hok : (placeCall c.ctl.lnsMode sid (allocSession cf c).2).1 = true
    · rw [if_pos hok] at hpoint ⊢
      refine .pushed hpoint hcall ?_
      rw [bind_apply]
      by_cases hr : (pushSendqueue (placeCall c.ctl.lnsMode sid (allocSession cf c).2).2).1 < 0
      · rw [if_pos hr]
        exact .inl rfl
      · rw [if_neg hr]
        exact .inr ⟨hr, rfl⟩
    · rw [if_neg hok] at hpoint ⊢
      exact .kept hpoint (keeps_timed (sessionFree_acts sid) _ hcall)

theorem sessionDisconnectPush_handled {res err : UInt16} {b : Conn} (h : Timed b)
    (hpoint : pushPoint cf c e =
      if (sendCDN sid res err b).1 then some (sid, (sendCDN sid res err b).2) else none) :
    Handled cf c e (sessionDisconnectPush sid res err b).2 := by
  have hcdn := keeps_timed (sendCDN_acts sid res err) b h
  rw [sessionDisconnectPush_eq]
  by_cases hok : (sendCDN sid res err b).1 = true
  · rw [if_pos hok] at hpoint ⊢
    exact .pushed hpoint hcdn (.inl rfl)
  · rw [if_neg hok] at hpoint ⊢
    exact .kept hpoint (keeps_timed (sessionFree_acts sid) _ hcdn)

theorem apsesFinished_handled (h : Timed c) (sid : UInt16) :
    Handled cf c (.apsesFinished sid) (apsesFinished sid c).2 := by
  have hpoint : pushPoint cf c (.apsesFinished sid) =
      match c.ctl.getSession sid with
      | none => none
      | some sess =>
        if sess.state1 = .estb ∧ (sendCDN sid 2 0 c).1 then some (sid, (sendCDN sid 2 0 c).2)
        else none := rfl
  unfold apsesFinished
  rw [get_bind_apply]
  cases hget : c.ctl.getSession sid with
  | none =>
    rw [hget] at hpoint
    exact .kept hpoint h
  | some sess =>
    rw [hget] at hpoint
    dsimp only at hpoint ⊢
    by_cases hs : sess.state1 = .estb
    · simp_all [sessionDisconnectPush_handled]
    · rw [if_neg hs]
      rw [if_neg fun h => hs h.1] at hpoint
      exact .kept hpoint h

theorem handler_handled {m : TunM Unit} (h : Timed c) (hlive : Live c.ctl)
    (hm : handler cf c e = some m) :
    Handled cf c e (m c).2 := by
  cases e with
  | readable | recv | pass => cases hm
  | start =>
    obtain ⟨f, -, rfl⟩ := Option.map_eq_some_iff.1 hm
    exact .kept rfl (timed_of_acts (runStart_acts (L := anyMove) cf f) hlive h)
  | createSession =>
    cases hm
    exact createSession_handled h
  | timeout =>
    simp only [handler] at hm
    split at hm <;> cases hm
    · exact .kept rfl (keeps_timed tunnelTimeout_acts c h)
    · exact .kept rfl (keeps_timed tunnelFree_acts c h)
  | rtimeout =>
    simp only [handler] at hm
    split at hm <;> cases hm
    exact .kept rfl (keeps_timed (rtimeout_acts cf) c h)
  | hello =>
    simp only [handler] at hm
    split at hm <;> cases hm
    exact .kept rfl (keeps_timed sendHELLO_acts c h)
  | sessionTimeout sid =>
    simp only [handler] at hm
    split at hm
    · split at hm <;> cases hm
      exact sessionDisconnectPush_handled (keeps_timed (delSessionTimer_acts sid) c h) rfl
    · cases hm
  | apsesFinished sid =>
    cases hm
    exact apsesFinished_handled h sid
  | close =>
    cases hm
    exact .kept rfl (keeps_timed closeTunnel_acts c h)

/-! ## Main result -/

/-- In the event loop the timer of a live tunnel runs exactly while messages are unacknowledged. -/
def TimerRight (s : State) : Prop :=
  s.phase = .idle → s.conn.ctl.state ≠ .close →
    (s.conn.misc.rtimeoutTimer = true ↔ s.conn.tx.rtmsQueue ≠ [])

def TimerOk (cf : Conf) (s : State) (e : Ev) : Prop :=
  s.phase = .idle → ∀ sid d, pushPoint cf s.conn e = some (sid, d) → ¬ d.Strands sid

theorem Handled.timed_iff {d : Conn} (h : Handled cf c e d) :
    (∀ sid b, pushPoint cf c e = some (sid, b) → ¬ b.Strands sid) ∧ Timed d ∨
      ¬ (∀ sid b, pushPoint cf c e = some (sid, b) → ¬ b.Strands sid) ∧ d.Forgets := by
  cases h with
  | kept hpoint h => simp_all
  | @pushed sid b hpoint hb hd =>
    by_cases hs : b.Strands sid
    · simp_all [hs.forgets]
    grind [sessionFree_timed_of_not_strands, pushSendqueue_timed_of_nonneg]

theorem step_timed {s s' : State} (h : Timed s.conn) (hstep : step cf s e = some s') :
    TimerOk cf s e ∧ Timed s'.conn ∨
      ¬ TimerOk cf s e ∧ s'.phase = .idle ∧ s'.conn.Forgets := by
  obtain ⟨c, ph⟩ := s
  cases ph with
  | idle =>
    simp only [step] at hstep
    split at hstep
    · cases hstep
    · rename_i hlive
      split at hstep
      · cases hstep
        exact .inl ⟨fun _ sid d hd => (by cases hd), h⟩
      · obtain ⟨m, hm, rfl⟩ := Option.map_eq_some_iff.1 hstep
        rcases (handler_handled h hlive hm).timed_iff with ⟨hok, ht⟩ | ⟨hno, hf⟩
        · exact .inl ⟨fun _ => hok, ht⟩
        · exact .inr ⟨fun hok => hno (hok rfl), rfl, hf⟩
  | reading needAck =>
    refine .inl ⟨fun hidle => (by cases hidle), ?_⟩
    cases e with
    | recv r =>
      cases r with
      | unreachable =>
        cases hstep
        exact keeps_timed tunnelFree_acts c h
      | pack p =>
        cases hstep
        exact readPack_timed h p needAck
      | done =>
        cases hstep
        exact endReading_timed h needAck
    | _ => cases hstep
  | replying id n needAck =>
    refine .inl ⟨fun hidle => (by cases hidle), ?_⟩
    cases e with
    | pass =>
      cases hstep
      exact replyPass_timed h id n needAck
    | _ => cases hstep

theorem Created.timed (h : Created cf c) : Timed c := by
  have hfresh : ∀ m : Misc, m.rtimeoutTimer = false →
      (m.rtimeoutTimer = true ↔ ([] : List Packet) ≠ []) := by
    simp
  cases h with
  | cli a lnsMode secret => exact ⟨hfresh _ rfl, fun _ => rfl⟩
  | peer h =>
    obtain ⟨_, _, _, m, -, hm, rfl⟩ := recvSCCRQ_some h
    exact ⟨hfresh m hm, fun _ => rfl⟩

/-- **The retransmission timer** is right in all states of a run exactly if no step leaves sent
messages without one. -/
theorem rtimer_iff (cf : Conf) (c : Conn) (hc : Created cf c) (es : List Ev) (s : State)
    (hrun : Machine.run (step cf) ⟨c, .idle⟩ es = some s) :
    Machine.Throughout (step cf) TimerRight ⟨c, .idle⟩ es ↔
      Machine.Guarded (step cf) (TimerOk cf) ⟨c, .idle⟩ es := by
  refine Machine.throughout_iff_guarded_of (J := fun s => Timed s.conn) ?_ ?_
    (fun _ _ => hc.timed.timer) hc.timed hrun
  · intro s e s' _ ht hstep
    rcases step_timed ht hstep with ⟨hok, ht'⟩ | ⟨hno, hidle, hlive, htimer, hne⟩
    · exact ⟨fun _ => hok, fun _ _ _ => ht'.timer⟩
    · refine ⟨fun hright => ?_, fun hok => absurd hok hno⟩
      have := (hright hidle hlive).2 hne
      rw [htimer] at this
      cases this
  grind [step_timed]

theorem rtimer_iff_start :
    ∃ s, Machine.run (step sampleConf) ⟨sampleTunnel, .idle⟩ [.start] = some s ∧
      s.conn.tx.rtmsQueue.length = 1 ∧
      Machine.Throughout (step sampleConf) TimerRight ⟨sampleTunnel, .idle⟩ [.start] := by
  obtain ⟨s, hs, hlen⟩ : ∃ s, Machine.run (step sampleConf) ⟨sampleTunnel, .idle⟩ [.start] = some s ∧
      s.conn.tx.rtmsQueue.length = 1 := by decide +kernel
  refine ⟨s, hs, hlen, ?_⟩
  exact (rtimer_iff sampleConf sampleTunnel (.cli sampleAlloc true [115]) [.start] s hs).2
    ⟨fun _ _ _ h => (nomatch h), fun _ _ => trivial⟩

/-- A tunnel for which the 22nd and the 28th fallible call fail, and all others succeed. -/
def flakyTunnel : Conn :=
  createTunnel sampleConf ⟨7, 1701, fun n => if n = 21 ∨ n = 27 then 0 else n + 1⟩ true []

/-- A session is created and its OCRQ acknowledged. The OCRQ of a second cannot be sent; it goes
with that of a third, which fails. -/
def flakyRun : List Ev :=
  [.start, .readable,
    .recv (.pack (sampleMsg .sccrp 0 1 [{ id := .protocolVersion, val := 256 },
      { id := .framingCapabilities, val := 3 }, { id := .assignedTunnelId, val := 5 }])),
    .recv .done, .pass, .pass,
    .readable, .recv (.pack { tid := 7, ns := 1, nr := 2, attrs := [] }), .recv .done, .pass,
    .createSession,
    .readable, .recv (.pack { tid := 7, ns := 1, nr := 3, attrs := [] }), .recv .done, .pass,
    .createSession, .createSession]

/-- One of two messages was sent and waits for its acknowledgement, without a timer. -/
theorem ocrq_not_retransmitted :
    ∃ s, Machine.run (step sampleConf) ⟨flakyTunnel, .idle⟩ flakyRun = some s ∧
      s.phase = .idle ∧ s.conn.ctl.state = .estb ∧ s.conn.tx.rtmsQueue.length = 1 ∧
      s.conn.tx.sendQueue.length = 1 ∧ s.conn.misc.rtimeoutTimer = false ∧ ¬ TimerRight s := by
  obtain ⟨s, hs, hidle, hstate, hrtms, hsend, htimer⟩ :
      ∃ s, Machine.run (step sampleConf) ⟨flakyTunnel, .idle⟩ flakyRun = some s ∧
        s.phase = .idle ∧ s.conn.ctl.state = .estb ∧ s.conn.tx.rtmsQueue.length = 1 ∧
        s.conn.tx.sendQueue.length = 1 ∧ s.conn.misc.rtimeoutTimer = false := by decide +kernel
  refine ⟨s, hs, hidle, hstate, hrtms, hsend, htimer, fun hright => ?_⟩
  have hne : s.conn.tx.rtmsQueue ≠ [] := List.ne_nil_of_length_eq_add_one hrtms
  have ht := (hright hidle (by rw [hstate]; decide)).2 hne
  rw [htimer] at ht
  cases ht

end L2tp
