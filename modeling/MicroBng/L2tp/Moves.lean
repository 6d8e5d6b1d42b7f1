import MicroBng.L2tp.Push

/-!
# What the code of a tunnel can do

Every handler of a tunnel is a sequence of a few elementary moves. `Move` lists them with the
conditions under which the code makes them; the invariants of the sender and of the authentication
are checked against the moves only. Two carry a condition that the code does not always guarantee:
a session is allocated on an established tunnel unless `Lax.early`, and the peer's window is not set
below the number of messages in flight unless `Lax.shrink`.

* `handler_moves`, `step_sound`: every handler, and every step, is a sequence of moves
-/

namespace L2tp

open StateProg Relation

/-- The two conditions that depend on what the peer sends. -/
structure Lax where
  early : Prop
  shrink : Prop

variable (sid res err : UInt16)

variable (sess : Sess) (msg : MsgType) (attrs : List Attr) (chall : Option Attr)

def TunState.waiting : TunState → Prop
  | .waitSccrp | .waitScccn => True
  | _ => False

inductive Move (L : Lax) : Conn → Conn → Prop
  | misc (c : Conn) (m : Misc) : Move L c { c with misc := m }
  | queue (c : Conn) (q : List Out) : Move L c { c with tx := { c.tx with sendQueue := q } }
  | send (c : Conn) (o : Out) (rest : List Out)
      (hwindow : nsnrCmp c.tx.ns (c.tx.peerNr + c.tx.peerRcvWndSz) < 0) :
      Move L c { c with tx := c.tx.transmitted o rest }
  | window (c : Conn) (w : UInt16) (hvalid : validWindow w)
      (hfit : c.tx.rtmsQueue.length ≤ w.toNat ∨ L.shrink) :
      Move L c { c with tx := { c.tx with peerRcvWndSz := w } }
  | clearChallenge (c : Conn) : Move L c { c with ctl := { c.ctl with challenge := none } }
  | ownChallenge (c : Conn) (ch : Octets) :
      Move L c { c with ctl := { c.ctl with challenge := some ch,
                                            log := .challenge ch :: c.ctl.log } }
  | peerChallenge (c : Conn) (ch : Option Octets)
      (hverified : ∃ own, Event.verified own ∈ c.ctl.log) :
      Move L c { c with ctl := { c.ctl with challenge := ch } }
  | verify (c : Conn) (ch : Octets) (hwait : c.ctl.state.waiting)
      (hch : c.ctl.challenge = some ch) :
      Move L c { c with ctl := { c.ctl with log := .verified ch :: c.ctl.log } }
  | wait (c : Conn) (st : TunState) (hst : st.waiting) (hlive : c.ctl.state ≠ .close)
      (hown : c.ctl.secret = [] ∨
        ∃ ch, c.ctl.challenge = some ch ∧ Event.challenge ch ∈ c.ctl.log) :
      Move L c { c with ctl := { c.ctl with state := st } }
  | established (c : Conn) (hwait : c.ctl.state.waiting)
      (hverified : c.ctl.secret = [] ∨ ∃ own, Event.verified own ∈ c.ctl.log) :
      Move L c { c with ctl := { c.ctl with state := .estb, log := .estb :: c.ctl.log } }
  | closing (c : Conn) (st : TunState) (hst : st = .fin ∨ st = .finWait)
      (hlive : c.ctl.state ≠ .close) :
      Move L c { c with ctl := { c.ctl with state := st } }
  | free (c : Conn) : Move L c c.freed
  | alloc (c : Conn) (sess : Sess) (hestb : c.ctl.state = .estb ∨ L.early) :
      Move L c { c with ctl := { c.ctl with sessions := sess :: c.ctl.sessions,
                                            log := .sessAlloc sess.sid :: c.ctl.log } }
  | session (c : Conn) (f : Sess → Sess) :
      Move L c { c with ctl := { c.ctl with sessions := c.ctl.sessions.map f } }
  | remove (c : Conn) (f : Sess → Bool) (q : List Out) :
      Move L c { c with ctl := { c.ctl with sessions := c.ctl.sessions.filter f },
                        tx := { c.tx with sendQueue := q } }
  | dataStart (c : Conn) (sid : UInt16) (hsess : c.ctl.sessions ≠ []) :
      Move L c { c with ctl := { c.ctl with log := .dataStart sid :: c.ctl.log } }

variable {L : Lax} {α : Type}

abbrev Moves (L : Lax) (m : TunM α) : Prop := Always (Move L) m

/-- The program makes moves from states whose control part satisfies `p`. -/
abbrev MovesIf (L : Lax) (p : Ctl → Prop) (m : TunM α) : Prop := Does (Move L) (fun c => p c.ctl) m

abbrev KeepsCtl (m : TunM α) : Prop := Frame Conn.ctl m

/-- What most code does: it makes moves and leaves the timer right. -/
structure Act (L : Lax) (c d : Conn) : Prop where
  path : ReflTransGen (Move L) c d
  timed : Timed c → Timed d

abbrev Acts (L : Lax) (m : TunM α) : Prop := Always (Act L) m

abbrev ActsIf (L : Lax) (p : Ctl → Prop) (m : TunM α) : Prop := Does (Act L) (fun c => p c.ctl) m

/-- The program acts without touching the control part. -/
abbrev Quiet (L : Lax) (m : TunM α) : Prop := Always (Still Conn.ctl (Act L)) m

theorem ActsIf.after {β : Type} {p : Ctl → Prop} {m : TunM α} {f : α → TunM β} (hm : Quiet L m)
    (hf : ∀ a, ActsIf L p (f a)) : ActsIf L p (m >>= f) :=
  Does.after hm hf

section Acts

variable {c d : Conn} {P : Conn → Prop} {m : TunM α}

theorem act_of_path (h : ReflTransGen (Act L) c d) : Act L c d := by
  induction h with
  | refl => exact ⟨.refl, id⟩
  | tail _ hact ih => exact ⟨ih.path.trans hact.path, fun h => hact.timed (ih.timed h)⟩

theorem moves_of_acts (h : Does (Act L) P m) : Does (Move L) P m :=
  fun c hc => (act_of_path (h c hc)).path

theorem timed_of_acts (h : Does (Act L) P m) (hc : P c) (ht : Timed c) : Timed (m c).2 :=
  (act_of_path (h c hc)).timed ht

theorem Act.misc {m : Misc} (hm : m.rtimeoutTimer = c.misc.rtimeoutTimer) :
    Act L c { c with misc := m } :=
  ⟨.single (.misc c m), fun h => ⟨(congrArg (· = true ↔ _) hm).mpr h.timer, h.closed⟩⟩

theorem Act.queue {q : List Out} (hq : c.ctl.state = .close → c.tx.sendQueue = [] → q = []) :
    Act L c { c with tx := { c.tx with sendQueue := q } } :=
  ⟨.single (.queue c q), fun h => ⟨h.timer, fun hs => hq hs (h.closed hs)⟩⟩

theorem Act.ctl {k : Ctl} (hmove : Move L c { c with ctl := k })
    (hk : k.state = .close → c.ctl.state = .close) : Act L c { c with ctl := k } :=
  ⟨.single hmove, fun h => ⟨h.timer, fun hs => h.closed (hk hs)⟩⟩

end Acts

/-! ## Primitive operations -/

theorem modMisc_acts {P : Conn → Prop} {f : Misc → Misc}
    (hf : ∀ m, (f m).rtimeoutTimer = m.rtimeoutTimer) : Does (Act L) P (modMisc f) :=
  .modify fun c _ => .misc (hf c.misc)

theorem modMisc_quiet {f : Misc → Misc} (hf : ∀ m, (f m).rtimeoutTimer = m.rtimeoutTimer) :
    Quiet L (modMisc f) :=
  .modify fun c _ => ⟨.misc (hf c.misc), rfl⟩

theorem random_quiet : Quiet L random := fun _ _ => .single ⟨.misc rfl, rfl⟩

theorem ask_quiet : Quiet L ask := .bind random_quiet fun _ => .pure _

theorem ask_keeps : KeepsCtl ask := fun _ => rfl

theorem packetAlloc_quiet : Quiet L (packetAlloc msg attrs) :=
  .bind ask_quiet fun _ => .ite (.pure _) (.pure _)

theorem randomOctets_quiet : ∀ n, Quiet L (randomOctets n)
  | 0 => .pure _
  | n + 1 => .bind random_quiet fun _ => .bind (randomOctets_quiet n) fun _ => .pure _

/-! ## Queues -/

def Live (k : Ctl) : Prop := k.state ≠ .close

theorem live_of_not_closing {k : Ctl} (h : ¬ k.state.closing = true) : Live k := by
  intro hs
  exact h (by rw [hs]; rfl)

theorem clearSendqueue_quiet : Quiet L clearSendqueue :=
  .modify fun _ _ => ⟨.queue fun _ _ => rfl, rfl⟩

theorem sessionClearSendqueue_acts : Acts L (sessionClearSendqueue sid) :=
  .modify fun c _ => .queue fun _ hq => by rw [hq, List.filter_nil]

variable (pack : Packet)

theorem tunnelSend_quiet (sess : Option UInt16) : Quiet L (tunnelSend pack sess) := by
  refine Does.get_bind fun c _ => .ite (fun _ => .pure _) fun hc => .seq (.modify ?_) fun _ => .pure _
  rintro c rfl
  exact ⟨.queue fun hs => absurd hs (live_of_not_closing hc), rfl⟩

theorem pushLoop_moves (nrMax : UInt16) (q : List Out) (n : Nat) :
    Does (Move L) (fun c => c.tx.peerNr + c.tx.peerRcvWndSz = nrMax) (pushLoop nrMax q n) := by
  induction q generalizing n with
  | nil => exact .pure _
  | cons o rest ih =>
    intro c hc
    show ReflTransGen (Move L) c
      ((if 0 ≤ nsnrCmp c.tx.ns nrMax then _ else _ : TunM (Option Nat)) c).2
    split
    · exact .refl
    · refine (moves_of_acts (P := fun _ => True) ask_quiet.moved c trivial).trans ?_
      show ReflTransGen (Move L) _ ((if (ask c).1 then _ else _ : TunM (Option Nat)) (ask c).2).2
      split
      · refine .head (.send (ask c).2 o rest ?_) (ih _ _ hc)
        show nsnrCmp c.tx.ns (c.tx.peerNr + c.tx.peerRcvWndSz) < 0
        rw [hc]
        omega
      · exact .refl

theorem pushLoop_keeps (nrMax : UInt16) (q : List Out) (n : Nat) :
    KeepsCtl (pushLoop nrMax q n) := by
  induction q generalizing n with
  | nil => exact .pure _
  | cons o rest ih =>
    exact .bind .get fun _ => .ite (.pure _) (.bind ask_keeps fun _ =>
      .ite (.bind (.modify fun _ => rfl) fun _ => ih _) (.pure _))

theorem pushSendqueue_moves : Moves L pushSendqueue := by
  intro c _
  refine (pushLoop_moves _ c.tx.sendQueue 0 c rfl).trans ?_
  refine Always.path (m := (_ : TunM Int)) ?_ _
  split
  · exact .pure _
  · exact .pure _
  · exact .bind .get fun _ => .ite (.pure _) (.bind (moves_of_acts ask_quiet.moved) fun _ =>
      .ite (.bind (.modify fun c _ => .misc c _) fun _ => .pure _) (.pure _))

theorem pushSendqueue_keeps : KeepsCtl pushSendqueue := by
  refine .bind .get fun c => .bind (pushLoop_keeps _ _ _) fun r => ?_
  split
  · exact .pure _
  · exact .pure _
  · exact .bind .get fun _ => .ite (.pure _) (.bind ask_keeps fun _ =>
      .ite (.bind (.modify fun _ => rfl) fun _ => .pure _) (.pure _))

/-! ## Sessions, disconnection and deletion -/

theorem modSession_acts (f : Sess → Sess) : Acts L (modSession sid f) :=
  .modify fun c _ => .ctl (.session c _) id

theorem sessionSend_quiet : Quiet L (sessionSend sid pack) := by
  refine .bind .get fun c => ?_
  split
  · exact .pure _
  · exact tunnelSend_quiet _ _

theorem sendStopCCN_quiet : Quiet L (sendStopCCN res err) := by
  refine .bind .get fun c => .bind (packetAlloc_quiet _ _) fun p => ?_
  split
  · exact .pure _
  · exact .bind (tunnelSend_quiet _ _) fun _ => .pure _

theorem sendCDN_acts : Acts L (sendCDN sid res err) := by
  refine .bind (packetAlloc_quiet _ _).moved fun p => ?_
  split
  · exact .pure _
  · exact .bind (sessionSend_quiet _ _).moved fun _ => .pure _

theorem tunnelSendCDN_acts (peerSid res err : UInt16) :
    Acts L (tunnelSendCDN sid peerSid res err) := by
  refine .bind (packetAlloc_quiet _ _).moved fun p => ?_
  split
  · exact .pure _
  · exact .bind (tunnelSend_quiet _ _).moved fun _ => .pure _

theorem move_withoutSessions (c : Conn) : Move L c c.withoutSessions := by
  have h := Move.remove (L := L) c (fun _ => false)
    (c.tx.sendQueue.map fun o => { o with sess := none })
  rwa [List.filter_false] at h

theorem freeSessions_acts : Acts L freeSessions :=
  .modify fun c _ => ⟨.single (move_withoutSessions c), fun h => ⟨h.timer, fun hs => by
    show c.tx.sendQueue.map _ = []
    rw [h.closed hs, List.map_nil]⟩⟩

theorem tunnelFree_acts : Acts L tunnelFree :=
  .bind .get fun _ => .ite (.pure _)
    (.modify fun c _ => ⟨.single (.free c), fun _ => c.freed_timed⟩)

theorem pushOrFree_acts {p : Ctl → Prop} {m : TunM α} {f : Unit → TunM α} (hm : ActsIf L p m)
    (hf : ∀ u, Acts L (f u)) :
    ActsIf L p (do
      let r ← pushSendqueue
      if r < 0 then tunnelFree >>= f else m) := by
  intro c hc
  have hpush : ReflTransGen (Move L) c (pushSendqueue c).2 := pushSendqueue_moves.path c
  refine .single ?_
  rw [bind_apply]
  by_cases hr : (pushSendqueue c).1 < 0
  · have hfree := moves_of_acts (tunnelFree_acts (L := L)) (pushSendqueue c).2 trivial
    have hrest := act_of_path ((hf (tunnelFree (pushSendqueue c).2).1).path
      (tunnelFree (pushSendqueue c).2).2)
    rw [if_pos hr]
    exact ⟨hpush.trans (hfree.trans hrest.path),
      fun h => hrest.timed (tunnelFree_restores (pushSendqueue_restorable h))⟩
  · have hrest := act_of_path (hm (pushSendqueue c).2 (pushSendqueue_keeps.keeps c hc))
    rw [if_neg hr]
    exact ⟨hpush.trans hrest.path, fun h => hrest.timed (pushSendqueue_timed_of_nonneg h hr)⟩

theorem delTimers_acts : Acts L delTimers := modMisc_acts fun _ => rfl

theorem setState_fin_acts : ActsIf L Live (setState .fin) :=
  .modify fun c hc => .ctl (.closing c .fin (.inl rfl) hc) nofun

theorem disconnect_acts : Acts L (disconnect res err) := by
  refine Does.get_bind fun c _ => .ite (fun _ => .pure _) fun hc => ?_
  have hlive := live_of_not_closing hc
  suffices h : ActsIf L Live (do
      clearSendqueue
      if ← sendStopCCN res err then
        setState .fin
        delTimers
        freeSessions
        return true
      else
        setState .fin
        tunnelFree
        return false) from fun c' hc' => h c' (hc' ▸ hlive)
  refine .after clearSendqueue_quiet fun _ =>
    .after (sendStopCCN_quiet _ _) fun _ => .ite (fun _ => ?_) fun _ => ?_
  · exact .seq setState_fin_acts fun _ => .bind delTimers_acts fun _ =>
      .bind freeSessions_acts fun _ => .pure _
  · exact .seq setState_fin_acts fun _ => .bind tunnelFree_acts fun _ => .pure _

theorem disconnectPush_acts : Acts L (disconnectPush res err) :=
  .bind (disconnect_acts res err) fun _ => .ite
    (pushOrFree_acts (p := fun _ => True) (.pure _) fun _ => .pure _) (.pure _)

theorem failTunnel_acts : Acts L (failTunnel res err) :=
  .bind (disconnect_acts res err) fun _ => .pure _

theorem act_withoutSession (c : Conn) (sid : UInt16) : Act L c (c.withoutSession sid) :=
  ⟨.single (.remove c _ _), fun h => ⟨h.timer, fun hs => by
    show c.tx.sendQueue.map _ = []
    rw [h.closed hs, List.map_nil]⟩⟩

theorem sessionFree_acts : Acts L (sessionFree sid) := by
  refine .bind .get fun c => ?_
  split
  · exact .pure _
  · exact .bind (.modify fun c _ => act_withoutSession c sid) fun _ => .bind .get fun _ =>
      .ite (.bind (disconnectPush_acts 1 0) fun _ => .pure _) (.pure _)

theorem sessionDisconnect_acts : Acts L (sessionDisconnect sid res err) :=
  .bind (sessionClearSendqueue_acts sid) fun _ => .bind (sendCDN_acts sid res err) fun _ =>
    sessionFree_acts sid

theorem sessionDisconnectPush_moves : Moves L (sessionDisconnectPush sid res err) :=
  .bind (moves_of_acts (sendCDN_acts sid res err)) fun _ => .ite
    (.bind pushSendqueue_moves fun _ => moves_of_acts (sessionFree_acts sid))
    (moves_of_acts (sessionFree_acts sid))

theorem newSid_quiet (sessions : List Sess) : ∀ n, Quiet L (newSid sessions n)
  | 0 => .pure _
  | n + 1 => .bind ask_quiet fun _ => .ite
      (.bind random_quiet fun _ => .ite (newSid_quiet sessions n) (.pure _)) (.pure _)

def MayAlloc (L : Lax) (k : Ctl) : Prop := k.state = .estb ∨ L.early

theorem allocSession_acts (cf : Conf) : ActsIf L (MayAlloc L) (allocSession cf) := by
  refine .after .get fun c => .after (newSid_quiet _ _) fun o => ?_
  split
  · exact .pure _
  · exact .seq (.modify fun c hc => .ctl (.alloc c _ hc) id) fun _ => .pure _

variable {cf : Conf} {c : Conn} {e : Ev}

theorem allocSession_some {sid : UInt16}
    (h : (allocSession cf c).1 = some sid) : (allocSession cf c).2.ctl.sessions ≠ [] := by
  simp only [allocSession, get_bind_apply] at h ⊢
  simp only [bind_apply] at h ⊢
  generalize newSid c.ctl.sessions 65535 c = r at h ⊢
  cases hr : r.1 with
  | none =>
    rw [hr] at h
    cases h
  | some sid => exact List.cons_ne_nil _ _

/-! ## The challenge -/

theorem clearChallenge_acts : Acts L (setChallenge none) :=
  .modify fun c _ => .ctl (.clearChallenge c) id

def Own (k : Ctl) : Prop := k.secret = [] ∨ ∃ ch, k.challenge = some ch ∧ Event.challenge ch ∈ k.log

theorem genchall_acts (n : Nat) (pack : Packet) : Acts L (genchall n pack) :=
  .bind .get fun _ => .ite (.bind clearChallenge_acts fun _ => .pure _)
    (.bind ask_quiet.moved fun _ => .ite
      (.bind (randomOctets_quiet _).moved fun _ => .bind (.modify fun c _ =>
        .ctl (.ownChallenge c _) id) fun _ => .pure _)
      (.bind clearChallenge_acts fun _ => .pure _))

theorem genchall_live (n : Nat) (pack : Packet) : Keeps (fun c => Live c.ctl) (genchall n pack) :=
  .bind .get fun _ => .ite (.bind (.modify fun _ h => h) fun _ => .pure _)
    (.bind ask_keeps.keeps fun _ => .ite
      (.bind (randomOctets_quiet (L := ⟨False, False⟩) _).frame.keeps fun _ =>
        .bind (.modify fun _ h => h) fun _ => .pure _)
      (.bind (.modify fun _ h => h) fun _ => .pure _))

theorem genchall_own {n : Nat} (hn : 0 < n) {pack pack' : Packet}
    (h : (genchall n pack c).1 = some pack') : Own (genchall n pack c).2.ctl := by
  simp only [genchall, get_bind_apply] at h ⊢
  by_cases hs : n = 0 ∨ c.ctl.secret = []
  · rw [if_pos hs]
    exact .inl (hs.resolve_left (by omega))
  · rw [if_neg hs] at h ⊢
    simp only [bind_apply] at h ⊢
    by_cases ha : (ask c).1
    · rw [if_pos ha]
      exact .inr ⟨_, rfl, List.mem_cons_self ..⟩
    · rw [if_neg ha] at h
      cases h

theorem genchallresp_quiet (cf : Conf) (ident : MsgType) (pack : Packet) :
    Quiet L (genchallresp cf ident pack) := by
  refine .bind .get fun c => ?_
  split
  · exact .pure _
  · exact .ite (.pure _) (.bind ask_quiet fun _ => .ite (.pure _) (.pure _))

/-- The peer has been authenticated, or no secret is configured. -/
def Verified (k : Ctl) : Prop := k.secret = [] ∨ ∃ own, Event.verified own ∈ k.log

/-- The tunnel waits for the peer's answer, which has been verified. -/
def Ready (k : Ctl) : Prop := k.state.waiting ∧ Verified k

theorem storechall_none_acts : Acts L (storechall none) :=
  .bind .get fun _ => .bind clearChallenge_acts fun _ => .pure _

theorem storechall_acts : ActsIf L Ready (storechall chall) := by
  refine Does.get_bind fun c hc => ?_
  cases chall with
  | none => exact (Always.bind clearChallenge_acts fun _ => .pure _).does
  | some a =>
    refine .ite (fun _ => (Always.bind clearChallenge_acts fun _ => .pure _).does) fun hs => ?_
    have hv : ∃ own, Event.verified own ∈ c.ctl.log := hc.2.resolve_left hs
    refine .ite (fun _ => ?_) fun _ => ?_
    · exact .seq (.modify fun c' hc' => .ctl (.peerChallenge c' _ (hc' ▸ hv)) id) fun _ => .pure _
    · intro c' hc'
      subst hc'
      refine (ask_quiet.moved (P := fun _ => True) c' trivial).trans ?_
      have hv' : ∃ own, Event.verified own ∈ (ask c').2.ctl.log := hv
      exact (Does.ite (P := (· = (ask c').2))
        (fun _ => .seq (.modify fun d hd => .ctl (.peerChallenge d _ (hd ▸ hv')) id) fun _ => .pure _)
        (fun _ => (Always.bind clearChallenge_acts fun _ => .pure _).does)) _ rfl

theorem storechall_ready : Keeps (fun c => Ready c.ctl) (storechall chall) := by
  refine .bind .get fun c => ?_
  cases chall with
  | none => exact .bind (.modify fun _ h => h) fun _ => .pure _
  | some a =>
    exact .ite (.bind (.modify fun _ h => h) fun _ => .pure _)
      (.ite (.bind (.modify fun _ h => h) fun _ => .pure _)
        (.bind ask_keeps.keeps fun _ => .ite (.bind (.modify fun _ h => h) fun _ => .pure _)
          (.bind (.modify fun _ h => h) fun _ => .pure _)))

theorem checkchallresp_cases (cf : Conf) (ident : MsgType) (resp : Option Attr) (c : Conn) :
    checkchallresp cf ident resp c = (false, c) ∨
    (checkchallresp cf ident resp c = (true, c) ∧ c.ctl.secret = []) ∨
    ∃ ch, c.ctl.challenge = some ch ∧ checkchallresp cf ident resp c =
      (true, { c with ctl := { c.ctl with log := .verified ch :: c.ctl.log } }) := by
  simp only [checkchallresp, get_bind_apply]
  by_cases hs : c.ctl.secret = []
  · rw [if_pos hs]
    exact .inr (.inl ⟨rfl, hs⟩)
  · rw [if_neg hs]
    cases hch : c.ctl.challenge with
    | none => exact .inl rfl
    | some ch =>
      cases resp with
      | none => exact .inl rfl
      | some a =>
        simp only
        split
        · exact .inl rfl
        · split
          · exact .inl rfl
          · exact .inr (.inr ⟨ch, rfl, by rw [← hch]; rfl⟩)

theorem checkchallresp_bind {β : Type} (cf : Conf) (ident : MsgType) (resp : Option Attr)
    {f : Bool → TunM β} (htrue : ActsIf L Ready (f true)) (hfalse : Acts L (f false)) :
    ActsIf L (fun k => k.state.waiting) (checkchallresp cf ident resp >>= f) := by
  intro c hc
  rw [bind_apply]
  obtain h | ⟨h, hs⟩ | ⟨ch, hch, h⟩ := checkchallresp_cases cf ident resp c <;> rw [h]
  · exact hfalse.path c
  · exact htrue c ⟨hc, .inl hs⟩
  · exact .head (.ctl (.verify c ch hc hch) id) (htrue _ ⟨hc, .inr ⟨ch, List.mem_cons_self ..⟩⟩)

/-! ## Establishment -/

theorem sendStart_acts {wait : TunState} (hwait : wait.waiting) :
    ActsIf L Live (sendStart pack wait) := by
  refine .after ask_quiet fun _ => .ite (fun _ => ?_) fun _ => tunnelFree_acts.does
  refine ActsIf.after random_quiet fun r => .bind (genchall_acts _ _).does fun c hc => ?_
  split
  · exact tunnelFree_acts.does
  · rename_i pack' hpack
    have hown : Live (genchall (challLen r) pack c).2.ctl ∧ Own (genchall (challLen r) pack c).2.ctl :=
      ⟨genchall_live _ _ c hc, genchall_own (by unfold challLen MD5_DIGEST_LENGTH; omega) hpack⟩
    have hrest : ActsIf L (fun k => Live k ∧ Own k) (do
        let _ ← tunnelSend pack' none
        let res ← pushSendqueue
        if res < 0 then tunnelFree else setState wait) :=
      .after (tunnelSend_quiet _ _) fun _ =>
        pushOrFree_acts (f := fun _ => pure ())
          (.modify fun c h => .ctl (.wait c wait hwait h.1 h.2) fun hs => by subst hs; cases hwait)
          fun _ => .pure _
    exact fun c' hc' => hrest c' (hc' ▸ hown)

theorem sendSCCRQ_acts (cf : Conf) : ActsIf L Live (sendSCCRQ cf) := by
  refine .after .get fun c => .after (packetAlloc_quiet _ _) fun p => ?_
  split
  · exact tunnelFree_acts.does
  · exact sendStart_acts _ trivial

theorem sendSCCRP_acts (cf : Conf) : ActsIf L Live (sendSCCRP cf) := by
  refine .after .get fun c => .after (packetAlloc_quiet _ _) fun p => ?_
  split
  · exact tunnelFree_acts.does
  · refine ActsIf.after (genchallresp_quiet _ _ _) fun p => ?_
    split
    · exact tunnelFree_acts.does
    · exact sendStart_acts _ trivial

theorem sendSCCCN_acts (cf : Conf) : Acts L (sendSCCCN cf) := by
  refine .bind (packetAlloc_quiet _ _).moved fun p => ?_
  split
  · exact .pure _
  · refine .bind (genchallresp_quiet _ _ _).moved fun p => ?_
    split
    · exact .pure _
    · exact .bind storechall_none_acts fun _ => .bind (tunnelSend_quiet _ _).moved fun _ => .pure _

theorem sendSCCCN_ready (cf : Conf) : Keeps (fun c => Ready c.ctl) (sendSCCCN cf) := by
  refine .bind (packetAlloc_quiet (L := ⟨False, False⟩) _ _).frame.keeps fun p => ?_
  split
  · exact .pure _
  · refine .bind (genchallresp_quiet (L := ⟨False, False⟩) _ _ _).frame.keeps fun p => ?_
    split
    · exact .pure _
    · exact .bind (storechall_ready _) fun _ =>
        .bind (tunnelSend_quiet (L := ⟨False, False⟩) _ _).frame.keeps fun _ => .pure _

theorem setEstablished_acts : ActsIf L Ready setEstablished :=
  .modify fun c h => .ctl (.established c h.1 h.2) nofun

theorem tunnelConnect_acts (cf : Conf) : ActsIf L Ready (tunnelConnect cf) :=
  .after (modMisc_quiet fun _ => rfl) fun _ =>
    .after ask_quiet fun _ => .ite
      (fun _ => .ite (fun _ => .seq setEstablished_acts fun _ => .pure _) fun _ =>
        ActsIf.after ask_quiet fun _ => .ite
          (fun _ => ActsIf.after (modMisc_quiet fun _ => rfl) fun _ =>
            .seq setEstablished_acts fun _ => .pure _)
          fun _ => .pure _)
      fun _ => .pure _

theorem connectOrDisconnect_acts (cf : Conf) :
    ActsIf L Ready (do if ← tunnelConnect cf then return () else failTunnel 2 0) :=
  .seq (tunnelConnect_acts cf) fun _ => .ite (.pure _) (failTunnel_acts 2 0)

theorem finishSCCRP_acts (cf : Conf) (pack : Packet) :
    ActsIf L (fun k => k.state.waiting) (finishSCCRP cf pack) :=
  checkchallresp_bind cf .sccrp _
    (.keeping (storechall_acts _) (storechall_ready _) fun _ => .ite
      (fun _ => .keeping (sendSCCCN_acts cf).does (sendSCCCN_ready cf) fun _ => .ite
        (fun _ => connectOrDisconnect_acts cf) fun _ => (failTunnel_acts 2 0).does)
      fun _ => (failTunnel_acts 2 4).does)
    (failTunnel_acts 4 0)

/-- The window announced by an SCCRP is not below the number of messages in flight. -/
def WindowFits (pack : Packet) (c : Conn) : Prop :=
  c.tx.rtmsQueue.length ≤ (newWindow pack c.tx.peerRcvWndSz).toNat

theorem setWindow_acts :
    Does (Act L) (fun c => WindowFits pack c ∨ L.shrink)
      (modTx fun t => { t with peerRcvWndSz := newWindow pack t.peerRcvWndSz }) := by
  intro c hc
  cases hw : pack.last .recvWindowSize with
  | none =>
    have hsame : newWindow pack c.tx.peerRcvWndSz = c.tx.peerRcvWndSz := by
      simp only [newWindow, hw]
    show ReflTransGen (Act L) c
      { c with tx := { c.tx with peerRcvWndSz := newWindow pack c.tx.peerRcvWndSz } }
    rw [hsame]
  | some a =>
    refine .single ⟨.single (.window c _ ?_ hc), fun h => ⟨h.timer, h.closed⟩⟩
    simp only [newWindow, hw]
    split
    · assumption
    · decide

def SccrpOk (L : Lax) (pack : Packet) (c : Conn) : Prop :=
  c.ctl.state.waiting ∧ (WindowFits pack c ∨ L.shrink)

theorem checkWindow_acts (cf : Conf) (pack : Packet) :
    ActsIf L (fun k => k.state.waiting) (match pack.last .recvWindowSize with
      | none => finishSCCRP cf pack
      | some w => if validWindow w.uint16 then finishSCCRP cf pack else failTunnel 2 3) := by
  split
  · exact finishSCCRP_acts cf pack
  · exact .ite (fun _ => finishSCCRP_acts cf pack) fun _ => (failTunnel_acts 2 3).does

theorem recvSCCRP_acts (cf : Conf) (pack : Packet) :
    Does (Act L) (fun c => (c.ctl.state = .waitSccrp → WindowFits pack c) ∨ L.shrink)
      (recvSCCRP cf pack) := by
  refine Does.get_bind fun c hc => .ite (fun _ => .pure _) fun hst => ?_
  have hfit : WindowFits pack c ∨ L.shrink := hc.imp_left fun h => h (not_not.1 hst)
  have hwait : c.ctl.state.waiting := by
    rw [not_not.1 hst]
    trivial
  split
  · exact (failTunnel_acts 2 0).does
  · suffices h : Does (Act L) (SccrpOk L pack) _ from fun c' hc' => h c' (hc' ▸ ⟨hwait, hfit⟩)
    refine .keeping (modMisc_acts fun _ => rfl) (.modify fun c h => h) fun _ => .ite
      (fun _ => (failTunnel_acts 2 8).does) fun _ =>
        .ite (fun _ => (failTunnel_acts 2 0).does) fun _ => ?_
    split
    · exact (failTunnel_acts 2 0).does
    · refine .ite (fun _ => (failTunnel_acts 5 0).does) fun _ => ?_
      intro c' hc'
      refine (setWindow_acts pack c' hc'.2).trans ?_
      exact checkWindow_acts cf pack _ hc'.1

theorem recvSCCCN_acts (cf : Conf) (pack : Packet) : Acts L (recvSCCCN cf pack) := by
  refine Does.get_bind fun c _ => .ite (fun _ => .pure _) fun hst => ?_
  have hwait : c.ctl.state.waiting := by
    rw [not_not.1 hst]
    trivial
  refine .ite (fun _ => (failTunnel_acts 2 8).does) fun _ => ?_
  have h := checkchallresp_bind (L := L) cf .scccn (pack.last .challengeResponse)
    (f := fun ok => if ok then do
        let _ ← storechall none
        if ← tunnelConnect cf then return () else failTunnel 2 0
      else failTunnel 4 0)
    (.keeping storechall_none_acts.does (storechall_ready _) fun _ => connectOrDisconnect_acts cf)
    (failTunnel_acts 4 0)
  exact fun c' hc' => h c' (hc' ▸ hwait)

theorem finwait_acts : Acts L finwait := by
  refine Does.get_bind fun c _ => ?_
  have hbody : ActsIf L Live (do
      setState .finWait
      delTimers
      clearSendqueue
      freeSessions
      if ← ask then
        modMisc fun m => { m with timeoutTimer := .finwaitTimeout }
      else
        let _ ← sendZLB
        tunnelFree) :=
    .seq (.modify fun c h => .ctl (.closing c .finWait (.inr rfl) h) nofun) fun _ =>
      .bind delTimers_acts fun _ => .bind clearSendqueue_quiet.moved fun _ =>
        .bind freeSessions_acts fun _ => .bind ask_quiet.moved fun _ =>
        .ite (modMisc_acts fun _ => rfl) (.bind ask_quiet.moved fun _ => tunnelFree_acts)
  have hlive : c.ctl.state ≠ .close → Does (Act L) (· = c) _ := fun h c' hc' => hbody c' (hc' ▸ h)
  cases hst : c.ctl.state with
  | init | finWait | close => exact .pure _
  | waitSccrp | waitScccn | estb | fin => exact hlive (by rw [hst]; decide)

theorem recvStopCCN_acts : Acts L (recvStopCCN pack) := by
  refine .bind .get fun c => .ite (.pure _) ?_
  split
  · exact finwait_acts
  · exact .bind (modMisc_acts fun _ => rfl) fun _ => finwait_acts

/-! ## Session messages -/

def HasSess (k : Ctl) : Prop := k.sessions ≠ []

theorem modSession_hasSess (f : Sess → Sess) : Keeps (fun c => HasSess c.ctl) (modSession sid f) :=
  .modify fun _ h h' => h (List.map_eq_nil_iff.1 h')

theorem sendSessionMsg_quiet : Quiet L (sendSessionMsg sid msg attrs) := by
  refine .bind (packetAlloc_quiet _ _) fun p => ?_
  split
  · exact .pure _
  · exact .bind (sessionSend_quiet _ _) fun _ => .pure _

theorem trySendSessionMsg_acts : Acts L (trySendSessionMsg sid msg attrs) := by
  refine .bind (packetAlloc_quiet _ _).moved fun p => ?_
  split
  · exact .pure _
  · exact .bind .get fun _ => .ite (.pure _) (.bind (sessionSend_quiet _ _).moved fun _ => .pure _)

theorem sessionConnect_acts : ActsIf L HasSess (sessionConnect sid) :=
  .keeping (modSession_acts sid _).does (modSession_hasSess sid _) fun _ =>
    ActsIf.after ask_quiet fun _ => .ite
      (fun _ => .keeping (modSession_acts sid _).does (modSession_hasSess sid _) fun _ =>
        ActsIf.after ask_quiet fun _ => .ite
          (fun _ => .seq (.modify fun c h => .ctl (.dataStart c sid h) id) fun _ => .pure _) fun _ => .pure _)
      fun _ => .pure _

theorem connectOrFail_acts : ActsIf L HasSess (connectOrFail sid) :=
  .seq (sessionConnect_acts sid) fun _ => .ite (.pure _) (sessionDisconnect_acts sid 2 6)

theorem rejectCall_acts (peerSid res err : UInt16) : Acts L (rejectCall sid peerSid res err) :=
  .bind (tunnelSendCDN_acts sid peerSid res err) fun _ => sessionFree_acts sid

theorem recvCall_acts (cf : Conf) (known : List AttrId) {reply : UInt16 → TunM Bool}
    (hreply : ∀ sid, ActsIf L HasSess (reply sid)) (pack : Packet) :
    ActsIf L (MayAlloc L) (recvCall cf known reply pack) := by
  unfold recvCall
  split
  · exact (Always.bind (tunnelSendCDN_acts 0 0 2 6) fun _ => .pure _).does
  · rename_i a _
    refine .bind (allocSession_acts cf) fun c hc => ?_
    split
    · exact (Always.bind (tunnelSendCDN_acts 0 a.uint16 2 4) fun _ => .pure _).does
    · rename_i sid hsid
      have hrest : ActsIf L HasSess (do
          modSession sid fun s => { s with peerSid := a.uint16 }
          if pack.unknown known ≠ [] then rejectCall sid a.uint16 2 8
          else if ← reply sid then return () else rejectCall sid a.uint16 2 4) :=
        .keeping (modSession_acts sid _).does (modSession_hasSess sid _) fun _ => .ite
          (fun _ => (rejectCall_acts _ _ _ _).does) fun _ => .seq (hreply sid) fun _ =>
            .ite (.pure _) (rejectCall_acts _ _ _ _)
      exact fun c' hc' => hrest c' (hc' ▸ allocSession_some hsid)

theorem delSessionTimer_acts : Acts L (delSessionTimer sid) := modSession_acts sid _

theorem incallReply_acts : Acts L (incallReply sid) :=
  .bind ask_quiet.moved fun _ => .ite
    (.bind (modSession_acts sid _) fun _ => .bind (sendSessionMsg_quiet _ _ _).moved fun _ => .ite
      (.bind (modSession_acts sid _) fun _ => .pure _)
      (.bind (delSessionTimer_acts sid) fun _ => .pure _))
    (.pure _)

theorem outcallReply_acts (cf : Conf) (sid : UInt16) : ActsIf L HasSess (outcallReply cf sid) := by
  have hfail : Acts L (do delSessionTimer sid; return false) :=
    .bind (delSessionTimer_acts sid) fun _ => .pure _
  exact .after ask_quiet fun _ => .ite
    (fun _ => .keeping (modSession_acts sid _).does (modSession_hasSess sid _) fun _ =>
      ActsIf.after (sendSessionMsg_quiet _ _ _) fun _ => .ite
        (fun _ => ActsIf.after (sendSessionMsg_quiet _ _ _) fun _ =>
          .ite (fun _ => .seq (sessionConnect_acts sid) fun _ => .ite (.pure _) hfail)
            fun _ => hfail.does)
        fun _ => hfail.does)
    fun _ => .pure _

theorem recvICRQ_acts (cf : Conf) (pack : Packet) :
    ActsIf L (fun k => k.state = .estb ∨ k.lnsMode = true ∨ L.early) (recvICRQ cf pack) := by
  refine Does.get_bind fun c hc => .ite (fun _ => .pure _) fun hguard => ?_
  have hmay : MayAlloc L c.ctl := by
    rcases hc with h | h | h
    · exact .inl h
    · exact .inl (not_not.1 fun hne => hguard ⟨hne, h⟩)
    · exact .inr h
  have hrest : ActsIf L (MayAlloc L) (do
      if ← ask then recvCall cf icrqKnown incallReply pack else return ()) :=
    .after ask_quiet fun _ => .ite
      (fun _ => recvCall_acts cf icrqKnown (fun sid => (incallReply_acts sid).does) pack)
      fun _ => .pure _
  exact fun c' hc' => hrest c' (hc' ▸ hmay)

theorem recvOCRQ_acts (cf : Conf) (pack : Packet) :
    ActsIf L (fun k => k.state = .estb ∨ k.lnsMode = false ∨ L.early) (recvOCRQ cf pack) := by
  refine Does.get_bind fun c hc => .ite (fun _ => .pure _) fun hguard => ?_
  have hmay : MayAlloc L c.ctl := by
    rcases hc with h | h | h
    · exact .inl h
    · exact .inl (not_not.1 fun hne => hguard ⟨hne, by simp [h]⟩)
    · exact .inr h
  have hrest : ActsIf L (MayAlloc L) (do
      if ← ask then recvCall cf ocrqKnown (outcallReply cf) pack else return ()) :=
    .after ask_quiet fun _ => .ite
      (fun _ => recvCall_acts cf ocrqKnown (outcallReply_acts cf) pack) fun _ => .pure _
  exact fun c' hc' => hrest c' (hc' ▸ hmay)

theorem recvReply_acts (wait : SesState) {answer : TunM Unit} (hanswer : ActsIf L HasSess answer)
    (pack : Packet) : ActsIf L HasSess (recvReply sess wait answer pack) := by
  refine .ite (fun _ => .pure _) fun _ => ?_
  split
  · exact (sessionDisconnect_acts _ _ _).does
  · exact .keeping (modSession_acts _ _).does (modSession_hasSess _ _) fun _ =>
      .ite (fun _ => (sessionDisconnect_acts _ _ _).does) fun _ => hanswer

theorem recvICRP_acts : ActsIf L HasSess (recvICRP sess pack) :=
  recvReply_acts sess _ (ActsIf.after (sendSessionMsg_quiet _ _ _)
    fun _ => .ite (fun _ => connectOrFail_acts _) fun _ => (sessionDisconnect_acts _ _ _).does) pack

theorem recvOCRP_acts : ActsIf L HasSess (recvOCRP sess pack) :=
  recvReply_acts sess _ (modSession_acts _ _).does pack

theorem recvConnected_acts (cf : Conf) (sess : Sess) (wait : SesState) (known : List AttrId)
    (pack : Packet) : ActsIf L HasSess (recvConnected cf sess wait known pack) :=
  .ite (fun _ => .pure _) fun _ =>
    .keeping (modSession_acts _ _).does (modSession_hasSess _ _) fun _ =>
      .ite (fun _ => (sessionDisconnect_acts _ _ _).does) fun _ => connectOrFail_acts _

theorem recvCDN_acts : Acts L (recvCDN sess pack) :=
  .bind (modSession_acts _ _) fun _ => .bind (sessionClearSendqueue_acts _) fun _ =>
    sessionFree_acts _

theorem sessionRecv_acts (cf : Conf) (sess : Sess) (pack : Packet) (mandatory : Bool)
    (msg : MsgType) : ActsIf L HasSess (sessionRecv cf sess pack mandatory msg) := by
  cases msg with
  | sccrq | sccrp | scccn | stopCCN | hello | ocrq | icrq | wen | sli => exact .pure _
  | ocrp => exact recvOCRP_acts sess pack
  | occn => exact recvConnected_acts cf sess _ _ pack
  | icrp => exact recvICRP_acts sess pack
  | iccn => exact recvConnected_acts cf sess _ _ pack
  | cdn => exact (recvCDN_acts sess pack).does
  | other n => exact .ite (fun _ => (sessionDisconnect_acts _ _ _).does) fun _ => .pure _

/-! ## The reply loop and the handlers of the event loop -/

/-- The message type of a packet, given by its first attribute. -/
def Packet.msgType (p : Packet) : Option MsgType :=
  match p.attrs with
  | [] => none
  | a :: _ => if a.id = .messageType then some (.ofCode a.uint16) else none

/-- Not a call request the role should refuse: an ICRQ for a LAC or an OCRQ for an LNS that is not
established. -/
def RoleOk (c : Conn) (p : Packet) : Prop :=
  c.ctl.state = .fin ∨ c.ctl.state = .finWait ∨ (p.sid = 0 →
    (p.msgType = some .icrq → c.ctl.state = .estb ∨ c.ctl.lnsMode = true) ∧
    (p.msgType = some .ocrq → c.ctl.state = .estb ∨ c.ctl.lnsMode = false))

/-- The message is no SCCRP that sets the window below the number of messages in flight. -/
def FitsOk (c : Conn) (p : Packet) : Prop :=
  p.sid = 0 → p.msgType = some .sccrp → c.ctl.state = .waitSccrp → WindowFits p c

/-- The conditions under which handling a message makes only moves that `L` allows. -/
def MsgOk (L : Lax) (p : Packet) (c : Conn) : Prop :=
  (RoleOk c p ∨ L.early) ∧ (FitsOk c p ∨ L.shrink)

theorem tunnelRecv_acts (cf : Conf) (pack : Packet) (mandatory : Bool) (msg : MsgType) :
    Does (Act L) (fun c =>
        (msg = .icrq → c.ctl.state = .estb ∨ c.ctl.lnsMode = true ∨ L.early) ∧
        (msg = .ocrq → c.ctl.state = .estb ∨ c.ctl.lnsMode = false ∨ L.early) ∧
        (msg = .sccrp → (c.ctl.state = .waitSccrp → WindowFits pack c) ∨ L.shrink))
      (tunnelRecv cf pack mandatory msg) := by
  cases msg with
  | sccrq | hello | cdn | ocrp | occn | icrp | iccn | wen | sli => exact .pure _
  | sccrp => exact fun c hc => recvSCCRP_acts cf pack c (hc.2.2 rfl)
  | scccn => exact (recvSCCCN_acts cf pack).does
  | stopCCN => exact (recvStopCCN_acts pack).does
  | ocrq => exact fun c hc => recvOCRQ_acts cf pack c (hc.2.1 rfl)
  | icrq => exact fun c hc => recvICRQ_acts cf pack c (hc.1 rfl)
  | other n => exact .ite (fun _ => (failTunnel_acts _ _).does) fun _ => .pure _

theorem hasSess_of_getSession {k : Ctl} {sid : UInt16} {sess : Sess}
    (h : k.getSession sid = some sess) : HasSess k :=
  List.ne_nil_of_mem (List.mem_of_find?_eq_some h)

theorem handleMsg_acts (cf : Conf) (pack : Packet) :
    Does (Act L) (MsgOk L pack) (handleMsg cf pack) := by
  refine Does.get_bind fun c hc => .ite (fun _ => .pure _) fun hst => ?_
  split
  · exact .pure _
  · rename_i attr rest hattrs
    refine .ite (fun _ => .pure _) fun hid => .ite (fun _ => ?_) fun hsid => ?_
    · split
      · exact .pure _
      · rename_i sess hsess
        exact fun c' hc' => sessionRecv_acts cf sess pack _ _ c' (hc' ▸ hasSess_of_getSession hsess)
    · have hmsg : pack.msgType = some (.ofCode attr.uint16) := by simp_all [Packet.msgType]
      have hsid0 : pack.sid = 0 := not_not.1 hsid
      have hrole : RoleOk c pack → _ := fun h =>
        (h.resolve_left fun h => hst (.inl h)).resolve_left (fun h => hst (.inr h)) hsid0
      refine fun c' hc' => tunnelRecv_acts cf pack _ _ c' ?_
      subst hc'
      refine ⟨fun hm => ?_, fun hm => ?_, fun hm => ?_⟩ <;> rw [hm] at hmsg
      · grind [hc.1]
      · grind [hc.1]
      · exact hc.2.imp_left fun h => h hsid0 hmsg

theorem pushOrAck_moves (needAck : Bool) : Moves L (pushOrAck needAck) :=
  .bind pushSendqueue_moves fun _ => .ite
    (.bind (moves_of_acts ask_quiet.moved) fun _ => .ite (.pure _) (.pure _)) (.pure _)

theorem finishRead_moves (needAck : Bool) : Moves L (finishRead needAck) :=
  .bind (pushOrAck_moves needAck) fun _ => .ite (moves_of_acts tunnelFree_acts)
    (.bind .get fun _ => .ite (moves_of_acts tunnelFree_acts) (.pure _))

theorem placeCall_acts (lns : Bool) (sid : UInt16) : Acts L (placeCall lns sid) :=
  .bind ask_quiet.moved fun _ => .ite
    (.bind (modSession_acts sid _) fun _ => .bind
      (.ite (trySendSessionMsg_acts _ _ _) (trySendSessionMsg_acts _ _ _)) fun _ => .ite
        (.bind (modSession_acts sid _) fun _ => .pure _)
        (.bind (delSessionTimer_acts sid) fun _ => .pure _))
    (.pure _)

theorem createSession_moves (cf : Conf) : Moves L (createSession cf) := by
  refine Does.get_bind fun c _ => .ite (fun _ => .pure _) fun hst => ?_
  have hmay : MayAlloc L c.ctl := .inl (not_not.1 hst)
  refine .seq (fun c' hc' => moves_of_acts (allocSession_acts cf) c' (hc' ▸ hmay)) fun o => ?_
  split
  · exact .pure _
  · exact .bind (moves_of_acts (placeCall_acts _ _)) fun _ => .ite
      (.bind pushSendqueue_moves fun _ => .ite (moves_of_acts (sessionFree_acts _)) (.pure _))
      (moves_of_acts (sessionFree_acts _))

theorem runStart_acts (cf : Conf) (f : StartFunc) : ActsIf L Live (runStart cf f) := by
  refine .after (modMisc_quiet fun _ => rfl) fun _ => ?_
  grind [sendSCCRQ_acts, sendSCCRP_acts]

theorem tunnelTimeout_acts : Acts L tunnelTimeout :=
  .bind (modMisc_acts fun _ => rfl) fun _ => .bind (disconnectPush_acts 1 0) fun _ => .pure _

theorem rtimeout_acts (cf : Conf) : Acts L (rtimeout cf) :=
  .bind .get fun _ => .ite (.pure _) (.bind (modMisc_acts fun _ => rfl) fun _ =>
    .ite tunnelFree_acts (.bind ask_quiet.moved fun _ => .ite (.pure _) tunnelFree_acts))

theorem sendHELLO_acts : Acts L sendHELLO := by
  refine .bind (packetAlloc_quiet _ _).moved fun o => ?_
  split
  · exact tunnelFree_acts
  · exact .bind (tunnelSend_quiet _ _).moved fun _ =>
      pushOrFree_acts (p := fun _ => True) (f := fun _ => pure ()) (.pure _) fun _ => .pure _

theorem closeTunnel_acts : Acts L (do let _ ← disconnectPush 0 0) :=
  .bind (disconnectPush_acts 0 0) fun _ => .pure _

/-- **Every handler of the event loop is a sequence of moves**, whatever the peer has sent. -/
theorem handler_moves {m : TunM Unit} (h : handler cf c e = some m) : MovesIf L Live m := by
  cases e with
  | readable | recv | pass => cases h
  | start =>
    obtain ⟨f, -, rfl⟩ := Option.map_eq_some_iff.1 h
    exact moves_of_acts (runStart_acts cf f)
  | createSession => cases h; exact (createSession_moves cf).does
  | timeout =>
    simp only [handler] at h
    split at h <;> cases h
    · exact moves_of_acts tunnelTimeout_acts.does
    · exact moves_of_acts tunnelFree_acts.does
  | rtimeout =>
    simp only [handler] at h
    split at h <;> cases h
    exact moves_of_acts (rtimeout_acts cf).does
  | hello =>
    simp only [handler] at h
    split at h <;> cases h
    exact moves_of_acts sendHELLO_acts.does
  | sessionTimeout sid =>
    simp only [handler] at h
    split at h
    · split at h <;> cases h
      exact (Always.bind (moves_of_acts (delSessionTimer_acts _)) fun _ =>
        sessionDisconnectPush_moves _ _ _).does
    · cases h
  | apsesFinished sid =>
    cases h
    refine (Always.bind .get fun c => ?_).does
    split
    · exact .pure _
    · exact .ite (sessionDisconnectPush_moves _ _ _) (.pure _)
  | close => cases h; exact moves_of_acts closeTunnel_acts.does

/-! ## The steps of a tunnel -/

/-- The reply loop was left with the tunnel `c` after `n` messages. -/
inductive Left (L : Lax) (c : Conn) (n : Nat) : State → Prop
  | intro {d : Conn} (hmoves : ReflTransGen (Move L) { c with rx := c.rx.skip n } d) :
      Left L c n ⟨d, .idle⟩

/-- What a step of a tunnel can do, with the handlers replaced by moves. -/
inductive Step (cf : Conf) (L : Lax) : State → Ev → State → Prop
  /-- a handler of the event loop -/
  | handler {c d : Conn} {e : Ev} (hlive : Live c.ctl) (hmoves : ReflTransGen (Move L) c d) :
      Step cf L ⟨c, .idle⟩ e ⟨d, .idle⟩
  | readable (c : Conn) (hlive : Live c.ctl) : Step cf L ⟨c, .idle⟩ .readable ⟨c, .reading false⟩
  /-- the tunnel is deleted while datagrams are read -/
  | abort {c d : Conn} {needAck : Bool} {r : Recv} (hmoves : ReflTransGen (Move L) c d)
      (hclosed : d.ctl.state = .close) :
      Step cf L ⟨c, .reading needAck⟩ (.recv r) ⟨d, .idle⟩
  /-- a datagram for another tunnel -/
  | discard {c : Conn} {needAck : Bool} {p : Packet} (m : Misc) :
      Step cf L ⟨c, .reading needAck⟩ (.recv (.pack p)) ⟨{ c with misc := m }, .reading needAck⟩
  | store {c : Conn} {needAck : Bool} {p : Packet} (m : Misc) :
      Step cf L ⟨c, .reading needAck⟩ (.recv (.pack p))
        ⟨(storeMsg { c with misc := m } p needAck).conn,
          .reading (storeMsg { c with misc := m } p needAck).needAck⟩
  /-- the retransmission queue is cleaned and the reply loop entered -/
  | clean {c : Conn} {needAck : Bool} (m : Misc) :
      Step cf L ⟨c, .reading needAck⟩ (.recv .done)
        ⟨{ c with tx := { c.tx with rtmsQueue := cleaned c.tx.peerNr c.tx.rtmsQueue }, misc := m },
          .replying c.rx.offt 0 needAck⟩
  /-- a message is taken out of the window and handled -/
  | take {c d : Conn} {id n : Nat} {needAck : Bool} {p : Packet} (hp : c.rx.queue id = some p)
      (hlive : Live c.ctl)
      (hmoves : ReflTransGen (Move L) { c with rx := c.rx.take id p } d) :
      Step cf L ⟨c, .replying id n needAck⟩ .pass ⟨d, .replying ((id + 1) % d.rx.sz) (n + 1) needAck⟩
  /-- the same, and the loop is back at the offset -/
  | takeLast {c d : Conn} {id n : Nat} {needAck : Bool} {p : Packet} {s : State}
      (hp : c.rx.queue id = some p) (hlive : Live c.ctl)
      (hmoves : ReflTransGen (Move L) { c with rx := c.rx.take id p } d)
      (hlast : (id + 1) % d.rx.sz = d.rx.offt) (hleft : Left L d (n + 1) s) :
      Step cf L ⟨c, .replying id n needAck⟩ .pass s
  /-- no message is left, or the tunnel has been deleted -/
  | leave {c : Conn} {id n : Nat} {needAck : Bool} {s : State}
      (hnone : c.rx.queue id = none ∨ c.ctl.state = .close) (hleft : Left L c n s) :
      Step cf L ⟨c, .replying id n needAck⟩ .pass s

def State.next (s : State) : Option Packet :=
  match s.phase with
  | .replying id _ _ => s.conn.rx.queue id
  | _ => none

/-- The next message meets the conditions `L` leaves open. -/
def StepOk (L : Lax) (s : State) : Prop := ∀ p, s.next = some p → MsgOk L p s.conn

variable {s s' : State}

theorem pass_of_next {p : Packet} (hp : s.next = some p)
    (hstep : step cf s e = some s') : e = .pass := by
  obtain ⟨c, ph⟩ := s
  cases ph with
  | idle | reading => cases hp
  | replying id n needAck =>
    cases e with
    | pass => rfl
    | _ => cases hstep

theorem tunnelFree_closed (c : Conn) : (tunnelFree c).2.ctl.state = .close := by
  simp only [tunnelFree, get_bind_apply]
  split
  · assumption
  · rfl

theorem updatePeerport_misc (port : UInt16) (c : Conn) :
    ∃ m, (updatePeerport port c).2 = { c with misc := m } := by
  simp only [updatePeerport, get_bind_apply]
  split
  · exact ⟨c.misc, rfl⟩
  · rw [bind_apply]
    split
    · exact ⟨_, rfl⟩
    · exact ⟨_, rfl⟩

theorem readPack_step (cf : Conf) (c : Conn) (p : Packet) (needAck : Bool) :
    Step cf L ⟨c, .reading needAck⟩ (.recv (.pack p)) (readPack cf c p needAck) := by
  obtain ⟨m, hm⟩ := updatePeerport_misc p.port c
  unfold readPack
  generalize updatePeerport p.port c = r at hm
  obtain ⟨ok, c'⟩ := r
  obtain rfl : c' = _ := hm
  simp only
  split
  · split
    · exact .store m
    · exact .discard m
  · exact .abort (.head (.misc c m) (moves_of_acts tunnelFree_acts _ trivial)) (tunnelFree_closed _)

theorem cleanRtmsqueue_eq (c : Conn) : ∃ m, (cleanRtmsqueue c).2 =
    { c with tx := { c.tx with rtmsQueue := cleaned c.tx.peerNr c.tx.rtmsQueue }, misc := m } := by
  simp only [cleanRtmsqueue, get_bind_apply]
  rw [bind_apply]
  split
  · exact ⟨c.misc, rfl⟩
  · rw [bind_apply]
    split
    · exact ⟨_, rfl⟩
    · rw [bind_apply]
      split
      · exact ⟨_, rfl⟩
      · exact ⟨_, rfl⟩

theorem endReading_step (cf : Conf) (hlive : Live c.ctl) (needAck : Bool) :
    Step cf L ⟨c, .reading needAck⟩ (.recv .done) (endReading c needAck) := by
  obtain ⟨m, hm⟩ := cleanRtmsqueue_eq c
  unfold endReading
  generalize cleanRtmsqueue c = r at hm
  obtain ⟨ok, c'⟩ := r
  obtain rfl : c' = _ := hm
  simp only
  split
  · exact .clean m
  · -- deleting the tunnel empties the queue, so the cleaning leaves no trace
    have hfree : (tunnelFree { c with
        tx := { c.tx with rtmsQueue := cleaned c.tx.peerNr c.tx.rtmsQueue }, misc := m }).2
        = ({ c with misc := m } : Conn).freed := by
      simp only [tunnelFree, get_bind_apply]
      rw [if_neg hlive]
      rfl
    rw [hfree]
    exact .abort (.head (.misc c m) (.single (.free _))) rfl

theorem left_endReplying (c : Conn) (n : Nat) (needAck : Bool) :
    Left L c n (endReplying c n needAck) :=
  ⟨(finishRead_moves needAck).path _⟩

theorem replyPass_step (cf : Conf) (id n : Nat) (needAck : Bool)
    (hok : StepOk L ⟨c, .replying id n needAck⟩) :
    Step cf L ⟨c, .replying id n needAck⟩ .pass (replyPass cf c id n needAck) := by
  unfold replyPass
  split
  · exact .leave (.inl ‹_›) (left_endReplying c n needAck)
  · rename_i p hp
    split
    · exact .leave (.inr ‹_›) (left_endReplying c n needAck)
    · rename_i hlive
      have hmoves := moves_of_acts (handleMsg_acts cf p) { c with rx := c.rx.take id p } (hok p hp)
      simp only
      split
      · exact .takeLast hp hlive hmoves ‹_› (left_endReplying _ _ _)
      · exact .take hp hlive hmoves

def ReadingLive (s : State) : Prop := ∀ needAck, s.phase = .reading needAck → Live s.conn.ctl

/-- **Every step of a tunnel is one of the listed ones**, if the next message meets the conditions
left open. -/
theorem step_sound (hlive : ReadingLive s) (hok : StepOk L s)
    (h : step cf s e = some s') : Step cf L s e s' := by
  obtain ⟨c, ph⟩ := s
  cases ph with
  | idle =>
    simp only [step] at h
    split at h
    · cases h
    · rename_i hc
      split at h
      · cases h
        exact .readable c hc
      · obtain ⟨m, hm, rfl⟩ := Option.map_eq_some_iff.1 h
        exact .handler hc (handler_moves hm c hc)
  | reading needAck =>
    cases e with
    | recv r =>
      cases r with
      | unreachable =>
        cases h
        exact .abort (moves_of_acts tunnelFree_acts c trivial) (tunnelFree_closed c)
      | pack p =>
        cases h
        exact readPack_step cf c p needAck
      | done =>
        cases h
        exact endReading_step cf (hlive needAck rfl) needAck
    | _ => cases h
  | replying id n needAck =>
    cases e with
    | pass =>
      cases h
      exact replyPass_step cf id n needAck hok
    | _ => cases h

theorem storeMsg_ctl (c : Conn) (p : Packet) (needAck : Bool) :
    (storeMsg c p needAck).conn.ctl = c.ctl := by
  grind [storeMsg]

theorem Step.readingLive (hs : Step cf L s e s') (h : ReadingLive s) : ReadingLive s' := by
  intro needAck hph
  cases hs with
  | handler _ _ => cases hph
  | readable c hlive => exact hlive
  | abort _ _ => cases hph
  | discard m => exact h _ rfl
  | store m =>
    rw [storeMsg_ctl]
    exact h _ rfl
  | clean m | take _ _ _ => cases hph
  | takeLast _ _ _ _ hleft | leave _ hleft => cases hleft; cases hph

/-! ## New tunnels -/

/-- The tunnels the module creates: for the command line or a peer. -/
inductive Created (cf : Conf) : Conn → Prop
  | cli (a : Alloc) (lnsMode : Bool) (secret : Octets) : Created cf (createTunnel cf a lnsMode secret)
  | peer {a : Alloc} {pack : Packet} {c : Conn} (h : recvSCCRQ cf a pack = some c) : Created cf c

theorem storechall_eq (c : Conn) :
    ∃ ch m, m.rtimeoutTimer = c.misc.rtimeoutTimer ∧
      (storechall chall c).2 = { c with ctl := { c.ctl with challenge := ch }, misc := m } := by
  cases chall with
  | none => exact ⟨none, c.misc, rfl, rfl⟩
  | some a =>
    simp only [storechall, get_bind_apply]
    split
    · exact ⟨none, c.misc, rfl, rfl⟩
    · split
      · exact ⟨_, c.misc, rfl, rfl⟩
      · rw [bind_apply]
        split
        · exact ⟨_, (ask c).2.misc, rfl, rfl⟩
        · exact ⟨_, (ask c).2.misc, rfl, rfl⟩

theorem recvSCCRQ_some {a : Alloc} {pack : Packet}
    (h : recvSCCRQ cf a pack = some c) :
    ∃ window cap ch m, validWindow window ∧ m.rtimeoutTimer = false ∧
      c = { rx := { (tunnelAlloc cf a cap true true cf.secret .sendSCCRP).rx with nr := 1 }
            tx := { (tunnelAlloc cf a cap true true cf.secret .sendSCCRP).tx with
                    peerRcvWndSz := window }
            ctl := { (tunnelAlloc cf a cap true true cf.secret .sendSCCRP).ctl with challenge := ch }
            misc := m } := by
  unfold recvSCCRQ at h
  split at h
  · cases h
  · split at h
    · rename_i tid version framingCap _ _ _
      simp only at h
      split at h
      · cases h
      · split at h
        · cases h
        · unfold acceptSCCRQ at h
          simp only at h
          split at h
          · obtain ⟨ch, m, htimer, heq⟩ := storechall_eq (pack.last .challenge)
              { tunnelAlloc cf a framingCap.val true true cf.secret .sendSCCRP with
                tx := { (tunnelAlloc cf a framingCap.val true true cf.secret .sendSCCRP).tx with
                  peerRcvWndSz := ((pack.last .recvWindowSize).map Attr.uint16).getD
                    DEFAULT_PEER_RECV_WINDOW_SIZE } }
            rw [heq] at h
            cases h
            exact ⟨_, framingCap.val, ch, { m with peerTid := tid.uint16, portSet := true },
              not_not.1 ‹_›, htimer, rfl⟩
          · cases h
    · cases h

end L2tp
