import MicroBng.Radius.Failover

/-!
# Which replies authenticate a user

A reply is taken for an answer to an Access-Request by its identifier alone. The Response
Authenticator is nowhere compared.

* `success_reply`: what a success does guarantee, and that the authenticators have no influence on it
-/

namespace Radius

variable {cf : Conf} {env : Env} {st st' st'' : State} {dict : Dict}

/-! ## What sending leaves alone -/

/-- The fields that decide which replies are accepted. -/
structure Steady (r r' : Req) : Prop where
  type : r'.type = r.type
  hook : r'.hook = r.hook
  id : r'.id = r.id
  beforeSend : r'.beforeSend = r.beforeSend

theorem Steady.trans {a b c : Req} (h : Steady a b) (h' : Steady b c) : Steady a c :=
  ⟨h'.type.trans h.type, h'.hook.trans h.hook, h'.id.trans h.id, h'.beforeSend.trans h.beforeSend⟩

structure Quiet (st st' : State) : Prop where
  steady : Steady st.req st'.req
  reports : st'.reports = st.reports

/-- Nothing is reported, or the request ends with a denial. -/
structure Sends (st st' : State) : Prop where
  steady : Steady st.req st'.req
  reports : st'.reports = st.reports ∨ (st'.phase = .over ∧ st'.reports = st.reports ++ [.denied])

theorem Quiet.sends (h : Quiet st st') : Sends st st' := ⟨h.steady, .inl h.reports⟩

theorem Quiet.trans_sends (h : Quiet st st') (h' : Sends st' st'') : Sends st st'' :=
  ⟨h.steady.trans h'.steady, h.reports ▸ h'.reports⟩

theorem Quiet.touch (st : State) (tries : Nat) (active queued : Bool) (sv : Servers)
    (phase : Phase) :
    Quiet st { st with
      req := { st.req with tries := tries, active := active, queued := queued }
      servers := sv, phase := phase } :=
  ⟨⟨rfl, rfl, rfl, rfl⟩, rfl⟩

theorem radReqSendNow_quiet (h : radReqSendNow cf env st = some st') (phase : Phase) :
    Quiet st { st' with phase := phase } := by
  unfold radReqSendNow at h
  split at h
  · cases h
  · cases h
    refine ⟨?_, rfl⟩
    unfold Req.refreshed
    split <;> exact ⟨rfl, rfl, rfl, rfl⟩

theorem radServerRealloc_quiet (h : radServerRealloc cf env st = some st') : Quiet st st' := by
  obtain ⟨s, -, rfl⟩ := Option.map_eq_some_iff.1 h
  exact ⟨⟨rfl, rfl, rfl, rfl⟩, rfl⟩

theorem radServerReqExit_quiet (st : State) : Quiet st (radServerReqExit st) := by
  unfold radServerReqExit
  split
  · exact ⟨⟨rfl, rfl, rfl, rfl⟩, rfl⟩
  · exact .touch st _ _ _ _ _

theorem sendFailed_sends (st : State) : Sends st (sendFailed st) := by
  unfold sendFailed
  split
  · exact ⟨⟨rfl, rfl, rfl, rfl⟩, .inr ⟨rfl, rfl⟩⟩
  · exact ⟨⟨rfl, rfl, rfl, rfl⟩, .inl rfl⟩

theorem tryNextServer_sends (st : State) : Sends st (tryNextServer cf env st) := by
  unfold tryNextServer
  cases hr : radServerRealloc cf env st with
  | none => exact sendFailed_sends st
  | some st' =>
    have hq := radServerRealloc_quiet hr
    exact ⟨hq.steady, .inl hq.reports⟩

theorem sendOrEnter_sends (st : State) : Sends st (sendOrEnter cf env st) := by
  unfold sendOrEnter
  split
  · cases hr : radReqSendNow cf env st with
    | none => exact sendFailed_sends st
    | some st' => exact (radReqSendNow_quiet hr .ready).sends
  · exact (Quiet.touch st _ _ _ _ .entering).sends

theorem enterTurn_sends (st : State) : Sends st (enterTurn cf env st) := by
  unfold enterTurn
  simp only
  split
  · exact tryNextServer_sends st
  · split
    · cases hr : radReqSendNow cf env st with
      | none => exact tryNextServer_sends st
      | some st' => exact (radReqSendNow_quiet hr .ready).sends
    · split
      · exact tryNextServer_sends st
      · split
        · exact (Quiet.touch st _ _ true _ .ready).sends
        · have hin := fun sv => Quiet.touch st st.req.tries true st.req.queued sv st.phase
          split
          · next hr => exact (hin _).trans_sends (radReqSendNow_quiet hr .ready).sends
          · exact (hin _).trans_sends
              ((radServerReqExit_quiet _).trans_sends (tryNextServer_sends _))

theorem radReqSend_sends (st : State) : Sends st (radReqSend cf env st) := by
  unfold radReqSend
  split
  · refine (radServerReqExit_quiet st).trans_sends ?_
    cases hr : radServerRealloc cf env (radServerReqExit st) with
    | none => exact sendFailed_sends _
    | some st' =>
      refine (radServerRealloc_quiet hr).trans_sends ?_
      exact (Quiet.touch st' 1 _ _ _ _).trans_sends (sendOrEnter_sends _)
  · exact (Quiet.touch st _ _ _ _ _).trans_sends (sendOrEnter_sends _)

theorem reqWakeup_sends (st : State) : Sends st (reqWakeup cf env st) := by
  have hw : Quiet st { st with req := { st.req with queued := false, active := true } } :=
    .touch st _ true false _ _
  unfold reqWakeup
  simp only
  split
  · exact hw.trans_sends ((radServerReqExit_quiet _).trans_sends (radReqSend_sends _))
  · cases hr : radReqSendNow cf env { st with
      req := { st.req with queued := false, active := true } } with
    | none => exact hw.sends
    | some st' => exact hw.trans_sends (radReqSendNow_quiet hr st'.phase).sends

/-! ## Reading -/

theorem radReqRead_some {id : UInt8} {arrivals : List Arrival} {reply : RadPacket}
    (h : radReqRead dict id arrivals = some reply) :
    reply.id = id ∧ ∃ a ∈ arrivals, a.packet dict = some reply := by
  induction arrivals with
  | nil => cases h
  | cons a as ih => grind [radReqRead]

theorem radAuthRecv_success {hook : RecvHook} {pack reply : RadPacket}
    (h : radAuthRecv dict hook pack = .success reply) :
    reply = pack ∧ reply.code = 2 ∧ hook.accepts dict reply.attrs = true := by
  grind [radAuthRecv]

theorem readReply_auth (cf : Conf) (ht : st.req.type = .auth) (kept : Bool)
    (arrivals : List Arrival) :
    readReply cf kept arrivals st = st ∨
      ∃ reply, radReqRead cf.dict st.req.id arrivals = some reply ∧
        (readReply cf kept arrivals st).phase = .over ∧
        (readReply cf kept arrivals st).reports =
          st.reports ++ [radAuthRecv cf.dict st.req.hook reply] := by
  have hleave : Quiet st (leaveServer st) := by
    unfold leaveServer
    split
    · exact radServerReqExit_quiet st
    · exact .touch st _ _ false _ _
  grind [readReply, hleave.steady.type, hleave.reports, hleave.steady.hook]

/-- **A step of an Access-Request** sends, or reports the verdict on a reply. -/
theorem step_auth {e : Event} (ht : st.req.type = .auth) (hbs : st.req.beforeSend = false)
    (h : step cf st e = some st') :
    Sends st st' ∨ ∃ kept arrivals reply, e = .readable kept arrivals ∧
      radReqRead cf.dict st.req.id arrivals = some reply ∧ st'.phase = .over ∧
      st'.reports = st.reports ++ [radAuthRecv cf.dict st.req.hook reply] := by
  have hguard : ∀ {P : Prop} [Decidable P] {x : State}, Sends st x →
      (if P then some x else none) = some st' → Sends st st' := by
    grind
  have hacct : ∀ {P : Prop} [Decidable P] {x : State}, (P → st.req.type = .acct) →
      (if P then some x else none) = some st' → Sends st st' := by
    intro P _ x hP hif
    split at hif
    · rename_i hp
      exact absurd (ht.symm.trans (hP hp)) (by decide)
    · cases hif
  unfold step at h
  split at h
  · cases h
  · cases h; exact .inl (Quiet.touch st _ _ _ _ _).sends
  · cases h; exact .inl (enterTurn_sends st)
  · cases h
  · exact .inl (hguard (radReqSend_sends st) h)
  · cases h
  · exact .inl (hguard (reqWakeup_sends st) h)
  · exact .inl (hguard ((Quiet.touch st _ _ false _ _).trans_sends (radReqSend_sends _)) h)
  · cases h
    unfold radTimeout
    rw [hbs]
    exact .inl (radReqSend_sends st)
  · exact .inl (hacct (fun h => h) h)
  · exact .inl (hacct (fun h => h) h)
  · exact .inl (hacct (fun h => h) h)
  · exact .inl (hacct (fun h => h.1) h)
  · exact .inl (hacct (fun h => h) h)
  · exact .inl (hacct (fun h => h) h)
  · rename_i kept arrivals _
    split at h
    · cases h
    · cases h
      rcases readReply_auth cf ht kept arrivals with heq | ⟨reply, hr, hover, hrep⟩
      · rw [heq]
        exact .inl ⟨⟨rfl, rfl, rfl, rfl⟩, .inl rfl⟩
      simp_all

theorem run_over {es : List Event} {t : State} (hover : st.phase = .over)
    (h : Machine.run (step cf) st es = some t) : t = st := by
  cases es with
  | nil => cases h; rfl
  | cons e es =>
    obtain ⟨st', hs, -⟩ := Machine.run_cons.1 h
    simp_all [step]

/-- **Run**: the only report that is not a denial is the verdict on a reply that was read. -/
theorem run_auth {es : List Event} {t : State} (ht : st.req.type = .auth)
    (hbs : st.req.beforeSend = false) (hrep : st.reports = [])
    (h : Machine.run (step cf) st es = some t) :
    t.reports = [] ∨ t.reports = [.denied] ∨ ∃ kept arrivals reply,
      Event.readable kept arrivals ∈ es ∧
      radReqRead cf.dict st.req.id arrivals = some reply ∧
      t.reports = [radAuthRecv cf.dict st.req.hook reply] := by
  induction es generalizing st with
  | nil => cases h; exact .inl hrep
  | cons e es ih =>
    obtain ⟨st1, hs, hrest⟩ := Machine.run_cons.1 h
    rcases step_auth ht hbs hs with hsend | ⟨kept, arrivals, reply, rfl, hr, hover, hrep1⟩
    · obtain ⟨htype, hhook, hid, hbs1⟩ := hsend.steady
      rcases hsend.reports with hsame | ⟨hover, hden⟩
      · grind
      grind [run_over]
    grind [run_over]

/-! ## The authenticator is not compared -/

/-- The datagrams differ in their authenticator only. -/
structure Arrival.SameButAuthenticator (a a' : Arrival) : Prop where
  size : a'.datagram.length = a.datagram.length
  head : a'.datagram.take 4 = a.datagram.take 4
  body : a'.datagram.drop 20 = a.datagram.drop 20
  guess : a'.guess = a.guess

theorem getD_eq_of_take {d d' : List UInt8} (h : d'.take 4 = d.take 4) {i : Nat} (hi : i < 4) :
    d'.getD i 0 = d.getD i 0 := by
  rw [List.getD_eq_getElem?_getD, List.getD_eq_getElem?_getD, ← List.getElem?_take_of_lt hi, h,
    List.getElem?_take_of_lt hi]

theorem Arrival.SameButAuthenticator.packet {a a' : Arrival} (h : a.SameButAuthenticator a') :
    a'.packet dict = (a.packet dict).map fun p => { p with buf := a'.datagram } := by
  have hfield : lengthField a'.datagram = lengthField a.datagram := by
    rw [← lengthField_take (Nat.le_refl 4), h.head, lengthField_take (Nat.le_refl 4)]
  have h0 := getD_eq_of_take h.head (show 0 < 4 by decide)
  have h1 := getD_eq_of_take h.head (show 1 < 4 by decide)
  unfold Arrival.packet radPacketRecv
  rw [h.size, hfield, h.body, h0, h1, h.guess]
  by_cases hs : a.datagram.length < 20
  · rw [if_pos hs, if_pos hs]
    rfl
  rw [if_neg hs, if_neg hs]
  by_cases hl : a.datagram.length < lengthField a.datagram
  · rw [if_pos hl, if_pos hl]
    rfl
  rw [if_neg hl, if_neg hl]
  cases Records.decode (decodeAttr dict) (a.datagram.drop 20) with
  | ok attrs => rfl
  | error f =>
    cases f with
    | rejected => rfl
    | indeterminate => cases a.guess <;> rfl

def Report.isSuccess : Report → Bool
  | .success _ => true
  | .denied => false

theorem radReqRead_blind (dict : Dict) (id : UInt8) {as as' : List Arrival}
    (h : List.Forall₂ Arrival.SameButAuthenticator as as') :
    (radReqRead dict id as').map (fun p => (p.code, p.attrs)) =
      (radReqRead dict id as).map fun p => (p.code, p.attrs) := by
  induction h with
  | nil => rfl
  | @cons a a' as as' ha _ ih => grind [radReqRead, ha.packet]

theorem radAuthRecv_isSuccess (dict : Dict) (hook : RecvHook) (p : RadPacket) :
    (radAuthRecv dict hook p).isSuccess = (p.code == 2 && hook.accepts dict p.attrs) := by
  unfold radAuthRecv
  by_cases hc : p.code = 2
  · rw [hc]
    cases hook.accepts dict p.attrs <;> rfl
  · rw [if_neg hc, beq_eq_false_iff_ne.2 hc]
    rfl

theorem readReply_blind {as as' : List Arrival} (kept : Bool)
    (h : List.Forall₂ Arrival.SameButAuthenticator as as') :
    (readReply cf kept as' st).reports.map Report.isSuccess =
      (readReply cf kept as st).reports.map Report.isSuccess := by
  have hread := radReqRead_blind cf.dict st.req.id h
  grind [readReply, radAuthRecv_isSuccess]

theorem Created.auth (hc : Created cf st) (ht : st.req.type = .auth) :
    st.req.beforeSend = false ∧ st.reports = [] := by
  cases hc with
  | pap _ h =>
    unfold radAuthPap radReqAlloc at h
    obtain ⟨st0, h0, rfl⟩ := Option.map_eq_some_iff.1 h
    simp_all
  | other _ h =>
    unfold radAuthOther radReqAlloc at h
    obtain ⟨st0, h0, rfl⟩ := Option.map_eq_some_iff.1 h
    simp_all
  | @acct _ delayTime _ _ _ _ h =>
    obtain ⟨st1, h1, rfl⟩ := Option.map_eq_some_iff.1 h
    obtain ⟨st0, h0, rfl⟩ := Option.map_eq_some_iff.1 h1
    obtain ⟨s, -, rfl⟩ := Option.map_eq_some_iff.1 h0
    cases delayTime <;> cases ht
  | acctOn => cases ht

/-- **Success** is reported only for a datagram read from the socket that decodes to an
Access-Accept with the request's identifier and passes the method's callback; the authenticators
have no influence. -/
theorem success_reply (cf : Conf) (st t : State) (es : List Event) (hc : Created cf st)
    (ht : st.req.type = .auth) (hr : Machine.run (step cf) st es = some t) :
    (∀ reply, Report.success reply ∈ t.reports →
      t.reports = [.success reply] ∧ reply.id = st.req.id ∧ reply.code = 2 ∧
        st.req.hook.accepts cf.dict reply.attrs = true ∧
        ∃ kept arrivals a, Event.readable kept arrivals ∈ es ∧ a ∈ arrivals ∧
          a.packet cf.dict = some reply) ∧
      ∀ u kept as as', List.Forall₂ Arrival.SameButAuthenticator as as' →
        (readReply cf kept as' u).reports.map Report.isSuccess =
          (readReply cf kept as u).reports.map Report.isSuccess := by
  obtain ⟨hbs, hrep⟩ := hc.auth ht
  refine ⟨fun reply hmem => ?_, fun u kept as as' h => readReply_blind kept h⟩
  grind [run_auth, radAuthRecv_success, radReqRead_some]

/-! ## Runs -/

/-- The Response Authenticator: the digest of the reply with the authenticator of the request. -/
def ResponseOk (cf : Conf) (secret ra d : List UInt8) : Prop :=
  (d.drop 4).take 16 = cf.md5 (d.take 4 ++ ra ++ d.drop 20 ++ secret)
deriving Decidable

def sampleAccept : List UInt8 := [2, 1, 0, 20] ++ List.replicate 16 9

def sampleAuth : Option State :=
  radAuthOther oneSecret sampleServers .none [] (List.replicate 16 0) 0

theorem sampleAuth_created (st : State) (h : sampleAuth = some st) : Created oneSecret st :=
  .other List.length_replicate h

def sampleLogin : List Event :=
  [.send sampleEnv, .enter sampleEnv, .readable false [⟨sampleAccept, none⟩]]

/-- The reply that lets the user in has the identifier of the request. -/
theorem success_reply_login :
    ∃ st t reply, Created oneSecret st ∧ st.req.type = .auth ∧
      Machine.run (step oneSecret) st sampleLogin = some t ∧ .success reply ∈ t.reports ∧
      reply.id = st.req.id := by
  obtain ⟨st, hst, t, hr, ht, hmem⟩ : ∃ st ∈ sampleAuth, ∃ t,
      Machine.run (step oneSecret) st sampleLogin = some t ∧ st.req.type = .auth ∧
      .success ⟨2, 1, 20, [], sampleAccept⟩ ∈ t.reports := by decide +kernel
  have hc := sampleAuth_created st hst
  exact ⟨st, t, _, hc, ht, hr, hmem,
    ((success_reply oneSecret st t sampleLogin hc ht hr).1 _ hmem).2.1⟩

/-- **A forged Access-Accept lets the user in**: its authenticator is not the digest. -/
theorem forged_accept :
    ∃ st t, Created oneSecret st ∧ st.req.type = .auth ∧
      Machine.run (step oneSecret) st sampleLogin = some t ∧
      t.reports = [.success ⟨2, 1, 20, [], sampleAccept⟩] ∧
      ¬ ResponseOk oneSecret (oneSecret.server st.req.serv).secret st.req.ra sampleAccept := by
  obtain ⟨st, hst, t, hr, ht, h⟩ : ∃ st ∈ sampleAuth, ∃ t,
      Machine.run (step oneSecret) st sampleLogin = some t ∧ st.req.type = .auth ∧
      t.reports = [.success ⟨2, 1, 20, [], sampleAccept⟩] ∧
      ¬ ResponseOk oneSecret (oneSecret.server st.req.serv).secret st.req.ra sampleAccept := by
    decide +kernel
  exact ⟨st, t, sampleAuth_created st hst, ht, hr, h⟩

end Radius
