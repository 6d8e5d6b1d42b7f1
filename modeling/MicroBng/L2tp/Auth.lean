import MicroBng.L2tp.Moves

/-!
# Authentication of the L2TP peer before any session

A tunnel with a secret should allocate a session, or start a data channel, only after it has drawn a
challenge and the peer's response has verified (`AuthFirst`). The guards of the call requests test
`state != STATE_ESTB && lns_mode` (ICRQ) and `state != STATE_ESTB && !lns_mode` (OCRQ), so the
request of the other role passes on a tunnel that is not established.

* `authInv_move`: no other move breaks the property
* `no_session_before_auth`: every run without such a request has it
-/

namespace L2tp

open StateProg Relation

variable {L : Lax} {cf : Conf}

def Event.needsAuth : Event → Prop
  | .sessAlloc _ | .dataStart _ => True
  | _ => False

/-- A response to a challenge that this side drew was verified. -/
def VerifiedOwn (past : List Event) : Prop :=
  ∃ ch newer older, past = newer ++ .verified ch :: older ∧ .challenge ch ∈ older

/-- The tunnel was established by an authenticated peer. -/
def Authenticated (past : List Event) : Prop := .estb ∈ past ∧ VerifiedOwn past

def AuthFirst (log : List Event) : Prop :=
  ∀ newer e older, log = newer ++ e :: older → e.needsAuth → Authenticated older

variable {log : List Event} {k : Ctl}

theorem VerifiedOwn.cons (h : VerifiedOwn log) (e : Event) : VerifiedOwn (e :: log) :=
  let ⟨ch, newer, older, heq, hch⟩ := h
  ⟨ch, e :: newer, older, by rw [heq, List.cons_append], hch⟩

theorem Authenticated.cons (h : Authenticated log) (e : Event) : Authenticated (e :: log) :=
  ⟨List.mem_cons_of_mem e h.1, h.2.cons e⟩

theorem AuthFirst.cons (h : AuthFirst log) {e : Event}
    (he : e.needsAuth → Authenticated log) : AuthFirst (e :: log) := by
  intro newer e' older heq hneeds
  cases newer with
  | nil => simp_all
  | cons d newer => exact h newer e' older (List.cons.inj heq).2 hneeds

/-- Nothing that needs authentication is possible yet: no session, and the challenge waited on is
this side's. -/
structure Closed (k : Ctl) : Prop where
  sessions : k.sessions = []
  state : k.state ≠ .estb
  challenge : k.state.waiting → ∀ ch, k.challenge = some ch →
    .challenge ch ∈ k.log ∨ ∃ own, .verified own ∈ k.log

structure AuthInv (k : Ctl) : Prop where
  secret : k.secret ≠ []
  first : AuthFirst k.log
  own : (∃ ch, .verified ch ∈ k.log) → VerifiedOwn k.log
  gate : Authenticated k.log ∨ Closed k

theorem AuthInv.record (h : AuthInv k) {e : Event} (hneeds : ¬ e.needsAuth)
    (hver : ∀ ch, e ≠ .verified ch) : AuthInv { k with log := e :: k.log } := by
  refine ⟨h.secret, h.first.cons fun hn => absurd hn hneeds, ?_, ?_⟩
  · rintro ⟨ch, hch⟩
    rcases List.mem_cons.1 hch with he | hch
    · exact absurd he.symm (hver ch)
    · exact (h.own ⟨ch, hch⟩).cons e
  · refine h.gate.imp (·.cons e) fun hc => ⟨hc.sessions, hc.state, fun hw ch hch => ?_⟩
    grind [hc.challenge]

theorem AuthInv.setChallenge (h : AuthInv k) {ch : Option Octets}
    (hch : ∀ x, ch = some x → .challenge x ∈ k.log ∨ ∃ own, .verified own ∈ k.log) :
    AuthInv { k with challenge := ch } :=
  { h with gate := h.gate.imp_right fun hc => { hc with challenge := fun _ => hch } }

theorem AuthInv.verify (h : AuthInv k) {ch : Octets} (hwait : k.state.waiting)
    (hch : k.challenge = some ch) : AuthInv { k with log := .verified ch :: k.log } := by
  have hown : VerifiedOwn (.verified ch :: k.log) := by
    rcases h.gate with ha | hc
    · exact ha.2.cons _
    · rcases hc.challenge hwait ch hch with hmem | hver
      · exact ⟨ch, [], k.log, rfl, hmem⟩
      · exact (h.own hver).cons _
  refine ⟨h.secret, h.first.cons False.elim, fun _ => hown, ?_⟩
  refine h.gate.imp (·.cons _) fun hc => ⟨hc.sessions, hc.state, fun _ _ _ => ?_⟩
  exact .inr ⟨ch, List.mem_cons_self ..⟩

/-- **Every move keeps the authentication invariant**, if sessions are only allocated on an
established tunnel. -/
theorem authInv_move (hL : ¬ L.early) (c d : Conn) (h : AuthInv c.ctl) (hmove : Move L c d) :
    AuthInv d.ctl := by
  cases hmove with
  | misc | queue | send | window => exact h
  | clearChallenge => exact h.setChallenge nofun
  | ownChallenge ch =>
    refine (h.record (e := .challenge ch) id nofun).setChallenge fun x hx => ?_
    cases hx
    exact .inl (List.mem_cons_self ..)
  | peerChallenge ch hver => exact h.setChallenge fun _ _ => .inr hver
  | verify ch hwait hch => exact h.verify hwait hch
  | wait st hst _ hown =>
    refine { h with gate := h.gate.imp_right fun hc => ⟨hc.sessions, ?_, fun _ x hx => ?_⟩ }
    · rintro rfl
      exact hst
    grind [h.secret]
  | established hwait hver =>
    have hr := h.record (e := .estb) id nofun
    have hown := h.own (hver.resolve_left h.secret)
    exact { hr with gate := .inl ⟨List.mem_cons_self .., hown.cons _⟩ }
  | closing st hst _ =>
    refine { h with gate := h.gate.imp_right fun hc => ⟨hc.sessions, ?_, fun hw => ?_⟩ }
    · rintro rfl
      rcases hst with h | h <;> cases h
    · rcases hst with rfl | rfl <;> cases hw
  | free => exact { h with gate := h.gate.imp_right fun _ => ⟨rfl, nofun, nofun⟩ }
  | alloc sess hestb =>
    have hauth : Authenticated c.ctl.log :=
      h.gate.resolve_right fun hc => hc.state (hestb.resolve_right hL)
    refine ⟨h.secret, h.first.cons fun _ => hauth, fun _ => hauth.2.cons _, .inl (hauth.cons _)⟩
  | session f | remove f q =>
    refine { h with gate := h.gate.imp_right fun hc => { hc with sessions := ?_ } }
    simp [hc.sessions]
  | dataStart sid hsess =>
    have hauth : Authenticated c.ctl.log := h.gate.resolve_right fun hc => hsess hc.sessions
    refine ⟨h.secret, h.first.cons fun _ => hauth, fun _ => hauth.2.cons _, .inl (hauth.cons _)⟩

/-! ## Runs -/

/-- The message handled next is not a call request that the tunnel's role should refuse. -/
def RoleGuard (s : State) : Ev → Prop
  | .pass => ∀ p ∈ s.next, RoleOk s.conn p
  | _ => True

instance (s : State) (e : Ev) : Decidable (RoleGuard s e) := by
  unfold RoleGuard RoleOk
  split <;> infer_instance

structure AuthState (s : State) : Prop where
  live : ReadingLive s
  auth : AuthInv s.conn.ctl

theorem authState_step (s : State) (e : Ev) (s' : State) (h : AuthState s) (hok : RoleGuard s e)
    (hstep : step cf s e = some s') : AuthState s' := by
  have hstepOk : StepOk ⟨False, True⟩ s := by
    intro p hp
    refine ⟨.inl ?_, .inr trivial⟩
    obtain rfl := pass_of_next hp hstep
    exact hok p hp
  have hL : ¬ (⟨False, True⟩ : Lax).early := id
  have hs : Step cf ⟨False, True⟩ s e s' := step_sound h.live hstepOk hstep
  have hauth := h.auth
  have hpath : ∀ {c d : Conn}, ReflTransGen (Move ⟨False, True⟩) c d → AuthInv c.ctl →
      AuthInv d.ctl := fun hm hc => path_keeps (I := fun c => AuthInv c.ctl) (authInv_move hL) hm hc
  refine ⟨hs.readingLive h.live, ?_⟩
  cases hs with
  | handler _ hmoves | abort hmoves _ => exact hpath hmoves hauth
  | readable | discard | clean => exact hauth
  | store m => grind [storeMsg_ctl]
  | take _ _ hmoves => exact hpath hmoves hauth
  | takeLast _ _ hmoves _ hleft =>
    obtain ⟨hleft⟩ := hleft
    grind
  | leave _ hleft =>
    obtain ⟨hleft⟩ := hleft
    exact hpath hleft hauth

/-! ## Main result -/

theorem Created.fresh {c : Conn} (h : Created cf c) :
    c.ctl.state = .init ∧ c.ctl.sessions = [] ∧ c.ctl.log = [] := by
  cases h with
  | cli a lns secret => exact ⟨rfl, rfl, rfl⟩
  | peer h =>
    obtain ⟨_, _, _, _, _, _, rfl⟩ := recvSCCRQ_some h
    exact ⟨rfl, rfl, rfl⟩

theorem Created.authState {c : Conn} (h : Created cf c) (hsecret : c.ctl.secret ≠ []) :
    AuthState ⟨c, .idle⟩ := by
  obtain ⟨hst, hsess, hlog⟩ := h.fresh
  refine ⟨fun _ hph => (nomatch hph), hsecret, ?_, ?_, .inr ⟨hsess, ?_, ?_⟩⟩
  · intro newer e older heq
    simp_all
  · rintro ⟨ch, hch⟩
    rw [hlog] at hch
    cases hch
  · rw [hst]
    decide
  · rw [hst]
    exact False.elim

/-- **No session before authentication**: on a tunnel with a secret and no call request of the wrong
role before it is established, sessions and data channels come only after that and after a verified
response to a challenge of this side. -/
theorem no_session_before_auth (cf : Conf) (c : Conn) (hnew : Created cf c)
    (hsecret : c.ctl.secret ≠ []) (es : List Ev) (s : State)
    (hguard : Machine.Guarded (step cf) RoleGuard ⟨c, .idle⟩ es)
    (hrun : Machine.run (step cf) ⟨c, .idle⟩ es = some s) : AuthFirst s.conn.ctl.log :=
  (Machine.Guarded.invariant authState_step hguard (hnew.authState hsecret) hrun).auth.first

def sampleSCCRQ : Packet :=
  { attrs := [{ id := .messageType, val := MsgType.sccrq.code.toUInt32 },
      { id := .protocolVersion, val := 256 }, { id := .framingCapabilities, val := 3 },
      { id := .assignedTunnelId, val := 9 }] }

def sampleServer : Conn := (recvSCCRQ sampleConf sampleAlloc sampleSCCRQ).getD sampleTunnel

theorem sampleServer_created : Created sampleConf sampleServer :=
  .peer (show recvSCCRQ sampleConf sampleAlloc sampleSCCRQ = some sampleServer from rfl)

def handshakeThenCall : List Ev :=
  [.start, .readable,
   .recv (.pack (sampleMsg .scccn 1 1 [{ id := .challengeResponse, octets := List.replicate 16 0 }])),
   .recv (.pack (sampleMsg .icrq 2 1 [{ id := .assignedSessionId, val := 5 }])),
   .recv .done, .pass, .pass, .pass]

theorem no_session_before_auth_handshake :
    ∃ s, Machine.run (step sampleConf) ⟨sampleServer, .idle⟩ handshakeThenCall = some s ∧
      s.conn.ctl.sessions.length = 1 ∧ AuthFirst s.conn.ctl.log := by
  obtain ⟨s, hs, hlen⟩ : ∃ s, Machine.run (step sampleConf) ⟨sampleServer, .idle⟩
      handshakeThenCall = some s ∧ s.conn.ctl.sessions.length = 1 := by decide +kernel
  exact ⟨s, hs, hlen, no_session_before_auth sampleConf sampleServer
    sampleServer_created (by decide) handshakeThenCall s (by decide +kernel) hs⟩

def earlyCall : List Ev :=
  [.start, .readable, .recv (.pack (sampleMsg .ocrq 1 1 [{ id := .assignedSessionId, val := 5 }])),
   .recv .done, .pass, .pass]

/-- Before its SCCRP is answered, an OCRQ allocates a session and starts its data channel. -/
theorem early_session :
    Created sampleConf sampleServer ∧ sampleServer.ctl.secret ≠ [] ∧
    ∃ s, Machine.run (step sampleConf) ⟨sampleServer, .idle⟩ earlyCall = some s ∧
      s.conn.ctl.state = .waitScccn ∧ .sessAlloc 1 ∈ s.conn.ctl.log ∧
      .dataStart 1 ∈ s.conn.ctl.log ∧ .estb ∉ s.conn.ctl.log ∧ ¬ AuthFirst s.conn.ctl.log := by
  refine ⟨sampleServer_created, by decide, ?_⟩
  obtain ⟨s, hs, hst, halloc, hdata, hestb⟩ :
      ∃ s, Machine.run (step sampleConf) ⟨sampleServer, .idle⟩ earlyCall = some s ∧
        s.conn.ctl.state = .waitScccn ∧ .sessAlloc 1 ∈ s.conn.ctl.log ∧
        .dataStart 1 ∈ s.conn.ctl.log ∧ .estb ∉ s.conn.ctl.log := by decide +kernel
  refine ⟨s, hs, hst, halloc, hdata, hestb, fun hfirst => ?_⟩
  obtain ⟨newer, older, heq⟩ := List.append_of_mem hdata
  refine hestb ?_
  rw [heq]
  exact List.mem_append_right _ (List.mem_cons_of_mem _ (hfirst newer _ older heq trivial).1)

end L2tp
