import MicroBng.Radius.Request

/-!
# Requests that move to another server

Every datagram of a request should go to the server the request is at, with an authenticator or
a hidden password made with that server's secret. `ReqOk` is the invariant that gives it:
address and port are the server's, the socket is connected to it, and what the buffer holds was
made with its secret.

`rad_server_realloc` breaks it in two ways. It does not copy the IPv6 address, which
`__rad_req_alloc` does, and it leaves the packet in the buffer. `FailoverOk` is the condition
under which neither shows, and it is a condition on the servers the request may move to. A server
of `add_server_old` is never reached: `make_socket` takes it for an IPv6 server at `::`.

* `failover_sent_ok`: every datagram goes to the request's server, made with its secret
-/

namespace Radius

variable {cf : Conf} {st : State} {r : Req}

/-! ## What is required of a datagram -/

/-- The Request Authenticator of an accounting request has this secret. -/
def AuthenticatorOk (cf : Conf) (secret bytes : List UInt8) : Prop :=
  (bytes.drop 4).take 16 =
    cf.md5 (bytes.take 4 ++ List.replicate 16 0 ++ bytes.drop 20 ++ secret)
deriving Decidable

/-- The packet is an Access-Request that ends with the password, hidden with this secret and the
packet's own authenticator. -/
def PasswordOk (cf : Conf) (secret passwd bytes : List UInt8) : Prop :=
  ∃ id pre ra, ra.length = 16 ∧
    bytes = radPacketBuild 1 id (pre ++ [userPassword (encryptPassword cf.md5 passwd secret ra)]) ra

/-- What goes into the buffer depends on the secret in this way. -/
def BytesOk (cf : Conf) (r : Req) (secret bytes : List UInt8) : Prop :=
  match r.type with
  | .acct => AuthenticatorOk cf secret bytes
  | .auth => ∀ passwd, r.passwd = some passwd → PasswordOk cf secret passwd bytes

/-- The datagram went to the server the request was at, and was made with its secret. -/
def SentOk (cf : Conf) (r : Req) (e : Sent) : Prop :=
  e.dest = (cf.server e.serv).dest r.type ∧ BytesOk cf r (cf.server e.serv).secret e.bytes

/-! ## Invariant -/

/-- A socket made for the request at such a server is connected to it: an IPv4 server, or the IPv6
server whose address is in the request. -/
def Reaches (r : Req) (a : ServerAddr) : Prop := a.ipv4 = true ∨ a = .v6 r.serverIpv6Addr
deriving Decidable

/-- The request is addressed to the server it is at. -/
structure Placed (cf : Conf) (r : Req) : Prop where
  addr : r.serverAddr = (cf.server r.serv).place.addr
  port : r.serverPort = (cf.server r.serv).port r.type
  addr6 : Reaches r (cf.server r.serv).place
  socket : ∀ d, r.fd = some d → d = (cf.server r.serv).dest r.type

/-- The request is made up for the server it is at. -/
structure ReqOk (cf : Conf) (r : Req) : Prop extends Placed cf r where
  buffer : r.beforeSend = false → ∀ b, r.buf = some b → BytesOk cf r (cf.server r.serv).secret b
  auth : r.type = .auth → r.beforeSend = false ∧ r.ra.length = 16 ∧
    ∀ p, r.passwd = some p → ∃ pre, r.attrs = pre ++
      [userPassword (encryptPassword cf.md5 p (cf.server r.serv).secret r.ra)]
  acct : r.type = .acct → r.ra = List.replicate 16 0 ∧ (r.beforeSend = false → r.buf ≠ none)

theorem ReqOk.touch (h : ReqOk cf r) (id : UInt8) (tries : Nat) (active queued : Bool) :
    ReqOk cf { r with id := id, tries := tries, active := active, queued := queued } :=
  ⟨⟨h.addr, h.port, h.addr6, h.socket⟩, h.buffer, h.auth, h.acct⟩

theorem ReqOk.close (h : ReqOk cf r) : ReqOk cf { r with fd := none } :=
  ⟨⟨h.addr, h.port, h.addr6, fun _ hd => (nomatch hd)⟩, h.buffer, h.auth, h.acct⟩

/-! ## Building packets -/

theorem radPacketBuild_split (code id : UInt8) (attrs : List OutAttr) {ra : List UInt8}
    (hra : ra.length = 16) :
    radPacketBuild code id attrs ra = (radPacketBuild code id attrs ra).take 4 ++ ra ++
      (radPacketBuild code id attrs ra).drop 20 := by
  obtain ⟨hdr, body, hlen, heq⟩ : ∃ hdr body : List UInt8, hdr.length = 4 ∧
      radPacketBuild code id attrs ra = hdr ++ ra ++ body := ⟨_, _, rfl, rfl⟩
  grind [List.drop_left']

theorem radPacketBuild_length (code id : UInt8) (attrs : List OutAttr) {ra : List UInt8}
    (hra : ra.length = 16) : 20 ≤ (radPacketBuild code id attrs ra).length := by
  show 20 ≤ ([code, id] ++ beBytes 2 _ ++ ra ++ attrs.flatMap OutAttr.encode).length
  simp_all [beBytes]

theorem reqSetRA_authenticatorOk (cf : Conf) (r : Req) (secret : List UInt8)
    (hra : r.ra = List.replicate 16 0) :
    AuthenticatorOk cf secret (reqSetRA cf secret r).bytes := by
  have hlen : r.ra.length = 16 := by rw [hra, List.length_replicate]
  have hsplit : r.build = r.build.take 4 ++ r.ra ++ r.build.drop 20 :=
    radPacketBuild_split _ _ _ hlen
  have hbuild : 20 ≤ r.build.length := radPacketBuild_length _ _ _ hlen
  have hmd5 := cf.md5_length (r.build ++ secret)
  show AuthenticatorOk cf secret (r.build.take 4 ++ cf.md5 (r.build ++ secret) ++ r.build.drop 20)
  grind [AuthenticatorOk]

theorem makeSocket_eq (h : Placed cf r) : makeSocket cf r = (cf.server r.serv).dest r.type := by
  have hreach := h.addr6
  unfold makeSocket ServerConf.dest
  rw [h.addr, h.port]
  cases hp : (cf.server r.serv).place with
  | v4 a => rfl
  | v6 a =>
    rw [hp] at hreach
    obtain rfl : a = r.serverIpv6Addr := by simpa [Reaches, ServerAddr.ipv4] using hreach
    rfl
  | old a =>
    rw [hp] at hreach
    exact hreach.elim nofun nofun

/-! ## Sending -/

theorem Placed.peer_eq (h : Placed cf r) : r.peer cf = (cf.server r.serv).dest r.type := by
  unfold Req.peer
  cases hfd : r.fd with
  | none => exact makeSocket_eq h
  | some d => exact h.socket d hfd

theorem ReqOk.acct_of_beforeSend (h : ReqOk cf r) (hbs : r.beforeSend = true) : r.type = .acct := by
  cases ht : r.type with
  | acct => rfl
  | auth => exact absurd (h.auth ht).1 (by rw [hbs]; decide)

theorem ReqOk.build_ok (h : ReqOk cf r) (hbs : r.beforeSend = false) (hbuf : r.buf = none) :
    BytesOk cf r (cf.server r.serv).secret r.build := by
  unfold BytesOk
  split
  · rename_i ht
    exact absurd hbuf ((h.acct ht).2 hbs)
  · rename_i ht
    intro p hp
    obtain ⟨-, hra, hpw⟩ := h.auth ht
    obtain ⟨pre, hattrs⟩ := hpw p hp
    refine ⟨r.id, pre, r.ra, hra, ?_⟩
    unfold Req.build Req.code
    rw [ht, hattrs]

theorem ReqOk.refreshed (h : ReqOk cf r) (delay : Nat) :
    BytesOk cf r (cf.server r.serv).secret (r.refreshed cf delay).bytes ∧
      ReqOk cf { r.refreshed cf delay with
        fd := some (r.peer cf), buf := some (r.refreshed cf delay).bytes } := by
  have hpeer := h.peer_eq
  unfold Req.refreshed
  cases hbs : r.beforeSend with
  | true =>
    have ht := h.acct_of_beforeSend hbs
    have hbytes : AuthenticatorOk cf (cf.server r.serv).secret (radAcctBeforeSend cf delay r).bytes :=
      reqSetRA_authenticatorOk cf _ _ (h.acct ht).1
    refine ⟨?_, ⟨h.addr, h.port, h.addr6, fun d hd => Option.some.inj hd ▸ hpeer⟩, ?_, ?_, ?_⟩
    · unfold BytesOk
      rw [ht]
      exact hbytes
    · exact fun hbs' => absurd (hbs.symm.trans hbs') (by decide)
    · exact fun ht' => absurd (ht.symm.trans ht') (by decide)
    · exact fun _ => ⟨(h.acct ht).1, fun _ => Option.some_ne_none _⟩
  | false =>
    have hbytes : BytesOk cf r (cf.server r.serv).secret r.bytes := by
      unfold Req.bytes
      cases hbuf : r.buf with
      | none => exact h.build_ok hbs hbuf
      | some b => exact h.buffer hbs b hbuf
    refine ⟨hbytes, ⟨h.addr, h.port, h.addr6, fun d hd => Option.some.inj hd ▸ hpeer⟩, ?_,
      h.auth, ?_⟩
    · exact fun _ b hb => Option.some.inj hb ▸ hbytes
    simp_all [h.acct]

/-! ## Choosing a server -/

/-- The servers `__rad_server_get` finds are listed, not excluded, with a port for the type. -/
def Eligible (cf : Conf) (sv : Servers) (type : ServType) (exclude : Option Nat) (s : Nat) : Prop :=
  s ∈ sv.list ∧ exclude ≠ some s ∧ (cf.server s).port type ≠ 0

theorem radServerGetTurn_eligible {sv : Servers} {type : ServType} {exclude : Option Nat}
    {addr : UInt32} {port now s : Nat} {found : Option Nat × Option Nat} (hs : s ∈ sv.list)
    (h1 : ∀ x, found.1 = some x → Eligible cf sv type exclude x)
    (h2 : ∀ x, found.2 = some x → Eligible cf sv type exclude x) :
    (∀ x, (radServerGetTurn cf sv type exclude addr port now found s).1 = some x →
        Eligible cf sv type exclude x) ∧
      ∀ x, (radServerGetTurn cf sv type exclude addr port now found s).2 = some x →
        Eligible cf sv type exclude x := by
  unfold radServerGetTurn
  by_cases hex : exclude = some s
  · rw [if_pos hex]
    exact ⟨h1, h2⟩
  rw [if_neg hex]
  by_cases hfail : (sv.load s).failTime ≠ 0 ∧ now < (sv.load s).failTime
  · rw [if_pos hfail]
    exact ⟨h1, h2⟩
  rw [if_neg hfail]
  by_cases hport : (cf.server s).port type = 0
  · rw [if_pos hport]
    exact ⟨h1, h2⟩
  grind [Eligible]

theorem radServerGet_eligible {sv : Servers} {type : ServType} {exclude : Option Nat}
    {addr : UInt32} {port now s : Nat}
    (h : radServerGet cf sv type exclude addr port now = some s) :
    Eligible cf sv type exclude s := by
  suffices ∀ (l : List Nat) (found : Option Nat × Option Nat), (∀ x ∈ l, x ∈ sv.list) →
      (∀ x, found.1 = some x → Eligible cf sv type exclude x) →
      (∀ x, found.2 = some x → Eligible cf sv type exclude x) →
      (∀ x, (l.foldl (radServerGetTurn cf sv type exclude addr port now) found).1 = some x →
          Eligible cf sv type exclude x) ∧
        ∀ x, (l.foldl (radServerGetTurn cf sv type exclude addr port now) found).2 = some x →
          Eligible cf sv type exclude x by
    obtain ⟨h1, h2⟩ := this sv.list (none, none) (fun _ hx => hx) (nofun)
      (nofun)
    rcases Option.or_eq_some_iff.1 h with hs | ⟨-, hs⟩
    · exact h2 s hs
    · exact h1 s hs
  intro l
  induction l with
  | nil => exact fun _ _ h1 h2 => ⟨h1, h2⟩
  | cons s l ih =>
    intro found hl h1 h2
    obtain ⟨h1', h2'⟩ := radServerGetTurn_eligible (hl s List.mem_cons_self) h1 h2
    exact ih _ (fun x hx => hl x (List.mem_cons_of_mem s hx)) h1' h2'

/-! ## Moving to another server -/

/-- The packet in the buffer, or its password, is bound to the server's secret: it is not made again
before it is sent. -/
def Req.bound (r : Req) : Bool :=
  !r.beforeSend && (match r.type with
    | .acct => true
    | .auth => r.passwd.any fun p => !p.isEmpty)

/-- The server is reached with the address the request was allocated with, and a bound packet was made
with the same secret. -/
def Movable (cf : Conf) (r : Req) (s : Nat) : Prop :=
  Reaches r (cf.server s).place ∧
    (r.bound = true → (cf.server s).secret = (cf.server r.serv).secret)
deriving Decidable

/-- The request can move to every other server of the list that has a port for it. -/
def AllMovable (cf : Conf) (st : State) : Prop :=
  ∀ s ∈ st.servers.list, s ≠ st.req.serv → (cf.server s).port st.req.type ≠ 0 →
    Movable cf st.req s
deriving Decidable

theorem Req.passwd_nil (hbound : ¬ r.bound = true) (hbs : r.beforeSend = false)
    (ht : r.type = .auth) {p : List UInt8} (hp : r.passwd = some p) : p = [] := by
  simp_all [Req.bound]

theorem ReqOk.bytes_any_secret (h : ReqOk cf r) {s : Nat} (hs : Movable cf r s)
    (hbs : r.beforeSend = false) {b : List UInt8} (hb : r.buf = some b) :
    BytesOk cf r (cf.server s).secret b := by
  have hold := h.buffer hbs b hb
  by_cases hbound : r.bound = true
  · rw [hs.2 hbound]
    exact hold
  · unfold BytesOk at hold ⊢
    cases ht : r.type with
    | acct => simp_all [Req.bound]
    | auth =>
      rw [ht] at hold
      intro p hp
      obtain rfl := Req.passwd_nil hbound hbs ht hp
      exact hold [] hp

theorem ReqOk.move (h : ReqOk cf r) {s : Nat} (hs : Movable cf r s) :
    ReqOk cf { r with
      serv := s, fd := none, serverAddr := (cf.server s).place.addr,
      serverPort := (cf.server s).port r.type } := by
  refine ⟨⟨rfl, rfl, hs.1, fun _ hd => (nomatch hd)⟩, ?_, ?_, h.acct⟩
  · exact fun hbs b hb => h.bytes_any_secret hs hbs hb
  · intro ht
    obtain ⟨hbs, hra, hpw⟩ := h.auth ht
    refine ⟨hbs, hra, fun p hp => ?_⟩
    obtain ⟨pre, hattrs⟩ := hpw p hp
    refine ⟨pre, ?_⟩
    by_cases hbound : r.bound = true
    · rw [hs.2 hbound]
      exact hattrs
    · obtain rfl := Req.passwd_nil hbound hbs ht hp
      exact hattrs

/-- The request and everything sent for it are in order. -/
structure Inv (cf : Conf) (st : State) : Prop where
  req : ReqOk cf st.req
  sent : ∀ e ∈ st.sent, SentOk cf st.req e

variable {env : Env} {st' : State}

theorem radReqSendNow_inv (h : Inv cf st) (hs : radReqSendNow cf env st = some st') :
    Inv cf st' := by
  unfold radReqSendNow at hs
  split at hs
  · cases hs
  · cases hs
    obtain ⟨hbytes, hreq⟩ := h.req.refreshed env.delay
    obtain ⟨hserv, htype, hpw⟩ : (st.req.refreshed cf env.delay).serv = st.req.serv ∧
        (st.req.refreshed cf env.delay).type = st.req.type ∧
        (st.req.refreshed cf env.delay).passwd = st.req.passwd := by
      unfold Req.refreshed
      split <;> exact ⟨rfl, rfl, rfl⟩
    have hsame : ∀ e, SentOk cf st.req e → SentOk cf { st.req.refreshed cf env.delay with
        fd := some (st.req.peer cf), buf := some (st.req.refreshed cf env.delay).bytes } e := by
      simp_all [SentOk, BytesOk]
    refine ⟨hreq, fun e he => ?_⟩
    split at he
    · rcases List.mem_append.1 he with he | he
      · exact hsame e (h.sent e he)
      · cases List.mem_singleton.1 he
        refine hsame _ ⟨?_, ?_⟩
        · rw [h.req.peer_eq, hserv]
        simp_all
    · exact hsame e (h.sent e he)

theorem radServerRealloc_inv (h : Inv cf st) (hm : AllMovable cf st)
    (hs : radServerRealloc cf env st = some st') : Inv cf st' := by
  obtain ⟨s, hget, rfl⟩ := Option.map_eq_some_iff.1 hs
  obtain ⟨hmem, hne, hport⟩ := radServerGet_eligible hget
  exact ⟨h.req.move (hm s hmem (fun heq => hne (congrArg some heq.symm)) hport), h.sent⟩

/-! ## Steps -/

theorem Inv.touch (h : Inv cf st) (id : UInt8) (tries : Nat) (active queued : Bool)
    (sv : Servers) (phase : Phase) (reports : List Report) :
    Inv cf { st with
      req := { st.req with id := id, tries := tries, active := active, queued := queued }
      servers := sv, phase := phase, reports := reports } :=
  ⟨h.req.touch id tries active queued, h.sent⟩

structure Safe (cf : Conf) (st : State) : Prop where
  inv : Inv cf st
  movable : AllMovable cf st

theorem radServerReqExit_inv (h : Inv cf st) : Inv cf (radServerReqExit st) := by
  grind [radServerReqExit, h.touch]

theorem radServerReqExit_safe (h : Safe cf st) : Safe cf (radServerReqExit st) := by
  refine ⟨radServerReqExit_inv h.inv, ?_⟩
  unfold radServerReqExit
  split
  · exact h.movable
  · exact h.movable

theorem sendFailed_inv (h : Inv cf st) : Inv cf (sendFailed st) := by
  unfold sendFailed
  split
  · exact ⟨h.req, h.sent⟩
  · exact ⟨h.req, h.sent⟩

theorem tryNextServer_inv (h : Safe cf st) : Inv cf (tryNextServer cf env st) := by
  unfold tryNextServer
  cases hr : radServerRealloc cf env st with
  | none => exact sendFailed_inv h.inv
  | some st' =>
    have := radServerRealloc_inv h.inv h.movable hr
    exact ⟨this.req, this.sent⟩

theorem sendOrEnter_inv (h : Inv cf st) : Inv cf (sendOrEnter cf env st) := by
  unfold sendOrEnter
  split
  · cases hr : radReqSendNow cf env st with
    | none => exact sendFailed_inv h
    | some st' =>
      have := radReqSendNow_inv h hr
      exact ⟨this.req, this.sent⟩
  · exact ⟨h.req, h.sent⟩

theorem enterTurn_inv (h : Safe cf st) : Inv cf (enterTurn cf env st) := by
  unfold enterTurn
  simp only
  split
  · exact tryNextServer_inv h
  · split
    · cases hr : radReqSendNow cf env st with
      | none => exact tryNextServer_inv h
      | some st' =>
        have := radReqSendNow_inv h.inv hr
        exact ⟨this.req, this.sent⟩
    · split
      · exact tryNextServer_inv h
      · split
        · exact h.inv.touch _ _ _ true _ _ _
        · have hin := fun sv =>
            h.inv.touch st.req.id st.req.tries true st.req.queued sv st.phase st.reports
          split
          · next hr =>
            have := radReqSendNow_inv (hin _) hr
            exact ⟨this.req, this.sent⟩
          · exact tryNextServer_inv (radServerReqExit_safe ⟨hin _, h.movable⟩)

theorem radReqSend_inv (h : Safe cf st) : Inv cf (radReqSend cf env st) := by
  unfold radReqSend
  split
  · have hexit := radServerReqExit_safe h
    cases hr : radServerRealloc cf env (radServerReqExit st) with
    | none => exact sendFailed_inv hexit.inv
    | some st' =>
      have := radServerRealloc_inv hexit.inv hexit.movable hr
      exact sendOrEnter_inv (this.touch _ 1 _ _ _ _ _)
  · exact sendOrEnter_inv (h.inv.touch _ _ _ _ _ _ _)

theorem Placed.setRA (h : Placed cf r) (ht : r.type = .acct) (hra : r.ra = List.replicate 16 0) :
    ReqOk cf (reqSetRA cf (cf.server r.serv).secret r) := by
  refine ⟨⟨h.addr, h.port, h.addr6, h.socket⟩, ?_, ?_, ?_⟩
  · intro _ b hb
    have hok := reqSetRA_authenticatorOk cf r (cf.server r.serv).secret hra
    unfold Req.bytes at hok
    rw [hb] at hok
    show BytesOk cf r (cf.server r.serv).secret b
    unfold BytesOk
    rw [ht]
    exact hok
  · exact fun ht' => absurd (ht.symm.trans ht') (by decide)
  · exact fun _ => ⟨hra, fun _ => Option.some_ne_none _⟩

theorem ReqOk.newAttrs (h : ReqOk cf r) (hbs : r.beforeSend = true) (attrs : List OutAttr)
    (id : UInt8) (tries : Nat) :
    ReqOk cf { r with attrs := attrs, id := id, tries := tries } := by
  refine ⟨⟨h.addr, h.port, h.addr6, h.socket⟩, h.buffer, ?_, h.acct⟩
  exact fun ht => absurd ((h.auth ht).1.symm.trans hbs) (by decide)

theorem ReqOk.setRA_attrs (h : ReqOk cf r) (ht : r.type = .acct) (attrs : List OutAttr)
    (id : UInt8) (tries : Nat) :
    ReqOk cf (reqSetRA cf (cf.server r.serv).secret
      { r with attrs := attrs, id := id, tries := tries }) :=
  have hplaced : Placed cf { r with attrs := attrs, id := id, tries := tries } :=
    ⟨h.addr, h.port, h.addr6, h.socket⟩
  hplaced.setRA ht (h.acct ht).1

section

variable (h : Safe cf st)
include h

theorem reqWakeup_inv : Inv cf (reqWakeup cf env st) := by
  have hw : Safe cf { st with req := { st.req with queued := false, active := true } } :=
    ⟨h.inv.touch _ _ true false _ _ _, h.movable⟩
  grind [reqWakeup, radReqSend_inv, radServerReqExit_safe, radReqSendNow, hw.inv, radReqSendNow_inv]

theorem radTimeout_inv : Inv cf (radTimeout cf env st) := by
  unfold radTimeout
  split
  · exact radReqSend_inv ⟨h.inv.touch _ _ _ _ _ _ _, h.movable⟩
  · exact radReqSend_inv h

theorem radAcctTimeout_inv (again : Bool) : Inv cf (radAcctTimeout cf again env st) := by
  have hexit := radServerReqExit_safe h
  unfold radAcctTimeout
  split
  · exact radReqSend_inv ⟨hexit.inv.touch _ 0 _ _ _ _ _, hexit.movable⟩
  · exact ⟨hexit.inv.req.close, hexit.inv.sent⟩

theorem radAcctStopTimeout_inv : Inv cf (radAcctStopTimeout cf env st) := by
  unfold radAcctStopTimeout
  simp only
  generalize hst : (if st.req.active = true then radServerReqExit { st with
    req := { st.req with id := if st.req.beforeSend = true then st.req.id + 1 else st.req.id } }
      else st) = left
  have hleft : Safe cf left := by
    subst hst
    split
    · exact radServerReqExit_safe ⟨h.inv.touch _ _ _ _ _ _ _, h.movable⟩
    · exact h
  split
  · exact ⟨hleft.inv.req, hleft.inv.sent⟩
  · exact radReqSend_inv hleft

theorem radAcctInterimUpdate_inv (ht : st.req.type = .acct)
    (attrs : List OutAttr) : Inv cf (radAcctInterimUpdate cf attrs env st) := by
  unfold radAcctInterimUpdate
  simp only
  cases hbs : st.req.beforeSend with
  | true =>
    rw [if_pos rfl]
    have hnew := h.inv.req.newAttrs hbs attrs (st.req.id + 1) 0
    rw [← hbs]
    exact radReqSend_inv ⟨⟨hnew, h.inv.sent⟩, h.movable⟩
  | false =>
    rw [if_neg (by decide)]
    rw [← hbs]
    exact radReqSend_inv ⟨⟨h.inv.req.setRA_attrs ht attrs _ 0, h.inv.sent⟩, h.movable⟩

omit h in
theorem radServerReqExit_type : (radServerReqExit st).req.type = st.req.type := by
  unfold radServerReqExit
  split <;> rfl

theorem radAcctStop_inv (ht : st.req.type = .acct) (attrs : List OutAttr) :
    Inv cf (radAcctStop cf attrs env st) := by
  unfold radAcctStop
  generalize hst : radServerReqExit { st with req := { st.req with queued := false } } = left
  have hleft : Safe cf left := by
    subst hst
    exact radServerReqExit_safe ⟨h.inv.touch _ _ _ false _ _ _, h.movable⟩
  have htype : left.req.type = .acct := by
    subst hst
    exact radServerReqExit_type.trans ht
  exact radReqSend_inv ⟨⟨hleft.inv.req.setRA_attrs htype attrs _ 0, hleft.inv.sent⟩, hleft.movable⟩

end

theorem acctOnTimeout_inv (h : Inv cf st) : Inv cf (acctOnTimeout cf env st) := by
  unfold acctOnTimeout
  split
  · exact ⟨h.req, h.sent⟩
  · have hnext : Inv cf { st with req := { st.req with tries := st.req.tries + 1 } } :=
      h.touch _ _ _ _ _ _ _
    grind [radReqSendNow, radReqSendNow_inv]

theorem readReply_inv (h : Inv cf st) (kept : Bool) (arrivals : List Arrival) :
    Inv cf (readReply cf kept arrivals st) := by
  have hleave : Inv cf (leaveServer st) := by grind [leaveServer, radServerReqExit_inv, h.touch]
  unfold readReply
  split
  · exact h
  · simp only
    split
    · exact ⟨hleave.req, hleave.sent⟩
    · split
      · exact ⟨hleave.req.close, hleave.sent⟩
      · exact ⟨hleave.req, hleave.sent⟩

/-- Steps that may choose another server do so among servers the request can move to. -/
def FailoverOk (cf : Conf) (st : State) (e : Event) : Prop :=
  match e with
  | .world _ | .stopRetry | .acctOnTimeout _ | .readable _ _ => True
  | _ => AllMovable cf st

theorem step_inv {e : Event} (h : Inv cf st) (hok : FailoverOk cf st e)
    (hs : step cf st e = some st') : Inv cf st' := by
  have hguard : ∀ {P : Prop} [Decidable P] {x : State}, (P → Inv cf x) →
      (if P then some x else none) = some st' → Inv cf st' := by
    grind
  unfold step at hs
  split at hs
  · cases hs
  · cases hs; exact ⟨h.req, h.sent⟩
  · cases hs; exact enterTurn_inv ⟨h, hok⟩
  · cases hs
  · exact hguard (fun _ => radReqSend_inv ⟨h, hok⟩) hs
  · cases hs
  · exact hguard (fun _ => reqWakeup_inv ⟨h, hok⟩) hs
  · exact hguard (fun _ => radReqSend_inv ⟨h.touch _ _ _ false _ _ _, hok⟩) hs
  · cases hs; exact radTimeout_inv ⟨h, hok⟩
  · exact hguard (fun _ => radAcctTimeout_inv ⟨h, hok⟩ _) hs
  · exact hguard (fun _ => radAcctStopTimeout_inv ⟨h, hok⟩) hs
  · exact hguard (fun _ => h.touch _ 0 _ _ _ _ _) hs
  · exact hguard (fun ht => radAcctInterimUpdate_inv ⟨h, hok⟩ ht.1 _) hs
  · exact hguard (fun ht => radAcctStop_inv ⟨h, hok⟩ ht _) hs
  · exact hguard (fun _ => acctOnTimeout_inv h) hs
  grind [readReply_inv]

/-! ## New requests -/

/-- The request reaches the server it was created for. -/
def Addressed (cf : Conf) (r : Req) : Prop := Reaches r (cf.server r.serv).place
deriving Decidable

theorem Created.inv (hc : Created cf st) (ha : Addressed cf st.req) : Inv cf st := by
  cases hc with
  | pap hra h =>
    obtain ⟨st0, h0, rfl⟩ := Option.map_eq_some_iff.1 h
    obtain ⟨s, -, rfl⟩ := Option.map_eq_some_iff.1 h0
    refine ⟨⟨⟨rfl, rfl, ha, fun _ hd => (nomatch hd)⟩, fun _ _ hb => (nomatch hb), ?_,
      fun ht => (nomatch ht)⟩, fun _ he => (nomatch he)⟩
    simp_all
  | other hra h =>
    obtain ⟨st0, h0, rfl⟩ := Option.map_eq_some_iff.1 h
    obtain ⟨s, -, rfl⟩ := Option.map_eq_some_iff.1 h0
    refine ⟨⟨⟨rfl, rfl, ha, fun _ hd => (nomatch hd)⟩, fun _ _ hb => (nomatch hb), ?_,
      fun ht => (nomatch ht)⟩, fun _ he => (nomatch he)⟩
    exact fun _ => ⟨rfl, hra, fun p hp => (nomatch hp)⟩
  | @acct _ delayTime _ _ _ _ h =>
    obtain ⟨st1, h1, rfl⟩ := Option.map_eq_some_iff.1 h
    obtain ⟨st0, h0, rfl⟩ := Option.map_eq_some_iff.1 h1
    obtain ⟨s, -, rfl⟩ := Option.map_eq_some_iff.1 h0
    refine ⟨?_, fun _ he => (nomatch he)⟩
    cases delayTime with
    | true =>
      exact ⟨⟨rfl, rfl, ha, fun _ hd => (nomatch hd)⟩, fun hbs => (nomatch hbs),
        fun ht => (nomatch ht), fun _ => ⟨rfl, fun hbs => (nomatch hbs)⟩⟩
    | false =>
      refine Placed.setRA ?_ rfl rfl
      exact ⟨rfl, rfl, ha, fun _ hd => (nomatch hd)⟩
  | acctOn =>
    refine ⟨?_, fun _ he => (nomatch he)⟩
    refine Placed.setRA ?_ rfl rfl
    exact ⟨rfl, rfl, ha, fun _ hd => (nomatch hd)⟩

/-- **Failover**: if each step that may choose another server has only servers the request can move
to, each datagram went to the request's server, made with its secret. -/
theorem failover_sent_ok (cf : Conf) (st t : State) (es : List Event) (hc : Created cf st)
    (ha : Addressed cf st.req) (hg : Machine.Guarded (step cf) (FailoverOk cf) st es)
    (hr : Machine.run (step cf) st es = some t) : ∀ e ∈ t.sent, SentOk cf t.req e :=
  (hg.invariant (fun _ _ _ h hok hs => step_inv h hok hs) (hc.inv ha) hr).sent

/-! ## Runs -/

instance (st : State) (e : Event) : Decidable (FailoverOk cf st e) := by
  unfold FailoverOk
  split <;> infer_instance

/-- Two servers; the digest is the last byte, so it shows the secret. -/
def sampleConf (first second : ServerConf) : Conf where
  md5 x := List.replicate 16 (x.getLastD 0)
  md5_length _ := List.length_replicate
  dict := ⟨[], []⟩
  server s := if s = 0 then first else second
  maxTry := 1
  acctDelayTime := false

def sampleServer (place : ServerAddr) (secret : UInt8) : ServerConf :=
  ⟨place, [secret], 1812, 1813, 1, false⟩

def oneSecret : Conf := sampleConf (sampleServer (.v4 1) 7) (sampleServer (.v4 2) 7)

def twoSecrets : Conf := sampleConf (sampleServer (.v4 1) 7) (sampleServer (.v4 2) 8)

def twoIpv6 : Conf := sampleConf (sampleServer (.v6 1) 7) (sampleServer (.v6 2) 7)

def oldServer : Conf := sampleConf (sampleServer (.old 1) 7) (sampleServer (.v4 2) 7)

def sampleServers : Servers := ⟨[0, 1], fun _ => ⟨0, 0, 0, 0, false⟩⟩

def sampleEnv : Env := ⟨0, 0, true, true⟩

def sampleRun : List Event :=
  [.send sampleEnv, .enter sampleEnv, .timeout sampleEnv, .enter sampleEnv]

def sampleAcct (cf : Conf) : Option State := radAcctStart cf sampleServers false 1 [] 0

theorem exists_run_of {cf : Conf} {P : State → State → Prop}
    (h : ∃ st ∈ sampleAcct cf, ∃ t, Machine.run (step cf) st sampleRun = some t ∧ P st t) :
    ∃ st t, Created cf st ∧ Machine.run (step cf) st sampleRun = some t ∧ P st t := by
  obtain ⟨st, hst, t, hr, hp⟩ := h
  exact ⟨st, t, .acct hst, hr, hp⟩

/-- With one secret for both servers a run that fails over is in order. -/
theorem failover_sent_ok_one_secret :
    ∃ st t, Created oneSecret st ∧ Addressed oneSecret st.req ∧
      Machine.Guarded (step oneSecret) (FailoverOk oneSecret) st sampleRun ∧
      Machine.run (step oneSecret) st sampleRun = some t ∧ t.sent.length = 2 ∧
      ∀ e ∈ t.sent, SentOk oneSecret t.req e := by
  obtain ⟨st, t, hc, hr, ha, hg, hlen⟩ : ∃ st t, Created oneSecret st ∧
      Machine.run (step oneSecret) st sampleRun = some t ∧ Addressed oneSecret st.req ∧
      Machine.Guarded (step oneSecret) (FailoverOk oneSecret) st sampleRun ∧ t.sent.length = 2 :=
    exists_run_of (by decide +kernel)
  exact ⟨st, t, hc, ha, hg, hr, hlen, failover_sent_ok oneSecret st t sampleRun hc ha hg hr⟩

/-- **The packet in the buffer goes to the second server** with the first one's digest; between
IPv6 servers it goes to the first one's address again, and a server of `add_server_old` gets none. -/
theorem failover_keeps_old_secret :
    (∃ st t, Created twoSecrets st ∧ Machine.run (step twoSecrets) st sampleRun = some t ∧
      ∃ e ∈ t.sent, t.req.type = .acct ∧
        ¬ AuthenticatorOk twoSecrets (twoSecrets.server e.serv).secret e.bytes) ∧
    (∃ st t, Created twoIpv6 st ∧ Machine.run (step twoIpv6) st sampleRun = some t ∧
      ∃ e ∈ t.sent, e.dest ≠ (twoIpv6.server e.serv).dest t.req.type) ∧
    ∃ st t, Created oldServer st ∧ Machine.run (step oldServer) st sampleRun = some t ∧
      ∃ e ∈ t.sent, (oldServer.server e.serv).dest t.req.type = ⟨.v4 1, 1813⟩ ∧
        e.dest = ⟨.v6 0, 1813⟩ :=
  ⟨exists_run_of (by decide +kernel), exists_run_of (by decide +kernel),
    exists_run_of (by decide +kernel)⟩

end Radius
