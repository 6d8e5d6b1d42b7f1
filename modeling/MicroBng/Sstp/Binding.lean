import MicroBng.Sstp.Call

/-!
# The crypto binding of an SSTP call

A call is connected, and network packets pass, only by way of a `CALL_CONNECTED` that was received
on the connection and is bound to it: its nonce is the one of the acknowledgement, its certificate
hash is the configured one, and its compound MAC verifies under the key held when it is handled.
Nearly everything that can happen to a connection is `Quiet`: it does not bring the call forward.

* `connected_bound`: the message that connects a call is bound to it
-/

namespace Sstp

variable {cf : Conf} {c c' : Conn}

/-! ## Fields of a message that is kept in the queue -/

variable (env : Env) (p : List UInt8)

theorem field_take {off n k : Nat} (h : off + n ≤ k) : field (p.take k) off n = field p off n := by
  grind [field, List.drop_take]

theorem getD_take {i k : Nat} (h : i < k) : (p.take k).getD i 0 = p.getD i 0 := by
  simp_all

theorem field16_take {off k : Nat} (h : off + 1 < k) : field16 (p.take k) off = field16 p off := by
  unfold field16
  rw [getD_take p (by omega), getD_take p h]

theorem chosenHash_take : chosenHash cf (p.take connectedSize) = chosenHash cf p := by
  unfold chosenHash
  rw [getD_take p (by decide)]

theorem certOk_take (alg : HashProtocol) (p : List UInt8) :
    certOk cf alg (p.take connectedSize) = certOk cf alg p := by
  unfold certOk msgCertHash
  rw [field_take p (by decide)]

theorem macOk_take (alg : HashProtocol) (key p : List UInt8) :
    macOk cf alg key (p.take connectedSize) = macOk cf alg key p := by
  unfold macOk compoundMac msgCompoundMac
  rw [field_take p (by decide), List.take_take, Nat.min_eq_left (by decide)]

/-! ## Events that do not bring the call forward -/

def CallState.down (s : CallState) : Bool := s.ending || s == .serverCallDisconnected

/-- The call is where it was or is torn down, and nothing is added to what was received. -/
structure Quiet (c c' : Conn) : Prop where
  state : c'.sstpState = c.sstpState ∨ c'.sstpState.down = true
  npmode : c'.pppNpmode = c.pppNpmode
  accepted : c'.accepted = c.accepted
  http : c'.http = c.http
  nonce : c'.nonce = c.nonce
  hlakKey : c'.hlakKey.isSome = c.hlakKey.isSome
  queue : ∀ m ∈ c'.deferredQueue, m ∈ c.deferredQueue
  out : ∀ m ∈ c.out, m ∈ c'.out
  ppp : c'.sstpState = .serverCallConnectedPending → c.pppState.running = true →
    c'.pppState.running = true

theorem Quiet.refl (c : Conn) : Quiet c c :=
  ⟨.inl rfl, rfl, rfl, rfl, rfl, rfl, fun _ h => h, fun _ h => h, fun _ h => h⟩

theorem Quiet.sent (c : Conn) (m : Out) : Quiet c (c.send m) :=
  ⟨.inl rfl, rfl, rfl, rfl, rfl, rfl, fun _ h => h, fun _ h => List.mem_append_left _ h,
    fun _ h => h⟩

theorem Quiet.downed (hs : c'.sstpState.down = true)
    (hnp : c'.pppNpmode = c.pppNpmode) (hac : c'.accepted = c.accepted) (hht : c'.http = c.http)
    (hno : c'.nonce = c.nonce) (hke : c'.hlakKey = c.hlakKey)
    (hqu : c'.deferredQueue = c.deferredQueue) (hout : ∀ m ∈ c.out, m ∈ c'.out) :
    Quiet c c' where
  state := .inr hs
  npmode := hnp
  accepted := hac
  http := hht
  nonce := hno
  hlakKey := by rw [hke]
  queue := fun m hm => hqu ▸ hm
  out := hout
  ppp := fun hp => by rw [hp] at hs; cases hs

theorem sstpAbort_quiet (c : Conn) (st : PppState) (hello : Nat) (nak : Nat) (timer b : Bool) :
    Quiet c (sstpAbort { c with
      pppState := st, helloSent := hello, nakSent := nak, timeoutTimer := timer } b) := by
  cases b
  · exact Quiet.downed rfl rfl rfl rfl rfl rfl rfl (fun m hm => List.mem_append_left _ hm)
  · exact Quiet.downed rfl rfl rfl rfl rfl rfl rfl (fun m hm => List.mem_append_left _ hm)

theorem sstpAbort_false_quiet (c : Conn) : Quiet c (sstpAbort c false) :=
  sstpAbort_quiet c c.pppState c.helloSent c.nakSent c.timeoutTimer false

theorem recvMsgCallAbort_quiet (c : Conn) : Quiet c (recvMsgCallAbort c) := by
  unfold recvMsgCallAbort
  split
  · exact Quiet.downed rfl rfl rfl rfl rfl rfl rfl (fun _ hm => hm)
  · exact Quiet.refl c
  · exact Quiet.refl c
  · exact Quiet.downed rfl rfl rfl rfl rfl rfl rfl (fun _ hm => List.mem_append_left _ hm)

theorem recvMsgCallDisconnect_quiet (c : Conn) : Quiet c (recvMsgCallDisconnect c) := by
  unfold recvMsgCallDisconnect
  split
  · exact Quiet.refl c
  · exact Quiet.refl c
  · exact Quiet.refl c
  · exact Quiet.downed rfl rfl rfl rfl rfl rfl rfl (fun _ hm => List.mem_append_left _ hm)

theorem recvMsgCallDisconnectAck_quiet (c : Conn) : Quiet c (recvMsgCallDisconnectAck c) := by
  unfold recvMsgCallDisconnectAck
  split
  · exact Quiet.downed rfl rfl rfl rfl rfl rfl rfl (fun _ hm => hm)
  · exact Quiet.refl c
  · exact Quiet.refl c
  · exact Quiet.refl c
  · exact sstpAbort_false_quiet c

theorem recvMsgEchoRequest_quiet (c : Conn) : Quiet c (recvMsgEchoRequest c) := by
  grind [recvMsgEchoRequest, Quiet.sent, Quiet.refl, sstpAbort_false_quiet]

theorem recvMsgEchoResponse_quiet (c : Conn) : Quiet c (recvMsgEchoResponse c) := by
  unfold recvMsgEchoResponse
  split
  · exact { Quiet.refl c with }
  · split
    · exact Quiet.refl c
    · exact sstpAbort_false_quiet c

theorem pppFinished_quiet (c : Conn) : Quiet c (pppFinished c) := by
  grind [pppFinished, sstpAbort_quiet, Quiet.refl]

theorem sstpTimeout_quiet (c : Conn) : Quiet c (sstpTimeout c) := by
  unfold sstpTimeout
  split
  · exact { Quiet.refl c with }
  simp [sstpAbort_quiet]

theorem sstpMsgEcho_quiet (idle : Bool) (c : Conn) : Quiet c (sstpMsgEcho idle c) := by
  unfold sstpMsgEcho
  split
  · split
    · simp [sstpAbort_quiet]
    · exact { Quiet.sent c .echoRequest with }
  · exact Quiet.refl c

theorem sstpClose_quiet (c : Conn) : Quiet c (sstpClose c) := by
  grind [sstpClose, sstpAbort_quiet, sstpAbort_false_quiet]

/-! ## The invariant -/

/-- A message binds the call, by what has been received and sent. -/
structure Bound (cf : Conf) (received : List UInt8 → Prop) (out : List Out) (a : Accept) :
    Prop where
  received : received a.msg
  callConnected : field16 a.msg 4 = 4
  nonce : ∀ n, a.nonce = some n → msgNonce a.msg = n ∧ Out.connectAck n ∈ out
  verified : ∃ alg, chosenHash cf a.msg = some alg ∧ certOk cf alg a.msg = true ∧
    ∀ key, a.hlakKey = some key → macOk cf alg key a.msg = true
  ppp : a.hlakKey.isSome = true → a.pppState = .authorized ∨ a.pppState = .started

/-- A connected call is bound. `hasNonce` and `hasKey`: the connection has a buffer for the nonce
and one for the key. -/
structure Safe (cf : Conf) (received : List UInt8 → Prop) (hasNonce hasKey : Bool) (c : Conn) :
    Prop where
  connected : c.sstpState = .serverCallConnected ∨ c.pppNpmode = .pass → c.accepted ≠ none
  bound : ∀ a, c.accepted = some a →
    Bound cf received c.out a ∧ a.nonce.isSome = hasNonce ∧ a.hlakKey.isSome = hasKey

structure Inv (cf : Conf) (received : List UInt8 → Prop) (hasNonce hasKey : Bool) (c : Conn) :
    Prop extends Safe cf received hasNonce hasKey c where
  queue : ∀ m ∈ c.deferredQueue, received (m.take connectedSize)
  running : c.sstpState = .serverCallConnectedPending → c.pppState.running = true
  acked : c.sstpState = .serverCallConnectedPending →
    ∀ n, c.nonce = some n → Out.connectAck n ∈ c.out
  buffers : c.accepted = none → c.nonce.isSome = hasNonce ∧ c.hlakKey.isSome = hasKey
  http : c.http = true → c.sstpState.down = true
  settled : c.accepted ≠ none →
    c.http = false ∧ (c.sstpState = .serverCallConnected ∨ c.sstpState.down = true)

section Step

variable {received : List UInt8 → Prop} {hasNonce hasKey : Bool}

theorem Bound.mono {out out' : List Out} {a : Accept} (h : Bound cf received out a)
    (hsub : ∀ m ∈ out, m ∈ out') : Bound cf received out' a :=
  { h with nonce := fun n hn => ⟨(h.nonce n hn).1, hsub _ (h.nonce n hn).2⟩ }

theorem Quiet.state_eq (q : Quiet c c') {s : CallState} (hs : s.down = false)
    (h : c'.sstpState = s) : c.sstpState = s := by
  grind [q.state]

theorem Quiet.inv (q : Quiet c c') (hi : Inv cf received hasNonce hasKey c) :
    Inv cf received hasNonce hasKey c' where
  queue := fun m hm => hi.queue m (q.queue m hm)
  running := fun hp => q.ppp hp (hi.running (q.state_eq rfl hp))
  acked := fun hp n hn => q.out _ (hi.acked (q.state_eq rfl hp) n (q.nonce ▸ hn))
  buffers := by
    rw [q.accepted, q.nonce, q.hlakKey]
    exact hi.buffers
  connected := by
    rw [q.accepted, q.npmode]
    exact fun h => hi.connected (h.imp_left (q.state_eq rfl))
  http := by grind [q.http, q.state, hi.http]
  settled := by grind [q.accepted, q.http, hi.settled, q.state]
  bound := by
    rw [q.accepted]
    exact fun a ha => ⟨(hi.bound a ha).1.mono q.out, (hi.bound a ha).2⟩

section

variable (hi : Inv cf received hasNonce hasKey c)
include hi

theorem Inv.not_accepted
    (h : c.sstpState ≠ .serverCallConnected ∧ c.sstpState.down = false ∨ c.http = true) :
    c.accepted = none := by
  grind [hi.settled]

theorem Inv.npmode (ha : c.accepted = none) : c.pppNpmode ≠ .pass :=
  fun h => hi.connected (.inr h) ha

theorem recvMsgCallConnectRequest_inv
    (h : recvMsgCallConnectRequest env p c = some c') : Inv cf received hasNonce hasKey c' := by
  unfold recvMsgCallConnectRequest at h
  split at h
  · cases h; exact hi
  split at h
  · cases h; exact (sstpAbort_false_quiet c).inv hi
  rename_i hs
  rw [not_ne_iff] at hs
  split at h
  · cases h; exact (sstpAbort_false_quiet c).inv hi
  split at h
  · split at h
    · cases h
      exact (sstpAbort_quiet c c.pppState c.helloSent (c.nakSent + 1) c.timeoutTimer false).inv hi
    · cases h
      have hq : Quiet c ({ c with nakSent := c.nakSent + 1 }.send .connectNak) :=
        { Quiet.sent c .connectNak with }
      exact hq.inv hi
  split at h
  · cases h
  split at h
  · cases h
  have ha : c.accepted = none := hi.not_accepted (.inl (by rw [hs]; exact ⟨nofun, rfl⟩))
  cases h
  exact
    { queue := hi.queue
      running := fun _ => rfl
      acked := by
        intro _ n hn
        have hn : c.nonce.map (fun _ => env.random) = some n := hn
        refine List.mem_append_right _ ?_
        rw [hn]
        exact List.mem_singleton.2 rfl
      buffers := by simp_all [hi.buffers]
      connected := fun h => h.elim nofun fun hp => absurd hp (hi.npmode ha)
      http := fun hh => by
        have hd := hi.http hh
        rw [hs] at hd; cases hd
      settled := fun hne => absurd ha hne
      bound := fun a hb => by
        have hb : c.accepted = some a := hb
        rw [ha] at hb; cases hb }

theorem callConnected_inv {p : List UInt8} {alg : HashProtocol}
    (hp : received (p.take connectedSize))
    (ht : field16 p 4 = 4)
    (hs : c.sstpState = .serverCallConnectedPending)
    (hn : ∀ n, c.nonce = some n → msgNonce p = n) (ha : chosenHash cf p = some alg)
    (hc : certOk cf alg p = true)
    (hk : ∀ key, c.hlakKey = some key →
      c.pppState.beforeAuthorized = false ∧ macOk cf alg key p = true) :
    Inv cf received hasNonce hasKey (callConnected cf p c) := by
  have hnone : c.accepted = none := hi.not_accepted (.inl (by rw [hs]; exact ⟨nofun, rfl⟩))
  have hhttp : c.http = false := by
    cases hh : c.http with
    | false => rfl
    | true => exact absurd (hi.http hh) (by rw [hs]; exact nofun)
  refine
    { hi with
      running := nofun
      acked := nofun
      buffers := nofun
      connected := fun _ => nofun
      settled := fun _ => ⟨hhttp, .inl rfl⟩
      http := fun h => nomatch hhttp.symm.trans h
      bound := ?_ }
  intro a hac
  cases Option.some.inj hac
  refine ⟨⟨hp, ?_, ?_, ⟨alg, ?_, ?_, ?_⟩, ?_⟩, hi.buffers hnone⟩
  · rw [field16_take p (by decide), ht]
  · intro n h
    refine ⟨?_, hi.acked hs n h⟩
    unfold msgNonce
    rw [field_take p (by decide)]
    exact hn n h
  · rw [chosenHash_take, ha]
  · rw [certOk_take, hc]
  · intro key h
    rw [macOk_take]
    exact (hk key h).2
  · intro h
    obtain ⟨key, hkey⟩ := Option.isSome_iff_exists.1 h
    have hr := hi.running hs
    have hb := (hk key hkey).1
    show c.pppState = .authorized ∨ c.pppState = .started
    revert hr hb
    cases c.pppState <;> decide

theorem recvMsgCallConnected_inv {p : List UInt8}
    (hp : received (p.take connectedSize)) (ht : field16 p 4 = 4) :
    Inv cf received hasNonce hasKey (recvMsgCallConnected cf p c) := by
  unfold recvMsgCallConnected
  split
  · exact hi
  split
  · exact (sstpAbort_false_quiet c).inv hi
  split
  · exact (sstpAbort_false_quiet c).inv hi
  split
  · exact (sstpAbort_false_quiet c).inv hi
  rename_i hn
  have hn : ∀ n, c.nonce = some n → msgNonce p = n := by
    intro n h
    rw [h] at hn
    exact Classical.byContradiction fun hne => hn (decide_eq_true hne)
  split
  · exact (sstpAbort_false_quiet c).inv hi
  split
  · exact (sstpAbort_false_quiet c).inv hi
  split
  · simp_all [callConnected_inv]
  split
  · -- too early: the message is kept for later
    refine { hi with queue := fun m hm => ?_ }
    grind [hi.queue]
  split
  · exact (sstpAbort_false_quiet c).inv hi
  simp_all [callConnected_inv]

theorem recvPacket_inv {p : List UInt8}
    (hp : received (p.take connectedSize)) (h : recvPacket cf env p c = some c') :
    Inv cf received hasNonce hasKey c' := by
  unfold recvPacket at h
  split at h
  · cases h; exact hi
  split at h
  · split at h
    · cases h
    split at h
    · exact recvMsgCallConnectRequest_inv env p hi h
    · cases h; exact (sstpAbort_false_quiet c).inv hi
    · cases h; exact (sstpAbort_false_quiet c).inv hi
    · rename_i ht
      cases h; exact recvMsgCallConnected_inv hi hp ht
    · cases h; exact (recvMsgCallAbort_quiet c).inv hi
    · cases h; exact (recvMsgCallDisconnect_quiet c).inv hi
    · cases h; exact (recvMsgCallDisconnectAck_quiet c).inv hi
    · cases h; exact (recvMsgEchoRequest_quiet c).inv hi
    · cases h; exact (recvMsgEchoResponse_quiet c).inv hi
    · cases h; exact hi
  · cases h; exact hi

theorem sstpHandler_inv {p : List UInt8}
    (hp : received (p.take connectedSize)) (h : sstpHandler cf env p c = some c') :
    Inv cf received hasNonce hasKey c' := by
  grind [sstpHandler, recvPacket_inv]

end

theorem readDeferred_inv {ms : List (List UInt8)} (hms : ∀ m ∈ ms, received (m.take connectedSize))
    (hi : Inv cf received hasNonce hasKey c) (h : readDeferred cf env ms c = some c') :
    Inv cf received hasNonce hasKey c' := by
  induction ms generalizing c with
  | nil => cases h; exact hi
  | cons m ms ih =>
    unfold readDeferred at h
    split at h
    · cases h
    · rename_i c₁ h₁
      have hi₁ := sstpHandler_inv env hi (hms m List.mem_cons_self) h₁
      refine ih (fun m' hm => hms m' (.tail m hm)) ?_ h
      exact { hi₁ with queue := fun m' hm => hi₁.queue m' (List.mem_of_mem_drop hm) }

theorem sstpDisconnect_safe (hi : Safe cf received hasNonce hasKey c) :
    Safe cf received hasNonce hasKey (sstpDisconnect c) :=
  { hi with }

def Kept (cf : Conf) (received : List UInt8 → Prop) (hasNonce hasKey : Bool) (c : Conn) : Prop :=
  Safe cf received hasNonce hasKey c ∧ (c.freed = false → Inv cf received hasNonce hasKey c)

section

variable (hi : Inv cf received hasNonce hasKey c)
include hi

theorem Inv.kept : Kept cf received hasNonce hasKey c :=
  ⟨hi.toSafe, fun _ => hi⟩

theorem sstpDisconnect_kept : Kept cf received hasNonce hasKey (sstpDisconnect c) :=
  ⟨sstpDisconnect_safe hi.toSafe, nofun⟩

theorem getD_kept {r : Option Conn} (h : ∀ c', r = some c' → Inv cf received hasNonce hasKey c') :
    Kept cf received hasNonce hasKey (r.getD (sstpDisconnect c)) := by
  cases r with
  | none => exact sstpDisconnect_kept hi
  | some c' => exact (h c' rfl).kept

omit hi in
theorem readDeferred_kept {st : PppState} (hst : st.running = true)
    (hi : Inv cf received hasNonce hasKey c) :
    Kept cf received hasNonce hasKey
      ((readDeferred cf env c.deferredQueue { c with pppState := st }).getD
        (sstpDisconnect c)) := by
  have hi' : Inv cf received hasNonce hasKey { c with pppState := st } :=
    { hi with running := fun _ => hst }
  exact getD_kept hi fun _ h => readDeferred_inv env hi.queue hi' h

theorem http_inv (hh : c.http = true) :
    Inv cf received hasNonce hasKey
      { c.send .httpOk with sstpState := .serverConnectRequestPending, http := false } := by
  have ha : c.accepted = none := hi.not_accepted (.inr hh)
  exact
    { queue := hi.queue
      running := nofun
      acked := nofun
      buffers := hi.buffers
      connected := fun h => h.elim nofun fun hp => absurd hp (hi.npmode ha)
      http := nofun
      settled := fun hne => absurd ha hne
      bound := fun a hb => by
        have hb : c.accepted = some a := hb
        rw [ha] at hb; cases hb }

end

def Heard (received : List UInt8 → Prop) : Event → Prop
  | .packet p _ => received (p.take connectedSize)
  | _ => True

theorem step_kept (c : Conn) (e : Event) (c' : Conn) (hk : Kept cf received hasNonce hasKey c)
    (he : Heard received e) (h : step cf c e = some c') :
    Kept cf received hasNonce hasKey c' := by
  unfold step at h
  split at h
  · cases h
  rename_i ho
  have hi := hk.2 (Bool.not_eq_true _ ▸ ho)
  cases e with
  | http ok =>
    dsimp only at h
    split at h
    · cases h
    rename_i hh
    split at h
    · cases h; exact sstpDisconnect_kept hi
    · cases h; exact (http_inv hi (Bool.not_eq_false _ ▸ hh)).kept
  | packet p env =>
    dsimp only at h
    split at h
    · cases h
    · cases h; exact getD_kept hi fun _ h => sstpHandler_inv env hi he h
  | closed => cases h; exact sstpDisconnect_kept hi
  | disconnect => grind [sstpDisconnect_kept]
  | mppeKeys recvKey sendKey =>
    cases h
    have hq : Quiet c
        { c with hlakKey := c.hlakKey.map fun _ => recvKey.take 16 ++ sendKey.take 16 } :=
      { Quiet.refl c with hlakKey := Option.isSome_map }
    exact (hq.inv hi).kept
  | authorized env =>
    cases h
    unfold evSesAuthorized
    split
    · exact readDeferred_kept env rfl hi
    · exact hk
  | started env =>
    cases h
    unfold pppStarted
    split
    · exact readDeferred_kept env rfl hi
    · exact hk
  | finished => cases h; exact ((pppFinished_quiet c).inv hi).kept
  | timeout =>
    dsimp only at h
    split at h
    · cases h; exact ((sstpTimeout_quiet c).inv hi).kept
    · cases h
  | echo idle =>
    dsimp only at h
    split at h
    · cases h; exact ((sstpMsgEcho_quiet idle c).inv hi).kept
    · cases h
  | close => cases h; exact ((sstpClose_quiet c).inv hi).kept

theorem sstpConnect_inv (nonce hlakKey : Option (List UInt8)) :
    Inv cf received nonce.isSome hlakKey.isSome (sstpConnect nonce hlakKey) where
  connected := fun h => h.elim nofun nofun
  bound := nofun
  queue := nofun
  running := nofun
  acked := nofun
  buffers := fun _ => ⟨rfl, rfl⟩
  http := fun _ => rfl
  settled := fun h => absurd rfl h

end Step

/-! ## The binding -/

/-- The message stood at the front of the buffer in one of the events. -/
def Received (es : List Event) (m : List UInt8) : Prop :=
  ∃ p env, Event.packet p env ∈ es ∧ m = p.take connectedSize

/-- **The crypto binding**: a call that is connected or lets network packets pass was connected by a
`CALL_CONNECTED` bound to the connection, and compared with a nonce and a key if there was memory
for them. -/
theorem connected_bound (cf : Conf) (nonce hlakKey : Option (List UInt8)) (es : List Event)
    (t : Conn) (hr : Machine.run (step cf) (sstpConnect nonce hlakKey) es = some t)
    (hc : t.sstpState = .serverCallConnected ∨ t.pppNpmode = .pass) :
    ∃ a, t.accepted = some a ∧ Bound cf (Received es) t.out a ∧
      a.nonce.isSome = nonce.isSome ∧ a.hlakKey.isSome = hlakKey.isSome := by
  have hg : Machine.Guarded (step cf) (fun _ e => Heard (Received es) e)
      (sstpConnect nonce hlakKey) es := by
    refine Machine.Guarded.of_forall (fun e he _ => ?_) _
    cases e with
    | packet p env => exact ⟨p, env, he, rfl⟩
    | _ => trivial
  have hk := hg.invariant (fun c e c' => step_kept c e c') (sstpConnect_inv nonce hlakKey).kept hr
  obtain ⟨a, ha⟩ := Option.ne_none_iff_exists'.1 (hk.1.connected hc)
  exact ⟨a, ha, hk.1.bound a ha⟩

/-- A configuration with a certificate hash and a MAC that shows the key. -/
def sampleConf : Conf where
  hmac := fun _ key _ => key
  hashProtocol := 3
  certHash := fun alg => some (List.replicate alg.size 5)
  helloInterval := true

def sampleEnv : Env := ⟨List.replicate 32 7, true, true⟩

/-- A `CALL_CONNECT_REQUEST`. -/
def connectRequest : List UInt8 := [16, 1, 0, 14, 0, 1, 0, 1, 0, 1, 0, 6, 0, 1]

/-- A `CALL_CONNECTED` with the nonce and the certificate hash above. -/
def connectedMsg (mac : List UInt8) : List UInt8 :=
  [16, 1, 0, 112, 0, 4, 0, 1, 0, 3, 0, 104, 0, 0, 0, 2] ++ List.replicate 32 7 ++
    List.replicate 32 5 ++ mac

/-- The client is quick: its `CALL_CONNECTED` comes before PPP is authorized. -/
def earlyConnected : List Event :=
  [.http true, .packet connectRequest sampleEnv,
    .packet (connectedMsg (List.replicate 16 1 ++ List.replicate 16 2)) sampleEnv,
    .mppeKeys (List.replicate 16 1) (List.replicate 16 2), .authorized sampleEnv]

theorem connected_bound_early :
    ∃ t, Machine.run (step sampleConf) (sstpConnect (some []) (some [])) earlyConnected = some t ∧
      t.pppNpmode = .pass ∧
      ∃ a, t.accepted = some a ∧ Bound sampleConf (Received earlyConnected) t.out a ∧
        a.nonce.isSome = true ∧ a.hlakKey.isSome = true := by
  obtain ⟨t, hr, hp⟩ : ∃ t, Machine.run (step sampleConf) (sstpConnect (some []) (some []))
      earlyConnected = some t ∧ t.pppNpmode = .pass := by decide +kernel
  exact ⟨t, hr, hp, connected_bound sampleConf (some []) (some []) earlyConnected t hr (.inr hp)⟩

/-- PPP is started without authentication, and the key is still zero. -/
def unauthorizedRun : List Event :=
  [.http true, .packet connectRequest sampleEnv, .started sampleEnv,
    .packet (connectedMsg (List.replicate 32 0)) sampleEnv]

/-- `ppp_started` accepts `STATE_STARTING`, so a session that was never authorized is connected,
and its network packets pass. -/
theorem connected_without_authorization :
    (∀ env, Event.authorized env ∉ unauthorizedRun) ∧
      ∃ t, Machine.run (step sampleConf) (sstpConnect (some []) (some [])) unauthorizedRun =
          some t ∧
        t.sstpState = .serverCallConnected ∧ t.pppNpmode = .pass := by
  refine ⟨fun env h => ?_, by decide +kernel⟩
  simp_all [unauthorizedRun]

end Sstp
