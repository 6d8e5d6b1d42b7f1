import MicroBng.Lib.Tally
import MicroBng.Pppoe.Conn

/-!
# Accounting of PPPoE connections

`conn_cnt` counts the connections of a server, `stat_starting` and `stat_active` those whose session
is starting and whose PPP is running, and everything a connection has is given back once, whoever
ends it and in whatever order. The stages are those of the session: that the flags by which the code
adjusts its counters follow it is part of the invariant of a connection (`PppoeConn.Ok`).

* `Inv.advance`: the rule for steps that move one connection on
* `accounting_kept`: a run keeps the accounts if only identifiers below the sign bit are given back
-/

namespace Pppoe.Conn

open Machine Tally
open Serv

/-! ## What is counted -/

/-- `disconnect` has ended the session. -/
def Place.ended : Place → Bool
  | .uncount | .release | .unregister | .freed => true
  | .idle | .connecting | .unhash | .remove | .terminate => false

/-- A connection is live until `disconnect` takes it out of the count. -/
def PppoeConn.live (c : PppoeConn) : Bool :=
  match c.place with
  | .release | .unregister | .freed => false
  | .idle | .connecting | .unhash | .remove | .terminate | .uncount => true

/-- `connect_channel` has begun. -/
def PppoeConn.begun (c : PppoeConn) : Bool := !c.ctx.pendingCalls.contains .connectChannel

/-- PPP is being established, runs unreported, or could not be established. -/
def PppoeConn.starting (c : PppoeConn) : Bool :=
  c.begun && match c.ses with
    | .absent => !c.place.ended
    | .running started => !started
    | .finished => false

def PppoeConn.active (c : PppoeConn) : Bool :=
  match c.ses with
  | .running _ => true
  | .absent | .finished => false

def PppoeConn.sessionActive (c : PppoeConn) : Bool :=
  match c.ses with
  | .running started => started
  | .absent | .finished => false

structure Counted (w : World) : Prop where
  connCnt : ∀ j, Counts (fun i => (w.conn j i).any PppoeConn.live) (w.serv j).connCnt
  starting : Counts (fun x : Nat × Nat => (w.conn x.1 x.2).any PppoeConn.starting) w.stats.starting
  active : Counts (fun x : Nat × Nat => (w.conn x.1 x.2).any PppoeConn.active) w.stats.active
  sessionActive : Counts (fun x : Nat × Nat => (w.conn x.1 x.2).any PppoeConn.sessionActive)
    w.stats.sessionActive

/-- The counters are right, and everything is given back once. -/
structure Accounted (w : World) : Prop where
  counted : Counted w
  /-- Nothing is given back twice, and all before the memory is. -/
  once : ∀ j i c, w.conn j i = some c → c.released.Nodup ∧
    (Resource.memory ∈ c.released → ∀ r, r ∈ c.released)
  /-- The tables have a connection until its entries are given back. -/
  cookies : ∀ j k i, (w.serv j).cookie2conn.get cookieIdx k = some i ↔
    ∃ c, w.conn j i = some c ∧ Resource.cookie ∉ c.released ∧ c.cookie = k
  keys : ∀ j k i, (w.serv j).macSessid2conn.get keyIdx k = some i ↔
    ∃ c, w.conn j i = some c ∧ Resource.key ∉ c.released ∧ key64 c.addr 0 c.sid = k
  /-- An identifier is free exactly when every connection that had it has given it back. -/
  sids : ∀ n, n < 65536 → (Bitmap.has w.sids.sidMap n = true ↔ 0 < n ∧ n < 65535 ∧
    ∀ j i c, w.conn j i = some c → c.sid.toNat = n → Resource.sid ∈ c.released)
  /-- When PPP is over the connection is being disconnected, has been, or will be. -/
  owed : ∀ j i c, w.conn j i = some c → c.ses = .finished → c.place = .idle →
    Call.disconnect ∈ c.ctx.pendingCalls

/-- The identifier that is given back is below the sign bit of its half word. -/
def LowBit (w : World) : Event → Prop
  | .disconnect j i _ _ => ∀ c ∈ w.conn j i, c.place = .release → c.sid.toNat % 64 < 31
  | _ => True

/-! ## The invariant of a connection -/

inductive Stage : Place → Ses → List Call → Prop
  | fresh {calls : List Call} (h : Call.connectChannel ∉ calls) :
      Stage .idle .absent (.connectChannel :: calls)
  | connecting {calls : List Call} (h : Call.connectChannel ∉ calls) :
      Stage .connecting .absent calls
  | running {calls : List Call} (started : Bool) (h : Call.connectChannel ∉ calls) :
      Stage .idle (.running started) calls
  | closing {calls : List Call} (h : Call.connectChannel ∉ calls) (hq : Call.disconnect ∈ calls) :
      Stage .idle .finished calls
  | leaving {place : Place} {ses : Ses} {calls : List Call}
      (hp : place = .unhash ∨ place = .remove ∨ place = .terminate)
      (h : Call.connectChannel ∉ calls) : Stage place ses calls
  | ended {place : Place} {ses : Ses} {calls : List Call} (hp : place.ended = true)
      (hs : ∀ started, ses ≠ .running started) (h : Call.connectChannel ∉ calls) :
      Stage place ses calls

/-- The value of `session_started`. -/
def Ses.flag (ended : Bool) : Ses → Nat
  | .absent => if ended then 2 else 0
  | .running started => if started then 1 else 0
  | .finished => 2

/-- What has been given back before a step of `disconnect`. -/
def Place.released : Place → List Resource
  | .idle | .connecting | .unhash => []
  | .remove => [.cookie]
  | .terminate | .uncount | .release => [.cookie, .key]
  | .unregister => [.cookie, .key, .sid]
  | .freed => [.cookie, .key, .sid, .memory]

structure PppoeConn.Ok (c : PppoeConn) : Prop where
  stage : Stage c.place c.ses c.ctx.pendingCalls
  started : c.pppStarted = c.active
  session : c.sessionStarted = c.ses.flag c.place.ended
  bare : c.active = false → c.ctx.registered = .nothing
  log : c.released = c.place.released
  registered : c.ctx.needFree = true ↔ c.place = .freed

structure Balanced (st : Stats) (o : Option PppoeConn) (st' : Stats) (c' : PppoeConn) : Prop where
  starting : st'.starting = st.starting + ind c'.starting - ind (o.any PppoeConn.starting)
  active : st'.active = st.active + ind c'.active - ind (o.any PppoeConn.active)
  sessionActive : st'.sessionActive =
    st.sessionActive + ind c'.sessionActive - ind (o.any PppoeConn.sessionActive)

/-- A function of the connection that gives nothing back was performed. -/
structure Turned (st : Stats) (c : PppoeConn) (r : Stats × PppoeConn) : Prop where
  ok : r.2.Ok
  balanced : Balanced st (some c) r.1 r.2
  same : r.2.addr = c.addr ∧ r.2.sid = c.sid ∧ r.2.cookie = c.cookie ∧ r.2.released = c.released
  live : r.2.live = c.live

section Turns

variable {c c' : PppoeConn} {st : Stats}

theorem Balanced.of_eq (hs : c'.starting = c.starting) (ha : c'.active = c.active)
    (hsa : c'.sessionActive = c.sessionActive) : Balanced st (some c) st c' := by
  constructor <;> simp only [hs, ha, hsa, Option.any_some] <;> omega

theorem newConn_ok (p : Padr) (sid : BitVec 16) : (newConn p sid).Ok :=
  ⟨.fresh List.not_mem_nil, rfl, rfl, fun _ => rfl, rfl, by simp [newConn]⟩

variable {place : Place} {ses : Ses} {calls : List Call}

theorem Stage.queue (h : Stage place ses calls) : Stage place ses (calls ++ [.disconnect]) := by
  have hmem : ∀ {calls : List Call}, Call.connectChannel ∉ calls →
      Call.connectChannel ∉ calls ++ [.disconnect] := by simp
  cases h with
  | fresh h => exact .fresh (hmem h)
  | connecting h => exact .connecting (hmem h)
  | running started h => exact .running started (hmem h)
  | closing h hq => exact .closing (hmem h) (List.mem_append_left _ hq)
  | leaving hp h => exact .leaving hp (hmem h)
  | ended hp hs h => exact .ended hp hs (hmem h)

theorem queued_turned (h : c.Ok) :
    Turned st c (st, { c with ctx := tritonContextCall c.ctx .disconnect }) := by
  unfold tritonContextCall
  split
  · exact ⟨h, .of_eq rfl rfl rfl, ⟨rfl, rfl, rfl, rfl⟩, rfl⟩
  · refine ⟨⟨h.stage.queue, h.started, h.session, h.bare, h.log, h.registered⟩,
      .of_eq ?_ rfl rfl, ⟨rfl, rfl, rfl, rfl⟩, rfl⟩
    simp [PppoeConn.starting, PppoeConn.begun]

theorem Stage.connect (h : Stage place ses (.connectChannel :: calls)) :
    place = .idle ∧ ses = .absent ∧ Call.connectChannel ∉ calls := by
  cases h with
  | fresh h => exact ⟨rfl, rfl, h⟩
  | connecting h | running _ h | closing h _ | leaving _ h | ended _ _ h =>
    exact absurd List.mem_cons_self h

theorem Stage.begun (h : Stage place ses calls)
    (hne : place ≠ .idle ∨ ses ≠ .absent) : Call.connectChannel ∉ calls := by
  cases h with
  | fresh h => simp at hne
  | connecting h | running _ h | closing h _ | leaving _ h | ended _ _ h => exact h

theorem Stage.disconnect
    (h : Stage place ses (.disconnect :: calls)) : Call.connectChannel ∉ calls := by
  cases h with
  | connecting h | running _ h | closing h _ | leaving _ h | ended _ _ h =>
    exact fun hc => h (.tail _ hc)

theorem Stage.connecting_absent (h : Stage .connecting ses calls) : ses = .absent := by
  cases h with
  | connecting => rfl
  | leaving hp => simp at hp
  | ended hp => cases hp

attribute [local simp] PppoeConn.live PppoeConn.begun PppoeConn.starting PppoeConn.active
  PppoeConn.sessionActive Place.ended Ses.flag Place.released ind

variable (h : c.Ok)
include h

theorem leave_ok (hp : c.place = .idle ∨ c.place = .connecting)
    (hcalls : Call.connectChannel ∉ calls) (nc : Bool) :
    ({ c with ctx := { c.ctx with pendingCalls := calls, needClose := nc }, place := .unhash } :
      PppoeConn).Ok := by
  have hended : c.place.ended = false := by rcases hp with hp | hp <;> rw [hp] <;> rfl
  have hlog : c.place.released = [] := by rcases hp with hp | hp <;> rw [hp] <;> rfl
  have hfreed : c.place ≠ .freed := by rcases hp with hp | hp <;> rw [hp] <;> nofun
  refine ⟨.leaving (.inl rfl) hcalls, h.started, ?_, h.bare, h.log.trans hlog, ?_⟩
  · rw [h.session, hended]
    rfl
  · simpa [hfreed] using h.registered

theorem takeCall_turned (hp : c.place = .idle) : Turned st c (takeCall st c) := by
  have hstage := h.stage
  unfold takeCall
  split
  · exact ⟨h, .of_eq rfl rfl rfl, ⟨rfl, rfl, rfl, rfl⟩, rfl⟩
  · next calls hcalls =>
    rw [hcalls] at hstage
    obtain ⟨-, hses, hno⟩ := hstage.connect
    refine ⟨⟨?_, ?_, ?_, ?_, ?_, ?_⟩, ⟨?_, ?_, ?_⟩, ⟨rfl, rfl, rfl, rfl⟩, ?_⟩
    · simpa [connectChannel, hses] using Stage.connecting hno
    · simpa [connectChannel] using h.started
    · simpa [connectChannel, hp] using h.session
    · simpa [connectChannel] using h.bare
    · simpa [connectChannel, hp] using h.log
    · simpa [connectChannel, hp] using h.registered
    all_goals simp [connectChannel, hses, hcalls, hno, hp]
  · next calls hcalls =>
    rw [hcalls] at hstage
    have hno := hstage.disconnect
    refine ⟨leave_ok h (.inl hp) hno c.ctx.needClose, .of_eq ?_ rfl rfl, ⟨rfl, rfl, rfl, rfl⟩, ?_⟩
    · simp [hcalls, hp]
    · simp [hp]

theorem established_turned (hp : c.place = .connecting) (r : Option Registered) :
    Turned st c (established st c r) := by
  have hno := h.stage.begun (.inl (by rw [hp]; nofun))
  have hses : c.ses = .absent := (hp ▸ h.stage).connecting_absent
  cases r with
  | none =>
    refine ⟨leave_ok h (.inr hp) hno c.ctx.needClose, .of_eq ?_ rfl rfl, ⟨rfl, rfl, rfl, rfl⟩, ?_⟩
    · simp [established, hp]
    · simp [established, hp]
  | some r =>
    refine ⟨⟨.running false hno, rfl, ?_, nofun, ?_, ?_⟩, ⟨?_, ?_, ?_⟩, ⟨rfl, rfl, rfl, rfl⟩, ?_⟩
    · simpa [established, hses, hp] using h.session
    · simpa [established, hp] using h.log
    · simpa [established, hp] using h.registered
    all_goals simp [established, hses, hp]

theorem pppStarted_turned (hp : c.place = .idle) (hs : c.ses = .running false) :
    Turned st c (pppStarted st { c with ses := .running true }) := by
  have hno := h.stage.begun (.inr (by rw [hs]; nofun))
  refine ⟨⟨?_, ?_, rfl, nofun, h.log, h.registered⟩, ⟨?_, ?_, ?_⟩, ⟨rfl, rfl, rfl, rfl⟩, rfl⟩
  · simpa [pppStarted, hp] using Stage.running true hno
  · simpa [pppStarted, hs] using h.started
  · simp [pppStarted, hs, hno]
  · simp [pppStarted, hs]
  · simp [pppStarted, hs]

theorem Ok.needFree (hp : c.place ≠ .freed) : c.ctx.needFree = false := by
  simpa [hp] using h.registered

theorem apSessionFinished_turned (hp : c.place = .idle) {started : Bool}
    (hs : c.ses = .running started) : Turned st c (apSessionFinished st c) := by
  have hno := h.stage.begun (.inr (by rw [hs]; nofun))
  have hps : c.pppStarted = true := by rw [h.started, PppoeConn.active, hs]
  have hnf := Ok.needFree h (by rw [hp]; nofun)
  have hss := h.session
  rw [hs] at hss
  have hcalls : Call.connectChannel ∉ c.ctx.pendingCalls ++ [.disconnect] := by simpa using hno
  have hover := Stage.closing hcalls (List.mem_append_right _ List.mem_cons_self)
  have heq : apSessionFinished st c =
      (if started then { st with active := st.active - 1, sessionActive := st.sessionActive - 1 }
        else { st with starting := st.starting - 1, active := st.active - 1 },
      { c with
        ses := .finished
        pppStarted := false
        sessionStarted := 2
        ctx := { c.ctx with
          pendingCalls := c.ctx.pendingCalls ++ [.disconnect]
          registered := .nothing } }) := by
    cases started <;>
      simp [apSessionFinished, pppFinished, endSession, hps, tritonContextCall, hnf, hss]
  rw [heq]
  refine ⟨⟨?_, rfl, rfl, fun _ => rfl, h.log, h.registered⟩, ⟨?_, ?_, ?_⟩, ⟨rfl, rfl, rfl, rfl⟩,
    rfl⟩
  · simpa [hp] using hover
  all_goals cases started <;> simp [hs, hno]

omit h in
theorem running_of_active (h : c.active = true) : ∃ started, c.ses = .running started := by
  cases hs : c.ses with
  | running started => exact ⟨started, rfl⟩
  | absent | finished => simp [hs] at h

theorem pppoeConnClose_turned (hp : c.place = .idle) (hq : c.ctx.pendingCalls = [])
    (now : Bool) : Turned st c (pppoeConnClose now st c) := by
  have hno : Call.connectChannel ∉ c.ctx.pendingCalls := by simp [hq]
  have hok : ({ c with ctx := { c.ctx with needClose := false } } : PppoeConn).Ok :=
    ⟨h.stage, h.started, h.session, h.bare, h.log, h.registered⟩
  unfold pppoeConnClose apSessionTerminate
  dsimp only
  split
  · next hps =>
    have hactive := h.started.symm.trans hps
    split
    · simp_all
    · split
      · obtain ⟨started, hs⟩ := running_of_active hactive
        have ht : Turned st _ _ := apSessionFinished_turned hok hp hs
        obtain ⟨hok', hbal, hsame, hlive⟩ := ht
        exact ⟨hok', ⟨hbal.starting, hbal.active, hbal.sessionActive⟩, hsame, hlive⟩
      · exact ⟨hok, .of_eq rfl rfl rfl, ⟨rfl, rfl, rfl, rfl⟩, rfl⟩
  · refine ⟨leave_ok h (.inl hp) hno false, .of_eq ?_ rfl rfl, ⟨rfl, rfl, rfl, rfl⟩, ?_⟩
    · simp [hp]
    · simp [hp]

theorem terminateStep_turned (hp : c.place = .terminate) : Turned st c (terminateStep st c) := by
  have hno := h.stage.begun (.inl (by rw [hp]; nofun))
  have hnf := Ok.needFree h (by rw [hp]; nofun)
  have hps := h.started
  have hss := h.session
  have hlog : c.released = Place.uncount.released := by rw [h.log, hp]; rfl
  rw [hp] at hss
  cases hs : c.ses with
  | absent =>
    rw [hs] at hss
    rw [PppoeConn.active, hs] at hps
    have heq : terminateStep st c = ({ st with starting := st.starting - 1 },
        { c with sessionStarted := 2, place := .uncount }) := by
      simp [terminateStep, endSession, hps, hss]
    rw [heq]
    refine ⟨⟨.ended rfl (by simp [hs]) hno, ?_, ?_, h.bare, hlog, ?_⟩, ⟨?_, ?_, ?_⟩,
      ⟨rfl, rfl, rfl, rfl⟩, ?_⟩
    · simpa [hs] using hps
    · simp [hs]
    · simpa using hnf
    · simp [hs, hno, hp]
    · simp [hs]
    · simp [hs]
    · simp [hp]
  | running started =>
    have heq : terminateStep st c =
        (if started then { st with active := st.active - 1, sessionActive := st.sessionActive - 1 }
          else { st with starting := st.starting - 1, active := st.active - 1 },
        { c with
          ses := .finished
          pppStarted := false
          sessionStarted := 2
          ctx := { c.ctx with registered := .nothing }
          place := .uncount }) := by
      cases started <;> simp [terminateStep, apSessionTerminate, apSessionFinished, pppFinished,
        endSession, hps, hss, hs]
    rw [heq]
    refine ⟨⟨.ended rfl nofun hno, rfl, rfl, fun _ => rfl, hlog, ?_⟩, ⟨?_, ?_, ?_⟩,
      ⟨rfl, rfl, rfl, rfl⟩, ?_⟩
    · simpa using hnf
    · cases started <;> simp [hs, hno]
    · cases started <;> simp [hs]
    · cases started <;> simp [hs]
    · simp [hp]
  | finished =>
    rw [hs] at hss
    rw [PppoeConn.active, hs] at hps
    have heq : terminateStep st c = (st, { c with place := .uncount }) := by
      simp [terminateStep, endSession, hps, hss]
    rw [heq]
    refine ⟨⟨.ended rfl (by simp [hs]) hno, ?_, ?_, h.bare, hlog, ?_⟩, .of_eq ?_ rfl rfl,
      ⟨rfl, rfl, rfl, rfl⟩, ?_⟩
    · simpa [hs] using hps
    · simpa [hs] using hss
    · simpa using hnf
    · simp [hs]
    · simp [hp]

theorem register_turned {started : Bool} (hs : c.ses = .running started) (r : Registered) :
    Turned st c (st, { c with ctx := { c.ctx with registered := r } }) := by
  refine ⟨⟨h.stage, h.started, h.session, ?_, h.log, h.registered⟩, .of_eq rfl rfl rfl,
    ⟨rfl, rfl, rfl, rfl⟩, rfl⟩
  simp [hs]

theorem needClose_turned : Turned st c (st, { c with ctx := { c.ctx with needClose := true } }) :=
  ⟨⟨h.stage, h.started, h.session, h.bare, h.log, h.registered⟩, .of_eq rfl rfl rfl,
    ⟨rfl, rfl, rfl, rfl⟩, rfl⟩

/-! ### The steps of `disconnect` that give something back -/

omit h in
theorem Stage.not_running (h : Stage place ses calls)
    (hp : place.ended = true) (started : Bool) : ses ≠ .running started := by
  cases h with
  | fresh | connecting | running | closing => cases hp
  | leaving h => rcases h with rfl | rfl | rfl <;> cases hp
  | ended _ hs => exact hs started

theorem Ok.advance (place : Place) (hold : c.place ≠ .idle ∧ c.place ≠ .freed)
    (hnew : place ≠ .idle ∧ place ≠ .connecting ∧ place ≠ .freed)
    (hended : place.ended = c.place.ended) :
    ({ c with place := place, released := place.released } : PppoeConn).Ok := by
  have hno := h.stage.begun (.inl hold.1)
  refine ⟨?_, h.started, ?_, h.bare, rfl, ?_⟩
  · cases hp : place.ended with
    | true => exact .ended hp (h.stage.not_running (hended.symm.trans hp)) hno
    | false =>
      refine .leaving ?_ hno
      cases place <;> simp_all
  · rw [h.session, hended]
  · simpa [hnew.2.2] using Ok.needFree h hold.2

omit h in
theorem starting_of_ended {rel : List Resource} (hended : place.ended = c.place.ended) :
    ({ c with place := place, released := rel } : PppoeConn).starting = c.starting := by
  simp only [PppoeConn.starting, PppoeConn.begun, hended]

theorem unregisterStep_eq (hp : c.place = .unregister) :
    unregisterStep c =
      { c with
        ctx := { c.ctx with pendingCalls := [], needFree := true }
        place := .freed
        released := c.released ++ [.memory] } := by
  have hactive : c.active = false := by
    cases hs : c.ses with
    | running started => exact absurd hs (h.stage.not_running (by rw [hp]; rfl) started)
    | absent | finished => simp [hs]
  have hbare := h.bare hactive
  simp [unregisterStep, tritonContextUnregister, hbare, Registered.nothing]

theorem freed_ok (hp : c.place = .unregister) : (unregisterStep c).Ok := by
  have hended : c.place.ended = true := by rw [hp]; rfl
  rw [unregisterStep_eq h hp]
  refine ⟨.ended rfl (h.stage.not_running hended) List.not_mem_nil, h.started, ?_, h.bare, ?_, ?_⟩
  · rw [h.session, hended]
    rfl
  · simp [h.log, hp]
  · simp

theorem freed_starting (hp : c.place = .unregister) : (unregisterStep c).starting = c.starting := by
  simp_all [h.stage.begun, unregisterStep_eq]

end Turns

/-! ## The invariant -/

def PppoeConn.phase (c : PppoeConn) : Phase :=
  if Resource.cookie ∉ c.released then .live
  else if Resource.key ∉ c.released then .leaving
  else .gone

def PppoeConn.ident (c : PppoeConn) : Ident := ⟨c.addr, c.sid, c.cookie, c.phase⟩

def PppoeServ.ids (v : PppoeServ) : List Ident := v.conns.map PppoeConn.ident

structure Tables (v : PppoeServ) : Prop where
  cookies : CookieInv v.ids v.cookie2conn v.padr
  sound : KeySound v.ids v.macSessid2conn
  full : KeyFull v.ids v.macSessid2conn

/-- The session identifiers in use are those of the connections, no two of which share one. -/
structure Held (w : World) : Prop where
  inv : Sid.Inv w.sids
  held : ∀ j i c, w.conn j i = some c → Resource.sid ∉ c.released → c.sid.toNat ∈ w.sids.live
  holder : ∀ n ∈ w.sids.live, ∃ j i c, w.conn j i = some c ∧ Resource.sid ∉ c.released ∧
    c.sid.toNat = n
  unique : ∀ j i c j' i' c', w.conn j i = some c → w.conn j' i' = some c' →
    Resource.sid ∉ c.released → Resource.sid ∉ c'.released → c.sid = c'.sid → j = j' ∧ i = i'

structure Inv (w : World) : Prop where
  ok : ∀ j i c, w.conn j i = some c → c.Ok
  tables : ∀ j, Tables (w.serv j)
  held : Held w
  counted : Counted w

section Worlds

variable {w w' : World} {j i : Nat} {c c' : PppoeConn} {v : PppoeServ} {st : Stats}
  {sids : Sid.Sids}

def Changed (w w' : World) (j i : Nat) (c' : PppoeConn) : Prop :=
  ∀ j' i', w'.conn j' i' = if j' = j ∧ i' = i then some c' else w.conn j' i'

theorem conn_put (j' i' : Nat) :
    (w.put j v sids st).conn j' i' = if j' = j then v.conns[i']? else w.conn j' i' := by
  unfold World.conn World.put
  by_cases hj : j' = j
  · subst hj
    simp
  · simp [hj]

theorem changed_set (hc : w.conn j i = some c) (hv : v.conns = (w.serv j).conns.set i c') :
    Changed w (w.put j v sids st) j i c' := by
  intro j' i'
  have hlen : i < (w.serv j).conns.length := (List.getElem?_eq_some_iff.1 hc).1
  rw [conn_put]
  by_cases hj : j' = j
  · subst hj
    rw [if_pos rfl, hv]
    by_cases hi : i' = i
    · simp_all
    · rw [if_neg fun h => hi h.2, List.getElem?_set_ne (Ne.symm hi)]
      rfl
  · rw [if_neg hj, if_neg fun h => hj h.1]

theorem changed_append (hv : v.conns = (w.serv j).conns ++ [c']) :
    Changed w (w.put j v sids st) j (w.serv j).conns.length c' := by
  intro j' i'
  rw [conn_put]
  by_cases hj : j' = j
  · grind [World.conn]
  · rw [if_neg hj, if_neg fun h => hj h.1]

theorem Changed.self (h : Changed w w' j i c') : w'.conn j i = some c' := by
  rw [h, if_pos ⟨rfl, rfl⟩]

variable {j' : Nat}

theorem Changed.cases (h : Changed w w' j i c') {i' : Nat} {d : PppoeConn}
    (hd : w'.conn j' i' = some d) :
    j' = j ∧ i' = i ∧ d = c' ∨ ¬ (j' = j ∧ i' = i) ∧ w.conn j' i' = some d := by
  rw [h] at hd
  grind

theorem ok_changed (hi : ∀ j i c, w.conn j i = some c → c.Ok) (h : Changed w w' j i c')
    (hok : c'.Ok) : ∀ j i c, w'.conn j i = some c → c.Ok := by
  intro j' i' d hd
  rcases h.cases hd with ⟨-, -, rfl⟩ | ⟨-, hd⟩
  · exact hok
  · exact hi j' i' d hd

theorem Counted.changed (hi : Counted w) (h : Changed w w' j i c') (hself : (w'.serv j).connCnt =
      (w.serv j).connCnt + ind c'.live - ind ((w.conn j i).any PppoeConn.live))
    (hother : ∀ j', j' ≠ j → (w'.serv j').connCnt = (w.serv j').connCnt)
    (hb : Balanced w.stats (w.conn j i) w'.stats c') : Counted w' := by
  have hne : ∀ x : Nat × Nat, x ≠ (j, i) → w'.conn x.1 x.2 = w.conn x.1 x.2 := by
    rintro ⟨j', i'⟩ hx
    rw [h, if_neg fun he => hx (Prod.ext he.1 he.2)]
  constructor
  · intro j'
    by_cases hj : j' = j
    · subst hj
      refine (hi.connCnt j').move (a := i) (fun i' hi' => ?_) ?_
      · rw [hne (j', i') fun he => hi' (congrArg Prod.snd he)]
      · rw [hself, h.self]
        rfl
    simp_all [hi.connCnt]
  · refine hi.starting.move (a := (j, i)) (fun x hx => by rw [hne x hx]) ?_
    rw [hb.starting, h.self]
    rfl
  · refine hi.active.move (a := (j, i)) (fun x hx => by rw [hne x hx]) ?_
    rw [hb.active, h.self]
    rfl
  · refine hi.sessionActive.move (a := (j, i)) (fun x hx => by rw [hne x hx]) ?_
    rw [hb.sessionActive, h.self]
    rfl

/-! ### Session identifiers -/

theorem Held.keep (hi : Held w) (h : Changed w w' j i c') (hs : w'.sids = w.sids)
    (hc : w.conn j i = some c) (hsid : c'.sid = c.sid)
    (hrel : Resource.sid ∈ c'.released ↔ Resource.sid ∈ c.released) : Held w' := by
  -- A connection that holds an identifier has held it before.
  have hback : ∀ {j' i' d}, w'.conn j' i' = some d → Resource.sid ∉ d.released →
      ∃ d', w.conn j' i' = some d' ∧ Resource.sid ∉ d'.released ∧ d'.sid = d.sid := by
    intro j' i' d hd hr
    rcases h.cases hd with ⟨rfl, rfl, rfl⟩ | ⟨-, hd⟩
    · exact ⟨c, hc, mt hrel.2 hr, hsid.symm⟩
    · exact ⟨d, hd, hr, rfl⟩
  constructor
  · rw [hs]
    exact hi.inv
  · grind [hi.held]
  · intro n hn
    rw [hs] at hn
    obtain ⟨j', i', d, hd, hr, hsid'⟩ := hi.holder n hn
    by_cases he : j' = j ∧ i' = i
    · obtain ⟨rfl, rfl⟩ := he
      cases hc.symm.trans hd
      exact ⟨j', i', c', h.self, mt hrel.1 hr, hsid ▸ hsid'⟩
    · exact ⟨j', i', d, by rw [h, if_neg he]; exact hd, hr, hsid'⟩
  · intro j1 i1 c1 j2 i2 c2 h1 h2 hr1 hr2 heq
    obtain ⟨d1, hd1, hr1', hs1⟩ := hback h1 hr1
    obtain ⟨d2, hd2, hr2', hs2⟩ := hback h2 hr2
    exact hi.unique j1 i1 d1 j2 i2 d2 hd1 hd2 hr1' hr2' (by rw [hs1, hs2, heq])

theorem Held.add (hi : Held w) (h : Changed w w' j i c') (hfree : w.conn j i = none)
    (hinv : Sid.Inv w'.sids) {sid : Nat} (hlive : w'.sids.live = w.sids.live ++ [sid])
    (hno : sid ∉ w.sids.live) (hsid : c'.sid.toNat = sid) (hrel : Resource.sid ∉ c'.released) :
    Held w' := by
  have hnew : ∀ {j' i' d}, w.conn j' i' = some d → Resource.sid ∉ d.released → d.sid ≠ c'.sid := by
    grind [hi.held]
  refine ⟨hinv, ?_, ?_, ?_⟩
  · intro j' i' d hd hr
    rw [hlive, List.mem_append, List.mem_singleton]
    rcases h.cases hd with ⟨-, -, rfl⟩ | ⟨-, hd⟩
    · exact .inr hsid
    · exact .inl (hi.held j' i' d hd hr)
  · intro n hn
    rw [hlive, List.mem_append, List.mem_singleton] at hn
    rcases hn with hn | rfl
    · obtain ⟨j', i', d, hd, hr, hs⟩ := hi.holder n hn
      refine ⟨j', i', d, ?_, hr, hs⟩
      rw [h, if_neg]
      · exact hd
      · rintro ⟨rfl, rfl⟩
        cases hfree.symm.trans hd
    · exact ⟨j, i, c', h.self, hrel, hsid⟩
  · intro j1 i1 c1 j2 i2 c2 h1 h2 hr1 hr2 heq
    rcases h.cases h1 with ⟨rfl, rfl, rfl⟩ | ⟨-, h1⟩ <;>
      rcases h.cases h2 with ⟨rfl, rfl, rfl⟩ | ⟨-, h2⟩
    · exact ⟨rfl, rfl⟩
    · exact absurd heq.symm (hnew h2 hr2)
    · exact absurd heq (hnew h1 hr1)
    · exact hi.unique j1 i1 c1 j2 i2 c2 h1 h2 hr1 hr2 heq

theorem Held.release (hi : Held w) (h : Changed w w' j i c') (hc : w.conn j i = some c)
    (hr : Resource.sid ∉ c.released) (hrel : Resource.sid ∈ c'.released)
    (hlow : c.sid.toNat % 64 < 31) (junk : BitVec 64)
    (hs : w'.sids = Sid.disconnect w.sids (w.sids.live.idxOf c.sid.toNat) c.sid.toNat junk) :
    Held w' := by
  have hmem := hi.held j i c hc hr
  have hget : w.sids.live[w.sids.live.idxOf c.sid.toNat]? = some c.sid.toNat :=
    List.getElem?_idxOf hmem
  have hlive : ∀ n, n ∈ w'.sids.live ↔ n ≠ c.sid.toNat ∧ n ∈ w.sids.live := by
    intro n
    rw [hs, Sid.disconnect, ← List.erase_eq_eraseIdx_of_idxOf rfl]
    exact hi.inv.distinct.mem_erase_iff
  -- Who holds an identifier now is another connection than this one.
  have hback : ∀ {j' i' d}, w'.conn j' i' = some d → Resource.sid ∉ d.released →
      ¬ (j' = j ∧ i' = i) ∧ w.conn j' i' = some d := by
    grind [h.cases]
  refine ⟨?_, ?_, ?_, ?_⟩
  · rw [hs]
    exact hi.inv.disconnect hget hlow junk
  · grind [hi.held, hi.unique, BitVec.eq_of_toNat_eq]
  · intro n hn
    obtain ⟨hne, hn⟩ := (hlive n).1 hn
    obtain ⟨j', i', d, hd, hrd, rfl⟩ := hi.holder n hn
    refine ⟨j', i', d, ?_, hrd, rfl⟩
    rw [h, if_neg]
    · exact hd
    grind
  · intro j1 i1 c1 j2 i2 c2 h1 h2 hr1 hr2 heq
    exact hi.unique j1 i1 c1 j2 i2 c2 (hback h1 hr1).2 (hback h2 hr2).2 hr1 hr2 heq

/-! ### Tables -/

theorem ids_of_conn (h : v.conns[i]? = some c) : v.ids[i]? = some c.ident := by
  rw [PppoeServ.ids, List.getElem?_map, h]
  rfl

theorem ids_set (v : PppoeServ) (i : Nat) (c : PppoeConn) :
    (v.conns.set i c).map PppoeConn.ident = v.ids.set i c.ident :=
  List.map_set

theorem ids_set_same (h : v.conns[i]? = some c) (hid : c'.ident = c.ident) :
    (v.set i c').ids = v.ids := by
  grind [PppoeServ.ids, PppoeServ.set, ids_set, List.set_getElem_self]

theorem tables_put (hi : ∀ j, Tables (w.serv j)) (hv : Tables v) (j' : Nat) :
    Tables ((w.put j v sids st).serv j') := by
  unfold World.put
  grind

theorem serv_put_self : (w.put j v sids st).serv j = v := by simp [World.put]

theorem serv_put_other (h : j' ≠ j) : (w.put j v sids st).serv j' = w.serv j' := by
  simp [World.put, h]

theorem sids_put : (w.put j v sids st).sids = sids := rfl

theorem stats_put : (w.put j v sids st).stats = st := rfl

theorem connCnt_put_self : ((w.put j v sids st).serv j).connCnt = v.connCnt := by
  rw [serv_put_self]

theorem connCnt_put_other (h : j' ≠ j) :
    ((w.put j v sids st).serv j').connCnt = (w.serv j').connCnt := by rw [serv_put_other h]

theorem Tables.frame (h : Tables v) {v' : PppoeServ} (hids : v'.ids = v.ids)
    (hct : v'.cookie2conn = v.cookie2conn) (hkt : v'.macSessid2conn = v.macSessid2conn)
    (hpadr : v'.padr = v.padr) : Tables v' := by
  refine ⟨?_, ?_, ?_⟩
  · rw [hids, hct, hpadr]
    exact h.cookies
  · rw [hids, hkt]
    exact h.sound
  · rw [hids, hkt]
    exact h.full

/-! ### The steps -/

theorem ident_eq (hsame : c'.addr = c.addr ∧ c'.sid = c.sid ∧ c'.cookie = c.cookie ∧
    c'.released = c.released) : c'.ident = c.ident := by
  simp_all [PppoeConn.ident, PppoeConn.phase]

theorem Inv.turned (hi : Inv w) (hc : w.conn j i = some c) {r : Stats × PppoeConn}
    (ht : Turned w.stats c r) : Inv (w.put j ((w.serv j).set i r.2) w.sids r.1) := by
  have hch : Changed w (w.put j ((w.serv j).set i r.2) w.sids r.1) j i r.2 := changed_set hc rfl
  have hids := ids_set_same (v := w.serv j) hc (ident_eq ht.same)
  refine ⟨ok_changed hi.ok hch ht.ok, tables_put hi.tables ((hi.tables j).frame hids rfl rfl rfl),
    hi.held.keep hch rfl hc ht.same.2.1 (by rw [ht.same.2.2.2]),
    hi.counted.changed hch ?_ (fun _ h => connCnt_put_other h) (hc ▸ ht.balanced)⟩
  rw [connCnt_put_self, hc]
  show (w.serv j).connCnt = _ + ind r.2.live - ind c.live
  rw [ht.live, Int.add_sub_cancel]

theorem phase_live (h : c.released = []) : c.ident.phase = .live := by
  simp [PppoeConn.ident, PppoeConn.phase, h]

theorem phase_leaving (h : c.released = [.cookie]) : c.ident.phase = .leaving := by
  simp [PppoeConn.ident, PppoeConn.phase, h]

section

variable (hi : Inv w)
include hi

/-- **A step of `disconnect`** within one half of it, by what it does to the tables, the identifiers
and the count. -/
theorem Inv.advance (hc : w.conn j i = some c) (place : Place)
    (hold : c.place ≠ .idle ∧ c.place ≠ .freed)
    (hnew : place ≠ .idle ∧ place ≠ .connecting ∧ place ≠ .freed)
    (hended : place.ended = c.place.ended)
    (hv : v.conns = (w.serv j).conns.set i { c with place := place, released := place.released })
    (htab : Tables v)
    (hheld : Changed w (w.put j v sids w.stats) j i
      { c with place := place, released := place.released } →
      Held (w.put j v sids w.stats))
    (hcnt : v.connCnt = (w.serv j).connCnt +
      ind ({ c with place := place, released := place.released } : PppoeConn).live - ind c.live) :
    Inv (w.put j v sids w.stats) := by
  have hok := Ok.advance (hi.ok j i c hc) place hold hnew hended
  have hch : Changed w (w.put j v sids w.stats) j i
      { c with place := place, released := place.released } := changed_set hc hv
  refine ⟨ok_changed hi.ok hch hok, tables_put hi.tables htab, hheld hch,
    hi.counted.changed hch ?_ (fun _ h => connCnt_put_other h)
      (hc ▸ .of_eq (starting_of_ended hended) rfl rfl)⟩
  rw [hc]
  exact connCnt_put_self.trans hcnt

theorem Inv.unhash (hc : w.conn j i = some c) (hp : c.place = .unhash) :
    Inv (w.put j
      { (w.serv j).set i { c with place := .remove, released := c.released ++ [.cookie] } with
        cookie2conn := (w.serv j).cookie2conn.free cookieIdx c.cookie } w.sids w.stats) := by
  have hrel : c.released = [] := by rw [(hi.ok j i c hc).log, hp]; rfl
  have hlive := phase_live hrel
  have hget := ids_of_conn (v := w.serv j) hc
  have htab := hi.tables j
  rw [hrel, List.nil_append]
  refine hi.advance hc .remove (by simp [hp]) (by simp) (by rw [hp]; rfl) rfl ⟨?_, ?_, ?_⟩
    (fun hch => hi.held.keep hch rfl hc rfl (by simp [Place.released, hrel])) ?_
  · rw [PppoeServ.ids, PppoeServ.set, ids_set]
    exact htab.cookies.unhash hget hlive
  · rw [PppoeServ.ids, PppoeServ.set, ids_set]
    exact htab.sound.unhash hget
  · rw [PppoeServ.ids, PppoeServ.set, ids_set]
    exact htab.full.unhash hget (by rw [hlive]; nofun)
  · simp [PppoeConn.live, hp, PppoeServ.set]

theorem Inv.remove (hc : w.conn j i = some c) (hp : c.place = .remove) (behind : BitVec 16) :
    Inv (w.put j
      { (w.serv j).set i { c with place := .terminate, released := c.released ++ [.key] } with
        macSessid2conn := (w.serv j).macSessid2conn.free keyIdx (key64 c.addr behind c.sid) }
      w.sids w.stats) := by
  have hrel : c.released = [.cookie] := by rw [(hi.ok j i c hc).log, hp]; rfl
  have hid : ({ c with place := .terminate, released := [.cookie] ++ [.key] } :
      PppoeConn).ident = { c.ident with phase := .gone } := by simp [PppoeConn.ident, PppoeConn.phase]
  have hleaving := phase_leaving hrel
  have hget := ids_of_conn (v := w.serv j) hc
  have htab := hi.tables j
  have hkey : key64 c.addr behind c.sid = c.ident.key := key64_eq_key c.ident behind
  rw [hrel, hkey]
  refine hi.advance hc .terminate (by simp [hp]) (by simp) (by rw [hp]; rfl) rfl
    ⟨?_, ?_, ?_⟩ (fun hch => hi.held.keep hch rfl hc rfl (by simp [Place.released, hrel])) ?_
  · rw [PppoeServ.ids, PppoeServ.set, ids_set]
    refine htab.cookies.remove hget (by rw [hleaving]; nofun) ?_
    nofun
  · rw [PppoeServ.ids, PppoeServ.set, ids_set]
    exact hid ▸ htab.sound.remove hget
  · rw [PppoeServ.ids, PppoeServ.set, ids_set]
    exact hid ▸ htab.full.remove hget (by rw [hleaving]; nofun)
  · simp [PppoeConn.live, hp, PppoeServ.set]

omit hi in
theorem uncount_connCnt (v : PppoeServ) : v.uncount.connCnt = v.connCnt - 1 := by
  grind [PppoeServ.uncount]

omit hi in
theorem uncount_frame (v : PppoeServ) :
    v.uncount.conns = v.conns ∧ v.uncount.cookie2conn = v.cookie2conn ∧
      v.uncount.macSessid2conn = v.macSessid2conn ∧ v.uncount.padr = v.padr := by
  grind [PppoeServ.uncount]

section

variable (hc : w.conn j i = some c)
include hc

theorem Inv.uncount (hp : c.place = .uncount) :
    Inv (w.put j (((w.serv j).set i { c with place := .release }).uncount) w.sids w.stats) := by
  have hrel : c.released = Place.release.released := by rw [(hi.ok j i c hc).log, hp]; rfl
  have hc' : ({ c with place := .release } : PppoeConn) =
      { c with place := .release, released := Place.release.released } := by rw [← hrel]
  obtain ⟨hconns, hct, hkt, hpadr⟩ := uncount_frame ((w.serv j).set i { c with place := .release })
  refine hi.advance hc .release (by simp [hp]) (by simp) (by rw [hp]; rfl)
    (hconns.trans (by rw [hc']; rfl)) ((hi.tables j).frame ?_ hct hkt hpadr)
    (fun hch => hi.held.keep hch rfl hc rfl (by rw [hrel])) ?_
  · rw [PppoeServ.ids, hconns]
    exact ids_set_same hc rfl
  · rw [uncount_connCnt]
    simp [PppoeConn.live, hp, PppoeServ.set, ind]

theorem Inv.release (hp : c.place = .release) (hlow : c.sid.toNat % 64 < 31) (junk : BitVec 64) :
    Inv (w.put j
      ((w.serv j).set i { c with place := .unregister, released := c.released ++ [.sid] })
      (Sid.disconnect w.sids (w.sids.live.idxOf c.sid.toNat) c.sid.toNat junk) w.stats) := by
  have hrel : c.released = [.cookie, .key] := by rw [(hi.ok j i c hc).log, hp]; rfl
  have hid : ({ c with place := .unregister, released := [.cookie, .key] ++ [.sid] } :
      PppoeConn).ident = c.ident := by simp [PppoeConn.ident, PppoeConn.phase, hrel]
  rw [hrel]
  refine hi.advance hc .unregister (by simp [hp]) (by simp) (by rw [hp]; rfl) rfl
    ((hi.tables j).frame (ids_set_same hc hid) rfl rfl rfl)
    (fun hch => hi.held.release hch hc (by simp [hrel]) (by simp [Place.released]) hlow junk rfl) ?_
  simp [PppoeConn.live, hp, PppoeServ.set]

theorem Inv.unregister (hp : c.place = .unregister) :
    Inv (w.put j ((w.serv j).set i (unregisterStep c)) w.sids w.stats) := by
  have hok := hi.ok j i c hc
  have heq := unregisterStep_eq hok hp
  have hid : (unregisterStep c).ident = c.ident := by simp [heq, PppoeConn.ident, PppoeConn.phase]
  have hch : Changed w (w.put j ((w.serv j).set i (unregisterStep c)) w.sids w.stats) j i
      (unregisterStep c) := changed_set hc rfl
  have hbal : Balanced w.stats (some c) w.stats (unregisterStep c) :=
    .of_eq (freed_starting hok hp) (by rw [heq]; rfl) (by rw [heq]; rfl)
  refine ⟨ok_changed hi.ok hch (freed_ok hok hp),
    tables_put hi.tables ((hi.tables j).frame (ids_set_same hc hid) rfl rfl rfl),
    hi.held.keep hch rfl hc (by rw [heq]) (by simp [heq]),
    hi.counted.changed hch ?_ (fun _ h => connCnt_put_other h) (hc ▸ hbal)⟩
  rw [connCnt_put_self, hc]
  simp [PppoeConn.live, heq, hp, PppoeServ.set]

theorem disconnectStep_inv {behind : BitVec 16}
    {junk : BitVec 64} (hlow : c.place = .release → c.sid.toNat % 64 < 31)
    (h : disconnectStep w j i c behind junk = some w') : Inv w' := by
  unfold disconnectStep at h
  cases hp : c.place with
  | idle | connecting | freed => simp [hp] at h
  | unhash =>
    simp only [hp, Option.some.injEq] at h
    exact h ▸ hi.unhash hc hp
  | remove => grind [hi.remove]
  | terminate => grind [hi.turned, terminateStep_turned, hi.ok]
  | uncount =>
    simp only [hp, Option.some.injEq] at h
    exact h ▸ hi.uncount hc hp
  | release => grind [hi.release]
  | unregister =>
    simp only [hp, Option.some.injEq] at h
    exact h ▸ hi.unregister hc hp

end

/-! ### The steps of a server -/

theorem Inv.frame (hconns : v.conns = (w.serv j).conns)
    (hcnt : v.connCnt = (w.serv j).connCnt) (htab : Tables v) (hinv : Sid.Inv sids)
    (hlive : sids.live = w.sids.live) : Inv (w.put j v sids w.stats) := by
  have hconn : ∀ j' i', (w.put j v sids w.stats).conn j' i' = w.conn j' i' := by
    intro j' i'
    rw [conn_put, hconns]
    split
    · next hj => rw [hj]; rfl
    · rfl
  refine ⟨?_, tables_put hi.tables htab, ⟨hinv, ?_, ?_, ?_⟩, ⟨?_, ?_, ?_, ?_⟩⟩
  · simpa only [hconn] using hi.ok
  · simpa only [hconn, sids_put, hlive] using hi.held.held
  · simpa only [hconn, sids_put, hlive] using hi.held.holder
  · simpa only [hconn] using hi.held.unique
  · grind [connCnt_put_self, connCnt_put_other, hi.counted.connCnt]
  · simpa only [hconn, stats_put] using hi.counted.starting
  · simpa only [hconn, stats_put] using hi.counted.active
  · simpa only [hconn, stats_put] using hi.counted.sessionActive

theorem Inv.padr (p : Padr) : Inv (w.put j (pppoeRecvPadr (w.serv j) p) w.sids w.stats) := by
  have htab := hi.tables j
  have hkeep : Inv (w.put j (w.serv j) w.sids w.stats) := hi.frame rfl rfl htab hi.held.inv rfl
  unfold pppoeRecvPadr
  split
  · split
    · exact hkeep
    · split
      · exact hkeep
      · refine hi.frame rfl rfl ⟨⟨htab.cookies.get, ?_⟩, htab.sound, htab.full⟩ hi.held.inv rfl
        rintro q hq
        cases hq
        cases hget : (w.serv j).cookie2conn.get cookieIdx p.cookie with
        | none => rfl
        | some i =>
          -- An entry of the table is a connection, so the lookup would have found it.
          simp_all [htab.cookies.get, PppoeServ.ids]
  · exact hkeep

omit hi in
theorem Ok.holds (h : c.Ok) (hp : c.phase ≠ .gone) : Resource.sid ∉ c.released := by
  unfold PppoeConn.phase at hp
  rw [h.log] at hp ⊢
  cases hplace : c.place <;> simp [hplace, Place.released] at hp ⊢

theorem Inv.add {p : Padr} (hpadr : (w.serv j).padr = some p) (behind : BitVec 16)
    {n : Nat} (hinv : Sid.Inv sids) (hlive : sids.live = w.sids.live ++ [n])
    (hno : n ∉ w.sids.live) :
    Inv (w.put j ((w.serv j).add p behind (BitVec.ofNat 16 n)) sids w.stats) := by
  have htab := hi.tables j
  have hn : n < 65535 := (hinv.range n (hlive ▸ List.mem_append_right _ List.mem_cons_self)).2
  have hsid : (newConn p (BitVec.ofNat 16 n)).sid.toNat = n := by
    simp [newConn, Nat.mod_eq_of_lt (Nat.lt_trans hn (by decide : 65535 < 65536))]
  have hch : Changed w (w.put j ((w.serv j).add p behind (BitVec.ofNat 16 n)) sids w.stats) j
      (w.serv j).conns.length (newConn p (BitVec.ofNat 16 n)) := changed_append rfl
  have hnone : w.conn j (w.serv j).conns.length = none := List.getElem?_eq_none (Nat.le_refl _)
  have hlen : (w.serv j).conns.length = (w.serv j).ids.length := by simp [PppoeServ.ids]
  have hids : ((w.serv j).add p behind (BitVec.ofNat 16 n)).ids =
      (w.serv j).ids ++ [(newConn p (BitVec.ofNat 16 n)).ident] := by
    simp [PppoeServ.ids, PppoeServ.add]
  have hkey : key64 p.addr behind (BitVec.ofNat 16 n) = (newConn p (BitVec.ofNat 16 n)).ident.key :=
    key64_eq_key (newConn p (BitVec.ofNat 16 n)).ident behind
  have hphase : (newConn p (BitVec.ofNat 16 n)).ident.phase = .live := phase_live rfl
  have hcookies : CookieInv (w.serv j).ids (w.serv j).cookie2conn (some p) := hpadr ▸ htab.cookies
  have hbal : Balanced w.stats none w.stats (newConn p (BitVec.ofNat 16 n)) :=
    ⟨by simp [newConn, PppoeConn.starting, PppoeConn.begun],
      by simp [newConn, PppoeConn.active], by simp [newConn, PppoeConn.sessionActive]⟩
  refine ⟨ok_changed hi.ok hch (newConn_ok p _), tables_put hi.tables ⟨?_, ?_, ?_⟩,
    hi.held.add hch hnone hinv hlive hno hsid (by simp [newConn]),
    hi.counted.changed hch ?_ (fun _ h => connCnt_put_other h) (hnone ▸ hbal)⟩
  · rw [hids]
    simp only [PppoeServ.add, hlen]
    exact hcookies.allocate (newConn p (BitVec.ofNat 16 n)).ident rfl hphase
  · simp_all [PppoeServ.add, htab.sound.allocate]
  · rw [hids]
    simp only [PppoeServ.add, hlen, hkey]
    refine KeyFull.allocate _ htab.sound htab.full ?_
    rintro a ha hp ⟨-, hs⟩
    obtain ⟨d, hmem, rfl⟩ := List.mem_map.1 ha
    obtain ⟨i', hd⟩ := List.mem_iff_getElem?.1 hmem
    have hheld := hi.held.held j i' d hd (Ok.holds (hi.ok j i' d hd) hp)
    have hds : d.sid = (newConn p (BitVec.ofNat 16 n)).sid := hs
    rw [hds, hsid] at hheld
    exact hno hheld
  · rw [connCnt_put_self, hnone]
    simp [PppoeServ.add, newConn, PppoeConn.live, ind]

theorem Inv.allocated {p : Padr} (hpadr : (w.serv j).padr = some p)
    (behind : BitVec 16) : Inv (allocateChannel w j p behind) := by
  have halloc := hi.held.inv.allocate
  have htab := hi.tables j
  unfold allocateChannel
  rcases hi.held.inv.allocate_cases with ⟨k, bit, -, -, -, -, hno, heq⟩ | ⟨⟨k, -, heq⟩, -⟩
  · simp_all [hi.add]
  · rw [heq] at halloc ⊢
    refine hi.frame rfl rfl ⟨⟨htab.cookies.get, ?_⟩, htab.sound, htab.full⟩ halloc rfl
    intro q hq
    cases hq

theorem Inv.padt (f : Handoff.Frame) :
    Inv (w.put j (pppoeRecvPadt (w.serv j) f) w.sids w.stats) := by
  have htab := hi.tables j
  have hkeep : Inv (w.put j (w.serv j) w.sids w.stats) := hi.frame rfl rfl htab hi.held.inv rfl
  unfold pppoeRecvPadt
  split
  · exact hkeep
  · split
    · exact hkeep
    · next k hget =>
      obtain ⟨a, ha, -⟩ := htab.sound _ k hget
      rw [PppoeServ.ids, List.getElem?_map] at ha
      obtain ⟨d, hd, -⟩ := Option.map_eq_some_iff.1 ha
      have hq : Turned w.stats d _ := queued_turned (hi.ok j k d hd)
      rw [List.modify_eq_set_getElem?, hd]
      exact hi.turned (r := (w.stats, _)) hd hq

theorem Inv.perform {enabled : PppoeConn → Bool}
    {f : Stats → PppoeConn → Stats × PppoeConn} (h : w.perform j i enabled f = some w')
    (hf : ∀ c, c.Ok → enabled c = true → Turned w.stats c (f w.stats c)) : Inv w' := by
  obtain ⟨c, hc, rfl⟩ := Option.map_eq_some_iff.1 h
  obtain ⟨hc, he⟩ := Option.filter_eq_some_iff.1 hc
  exact hi.turned hc (hf c (hi.ok j i c hc) he)

theorem step_inv {e : Event} (hlow : LowBit w e) (h : step w e = some w') : Inv w' := by
  cases e with
  | padr j p =>
    obtain ⟨-, rfl⟩ := of_enabled_if h
    exact hi.padr p
  | allocated j behind =>
    obtain ⟨p, hpadr, rfl⟩ := Option.map_eq_some_iff.1 h
    exact hi.allocated hpadr behind
  | padt j f =>
    obtain ⟨-, rfl⟩ := of_enabled_if h
    exact hi.padt f
  | servClose j =>
    cases h
    exact hi.frame rfl rfl ((hi.tables j).frame rfl rfl rfl rfl) hi.held.inv rfl
  | needClose j i =>
    unfold step at h
    exact hi.perform h fun c hok _ => needClose_turned hok
  | call j i =>
    refine hi.perform h fun c hok he => takeCall_turned hok ?_
    simp only [Bool.and_eq_true, decide_eq_true_eq] at he
    exact he.1
  | established j i r =>
    unfold step at h
    exact hi.perform h fun c hok he => established_turned hok (of_decide_eq_true he) r
  | started j i =>
    unfold step at h
    refine hi.perform h fun c hok he => ?_
    simp only [Bool.and_eq_true, decide_eq_true_eq] at he
    exact pppStarted_turned hok he.1 he.2
  | finished j i =>
    refine hi.perform h fun c hok he => ?_
    grind [apSessionFinished_turned]
  | register j i r =>
    unfold step at h
    refine hi.perform h fun c hok he => ?_
    grind [register_turned]
  | close j i now =>
    refine hi.perform h fun c hok he => ?_
    simp only [Bool.and_eq_true, decide_eq_true_eq, List.isEmpty_iff] at he
    exact pppoeConnClose_turned hok he.1.1 he.2 now
  | disconnect j i behind junk =>
    obtain ⟨c, hc, h⟩ := Option.bind_eq_some_iff.1 h
    exact disconnectStep_inv hi hc (hlow c hc) h

end

/-! ### What the invariant says -/

theorem phase_eq_live : c.ident.phase = .live ↔ Resource.cookie ∉ c.released := by
  show c.phase = .live ↔ _
  unfold PppoeConn.phase
  grind

theorem Ok.phase_ne_gone (hok : c.Ok) : c.ident.phase ≠ .gone ↔ Resource.key ∉ c.released := by
  show c.phase ≠ .gone ↔ _
  unfold PppoeConn.phase
  rw [hok.log]
  cases c.place <;> simp [Place.released]

theorem Ok.once (hok : c.Ok) :
    c.released.Nodup ∧ (Resource.memory ∈ c.released → ∀ r, r ∈ c.released) := by
  rw [hok.log]
  cases c.place with
  | freed => exact ⟨by decide, fun _ r => by cases r <;> decide⟩
  | _ => exact ⟨by decide, fun h => absurd h (by decide)⟩

theorem Ok.owed (hok : c.Ok) (hs : c.ses = .finished) (hp : c.place = .idle) :
    Call.disconnect ∈ c.ctx.pendingCalls := by
  have hstage := hok.stage
  rw [hs, hp] at hstage
  cases hstage with
  | closing _ hq => exact hq
  | leaving h => simp at h
  | ended h => cases h

theorem ids_conn : (w.serv j).ids[i]? = (w.conn j i).map PppoeConn.ident := List.getElem?_map

theorem Inv.accounted (hi : Inv w) : Accounted w := by
  constructor
  case counted => exact hi.counted
  case once => exact fun j i c hc => Ok.once (hi.ok j i c hc)
  case cookies =>
    intro j k i
    rw [(hi.tables j).cookies.get, ids_conn]
    constructor
    · rintro ⟨a, ha, hl, hk⟩
      obtain ⟨c, hc, rfl⟩ := Option.map_eq_some_iff.1 ha
      exact ⟨c, hc, phase_eq_live.1 hl, hk⟩
    · rintro ⟨c, hc, hr, hk⟩
      exact ⟨c.ident, by rw [hc]; rfl, phase_eq_live.2 hr, hk⟩
  case keys =>
    intro j k i
    constructor
    · intro hget
      obtain ⟨a, ha, hp, rfl⟩ := (hi.tables j).sound k i hget
      rw [ids_conn] at ha
      obtain ⟨c, hc, rfl⟩ := Option.map_eq_some_iff.1 ha
      exact ⟨c, hc, (Ok.phase_ne_gone (hi.ok j i c hc)).1 hp, rfl⟩
    · rintro ⟨c, hc, hr, rfl⟩
      refine (hi.tables j).full i c.ident ?_ ((Ok.phase_ne_gone (hi.ok j i c hc)).2 hr)
      rw [ids_conn, hc]
      rfl
  case sids =>
    intro n hn
    rw [hi.held.inv.bits n hn]
    refine and_congr_right fun _ => and_congr_right fun _ => ⟨?_, ?_⟩
    · grind [hi.held.held]
    grind [hi.held.holder]
  grind [Ok.owed, hi.ok]

theorem init_inv (vlanMon : Nat → Bool) : Inv (World.init vlanMon) where
  ok j i c hc := by cases hc
  tables j := ⟨⟨fun k i => by simp [World.init, PppoeServ.ids], fun p hp => by cases hp⟩,
    fun k i h => by simp [World.init] at h, fun i a ha => by simp [World.init, PppoeServ.ids] at ha⟩
  held := ⟨Sid.init_inv, (fun j i c hc => by cases hc), (fun n hn => by cases hn),
    fun j i c j' i' c' hc => by cases hc⟩
  counted := ⟨fun j => by simpa [World.conn, World.init] using counts_none,
    by simpa [World.conn, World.init] using counts_none,
    by simpa [World.conn, World.init] using counts_none,
    by simpa [World.conn, World.init] using counts_none⟩

end Worlds

/-- **Accounting.** On any servers and connections the counters are right and everything is given
back once, as long as only identifiers below the sign bit are given back. -/
theorem accounting_kept (vlanMon : Nat → Bool) (es : List Event)
    (hg : Guarded step LowBit (World.init vlanMon) es) :
    Throughout step Accounted (World.init vlanMon) es :=
  (hg.throughout (fun _ _ _ hi hlow h => step_inv hi hlow h) (init_inv vlanMon)).mono
    fun _ hi => hi.accounted

instance (w : World) (e : Event) : Decidable (LowBit w e) := by
  unfold LowBit
  split <;> infer_instance

/-- A PADT ends a session while the layers end it too and the context is asked to close:
`disconnect` is queued twice and performed once. -/
def endedTwice : List Event :=
  [.padr 0 (peerPadr 1), .allocated 0 0, .call 0 0, .established 0 0 (some ⟨0, 0, 2, 0⟩), .started 0 0,
    .padt 0 (peerFrame 1 1), .finished 0 0, .needClose 0 0, .call 0 0, .disconnect 0 0 0 0,
    .disconnect 0 0 0 0, .disconnect 0 0 0 0, .disconnect 0 0 0 0, .disconnect 0 0 0 0,
    .disconnect 0 0 0 0]

theorem accounting_kept_ended_twice :
    endsIn step (World.init fun _ => false) endedTwice
        (fun w => (w.conn 0 0).any fun c => c.place = .freed) = true ∧
      Throughout step Accounted (World.init fun _ => false) endedTwice :=
  ⟨by decide +kernel, accounting_kept _ _ (by decide +kernel)⟩

/-! ## The sign bit -/

/-- A peer connects to server `m`. -/
def arrival (m : Nat) : List Event := [.padr m (peerPadr 1), .allocated m 0]

/-- Server `j`'s connection is taken up, PPP fails, and the identifier is given back. -/
def departure (j : Nat) : List Event :=
  [.call j 0, .established j 0 none] ++ List.replicate 5 (.disconnect j 0 0 0)

/-- After arrivals at the first `n` servers. -/
structure Filled (n : Nat) (w : World) : Prop where
  inv : Inv w
  sids : Sid.Drained n w.sids
  fresh : ∀ j, n ≤ j → w.serv j = (World.init fun _ => false).serv j
  conns : ∀ m, m < n → (w.serv m).conns = [newConn (peerPadr 1) (BitVec.ofNat 16 (Sid.sidOf m))]

variable {n j : Nat} {w w' : World} {c : PppoeConn}

theorem Filled.allocates (h : Filled n w) (hn : n < 62 * 1024) :
    ∃ sids, Sid.allocateChannel w.sids = (sids, some (Sid.sidOf n)) ∧ Sid.Drained (n + 1) sids := by
  have hnext := h.sids.allocate hn
  rcases h.inv.held.inv.allocate_cases with ⟨k, bit, -, -, -, -, -, heq⟩ | ⟨⟨k, -, heq⟩, -⟩
  · have hlive := hnext.live
    rw [List.range_succ] at hlive
    simp_all
  · -- Without an identifier the list of those in use would not have grown.
    rw [heq] at hnext
    have hlen := congrArg List.length (hnext.live.symm.trans h.sids.live)
    simp at hlen

theorem Filled.next (h : Filled n w) (hn : n < 62 * 1024) :
    ∃ w', run step w (arrival n) = some w' ∧ Filled (n + 1) w' := by
  obtain ⟨sids, halloc, hsids⟩ := h.allocates hn
  have hfresh := h.fresh n (Nat.le_refl n)
  have hpadr : step w (.padr n (peerPadr 1)) =
      some (w.put n { w.serv n with padr := some (peerPadr 1) } w.sids w.stats) := by
    simp [step, pppoeRecvPadr, hfresh, World.init, peerPadr]
  have hi1 := step_inv h.inv (show LowBit w (.padr n (peerPadr 1)) from trivial) hpadr
  generalize hw1 : w.put n { w.serv n with padr := some (peerPadr 1) } w.sids w.stats = w1
    at hpadr hi1
  have hserv1 : w1.serv n = { w.serv n with padr := some (peerPadr 1) } := by
    rw [← hw1, serv_put_self]
  have halloc1 : Sid.allocateChannel w1.sids = (sids, some (Sid.sidOf n)) := by
    rw [← hw1]
    exact halloc
  have hstep : step w1 (.allocated n 0) =
      some (w1.put n ((w1.serv n).add (peerPadr 1) 0 (BitVec.ofNat 16 (Sid.sidOf n))) sids
        w1.stats) := by
    simp_all [step, allocateChannel]
  refine ⟨_, ?_, step_inv hi1 (show LowBit w1 (.allocated n 0) from trivial) hstep, hsids, ?_, ?_⟩
  · simp only [arrival, run, hpadr, Option.bind_some, hstep]
  · grind [serv_put_other, h.fresh]
  grind [serv_put_self, PppoeServ.add, World.init, serv_put_other, h.conns]

theorem filled_run (hn : n ≤ 62 * 1024) :
    ∃ w, run step (World.init fun _ => false) ((List.range n).flatMap arrival) = some w ∧
      Filled n w := by
  induction n with
  | zero =>
    exact ⟨_, rfl, init_inv _, Sid.init_drained, fun j _ => rfl, fun m hm => absurd hm (by omega)⟩
  | succ n ih =>
    obtain ⟨w, hr, hw⟩ := ih (by omega)
    simp_all [hw.next, List.range_succ, run_append]

/-- Server `j` has one connection, `c`, and the rest is as in `w`. -/
structure Alone (w : World) (j : Nat) (c : PppoeConn) (w' : World) : Prop where
  conns : (w'.serv j).conns = [c]
  others : ∀ j', j' ≠ j → w'.serv j' = w.serv j'

theorem Alone.conn (h : Alone w j c w') : w'.conn j 0 = some c := by
  rw [World.conn, h.conns]
  rfl

theorem Alone.put {c' : PppoeConn} (h : Alone w j c w') {v : PppoeServ}
    {sids : Sid.Sids} {st : Stats} (hv : v.conns = (w'.serv j).conns.set 0 c') :
    Alone w j c' (w'.put j v sids st) := by
  constructor
  · rw [serv_put_self, hv, h.conns]
    rfl
  · intro j' hj
    rw [serv_put_other hj, h.others j' hj]

theorem Alone.perform (h : Alone w j c w')
    (enabled : PppoeConn → Bool) (f : Stats → PppoeConn → Stats × PppoeConn)
    (he : enabled c = true) :
    ∃ w2, w'.perform j 0 enabled f = some w2 ∧ Alone w j (f w'.stats c).2 w2 ∧ w2.sids = w'.sids := by
  have hput : Alone w j (f w'.stats c).2
      (w'.put j ((w'.serv j).set 0 (f w'.stats c).2) w'.sids (f w'.stats c).1) := h.put rfl
  refine ⟨_, ?_, hput, rfl⟩
  simp_all [World.perform, h.conn]

theorem Alone.disconnect {c' : PppoeConn} (h : Alone w j c w')
    {v : PppoeServ} {sids : Sid.Sids} {st : Stats}
    (hstep : disconnectStep w' j 0 c 0 0 = some (w'.put j v sids st))
    (hv : v.conns = (w'.serv j).conns.set 0 c') :
    ∃ w2, step w' (.disconnect j 0 0 0) = some w2 ∧ Alone w j c' w2 ∧ w2.sids = sids := by
  refine ⟨w'.put j v sids st, ?_, h.put hv, rfl⟩
  simp only [step, h.conn, Option.bind_some, hstep]

theorem departs {p : Padr} {sid : BitVec 16} (hconns : (w.serv j).conns = [newConn p sid]) :
    ∃ w', run step w (departure j) = some w' ∧ (∀ j', j' ≠ j → w'.serv j' = w.serv j') ∧
      w'.sids = Sid.disconnect w.sids (w.sids.live.idxOf sid.toNat) sid.toNat 0 := by
  have h0 : Alone w j (newConn p sid) w := ⟨hconns, fun _ _ => rfl⟩
  obtain ⟨w1, hs1, h1, hsids1⟩ := h0.perform
    (fun c => c.place = .idle && !c.ctx.pendingCalls.isEmpty) takeCall rfl
  obtain ⟨w2, hs2, h2, hsids2⟩ := h1.perform (fun c => c.place = .connecting)
    (fun st c => established st c none) rfl
  obtain ⟨w3, hs3, h3, hsids3⟩ := h2.disconnect rfl rfl
  obtain ⟨w4, hs4, h4, hsids4⟩ := h3.disconnect rfl rfl
  obtain ⟨w5, hs5, h5, hsids5⟩ := h4.disconnect rfl rfl
  obtain ⟨w6, hs6, h6, hsids6⟩ := h5.disconnect rfl (uncount_frame _).1
  obtain ⟨w7, hs7, h7, hsids7⟩ := h6.disconnect rfl rfl
  refine ⟨w7, ?_, h7.others, ?_⟩
  · have hc : step w (.call j 0) = some w1 := hs1
    have he : step w1 (.established j 0 none) = some w2 := hs2
    simp only [departure, List.replicate, List.cons_append, List.nil_append, run, hc, he, hs3, hs4,
      hs5, hs6, hs7, Option.bind_some]
  · rw [hsids7, hsids6, hsids5, hsids4, hsids3, hsids2, hsids1]
    rfl

/-- **The sign bit.** Of 31745 servers' connections the one with identifier 31 leaves, and 32 is
free although its connection has not given it back. -/
theorem sign_bit_given_back :
    ∃ w, run step (World.init fun _ => false)
        ((List.range 31745).flatMap arrival ++ departure 30720) = some w ∧
      (∃ c, w.conn 31744 0 = some c ∧ c.sid.toNat = 32 ∧ c.released = []) ∧
      Bitmap.has w.sids.sidMap 32 = true ∧ ¬ Accounted w := by
  obtain ⟨w, hr, hw⟩ := filled_run (n := 31745) (by decide)
  have h31 : (BitVec.ofNat 16 (Sid.sidOf 30720)).toNat = 31 := by decide
  obtain ⟨w', hr', hothers, hsids⟩ := departs (hw.conns 30720 (by decide))
  have hset : Bitmap.has w'.sids.sidMap 32 = true := by
    rw [hsids]
    exact (hw.sids.sign_bit (by decide) 0).2
  have hconn : w'.conn 31744 0 =
      some (newConn (peerPadr 1) (BitVec.ofNat 16 (Sid.sidOf 31744))) := by
    rw [World.conn, hothers 31744 (by decide), hw.conns 31744 (by decide)]
    rfl
  have h32 : (BitVec.ofNat 16 (Sid.sidOf 31744)).toNat = 32 := by decide
  refine ⟨w', by rw [run_append, hr]; exact hr', ⟨_, hconn, h32, rfl⟩, hset, fun hacc => ?_⟩
  have hrel := ((hacc.sids 32 (by decide)).1 hset).2.2 31744 0 _ hconn h32
  cases hrel

end Pppoe.Conn
