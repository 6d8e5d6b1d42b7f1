import MicroBng.Lib.Bytes
import MicroBng.Lib.Framing
import MicroBng.Lib.Machine

/-!
# PPTP control messages on a stream

`pptp_read` reads as much as fits into the input buffer, processes one message if there is a
complete one, moves the rest to the front and reads again. It returns when there is nothing more to
read, whatever is still in the buffer.

* `messages_processed`: well-formed messages are processed if the reads keep up (`KeepsUp`)
-/

namespace Pptp

open Machine Framing Bytes

/-! ## Messages -/

def ctrlSize : Nat → Nat
  | 1 | 2 => 156
  | 3 | 4 | 5 => 16
  | 6 => 20
  | 7 => 168
  | 8 => 32
  | 9 => 220
  | 10 => 24
  | 11 => 28
  | 12 => 16
  | 13 => 148
  | 14 => 40
  | 15 => 24
  | _ => 0

/-- `PPTP_CTRL_SIZE_MAX`, which is the size of an Incoming-Call-Request. -/
def ctrlSizeMax : Nat := 220

def pptpMagic : Nat := 0x1A2B3C4D

/-- `hdr->length`. -/
def msgLength (bs : List UInt8) : Nat := be bs 0 2

/-- `hdr->magic`. -/
def msgMagic (bs : List UInt8) : Nat := be bs 4 4

/-- `hdr->ctrl_type`. -/
def ctrlType (bs : List UInt8) : Nat := be bs 8 2

def msgVersion (bs : List UInt8) : Nat := be bs 12 2

/-! ## `process_packet` -/

/-- `STATE_*`. -/
inductive ConnState
  | idle | estb | ppp | fin | close
  deriving DecidableEq

/-- What the functions below use of `struct pptp_conn_t`. -/
structure Conn where
  state : ConnState
  echoSent : Nat

/-- The system's answers: `post_msg`, the socket of a call, and `establish_ppp`. -/
structure Env where
  post : Bool
  socket : Bool
  establishPpp : Bool

/-- An answer is sent; `none` is the result `-1`. -/
def Env.answer (env : Env) (c : Conn) : Option Conn := if env.post then some c else none

variable (env : Env)

def startCtrlConnRqst (bs : List UInt8) (c : Conn) : Option Conn :=
  if c.state ≠ .idle then env.answer c
  else if msgVersion bs ≠ 0x100 then env.answer c
  else env.answer { c with state := .estb }

def outCallRqst (c : Conn) : Option Conn :=
  if c.state ≠ .estb then env.answer c
  else if env.socket = false ∨ env.post = false ∨ env.establishPpp = false then none
  else some { c with state := .ppp }

def callClearRqst (c : Conn) : Option Conn :=
  env.answer (if c.state = .ppp then { c with state := .close } else c)

def processPacket (bs : List UInt8) (c : Conn) : Option Conn :=
  match ctrlType bs with
  | 1 => startCtrlConnRqst env bs c
  | 3 | 4 => none
  | 5 => env.answer c
  | 6 => some { c with echoSent := 0 }
  | 7 => outCallRqst env c
  | 12 => callClearRqst env c
  | _ => some c

/-! ## The front of a stream -/

def front (bs : List UInt8) : Front UInt8 (List UInt8) :=
  if bs.length < 12 then .wait
  else if msgMagic bs ≠ pptpMagic ∨ msgLength bs ≠ ctrlSize (ctrlType bs) ∨ msgLength bs = 0 then
    .refuse
  else if bs.length < msgLength bs then .wait
  else .frame (bs.take (msgLength bs)) (bs.drop (msgLength bs))

def messages (bs : List UInt8) : Nat := (cut front bs).frames.length

/-! ## The machine -/

/-- In the loop of `pptp_read`, waiting for more, dropped by `process_packet` or from elsewhere, or
dropped for what is in the buffer. -/
inductive Status
  | reading | waiting | dropped | rejected
  deriving DecidableEq

/-- A connection with its input buffer. `received` was read, `passed` went to `process_packet`;
`behind` takes one message a read off the complete ones. -/
structure State where
  conn : Conn
  inBuf : List UInt8
  status : Status
  received : List UInt8
  passed : List (List UInt8)
  behind : Nat

def State.init (c : Conn) : State := ⟨c, [], .waiting, [], [], 0⟩

inductive Event
  /-- `read` returns bytes. -/
  | read (data : List UInt8) (env : Env)
  /-- `read` has nothing, and `pptp_read` returns. -/
  | again
  /-- The peer has closed the connection, or `read` fails. -/
  | hangup
  /-- The session, a timer or an operator changes or ends the connection. -/
  | elsewhere (c : Option Conn)

/-- `read` has put bytes behind those in the buffer. -/
def State.append (s : State) (data : List UInt8) : State :=
  { s with
    inBuf := s.inBuf ++ data
    status := .reading
    received := s.received ++ data
    behind := s.behind + (messages (s.received ++ data) - messages s.received) - 1 }

/-- The rest of a turn of the loop of `pptp_read`. -/
def readTurn (s : State) : State :=
  if s.inBuf.length < 12 then s
  else if msgMagic s.inBuf ≠ pptpMagic then { s with status := .rejected }
  else if ctrlSizeMax ≤ msgLength s.inBuf then { s with status := .rejected }
  else if s.inBuf.length < msgLength s.inBuf then s
  else if msgLength s.inBuf ≠ ctrlSize (ctrlType s.inBuf) then { s with status := .rejected }
  else
    let s' : State := { s with passed := s.passed ++ [s.inBuf.take (msgLength s.inBuf)] }
    match processPacket env s.inBuf s.conn with
    | none => { s' with status := .dropped }
    | some c => { s' with conn := c, inBuf := s.inBuf.drop (msgLength s.inBuf) }

def Status.alive : Status → Bool
  | .reading | .waiting => true
  | .dropped | .rejected => false

def step (s : State) : Event → Option State
  | .read data env =>
    if s.status.alive ∧ data ≠ [] ∧ data.length ≤ ctrlSizeMax - s.inBuf.length then
      some (readTurn env (s.append data))
    else none
  | .again => if s.status.alive then some { s with status := .waiting } else none
  | .hangup => if s.status.alive then some { s with status := .dropped } else none
  | .elsewhere c =>
    if s.status = .waiting then
      match c with
      | some c => some { s with conn := c }
      | none => some { s with status := .dropped }
    else none

/-! ## Well-formed messages -/

structure Message (m : List UInt8) : Prop where
  magic : msgMagic m = pptpMagic
  type : 1 ≤ ctrlType m ∧ ctrlType m ≤ 15
  size : m.length = ctrlSize (ctrlType m)
  length : msgLength m = m.length

instance (m : List UInt8) : Decidable (Message m) :=
  decidable_of_iff (msgMagic m = pptpMagic ∧ (1 ≤ ctrlType m ∧ ctrlType m ≤ 15) ∧
      m.length = ctrlSize (ctrlType m) ∧ msgLength m = m.length)
    ⟨fun h => ⟨h.1, h.2.1, h.2.2.1, h.2.2.2⟩, fun h => ⟨h.1, h.2, h.3, h.4⟩⟩

theorem ctrlSize_pos : ∀ n ≤ 15, 1 ≤ n → 16 ≤ ctrlSize n := by decide

variable {m bs rest : List UInt8} {s : State}

theorem Message.length_ge (h : Message m) : 16 ≤ m.length := by
  rw [h.size]
  exact ctrlSize_pos _ h.type.2 h.type.1

section Header

variable {bs : List UInt8} (h : 12 ≤ bs.length) (ys : List UInt8)

include h

theorem msgLength_append : msgLength (bs ++ ys) = msgLength bs := be_append (by omega) ys

theorem msgMagic_append : msgMagic (bs ++ ys) = msgMagic bs := be_append (by omega) ys

theorem ctrlType_append : ctrlType (bs ++ ys) = ctrlType bs := be_append (by omega) ys

end Header

theorem front_of_whole (bs : List UInt8) (h12 : 12 ≤ bs.length) (hm : msgMagic bs = pptpMagic)
    (hs : msgLength bs = ctrlSize (ctrlType bs)) (hpos : 0 < msgLength bs)
    (hle : msgLength bs ≤ bs.length) :
    front bs = .frame (bs.take (msgLength bs)) (bs.drop (msgLength bs)) := by
  grind [front]

theorem of_front_frame (h : front bs = .frame m rest) :
    12 ≤ bs.length ∧ msgMagic bs = pptpMagic ∧ msgLength bs = ctrlSize (ctrlType bs) ∧
      0 < msgLength bs ∧ msgLength bs ≤ bs.length ∧ m = bs.take (msgLength bs) ∧
      rest = bs.drop (msgLength bs) := by
  unfold front at h
  grind

theorem eq_append (h : front bs = .frame m rest) : bs = id m ++ rest := by
  obtain ⟨-, -, -, -, -, rfl, rfl⟩ := of_front_frame h
  exact (List.take_append_drop _ _).symm

theorem front_lawful : Lawful front where
  nil := rfl
  shorter := by grind [of_front_frame]
  frame_append := by
    grind [of_front_frame, front_of_whole, msgLength_append, msgMagic_append, ctrlType_append]
  refuse_append := by grind [front, msgLength_append, msgMagic_append, ctrlType_append]

theorem Message.header {r : List UInt8} (hm : Message m) (h12 : 12 ≤ bs.length)
    (hp : bs <+: m ++ r) :
    msgMagic bs = pptpMagic ∧ msgLength bs = m.length ∧ ctrlType bs = ctrlType m := by
  obtain ⟨z, hz⟩ := hp
  have h16 : 12 ≤ m.length := Nat.le_trans (by decide) hm.length_ge
  grind [msgMagic_append, hm.magic, msgLength_append, hm.length, ctrlType_append]

theorem Message.front_first {r : List UInt8} (hm : Message m) (hp : bs <+: m ++ r) :
    (bs.length < m.length ∧ front bs = .wait) ∨
      ∃ rest, bs = m ++ rest ∧ rest <+: r ∧ front bs = .frame m rest := by
  have h16 := hm.length_ge
  by_cases hlt : bs.length < m.length
  · refine .inl ⟨hlt, ?_⟩
    unfold front
    split_ifs with h1 h2 h3
    · rfl
    · obtain ⟨hmag, hlen, htype⟩ := hm.header (Nat.not_lt.1 h1) hp
      simp_all [hm.size]
    · rfl
    grind [hm.header]
  · obtain ⟨rest, rfl⟩ : m <+: bs :=
      List.prefix_of_prefix_length_le (List.prefix_append m r) hp (Nat.not_lt.1 hlt)
    refine .inr ⟨rest, rfl, (List.prefix_append_right_inj m).1 hp, ?_⟩
    have h12 : 12 ≤ m.length := by omega
    have hf : front m = .frame m [] := by
      have hwhole := front_of_whole _ h12 hm.magic (hm.length.trans hm.size)
        (by rw [hm.length]; omega)
        (Nat.le_of_eq hm.length)
      rwa [hm.length, List.take_length, List.drop_length] at hwhole
    exact front_lawful.frame_append hf rest

/-! ## What a turn of the loop does -/

/-- The messages before `ms` were passed on, and what was read of `ms` is in the buffer. -/
structure Standing (msgs ms : List (List UInt8)) (s : State) : Prop where
  stream : msgs = s.passed ++ ms
  consumed : Consumed front s.received s.passed s.inBuf
  ahead : s.inBuf <+: ms.flatten
  behind : s.behind = messages s.inBuf

theorem readTurn_cases {ms : List (List UInt8)} (hm : Message m) (hmax : m.length < ctrlSizeMax)
    (hp : s.inBuf <+: m ++ ms.flatten) :
    (front s.inBuf = .wait ∧ readTurn env s = s) ∨
      ∃ rest, front s.inBuf = .frame m rest ∧ rest <+: ms.flatten ∧
        ((∃ c, readTurn env s = { s with conn := c, passed := s.passed ++ [m], inBuf := rest }) ∨
          readTurn env s = { s with passed := s.passed ++ [m], status := .dropped }) := by
  have h16 := hm.length_ge
  unfold readTurn
  rcases hm.front_first hp with ⟨hlt, hw⟩ | ⟨rest, hbs, hrest, hf⟩
  · grind [hm.header]
  · have hlen : s.inBuf.length = m.length + rest.length := by rw [hbs, List.length_append]
    obtain ⟨hmag, hml, htype⟩ := hm.header (by omega) hp
    grind [hm.size]

theorem messages_of_wait (h : front bs = .wait) : messages bs = 0 := by
  unfold messages
  rw [cut_of_wait h]
  rfl

theorem messages_of_frame (h : front bs = .frame m rest) : messages bs = messages rest + 1 := by
  unfold messages
  rw [cut_of_frame front_lawful h]
  exact List.length_cons

theorem messages_of_consumed {xs ys : List UInt8} {ms : List (List UInt8)}
    (h : Consumed front xs ms ys) : messages xs = ms.length + messages ys := by
  unfold messages
  rw [h.cut_eq front_lawful]
  exact List.length_append

theorem messages_le_append (bs ys : List UInt8) : messages bs ≤ messages (bs ++ ys) :=
  (frames_append front_lawful bs ys).length_le

theorem behind_append (data : List UInt8)
    (hc : Consumed front s.received s.passed s.inBuf) (hb : s.behind = messages s.inBuf) :
    (s.append data).behind = messages (s.inBuf ++ data) - 1 := by
  have h1 := messages_of_consumed hc
  have h2 := messages_of_consumed (hc.append front_lawful data)
  have h3 := messages_le_append s.inBuf data
  simp only [State.append]
  omega

/-! ## What a run does -/

def Good (msgs : List (List UInt8)) (s : State) : Prop :=
  match s.status with
  | .reading => ∃ ms, Standing msgs ms s
  | .waiting => (∃ ms, Standing msgs ms s) ∧ front s.inBuf = .wait
  | .dropped => s.passed <+: msgs
  | .rejected => False

theorem Good.standing {msgs : List (List UInt8)} (h : Good msgs s)
    (ha : s.status.alive = true) : ∃ ms, Standing msgs ms s := by
  unfold Good at h
  cases hs : s.status with
  | reading => rw [hs] at h; exact h
  | waiting => rw [hs] at h; exact h.1
  | dropped | rejected => rw [hs] at ha; cases ha

/-- **The reads keep up**: when `pptp_read` waits, each complete message was followed by a read of
its own or read alone. -/
def KeepsUp (s : State) : Event → Prop
  | .again => s.behind = 0
  | _ => True

instance (s : State) (e : Event) : Decidable (KeepsUp s e) := by
  unfold KeepsUp
  split <;> infer_instance

section Runs

variable {msgs : List (List UInt8)} (hmsgs : ∀ m ∈ msgs, Message m)
  (hmax : ∀ m ∈ msgs, m.length < ctrlSizeMax)

include hmsgs hmax

theorem good_read {s : State} {data : List UInt8} {env : Env} (hs : ∃ ms, Standing msgs ms s)
    (hstream : s.received ++ data <+: msgs.flatten) : Good msgs (readTurn env (s.append data)) := by
  obtain ⟨ms, hs⟩ := hs
  have hc := hs.consumed.append front_lawful data
  have hb := behind_append data hs.consumed hs.behind
  -- what was read is in the buffer, behind the messages that were passed on
  have hahead : (s.append data).inBuf <+: ms.flatten := by
    have hrec := hs.consumed.input_eq eq_append
    rw [List.flatMap_id] at hrec
    rw [hrec, hs.stream, List.flatten_append, List.append_assoc] at hstream
    exact (List.prefix_append_right_inj _).1 hstream
  cases ms with
  | nil =>
    have hnil : (s.append data).inBuf = [] := List.prefix_nil.1 hahead
    have hturn : readTurn env (s.append data) = s.append data := by
      unfold readTurn
      rw [hnil]
      exact if_pos (by decide)
    rw [hturn]
    refine ⟨[], hs.stream, hc, hahead, hb.trans ?_⟩
    rw [hnil]
    have : s.inBuf ++ data = [] := hnil
    rw [this]
    rfl
  | cons m ms =>
    have hmem : m ∈ msgs := by simp [hs.stream]
    have hstr : msgs = (s.passed ++ [m]) ++ ms := by rw [List.append_assoc]; exact hs.stream
    rcases readTurn_cases env (hmsgs m hmem) (hmax m hmem) hahead with
      ⟨hw, hturn⟩ | ⟨rest, hf, hrest, ⟨c, hturn⟩ | hturn⟩
    · rw [hturn]
      refine ⟨m :: ms, hs.stream, hc, hahead, hb.trans ?_⟩
      rw [messages_of_wait hw]
      have hzero : messages (s.inBuf ++ data) = 0 := messages_of_wait hw
      rw [hzero]
    · rw [hturn]
      refine ⟨ms, hstr, hc.trans (.one hf), hrest, hb.trans ?_⟩
      have hone : messages (s.inBuf ++ data) = messages rest + 1 := messages_of_frame hf
      rw [hone]
      rfl
    · rw [hturn]
      exact ⟨ms, hstr.symm⟩

theorem good_step {s s' : State} {e : Event} (hs : s.received <+: msgs.flatten → Good msgs s)
    (hk : KeepsUp s e) (h : step s e = some s') (hstream : s'.received <+: msgs.flatten) :
    Good msgs s' := by
  cases e with
  | read data env =>
    obtain ⟨⟨ha, -, -⟩, rfl⟩ := of_enabled_if h
    have hrec : (readTurn env (s.append data)).received = s.received ++ data := by
      unfold readTurn
      split_ifs
      · rfl
      · rfl
      · rfl
      · rfl
      · rfl
      · cases processPacket env (s.append data).inBuf (s.append data).conn <;> rfl
    rw [hrec] at hstream
    have hbefore := hs ((List.prefix_append _ _).trans hstream)
    exact good_read hmsgs hmax (hbefore.standing ha) hstream
  | again =>
    obtain ⟨ha, rfl⟩ := of_enabled_if h
    obtain ⟨ms, hst⟩ := (hs hstream).standing ha
    refine ⟨⟨ms, hst.stream, hst.consumed, hst.ahead, hst.behind⟩, ?_⟩
    have hnone : messages s.inBuf = 0 := hst.behind.symm.trans hk
    cases ms with
    | nil => grind [hst.ahead, front]
    | cons m ms =>
      have hmem : m ∈ msgs := by simp [hst.stream]
      rcases (hmsgs m hmem).front_first hst.ahead with ⟨-, hw⟩ | ⟨rest, -, -, hf⟩
      · exact hw
      · rw [messages_of_frame hf] at hnone
        cases hnone
  | hangup =>
    obtain ⟨ha, rfl⟩ := of_enabled_if h
    obtain ⟨ms, hst⟩ := (hs hstream).standing ha
    exact ⟨ms, hst.stream.symm⟩
  | elsewhere c =>
    have hw : s.status = .waiting := by simp_all [step]
    simp only [step, if_pos hw] at h
    cases c with
    | none =>
      cases h
      obtain ⟨ms, hst⟩ := (hs hstream).standing (by rw [hw]; rfl)
      exact ⟨ms, hst.stream.symm⟩
    | some c =>
      cases h
      have hgood := hs hstream
      simp only [Good, hw] at hgood ⊢
      obtain ⟨⟨ms, hst⟩, hfront⟩ := hgood
      exact ⟨⟨ms, hst.stream, hst.consumed, hst.ahead, hst.behind⟩, hfront⟩

end Runs

/-! ## The results -/

/-- What `messages_processed` says of a connection. -/
structure Exact (msgs : List (List UInt8)) (t : State) : Prop where
  /-- `pptp_read` does not drop the connection for what is in the stream. -/
  accepted : t.status ≠ .rejected
  /-- The messages passed on are the first of the stream, in order. -/
  inOrder : t.passed <+: msgs
  /-- When `pptp_read` has returned, they are all that have arrived, -/
  arrived : t.status = .waiting → t.passed = (cut front t.received).frames
  /-- and the buffer has no complete one. -/
  nothingLeft : t.status = .waiting → front t.inBuf = .wait

/-- **Control messages**: for every stream of well-formed messages but Incoming-Call-Requests, if
the reads keep up. -/
theorem messages_processed (msgs : List (List UInt8)) (hmsgs : ∀ m ∈ msgs, Message m)
    (hmax : ∀ m ∈ msgs, m.length < ctrlSizeMax) (c : Conn) (es : List Event) (t : State)
    (hr : run step (State.init c) es = some t) (hk : Guarded step KeepsUp (State.init c) es)
    (hstream : t.received <+: msgs.flatten) : Exact msgs t := by
  have hgood : Good msgs t := by
    refine hk.invariant (I := fun s => s.received <+: msgs.flatten → Good msgs s) ?_ ?_ hr hstream
    · exact fun s e s' hs hc h => good_step hmsgs hmax hs hc h
    · exact fun _ => ⟨⟨msgs, rfl, .none [], List.nil_prefix, rfl⟩, rfl⟩
  unfold Good at hgood
  refine ⟨?_, ?_, ?_, ?_⟩
  · intro hst
    rw [hst] at hgood
    exact hgood
  · cases hst : t.status with
    | reading => rw [hst] at hgood; exact hgood.elim fun ms h => ⟨ms, h.stream.symm⟩
    | waiting => rw [hst] at hgood; exact hgood.1.elim fun ms h => ⟨ms, h.stream.symm⟩
    | dropped => rw [hst] at hgood; exact hgood
    | rejected => rw [hst] at hgood; exact hgood.elim
  · intro hst
    rw [hst] at hgood
    obtain ⟨⟨ms, h⟩, hw⟩ := hgood
    rw [h.consumed.cut_of_wait front_lawful hw]
  · intro hst
    rw [hst] at hgood
    exact hgood.2

def echoRqst (id : UInt8) : List UInt8 :=
  [0, 16, 0, 1, 0x1A, 0x2B, 0x3C, 0x4D, 0, 5, 0, 0, 0, 0, 0, id]

def sampleEnv : Env := ⟨true, true, true⟩

def splitRun : List Event :=
  [.read (echoRqst 1 ++ (echoRqst 2).take 3) sampleEnv, .again,
    .read ((echoRqst 2).drop 3) sampleEnv, .again]

theorem messages_processed_split :
    ∃ t, run step (State.init ⟨.estb, 0⟩) splitRun = some t ∧
      t.passed = [echoRqst 1, echoRqst 2] ∧ Exact [echoRqst 1, echoRqst 2] t := by
  obtain ⟨t, hr, hp, hpassed⟩ : ∃ t, run step (State.init ⟨.estb, 0⟩) splitRun = some t ∧
      t.received <+: [echoRqst 1, echoRqst 2].flatten ∧ t.passed = [echoRqst 1, echoRqst 2] := by
    decide +kernel
  exact ⟨t, hr, hpassed, messages_processed [echoRqst 1, echoRqst 2] (by decide +kernel)
    (by decide +kernel) ⟨.estb, 0⟩ splitRun t hr (by decide +kernel) hp⟩

/-- Two messages in one read: the second one is complete, and `pptp_read` returns to wait. -/
theorem second_message_left :
    ∃ t, run step (State.init ⟨.estb, 0⟩)
        [.read (echoRqst 1 ++ echoRqst 2) sampleEnv, .again] = some t ∧
      t.status = .waiting ∧ t.passed = [echoRqst 1] ∧ t.inBuf = echoRqst 2 ∧
      Message (echoRqst 2) := by
  decide +kernel

end Pptp
