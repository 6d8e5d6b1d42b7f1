import MicroBng.Lib.Framing
import MicroBng.Sstp.Call

/-!
# SSTP packets on a stream

`sstp_read` appends what it reads to the input buffer, and `sstp_handler` takes packets off its
front as long as they are complete. The length of a packet is taken from its header as it is; one to
three bytes are passed on as a packet. Everything else that happens to the connection may come in
between.

* `stream_framed`: while no length is below four, the packets are those of the stream
-/

namespace Sstp.Stream

open Machine Framing

/-! ## The input buffer -/

def maxPacketSize : Nat := 4095

/-- `struct buffer_t`: how far `head` is behind `data`, and the bytes up to `tail`. -/
structure Buffer where
  head : Nat
  bytes : List UInt8

/-- `buf_tailroom` of `conn->in`, which has room for two packets. -/
def Buffer.tailroom (b : Buffer) : Nat := maxPacketSize * 2 - (b.head + b.bytes.length)

/-- `buf_put`, with the bytes that have been read to `tail`. -/
def Buffer.put (b : Buffer) (data : List UInt8) : Buffer := { b with bytes := b.bytes ++ data }

def Buffer.pull (b : Buffer) (n : Nat) : Buffer := ⟨b.head + n, b.bytes.drop n⟩

def Buffer.expandTail (b : Buffer) (room : Nat) : Buffer :=
  if b.bytes.length = 0 then ⟨0, b.bytes⟩
  else if b.tailroom < room then ⟨0, b.bytes⟩
  else b

@[simp] theorem Buffer.bytes_pull (b : Buffer) (n : Nat) : (b.pull n).bytes = b.bytes.drop n := rfl

@[simp] theorem Buffer.bytes_expandTail (b : Buffer) (room : Nat) :
    (b.expandTail room).bytes = b.bytes := by
  unfold Buffer.expandTail
  split_ifs <;> rfl

/-! ## The loop -/

/-- What `sstp_recv_packet` gets: the length in the header, and so many bytes from the header on. -/
structure Packet where
  length : Nat
  bytes : List UInt8
  deriving DecidableEq

def packetAt (bs : List UInt8) : Packet := ⟨hdrLength bs, bs.take (hdrLength bs)⟩

/-- How `sstp_handler` returns, or that it is still in its loop. -/
inductive Handled
  | waits (conn : Conn) (buf : Buffer)
  | fails (conn : Conn)
  | running

/-- Turns of the loop of `sstp_handler`, with the packets passed on and the system's answers. -/
def handlerFrom (cf : Conf) : Nat → (Nat → Env) → Conn → Buffer → List Packet × Handled
  | 0, _, _, _ => ([], .running)
  | k + 1, env, c, b =>
    if b.bytes.length < 4 then ([], .waits c b)
    else if b.bytes.getD 0 0 ≠ 16 then ([], .fails c)
    else if maxPacketSize < hdrLength b.bytes then ([], .fails c)
    else if b.bytes.length < hdrLength b.bytes then ([], .waits c b)
    else
      match recvPacket cf (env 0) b.bytes c with
      | none => ([packetAt b.bytes], .fails c)
      | some c' =>
        let r := handlerFrom cf k (fun i => env (i + 1)) c' (b.pull (hdrLength b.bytes))
        (packetAt b.bytes :: r.1, r.2)

/-! ## The machine -/

/-- `stuck`: the loop of `sstp_handler` does not end. -/
inductive Status
  | opened | dropped | stuck
  deriving DecidableEq

/-- A connection; `received` was read, `passed` went to `sstp_recv_packet`. -/
structure State where
  conn : Conn
  buf : Buffer
  status : Status
  received : List UInt8
  passed : List Packet

inductive Event
  /-- A turn of the loop of `sstp_read`, or the call of `sstp_handler` in `http_handler` with what
  follows the request. -/
  | read (data : List UInt8) (env : Nat → Env)
  /-- Anything else that happens to the connection. -/
  | other (e : Sstp.Event)

/-- A packet takes at least a byte off the buffer, unless the loop goes on for ever. -/
def handled (cf : Conf) (env : Nat → Env) (s : State) (data : List UInt8) : List Packet × Handled :=
  handlerFrom cf ((s.buf.put data).bytes.length + 1) env s.conn (s.buf.put data)

/-- The rest of a turn of `sstp_read`. -/
def State.after (s : State) (data : List UInt8) (r : List Packet × Handled) : State :=
  let s : State := { s with received := s.received ++ data, passed := s.passed ++ r.1 }
  match r.2 with
  | .waits c b => { s with conn := c, buf := b.expandTail maxPacketSize }
  | .fails c => { s with conn := sstpDisconnect c, status := .dropped }
  | .running => { s with status := .stuck }

def step (cf : Conf) (s : State) : Event → Option State
  | .read data env =>
    if s.status = .opened ∧ s.conn.http = false ∧ data.length ≤ s.buf.tailroom then
      some (s.after data (handled cf env s data))
    else none
  | .other (.packet _ _) | .other (.http _) => none
  | .other e =>
    if s.status = .opened then
      (Sstp.step cf s.conn e).map fun c =>
        { s with conn := c, status := if c.freed then .dropped else .opened }
    else none

/-- When `sstp_handler` takes over; the request was in front of `head`. -/
def State.init (conn : Conn) (head : Nat) : State :=
  ⟨conn, ⟨head, []⟩, .opened, [], []⟩

/-! ## The packets of a stream -/

def front (bs : List UInt8) : Front UInt8 Packet :=
  if bs.length < 4 then .wait
  else if bs.getD 0 0 ≠ 16 ∨ maxPacketSize < hdrLength bs ∨ hdrLength bs < 4 then .refuse
  else if bs.length < hdrLength bs then .wait
  else .frame (packetAt bs) (bs.drop (hdrLength bs))

def Short (bs : List UInt8) : Prop := 4 ≤ bs.length ∧ bs.getD 0 0 = 16 ∧ hdrLength bs < 4
deriving Decidable

section Header

variable {bs : List UInt8} (h : 4 ≤ bs.length) (ys : List UInt8)

include h

theorem getD_zero_append : (bs ++ ys).getD 0 0 = bs.getD 0 0 := by
  grind

theorem hdrLength_append : hdrLength (bs ++ ys) = hdrLength bs := by
  grind [hdrLength, field16]

theorem packetAt_append (hn : hdrLength bs ≤ bs.length) : packetAt (bs ++ ys) = packetAt bs := by
  simp only [packetAt, hdrLength_append h, List.take_append_of_le_length hn]

end Header

theorem front_of_whole (bs : List UInt8) (hv : bs.getD 0 0 = 16)
    (hmax : hdrLength bs ≤ maxPacketSize) (hn : 4 ≤ hdrLength bs) (hle : hdrLength bs ≤ bs.length) :
    front bs = .frame (packetAt bs) (bs.drop (hdrLength bs)) := by
  grind [front]

variable {bs rest xs : List UInt8} {p : Packet} {ps : List Packet} {s : State} {cf : Conf}

theorem front_of_part (h4 : 4 ≤ bs.length) (hv : bs.getD 0 0 = 16)
    (hmax : hdrLength bs ≤ maxPacketSize) (hlt : bs.length < hdrLength bs) : front bs = .wait := by
  grind [front]

theorem of_front_frame (h : front bs = .frame p rest) :
    4 ≤ bs.length ∧ bs.getD 0 0 = 16 ∧ hdrLength bs ≤ maxPacketSize ∧ 4 ≤ hdrLength bs ∧
      hdrLength bs ≤ bs.length ∧ p = packetAt bs ∧ rest = bs.drop (hdrLength bs) := by
  unfold front at h
  grind

theorem front_lawful : Lawful front where
  nil := rfl
  shorter := by grind [of_front_frame]
  frame_append := by grind [of_front_frame, front_of_whole, hdrLength_append, packetAt_append]
  refuse_append := by grind [front, hdrLength_append]

theorem Short.refuse (h : Short bs) : front bs = .refuse := by
  simp [front, h.1, h.2.2]

theorem Short.append (h : Short bs) (ys : List UInt8) : Short (bs ++ ys) := by
  refine ⟨?_, ?_, ?_⟩
  · rw [List.length_append]
    exact Nat.le_add_right_of_le h.1
  · rw [getD_zero_append h.1]
    exact h.2.1
  · rw [hdrLength_append h.1]
    exact h.2.2

/-- The stream cut at its length fields comes to a header whose length does not cover it. -/
def MeetsShort (stream : List UInt8) : Prop := Short (cut front stream).rest
deriving Decidable

theorem MeetsShort.of_consumed {ys : List UInt8}
    (h : Consumed front xs ps ys) (hs : MeetsShort ys) : MeetsShort xs := by
  unfold MeetsShort
  rw [h.cut_eq front_lawful]
  exact hs

theorem Short.meetsShort (h : Short bs) : MeetsShort bs := by
  unfold MeetsShort
  rw [cut_of_refuse front_lawful h.refuse]
  exact h

theorem MeetsShort.append (h : MeetsShort xs) (ys : List UInt8) : MeetsShort (xs ++ ys) := by
  have hrest : Short ((cut front xs).rest ++ ys) := Short.append h ys
  exact .of_consumed ((consumed_cut front_lawful xs).append front_lawful ys) hrest.meetsShort

/-! ## What a call of the handler does -/

/-- The loop on these bytes: packets were taken off their front; `sstp_handler` returns zero where
it waits. -/
def Handles (bs : List UInt8) (ps : List Packet) : Handled → Prop
  | .waits _ b => Consumed front bs ps b.bytes ∧ front b.bytes = .wait
  | .fails _ => ∃ ys, Consumed front bs ps ys
  | .running => False

theorem Handles.cons {r : Handled}
    (hf : front bs = .frame p rest) (h : Handles rest ps r) : Handles bs (p :: ps) r := by
  cases r with
  | waits c b => exact ⟨.next hf h.1, h.2⟩
  | fails c => exact h.imp fun ys hc => .next hf hc
  | running => exact h

theorem handlerFrom_handles (cf : Conf) (k : Nat) (env : Nat → Env) (c : Conn) (b : Buffer)
    (hk : b.bytes.length < k) (hs : ¬ MeetsShort b.bytes) :
    Handles b.bytes (handlerFrom cf k env c b).1 (handlerFrom cf k env c b).2 := by
  -- a packet is at least its header, so every turn makes the buffer shorter
  induction k generalizing env c b with
  | zero => omega
  | succ k ih =>
    have hnext : ∀ {ps r}, front b.bytes = .wait → r = Handled.waits c b → ps = [] →
        Handles b.bytes ps r := by
      rintro ps r hw rfl rfl
      exact ⟨.none _, hw⟩
    rw [handlerFrom]
    split_ifs with h1 h2 h3 h4
    · exact hnext (if_pos h1) rfl rfl
    · exact ⟨_, .none _⟩
    · exact ⟨_, .none _⟩
    · exact hnext (front_of_part (by omega) (not_not.1 h2) (by omega) h4) rfl rfl
    · have hn : 4 ≤ hdrLength b.bytes := by
        by_contra hlt
        exact hs (Short.meetsShort ⟨by omega, not_not.1 h2, by omega⟩)
      have hf := front_of_whole _ (not_not.1 h2) (by omega) hn (Nat.not_lt.1 h4)
      cases recvPacket cf (env 0) b.bytes c with
      | none => exact ⟨_, .one hf⟩
      | some c' =>
        refine .cons hf (ih _ c' (b.pull (hdrLength b.bytes)) ?_ ?_)
        · rw [Buffer.bytes_pull, List.length_drop]
          omega
        · exact fun hm => hs (.of_consumed (.one hf) hm)

/-! ## What a run does -/

/-- Packets were taken off what was received, up to the buffer. -/
def Taken (s : State) : Prop :=
  match s.status with
  | .opened => Consumed front s.received s.passed s.buf.bytes ∧ front s.buf.bytes = .wait
  | .dropped => ∃ ys, Consumed front s.received s.passed ys
  | .stuck => False

theorem taken_after {data : List UInt8} {r : List Packet × Handled}
    (ho : s.status = .opened) (hc : Consumed front s.received s.passed s.buf.bytes)
    (hr : Handles (s.buf.bytes ++ data) r.1 r.2) : Taken (s.after data r) := by
  have hall := hc.append front_lawful data
  obtain ⟨ps, r⟩ := r
  cases r with
  | waits c b =>
    simp only [Taken, State.after, ho, Buffer.bytes_expandTail]
    exact ⟨hall.trans hr.1, hr.2⟩
  | fails c =>
    obtain ⟨ys, hys⟩ := hr
    exact ⟨ys, hall.trans hys⟩
  | running => exact hr

theorem received_of_step {s' : State} {e : Event} (h : step cf s e = some s') :
    ∃ data, s'.received = s.received ++ data := by
  unfold step at h
  split at h
  · grind [State.after]
  · cases h
  · cases h
  · split_ifs at h
    obtain ⟨c, -, rfl⟩ := Option.map_eq_some_iff.1 h
    exact ⟨[], (List.append_nil _).symm⟩

theorem taken_step {s' : State} {e : Event} (hs : Taken s)
    (hm : ¬ MeetsShort s'.received) (h : step cf s e = some s') : Taken s' := by
  unfold step at h
  split at h
  · next data env =>
    obtain ⟨⟨ho, -, -⟩, rfl⟩ := of_enabled_if h
    simp only [Taken, ho] at hs
    refine taken_after ho hs.1 (handlerFrom_handles cf _ env s.conn (s.buf.put data) ?_ ?_)
    · exact Nat.lt_succ_self _
    · intro hshort
      refine hm ?_
      have hrec : (s.after data (handled cf env s data)).received = s.received ++ data := by
        grind [State.after]
      rw [hrec]
      exact .of_consumed (hs.1.append front_lawful data) hshort
  · cases h
  · cases h
  · split_ifs at h with ho
    obtain ⟨c, -, rfl⟩ := Option.map_eq_some_iff.1 h
    grind [Taken]

theorem taken_run {conn : Conn} {head : Nat} {es : List Event} {t : State}
    (hr : run (step cf) (State.init conn head) es = some t) (hm : ¬ MeetsShort t.received) :
    Taken t := by
  refine run_invariant (I := fun s => ¬ MeetsShort s.received → Taken s) ?_ ?_ hr hm
  · intro s e s' hs hstep hm'
    obtain ⟨data, hd⟩ := received_of_step hstep
    refine taken_step (hs fun hshort => hm' ?_) hm' hstep
    rw [hd]
    exact hshort.append data
  · exact fun _ => ⟨.none _, rfl⟩

/-! ## The results -/

/-- What `stream_framed` says of a connection. -/
structure Framed (t : State) : Prop where
  /-- `sstp_handler` has returned from every call. -/
  returned : t.status ≠ .stuck
  /-- Every packet covers its header and is whole. -/
  whole : ∀ p ∈ t.passed, 4 ≤ p.length ∧ p.bytes.length = p.length
  /-- The packets follow one another in what was received. -/
  inside : t.passed.flatMap Packet.bytes <+: t.received
  /-- They are the first of the packets that the stream is cut into, -/
  first : t.passed <+: (cut front t.received).frames
  /-- and all of them while the connection is not dropped. -/
  all : t.status = .opened → t.passed = (cut front t.received).frames

theorem whole_of_consumed {ys : List UInt8} (h : Consumed front xs ps ys) :
    ∀ p ∈ ps, 4 ≤ p.length ∧ p.bytes.length = p.length := by
  induction h with
  | none xs => exact fun p hp => nomatch hp
  | next hf _ ih =>
    obtain ⟨-, -, -, hn, hle, rfl, rfl⟩ := of_front_frame hf
    simp_all [packetAt]

theorem eq_bytes_append (h : front bs = .frame p rest) : bs = p.bytes ++ rest := by
  obtain ⟨-, -, -, -, -, rfl, rfl⟩ := of_front_frame h
  exact (List.take_append_drop _ _).symm

/-- **Framing of the stream**: while no header with a length below four is received, every call of
`sstp_handler` returns, and the packets passed on are the stream cut at its length fields. -/
theorem stream_framed (cf : Conf) (conn : Conn) (head : Nat) (es : List Event) (t : State)
    (hr : run (step cf) (State.init conn head) es = some t) (hm : ¬ MeetsShort t.received) :
    Framed t := by
  have ht := taken_run hr hm
  unfold Taken at ht
  have hsome : ∃ ys, Consumed front t.received t.passed ys := by grind
  obtain ⟨ys, hc⟩ := hsome
  refine ⟨?_, whole_of_consumed hc, ?_, hc.frames_first front_lawful, ?_⟩
  · intro hst
    rw [hst] at ht
    exact ht
  · exact ⟨ys, (hc.input_eq eq_bytes_append).symm⟩
  · intro hst
    rw [hst] at ht
    rw [ht.1.cut_of_wait front_lawful ht.2]

/-- A header of version 1.0 with the type of a data packet and length zero. -/
def zeroLength : List UInt8 := [16, 0, 0, 0]

theorem handlerFrom_zeroLength (cf : Conf) (k : Nat) (env : Nat → Env) (c : Conn) :
    handlerFrom cf k env c ⟨0, zeroLength⟩ = (List.replicate k ⟨0, []⟩, .running) := by
  induction k generalizing env with
  | zero => rfl
  | succ k ih =>
    have hrecv : recvPacket cf (env 0) zeroLength c = some c := rfl
    have hpull : Buffer.pull ⟨0, zeroLength⟩ (hdrLength zeroLength) = ⟨0, zeroLength⟩ := rfl
    rw [handlerFrom, if_neg (by decide), if_neg (by decide), if_neg (by decide), if_neg (by decide)]
    simp only [hrecv, hpull, ih]
    rfl

def sampleConf : Conf := ⟨fun _ _ _ => [], 3, fun _ => none, false⟩

def sampleEnv : Nat → Env := fun _ => ⟨[], true, true⟩

def sampleConn : Conn :=
  { sstpConnect none none with sstpState := .serverConnectRequestPending, http := false }

/-- **A length of zero**: the loop never ends and passes on a packet in each turn. -/
theorem zero_length_loops :
    (∃ t, run (step sampleConf) (State.init sampleConn 0) [.read zeroLength sampleEnv] = some t ∧
      ¬ Framed t) ∧
    ∀ k, handlerFrom sampleConf k sampleEnv sampleConn ⟨0, zeroLength⟩ =
      (List.replicate k ⟨0, []⟩, .running) := by
  constructor
  · refine ⟨_, rfl, fun h => h.1 ?_⟩
    decide +kernel
  · exact fun k => handlerFrom_zeroLength sampleConf k sampleEnv sampleConn

/-! ## A stream that is split inside a header -/
def splitRun : List Event :=
  [.read [16, 0] sampleEnv, .read [0, 6, 1, 2, 16, 0, 0] sampleEnv, .other .timeout,
    .read [5, 9, 16] sampleEnv]

theorem stream_framed_split :
    ∃ t, run (step sampleConf) (State.init sampleConn 40) splitRun = some t ∧
      t.passed = [⟨6, [16, 0, 0, 6, 1, 2]⟩, ⟨5, [16, 0, 0, 5, 9]⟩] ∧ Framed t := by
  obtain ⟨t, hr, hm, hp⟩ : ∃ t, run (step sampleConf) (State.init sampleConn 40) splitRun = some t ∧
      ¬ MeetsShort t.received ∧
      t.passed = [⟨6, [16, 0, 0, 6, 1, 2]⟩, ⟨5, [16, 0, 0, 5, 9]⟩] := by decide +kernel
  exact ⟨t, hr, hp, stream_framed sampleConf sampleConn 40 splitRun t hr hm⟩

end Sstp.Stream
