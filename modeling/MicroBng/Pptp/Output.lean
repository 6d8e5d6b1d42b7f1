import MicroBng.Lib.Machine

/-!
# The output of a PPTP connection

`post_msg` of `ctrl/pptp/pptp.c` writes a message to the socket and copies what is left of it to
`out_buf`, for `pptp_write`. It does not set `out_size`, so that `pptp_write` has nothing to write.

* `output_intact`: the output is intact if the socket takes each message whole or fails
* `sent_sublist`: in any case nothing is sent twice, out of order or without being accepted
-/

namespace Pptp.Output

open Machine

/-- What `write` returns; `before` is the byte in front of the message. -/
inductive Answer
  | wrote (n : Nat)
  | eintr
  | eagain
  | epipe (before : UInt8)
  | failed
  deriving DecidableEq

/-- `sent`: bytes the socket has taken; `accepted`: of messages `post_msg` returned 0 for. -/
structure Conn where
  outBuf : List UInt8 := []
  outSize : Nat := 0
  outPos : Nat := 0
  writable : Bool := false
  closed : Bool := false
  sent : List UInt8 := []
  accepted : List UInt8 := []

/-- `post_msg` after a write of `n` bytes, with what it copies to `out_buf`. -/
def Conn.posted (c : Conn) (msg : List UInt8) (n : Nat) (rest : List UInt8) : Conn :=
  { c with
    sent := c.sent ++ msg.take n
    accepted := c.accepted ++ msg
    outBuf := rest ++ c.outBuf.drop rest.length
    writable := c.writable || !rest.isEmpty }

/-- `post_msg`, with the answers to its writes; `none` while it repeats the write. -/
def postMsg (c : Conn) (msg : List UInt8) : List Answer → Option Conn
  | [] => none
  | a :: answers =>
    if c.outSize ≠ 0 then some c
    else match a with
      | .wrote n => if n ≤ msg.length then some (c.posted msg n (msg.drop n)) else none
      | .eintr => postMsg c msg answers
      | .eagain => some (c.posted msg 0 msg)
      | .epipe before => some (c.posted msg 0 (before :: msg))
      | .failed => some c

/-- `pptp_write`, with the answers to its writes; `none` while it is in its loop. -/
def pptpWrite : List Answer → Conn → Option Conn
  | [], _ => none
  | a :: answers, c =>
    let turn (n : Nat) : Option Conn :=
      let c := { c with sent := c.sent ++ (c.outBuf.drop c.outPos).take n, outPos := c.outPos + n }
      if c.outPos = c.outSize then some { c with outPos := 0, outSize := 0, writable := false }
      else pptpWrite answers c
    match a with
    | .wrote n => if n ≤ c.outSize - c.outPos then turn n else none
    | .eintr => pptpWrite answers c
    | .eagain => turn 0
    | .epipe _ | .failed => some { c with closed := true }

inductive Event
  | post (msg : List UInt8) (answers : List Answer)
  | write (answers : List Answer)

def step (c : Conn) : Event → Option Conn
  | .post msg answers => if c.closed then none else postMsg c msg answers
  | .write answers => if c.closed || !c.writable then none else pptpWrite answers c

/-- The bytes sent are a prefix of those accepted, and all once the socket takes the rest. -/
def Intact (c : Conn) : Prop :=
  c.sent <+: c.accepted ∧
    ∃ c', pptpWrite [.wrote (c.outSize - c.outPos)] c = some c' ∧ c'.sent = c.accepted

/-- The socket takes a message whole or fails. -/
def Whole (_ : Conn) : Event → Prop
  | .post msg answers => ∀ a ∈ answers.find? (· ≠ .eintr), a = .failed ∨ a = .wrote msg.length
  | .write _ => True

instance (c : Conn) (e : Event) : Decidable (Whole c e) := by
  unfold Whole
  split <;> infer_instance

structure Inv (c : Conn) : Prop where
  size : c.outSize = 0
  pos : c.outPos = 0
  sent : c.sent = c.accepted

variable {c c' : Conn} {answers : List Answer}

theorem Inv.post (hi : Inv c) {msg : List UInt8} (hw : Whole c (.post msg answers))
    (h : postMsg c msg answers = some c') : Inv c' := by
  induction answers with
  | nil => cases h
  | cons a answers ih =>
    unfold postMsg at h
    rw [if_neg (by simp [hi.size])] at h
    cases a with
    | eintr => exact ih (by simpa [Whole] using hw) h
    | failed => exact Option.some.inj h ▸ hi
    | eagain | epipe => simp [Whole] at hw
    | wrote n =>
      obtain rfl : n = msg.length := by simpa [Whole] using hw
      obtain rfl : c.posted msg msg.length (msg.drop msg.length) = c' := by simpa using h
      exact ⟨hi.size, hi.pos, by simp [Conn.posted, hi.sent]⟩

theorem Inv.write (hi : Inv c) (h : pptpWrite answers c = some c') : Inv c' := by
  induction answers with
  | nil => cases h
  | cons a answers ih =>
    cases a with
    | eintr => exact ih h
    | epipe | failed => exact Option.some.inj h ▸ ⟨hi.size, hi.pos, hi.sent⟩
    | eagain | wrote n =>
      simp [pptpWrite, hi.pos] at h
      grind [Inv]

theorem step_inv {e : Event} (hi : Inv c) (hw : Whole c e) (h : step c e = some c') : Inv c' := by
  cases e with
  | post msg answers => exact hi.post hw (Option.ite_none_left_eq_some.1 h).2
  | write answers => exact hi.write (Option.ite_none_left_eq_some.1 h).2

theorem Inv.intact (hi : Inv c) : Intact c := by
  refine ⟨hi.sent ▸ List.prefix_rfl, { c with outPos := 0, outSize := 0, writable := false }, ?_,
    hi.sent⟩
  simp [pptpWrite, hi.size, hi.pos]

/-- **The output stream**: it is intact throughout a run in which the socket takes each message whole
or fails. -/
theorem output_intact (es : List Event) (hg : Guarded step Whole {} es) :
    Throughout step Intact {} es :=
  (hg.throughout (fun _ _ _ hi hw h => step_inv hi hw h) ⟨rfl, rfl, rfl⟩).mono fun _ hi => hi.intact

theorem output_intact_interrupted :
    Throughout step Intact {} [.post [1, 2] [.eintr, .wrote 2], .post [3] [.wrote 1]] :=
  output_intact _ (by decide)

/-- Of three bytes one is written: the others are never sent, but the next message is. -/
theorem rest_lost :
    ∃ c, run step {} [.post [1, 2, 3] [.wrote 1], .write [.wrote 0], .post [4] [.wrote 1]] = some c ∧
      c.writable = false ∧ c.sent = [1, 4] ∧ c.accepted = [1, 2, 3, 4] ∧ ¬ c.sent <+: c.accepted :=
  ⟨_, rfl, rfl, rfl, rfl, by decide⟩

/-- `pptp_write` has nothing to write, and what was sent is a part of what was accepted, in order. -/
structure Lossy (c : Conn) : Prop where
  size : c.outSize = 0
  pos : c.outPos = 0
  sent : c.sent.Sublist c.accepted

theorem Lossy.post (hl : Lossy c) {msg : List UInt8} (h : postMsg c msg answers = some c') :
    Lossy c' := by
  have hposted (n : Nat) (rest : List UInt8) : Lossy (c.posted msg n rest) :=
    ⟨hl.size, hl.pos, hl.sent.append (List.take_sublist n msg)⟩
  induction answers with
  | nil => cases h
  | cons a answers ih =>
    simp only [postMsg, hl.size, ne_eq, not_true, if_false] at h
    cases a with
    | eintr => exact ih h
    | failed => exact Option.some.inj h ▸ hl
    | eagain | epipe => exact Option.some.inj h ▸ hposted 0 _
    | wrote n => exact Option.some.inj (Option.ite_none_right_eq_some.1 h).2 ▸ hposted n _

theorem Lossy.write (hl : Lossy c) (h : pptpWrite answers c = some c') : Lossy c' := by
  induction answers with
  | nil => cases h
  | cons a answers ih =>
    simp only [pptpWrite, hl.size, hl.pos] at h
    grind [Lossy]

/-- **Whatever the socket answers**, no byte is sent twice, out of order or without being accepted. -/
theorem sent_sublist (es : List Event) :
    Throughout step (fun c => c.sent.Sublist c.accepted) {} es := by
  have hg : Guarded step (fun _ _ => True) {} es := .of_forall (fun _ _ _ => trivial) _
  refine (hg.throughout (fun c e c' hl _ h => ?_) ⟨rfl, rfl, .slnil⟩).mono fun _ hl => Lossy.sent hl
  cases e with
  | post msg answers => exact hl.post (Option.ite_none_left_eq_some.1 h).2
  | write answers => exact hl.write (Option.ite_none_left_eq_some.1 h).2

end Pptp.Output
