import Mathlib.Algebra.Group.Nat.Defs
import Mathlib.Algebra.Ring.Int.Defs
import MicroBng.Lib.Machine

/-!
# The hand-off of session frames

`pppoe_recv_PPP` of `ctrl/pppoe/pppoe.c` copies a frame into the one buffer of the connection and
queues a call of `ppp_packet_read` (`ppp/ppp.c`) in its context. The flag `is_processing` says that
the buffer is in use: the writer looks at it a hundred times, with a pause of 10 µs, and then goes
on in any case; the reader clears it. The two contexts are interleaved statement by statement.

* `settled_handoff`: if the flag is clear when the writer goes on, the frames are processed in order
-/

namespace Pppoe.Handoff

open Machine

/-- `ntohs` of the two bytes at an offset. -/
def ntohs (pack : List UInt8) (off : Nat) : Nat :=
  (pack.getD off 0).toNat * 256 + (pack.getD (off + 1) 0).toNat

/-- `hdr->length`: the PPPoE header is behind 14 bytes of Ethernet header. -/
def hdrLength (pack : List UInt8) : Nat := ntohs pack 18

/-- The protocol field of PPP, two bytes behind the PPPoE header. -/
def proto (pack : List UInt8) : Nat := ntohs pack 20

/-- A frame as `ppp_ses_read` passes it on: it was read into `ETHER_MAX_LEN` bytes, and the length
it announces was compared with its size. -/
structure Frame where
  data : List UInt8
  size_le : data.length ≤ 1518
  fits : 20 + hdrLength data ≤ data.length
  deriving DecidableEq

/-- The first two tests of `pppoe_recv_PPP`. -/
def Frame.accepted (f : Frame) : Bool := 22 ≤ f.data.length && 2 ≤ hdrLength f.data

def pppIpv6 : Nat := 0x57

/-- `IN6_IS_ADDR_LINKLOCAL` of the source address. -/
def linkLocal (pack : List UInt8) : Bool :=
  pack.getD 30 0 == 0xfe && pack.getD 31 0 &&& 0xc0 == 0x80

/-- An `int` as a size of `memcpy`. -/
def sizeT (n : Int) : Nat := (n % 2 ^ 64).toNat

/-- What the branch for IPv6 looks at behind the PPPoE header: the protocol and the IPv6 header;
for UDP from a link-local address the header of UDP (`ppp_dhcpv6_read`), and, from the port of a
DHCPv6 client, as many bytes as the payload length says; the type of an ICMPv6 message
(`ppp_ipv6_nd_read`). -/
def ip6Read (pack : List UInt8) : Nat :=
  let nxt := pack.getD 28 0
  let plen := ntohs pack 26
  42 +
    if nxt = 17 then
      if linkLocal pack then 8 + if ntohs pack 62 = 546 then sizeT (plen - 8) else 0 else 0
    else if nxt = 58 ∧ 8 ≤ plen then 1
    else 0

def bytesOf (pack : List UInt8) : List UInt8 :=
  (pack.drop 20).take (if proto pack = pppIpv6 then ip6Read pack else hdrLength pack)

/-- `memcpy` to the start of the buffer. -/
def memcpy (pack src : List UInt8) : List UInt8 := src ++ pack.drop src.length

/-- What `ppp_packet_read` processed, and the frame it was queued for. -/
structure Entry where
  frame : Frame
  proto : Nat
  bytes : List UInt8
  deriving DecidableEq

/-- Where `pppoe_recv_PPP` is: at the flag for the `i`-th time, or before setting, copying,
queueing. -/
inductive Writer
  | idle
  | polling (f : Frame) (i : Nat)
  | leaving (f : Frame)
  | storing (f : Frame)
  | calling (f : Frame)

/-- `ppp_packet_read` has read the protocol, copied the payload, or will clear the flag. -/
inductive Reader
  | idle
  | opened (f : Frame) (proto : Nat)
  | copied (f : Frame) (proto : Nat) (buf : List UInt8)
  | done

/-- A connection. `calls` are queued with their frames; `taken` have had a call queued. -/
structure Conn where
  pack : List UInt8
  isProcessing : Bool
  writer : Writer
  reader : Reader
  calls : List Frame
  taken : List Frame
  log : List Entry

def Conn.init : Conn := ⟨List.replicate 1518 0, false, .idle, .idle, [], [], []⟩

inductive Event
  | recv (f : Frame)
  | poll | mark | store | call
  | openCall | copy | handle | clear

def step (s : Conn) : Event → Option Conn
  | .recv f =>
    match s.writer with
    | .idle => some (if f.accepted then { s with writer := .polling f 0 } else s)
    | _ => none
  | .poll =>
    match s.writer with
    | .polling f i =>
      some { s with
        writer := if s.isProcessing && i + 1 < 100 then .polling f (i + 1) else .leaving f }
    | _ => none
  | .mark =>
    match s.writer with
    | .leaving f => some { s with isProcessing := true, writer := .storing f }
    | _ => none
  | .store =>
    match s.writer with
    | .storing f => some { s with pack := memcpy s.pack f.data, writer := .calling f }
    | _ => none
  | .call =>
    match s.writer with
    | .calling f =>
      some { s with calls := s.calls ++ [f], taken := s.taken ++ [f], writer := .idle }
    | _ => none
  | .openCall =>
    match s.reader, s.calls with
    | .idle, f :: calls => some { s with reader := .opened f (proto s.pack), calls := calls }
    | _, _ => none
  | .copy =>
    match s.reader with
    | .opened f p =>
      if p = pppIpv6 then none
      else some { s with reader := .copied f p ((s.pack.drop 20).take (hdrLength s.pack)) }
    | _ => none
  | .handle =>
    match s.reader with
    | .opened f p =>
      -- The handlers of IPv6 read the buffer itself.
      if p = pppIpv6 then
        some { s with
          reader := .done
          log := s.log ++ [⟨f, p, (s.pack.drop 20).take (ip6Read s.pack)⟩] }
      else none
    | .copied f p buf => some { s with reader := .done, log := s.log ++ [⟨f, p, buf⟩] }
    | _ => none
  | .clear =>
    match s.reader with
    | .done => some { s with isProcessing := false, reader := .idle }
    | _ => none

/-! ## The property -/

def Reader.frames : Reader → List Frame
  | .opened f _ => [f]
  | .copied f _ _ => [f]
  | _ => []

def Entry.Right (e : Entry) : Prop :=
  e.proto = Handoff.proto e.frame.data ∧ e.bytes = bytesOf e.frame.data

instance (e : Entry) : Decidable e.Right := inferInstanceAs (Decidable (_ ∧ _))

/-- Every call processed its own frame, and the frames were or will be, once and in order. -/
structure HandOk (s : Conn) : Prop where
  right : ∀ e ∈ s.log, e.Right
  order : s.taken = s.log.map Entry.frame ++ s.reader.frames ++ s.calls

def Frame.Whole (f : Frame) : Prop := proto f.data = pppIpv6 → 20 + ip6Read f.data ≤ f.data.length

/-- A frame holds its IPv6 packet, and the flag is clear when the writer last looks at it. -/
def Settled (s : Conn) : Event → Prop
  | .recv f => f.Whole
  | .poll =>
    match s.writer with
    | .polling _ i => i + 1 = 100 → s.isProcessing = false
    | _ => True
  | _ => True

instance (s : Conn) : ∀ e, Decidable (Settled s e)
  | .recv _ => inferInstanceAs (Decidable (_ → _))
  | .poll =>
    match h : s.writer with
    | .polling _ i =>
      decidable_of_iff (i + 1 = 100 → s.isProcessing = false) (by simp only [Settled, h])
    | .idle | .leaving _ | .storing _ | .calling _ => isTrue (by simp only [Settled, h])
  | .mark | .store | .call | .openCall | .copy | .handle | .clear => isTrue trivial

/-! ## What a statement does -/

/-- The statements that can be executed, with what each has found. -/
inductive Move (s : Conn) : Event → Conn → Prop
  | refuse (f : Frame) (hw : s.writer = .idle) : Move s (.recv f) s
  | recv (f : Frame) (hw : s.writer = .idle) (ha : f.accepted = true) :
      Move s (.recv f) { s with writer := .polling f 0 }
  | poll (f : Frame) (i : Nat) (hw : s.writer = .polling f i) (hmore : i + 1 < 100) :
      Move s .poll { s with writer := .polling f (i + 1) }
  | leave (f : Frame) (i : Nat) (hw : s.writer = .polling f i)
      (hlast : i + 1 < 100 → s.isProcessing = false) :
      Move s .poll { s with writer := .leaving f }
  | mark (f : Frame) (hw : s.writer = .leaving f) :
      Move s .mark { s with isProcessing := true, writer := .storing f }
  | store (f : Frame) (hw : s.writer = .storing f) :
      Move s .store { s with pack := memcpy s.pack f.data, writer := .calling f }
  | call (f : Frame) (hw : s.writer = .calling f) :
      Move s .call { s with calls := s.calls ++ [f], taken := s.taken ++ [f], writer := .idle }
  | openCall (f : Frame) (calls : List Frame) (hr : s.reader = .idle)
      (hcalls : s.calls = f :: calls) :
      Move s .openCall { s with reader := .opened f (proto s.pack), calls := calls }
  | copy (f : Frame) (p : Nat) (hr : s.reader = .opened f p) (hp : p ≠ pppIpv6) :
      Move s .copy { s with reader := .copied f p ((s.pack.drop 20).take (hdrLength s.pack)) }
  | handleIp6 (f : Frame) (p : Nat) (hr : s.reader = .opened f p) (hp : p = pppIpv6) :
      Move s .handle { s with
        reader := .done
        log := s.log ++ [⟨f, p, (s.pack.drop 20).take (ip6Read s.pack)⟩] }
  | handle (f : Frame) (p : Nat) (buf : List UInt8) (hr : s.reader = .copied f p buf) :
      Move s .handle { s with reader := .done, log := s.log ++ [⟨f, p, buf⟩] }
  | clear (hr : s.reader = .done) : Move s .clear { s with isProcessing := false, reader := .idle }

theorem step_move {s s' : Conn} {e : Event} (h : step s e = some s') : Move s e s' := by
  cases e with
  | recv f =>
    dsimp only [step] at h
    split at h
    · next hw =>
      cases h
      split
      · next ha => exact .recv f hw ha
      · exact .refuse f hw
    · cases h
  | poll =>
    dsimp only [step] at h
    split at h
    · next f i hw =>
      cases h
      by_cases hgo : (s.isProcessing && decide (i + 1 < 100)) = true
      · rw [if_pos hgo]
        rw [Bool.and_eq_true, decide_eq_true_eq] at hgo
        exact .poll f i hw hgo.2
      · rw [if_neg hgo]
        exact .leave f i hw fun hmore => by simpa [hmore] using hgo
    · cases h
  | mark =>
    dsimp only [step] at h
    split at h
    · next f hw =>
      cases h
      exact .mark f hw
    · cases h
  | store =>
    dsimp only [step] at h
    split at h
    · next f hw =>
      cases h
      exact .store f hw
    · cases h
  | call =>
    dsimp only [step] at h
    split at h
    · next f hw =>
      cases h
      exact .call f hw
    · cases h
  | openCall =>
    dsimp only [step] at h
    split at h
    · next f calls hr hcalls =>
      cases h
      exact .openCall f calls hr hcalls
    · cases h
  | copy =>
    dsimp only [step] at h
    split at h
    · next f p hr =>
      split at h
      · cases h
      · next hp =>
        cases h
        exact .copy f p hr hp
    · cases h
  | handle =>
    dsimp only [step] at h
    split at h
    · next f p hr =>
      split at h
      · next hp =>
        cases h
        exact .handleIp6 f p hr hp
      · cases h
    · next f p buf hr =>
      cases h
      exact .handle f p buf hr
    · cases h
  | clear =>
    dsimp only [step] at h
    split at h
    · next hr =>
      cases h
      exact .clear hr
    · cases h

/-! ## The order of the frames -/

/-- The frames are processed in the order in which they were taken. -/
def Ordered (s : Conn) : Prop := s.taken = s.log.map Entry.frame ++ s.reader.frames ++ s.calls

theorem Move.ordered {s s' : Conn} {e : Event} (h : Move s e s') (ho : Ordered s) : Ordered s' := by
  unfold Ordered at ho ⊢
  cases h with
  | refuse | recv | poll | leave | mark | store => exact ho
  | call => simp [ho]
  | openCall f calls hr hcalls => simp [ho, hr, hcalls, Reader.frames]
  | copy f p hr | handleIp6 f p hr | handle f p buf hr | clear hr => simp [ho, hr, Reader.frames]

/-! ## The buffer -/

def Stores (pack : List UInt8) (f : Frame) : Prop := ∃ rest, pack = f.data ++ rest

section Buffer

variable {pack : List UInt8} {f : Frame}

theorem memcpy_stores (pack : List UInt8) (f : Frame) : Stores (memcpy pack f.data) f :=
  ⟨pack.drop f.data.length, rfl⟩

variable (h : Stores pack f)
include h

theorem Stores.getD {off : Nat} (hoff : off < f.data.length) :
    pack.getD off 0 = f.data.getD off 0 := by
  obtain ⟨rest, rfl⟩ := h
  simp [List.getElem?_append_left hoff]

theorem Stores.ntohs {off : Nat} (hoff : off + 1 < f.data.length) :
    ntohs pack off = ntohs f.data off := by
  unfold Handoff.ntohs
  rw [h.getD (by omega), h.getD hoff]

theorem Stores.take {n : Nat} (hn : 20 + n ≤ f.data.length) :
    (pack.drop 20).take n = (f.data.drop 20).take n := by
  obtain ⟨rest, rfl⟩ := h
  grind

omit h in
theorem Frame.size_of_accepted (ha : f.accepted = true) : 22 ≤ f.data.length := by
  unfold Frame.accepted at ha
  simp only [Bool.and_eq_true, decide_eq_true_eq] at ha
  exact ha.1

theorem Stores.proto (ha : f.accepted = true) : proto pack = proto f.data :=
  h.ntohs (Frame.size_of_accepted ha)

theorem Stores.payload (hp : Handoff.proto f.data ≠ pppIpv6) :
    (pack.drop 20).take (hdrLength pack) = bytesOf f.data := by
  grind [hdrLength, h.ntohs, bytesOf, h.take, f.fits]

theorem Stores.ip6 (hw : f.Whole) (hp : Handoff.proto f.data = pppIpv6) :
    (pack.drop 20).take (ip6Read pack) = bytesOf f.data := by
  have hread := hw hp
  have hsize : 62 ≤ f.data.length := by
    have : 42 ≤ ip6Read f.data := Nat.le_add_right ..
    omega
  have hip6 : ip6Read pack = ip6Read f.data := by
    have hlocal : linkLocal pack = linkLocal f.data := by
      simp only [linkLocal, h.getD (show 30 < f.data.length by omega),
        h.getD (show 31 < f.data.length by omega)]
    -- The ports are looked at behind a header that the frame then has.
    simp only [ip6Read, h.getD (show 28 < f.data.length by omega), hlocal,
      h.ntohs (show 26 + 1 < f.data.length by omega)] at hread ⊢
    split_ifs at hread ⊢ <;> grind [h.ntohs]
  rw [hip6, h.take hread, bytesOf, if_pos hp]

end Buffer

/-! ## The use of the buffer -/

def Reader.Serves (f : Frame) : Reader → Prop
  | .idle => False
  | .opened g p => g = f ∧ p = proto f.data
  | .copied g p buf => g = f ∧ p = proto f.data ∧ buf = bytesOf f.data
  | .done => True

structure Quiet (s : Conn) : Prop where
  calls : s.calls = []
  reader : s.reader = .idle

/-- The buffer holds the frame of the one call that is queued or performed. -/
structure Held (s : Conn) (f : Frame) : Prop where
  flag : s.isProcessing = true
  stores : Stores s.pack f
  accepted : f.accepted = true
  whole : f.Whole
  call : (s.calls = [f] ∧ s.reader = .idle) ∨ (s.calls = [] ∧ s.reader.Serves f)

/-- The buffer between two frames: it is free, or the last frame is being processed. -/
def Between (s : Conn) : Prop := (s.isProcessing = false ∧ Quiet s) ∨ ∃ f, Held s f

def Writer.Uses (s : Conn) : Writer → Prop
  | .idle => Between s
  | .polling f i => f.accepted = true ∧ f.Whole ∧ i < 100 ∧ Between s
  | .leaving f => f.accepted = true ∧ f.Whole ∧ Quiet s
  | .storing f => f.accepted = true ∧ f.Whole ∧ s.isProcessing = true ∧ Quiet s
  | .calling f => f.accepted = true ∧ f.Whole ∧ s.isProcessing = true ∧ Quiet s ∧ Stores s.pack f

structure Inv (s : Conn) : Prop where
  right : ∀ e ∈ s.log, e.Right
  uses : s.writer.Uses s

section Invariant

variable {s s' : Conn} {w : Writer} {f : Frame}

theorem init_inv : Inv .init where
  right e he := by cases he
  uses := .inl ⟨rfl, rfl, rfl⟩

theorem Between.quiet (hb : Between s) (hflag : s.isProcessing = false) : Quiet s := by
  rcases hb with ⟨-, hq⟩ | ⟨f, hf⟩
  · exact hq
  · rw [hf.flag] at hflag
    cases hflag

theorem Between.set_writer (hb : Between s) (w : Writer) : Between { s with writer := w } := by
  rcases hb with ⟨hflag, hq⟩ | ⟨f, hf⟩
  · exact .inl ⟨hflag, hq.calls, hq.reader⟩
  · exact .inr ⟨f, hf.flag, hf.stores, hf.accepted, hf.whole, hf.call⟩

theorem Writer.Uses.waits (hu : w.Uses s) (hbusy : ¬ Quiet s) :
    Between s ∧ ∀ s', Between s' → w.Uses s' := by
  cases w with
  | idle => exact ⟨hu, fun _ hb => hb⟩
  | polling f i =>
    obtain ⟨ha, hw, hi, hb⟩ := hu
    exact ⟨hb, fun _ hb' => ⟨ha, hw, hi, hb'⟩⟩
  | leaving f => exact absurd hu.2.2 hbusy
  | storing f => exact absurd hu.2.2.2 hbusy
  | calling f => exact absurd hu.2.2.2.1 hbusy

theorem Writer.Uses.held (hu : w.Uses s) (hbusy : ¬ Quiet s) : ∃ f, Held s f :=
  (hu.waits hbusy).1.resolve_left fun hq => hbusy hq.2

theorem Writer.Uses.reading (hu : w.Uses s) (hbusy : ¬ Quiet s)
    (hb : ∀ f, Held s f → Between s') : w.Uses s' := by
  obtain ⟨f, hf⟩ := hu.held hbusy
  exact (hu.waits hbusy).2 s' (hb f hf)

theorem not_quiet_of_reader (h : s.reader ≠ .idle) : ¬ Quiet s := fun hq => h hq.reader

theorem Held.serves (hf : Held s f) (h : s.reader ≠ .idle) : s.calls = [] ∧ s.reader.Serves f := by
  grind [hf.call]

theorem Held.go_on (hf : Held s f) {r : Reader} {log : List Entry} (hr : r.Serves f)
    (hc : s.calls = []) : Between { s with reader := r, log := log } :=
  .inr ⟨f, hf.flag, hf.stores, hf.accepted, hf.whole, .inr ⟨hc, hr⟩⟩

theorem Inv.handled {e : Entry} (hi : Inv s) (hne : s.reader ≠ .idle)
    (hright : ∀ g, Held s g → s.reader.Serves g → e.Right) :
    Inv { s with reader := .done, log := s.log ++ [e] } := by
  have hbusy := not_quiet_of_reader hne
  obtain ⟨g, hg⟩ := hi.uses.held hbusy
  refine ⟨fun e' he' => ?_, hi.uses.reading hbusy fun g hg => ?_⟩
  · rcases List.mem_append.1 he' with he' | he'
    · exact hi.right e' he'
    · rw [List.mem_singleton.1 he']
      exact hright g hg (hg.serves hne).2
  · exact hg.go_on trivial (hg.serves hne).1

theorem Move.inv {e : Event} (h : Move s e s') (hc : Settled s e) (hi : Inv s) : Inv s' := by
  have hu := hi.uses
  cases h with
  | refuse f hw => exact hi
  | recv f hw ha =>
    rw [hw] at hu
    exact ⟨hi.right, ha, hc, by decide, hu.set_writer _⟩
  | poll f i hw hmore =>
    rw [hw] at hu
    obtain ⟨ha, hwh, -, hb⟩ := hu
    exact ⟨hi.right, ha, hwh, hmore, hb.set_writer _⟩
  | leave f i hw hlast =>
    rw [hw] at hu
    obtain ⟨ha, hwh, hlt, hb⟩ := hu
    -- The flag is clear, also when this was the last look.
    have hflag : s.isProcessing = false := by grind [Settled]
    exact ⟨hi.right, ha, hwh, (hb.quiet hflag).calls, (hb.quiet hflag).reader⟩
  | mark f hw =>
    rw [hw] at hu
    obtain ⟨ha, hwh, hq⟩ := hu
    exact ⟨hi.right, ha, hwh, rfl, hq.calls, hq.reader⟩
  | store f hw =>
    rw [hw] at hu
    obtain ⟨ha, hwh, hflag, hq⟩ := hu
    exact ⟨hi.right, ha, hwh, hflag, ⟨hq.calls, hq.reader⟩, memcpy_stores s.pack f⟩
  | call f hw =>
    rw [hw] at hu
    obtain ⟨ha, hwh, hflag, hq, hst⟩ := hu
    refine ⟨hi.right, .inr ⟨f, hflag, hst, ha, hwh, .inl ⟨?_, hq.reader⟩⟩⟩
    rw [hq.calls]
    rfl
  | openCall f calls hr hcalls =>
    refine ⟨hi.right, hu.reading ?_ fun g hg => ?_⟩
    · intro hq
      rw [hq.calls] at hcalls
      cases hcalls
    · rcases hg.call with ⟨hc, -⟩ | ⟨hc, -⟩
      · rw [hc] at hcalls
        cases hcalls
        have hp := hg.stores.proto hg.accepted
        exact .inr ⟨f, hg.flag, hg.stores, hg.accepted, hg.whole, .inr ⟨rfl, rfl, hp⟩⟩
      · rw [hc] at hcalls
        cases hcalls
  | copy f p hr hp =>
    have hne : s.reader ≠ .idle := by rw [hr]; exact Reader.noConfusion
    refine ⟨hi.right, hu.reading (not_quiet_of_reader hne) fun g hg => ?_⟩
    obtain ⟨hc, hs⟩ := hg.serves hne
    rw [hr] at hs
    obtain ⟨rfl, rfl⟩ := hs
    exact hg.go_on ⟨rfl, rfl, hg.stores.payload hp⟩ hc
  | handleIp6 f p hr hp =>
    refine hi.handled (by rw [hr]; exact Reader.noConfusion) fun g hg hs => ?_
    rw [hr] at hs
    obtain ⟨rfl, rfl⟩ := hs
    exact ⟨rfl, hg.stores.ip6 hg.whole hp⟩
  | handle f p buf hr =>
    refine hi.handled (by rw [hr]; exact Reader.noConfusion) fun g hg hs => ?_
    rw [hr] at hs
    obtain ⟨rfl, rfl, rfl⟩ := hs
    exact ⟨rfl, rfl⟩
  | clear hr =>
    have hne : s.reader ≠ .idle := by rw [hr]; exact Reader.noConfusion
    refine ⟨hi.right, hu.reading (not_quiet_of_reader hne) fun g hg => ?_⟩
    exact .inl ⟨rfl, (hg.serves hne).1, rfl⟩

end Invariant

/-- **The hand-off**: if the flag is clear when the writer goes on, each call processes its own
frame, and the frames are processed once and in order. -/
theorem settled_handoff (es : List Event) (hg : Guarded step Settled .init es) :
    Throughout step HandOk .init es := by
  have hinv : Throughout step (fun s => Inv s ∧ Ordered s) .init es :=
    hg.throughout (fun _ _ _ hi hc h => ⟨(step_move h).inv hc hi.1, (step_move h).ordered hi.2⟩)
      ⟨init_inv, rfl⟩
  exact hinv.mono fun _ hi => ⟨hi.1.right, hi.2⟩

/-- The frame with the bytes `payload` behind the PPPoE header. -/
def frameOf (payload : List UInt8) (h : payload.length < 100) : Frame where
  data := List.replicate 18 0 ++ [0, payload.length.toUInt8] ++ payload
  size_le := by grind
  fits := by
    have hlen : (payload.length.toUInt8).toNat = payload.length := by
      simp only [Nat.toUInt8_eq, UInt8.toNat_ofNat']
      omega
    simp only [hdrLength, ntohs, List.getD, List.length_append, List.length_replicate,
      List.length_cons, List.length_nil]
    simp [hlen]

def first : Frame := frameOf [0xc0, 0x21, 1] (by decide)

def second : Frame := frameOf [0xc0, 0x21, 2] (by decide)

/-- A frame that ends with an IPv6 header that announces 8 bytes of UDP. -/
def truncated : Frame :=
  frameOf ([0, 0x57, 0x60, 0, 0, 0, 0, 8, 17, 0, 0xfe, 0x80] ++ List.replicate 30 0) (by decide)

/-- A frame with the UDP header of a DHCPv6 client whose IPv6 header announces no payload. -/
def unannounced : Frame :=
  frameOf ([0, 0x57, 0x60, 0, 0, 0, 0, 0, 17, 0, 0xfe, 0x80] ++ List.replicate 30 0 ++
    [2, 34, 2, 35, 0, 8, 0, 0]) (by decide)

/-- The reader is done with the first frame before the writer goes on with the second. -/
def inTurn : List Event :=
  [.recv first, .poll, .mark, .store, .call, .recv second, .poll, .openCall, .copy, .poll, .handle,
    .clear, .poll, .mark, .store, .call, .openCall, .copy, .handle, .clear]

theorem settled_handoff_in_turn :
    Guarded step Settled .init inTurn ∧ Throughout step HandOk .init inTurn :=
  have hg : Guarded step Settled .init inTurn := by decide +kernel
  ⟨hg, settled_handoff _ hg⟩

/-- The call for a frame of IPv6 processes bytes its frame does not have. -/
def overread (f : Frame) : List Event :=
  [.recv f, .poll, .mark, .store, .call, .openCall, .handle]

theorem not_handOk_of_wrong {es : List Event}
    (h : ∃ t, run step .init es = some t ∧ ∃ e ∈ t.log, ¬ e.Right) :
    ∃ t, run step .init es = some t ∧ ¬ HandOk t := by
  obtain ⟨t, hr, e, he, hwrong⟩ := h
  exact ⟨t, hr, fun hok => hwrong (hok.right e he)⟩

/-- **Where the hand-off fails.** The writer looks at the flag a hundred times: the first frame's
call processes the second. The call for a truncated IPv6 packet processes bytes its frame does not
have, and one with a payload length below 8 has `memcpy` copy 2^64 - 8 bytes. -/
theorem overtaken_frame :
    (∃ t, run step .init ([.recv first, .poll, .mark, .store, .call, .recv second] ++
        List.replicate 100 .poll ++ [.mark, .store, .call, .openCall, .copy, .handle]) = some t ∧
      t.log = [⟨first, 0xc021, [0xc0, 0x21, 2]⟩] ∧ ¬ HandOk t) ∧
    (∃ t, run step .init (overread truncated) = some t ∧ ¬ HandOk t) ∧
    ip6Read unannounced.data = 42 + 8 + (2 ^ 64 - 8) ∧
    ∃ t, run step .init (overread unannounced) = some t ∧ ¬ HandOk t := by
  refine ⟨?_, not_handOk_of_wrong (by decide +kernel), by decide +kernel,
    not_handOk_of_wrong (by decide +kernel)⟩
  obtain ⟨t, hr, hlog⟩ : ∃ t, run step .init ([.recv first, .poll, .mark, .store, .call,
      .recv second] ++ List.replicate 100 .poll ++ [.mark, .store, .call, .openCall, .copy, .handle]) =
      some t ∧ t.log = [⟨first, 0xc021, [0xc0, 0x21, 2]⟩] := by decide +kernel
  refine ⟨t, hr, hlog, fun hok => ?_⟩
  have hwrong : ¬ Entry.Right ⟨first, 0xc021, [0xc0, 0x21, 2]⟩ := by decide
  exact hwrong (hok.right _ (by simp [hlog]))

end Pppoe.Handoff
