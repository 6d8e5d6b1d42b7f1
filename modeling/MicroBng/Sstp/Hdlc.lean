import MicroBng.Lib.Bytes
import MicroBng.Sstp.Stream
import Mathlib.Data.List.Chain
import Mathlib.Data.List.TakeWhile

/-!
# HDLC frames of the PPP terminal

`ppp_read` takes HDLC frames off what it reads from a pseudo terminal and queues each as a data
packet; `sstp_recv_data_packet` makes a frame of each data packet that comes from the peer.

`ppp_read` takes the byte where its search for the next delimiter stopped for one. Where no delimiter
is left, that byte is behind the bytes read, and an old flag there ends the frame. Where an escaped
escape has been taken as data it is the byte after it, which is lost.

* `hdlc_framed`: if the reads are sound (`SoundByte`) what is queued are the frames
* `frames_return`: the frames of `sstp_recv_data_packet` are read as what they were made from
* `frame_fits_iff`: exactly when a frame fits; an escaped checksum is not reckoned with
-/

namespace Sstp.Hdlc

open Machine Bytes

/-! ## Data packets and frames -/

def pppFlag : UInt8 := 0x7e

def pppEscape : UInt8 := 0x7d

def pppTrans : UInt8 := 0x20

def fcsLen : Nat := 2

def pppBufSize : Nat := 8192

/-- The size of `struct sstp_hdr`. -/
def hdrSize : Nat := 4

/-- The tail room of a new `ppp_in` with a header reserved. -/
def frameRoom : Nat := Stream.maxPacketSize + fcsLen - hdrSize

/-- A data packet: `INIT_SSTP_DATA_HDR` and the payload. -/
def dataPacket (payload : List UInt8) : List UInt8 :=
  [0x10, 0x00] ++ toBe 2 (payload.length + hdrSize) ++ payload

def connected : CallState → Bool
  | .serverCallConnectedPending | .serverCallConnected => true
  | _ => false

def fcstab : Array UInt16 := #[
  0x0000, 0x1189, 0x2312, 0x329b, 0x4624, 0x57ad, 0x6536, 0x74bf, 0x8c48, 0x9dc1, 0xaf5a, 0xbed3,
  0xca6c, 0xdbe5, 0xe97e, 0xf8f7, 0x1081, 0x0108, 0x3393, 0x221a, 0x56a5, 0x472c, 0x75b7, 0x643e,
  0x9cc9, 0x8d40, 0xbfdb, 0xae52, 0xdaed, 0xcb64, 0xf9ff, 0xe876, 0x2102, 0x308b, 0x0210, 0x1399,
  0x6726, 0x76af, 0x4434, 0x55bd, 0xad4a, 0xbcc3, 0x8e58, 0x9fd1, 0xeb6e, 0xfae7, 0xc87c, 0xd9f5,
  0x3183, 0x200a, 0x1291, 0x0318, 0x77a7, 0x662e, 0x54b5, 0x453c, 0xbdcb, 0xac42, 0x9ed9, 0x8f50,
  0xfbef, 0xea66, 0xd8fd, 0xc974, 0x4204, 0x538d, 0x6116, 0x709f, 0x0420, 0x15a9, 0x2732, 0x36bb,
  0xce4c, 0xdfc5, 0xed5e, 0xfcd7, 0x8868, 0x99e1, 0xab7a, 0xbaf3, 0x5285, 0x430c, 0x7197, 0x601e,
  0x14a1, 0x0528, 0x37b3, 0x263a, 0xdecd, 0xcf44, 0xfddf, 0xec56, 0x98e9, 0x8960, 0xbbfb, 0xaa72,
  0x6306, 0x728f, 0x4014, 0x519d, 0x2522, 0x34ab, 0x0630, 0x17b9, 0xef4e, 0xfec7, 0xcc5c, 0xddd5,
  0xa96a, 0xb8e3, 0x8a78, 0x9bf1, 0x7387, 0x620e, 0x5095, 0x411c, 0x35a3, 0x242a, 0x16b1, 0x0738,
  0xffcf, 0xee46, 0xdcdd, 0xcd54, 0xb9eb, 0xa862, 0x9af9, 0x8b70, 0x8408, 0x9581, 0xa71a, 0xb693,
  0xc22c, 0xd3a5, 0xe13e, 0xf0b7, 0x0840, 0x19c9, 0x2b52, 0x3adb, 0x4e64, 0x5fed, 0x6d76, 0x7cff,
  0x9489, 0x8500, 0xb79b, 0xa612, 0xd2ad, 0xc324, 0xf1bf, 0xe036, 0x18c1, 0x0948, 0x3bd3, 0x2a5a,
  0x5ee5, 0x4f6c, 0x7df7, 0x6c7e, 0xa50a, 0xb483, 0x8618, 0x9791, 0xe32e, 0xf2a7, 0xc03c, 0xd1b5,
  0x2942, 0x38cb, 0x0a50, 0x1bd9, 0x6f66, 0x7eef, 0x4c74, 0x5dfd, 0xb58b, 0xa402, 0x9699, 0x8710,
  0xf3af, 0xe226, 0xd0bd, 0xc134, 0x39c3, 0x284a, 0x1ad1, 0x0b58, 0x7fe7, 0x6e6e, 0x5cf5, 0x4d7c,
  0xc60c, 0xd785, 0xe51e, 0xf497, 0x8028, 0x91a1, 0xa33a, 0xb2b3, 0x4a44, 0x5bcd, 0x6956, 0x78df,
  0x0c60, 0x1de9, 0x2f72, 0x3efb, 0xd68d, 0xc704, 0xf59f, 0xe416, 0x90a9, 0x8120, 0xb3bb, 0xa232,
  0x5ac5, 0x4b4c, 0x79d7, 0x685e, 0x1ce1, 0x0d68, 0x3ff3, 0x2e7a, 0xe70e, 0xf687, 0xc41c, 0xd595,
  0xa12a, 0xb0a3, 0x8238, 0x93b1, 0x6b46, 0x7acf, 0x4854, 0x59dd, 0x2d62, 0x3ceb, 0x0e70, 0x1ff9,
  0xf78f, 0xe606, 0xd49d, 0xc514, 0xb1ab, 0xa022, 0x92b9, 0x8330, 0x7bc7, 0x6a4e, 0x58d5, 0x495c,
  0x3de3, 0x2c6a, 0x1ef1, 0x0f78]

def fcsByte (fcs : UInt16) (byte : UInt8) : UInt16 :=
  (fcs >>> 8) ^^^ fcstab.getD ((fcs ^^^ byte.toUInt16) &&& 0xff).toNat 0

def trailer (payload : List UInt8) : List UInt8 :=
  let fcs := payload.foldl fcsByte 0xffff ^^^ 0xffff
  [fcs.toUInt8, (fcs >>> 8).toUInt8]

def stuff (byte : UInt8) : List UInt8 :=
  if byte < 0x20 ∨ byte = pppFlag ∨ byte = pppEscape then [pppEscape, byte ^^^ pppTrans]
  else [byte]

def frame (payload : List UInt8) : List UInt8 :=
  pppFlag :: (payload ++ trailer payload).flatMap stuff ++ [pppFlag]

/-- `sstp_recv_data_packet` does nothing, sends a frame to PPP, or overruns the buffer. -/
inductive Sent
  | nothing
  | frame (bytes : List UInt8)
  | overflow
  deriving DecidableEq

/-- `sstp_recv_data_packet`, with the bytes behind the header. -/
def sstpRecvDataPacket (call : CallState) (payload : List UInt8) : Sent :=
  if connected call = false ∨ payload.length = 0 then .nothing
  else if payload.length * 2 + 2 + fcsLen < (frame payload).length then .overflow
  else .frame (frame payload)

/-! ## `ppp_read` -/

/-- `ppp_in`, `ppp_flags` and the packets that were queued. -/
structure Framer where
  buf : List UInt8
  escape : Bool
  toss : Bool
  queued : List (List UInt8)

def Framer.init : Framer := ⟨[], false, false, []⟩

def delimiter (b : UInt8) : Bool := b == pppEscape || b == pppFlag

def Framer.scan (f : Framer) (src : List UInt8) : Nat :=
  if f.escape = true ∧ src.head? = some pppEscape then 1
  else (src.takeWhile fun b => !delimiter b).length

def Framer.put (f : Framer) (data : List UInt8) : Framer :=
  if data ≠ [] ∧ f.toss = false then
    if data.length ≤ frameRoom - f.buf.length then
      { f with
        buf := f.buf ++ if f.escape then data.modifyHead (· ^^^ pppTrans) else data
        escape := false }
    else { f with toss := true }
  else f

def Framer.delimit (f : Framer) (byte : UInt8) : Framer :=
  if byte = pppFlag then
    if f.buf.length ≤ fcsLen ∨ f.escape = true ∨ f.toss = true then
      { f with buf := [], escape := false, toss := false }
    else
      { f with
        buf := []
        queued := f.queued ++ [dataPacket (f.buf.take (f.buf.length - fcsLen))] }
  else if byte = pppEscape then { f with escape := true }
  else f

/-- One turn of the inner loop; `behind` is the byte of `pppbuf` behind the read. -/
def turn (behind : UInt8) (f : Framer) (src : List UInt8) : Framer :=
  (f.put (src.take (f.scan src))).delimit ((src.drop (f.scan src)).headD behind)

/-- The inner loop of `ppp_read`, with a bound on its turns. -/
def pppLoop (behind : UInt8) : Nat → Framer → List UInt8 → Framer
  | 0, f, _ => f
  | k + 1, f, src =>
    if src = [] then f
    else pppLoop behind k (turn behind f src) (src.drop (f.scan src + 1))

/-- A connection; `received` was read from the terminal while data packets pass. -/
structure State where
  framer : Framer
  call : CallState
  received : List UInt8
  dropped : Bool

def State.init : State := ⟨.init, .serverCallDisconnected, [], false⟩

inductive Event
  /-- `read` returns bytes to `ppp_read`. -/
  | read (data : List UInt8) (behind : UInt8)
  /-- `read` fails or the terminal is closed. -/
  | drop
  /-- The call changes its state. -/
  | call (c : CallState)

/-- `ppp_read` has read something. -/
def pppRead (s : State) (data : List UInt8) (behind : UInt8) : State :=
  if connected s.call then
    { s with
      framer := pppLoop behind data.length s.framer data
      received := s.received ++ data }
  else s

def step (s : State) : Event → Option State
  | .read data behind =>
    if s.dropped = false ∧ data ≠ [] ∧ data.length ≤ pppBufSize then some (pppRead s data behind)
    else none
  | .drop => if s.dropped = false then some { s with dropped := true } else none
  | .call c => some { s with call := c }

/-! ## A receiver of single bytes -/

/-- A receiver collects a frame, maybe with an escape pending, or skips one too long. -/
inductive Stage
  | collect (buf : List UInt8) (escape : Bool)
  | skip

def Stage.next (byte : UInt8) : Stage → Stage
  | .skip => .skip
  | .collect buf escape =>
    if byte = pppEscape ∧ escape = false then .collect buf true
    else if buf.length < frameRoom then
      .collect (buf ++ [if escape then byte ^^^ pppTrans else byte]) false
    else .skip

def Stage.complete : Stage → List (List UInt8)
  | .collect buf false =>
    if fcsLen < buf.length then [dataPacket (buf.take (buf.length - fcsLen))] else []
  | _ => []

structure Deframer where
  stage : Stage
  packets : List (List UInt8)

def Deframer.init : Deframer := ⟨.collect [] false, []⟩

def Deframer.feed (d : Deframer) (byte : UInt8) : Deframer :=
  if byte = pppFlag then ⟨.collect [] false, d.packets ++ d.stage.complete⟩
  else { d with stage := d.stage.next byte }

variable (d : Deframer) (payload : List UInt8)

def deframe (bs : List UInt8) : List (List UInt8) := (bs.foldl Deframer.feed .init).packets

theorem feed_flag :
    d.feed pppFlag = ⟨.collect [] false, d.packets ++ d.stage.complete⟩ := if_pos rfl

variable {b : UInt8} {ps : List (List UInt8)} {xs buf src : List UInt8}

theorem feed_next (h : b ≠ pppFlag) :
    d.feed b = { d with stage := d.stage.next b } := if_neg h

theorem feed_skip (h : pppFlag ∉ xs) : xs.foldl Deframer.feed ⟨.skip, ps⟩ = ⟨.skip, ps⟩ := by
  induction xs with
  | nil => rfl
  | cons x xs ih =>
    have hx : x ≠ pppFlag := fun he => h (he ▸ List.mem_cons_self)
    rw [List.foldl_cons, feed_next _ hx]
    exact ih fun hm => h (List.mem_cons_of_mem x hm)

theorem delimiter_eq_false : delimiter b = false ↔ b ≠ pppEscape ∧ b ≠ pppFlag := by
  simp [delimiter]

theorem delimiter_eq_true : delimiter b = true ↔ b = pppEscape ∨ b = pppFlag := by
  simp [delimiter]

theorem feed_collect (hb : buf.length ≤ frameRoom)
    (h : ∀ x ∈ xs, delimiter x = false) :
    xs.foldl Deframer.feed ⟨.collect buf false, ps⟩ =
      ⟨if buf.length + xs.length ≤ frameRoom then .collect (buf ++ xs) false else .skip, ps⟩ := by
  induction xs generalizing buf with
  | nil => simp [hb]
  | cons x xs ih =>
    obtain ⟨hesc, hflag⟩ := delimiter_eq_false.1 (h x List.mem_cons_self)
    have hxs : ∀ y ∈ xs, delimiter y = false := fun y hy => h y (List.mem_cons_of_mem x hy)
    have hnone : pppFlag ∉ xs := fun hm => (delimiter_eq_false.1 (hxs _ hm)).2 rfl
    rw [List.foldl_cons, feed_next _ hflag]
    by_cases hroom : buf.length < frameRoom
    · grind [Stage.next]
    grind [Stage.next, feed_skip]

/-! ## The loop as a receiver -/

/-- What `ppp_in` and `ppp_flags` stand for. -/
def Framer.abs (f : Framer) : Deframer :=
  ⟨if f.toss then .skip else .collect f.buf f.escape, f.queued⟩

variable {f : Framer}

theorem abs_of_toss (h : f.toss = true) : f.abs = ⟨.skip, f.queued⟩ := by
  simp [Framer.abs, h]

theorem abs_of_not_toss (h : f.toss = false) : f.abs = ⟨.collect f.buf f.escape, f.queued⟩ := by
  simp [Framer.abs, h]

/-- The bytes taken as data: none is a delimiter, except for one escape that is escaped. -/
def Data (f : Framer) (xs : List UInt8) : Prop :=
  (∀ x ∈ xs, delimiter x = false) ∨ (xs = [pppEscape] ∧ f.escape = true)

theorem data_scan (f : Framer) (src : List UInt8) : Data f (src.take (f.scan src)) := by
  unfold Framer.scan
  by_cases h : f.escape = true ∧ src.head? = some pppEscape
  · obtain ⟨hesc, hhead⟩ := h
    obtain ⟨rest, rfl⟩ := List.head?_eq_some_iff.1 hhead
    rw [if_pos ⟨hesc, rfl⟩]
    exact .inr ⟨rfl, hesc⟩
  · refine .inl fun x hx => ?_
    have hpre : src.take (src.takeWhile fun b => !delimiter b).length =
        src.takeWhile fun b => !delimiter b :=
      (List.prefix_iff_eq_take.1 (List.takeWhile_prefix _)).symm
    grind [List.all_takeWhile]

theorem Data.no_flag (h : Data f xs) : pppFlag ∉ xs := by
  rcases h with h | ⟨rfl, -⟩
  · exact fun hm => (delimiter_eq_false.1 (h _ hm)).2 rfl
  · decide

theorem next_of_collect {escape : Bool} {x : UInt8}
    (h : x ≠ pppEscape ∨ escape = true) (hroom : buf.length < frameRoom) :
    (Stage.collect buf escape).next x =
      .collect (buf ++ [if escape then x ^^^ pppTrans else x]) false := by
  grind [Stage.next]

theorem next_of_full {escape : Bool} {x : UInt8}
    (h : x ≠ pppEscape ∨ escape = true) (hroom : ¬ buf.length < frameRoom) :
    (Stage.collect buf escape).next x = .skip := by
  grind [Stage.next]

theorem abs_put (h : Data f xs) : (f.put xs).abs = xs.foldl Deframer.feed f.abs := by
  unfold Framer.put
  by_cases htoss : f.toss = true
  · rw [if_neg (by simp [htoss]), abs_of_toss htoss, feed_skip h.no_flag]
  · have hnot : f.toss = false := by simpa using htoss
    cases xs with
    | nil => simp
    | cons x xs =>
      have hflag : x ≠ pppFlag := fun he => h.no_flag (he ▸ List.mem_cons_self)
      have hdata : x ≠ pppEscape ∨ f.escape = true := by
        rcases h with h | ⟨-, hesc⟩
        · exact .inl (delimiter_eq_false.1 (h x List.mem_cons_self)).1
        · exact .inr hesc
      have hrest : ∀ y ∈ xs, delimiter y = false := by
        rcases h with h | ⟨hx, -⟩
        · exact fun y hy => h y (List.mem_cons_of_mem x hy)
        simp_all
      have hnone : pppFlag ∉ xs := fun hm => (delimiter_eq_false.1 (hrest _ hm)).2 rfl
      rw [abs_of_not_toss hnot, List.foldl_cons,
        feed_next _ hflag, List.length_cons]
      by_cases hroom : f.buf.length < frameRoom
      · simp only [next_of_collect hdata hroom]
        have hlen : (f.buf ++ [if f.escape then x ^^^ pppTrans else x]).length =
            f.buf.length + 1 := by simp
        rw [feed_collect (by omega) hrest, hlen]
        by_cases hfit : xs.length + 1 ≤ frameRoom - f.buf.length
        · have hfit' : f.buf.length + 1 + xs.length ≤ frameRoom := by omega
          rw [if_pos hfit, if_pos hfit']
          simp only [Framer.abs, hnot]
          cases f.escape <;> simp
        grind [abs_of_toss]
      simp_all [next_of_full, feed_skip, abs_of_toss]

theorem abs_delimit_flag (f : Framer) : (f.delimit pppFlag).abs = f.abs.feed pppFlag := by
  rw [feed_flag]
  unfold Framer.delimit
  obtain ⟨buf, escape, toss, queued⟩ := f
  cases toss with
  | true => simp [Framer.abs, Stage.complete]
  | false =>
    cases escape with
    | true => simp [Framer.abs, Stage.complete]
    | false => grind [Framer.abs, Stage.complete]

theorem abs_delimit_escape (h : f.escape = false ∨ f.toss = true) :
    (f.delimit pppEscape).abs = f.abs.feed pppEscape := by
  unfold Framer.delimit
  rw [if_neg (by decide), if_pos rfl]
  by_cases htoss : f.toss = true
  · rw [abs_of_toss htoss, abs_of_toss (f := { f with escape := true }) htoss]
    rfl
  · have hnot : f.toss = false := by simpa using htoss
    have hesc := h.resolve_right htoss
    rw [abs_of_not_toss hnot, abs_of_not_toss (f := { f with escape := true }) hnot, hesc]
    rfl

theorem delimit_of_data (f : Framer) (h : delimiter b = false) : f.delimit b = f := by
  obtain ⟨hesc, hflag⟩ := delimiter_eq_false.1 h
  unfold Framer.delimit
  rw [if_neg hflag, if_neg hesc]

theorem escape_put (f : Framer) (h : xs ≠ []) :
    (f.put xs).escape = false ∨ (f.put xs).toss = true := by
  grind [Framer.put]

theorem escape_delimit_flag (f : Framer) : (f.delimit pppFlag).escape = false := by
  grind [Framer.delimit]

theorem escape_before {rest : List UInt8}
    (h : src.drop (f.scan src) = pppEscape :: rest) :
    (f.put (src.take (f.scan src))).escape = false ∨ (f.put (src.take (f.scan src))).toss = true := by
  by_cases hnil : src.take (f.scan src) = []
  · have hput : f.put (src.take (f.scan src)) = f := by
      rw [hnil]
      rfl
    have hsrc : src = pppEscape :: rest := by
      rw [← List.take_append_drop (f.scan src) src, hnil, h, List.nil_append]
    by_contra hcon
    have hesc : f.escape = true := by simp_all
    have hone : f.scan src = 1 := by
      rw [hsrc]
      exact if_pos ⟨hesc, rfl⟩
    rw [hone, hsrc] at hnil
    cases hnil
  · exact escape_put f hnil

/-- **What may be taken for a delimiter**: one in the read, or any while a frame is skipped; behind
the read none, or an escape while a frame is skipped. -/
def SoundByte (behind : UInt8) (toss : Bool) : List UInt8 → Prop
  | b :: _ => delimiter b = true ∨ toss = true
  | [] => delimiter behind = false ∨ (toss = true ∧ behind = pppEscape)

instance (behind : UInt8) (toss : Bool) (bs : List UInt8) : Decidable (SoundByte behind toss bs) := by
  unfold SoundByte
  split <;> infer_instance

/-- The byte where the search stops may be taken for a delimiter. -/
def SoundTurn (behind : UInt8) (f : Framer) (src : List UInt8) : Prop :=
  SoundByte behind (f.put (src.take (f.scan src))).toss (src.drop (f.scan src))
deriving Decidable

theorem abs_turn {behind : UInt8} (h : SoundTurn behind f src) :
    (turn behind f src).abs = (src.take (f.scan src + 1)).foldl Deframer.feed f.abs := by
  unfold SoundTurn at h
  unfold turn
  have hput := abs_put (data_scan f src)
  cases hd : src.drop (f.scan src) with
  | nil =>
    rw [hd] at h
    have hall : src.take (f.scan src) = src := List.take_of_length_le (List.drop_eq_nil_iff.1 hd)
    have hall' : src.take (f.scan src + 1) = src :=
      List.take_of_length_le (Nat.le_succ_of_le (List.drop_eq_nil_iff.1 hd))
    rw [hall] at hput h ⊢
    rw [hall', List.headD_nil, ← hput]
    rcases h with h | ⟨htoss, rfl⟩
    · rw [delimit_of_data _ h]
    · rw [abs_delimit_escape (.inr htoss), abs_of_toss htoss]
      rfl
  | cons b rest =>
    rw [hd] at h
    have hone : src.take (f.scan src + 1) = src.take (f.scan src) ++ [b] := by
      rw [List.take_add, hd]
      rfl
    rw [hone, List.foldl_append, ← hput, List.headD_cons]
    show _ = Deframer.feed _ b
    by_cases hb : delimiter b = true
    · rcases delimiter_eq_true.1 hb with rfl | rfl
      · exact abs_delimit_escape (escape_before hd)
      · exact abs_delimit_flag _
    · have hdata : delimiter b = false := by simpa using hb
      have htoss := h.resolve_left hb
      rw [delimit_of_data _ hdata, abs_of_toss htoss, feed_next _ (delimiter_eq_false.1 hdata).2]
      rfl

def SoundLoop (behind : UInt8) : Nat → Framer → List UInt8 → Prop
  | 0, _, _ => True
  | k + 1, f, src => src = [] ∨ (SoundTurn behind f src ∧
      SoundLoop behind k (turn behind f src) (src.drop (f.scan src + 1)))

instance SoundLoop.decidable (behind : UInt8) :
    ∀ (k : Nat) (f : Framer) (src : List UInt8), Decidable (SoundLoop behind k f src)
  | 0, _, _ => isTrue trivial
  | k + 1, f, src =>
    have := SoundLoop.decidable behind k (turn behind f src) (src.drop (f.scan src + 1))
    inferInstanceAs (Decidable (_ ∨ (_ ∧ _)))

theorem abs_pppLoop {behind : UInt8} {k : Nat}
    (hk : src.length ≤ k) (h : SoundLoop behind k f src) :
    (pppLoop behind k f src).abs = src.foldl Deframer.feed f.abs := by
  induction k generalizing f src with
  | zero =>
    obtain rfl := List.length_eq_zero_iff.1 (Nat.le_zero.1 hk)
    rfl
  | succ k ih =>
    by_cases hnil : src = []
    · rw [hnil]
      rfl
    grind [h.resolve_left, pppLoop, abs_turn, List.take_append_drop]

/-! ## Frames -/

theorem xor_trans_trans (b : UInt8) : b ^^^ pppTrans ^^^ pppTrans = b := by
  rw [UInt8.xor_assoc, UInt8.xor_self, UInt8.xor_zero]

theorem xor_trans_eq {c : UInt8} (h : b ^^^ pppTrans = c) : b = c ^^^ pppTrans := by
  rw [← h, xor_trans_trans]

theorem delimiter_xor_trans (h : b < 0x20 ∨ b = pppFlag ∨ b = pppEscape) :
    delimiter (b ^^^ pppTrans) = false := by
  refine delimiter_eq_false.2 ⟨fun he => ?_, fun he => ?_⟩
  · rw [xor_trans_eq he] at h
    exact absurd h (by decide)
  · rw [xor_trans_eq he] at h
    exact absurd h (by decide)

theorem feed_stuff (b : UInt8)
    (hroom : buf.length < frameRoom) :
    (stuff b).foldl Deframer.feed ⟨.collect buf false, ps⟩ = ⟨.collect (buf ++ [b]) false, ps⟩ := by
  unfold stuff
  by_cases h : b < 0x20 ∨ b = pppFlag ∨ b = pppEscape
  · have hflag := (delimiter_eq_false.1 (delimiter_xor_trans h)).2
    rw [if_pos h, List.foldl_cons, List.foldl_cons, feed_next _ hflag]
    show (⟨(Stage.collect buf true).next (b ^^^ pppTrans), ps⟩ : Deframer) = _
    rw [next_of_collect (.inr rfl) hroom, if_pos rfl, xor_trans_trans]
  grind [feed_next, next_of_collect]

theorem feed_flatMap_stuff
    (h : buf.length + xs.length ≤ frameRoom) :
    (xs.flatMap stuff).foldl Deframer.feed ⟨.collect buf false, ps⟩ =
      ⟨.collect (buf ++ xs) false, ps⟩ := by
  induction xs generalizing buf with
  | nil => rw [List.append_nil]; rfl
  | cons x xs ih =>
    rw [List.length_cons] at h
    have hlen : (buf ++ [x]).length = buf.length + 1 := by simp
    rw [List.flatMap_cons, List.foldl_append, feed_stuff x (by omega), ih (by omega),
      List.append_assoc, List.singleton_append]

@[simp] theorem length_trailer : (trailer payload).length = fcsLen := rfl

theorem feed_frame {payload : List UInt8} (hne : payload ≠ [])
    (hlen : payload.length + hdrSize ≤ Stream.maxPacketSize) :
    (frame payload).foldl Deframer.feed d =
      ⟨.collect [] false, d.packets ++ d.stage.complete ++ [dataPacket payload]⟩ := by
  have hroom : ([] : List UInt8).length + (payload ++ trailer payload).length ≤ frameRoom := by
    grind [length_trailer, frameRoom]
  have htake : (payload ++ trailer payload).take
      ((payload ++ trailer payload).length - fcsLen) = payload := by
    simp
  grind [frame, feed_flag, feed_flatMap_stuff, Stage.complete]

/-- The byte is sent with an escape. -/
def escaped (b : UInt8) : Bool := b < 0x20 ∨ b = pppFlag ∨ b = pppEscape

theorem length_flatMap_stuff (xs : List UInt8) :
    (xs.flatMap stuff).length = xs.length + xs.countP escaped := by
  induction xs with
  | nil => rfl
  | cons x xs ih =>
    rw [List.flatMap_cons, List.length_append, ih]
    by_cases hx : x < 0x20 ∨ x = pppFlag ∨ x = pppEscape
    · simp [stuff, escaped, hx]
      omega
    · simp [stuff, escaped, hx]
      omega

theorem length_flatMap_stuff_le (xs : List UInt8) : (xs.flatMap stuff).length ≤ 2 * xs.length := by
  have hcount : xs.countP escaped ≤ xs.length := List.countP_le_length
  rw [length_flatMap_stuff]
  omega

theorem length_frame_le : (frame payload).length ≤ 2 * payload.length + 6 := by
  grind [length_flatMap_stuff_le, length_trailer, fcsLen, frame]

/-! ### A frame in one read -/

def Apart (a b : UInt8) : Prop := a ≠ pppEscape ∨ b ≠ pppEscape

/-- What is read has no escaped escape and ends in a flag, or is nothing. -/
structure Tidy (f : Framer) (src : List UInt8) : Prop where
  apart : src.IsChain Apart
  first : f.escape = true → src.head? ≠ some pppEscape
  last : src ≠ [] → src.getLast? = some pppFlag

theorem Tidy.drop_scan (h : Tidy f src) (hne : src ≠ []) :
    ∃ b rest, src.drop (f.scan src) = b :: rest ∧ delimiter b = true := by
  have hno : ¬ (f.escape = true ∧ src.head? = some pppEscape) := fun hc => h.first hc.1 hc.2
  have hdrop : src.drop (f.scan src) = src.dropWhile fun b => !delimiter b := by
    grind [Framer.scan, List.takeWhile_append_dropWhile]
  have hmem : pppFlag ∈ src := List.mem_of_getLast? (h.last hne)
  cases hd : src.dropWhile fun b => !delimiter b with
  | nil =>
    have := List.dropWhile_eq_nil_iff.1 hd pppFlag hmem
    exact absurd this (by decide)
  | cons b rest => grind [List.head?_dropWhile_not]

theorem Tidy.next (behind : UInt8) (h : Tidy f src)
    (hne : src ≠ []) : Tidy (turn behind f src) (src.drop (f.scan src + 1)) := by
  obtain ⟨b, rest, hd, hb⟩ := h.drop_scan hne
  have hrest : src.drop (f.scan src + 1) = rest := by
    rw [← List.drop_drop, hd]
    rfl
  have hchain : (b :: rest).IsChain Apart := hd ▸ h.apart.drop _
  rw [hrest]
  refine ⟨hchain.tail, ?_, ?_⟩
  · intro hesc hhead
    obtain ⟨rest', rfl⟩ := List.head?_eq_some_iff.1 hhead
    have hap : Apart b pppEscape := (List.isChain_cons_cons.1 hchain).1
    have hflag : b = pppFlag :=
      (delimiter_eq_true.1 hb).resolve_left (hap.resolve_right (fun hn => hn rfl))
    simp_all [turn, escape_delimit_flag]
  · intro hr
    have hsrc : src = src.take (f.scan src) ++ b :: rest := by rw [← hd, List.take_append_drop]
    have hlast := h.last hne
    rw [hsrc, List.getLast?_append_of_ne_nil _ (List.cons_ne_nil b rest)] at hlast
    cases rest with
    | nil => exact absurd rfl hr
    | cons c rest => rwa [List.getLast?_cons_cons] at hlast

theorem Tidy.sound (behind : UInt8) (h : Tidy f src) (k : Nat) : SoundLoop behind k f src := by
  induction k generalizing f src with
  | zero => trivial
  | succ k ih =>
    by_cases hne : src = []
    · exact .inl hne
    · obtain ⟨b, rest, hd, hb⟩ := h.drop_scan hne
      refine .inr ⟨?_, ih (h.next behind hne)⟩
      unfold SoundTurn
      rw [hd]
      exact .inl hb

theorem isChain_flatMap_stuff (xs : List UInt8) :
    (xs.flatMap stuff ++ [pppFlag]).IsChain Apart := by
  induction xs with
  | nil => exact .singleton _
  | cons x xs ih =>
    rw [List.flatMap_cons]
    unfold stuff
    by_cases h : x < 0x20 ∨ x = pppFlag ∨ x = pppEscape
    · have hx := (delimiter_eq_false.1 (delimiter_xor_trans h)).1
      rw [if_pos h]
      refine List.isChain_cons_cons.2 ⟨.inr hx, List.isChain_cons.2 ⟨fun _ _ => .inl hx, ih⟩⟩
    · obtain ⟨-, -, hx⟩ : ¬ x < 0x20 ∧ x ≠ pppFlag ∧ x ≠ pppEscape := by simpa using h
      rw [if_neg h]
      exact List.isChain_cons.2 ⟨fun _ _ => .inl hx, ih⟩

theorem tidy_frame : Tidy .init (frame payload) where
  apart := by exact List.isChain_cons.2 ⟨fun _ _ => .inl (by decide), isChain_flatMap_stuff _⟩
  first := nofun
  last := fun _ => by
    unfold frame
    rw [List.getLast?_append]
    rfl

/-! ## The results -/

def Sound (s : State) : Event → Prop
  | .read data behind => connected s.call = true → SoundLoop behind data.length s.framer data
  | .drop => True
  | .call _ => True

instance (s : State) (e : Event) : Decidable (Sound s e) := by
  unfold Sound
  split <;> infer_instance

/-- The connection is where a receiver is after the bytes read. -/
def InStep (s : State) : Prop := s.framer.abs = s.received.foldl Deframer.feed .init

theorem inStep_step {s s' : State} {e : Event} (hs : InStep s) (hc : Sound s e)
    (h : step s e = some s') : InStep s' := by
  cases e with
  | read data behind =>
    obtain ⟨-, rfl⟩ := of_enabled_if h
    unfold pppRead
    by_cases hcon : connected s.call = true
    · rw [if_pos hcon]
      show (pppLoop behind data.length s.framer data).abs = _
      rw [abs_pppLoop (Nat.le_refl _) (hc hcon), hs, ← List.foldl_append]
    · rw [if_neg hcon]
      exact hs
  | drop =>
    obtain ⟨-, rfl⟩ := of_enabled_if h
    exact hs
  | call c =>
    obtain rfl := Option.some.inj h
    exact hs

/-- **HDLC framing**: if the reads are sound the packets are those of the stream, and a payload
whose frame fits comes back from it. -/
theorem hdlc_framed (es : List Event) (t : State) (hr : run step State.init es = some t)
    (hg : Guarded step Sound State.init es) (call : CallState) (hcall : connected call = true)
    (payload : List UInt8) (hne : payload ≠ [])
    (hlen : payload.length + hdrSize ≤ Stream.maxPacketSize)
    (hroom : (frame payload).length ≤ payload.length * 2 + 2 + fcsLen) :
    t.framer.queued = deframe t.received ∧
      sstpRecvDataPacket call payload = .frame (frame payload) ∧
      (frame payload).length ≤ pppBufSize ∧ deframe (frame payload) = [dataPacket payload] ∧
      ∀ behind, (pppLoop behind (frame payload).length .init (frame payload)).queued =
        [dataPacket payload] := by
  have hin : InStep t := hg.invariant (fun s e s' hs hc h => inStep_step hs hc h) rfl hr
  have hframe := feed_frame .init hne hlen
  have hsize := length_frame_le payload
  refine ⟨?_, ?_, ?_, ?_, ?_⟩
  · exact congrArg Deframer.packets hin
  · simp_all [sstpRecvDataPacket]
  · unfold Stream.maxPacketSize hdrSize at hlen
    unfold pppBufSize
    omega
  · exact congrArg Deframer.packets hframe
  · intro behind
    have habs := abs_pppLoop (Nat.le_refl _) ((tidy_frame payload).sound behind _)
    exact congrArg Deframer.packets (habs.trans hframe)

def splitRun : List Event :=
  [.call .serverCallConnected, .read [0x7e, 0x41, 0x7d] 0, .read [0x5e, 0x43, 0x44, 0x7e] 0]

theorem hdlc_framed_split :
    ∃ t, run step State.init splitRun = some t ∧ deframe t.received = [dataPacket [0x41, 0x7e]] ∧
      t.framer.queued = deframe t.received ∧
      deframe (frame [0xff, 0x03]) = [dataPacket [0xff, 0x03]] := by
  obtain ⟨t, hr, hq⟩ : ∃ t, run step State.init splitRun = some t ∧
      deframe t.received = [dataPacket [0x41, 0x7e]] := by decide +kernel
  have h := hdlc_framed splitRun t hr (by decide +kernel) .serverCallConnected rfl [0xff, 0x03]
    (by decide) (by decide) (by decide +kernel)
  exact ⟨t, hr, hq, h.1, h.2.2.2.1⟩

/-- A payload the code frames: not empty, and its packet is not too long. -/
def Framed (p : List UInt8) : Prop := p ≠ [] ∧ p.length + hdrSize ≤ Stream.maxPacketSize

theorem feed_frames {ps : List (List UInt8)} (h : ∀ p ∈ ps, Framed p) (qs : List (List UInt8)) :
    (ps.flatMap frame).foldl Deframer.feed ⟨.collect [] false, qs⟩ =
      ⟨.collect [] false, qs ++ ps.map dataPacket⟩ := by
  induction ps generalizing qs with
  | nil => simp
  | cons p ps ih =>
    obtain ⟨hp, hps⟩ := List.forall_mem_cons.1 h
    rw [List.flatMap_cons, List.foldl_append, feed_frame _ hp.1 hp.2, ih hps]
    simp [Stage.complete, fcsLen]

/-- **Frames in a row** come back as the packets of their payloads, however the reads cut them. -/
theorem frames_return (es : List Event) (t : State) (hr : run step State.init es = some t)
    (hg : Guarded step Sound State.init es) (ps : List (List UInt8)) (hps : ∀ p ∈ ps, Framed p)
    (hrec : t.received = ps.flatMap frame) : t.framer.queued = ps.map dataPacket := by
  have hin : InStep t := hg.invariant (fun s e s' hs hc h => inStep_step hs hc h) rfl hr
  rw [InStep, hrec, Deframer.init, feed_frames hps] at hin
  exact congrArg Deframer.packets hin

def twoFrames : List Event :=
  [.call .serverCallConnected, .read (frame [1] ++ [0x7e]) 0, .read ((frame [2]).drop 1) 0]

theorem frames_return_two : ∃ t, run step State.init twoFrames = some t ∧
    t.framer.queued = [dataPacket [1], dataPacket [2]] := by
  obtain ⟨t, hr, hrec⟩ : ∃ t, run step State.init twoFrames = some t ∧
      t.received = [[1], [2]].flatMap frame := by decide +kernel
  exact ⟨t, hr, frames_return twoFrames t hr (by decide +kernel) [[1], [2]]
    (by simp [Framed, hdrSize, Stream.maxPacketSize]) hrec⟩

/-- A read that ends in a flag, a shorter one without a delimiter, and the rest: the old flag ends
the frame. -/
def oldFlagRun : List Event :=
  [.call .serverCallConnected, .read [0x41, 0x42, 0x43, 0x44, 0x45, 0x7e] 0,
    .read [0x61, 0x62, 0x63, 0x64, 0x65] 0x7e, .read [0x66, 0x67, 0x68, 0x7e] 0x65]

def oneReadRun : List Event :=
  [.call .serverCallConnected, .read [0x41, 0x42, 0x43, 0x44, 0x45, 0x7e, 0x61, 0x62, 0x63, 0x64,
    0x65, 0x66, 0x67, 0x68, 0x7e] 0]

theorem old_flag_ends_frame :
    (∃ t t', run step State.init oldFlagRun = some t ∧ run step State.init oneReadRun = some t' ∧
      t.received = t'.received ∧
      t.framer.queued = [dataPacket [0x41, 0x42, 0x43], dataPacket [0x61, 0x62, 0x63],
        dataPacket [0x66]] ∧
      t'.framer.queued = [dataPacket [0x41, 0x42, 0x43],
        dataPacket [0x61, 0x62, 0x63, 0x64, 0x65, 0x66]]) ∧
    sstpRecvDataPacket .serverCallConnected [1, 1] = .overflow := by
  simp only [exists_and_left]
  decide +kernel

/-! ## The buffer of a frame -/

/-- A data packet `sstp_handler` passes on: its length, maybe below the header's, and the rest. -/
structure Accepted where
  length : Nat
  payload : List UInt8
  whole : payload.length = length - hdrSize
  le_max : length ≤ Stream.maxPacketSize

/-- What is allocated, `size*2 + 2 + PPP_FCSLEN` of the type `int`. -/
def Accepted.room (p : Accepted) : Int := (p.length - hdrSize : Int) * 2 + 2 + fcsLen

/-- What is written. With a negative `size` at most the checksum's upper byte, still `PPP_INITFCS`.
-/
def Accepted.written (p : Accepted) : List UInt8 :=
  if hdrSize ≤ p.length then frame p.payload
  else pppFlag :: (if p.length + 1 = hdrSize then stuff 0xff else []) ++ [pppFlag]

/-- **The frame fits its buffer** exactly if the packet is not shorter than its header and, with the
checksum, not more bytes are escaped than the payload has. -/
theorem frame_fits_iff (call : CallState) (p : Accepted) :
    (connected call = true → p.length ≠ hdrSize → (p.written.length : Int) ≤ p.room) ↔
      (connected call = true → p.length ≠ hdrSize → hdrSize < p.length ∧
        (p.payload ++ trailer p.payload).countP escaped ≤ p.payload.length) := by
  refine forall_congr' fun _ => forall_congr' fun hne => ?_
  have hwhole := p.whole
  unfold Accepted.room Accepted.written
  by_cases h : hdrSize ≤ p.length
  · have hlen : (frame p.payload).length =
        p.payload.length + 4 + (p.payload ++ trailer p.payload).countP escaped := by
      simp only [frame, List.length_append, List.length_cons, length_flatMap_stuff, length_trailer,
        List.length_nil, fcsLen]
      omega
    rw [if_pos h]
    unfold fcsLen
    omega
  · rw [if_neg h]
    unfold hdrSize fcsLen at *
    by_cases h3 : p.length + 1 = 4
    · simp [h3, stuff, pppFlag, pppEscape]
      omega
    · simp
      omega

/-- Ten bytes are written to eight, and three to two. -/
theorem frame_overflows :
    (∃ p : Accepted, p.payload = [1, 1] ∧ p.written.length = 10 ∧ p.room = 8) ∧
      ∃ p : Accepted, p.length = 3 ∧ p.written.length = 3 ∧ p.room = 2 :=
  ⟨⟨⟨6, [1, 1], rfl, by decide⟩, rfl, by decide +kernel, by decide⟩,
    ⟨3, [], rfl, by decide⟩, rfl, by decide +kernel, by decide⟩

end Sstp.Hdlc
