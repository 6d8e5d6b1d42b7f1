import Mathlib.Data.List.Forall2
import MicroBng.L2tp.Moves

/-!
# The L2TP receiver delivers the peer's messages once and in order

The peer numbers its messages consecutively; the network loses, duplicates and reorders copies of
them. `Window` says that the reception window holds a part of the stream that follows what has
been taken out.

* `Window.store`, `Window.take`: it survives the storing of every copy that is at most half the
  sequence space away from `Nr`, and the taking of the next message
* `receiver_delivers_in_order`: what has been taken out is a beginning of the stream
-/

namespace L2tp

open StateProg Relation Serial

/-- A copy of a message: the acknowledgement number and the port may differ. -/
def CopyOf (p m : Packet) : Prop := p = { m with nr := p.nr, port := p.port }

/-- The messages of the peer, in order: numbered from `base` on, none of them empty. -/
def Numbered (base : UInt16) (stream : List Packet) : Prop :=
  ∀ k m, stream[k]? = some m → m.ns = num base k ∧ m.isZLB = false

/-- The reception window at read position `pos`. -/
structure Window (base : UInt16) (stream : List Packet) (w : Nat) (r : Rx) (pos : Nat) : Prop where
  sz : r.sz = w
  pos_lt : pos < w
  nr : r.nr = num base r.taken.length
  taken : List.Forall₂ CopyOf r.taken (stream.take r.taken.length)
  ring : Ring.Holds r.queue w pos fun i p => ∃ m, stream[r.taken.length + i]? = some m ∧ CopyOf p m

/-- The datagram is a ZLB or a copy of a message at most 32768 numbers away from `Nr`. -/
def InFlight (stream : List Packet) (r : Rx) (p : Packet) : Prop :=
  p.isZLB = true ∨ ∃ k m, stream[k]? = some m ∧ CopyOf p m ∧
    k ≤ r.taken.length + 32768 ∧ r.taken.length ≤ k + 32768

variable {base : UInt16} {stream : List Packet} {w : Nat} {r : Rx} {pos : Nat}

variable {p : Packet} {n : Nat} {c d : Conn}

theorem CopyOf.ns {m : Packet} (h : CopyOf p m) : p.ns = m.ns := by rw [h]

/-- `l2tp_tunnel_clear_recvqueue`. -/
def Rx.cleared (r : Rx) : Rx := { r with queue := fun _ => none, offt := 0 }

section

variable (h : Window base stream w r pos)
include h

theorem Window.of_empty {pos' : Nat}
    (hempty : r.queue = fun _ => none) (hpos : pos' < w) : Window base stream w r pos' :=
  { h with
    pos_lt := hpos
    ring := by rw [hempty]; exact .empty _ _ _ }

theorem Window.cleared {pos' : Nat} (hpos : pos' < w) : Window base stream w r.cleared pos' :=
  { h with
    pos_lt := hpos
    ring := .empty _ _ _ }

theorem Window.skip : Window base stream w (r.skip n) pos :=
  { h with }

omit h in
theorem Window.store (hstream : Numbered base stream) (hw : w ≤ 32768)
    (h : Window base stream w r r.offt) (hz : p.isZLB = false)
    (hp : InFlight stream r p) : Window base stream w (r.store p) r.offt := by
  obtain hp | ⟨k, m, hm, hcopy, hhi, hlo⟩ := hp
  · rw [hz] at hp
    cases hp
  have hns : p.ns = num base k := hcopy.ns.trans (hstream k m hm).1
  unfold Rx.store
  split
  · exact h
  · simp only
    split
    · exact h
    · split
      · exact h
      · rename_i hlt _
        rw [h.sz, hns, h.nr] at hlt
        -- an older message is 32768 or more ahead in the sequence space, outside the window
        have hle : r.taken.length ≤ k := by
          by_contra hlt'
          rw [sub_of_lt base (by omega) (by omega)] at hlt
          omega
        have hoff : (p.ns - r.nr).toNat = k - r.taken.length := by
          rw [hns, h.nr, sub_of_le base hle (by omega)]
        have hslot : ((p.ns - r.nr).toNat + r.offt) % r.sz
            = Ring.slot w r.offt (k - r.taken.length) := by
          rw [hoff, h.sz, Ring.slot, Nat.add_comm]
        have hmem : stream[r.taken.length + (k - r.taken.length)]? = some m := by
          rw [Nat.add_sub_cancel' hle]
          exact hm
        rw [sub_of_le base hle (by omega)] at hlt
        rw [hslot]
        exact { h with ring := h.ring.insert (by omega) ⟨m, hmem, hcopy⟩ }

theorem Window.take (hp : r.queue pos = some p) :
    Window base stream w (r.take pos p) ((pos + 1) % w) := by
  obtain ⟨m, hm, hcopy⟩ := h.ring.first h.pos_lt hp
  have hlen : (r.taken ++ [p]).length = r.taken.length + 1 := by simp
  refine ⟨h.sz, Nat.mod_lt _ (Nat.zero_lt_of_lt h.pos_lt), ?_, ?_, ?_⟩
  · show r.nr + 1 = num base (r.taken ++ [p]).length
    rw [hlen, h.nr, num_succ]
  · show List.Forall₂ CopyOf (r.taken ++ [p]) (stream.take (r.taken ++ [p]).length)
    rw [hlen, List.take_add_one, show stream[r.taken.length]? = some m from hm]
    exact List.rel_append h.taken (.cons hcopy .nil)
  · refine (h.ring.advance h.pos_lt).mono fun i q hq => ?_
    show ∃ m, stream[(r.taken ++ [p]).length + i]? = some m ∧ CopyOf q m
    rw [hlen]
    rwa [show r.taken.length + (i + 1) = r.taken.length + 1 + i by omega] at hq

end

/-! ## Runs -/

variable {L : Lax} {cf : Conf}

theorem Move.rx_eq (h : Move L c d) : d.rx = c.rx ∨ d.rx = c.rx.cleared := by
  cases h with
  | free => exact .inr rfl
  | _ => exact .inl rfl

theorem rx_of_moves (h : ReflTransGen (Move L) c d) : d.rx = c.rx ∨ d.rx = c.rx.cleared := by
  induction h with
  | refl => exact .inl rfl
  | tail _ hmove ih =>
    rcases hmove.rx_eq with h | h <;> rcases ih with ih | ih <;> rw [h, ih]
    · exact .inl rfl
    · exact .inr rfl
    · exact .inr rfl
    · exact .inr rfl

/-- Where the next message is expected; the reply loop writes the offset back at its end. -/
def State.readPos (s : State) : Nat :=
  match s.phase with
  | .replying id _ _ => id
  | _ => s.conn.rx.offt

structure RxInv (base : UInt16) (stream : List Packet) (w : Nat) (s : State) : Prop where
  live : ReadingLive s
  window : Window base stream w s.conn.rx s.readPos
  count : ∀ id n needAck, s.phase = .replying id n needAck →
    s.conn.rx.queue = (fun _ => none) ∨ id = (s.conn.rx.offt + n) % w

theorem Left.window {s : State} (hs : Left L c n s) (h : Window base stream w c.rx pos)
    (hcount : c.rx.queue = (fun _ => none) ∨ pos = (c.rx.offt + n) % w) :
    Window base stream w s.conn.rx s.readPos := by
  obtain ⟨hmoves⟩ := hs
  have hw : 0 < w := Nat.zero_lt_of_lt h.pos_lt
  have hskip : Window base stream w (c.rx.skip n) (c.rx.skip n).offt := by
    have hoff : (c.rx.skip n).offt = (c.rx.offt + n) % w := by rw [← h.sz]; rfl
    rw [hoff]
    rcases hcount with he | rfl
    · exact h.skip.of_empty he (Nat.mod_lt _ hw)
    · exact h.skip
  rcases rx_of_moves hmoves with hrx | hrx
  · show Window base stream w _ (Rx.offt _)
    rw [hrx]
    exact hskip
  · show Window base stream w _ (Rx.offt _)
    rw [hrx]
    exact hskip.cleared hw

theorem Window.taken_moves (h : Window base stream w c.rx pos) (hp : c.rx.queue pos = some p)
    (hmoves : ReflTransGen (Move L) { c with rx := c.rx.take pos p } d) :
    Window base stream w d.rx ((pos + 1) % w) := by
  have hw : 0 < w := Nat.zero_lt_of_lt h.pos_lt
  rcases rx_of_moves hmoves with hrx | hrx <;> rw [hrx]
  · exact h.take hp
  · exact (h.take hp).cleared (Nat.mod_lt _ hw)

theorem storeMsg_rx (c : Conn) (p : Packet) (needAck : Bool) :
    (storeMsg c p needAck).conn.rx = c.rx ∨
    p.isZLB = false ∧ (storeMsg c p needAck).conn.rx = c.rx.store p := by
  grind [storeMsg]

theorem count_succ {id : Nat} (hp : c.rx.queue id = some p)
    (hmoves : ReflTransGen (Move L) { c with rx := c.rx.take id p } d)
    (h : c.rx.queue = (fun _ => none) ∨ id = (c.rx.offt + n) % w) :
    d.rx.queue = (fun _ => none) ∨ (id + 1) % w = (d.rx.offt + (n + 1)) % w := by
  rcases h with h | rfl
  · rw [h] at hp
    cases hp
  · rcases rx_of_moves hmoves with hrx | hrx <;> rw [hrx]
    · right
      show (_ % w + 1) % w = (c.rx.offt + (n + 1)) % w
      rw [Nat.mod_add_mod, Nat.add_assoc]
    · exact .inl rfl

/-- A datagram that is read is a copy of a message of the peer. -/
def FromStream (stream : List Packet) (s : State) : Ev → Prop
  | .recv (.pack p) => InFlight stream s.conn.rx p
  | _ => True

theorem rxInv_step (hstream : Numbered base stream) (hw : w ≤ 32768) (s : State) (e : Ev)
    (s' : State) (h : RxInv base stream w s) (hc : FromStream stream s e)
    (hstep : step cf s e = some s') : RxInv base stream w s' := by
  have hs : Step cf ⟨True, True⟩ s e s' :=
    step_sound h.live (fun p _ => ⟨.inr trivial, .inr trivial⟩) hstep
  refine ⟨hs.readingLive h.live, ?_, ?_⟩
  · have hwin := h.window
    cases hs with
    | handler _ hmoves | abort hmoves _ =>
      show Window base stream w _ (Rx.offt _)
      rcases rx_of_moves hmoves with hrx | hrx <;> rw [hrx]
      · exact hwin
      · exact hwin.cleared (Nat.zero_lt_of_lt hwin.pos_lt)
    | readable | discard => exact hwin
    | @store c needAck p m =>
      show Window base stream w _ (Rx.offt _)
      rcases storeMsg_rx { c with misc := m } p needAck with hrx | ⟨hz, hrx⟩ <;> rw [hrx]
      · exact hwin
      · have hoff : (c.rx.store p).offt = c.rx.offt := by grind [Rx.store]
        rw [hoff]
        exact Window.store hstream hw hwin hz hc
    | clean m => exact hwin
    | take hp _ hmoves =>
      have hd := hwin.taken_moves hp hmoves
      rw [hd.sz]
      exact hd
    | takeLast hp _ hmoves _ hleft =>
      exact hleft.window (hwin.taken_moves hp hmoves) (count_succ hp hmoves (h.count _ _ _ rfl))
    | leave _ hleft => exact hleft.window hwin (h.count _ _ _ rfl)
  · intro id n needAck hph
    cases hs with
    | handler | readable | abort | discard | store => cases hph
    | clean m =>
      cases hph
      have hlt := h.window.pos_lt
      exact .inr (Nat.mod_eq_of_lt hlt).symm
    | take hp _ hmoves =>
      cases hph
      have hd := h.window.taken_moves hp hmoves
      rw [hd.sz]
      exact count_succ hp hmoves (h.count _ _ _ rfl)
    | takeLast _ _ _ _ hleft | leave _ hleft => cases hleft; cases hph

/-- A reception window before anything has been received. -/
structure Rx.Fresh (r : Rx) (base : UInt16) (w : Nat) : Prop where
  nr : r.nr = base
  queue : r.queue = fun _ => none
  offt : r.offt = 0
  sz : r.sz = w
  taken : r.taken = []

theorem Rx.Fresh.rxInv (h : c.rx.Fresh base w) (hw : 1 ≤ w) : RxInv base stream w ⟨c, .idle⟩ where
  live := nofun
  window :=
    { sz := h.sz
      pos_lt := by
        show c.rx.offt < w
        rw [h.offt]
        omega
      nr := by simp [h.nr, h.taken]
      taken := by simp [h.taken]
      ring := by simp [Ring.Holds, h.queue] }
  count := nofun

/-- **Exactly-once, in-order delivery**: if the datagrams read are copies of messages of the peer's
stream, each at most 32768 numbers from `Nr`, then the messages taken out are a prefix of the
stream, `Nr` is the number after them, and slot `(pos + i) % w` is empty or holds the message
numbered `Nr + i`. -/
theorem receiver_delivers_in_order (cf : Conf) (base : UInt16) (stream : List Packet) (w : Nat)
    (hw : 1 ≤ w ∧ w ≤ 32768) (hstream : Numbered base stream) (c : Conn)
    (hfresh : c.rx.Fresh base w) (es : List Ev) (s : State)
    (hguard : Machine.Guarded (step cf) (FromStream stream) ⟨c, .idle⟩ es)
    (hrun : Machine.run (step cf) ⟨c, .idle⟩ es = some s) :
    List.Forall₂ CopyOf s.conn.rx.taken (stream.take s.conn.rx.taken.length) ∧
    s.conn.rx.nr = base + UInt16.ofNat s.conn.rx.taken.length ∧
    (∀ i < w, ∀ p, s.conn.rx.queue ((s.readPos + i) % w) = some p →
      p.ns = s.conn.rx.nr + UInt16.ofNat i ∧
      ∃ m, stream[s.conn.rx.taken.length + i]? = some m ∧ CopyOf p m) ∧
    (∀ id n needAck, s.phase = .replying id n needAck →
      s.conn.rx.queue = (fun _ => none) ∨ s.readPos = (s.conn.rx.offt + n) % w) := by
  have hinv : RxInv base stream w s :=
    Machine.Guarded.invariant (rxInv_step hstream hw.2) hguard (hfresh.rxInv hw.1) hrun
  refine ⟨hinv.window.taken, hinv.window.nr, fun i hi p hp => ?_, fun id n needAck hph => ?_⟩
  · obtain ⟨m, hm, hcopy⟩ := hinv.window.ring i hi p hp
    refine ⟨?_, m, hm, hcopy⟩
    rw [hcopy.ns, (hstream _ m hm).1, hinv.window.nr]
    exact (num_add base _ i).symm
  simp_all [State.readPos, hinv.count]

def swappedPair : List Ev :=
  [.readable, .recv (.pack (sampleMsg .hello 1 0 [])), .recv (.pack (sampleMsg .hello 0 0 [])),
   .recv (.pack (sampleMsg .hello 0 0 [])), .recv .done, .pass, .pass, .pass]

theorem swappedPair_numbered :
    Numbered 0 [sampleMsg .hello 0 0 [], sampleMsg .hello 1 0 []] := by
  intro k m hm
  match k with
  | 0 => cases hm; exact ⟨rfl, rfl⟩
  | 1 => cases hm; exact ⟨rfl, rfl⟩
  | k + 2 => cases hm

theorem swappedPair_guarded :
    Machine.Guarded (step sampleConf)
      (FromStream [sampleMsg .hello 0 0 [], sampleMsg .hello 1 0 []]) ⟨sampleTunnel, .idle⟩
      swappedPair := by
  refine ⟨trivial, fun _ h => ?_⟩
  cases h
  refine ⟨.inr ⟨1, _, rfl, rfl, by decide, by decide⟩, fun _ h => ?_⟩
  cases h
  refine ⟨.inr ⟨0, _, rfl, rfl, by decide, by decide⟩, fun _ h => ?_⟩
  cases h
  refine ⟨.inr ⟨0, _, rfl, rfl, by decide, by decide⟩, fun _ _ => ?_⟩
  exact ⟨trivial, fun _ _ => ⟨trivial, fun _ _ => ⟨trivial, fun _ _ => ⟨trivial, fun _ _ => trivial⟩⟩⟩⟩

theorem receiver_delivers_swapped_pair :
    ∃ s, Machine.run (step sampleConf) ⟨sampleTunnel, .idle⟩ swappedPair = some s ∧
      s.conn.rx.taken = [sampleMsg .hello 0 0 [], sampleMsg .hello 1 0 []] ∧
      List.Forall₂ CopyOf s.conn.rx.taken
        ([sampleMsg .hello 0 0 [], sampleMsg .hello 1 0 []].take s.conn.rx.taken.length) :=
  ⟨_, rfl, rfl, (receiver_delivers_in_order sampleConf 0
    [sampleMsg .hello 0 0 [], sampleMsg .hello 1 0 []] 4 ⟨by decide, by decide⟩
    swappedPair_numbered sampleTunnel ⟨rfl, rfl, rfl, rfl, rfl⟩ swappedPair _
    swappedPair_guarded rfl).1⟩

/-- Inside the loop of `l2tp_tunnel_reply` the offset is behind `Nr`: with one of the two messages
taken, the slot one after `recv_queue_offt` holds the message numbered `Nr`, not `Nr + 1`. -/
theorem offset_behind_nr :
    ∃ s, Machine.run (step sampleConf) ⟨sampleTunnel, .idle⟩ (swappedPair.take 6) = some s ∧
      s.conn.rx.nr = 1 ∧ s.conn.rx.offt = 0 ∧
      s.conn.rx.queue ((s.conn.rx.offt + 1) % 4) = some (sampleMsg .hello 1 0 []) ∧
      (sampleMsg .hello 1 0 []).ns ≠ s.conn.rx.nr + 1 :=
  ⟨_, rfl, rfl, rfl, rfl, by decide⟩

end L2tp
