import MicroBng.L2tp.Receiver
import MicroBng.L2tp.Sender

/-!
# Two L2TP endpoints

A tunnel that transmits, one that receives, and a network that loses, duplicates and reorders what
is transmitted, in any interleaving.

* `peers_in_order`: what the receiver takes is a beginning of what the sender has sent
-/

namespace L2tp

open StateProg Relation Serial Machine

/-- After `past` messages are only added, with consecutive numbers. -/
structure Counted (base : UInt16) (past : List Packet) (t : Tx) : Prop where
  past : past <+: t.sent
  ns : t.ns = num base t.sent.length
  sent : ∀ k m, t.sent[k]? = some m → m.ns = num base k

variable {base : UInt16} {past : List Packet} {L : Lax} {c d : Conn} {cf cf' : Conf} {s s' : State}
  {e : Ev} {w : Nat}

theorem counted_move (c d : Conn) (hc : Counted base past c.tx) (h : Move L c d) :
    Counted base past d.tx := by
  cases h with
  | send o rest =>
    refine ⟨hc.past.trans (List.prefix_append _ _), ?_, fun k m hm => ?_⟩
    · simp [Tx.transmitted, hc.ns, num_succ]
    · simp only [Tx.transmitted] at hm
      grind [hc.sent, hc.ns]
  | _ => exact ⟨hc.past, hc.ns, hc.sent⟩

theorem Step.counted (hs : Step cf L s e s') (hc : Counted base past s.conn.tx) :
    Counted base past s'.conn.tx := by
  have hpath {c d : Conn} (h : ReflTransGen (Move L) c d) (hc : Counted base past c.tx) :
      Counted base past d.tx := path_keeps counted_move h hc
  cases hs with
  | handler _ hm | abort hm _ | take _ _ hm => exact hpath hm hc
  | readable | discard => exact hc
  | clean => exact ⟨hc.past, hc.ns, hc.sent⟩
  | @store c needAck p m =>
    rcases storeMsg_tx { c with misc := m } p needAck with htx | ⟨-, htx⟩ <;> rw [htx]
    · exact hc
    · unfold Tx.ack
      split
      · exact ⟨hc.past, hc.ns, hc.sent⟩
      · exact hc
  | takeLast _ _ hm _ hleft =>
    obtain ⟨hm'⟩ := hleft
    have hd := hpath hm hc
    exact hpath hm' hd
  | leave _ hleft =>
    obtain ⟨hm⟩ := hleft
    exact hpath hm hc

theorem RxInv.extend {stream : List Packet} (h : RxInv base past w s) (hp : past <+: stream) :
    RxInv base stream w s := by
  obtain ⟨more, rfl⟩ := hp
  have hlen := h.window.taken.length_eq
  rw [List.length_take] at hlen
  refine { h with window := { h.window with taken := ?_, ring := h.window.ring.mono ?_ } }
  · rw [List.take_append_of_le_length (by omega)]
    exact h.window.taken
  · rintro i p ⟨m, hm, hcopy⟩
    exact ⟨m, List.getElem?_append_left (List.getElem?_eq_some_iff.1 hm).1 ▸ hm, hcopy⟩

/-- A step of the tunnel that transmits or of the one that receives. -/
def netStep (cf cf' : Conf) (n : State × State) : Ev ⊕ Ev → Option (State × State)
  | .inl e => (step cf n.1 e).map (·, n.2)
  | .inr e => (step cf' n.2 e).map (n.1, ·)

/-- What the receiver reads is a copy of a message transmitted so far, none of which is empty. -/
def Carried (n : State × State) : Ev ⊕ Ev → Prop
  | .inl _ => True
  | .inr e => FromStream n.1.conn.tx.sent n.2 e ∧ ∀ m ∈ n.1.conn.tx.sent, m.isZLB = false

structure NetInv (base : UInt16) (w : Nat) (n : State × State) : Prop where
  live : ReadingLive n.1
  counted : Counted base n.1.conn.tx.sent n.1.conn.tx
  rx : RxInv base n.1.conn.tx.sent w n.2

theorem netInv_step (hw : w ≤ 32768) (n : State × State) (e : Ev ⊕ Ev) (n' : State × State)
    (h : NetInv base w n) (hc : Carried n e) (hstep : netStep cf cf' n e = some n') :
    NetInv base w n' := by
  cases e with
  | inl e =>
    obtain ⟨a, ha, rfl⟩ := Option.map_eq_some_iff.1 hstep
    have hs : Step cf ⟨True, True⟩ n.1 e a :=
      step_sound h.live (fun _ _ => ⟨.inr trivial, .inr trivial⟩) ha
    have hcount := hs.counted h.counted
    exact ⟨hs.readingLive h.live, { hcount with past := List.prefix_rfl }, h.rx.extend hcount.past⟩
  | inr e =>
    obtain ⟨b, hb, rfl⟩ := Option.map_eq_some_iff.1 hstep
    have hnum : Numbered base n.1.conn.tx.sent := fun k m hm =>
      ⟨h.counted.sent k m hm, hc.2 m (List.mem_of_getElem? hm)⟩
    exact ⟨h.live, h.counted, rxInv_step hnum hw n.2 e b h.rx hc.1 hb⟩

/-- **Two endpoints**: in every interleaving the messages the receiver has taken out are the first
ones the other side has transmitted, once and in order. -/
theorem peers_in_order (cf cf' : Conf) (base : UInt16) (w : Nat) (hw : 1 ≤ w ∧ w ≤ 32768)
    (a b : Conn) (ha : a.tx.Fresh base) (hb : b.rx.Fresh base w) (es : List (Ev ⊕ Ev))
    (n : State × State) (hg : Guarded (netStep cf cf') Carried (⟨a, .idle⟩, ⟨b, .idle⟩) es)
    (hr : run (netStep cf cf') (⟨a, .idle⟩, ⟨b, .idle⟩) es = some n) :
    List.Forall₂ CopyOf n.2.conn.rx.taken (n.1.conn.tx.sent.take n.2.conn.rx.taken.length) := by
  have hcount : Counted base a.tx.sent a.tx :=
    ⟨List.prefix_rfl, by simp [ha.ns, ha.sent], by simp [ha.sent]⟩
  have hinv : NetInv base w n := hg.invariant (netInv_step hw.2) ⟨nofun, hcount, hb.rxInv hw.1⟩ hr
  exact hinv.rx.window.taken

def helloSender : Conn :=
  { sampleTunnel with misc := { sampleTunnel.misc with peerTid := 7, helloTimer := true } }

/-- A HELLO is transmitted by one side and read by the other. -/
def helloRead : List (Ev ⊕ Ev) :=
  [.inl .hello, .inr .readable, .inr (.recv (.pack (sampleMsg .hello 0 0 []))), .inr (.recv .done),
   .inr .pass]

theorem peers_in_order_hello :
    ∃ n, run (netStep sampleConf sampleConf) (⟨helloSender, .idle⟩, ⟨sampleTunnel, .idle⟩)
        helloRead = some n ∧ n.2.conn.rx.taken = [sampleMsg .hello 0 0 []] ∧
      List.Forall₂ CopyOf n.2.conn.rx.taken (n.1.conn.tx.sent.take n.2.conn.rx.taken.length) := by
  refine ⟨_, rfl, rfl, peers_in_order sampleConf sampleConf 0 4 ⟨by decide, by decide⟩ helloSender
    sampleTunnel ⟨rfl, rfl, by decide, rfl, rfl⟩ ⟨rfl, rfl, rfl, rfl, rfl⟩ helloRead _
    ⟨trivial, fun _ h => ?_⟩ rfl⟩
  cases h
  refine ⟨⟨trivial, by decide⟩, fun _ h => ?_⟩
  cases h
  refine ⟨⟨.inr ⟨0, _, rfl, rfl, by decide, by decide⟩, by decide⟩, fun _ h => ?_⟩
  cases h
  refine ⟨⟨trivial, by decide⟩, fun _ h => ?_⟩
  cases h
  exact ⟨⟨trivial, by decide⟩, fun _ _ => trivial⟩

end L2tp
