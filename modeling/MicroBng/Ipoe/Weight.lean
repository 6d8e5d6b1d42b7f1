import MicroBng.Lib.Bytes
import MicroBng.Lib.Machine
import Mathlib.Data.List.TakeWhile

/-!
# Which server serves a client

Several servers on one segment receive the same DHCPDISCOVER. Each that makes a session for it gives
it a weight and broadcasts a notification with the weight and its hardware address
(`dhcpv4_send_notify` of `ctrl/ipoe/dhcpv4.c`). A server that hears of a smaller weight, or of the
same with a larger hardware address, terminates its session (`check_notify` of `ctrl/ipoe/ipoe.c`).
It forgets a notification that comes before it has made its session.

* `checkNotify_session`: what a notification does to the session of a client
* `one_session_iff`: in the end one session is left exactly if every beaten server has heard in time
-/

namespace Ipoe.Weight

open Machine Bytes

/-! ## Packets -/

/-- `struct dhcpv4_option`. -/
structure DhcpOption where
  type : UInt8
  data : List UInt8

/-- `struct dhcpv4_packet`, as far as it is read here. -/
structure Packet where
  xid : Nat
  chaddr : List UInt8
  options : List DhcpOption

def findOpt (pack : Packet) (type : UInt8) : Option DhcpOption :=
  pack.options.find? fun opt => opt.type = type

def magic : Nat := 0xfd56b60a

/-- `dhcpv4_send_notify`: the header is that of the request. -/
def sendNotify (req : Packet) (weight : Nat) (hwaddr : List UInt8) : Packet :=
  { req with
    options := [⟨53, [1]⟩, ⟨43, toBe 4 magic ++ toBe 4 weight ++ hwaddr⟩] }

/-- The first half of `check_notify`: weight and hardware address, `none` for other packets. -/
def readNotify (pack : Packet) : Option (Nat × List UInt8) :=
  match findOpt pack 43 with
  | none => none
  | some opt =>
    if opt.data.length ≠ 14 then none
    else if ofBe (opt.data.take 4) ≠ magic then none
    else some (ofBe ((opt.data.drop 4).take 4), opt.data.drop 8)

/-! ## A server -/

/-- `struct ipoe_session`, as far as it is read; `doomed`: a call of `__terminate` waits. -/
structure Session where
  xid : Nat
  hwaddr : List UInt8
  weight : Nat
  doomed : Bool

def Session.isFor (pack : Packet) (ses : Session) : Bool :=
  decide (ses.xid = pack.xid ∧ pack.chaddr.take 6 = ses.hwaddr)

/-- The session loses to a notification with weight `w` and hardware address `mac`. -/
def Session.loses (hwaddr : List UInt8) (w : Nat) (mac : List UInt8) (ses : Session) : Bool :=
  decide (w < ses.weight ∨ ses.weight = 0 ∨ w = ses.weight ∧ memcmp hwaddr mac < 0)

/-- The loop of `check_notify` over the sessions of the server with address `hwaddr`. -/
def strike (pack : Packet) (hwaddr : List UInt8) (w : Nat) (mac : List UInt8) :
    List Session → List Session
  | [] => []
  | ses :: rest =>
    if ses.isFor pack then
      (if ses.loses hwaddr w mac then { ses with doomed := true } else ses) :: rest
    else ses :: strike pack hwaddr w mac rest

/-- `check_notify`; `none` is the result 0. -/
def checkNotify (hwaddr : List UInt8) (sessions : List Session) (pack : Packet) :
    Option (List Session) :=
  (readNotify pack).map fun n => strike pack hwaddr n.1 n.2 sessions

/-- `ipoe_session_create_dhcpv4`, with the weight `__ipoe_recv_dhcpv4` sets. -/
def createDhcpv4 (sessions : List Session) (pack : Packet) (weight : Nat) : List Session :=
  sessions ++ [⟨pack.xid, pack.chaddr.take 6, weight, false⟩]

/-! ## The segment -/

/-- Servers on one segment, a client's packet, and the sessions of other clients. -/
structure Segment (I : Type*) where
  members : List I
  nodup : members.Nodup
  two_le : 2 ≤ members.length
  mac : I → List UInt8
  mac_length : ∀ i, (mac i).length = 6
  mac_distinct : ∀ i ∈ members, ∀ j ∈ members, mac i = mac j → i = j
  weight : I → Nat
  weight_pos : ∀ i, 0 < weight i
  weight_lt : ∀ i, weight i < 2 ^ 32
  discover : Packet
  plain : readNotify discover = none
  others : I → List Session
  fresh : ∀ i, ∀ ses ∈ others i, ses.isFor discover = false ∧ ses.doomed = false

variable {I : Type*}

/-- The sessions of each server, the servers that have made theirs, and the notifications. -/
structure Net (I : Type*) where
  sessions : I → List Session
  made : List I
  flying : List (I × I)

variable (g : Segment I)

def start : Net I := ⟨g.others, [], []⟩

inductive Event (I : Type*)
  /-- The server handles the client's packet, at once or after a delay. -/
  | create (i : I)
  /-- `i` receives the notification of `j`. -/
  | deliver (j i : I)
  /-- The call of `__terminate` runs. -/
  | terminate (i : I)
  deriving DecidableEq

def Segment.notification (j : I) : Packet :=
  sendNotify g.discover (g.weight j) (g.mac j)

def step [DecidableEq I] (g : Segment I) (s : Net I) : Event I → Option (Net I)
  | .create i =>
    if i ∈ g.members ∧ i ∉ s.made then
      some {
        sessions := Function.update s.sessions i
          (createDhcpv4 (s.sessions i) g.discover (g.weight i))
        made := s.made ++ [i]
        flying := s.flying ++ (g.members.filter (· ≠ i)).map fun k => (i, k) }
    else none
  | .deliver j i =>
    if (j, i) ∈ s.flying then
      (checkNotify (g.mac i) (s.sessions i) (g.notification j)).map fun sessions =>
        { s with
          sessions := Function.update s.sessions i sessions
          flying := s.flying.erase (j, i) }
    else none
  | .terminate i =>
    if (s.sessions i).any Session.doomed then
      some { s with
        sessions := Function.update s.sessions i ((s.sessions i).eraseP Session.doomed) }
    else none

def HasSession (s : Net I) (i : I) : Prop :=
  ∃ ses ∈ s.sessions i, ses.isFor g.discover = true
deriving Decidable

/-- Every server has made its session, all notifications have arrived and all calls run. -/
structure Done (g : Segment I) (s : Net I) : Prop where
  made : ∀ i ∈ g.members, i ∈ s.made
  arrived : s.flying = []
  settled : ∀ i ∈ g.members, ∀ ses ∈ s.sessions i, ses.doomed = false

/-- The session of `j` is to be kept rather than that of `i`. -/
def Segment.Beats (j i : I) : Prop :=
  g.weight j < g.weight i ∨ g.weight j = g.weight i ∧ memcmp (g.mac i) (g.mac j) < 0
deriving Decidable

/-- What happens after `i` has made its session. -/
def afterCreate [DecidableEq I] (i : I) (es : List (Event I)) : List (Event I) :=
  (es.dropWhile fun e => e ≠ .create i).drop 1

/-- `i` hears of a server that beats it after it has made its session. -/
def Heard [DecidableEq I] (g : Segment I) (es : List (Event I)) (i : I) : Prop :=
  ∃ j ∈ g.members, g.Beats j i ∧ .deliver j i ∈ afterCreate i es
deriving Decidable

/-! ## The order of the servers -/

section Order

variable {g : Segment I} {i j k : I}

theorem beats_iff : g.Beats j i ↔
    g.weight j < g.weight i ∨ g.weight j = g.weight i ∧ ofBe (g.mac i) < ofBe (g.mac j) := by
  rw [Segment.Beats, memcmp_neg_iff ((g.mac_length i).trans (g.mac_length j).symm)]

theorem not_beats_self (i : I) : ¬ g.Beats i i := by
  rw [beats_iff]
  omega

theorem beats_trans (h : g.Beats k j) (h' : g.Beats j i) : g.Beats k i := by
  rw [beats_iff] at h h' ⊢
  omega

theorem beats_total (hi : i ∈ g.members) (hj : j ∈ g.members) (hne : i ≠ j) :
    g.Beats i j ∨ g.Beats j i := by
  have hmac : ofBe (g.mac i) ≠ ofBe (g.mac j) := fun h =>
    hne (g.mac_distinct i hi j hj (ofBe_inj ((g.mac_length i).trans (g.mac_length j).symm) h))
  rw [beats_iff, beats_iff]
  omega

theorem exists_unbeaten (ms : List I) (hne : ms ≠ []) : ∃ b ∈ ms, ∀ j ∈ ms, ¬ g.Beats j b := by
  induction ms with
  | nil => exact absurd rfl hne
  | cons a ms ih =>
    by_cases hms : ms = []
    · simp_all [not_beats_self]
    grind [not_beats_self, beats_trans]

end Order

/-! ## A notification that arrives -/

section Deliver

variable {g : Segment I} {i j : I}

def Segment.session (g : Segment I) (i : I) (doomed : Bool) : Session :=
  ⟨g.discover.xid, g.discover.chaddr.take 6, g.weight i, doomed⟩

theorem session_isFor (g : Segment I) (i : I) (b : Bool) :
    (g.session i b).isFor g.discover = true := decide_eq_true ⟨rfl, rfl⟩

theorem readNotify_notification (g : Segment I) (j : I) :
    readNotify (g.notification j) = some (g.weight j, g.mac j) := by
  have hfind : findOpt (g.notification j) 43 =
      some ⟨43, toBe 4 magic ++ toBe 4 (g.weight j) ++ g.mac j⟩ := rfl
  have hlen : (toBe 4 magic ++ toBe 4 (g.weight j) ++ g.mac j).length = 14 := by
    simp [g.mac_length j]
  have hmac : (toBe 4 magic ++ toBe 4 (g.weight j) ++ g.mac j).drop 8 = g.mac j :=
    List.drop_left' (by simp)
  have hmagic : ofBe (toBe 4 magic) = magic := ofBe_toBe (by decide)
  have hvalue : ofBe (toBe 4 (g.weight j)) = g.weight j := ofBe_toBe (g.weight_lt j)
  simp_all [readNotify]

theorem strike_append (pack : Packet) (hwaddr : List UInt8) (w : Nat) (mac : List UInt8)
    (tail : List Session) {os : List Session} (h : ∀ ses ∈ os, ses.isFor pack = false) :
    strike pack hwaddr w mac (os ++ tail) = os ++ strike pack hwaddr w mac tail := by
  induction os with
  | nil => rfl
  | cons ses os ih => simp_all [strike]

theorem loses_iff (b : Bool) :
    (g.session i b).loses (g.mac i) (g.weight j) (g.mac j) = true ↔ g.Beats j i := by
  have hpos := g.weight_pos i
  have hzero : ¬ (g.session i b).weight = 0 := Nat.ne_of_gt hpos
  unfold Session.loses Segment.Beats
  rw [decide_eq_true_eq]
  constructor
  · rintro (h | h | h)
    · exact .inl h
    · exact absurd h hzero
    · exact .inr h
  · rintro (h | h)
    · exact .inl h
    · exact .inr (.inr h)

/-- **`check_notify`**: the session for the client is terminated if it is beaten. -/
theorem checkNotify_session (b : Bool) : ∃ b',
    checkNotify (g.mac i) (g.others i ++ [g.session i b]) (g.notification j) =
      some (g.others i ++ [g.session i b']) ∧ (b' = true ↔ b = true ∨ g.Beats j i) := by
  have hothers : ∀ ses ∈ g.others i, ses.isFor (g.notification j) = false := fun ses h =>
    (g.fresh i ses h).1
  have hfor : (g.session i b).isFor (g.notification j) = true := session_isFor g i b
  unfold checkNotify
  rw [readNotify_notification, Option.map_some, strike_append _ _ _ _ _ hothers, strike, if_pos hfor]
  by_cases hbeat : g.Beats j i
  · refine ⟨true, ?_, by simp [hbeat]⟩
    rw [if_pos ((loses_iff b).2 hbeat)]
    rfl
  simp_all [loses_iff]

theorem checkNotify_others :
    checkNotify (g.mac i) (g.others i) (g.notification j) = some (g.others i) := by
  have hothers : ∀ ses ∈ g.others i, ses.isFor (g.notification j) = false := fun ses h =>
    (g.fresh i ses h).1
  have happ := strike_append (g.notification j) (g.mac i) (g.weight j) (g.mac j) [] hothers
  unfold checkNotify
  rw [readNotify_notification]
  simpa [strike] using happ

end Deliver

/-! ## The invariant -/

section Invariant

variable [DecidableEq I] {g : Segment I} {es : List (Event I)} {s s' : Net I}

theorem afterCreate_eq_nil {i : I} (h : .create i ∉ es) : afterCreate i es = [] := by
  have hall : ∀ e ∈ es, decide (e ≠ .create i) = true := fun e he =>
    decide_eq_true fun hc => h (hc ▸ he)
  unfold afterCreate
  rw [List.dropWhile_eq_nil_iff.2 hall, List.drop_nil]

theorem afterCreate_append (i : I) (es : List (Event I)) (e : Event I) :
    afterCreate i (es ++ [e]) = if .create i ∈ es then afterCreate i es ++ [e] else [] := by
  induction es with
  | nil =>
    by_cases he : e = .create i
    · simp [afterCreate, he]
    · simp [afterCreate, he]
  | cons a es ih =>
    by_cases ha : a = .create i
    · simp [afterCreate, ha]
    · have ha' : Event.create i ≠ a := fun h => ha h.symm
      simp_all [afterCreate]

theorem heard_append (i : I) (e : Event I) :
    Heard g (es ++ [e]) i ↔ Heard g es i ∨
      .create i ∈ es ∧ ∃ j ∈ g.members, g.Beats j i ∧ e = .deliver j i := by
  unfold Heard
  rw [afterCreate_append]
  split
  · grind
  · next h => simp [afterCreate_eq_nil h, h]

inductive Fate (g : Segment I) (es : List (Event I)) (i : I) : List Session → Prop
  | kept (h : ¬ Heard g es i) : Fate g es i (g.others i ++ [g.session i false])
  | doomed (h : Heard g es i) : Fate g es i (g.others i ++ [g.session i true])
  | gone (h : Heard g es i) : Fate g es i (g.others i)

structure Inv (g : Segment I) (es : List (Event I)) (s : Net I) : Prop where
  made : ∀ i, i ∈ s.made ↔ .create i ∈ es
  flying : ∀ j i, (j, i) ∈ s.flying → j ∈ g.members
  idle : ∀ i, i ∉ s.made → s.sessions i = g.others i
  busy : ∀ i, i ∈ s.made → Fate g es i (s.sessions i)

theorem start_inv (g : Segment I) : Inv g [] (start g) where
  made _ := ⟨fun h => (nomatch h), fun h => (nomatch h)⟩
  flying _ _ h := nomatch h
  idle _ _ := rfl
  busy _ h := nomatch h

theorem Fate.congr {i : I} {e : Event I} {l : List Session} (h : Fate g es i l)
    (he : ∀ j ∈ g.members, g.Beats j i → e ≠ .deliver j i) : Fate g (es ++ [e]) i l := by
  have hiff : Heard g (es ++ [e]) i ↔ Heard g es i := by simp_all [heard_append]
  cases h with
  | kept h => exact .kept fun hh => h (hiff.1 hh)
  | doomed h => exact .doomed (hiff.2 h)
  | gone h => exact .gone (hiff.2 h)

theorem not_heard_of_not_made {i : I} (h : .create i ∉ es) : ¬ Heard g es i := by
  rintro ⟨j, -, -, hm⟩
  rw [afterCreate_eq_nil h] at hm
  cases hm

variable (hi : Inv g es s)
include hi

theorem Inv.create {i : I} (h : step g s (.create i) = some s') : Inv g (es ++ [.create i]) s' := by
  obtain ⟨⟨hmem, hnew⟩, rfl⟩ := of_enabled_if h
  constructor
  case made => simp [hi.made]
  case flying => grind [hi.flying]
  case idle => simp_all [hi.idle]
  case busy =>
    intro k hk
    by_cases hki : k = i
    · subst hki
      show Fate g _ k (Function.update s.sessions k _ k)
      rw [Function.update_self, hi.idle k hnew]
      refine .kept ?_
      simp_all [heard_append, not_heard_of_not_made, hi.made]
    · show Fate g _ k (Function.update s.sessions i _ k)
      rw [Function.update_of_ne hki]
      rcases List.mem_append.1 hk with hk | hk
      · exact (hi.busy k hk).congr fun _ _ _ => nofun
      · exact absurd (List.mem_singleton.1 hk) hki

theorem Inv.deliver {i j : I} (h : step g s (.deliver j i) = some s') :
    Inv g (es ++ [.deliver j i]) s' := by
  obtain ⟨hfly, h⟩ := Option.ite_none_right_eq_some.1 h
  obtain ⟨l, hl, rfl⟩ := Option.map_eq_some_iff.1 h
  have hj := hi.flying j i hfly
  constructor
  case made => simp [hi.made]
  case flying => exact fun j' k hjk => hi.flying j' k (List.mem_of_mem_erase hjk)
  case idle => grind [hi.idle, checkNotify_others]
  case busy =>
    intro k hk
    show Fate g _ k (Function.update s.sessions i l k)
    by_cases hki : k = i
    · subst hki
      rw [Function.update_self]
      have hmade : .create k ∈ es := (hi.made k).1 hk
      have hheard : g.Beats j k → Heard g (es ++ [.deliver j k]) k := fun hb =>
        heard_append k _ |>.2 (.inr ⟨hmade, j, hj, hb, rfl⟩)
      have hmono : Heard g es k → Heard g (es ++ [.deliver j k]) k := fun hh =>
        heard_append k _ |>.2 (.inl hh)
      generalize hold : s.sessions k = old at hl
      cases hold ▸ hi.busy k hk with
      | kept hn =>
        obtain ⟨b', heq, hb'⟩ := checkNotify_session (g := g) (i := k) (j := j) false
        cases hl.symm.trans heq
        cases b' with
        | false =>
          refine .kept ?_
          grind [heard_append]
        | true =>
          rcases hb'.1 rfl with hf | hb
          · cases hf
          · exact .doomed (hheard hb)
      | doomed hh =>
        obtain ⟨b', heq, hb'⟩ := checkNotify_session (g := g) (i := k) (j := j) true
        cases hl.symm.trans heq
        rw [hb'.2 (.inl rfl)]
        exact .doomed (hmono hh)
      | gone hh =>
        cases hl.symm.trans checkNotify_others
        exact .gone (hmono hh)
    · rw [Function.update_of_ne hki]
      exact (hi.busy k hk).congr fun j' _ _ he => hki (by cases he; rfl)

theorem Inv.terminate {i : I} (h : step g s (.terminate i) = some s') :
    Inv g (es ++ [.terminate i]) s' := by
  obtain ⟨hany, rfl⟩ := of_enabled_if h
  have hothers : ∀ i, ∀ ses ∈ g.others i, ¬ ses.doomed = true := fun i ses hs =>
    Bool.not_eq_true _ ▸ (g.fresh i ses hs).2
  have hnone : ∀ i, ¬ (g.others i).any Session.doomed = true := fun i h => by
    grind
  constructor
  case made => simp [hi.made]
  case flying => exact hi.flying
  case idle => grind [hi.idle]
  case busy =>
    intro k hk
    show Fate g _ k (Function.update s.sessions i _ k)
    by_cases hki : k = i
    · subst hki
      rw [Function.update_self]
      generalize hold : s.sessions k = old at hany ⊢
      cases hold ▸ hi.busy k hk with
      | kept hn =>
        rw [List.any_append, Bool.or_eq_true] at hany
        rcases hany with h | h
        · exact absurd h (hnone k)
        · cases h
      | doomed hh =>
        rw [List.eraseP_append_right _ (hothers k)]
        have hgone : [g.session k true].eraseP Session.doomed = [] := rfl
        rw [hgone, List.append_nil]
        exact (Fate.gone hh).congr fun _ _ _ => nofun
      | gone hh => exact absurd hany (hnone k)
    · rw [Function.update_of_ne hki]
      exact (hi.busy k hk).congr fun _ _ _ => nofun

theorem step_inv {e : Event I} (h : step g s e = some s') : Inv g (es ++ [e]) s' := by
  cases e with
  | create i => exact hi.create h
  | deliver j i => exact hi.deliver h
  | terminate i => exact hi.terminate h

theorem Inv.hasSession_iff (hd : Done g s) {i : I} (him : i ∈ g.members) :
    HasSession g s i ↔ ¬ Heard g es i := by
  have hsettled := hd.settled i him
  unfold HasSession
  generalize hold : s.sessions i = l at hsettled ⊢
  cases hold ▸ hi.busy i (hd.made i him) with
  | kept hn => simp_all [session_isFor]
  | doomed hh =>
    have := hsettled (g.session i true) (List.mem_append_right _ (List.mem_singleton_self _))
    cases this
  | gone hh => grind [g.fresh]

end Invariant

/-- **One session.** When every server has made its session and every notification has arrived, one
session is left if and only if every beaten server has heard so after it made its session. -/
theorem one_session_iff [DecidableEq I] (g : Segment I) (es : List (Event I)) (s : Net I)
    (hr : run (step g) (start g) es = some s) (hd : Done g s) :
    (∃ i, (i ∈ g.members ∧ HasSession g s i) ∧
        ∀ k, k ∈ g.members ∧ HasSession g s k → k = i) ↔
      ∀ i ∈ g.members, (∃ j ∈ g.members, g.Beats j i) → Heard g es i := by
  have hi : Inv g es s := run_history (start_inv g) (fun _ _ _ _ hi h => step_inv hi h) hr
  have hne : g.members ≠ [] := fun h => by
    have := g.two_le
    rw [h] at this
    cases this
  obtain ⟨b, hb, hall⟩ := exists_unbeaten (g := g) g.members hne
  have hkeep : HasSession g s b := (hi.hasSession_iff hd hb).2 fun ⟨j, hj, hbeat, _⟩ => hall j hj hbeat
  constructor
  · by_contra hn
    -- A server that is beaten and has not heard of it keeps its session, as the unbeaten one does.
    grind [hi.hasSession_iff]
  grind [hi.hasSession_iff, beats_total]

/-! ## Two servers -/

def pair : Segment Bool where
  members := [false, true]
  nodup := by decide
  two_le := by decide
  mac i := [2, 0, 0, 0, 0, if i then 2 else 1]
  mac_length _ := rfl
  mac_distinct := by decide
  weight i := if i then 2 else 1
  weight_pos := by decide
  weight_lt := by decide
  discover := ⟨0x1234, [0, 1, 2, 3, 4, 5], []⟩
  plain := rfl
  others _ := []
  fresh _ _ h := nomatch h

def lateRun : List (Event Bool) :=
  [.create false, .create true, .deliver false true, .deliver true false, .terminate true]

def earlyRun : List (Event Bool) :=
  [.create false, .deliver false true, .create true, .deliver true false]

instance [DecidableEq I] (g : Segment I) (s : Net I) : Decidable (Done g s) :=
  decidable_of_iff ((∀ i ∈ g.members, i ∈ s.made) ∧ s.flying = [] ∧
      ∀ i ∈ g.members, ∀ ses ∈ s.sessions i, ses.doomed = false)
    ⟨fun ⟨h, h', h''⟩ => ⟨h, h', h''⟩, fun ⟨h, h', h''⟩ => ⟨h, h', h''⟩⟩

/-- The notifications arrive after both sessions are made: one server keeps its session. -/
theorem one_session_iff_late : ∃ s, run (step pair) (start pair) lateRun = some s ∧ Done pair s ∧
    ∃ i, (i ∈ pair.members ∧ HasSession pair s i) ∧
      ∀ k, k ∈ pair.members ∧ HasSession pair s k → k = i := by
  obtain ⟨s, hr, hd⟩ : ∃ s, run (step pair) (start pair) lateRun = some s ∧ Done pair s := by
    decide +kernel
  have hheard : ∀ i ∈ pair.members, (∃ j ∈ pair.members, pair.Beats j i) → Heard pair lateRun i := by
    decide +kernel
  exact ⟨s, hr, hd, (one_session_iff pair lateRun s hr hd).2 hheard⟩

/-- **A notification that comes early**: both servers keep their sessions. -/
theorem early_notification_forgotten :
    ∃ s, run (step pair) (start pair) earlyRun = some s ∧ Done pair s ∧
      HasSession pair s false ∧ HasSession pair s true := by
  decide +kernel

end Ipoe.Weight
