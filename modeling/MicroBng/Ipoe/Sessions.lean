import Mathlib.Data.List.Nodup
import Mathlib.Data.List.TakeWhile
import MicroBng.Ipoe.Opt82

/-!
# The sessions of an interface

What an interface of `ctrl/ipoe` does with a packet depends on its sessions: `ipoe_session_lookup`
finds those a DHCP packet belongs to, the handlers of a session judge a DHCPREQUEST, and
`arp_ctx_read` decides whether to answer an ARP request in place of its target.

* `lookup_iff` : the lookup finds the sessions it should unless it is `Misled`. Its second loop tests
  `opt82_match`, which the first loop has left at 0, so that it takes the first session for the one
  the packet's option 82 belongs to.
* `acks_iff` : only requests for the session's own address are acknowledged, exactly if each request
  that gets so far is refused or `Checked`. The address of option 50 is compared only if the request
  has a server identifier.
* `answers_iff` : the answer to an ARP request does not depend on the order of the sessions unless it
  is `Hasty`. The loop ends at a sender that is not active, before the target is looked for.
-/

namespace Ipoe.Sessions

open Opt82

inductive ApState where
  | none | starting | active | finishing | restore
  deriving DecidableEq

/-- `struct ipoe_session`; `id` stands for its address in memory. -/
structure Ses where
  id : Nat
  hwaddr : List UInt8
  agent : Agent
  state : ApState
  yiaddr : UInt32
  siaddr : UInt32
  arph : Bool
  terminate : Bool
  deriving DecidableEq

/-! ## `ipoe_session_lookup` -/

/-- The part of a DHCP packet that the lookup reads. -/
structure Pack where
  chaddr : List UInt8
  relayAgent : Option Opt

/-- What `dhcpv4_parse_opt82` finds, nothing if it fails. -/
def Pack.agent (p : Pack) : Agent :=
  (p.relayAgent.bind fun o => parseOpt82 o.data).getD ⟨.none, .none, .none⟩

/-- The first loop: the session with the client's address, `*opt82_ses` and `opt82_match`. -/
def firstLoop (check : Bool) (p : Pack) (a : Agent) :
    Option Ses → Bool → List Ses → Option Ses × Option Ses × Bool
  | o, m, [] => (.none, o, m)
  | o, _, s :: l =>
    let m := check && p.relayAgent.isSome && decide (a = s.agent)
    let o := if m then some s else o
    if p.chaddr = s.hwaddr then (some s, o, m) else firstLoop check p a o m l

/-- The tests of the second loop: all but the first ask for `opt82_match`. -/
def secondTest (m : Bool) (a : Agent) (s : Ses) : Bool :=
  (a.circuit.isNone || s.agent.circuit.isSome) && (!m || decide (a = s.agent))

/-- `ipoe_session_lookup` on a shared interface: result and `*opt82_ses`. -/
def lookup (check : Bool) (l : List Ses) (p : Pack) : Option Ses × Option Ses :=
  let a := if check then p.agent else ⟨.none, .none, .none⟩
  match firstLoop check p a .none false l with
  | (.none, o, _) => (.none, o)
  | (some r, some o, _) => (some r, some o)
  | (some r, .none, m) => (some r, if p.relayAgent.isSome then l.find? (secondTest m a) else .none)

/-- The sessions that `__ipoe_recv_dhcpv4` ends because of a changed port or address. -/
def ended (check : Bool) (l : List Ses) (p : Pack) : List Ses :=
  match lookup check l p with
  | (.none, o) => o.toList
  | (some r, o) =>
    if r.terminate then []
    else if check then
      if o.any (·.id ≠ r.id) || (o.isNone && p.relayAgent.isSome) then r :: o.toList
      else if r.hwaddr ≠ p.chaddr then [r]
      else []
    else []

def Pack.Matches (p : Pack) (s : Ses) : Prop := p.relayAgent.isSome ∧ p.agent = s.agent
deriving Decidable

section Lookup

variable {p : Pack} {l : List Ses} {o : Option Ses} {m : Bool}

/-- The first session with the address of the client. -/
def Pack.own (p : Pack) (l : List Ses) : Option Ses := l.find? fun s => p.chaddr = s.hwaddr

/-- The sessions up to that one. -/
def Pack.seen (p : Pack) (l : List Ses) : List Ses :=
  l.takeWhile (fun s => p.chaddr ≠ s.hwaddr) ++ (p.own l).toList

/-- The last one of them that matches. -/
def Pack.matched (p : Pack) (l : List Ses) : Option Ses :=
  ((p.seen l).filter fun s => p.Matches s).getLast?

theorem own_eq_some {r : Ses} (h : p.own l = some r) : r ∈ l ∧ r.hwaddr = p.chaddr := by
  have hmac := List.find?_some h
  rw [decide_eq_true_eq] at hmac
  exact ⟨List.mem_of_find?_eq_some h, hmac.symm⟩

theorem firstLoop_eq (p : Pack) (l : List Ses) (o : Option Ses) (m : Bool) :
    (firstLoop true p p.agent o m l).1 = p.own l ∧
      (firstLoop true p p.agent o m l).2.1 = (p.matched l).or o ∧
      ((firstLoop true p p.agent o m l).2.1 = .none → l ≠ [] →
        (firstLoop true p p.agent o m l).2.2 = false) := by
  induction l generalizing o m with
  | nil => simp [firstLoop, Pack.matched, Pack.seen, Pack.own]
  | cons s l ih =>
    have hm : (true && p.relayAgent.isSome && decide (p.agent = s.agent)) = decide (p.Matches s) := by
      rw [Bool.eq_iff_iff, decide_eq_true_iff, Bool.and_eq_true, decide_eq_true_iff]
      rfl
    unfold firstLoop
    rw [hm]
    by_cases hs : p.chaddr = s.hwaddr
    · by_cases hmatch : p.Matches s <;>
        simp [hs, hmatch, Pack.matched, Pack.seen, Pack.own]
    · obtain ⟨hres, hopt, hlast⟩ := ih (if decide (p.Matches s) then some s else o) (p.Matches s)
      have hseen : p.seen (s :: l) = s :: p.seen l := by simp [Pack.seen, Pack.own, hs]
      simp only [hs, if_false]
      refine ⟨by rw [hres]; simp [Pack.own, hs], ?_, ?_⟩
      · rw [hopt, Pack.matched, Pack.matched, hseen]
        by_cases hmatch : p.Matches s
        · cases hf : ((p.seen l).filter fun s => p.Matches s).getLast? <;>
            simp [hmatch, List.getLast?_cons, hf]
        · simp [hmatch]
      · intro hnone _
        cases l with
        | nil =>
          by_cases hmatch : p.Matches s
          · simp [firstLoop, hmatch] at hnone
          · simp [firstLoop, hmatch]
        | cons t l => exact hlast hnone (List.cons_ne_nil t l)

theorem mem_of_seen {s : Ses} (h : s ∈ p.seen l) : s ∈ l := by
  rcases List.mem_append.1 h with h | h
  · exact (List.takeWhile_sublist _).subset h
  · exact (own_eq_some (Option.mem_toList.1 h)).1

theorem seen_of_none (h : p.own l = .none) : p.seen l = l := by
  have hall := List.find?_eq_none.1 h
  unfold Pack.seen
  rw [h]
  simpa using hall

theorem lookup_eq (p : Pack) (l : List Ses) :
    lookup true l p = (p.own l,
      (p.matched l).or (if (p.own l).isSome ∧ p.relayAgent.isSome then
        l.find? (secondTest false p.agent) else .none)) := by
  obtain ⟨hres, hopt, hlast⟩ := firstLoop_eq p l .none false
  rw [Option.or_none] at hopt
  unfold lookup
  simp only [if_true]
  generalize firstLoop true p p.agent .none false l = x at hres hopt hlast
  obtain ⟨r, o, m⟩ := x
  obtain rfl := hres
  obtain rfl := hopt
  cases hr : p.own l with
  | none => simp
  | some r =>
    cases ho : p.matched l with
    | some o => simp
    | none =>
      obtain rfl : m = false := hlast ho (List.ne_nil_of_mem (own_eq_some hr).1)
      simp

theorem firstLoop_unchecked (p : Pack) (a : Agent) (m : Bool) (l : List Ses) :
    firstLoop false p a .none m l = (p.own l, .none, m && l.isEmpty) := by
  induction l generalizing m with
  | nil => simp [firstLoop, Pack.own]
  | cons s l ih => by_cases hs : p.chaddr = s.hwaddr <;> simp [firstLoop, Pack.own, hs, ih]

/-- Without `check-mac-change` no session matches, and the second loop takes the first one. -/
theorem lookup_unchecked (p : Pack) (l : List Ses) :
    lookup false l p = (p.own l,
      if (p.own l).isSome ∧ p.relayAgent.isSome then l.head? else .none) := by
  have hfind : l.find? (secondTest false ⟨.none, .none, .none⟩) = l.head? := by
    cases l <;> simp [secondTest]
  simp only [lookup, Bool.false_eq_true, if_false, firstLoop_unchecked, Bool.false_and]
  cases p.own l with
  | none => simp
  | some r => simp [hfind]

/-- What the lookup is for. -/
structure LookupRight (check : Bool) (l : List Ses) (p : Pack) : Prop where
  mac : ∀ r, (lookup check l p).1 = some r → r ∈ l ∧ r.hwaddr = p.chaddr
  sound : ∀ o, (lookup check l p).2 = some o → o ∈ l ∧ p.Matches o
  complete : (∃ s ∈ l, p.Matches s) → (lookup check l p).2.isSome
  related : ∀ s ∈ ended check l p, s.hwaddr = p.chaddr ∨ p.Matches s

/-- The packet has option 82, and:

with `check-mac-change` a session has the client's address, no session up to the first such one
matches, nor the first with a circuit id where the packet has one;

without it a session has the client's address and the first session does not match, or none has the
address and one matches. -/
def Misled (l : List Ses) (p : Pack) : Bool → Prop
  | true => p.relayAgent.isSome ∧ (∃ s ∈ l, p.chaddr = s.hwaddr) ∧ (∀ s ∈ p.seen l, ¬ p.Matches s) ∧
      ∃ c ∈ l.find? fun s => p.agent.circuit.isNone || s.agent.circuit.isSome, ¬ p.Matches c
  | false => p.relayAgent.isSome ∧
      ((∃ s ∈ l, p.chaddr = s.hwaddr) ∧ (∃ c ∈ l.head?, ¬ p.Matches c) ∨
        (∀ s ∈ l, p.chaddr ≠ s.hwaddr) ∧ ∃ s ∈ l, p.Matches s)

theorem secondTest_false (a : Agent) :
    secondTest false a = fun s => a.circuit.isNone || s.agent.circuit.isSome := by
  funext s
  simp [secondTest]

theorem lookupRight_checked (l : List Ses) (p : Pack) :
    LookupRight true l p ↔ ¬ Misled l p true := by
  have heq := lookup_eq p l
  rw [secondTest_false] at heq
  have hnone : p.matched l = .none ↔ ∀ s ∈ p.seen l, ¬ p.Matches s := by simp [Pack.matched]
  constructor
  · rintro h ⟨hrelay, ⟨s, hs, hmac⟩, hseen, c, hc, hno⟩
    have hown : (p.own l).isSome := List.find?_isSome.2 ⟨s, hs, decide_eq_true hmac⟩
    refine hno (h.sound c ?_).2
    rw [heq, hnone.2 hseen, if_pos ⟨hown, hrelay⟩]
    exact hc
  intro h
  have hmac : ∀ r, (lookup true l p).1 = some r → r ∈ l ∧ r.hwaddr = p.chaddr := by
    intro r hr
    rw [heq] at hr
    exact own_eq_some hr
  have hsound : ∀ o, (lookup true l p).2 = some o → o ∈ l ∧ p.Matches o := by
    intro o ho
    rw [heq] at ho
    cases hlast : p.matched l with
    | some t =>
      rw [hlast] at ho
      obtain rfl := Option.some.inj ho
      obtain ⟨hs, hm⟩ := List.mem_filter.1 (List.mem_of_getLast? hlast)
      exact ⟨mem_of_seen hs, of_decide_eq_true hm⟩
    | none =>
      rw [hlast, Option.none_or] at ho
      split_ifs at ho with hc
      obtain ⟨r, hr⟩ := Option.isSome_iff_exists.1 hc.1
      have hown := own_eq_some hr
      exact ⟨List.mem_of_find?_eq_some ho, by_contra fun hno =>
        h ⟨hc.2, ⟨r, hown.1, hown.2.symm⟩, hnone.1 hlast, o, ho, hno⟩⟩
  refine ⟨hmac, hsound, ?_, ?_⟩
  · rintro ⟨s, hs, hm⟩
    rw [heq]
    cases hlast : p.matched l with
    | some t => rfl
    | none =>
      have hown : (p.own l).isSome := by
        by_contra hno
        rw [seen_of_none (Option.not_isSome_iff_eq_none.1 hno)] at hnone
        exact hnone.1 hlast s hs hm
      rw [if_pos ⟨hown, hm.1⟩]
      refine List.find?_isSome.2 ⟨s, hs, ?_⟩
      rw [hm.2]
      cases s.agent.circuit <;> rfl
  · intro s hs
    unfold ended at hs
    generalize lookup true l p = x at hmac hsound hs
    obtain ⟨r, o⟩ := x
    cases r with
    | none => exact .inr (hsound s (Option.mem_toList.1 hs)).2
    | some r =>
      have hr := (hmac r rfl).2
      have hcases : s = r ∨ s ∈ o.toList := by
        simp only [if_true] at hs
        split_ifs at hs
        · cases hs
        · exact List.mem_cons.1 hs
        · exact .inl (List.mem_singleton.1 hs)
        · cases hs
      rcases hcases with rfl | hs
      · exact .inl hr
      · exact .inr (hsound s (Option.mem_toList.1 hs)).2

theorem lookupRight_unchecked (l : List Ses) (p : Pack) :
    LookupRight false l p ↔ ¬ Misled l p false := by
  have heq := lookup_unchecked p l
  have hsome : (p.own l).isSome ↔ ∃ s ∈ l, p.chaddr = s.hwaddr := by
    simp [Pack.own, List.find?_isSome]
  have hnone : (∀ s ∈ l, p.chaddr ≠ s.hwaddr) ↔ ¬ (p.own l).isSome := by
    rw [hsome]
    simp
  rw [Misled, ← hsome, hnone]
  constructor
  · rintro h ⟨hrelay, ⟨hown, c, hc, hno⟩ | ⟨hown, hmatch⟩⟩
    · refine hno (h.sound c ?_).2
      rw [heq, if_pos ⟨hown, hrelay⟩]
      exact hc
    · have hfound := h.complete hmatch
      rw [heq, if_neg fun h => hown h.1] at hfound
      cases hfound
  · intro h
    refine ⟨fun r hr => ?_, fun o ho => ?_, fun hmatch => ?_, fun s hs => ?_⟩
    · rw [heq] at hr
      exact own_eq_some hr
    · rw [heq] at ho
      split_ifs at ho with hc
      refine ⟨List.mem_of_mem_head? ho, by_contra fun hno => ?_⟩
      exact h ⟨hc.2, .inl ⟨hc.1, o, ho, hno⟩⟩
    · obtain ⟨s, hs, hm⟩ := hmatch
      have hown : (p.own l).isSome := by_contra fun hown => h ⟨hm.1, .inr ⟨hown, s, hs, hm⟩⟩
      rw [heq, if_pos ⟨hown, hm.1⟩]
      cases l with
      | nil => cases hs
      | cons t l => rfl
    · -- nothing is ended: no session has been found, or changes are not looked for
      unfold ended at hs
      rw [heq] at hs
      cases hr : p.own l with
      | none => simp [hr] at hs
      | some r => simp [hr] at hs

/-- **The lookup finds the right sessions exactly if it is not misled**, with `check-mac-change` and
without it. -/
theorem lookup_iff (check : Bool) (l : List Ses) (p : Pack) :
    LookupRight check l p ↔ ¬ Misled l p check := by
  cases check with
  | true => exact lookupRight_checked l p
  | false => exact lookupRight_unchecked l p

end Lookup

def agentOf (circuit : UInt8) : Agent := ⟨some [circuit], .none, .none⟩

def sampleSes (id : Nat) (mac circuit : UInt8) : Ses :=
  ⟨id, [mac], agentOf circuit, .active, 10, 1, false, false⟩

/-- The option 82 with the circuit id of one byte. -/
def sampleOpt (circuit : UInt8) : Opt := added [1, 1, circuit]

/-- A client moves to a port on which nobody is: the session of a third one is ended. -/
theorem third_session_ended :
    ended true [sampleSes 1 7 1, sampleSes 2 8 2] ⟨[8], sampleOpt 3⟩ =
        [sampleSes 2 8 2, sampleSes 1 7 1] ∧
      ¬ Pack.Matches ⟨[8], sampleOpt 3⟩ (sampleSes 1 7 1) := by
  decide +kernel

/-! ## DHCPREQUEST -/

/-- A DHCPREQUEST: options 54 and 50, `ciaddr` and option 82. -/
structure Request where
  opt54 : Option UInt32
  opt50 : Option UInt32
  ciaddr : UInt32
  relayAgent : Option Opt

/-- `server_id` and `request_ip` are 0 where the option is missing. -/
def Request.serverId (r : Request) : UInt32 := r.opt54.getD 0

def Request.requestIp (r : Request) : UInt32 := r.opt50.getD 0

/-- The addresses the client names. -/
def Request.Names (r : Request) (a : UInt32) : Prop := r.opt50 = some a ∨ r.ciaddr = a ∧ a ≠ 0

/-- The interface: whether it relays, and `opt_check_mac_change`. -/
structure Serv where
  relay : Bool
  checkMac : Bool

/-- The request at activation: nothing if that has happened before or fails, else an answer. -/
inductive Activated
  | no | failed | active

/-- A session and the request it keeps, `dhcpv4_request`. -/
structure Held where
  ses : Ses
  request : Option Request

/-- A request through the interface or the session's socket, or the DHCPACK of the server behind the
relay. -/
inductive Event
  | request (r : Request) (act : Activated)
  | own (r : Request)
  | relayAck (act : Activated)

/-- The test both handlers make. -/
def wrong (s : Ses) (r : Request) : Prop :=
  (r.serverId ≠ 0 ∧ (r.serverId ≠ s.siaddr ∨ r.requestIp ≠ s.yiaddr)) ∨
    (r.ciaddr ≠ 0 ∧ r.ciaddr ≠ s.yiaddr)
deriving Decidable

/-- `__ipoe_session_activate`: the request is acknowledged if the session is active then. -/
def activateNow (h : Held) : Activated → Held × Option Request
  | .no => (h, .none)
  | .failed => ({ h with request := .none }, .none)
  | .active => ({ ses := { h.ses with state := .active }, request := .none }, h.request)

def keepalive (v : Serv) (h : Held) (r : Request) : Held × Option Request :=
  if v.relay then ({ h with request := some r }, .none)
  else if h.ses.state = .active then ({ h with request := .none }, some r)
  else ({ h with request := .none }, .none)

/-- The port has changed, as `ipoe_ses_recv_dhcpv4` sees it. -/
def portChanged (v : Serv) (s : Ses) (r : Request) : Bool :=
  let a := Pack.agent ⟨[], r.relayAgent⟩
  v.checkMac && r.relayAgent.isSome &&
    !(decide (a.circuit = s.agent.circuit) && decide (a.remote = s.agent.remote))

/-- `ipoe_ses_recv_dhcpv4_request`, `ipoe_ses_recv_dhcpv4` and `ipoe_ses_recv_dhcpv4_relay`, with
the request that a DHCPACK is sent for. -/
def recv (v : Serv) (h : Held) : Event → Held × Option Request
  | .request r act =>
    if wrong h.ses r then (h, .none)
    else if h.ses.state = .starting ∧ h.ses.yiaddr ≠ 0 then
      if v.relay then ({ h with request := some r }, .none)
      else activateNow { h with request := some r } act
    else if h.ses.state = .active then keepalive v h r
    else (h, .none)
  | .own r =>
    if h.ses.terminate ∨ portChanged v h.ses r ∨ wrong h.ses r then (h, .none)
    else keepalive v h r
  | .relayAck act =>
    match h.request with
    | .none => (h, .none)
    | some r => if h.ses.state = .starting then activateNow h act else (h, some r)

/-- The requests acknowledged in a run. -/
def acks (v : Serv) : Held → List Event → List Request
  | _, [] => []
  | h, e :: es => (recv v h e).2.toList ++ acks v (recv v h e).1 es

def Event.request? : Event → Option Request
  | .request r _ | .own r => some r
  | .relayAck _ => .none

/-- Option 50 is compared with the session's address, or does not differ. -/
def Request.Checked (r : Request) (yiaddr : UInt32) : Prop :=
  r.serverId ≠ 0 ∨ r.opt50 = .none ∨ r.opt50 = some yiaddr

/-- The session is about to acknowledge the request, unless the test of the addresses refuses it: at
its activation, while it is active, on its own socket unless it ends or the port has changed, or
when the server behind the relay does. -/
inductive Answers (v : Serv) (h : Held) : Event → Request → Prop
  | first {r : Request} (hs : h.ses.state = .starting) (hy : h.ses.yiaddr ≠ 0)
      (hv : v.relay = false) : Answers v h (.request r .active) r
  | renewed {r : Request} {act : Activated} (hs : h.ses.state = .active) (hv : v.relay = false) :
      Answers v h (.request r act) r
  | own {r : Request} (hs : h.ses.state = .active) (hv : v.relay = false)
      (ht : h.ses.terminate = false) (hp : portChanged v h.ses r = false) : Answers v h (.own r) r
  | relayed {r : Request} {act : Activated} (hr : h.request = some r)
      (hs : h.ses.state = .starting → act = .active) : Answers v h (.relayAck act) r

/-- At every step of a run, a request that is about to be acknowledged is refused or checked. -/
def AlwaysChecked (v : Serv) : Held → List Event → Prop
  | _, [] => True
  | h, e :: es => (∀ r, Answers v h e r → wrong h.ses r ∨ r.Checked h.ses.yiaddr) ∧
      AlwaysChecked v (recv v h e).1 es

section Requests

variable {v : Serv} {h : Held} {r : Request} {e : Event}

/-- A request that is not refused names the session's address only, exactly if it is checked. -/
theorem names_iff (hr : ¬ wrong h.ses r) :
    (∀ a, r.Names a → a = h.ses.yiaddr) ↔ r.Checked h.ses.yiaddr := by
  obtain ⟨h54, hci⟩ := not_or.1 hr
  constructor
  · intro hall
    cases h50 : r.opt50 with
    | none => exact .inr (.inl h50)
    | some a => exact .inr (.inr (hall a (.inl h50) ▸ h50))
  · rintro hc a (ha | ⟨rfl, hne⟩)
    · have hip : r.requestIp = a := by rw [Request.requestIp, ha, Option.getD_some]
      rcases hc with hc | hc | hc
      · grind
      · cases ha.symm.trans hc
      · exact Option.some.inj (ha.symm.trans hc)
    · exact by_contra fun hy => hci ⟨hne, hy⟩

/-- The request that is kept has passed the test of the addresses. -/
def Held.Passed (h : Held) : Prop := ∀ r, h.request = some r → ¬ wrong h.ses r

/-- What a handler leaves behind: the address of the session, and no request that is wrong. -/
structure Kept (h h' : Held) : Prop where
  yiaddr : h'.ses.yiaddr = h.ses.yiaddr
  passed : h'.Passed

theorem recv_kept (v : Serv) (hp : h.Passed) (e : Event) : Kept h (recv v h e).1 := by
  have hsame : Kept h h := ⟨rfl, hp⟩
  have hnone : Kept h { h with request := .none } := ⟨rfl, nofun⟩
  have hkeep (r : Request) (hw : ¬ wrong h.ses r) : Kept h { h with request := some r } :=
    ⟨rfl, fun x hx => Option.some.inj hx ▸ hw⟩
  have hactive (r : Option Request) (act : Activated) (hk : Kept h { h with request := r }) :
      Kept h (activateNow { h with request := r } act).1 := by
    cases act with
    | no => exact hk
    | failed => exact hnone
    | active => exact ⟨rfl, nofun⟩
  have halive (r : Request) (hw : ¬ wrong h.ses r) : Kept h (keepalive v h r).1 := by
    unfold keepalive
    split_ifs
    · exact hkeep r hw
    · exact hnone
    · exact hnone
  cases e with
  | request r act =>
    simp only [recv]
    split_ifs with hw
    · exact hsame
    · exact hkeep r hw
    · exact hactive (some r) act (hkeep r hw)
    · exact halive r hw
    · exact hsame
  | own r =>
    simp only [recv]
    split_ifs with hw
    · exact hsame
    · exact halive r fun hwrong => hw (.inr (.inr hwrong))
  | relayAck act =>
    simp only [recv]
    split
    · exact hsame
    · split_ifs
      · exact hactive h.request act hsame
      · exact hsame

/-- A DHCPACK is sent for a request that is about to be acknowledged and is not refused. -/
theorem recv_ack_iff (hp : h.Passed) :
    (recv v h e).2 = some r ↔ Answers v h e r ∧ ¬ wrong h.ses r := by
  constructor
  · intro hack
    cases e with
    | request x act =>
      simp only [recv] at hack
      split_ifs at hack with hw hs hv ha
      · cases act <;> cases hack
        exact ⟨.first hs.1 hs.2 (by simpa using hv), hw⟩
      · unfold keepalive at hack
        split_ifs at hack with hv
        cases hack
        exact ⟨.renewed ha (by simpa using hv), hw⟩
    | own x =>
      simp only [recv] at hack
      split_ifs at hack with hw
      simp only [not_or, Bool.not_eq_true] at hw
      unfold keepalive at hack
      split_ifs at hack with hv ha
      cases hack
      exact ⟨.own ha (by simpa using hv) hw.1 hw.2.1, hw.2.2⟩
    | relayAck act =>
      simp only [recv] at hack
      split at hack
      · cases hack
      case h_2 x hx =>
        split_ifs at hack with hs
        · cases act with
          | active => exact ⟨.relayed hack fun _ => rfl, hp r hack⟩
          | no | failed => cases hack
        · cases hack
          exact ⟨.relayed hx fun h => absurd h hs, hp _ hx⟩
  · rintro ⟨ha, hw⟩
    cases ha with
    | first hs hy hv => simp [recv, hw, hs, hy, hv, activateNow]
    | renewed hs hv => simp [recv, hw, hs, hv, keepalive]
    | own hs hv ht hport => simp [recv, hw, hs, hv, ht, hport, keepalive]
    | relayed hr hs =>
      by_cases h : h.ses.state = .starting
      · simp [recv, hr, h, hs h, activateNow]
      · simp [recv, hr, h]

theorem acks_iff_of_passed (hp : h.Passed) (es : List Event) :
    (∀ r ∈ acks v h es, ∀ a, r.Names a → a = h.ses.yiaddr) ↔ AlwaysChecked v h es := by
  induction es generalizing h with
  | nil => simp [acks, AlwaysChecked]
  | cons e es ih =>
    have hkept := recv_kept v hp e
    have hstep : (∀ r, (recv v h e).2 = some r → ∀ a, r.Names a → a = h.ses.yiaddr) ↔
        ∀ r, Answers v h e r → wrong h.ses r ∨ r.Checked h.ses.yiaddr := by
      refine forall_congr' fun r => ?_
      rw [recv_ack_iff hp, and_imp]
      refine imp_congr_right fun _ => ⟨fun hall => ?_, fun hor hw => ?_⟩
      · exact or_iff_not_imp_left.2 fun hw => (names_iff hw).1 (hall hw)
      · exact (names_iff hw).2 (hor.resolve_left hw)
    rw [acks, AlwaysChecked, ← hstep, ← ih hkept.passed, hkept.yiaddr]
    simp only [List.mem_append, Option.mem_toList, or_imp, forall_and]

/-- **Only requests that name the session's address are acknowledged**, exactly if at every step the
request that is about to be is refused, or names no other in option 50 without a server
identifier. -/
theorem acks_iff (v : Serv) (h : Held) (hfirst : h.request = .none) (es : List Event) :
    (∀ r ∈ acks v h es, ∀ a, r.Names a → a = h.ses.yiaddr) ↔ AlwaysChecked v h es :=
  acks_iff_of_passed (fun _ hr => nomatch hfirst.symm.trans hr) es

end Requests

def sampleHeld : Held := ⟨sampleSes 1 7 1, .none⟩

/-- The session while it ends. -/
def endingHeld : Held := ⟨{ sampleSes 1 7 1 with terminate := true }, .none⟩

/-- A session that ends refuses a request for another address on its own socket. -/
theorem acks_iff_terminated : endingHeld.request = .none ∧
    ∀ r ∈ acks ⟨false, false⟩ endingHeld [.own ⟨.none, some 11, 0, .none⟩],
      ∀ a, r.Names a → a = endingHeld.ses.yiaddr := by
  refine ⟨rfl, (acks_iff ⟨false, false⟩ endingHeld rfl _).2 ⟨?_, trivial⟩⟩
  rintro r (_ | _ | ⟨-, -, ht, -⟩ | _)
  cases ht

/-- A client that asks for 11 in option 50 and names no server is acknowledged for 10. -/
theorem other_address_acknowledged :
    ∃ r ∈ acks ⟨false, false⟩ sampleHeld [.request ⟨.none, some 11, 0, .none⟩ .no],
      r.Names 11 ∧ sampleHeld.ses.yiaddr = 10 :=
  ⟨_, List.mem_singleton_self _, .inl rfl, rfl⟩

/-! ## Proxy ARP -/

/-- An ARP request: who asks, and for which address. -/
structure Arp where
  spa : UInt32
  tpa : UInt32

/-- The loop of `arp_ctx_read`: the sessions of sender and target. -/
def arpLoop (q : Arp) : Option Ses → Option Ses → List Ses → Option Ses × Option Ses
  | s1, s2, [] => (s1, s2)
  | s1, s2, s :: l =>
    let s1 := if s.yiaddr = q.spa then some s else s1
    if s.yiaddr = q.spa ∧ s.state ≠ .active then (s1, s2)
    else
      let s2 := if s.yiaddr = q.tpa then some s else s2
      if s.yiaddr = q.tpa ∧ s.state ≠ .active then (s1, s2)
      else if s1.isSome ∧ s2.isSome then (s1, s2)
      else arpLoop q s1 s2 l

/-- Whether `arp_ctx_read` answers; `optArp` is the interface's mode. -/
def answers (optArp : Nat) (q : Arp) (l : List Ses) : Bool :=
  if q.spa = q.tpa then false
  else
    match arpLoop q .none .none l with
    | (.none, _) => false
    | (some s1, s2) =>
      optArp ≠ 0 && !s1.arph && !s2.any (·.state ≠ .active) && !(s2.isSome && optArp = 1)

section Arp

variable {q : Arp} {l : List Ses} {optArp : Nat} {s1 s2 : Ses}

/-- The session with an address. -/
def holder (l : List Ses) (a : UInt32) : Option Ses := l.find? (·.yiaddr = a)

def Distinct (l : List Ses) : Prop := (l.map (·.yiaddr)).Nodup

/-- The loop finds both sessions, unless one is not active: then the other may be missed. -/
theorem arpLoop_eq (hq : q.spa ≠ q.tpa) (hl : Distinct l) (a b : Option Ses)
    (ha : a ≠ .none → ∀ s ∈ l, s.yiaddr ≠ q.spa) (hb : b ≠ .none → ∀ s ∈ l, s.yiaddr ≠ q.tpa) :
    arpLoop q a b l = (a.or (holder l q.spa), b.or (holder l q.tpa)) ∨
    (∃ s, holder l q.spa = some s ∧ s.state ≠ .active ∧ arpLoop q a b l = (some s, b)) ∨
    (∃ s, holder l q.tpa = some s ∧ s.state ≠ .active ∧ arpLoop q a b l = (a, some s)) := by
  induction l generalizing a b with
  | nil => simp [arpLoop, holder]
  | cons s l ih =>
    obtain ⟨hs, hl⟩ := List.nodup_cons.1 hl
    have hfree : ∀ x, s.yiaddr = x → ∀ t ∈ l, t.yiaddr ≠ x :=
      fun x hx t ht h => hs (List.mem_map.2 ⟨t, ht, h.trans hx.symm⟩)
    have hnone : ∀ x, s.yiaddr = x → holder l x = .none := by
      intro x hx
      simpa [holder] using hfree x hx
    have hcons : ∀ x, holder (s :: l) x = if s.yiaddr = x then some s else holder l x := by
      intro x
      by_cases hx : s.yiaddr = x <;> simp [holder, hx]
    have hrec := ih hl (if s.yiaddr = q.spa then some s else a)
      (if s.yiaddr = q.tpa then some s else b) (by grind) (by grind)
    rw [arpLoop]
    cases a <;> cases b <;> grind

theorem holder_eq_some (hl : Distinct l) {a : UInt32} {s : Ses} :
    holder l a = some s ↔ s ∈ l ∧ s.yiaddr = a := by
  constructor
  · intro h
    exact ⟨List.mem_of_find?_eq_some h, of_decide_eq_true (List.find?_some h :)⟩
  · rintro ⟨hs, rfl⟩
    cases h : holder l s.yiaddr with
    | none => exact absurd (decide_eq_true rfl) (List.find?_eq_none.1 h s hs)
    | some t =>
      have ht : t.yiaddr = s.yiaddr := of_decide_eq_true (List.find?_some h :)
      rw [List.inj_on_of_nodup_map hl (List.mem_of_find?_eq_some h) hs ht]

/-- A sender that is not active, and a target for which no answer should be given. -/
def Hasty (optArp : Nat) (q : Arp) (l : List Ses) : Prop :=
  optArp ≠ 0 ∧ q.spa ≠ q.tpa ∧ ∃ s1 ∈ l, ∃ s2 ∈ l, s1.yiaddr = q.spa ∧ s2.yiaddr = q.tpa ∧
    s1.state ≠ .active ∧ s1.arph = false ∧ (s2.state ≠ .active ∨ optArp = 1)

/-- The decision that does not depend on the order. -/
def ShouldAnswer (optArp : Nat) (q : Arp) (l : List Ses) : Prop :=
  optArp ≠ 0 ∧ q.spa ≠ q.tpa ∧ ∃ s1 ∈ l, s1.yiaddr = q.spa ∧ s1.arph = false ∧
    ∀ s2 ∈ l, s2.yiaddr = q.tpa → s2.state = .active ∧ optArp ≠ 1

theorem answers_of_not_hasty (hl : Distinct l) (h : ¬ Hasty optArp q l) :
    answers optArp q l = true ↔ ShouldAnswer optArp q l := by
  unfold answers
  by_cases hq : q.spa = q.tpa
  · simp [hq, ShouldAnswer]
  have h1 : ∀ s, holder l q.spa = some s ↔ _ := fun _ => holder_eq_some hl
  have h2 : ∀ s, holder l q.tpa = some s ↔ _ := fun _ => holder_eq_some hl
  rcases arpLoop_eq hq hl .none .none (by simp) (by simp) with
    heq | ⟨s, hs, hna, heq⟩ | ⟨s, hs, hna, heq⟩
  · cases hs1 : holder l q.spa <;> cases hs2 : holder l q.tpa <;> grind [ShouldAnswer]
  · grind [ShouldAnswer, Hasty]
  · grind [ShouldAnswer]

theorem answers_sender (optArp : Nat) (l : List Ses) (hq : q.spa ≠ q.tpa) (h1 : s1.yiaddr = q.spa)
    (hna : s1.state ≠ .active) : answers optArp q (s1 :: l) = (optArp ≠ 0 && !s1.arph) := by
  simp [answers, arpLoop, hq, h1, hna]

theorem answers_target (optArp : Nat) (l : List Ses) (hq : q.spa ≠ q.tpa) (h2 : s2.yiaddr = q.tpa)
    (hna : s2.state ≠ .active) : answers optArp q (s2 :: l) = false := by
  simp [answers, arpLoop, hq.symm, h2, hna]

/-- **The decision does not depend on the order of the sessions, and mode 1 answers for none**,
exactly if the sender is not found before it is active. -/
theorem answers_iff (optArp : Nat) (q : Arp) (l : List Ses) (hl : Distinct l) :
    ((∀ l', l'.Perm l → answers optArp q l' = answers optArp q l) ∧
      (optArp = 1 → (∃ s ∈ l, s.yiaddr = q.tpa) → ∀ l', l'.Perm l → answers optArp q l' = false)) ↔
    ¬ Hasty optArp q l := by
  constructor
  · rintro ⟨hsame, hlocal⟩ ⟨ho, hq, s1, hs1, s2, hs2, h1, h2, hna, harph, h⟩
    have hyes := answers_sender optArp (l.erase s1) hq h1 hna
    have hp1 := (List.perm_cons_erase hs1).symm
    rcases h with h | h
    · have hno := answers_target optArp (l.erase s2) hq h2 h
      rw [hsame _ hp1] at hyes
      rw [hsame _ (List.perm_cons_erase hs2).symm, hyes] at hno
      simp [ho, harph] at hno
    · rw [hlocal h ⟨s2, hs2, h2⟩ _ hp1] at hyes
      simp [ho, harph] at hyes
  · intro h
    have hall : ∀ l', l'.Perm l → (answers optArp q l' = true ↔ ShouldAnswer optArp q l) := by
      intro l' hp
      have hl' : Distinct l' := (hp.map _).nodup_iff.2 hl
      have hiff : ¬ Hasty optArp q l' → _ := answers_of_not_hasty hl'
      simp only [Hasty, ShouldAnswer, hp.mem_iff] at hiff h ⊢
      exact hiff h
    refine ⟨fun l' hp => Bool.eq_iff_iff.2 ((hall l' hp).trans (hall l (.refl l)).symm), ?_⟩
    rintro rfl ⟨s, hs, ht⟩ l' hp
    refine Bool.eq_false_iff.2 fun hans => ?_
    obtain ⟨-, -, s1, -, -, -, hno⟩ := (hall l' hp).1 hans
    exact (hno s hs ht).2 rfl

end Arp

def twoSes (state : ApState) : List Ses :=
  [{ sampleSes 1 7 1 with state }, { sampleSes 2 8 2 with yiaddr := 11 }]

theorem answers_iff_active :
    Distinct (twoSes .active) ∧ ∀ l', l'.Perm (twoSes .active) →
      answers 1 ⟨10, 11⟩ l' = answers 1 ⟨10, 11⟩ (twoSes .active) := by
  have hl : Distinct (twoSes .active) := by
    unfold Distinct
    decide
  refine ⟨hl, ((answers_iff 1 ⟨10, 11⟩ _ hl).2 ?_).1⟩
  rintro ⟨-, -, s1, hs1, s2, -, h1, -, hna, -⟩
  simp_all [twoSes]
  grind

/-- A client that is not active yet asks for another: the order decides, even in mode 1. -/
theorem starting_client_answered :
    answers 1 ⟨10, 11⟩ (twoSes .starting) = true ∧
      answers 1 ⟨10, 11⟩ (twoSes .starting).reverse = false := by
  decide

end Ipoe.Sessions
