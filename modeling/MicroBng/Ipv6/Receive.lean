import MicroBng.Ipv6.Packet
import MicroBng.Lib.Machine

/-!
# Which DHCPv6 messages are answered

`dhcpv6_recv_packet` of `ipv6/dhcpv6.c` and the handlers of the messages, which compare the
identifiers of a message and bind the session to the first client identifier they accept.

* `answers_valid`: only valid messages are answered if no Request names another server
-/

namespace Dhcpv6

open Machine

/-- A message that was answered, as received, and the type of the answer. -/
structure Answer where
  req : Packet
  type : UInt8

/-- `struct dhcpv6_pd`. `bindings` are the values `clientid` was given, in order. -/
structure Pd where
  clientid : Option (List UInt8) := none
  bindings : List (List UInt8) := []
  log : List Answer := []

/-- A session without a client identifier takes it over, another one compares it. -/
def Pd.bind (pd : Pd) (req : Packet) : Option Pd :=
  match pd.clientid with
  | none =>
    some { pd with clientid := req.clientid, bindings := pd.bindings ++ req.clientid.toList }
  | some id => if req.clientid = some id then some pd else none

/-- `dhcpv6_send_reply` or `dhcpv6_send_reply2`; `sends`: it comes to send the reply. -/
def Pd.sendReply (pd : Pd) (sends : Bool) (req : Packet) (type : UInt8) : Pd :=
  if sends then { pd with log := pd.log ++ [⟨req, type⟩] } else pd

section Handlers

variable (serverid : List UInt8) (sends : Bool) (pd : Pd) (req : Packet)

def recvSolicit : Pd :=
  if req.clientid = none ∨ req.serverid ≠ none then pd
  else if req.rapidCommit then ((pd.bind req).map (·.sendReply sends req 7)).getD pd
  else pd.sendReply sends req 2

/-- `dhcpv6_recv_request`, which does not look at the server identifier. -/
def recvRequest : Pd :=
  if req.clientid = none ∨ req.serverid = none then pd
  else ((pd.bind req).map (·.sendReply sends req 7)).getD pd

/-- A Renew names this server and is from the client with the binding. -/
def recvRenew : Pd :=
  if req.clientid = none ∨ req.serverid ≠ some serverid ∨ pd.clientid = none ∨
    req.clientid ≠ pd.clientid then pd
  else pd.sendReply sends req 7

def recvRebind : Pd :=
  if req.clientid = none ∨ req.serverid ≠ none ∨ pd.clientid = none ∨ req.clientid ≠ pd.clientid then
    pd
  else pd.sendReply sends req 7

def recvInformationRequest : Pd := if req.rapidCommit then pd else pd.sendReply sends req 7

/-- `dhcpv6_recv_packet`, called for packets with a client identifier. -/
def recvPacket : Pd :=
  if req.clientid = none then pd
  else if req.type = 1 then recvSolicit sends pd req
  else if req.type = 3 then recvRequest sends pd req
  else if req.type = 5 then recvRenew serverid sends pd req
  else if req.type = 6 then recvRebind sends pd req
  else if req.type = 11 then recvInformationRequest sends pd req
  else pd

end Handlers

def step (serverid : List UInt8) (pd : Pd) (e : Packet × Bool) : Option Pd :=
  some (recvPacket serverid e.2 pd e.1)

/-- What an answer requires: the message's identifiers, and the client first bound to. -/
structure Answer.Valid (serverid : List UInt8) (bound : Option (List UInt8)) (a : Answer) : Prop where
  client : a.req.type = 1 ∨ a.req.type = 6 → a.req.clientid ≠ none ∧ a.req.serverid = none
  server : a.req.type = 3 ∨ a.req.type = 5 → a.req.serverid = some serverid
  bound : a.type = 7 → a.req.type = 1 ∨ a.req.type = 3 ∨ a.req.type = 5 ∨ a.req.type = 6 →
    ∃ id, a.req.clientid = some id ∧ bound = some id

def Valid (serverid : List UInt8) (pd : Pd) : Prop :=
  ∀ a ∈ pd.log, a.Valid serverid pd.bindings.head?

/-- A Request that names a server names this one. -/
def NamesServer (serverid : List UInt8) (e : Packet × Bool) : Prop :=
  e.1.type = 3 → ∀ id ∈ e.1.serverid, id = serverid

structure Inv (serverid : List UInt8) (pd : Pd) : Prop where
  valid : Valid serverid pd
  first : pd.clientid = pd.bindings.head?

section Steps

variable {serverid : List UInt8} {pd : Pd} {req : Packet} {sends : Bool} {type : UInt8}

theorem Inv.send (hi : Inv serverid pd) (ha : Answer.Valid serverid pd.bindings.head? ⟨req, type⟩) :
    Inv serverid (pd.sendReply sends req type) := by
  unfold Pd.sendReply
  split
  · refine ⟨fun a hmem => ?_, hi.first⟩
    rcases List.mem_append.1 hmem with hmem | hmem
    · exact hi.valid a hmem
    · rw [List.mem_singleton.1 hmem]
      exact ha
  · exact hi

/-- An answer behind the binding of the client. -/
theorem Inv.bound (hi : Inv serverid pd) (hc : req.clientid ≠ none)
    (ha : ∀ bound, (∃ id, req.clientid = some id ∧ bound = some id) →
      Answer.Valid serverid bound ⟨req, 7⟩) :
    Inv serverid (((pd.bind req).map (·.sendReply sends req 7)).getD pd) := by
  obtain ⟨id, hid⟩ := Option.ne_none_iff_exists'.1 hc
  have hfirst := hi.first
  unfold Pd.bind
  cases hp : pd.clientid with
  | none =>
    rw [hp] at hfirst
    have hnil : pd.bindings = [] := List.head?_eq_none_iff.1 hfirst.symm
    have hbound : Inv serverid
        { pd with clientid := req.clientid, bindings := pd.bindings ++ req.clientid.toList } := by
      refine ⟨fun a hmem => ?_, by simp [hnil]⟩
      have hv := hi.valid a hmem
      refine ⟨hv.client, hv.server, fun ht hr => ?_⟩
      -- No answer was bound to a client before.
      obtain ⟨_, -, hb⟩ := hv.bound ht hr
      simp [hnil] at hb
    exact hbound.send (ha _ ⟨id, hid, by simp [hnil, hid]⟩)
  | some id' =>
    rw [hp] at hfirst
    dsimp only
    split_ifs with hsame
    · exact hi.send (ha _ ⟨id', hsame, hfirst.symm⟩)
    · exact hi

theorem step_inv {pd' : Pd} {e : Packet × Bool} (hi : Inv serverid pd) (hn : NamesServer serverid e)
    (h : step serverid pd e = some pd') : Inv serverid pd' := by
  obtain ⟨req, sends⟩ := e
  obtain rfl := Option.some.inj h
  dsimp only
  have hsame : ¬(pd.clientid = none ∨ req.clientid ≠ pd.clientid) →
      ∃ id, req.clientid = some id ∧ pd.bindings.head? = some id := by
    intro hne
    obtain ⟨hsome, heq⟩ := not_or.1 hne
    obtain ⟨id, hid⟩ := Option.ne_none_iff_exists'.1 hsome
    exact ⟨id, (not_not.1 heq).trans hid, hi.first ▸ hid⟩
  unfold recvPacket
  split_ifs with hc h1 h3 h5 h6 h11
  · exact hi
  · unfold recvSolicit
    split_ifs with hbad hrapid
    · exact hi
    · exact hi.bound hc fun _ hb => ⟨by simp_all, by simp_all, fun _ _ => hb⟩
    · exact hi.send ⟨by simp_all, by simp_all, nofun⟩
  · unfold recvRequest
    split_ifs with hbad
    · exact hi
    · obtain ⟨id, hid⟩ := Option.ne_none_iff_exists'.1 (not_or.1 hbad).2
      exact hi.bound hc fun _ hb => ⟨by simp [h3], fun _ => hn h3 id hid ▸ hid, fun _ _ => hb⟩
  · unfold recvRenew
    split_ifs with hbad
    · exact hi
    · obtain ⟨-, hserver, hrest⟩ := (not_or.1 hbad).imp_right not_or.1
      exact hi.send ⟨by simp [h5], fun _ => not_not.1 hserver, fun _ _ => hsame hrest⟩
  · unfold recvRebind
    split_ifs with hbad
    · exact hi
    · obtain ⟨hclient, hserver, hrest⟩ := (not_or.1 hbad).imp_right not_or.1
      exact hi.send ⟨fun _ => ⟨hclient, not_not.1 hserver⟩, by simp [h6], fun _ _ => hsame hrest⟩
  · unfold recvInformationRequest
    split_ifs
    · exact hi
    · exact hi.send ⟨by simp [h11], by simp [h11], by simp [h11]⟩
  · exact hi

end Steps

/-- Only messages valid for the session are answered, if no Request names another server. -/
theorem answers_valid (serverid : List UInt8) (es : List (Packet × Bool))
    (h : ∀ e ∈ es, NamesServer serverid e) : Throughout (step serverid) (Valid serverid) {} es :=
  ((Guarded.of_forall (C := fun _ => NamesServer serverid) (fun e he _ => h e he) _).throughout
    (fun _ _ _ hi hn hs => step_inv hi hn hs)
    ⟨fun _ ha => absurd ha List.not_mem_nil, rfl⟩).mono fun _ hi => hi.valid

/-- A Request of client 1 that names the server `serverid`. -/
def requestTo (serverid : List UInt8) : Packet := ⟨[], 3, 0, [], some [1], some serverid, false⟩

theorem answers_valid_request :
    (∃ pd, run (step [9]) {} [(requestTo [9], true)] = some pd ∧ pd.log.length = 1) ∧
      Throughout (step [9]) (Valid [9]) {} [(requestTo [9], true)] :=
  ⟨⟨_, rfl, rfl⟩, answers_valid _ _ (by simp [NamesServer, requestTo])⟩

/-- A Request for server 8 is answered by server 9. -/
theorem other_server_answered :
    ∃ pd, run (step [9]) {} [(requestTo [8], true)] = some pd ∧ ¬ Valid [9] pd := by
  refine ⟨_, rfl, fun h => ?_⟩
  have hserver := (h ⟨requestTo [8], 7⟩ (by
    simp [recvPacket, recvRequest, Pd.bind, Pd.sendReply, requestTo])).server (.inl rfl)
  simp [requestTo] at hserver

end Dhcpv6
