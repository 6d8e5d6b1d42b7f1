import MicroBng.Lib.Bytes

/-!
# Tags of discovery frames

The tags of the PPPoE discovery frames of `ctrl/pppoe/pppoe.c`: the loop that reads them. A PADR is
followed up to the connection it leads to.

* `serviceName_iff`: exactly when the service name of the connection is an accepted one
-/

namespace Pppoe.Tags

open Bytes

/-- `struct pppoe_tag`. -/
structure Tag where
  type : Nat
  data : List UInt8
  deriving DecidableEq

/-- The loop over the tags: `none` if it discards the frame; it ends at an End-Of-List. -/
def readTags : Nat → List UInt8 → Option (List Tag)
  | 0, bs => if bs = [] then some [] else none
  | turns + 1, bs =>
    if bs = [] then some []
    else if bs.length < 4 ∨ bs.length < 4 + be bs 2 2 then none
    else if be bs 0 2 = 0 then some []
    else
      (readTags turns (bs.drop (4 + be bs 2 2))).map
        (⟨be bs 0 2, (bs.drop 4).take (be bs 2 2)⟩ :: ·)

/-! ## A PADR -/

/-- What is configured for the services of an interface. -/
structure ServiceConf where
  names : List (List UInt8)
  acceptAny : Bool

/-- Whether a Service-Name tag sets `service_match`. -/
def ServiceConf.matches (cf : ServiceConf) (name : List UInt8) : Bool :=
  name.isEmpty || cf.names.isEmpty || cf.names.contains name

/-- What the loop over the tags leaves in its variables. -/
structure Found where
  hostUniq : Option (List UInt8) := none
  relaySid : Option (List UInt8) := none
  acCookie : Option (List UInt8) := none
  serviceName : Option (List UInt8) := none
  tr101 : Option (List UInt8) := none
  serviceMatch : Bool := false
  pppMaxPayload : Nat := 0

def Found.note (cf : ServiceConf) (confTr101 : Bool) (f : Found) (t : Tag) : Found :=
  match t.type with
  | 0x0101 =>
    { f with serviceName := some t.data, serviceMatch := cf.matches t.data || f.serviceMatch }
  | 0x0103 => { f with hostUniq := some t.data }
  | 0x0104 => { f with acCookie := some t.data }
  | 0x0110 => { f with relaySid := some t.data }
  | 0x0105 =>
    if 4 ≤ t.data.length ∧ be t.data 0 4 = 0xde9 ∧ confTr101 then { f with tr101 := some t.data }
    else f
  | 0x0120 => if t.data.length = 2 then { f with pppMaxPayload := ofBe t.data } else f
  | _ => f

/-- What `pppoe_recv_PADR` reads besides the tags. -/
structure Env where
  shutdown : Bool
  starting : Nat
  active : Nat
  incoming : Nat
  maxStarting : Nat
  maxSessions : Nat
  testParameter : Nat
  ifname : String
  interfaces : List (String × ServiceConf)
  services : ServiceConf
  tr101 : Bool
  /-- `check_cookie` accepts the cookie. -/
  checkCookie : List UInt8 → Option (List UInt8) → Bool
  /-- The connection of a cookie, if any: whether it has a user name. -/
  conns : List UInt8 → Option Bool
  /-- `allocate_channel` gets a connection and a session id. -/
  allocates : Bool

/-- `interface_conf`, or else the settings for all interfaces. -/
def Env.conf (e : Env) : ServiceConf :=
  ((e.interfaces.find? (·.1 = e.ifname)).map Prod.snd).getD e.services

inductive Outcome
  | discarded
  | serviceNameError
  | duplicate (pads : Bool)
  | systemError
  /-- `allocate_channel` follows a null pointer. -/
  | crash
  | connected (serviceName : List UInt8)
  deriving DecidableEq

def Env.refuses (e : Env) (dest : List UInt8) (sid : Nat) : Bool :=
  e.shutdown || (e.maxStarting != 0 && e.maxStarting ≤ e.starting) ||
    (e.maxSessions != 0 && e.maxSessions ≤ e.active + e.starting) ||
    dest == List.replicate 6 0xff || sid != 0 ||
    (e.testParameter != 0 && e.testParameter ≤ e.active + e.starting)

/-- From the cookie on: everything but the choice of the service name. -/
def Env.established (e : Env) (f : Found) (cookie : List UInt8) : Outcome :=
  match e.conns (cookie.take 20) with
  | some named => .duplicate !named
  | none =>
    if e.maxStarting ≠ 0 ∧ e.maxStarting ≤ e.incoming then .discarded
    else if !e.allocates then .systemError
    else
      match f.serviceName with
      | none => .crash
      | some name => .connected name

def Env.found (e : Env) (ts : List Tag) : Found := ts.foldl (Found.note e.conf e.tr101) {}

def Env.recvPadr (e : Env) (dest : List UInt8) (sid : Nat) (bs : List UInt8) : Outcome :=
  if e.refuses dest sid then .discarded
  else
    match readTags bs.length bs with
    | none => .discarded
    | some ts =>
      match (e.found ts).acCookie with
      | none => .discarded
      | some cookie =>
        if cookie.length ≠ 24 ∨ e.checkCookie cookie (e.found ts).relaySid = false then .discarded
        else if !(e.found ts).serviceMatch && !e.conf.acceptAny then .serviceNameError
        else e.established (e.found ts) cookie

/-- Only its Service-Names can keep the frame from a connection. -/
def Env.Admits (e : Env) (dest : List UInt8) (sid : Nat) (f : Found) : Prop :=
  e.refuses dest sid = false ∧
    (∃ cookie, f.acCookie = some cookie ∧ cookie.length = 24 ∧
      e.checkCookie cookie f.relaySid = true ∧ e.conns (cookie.take 20) = none) ∧
    ¬(e.maxStarting ≠ 0 ∧ e.maxStarting ≤ e.incoming) ∧ e.allocates = true

/-- The Service-Names of tags. -/
def serviceNames (ts : List Tag) : List (List UInt8) :=
  (ts.filter (·.type = 0x0101)).map Tag.data

section Padr

variable (e : Env) (dest : List UInt8) (sid : Nat) (bs : List UInt8)

theorem note_foldl (cf : ServiceConf) (tr101 : Bool) (f : Found) (ts : List Tag) :
    (ts.foldl (Found.note cf tr101) f).serviceName = (serviceNames ts).getLast?.or f.serviceName ∧
      (ts.foldl (Found.note cf tr101) f).serviceMatch =
        ((serviceNames ts).any cf.matches || f.serviceMatch) := by
  induction ts generalizing f with
  | nil => exact ⟨rfl, rfl⟩
  | cons t ts ih =>
    obtain ⟨hname, hmatch⟩ := ih (f.note cf tr101 t)
    rw [List.foldl_cons, hname, hmatch]
    by_cases ht : t.type = 0x0101
    · have hcons : serviceNames (t :: ts) = t.data :: serviceNames ts := by simp [serviceNames, ht]
      have hnote : f.note cf tr101 t = { f with
          serviceName := some t.data, serviceMatch := cf.matches t.data || f.serviceMatch } := by
        simp [Found.note, ht]
      rw [hcons, hnote]
      refine ⟨?_, by simp [Bool.or_left_comm, Bool.or_assoc]⟩
      cases h : (serviceNames ts).getLast? <;> simp [List.getLast?_cons, h]
    · have hcons : serviceNames (t :: ts) = serviceNames ts := by simp [serviceNames, ht]
      have hnote : (f.note cf tr101 t).serviceName = f.serviceName ∧
          (f.note cf tr101 t).serviceMatch = f.serviceMatch := by
        unfold Found.note
        split <;> try split
        all_goals first | exact ⟨rfl, rfl⟩ | contradiction
      rw [hcons, hnote.1, hnote.2]
      exact ⟨rfl, rfl⟩

theorem recvPadr_connected {name : List UInt8} :
    e.recvPadr dest sid bs = .connected name ↔ ∃ ts, readTags bs.length bs = some ts ∧
      e.Admits dest sid (e.found ts) ∧ ((e.found ts).serviceMatch = true ∨ e.conf.acceptAny = true) ∧
      (e.found ts).serviceName = some name := by
  have hestablished : ∀ f cookie, e.established f cookie = .connected name ↔
      e.conns (cookie.take 20) = none ∧ ¬(e.maxStarting ≠ 0 ∧ e.maxStarting ≤ e.incoming) ∧
        e.allocates = true ∧ f.serviceName = some name := by
    intro f cookie
    unfold Env.established
    repeat' split
    all_goals simp_all
  unfold Env.recvPadr Env.Admits
  cases hrefuse : e.refuses dest sid with
  | true => simp
  | false =>
    cases readTags bs.length bs with
    | none => simp
    | some ts =>
      cases hcookie : (e.found ts).acCookie with
      | none => simp [hcookie]
      | some cookie =>
        simp only [hcookie, Bool.false_eq_true, if_false, Option.some.injEq, exists_eq_left']
        by_cases hok : cookie.length ≠ 24 ∨ e.checkCookie cookie (e.found ts).relaySid = false
        · rw [if_pos hok]
          simp only [reduceCtorEq, false_iff]
          rintro ⟨⟨-, ⟨hlen, hcheck, -⟩, -⟩, -⟩
          simp_all
        · cases hm : (e.found ts).serviceMatch <;> cases ha : e.conf.acceptAny <;>
            simp_all [and_assoc]

/-- The service name of a PADR's connection is an accepted one, exactly if the last Service-Name of
the frame is accepted whenever one of them is. -/
theorem serviceName_iff :
    (∀ name, e.recvPadr dest sid bs = .connected name →
      ∃ ts, readTags bs.length bs = some ts ∧ name ∈ serviceNames ts ∧
        (name = [] ∨ name ∈ e.conf.names ∨ e.conf.names = [] ∨ e.conf.acceptAny = true)) ↔
    ∀ ts, readTags bs.length bs = some ts → e.Admits dest sid (e.found ts) →
      e.conf.acceptAny = true ∨ ∀ name ∈ (serviceNames ts).getLast?,
        (∃ other ∈ serviceNames ts, e.conf.matches other = true) → e.conf.matches name = true := by
  have hmatches : ∀ name, e.conf.matches name = true ↔
      name = [] ∨ name ∈ e.conf.names ∨ e.conf.names = [] := by
    simp only [ServiceConf.matches, Bool.or_eq_true, List.isEmpty_iff, List.contains_iff_mem]
    tauto
  have hname : ∀ ts, (e.found ts).serviceName = (serviceNames ts).getLast? := fun ts => by
    rw [Env.found, (note_foldl e.conf e.tr101 {} ts).1, Option.or_none]
  have hmatch : ∀ ts, (e.found ts).serviceMatch = true ↔
      ∃ other ∈ serviceNames ts, e.conf.matches other = true := fun ts => by
    rw [Env.found, (note_foldl e.conf e.tr101 {} ts).2]
    simp
  simp only [recvPadr_connected, hname, hmatch, hmatches]
  constructor
  · intro h ts hts hadmits
    rw [or_iff_not_imp_left]
    intro hany name hlast hother
    obtain ⟨-, -, -, hok⟩ := h name ⟨ts, hts, hadmits, .inl hother, hlast⟩
    tauto
  · rintro h name ⟨ts, hts, hadmits, hor, hlast⟩
    refine ⟨ts, hts, List.mem_of_getLast? hlast, ?_⟩
    by_cases hany : e.conf.acceptAny = true
    · exact .inr (.inr (.inr hany))
    · have hok := (h ts hts hadmits).resolve_left hany name hlast (hor.resolve_right hany)
      tauto

/-- The first Service-Name is configured, the second one is not. -/
theorem second_serviceName :
    let e : Env := ⟨false, 0, 0, 0, 0, 0, 0, "eth0", [], ⟨[[65]], false⟩, false, fun _ _ => true,
      fun _ => none, true⟩
    e.recvPadr [2, 0, 0, 0, 0, 1] 0
      ([1, 1, 0, 1, 65, 1, 1, 0, 1, 66, 1, 4, 0, 24] ++ List.replicate 24 0) = .connected [66] ∧
      [66] ∉ e.conf.names ∧ e.conf.acceptAny = false := by
  decide

end Padr

end Pppoe.Tags
