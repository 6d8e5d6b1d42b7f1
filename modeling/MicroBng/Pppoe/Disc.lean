import Mathlib.Algebra.Ring.Int.Defs
import Mathlib.Data.List.Nodup
import MicroBng.Lib.Machine
import MicroBng.Lib.Rbtree

/-!
# The servers of the interfaces

`ctrl/pppoe/disc.c` has a table for discovery frames and one for session frames, and finds the
server of a frame by the index of the interface: the low 16 bits choose a red-black tree and the
whole index a node in it. `__pppoe_server_start` puts the server into a tree of each. A server has
only one node, so the second insertion writes over the links of the first. Where two indexes have
the same low 16 bits it finds the server that is to be inserted, below the other one, and fails.

A server is freed when its last connection is gone; until then it stays in `serv_list` and its
interface cannot be started again. The memory of a freed server keeps its contents here. Starts
and stops are single steps. The end of a namespace and the shutdown are left out.

* `serverStart_inv`, `dispatch_iff`: every frame reaches the server of its interface exactly if there
  is no such start, nor one without a session socket
-/

namespace Pppoe.Disc

open Machine Rbtree

/-! ## State -/

/-- The interfaces, with their namespaces and indexes. -/
structure Ifaces (I W : Type*) where
  net : I → W
  ifindex : I → Int
  ifindex_lt : ∀ i, -2 ^ 31 ≤ ifindex i ∧ ifindex i < 2 ^ 31
  ifindex_inj : ∀ i j, ifindex i = ifindex j → i = j

variable {I W : Type*}

/-- `ifindex & HASH_BITS`. -/
def bucket (ifindex : Int) : Nat := (ifindex % 65536).toNat

/-- The servers by number, their nodes, the tables and `serv_list`. `duplicate`: a start failed so;
`broken`: a null pointer was followed or a walk did not end. -/
structure State (I W : Type*) where
  mem : Nat → Node Nat
  iface : Nat → Option I
  fresh : Nat
  discNet : Option W
  sesNet : Option W
  disc : Nat → Option Nat
  ses : Nat → Option Nat
  servList : List Nat
  stopping : Nat → Bool
  duplicate : Bool
  broken : Bool

def State.init : State I W where
  mem _ := Node.single
  iface _ := none
  fresh := 0
  discNet := none
  sesNet := none
  disc _ := none
  ses _ := none
  servList := []
  stopping _ := false
  duplicate := false
  broken := false

inductive Table
  | disc | ses

def State.roots (s : State I W) : Table → Nat → Option Nat
  | .disc => s.disc
  | .ses => s.ses

def State.net (s : State I W) : Table → Option W
  | .disc => s.discNet
  | .ses => s.sesNet

variable (g : Ifaces I W)

/-- `serv->ifindex`. -/
def State.key (s : State I W) (k : Nat) : Int :=
  match s.iface k with
  | some i => g.ifindex i
  | none => 0

def State.fuel (s : State I W) : Nat := s.fresh + 2

def State.tree (s : State I W) (tb : Table) (ifindex : Int) : RbTree Nat :=
  ⟨s.mem, s.roots tb (bucket ifindex)⟩

def State.setTree (s : State I W) (tb : Table) (ifindex : Int) (t : RbTree Nat) : State I W :=
  match tb with
  | .disc => { s with mem := t.mem, disc := Function.update s.disc (bucket ifindex) t.root }
  | .ses => { s with mem := t.mem, ses := Function.update s.ses (bucket ifindex) t.root }

def State.setNet (s : State I W) (tb : Table) (net : W) : State I W :=
  match tb with
  | .disc => { s with discNet := some net }
  | .ses => { s with sesNet := some net }

/-- The walk of `forward` and `forward_ppp`: the server of an index. -/
def lookup (s : State I W) (tb : Table) (ifindex : Int) : Option (Option Nat) :=
  ((s.tree tb ifindex).descend (s.key g) ifindex s.fuel (s.tree tb ifindex).root none).map
    fun place =>
      match place with
      | .found k => some k
      | .absent _ => none

/-! ## Starting and stopping -/

/-- What `pppoe_disc_start` and `pppoe_ppp_ses_start` come to. -/
inductive Outcome (I W : Type*)
  | ok (s : State I W)
  | failed (s : State I W)
  | duplicate (s : State I W)
  | broken

/-- `find_net` and `init_net`: one namespace has a table; `socket`: `init_net` succeeds. -/
def openNet [DecidableEq W] (s : State I W) (tb : Table) (net : W) (socket : Bool) :
    Option (State I W) :=
  match s.net tb with
  | some w => if w = net then some s else none
  | none => if socket then some (s.setNet tb net) else none

/-- `pppoe_disc_start` and `pppoe_ppp_ses_start` of the server `k`. -/
def tableStart [DecidableEq W] (g : Ifaces I W) (tb : Table) (i : I) (k : Nat) (socket : Bool)
    (s : State I W) : Outcome I W :=
  match openNet s tb (g.net i) socket with
  | none => .failed s
  | some s =>
    let t := s.tree tb (g.ifindex i)
    match t.descend (s.key g) (g.ifindex i) s.fuel t.root none with
    | none => .broken
    | some (.found _) => .duplicate s
    | some (.absent slot) =>
      match (t.linkNode k slot).insertColor s.fuel k with
      | none => .broken
      | some t => .ok (s.setTree tb (g.ifindex i) t)

/-- `pppoe_disc_stop` and `pppoe_ppp_ses_stop`. -/
def tableStop [DecidableEq W] (g : Ifaces I W) (tb : Table) (i : I) (k : Nat) (s : State I W) :
    Option (State I W) :=
  if s.net tb = some (g.net i) then
    ((s.tree tb (g.ifindex i)).erase s.fuel k).map fun t => s.setTree tb (g.ifindex i) t
  else some s

def Outcome.finish : Outcome I W → State I W → State I W
  | .ok s, _ => s
  | .failed s, _ => s
  | .duplicate s, _ => { s with duplicate := true }
  | .broken, s => { s with broken := true }

def State.alloc (s : State I W) (i : I) : State I W :=
  { s with
    iface := Function.update s.iface s.fresh (some i)
    stopping := Function.update s.stopping s.fresh false
    fresh := s.fresh + 1 }

def serverStart [DecidableEq I] [DecidableEq W] (g : Ifaces I W) (i : I)
    (discSocket sesSocket : Bool) (s : State I W) : State I W :=
  if s.servList.any fun k => s.iface k = some i then s
  else
    let k := s.fresh
    let s := s.alloc i
    match tableStart g .disc i k discSocket s with
    | .ok s =>
      match tableStart g .ses i k sesSocket s with
      | .ok s => { s with servList := s.servList ++ [k] }
      | out => out.finish s
    | out => out.finish s

/-- The server of an interface, as `pppoe_server_stop` finds it. -/
def findServ [DecidableEq I] (s : State I W) (i : I) : Option Nat :=
  s.servList.find? fun k => s.iface k = some i

def serverFree (k : Nat) (s : State I W) : State I W := { s with servList := s.servList.erase k }

/-- `_server_stop`; `idle` says that the server has no connection. -/
def serverStop [DecidableEq W] (g : Ifaces I W) (i : I) (k : Nat) (idle : Bool) (s : State I W) :
    State I W :=
  if s.stopping k then s
  else
    let s := { s with stopping := Function.update s.stopping k true }
    match (tableStop g .disc i k s).bind (tableStop g .ses i k) with
    | none => { s with broken := true }
    | some s => if idle then serverFree k s else s

inductive Event (I : Type*)
  | start (i : I) (discSocket sesSocket : Bool)
  | stop (i : I) (idle : Bool)
  /-- The last connection of a server that is stopping is gone. -/
  | free (i : I)

def step [DecidableEq I] [DecidableEq W] (g : Ifaces I W) (s : State I W) :
    Event I → Option (State I W)
  | .start i discSocket sesSocket => some (serverStart g i discSocket sesSocket s)
  | .stop i idle => (findServ s i).map fun k => serverStop g i k idle s
  | .free i =>
    match findServ s i with
    | some k => if s.stopping k then some (serverFree k s) else none
    | none => none

/-! ## Every frame reaches its server -/

def Running (s : State I W) (k : Nat) : Prop := k ∈ s.servList ∧ s.stopping k = false

/-- No start has failed as a duplicate, and both tables have for every index just the running server
with it. -/
structure Dispatch (g : Ifaces I W) (s : State I W) : Prop where
  noDuplicate : s.duplicate = false
  sound : s.broken = false
  finds : ∀ tb ifindex, ∃ r, lookup g s tb ifindex = some r ∧
    ∀ k, r = some k ↔ Running s k ∧ s.key g k = ifindex

/-- The interface is started: it has no server yet, and its discovery socket is there. -/
def Starts (s : State I W) (i : I) (discSocket : Bool) : Prop :=
  (∀ k ∈ s.servList, s.iface k ≠ some i) ∧
    (s.discNet = some (g.net i) ∨ s.discNet = none ∧ discSocket = true)

/-- No running server's index has the low 16 bits of the started interface's, and the session socket
is there. -/
def NoCollision (s : State I W) : Event I → Prop
  | .start i discSocket sesSocket => Starts g s i discSocket →
      (∀ k, Running s k → bucket (s.key g k) ≠ bucket (g.ifindex i)) ∧
        (s.sesNet = some (g.net i) ∨ s.sesNet = none ∧ sesSocket = true)
  | _ => True

/-! ## The invariant -/

section Invariant

variable {g : Ifaces I W} {s s' : State I W} {i : I} {k k' : Nat}

/-- Every tree has at most one node, which is that of the running server, in both tables. -/
structure Inv (g : Ifaces I W) (s : State I W) : Prop where
  noDuplicate : s.duplicate = false
  sound : s.broken = false
  listed : ∀ k ∈ s.servList, k < s.fresh ∧ ∃ i, s.iface k = some i
  nodup : s.servList.Nodup
  apart : ∀ k ∈ s.servList, ∀ k' ∈ s.servList, s.iface k = s.iface k' → k = k'
  same : ∀ b, s.ses b = s.disc b
  single : ∀ b k, s.disc b = some k → Running s k ∧ bucket (s.key g k) = b ∧ s.mem k = Node.single
  linked : ∀ k, Running s k → s.disc (bucket (s.key g k)) = some k
  nets : ∀ k i, Running s k → s.iface k = some i →
    s.discNet = some (g.net i) ∧ s.sesNet = some (g.net i)

theorem Inv.roots (hi : Inv g s) (tb : Table) (b : Nat) : s.roots tb b = s.disc b := by
  cases tb with
  | disc => rfl
  | ses => exact hi.same b

theorem key_of_iface (h : s.iface k = some i) : s.key g k = g.ifindex i := by
  rw [State.key, h]

theorem Inv.dispatch (hi : Inv g s) : Dispatch g s := by
  refine ⟨hi.noDuplicate, hi.sound, fun tb x => ?_⟩
  have hroot : (s.tree tb x).root = s.disc (bucket x) := hi.roots tb _
  unfold lookup
  rw [hroot]
  cases hb : s.disc (bucket x) with
  | none =>
    refine ⟨none, rfl, fun k => ⟨nofun, ?_⟩⟩
    rintro ⟨hrun, rfl⟩
    exact nomatch hb.symm.trans (hi.linked k hrun)
  | some k0 =>
    obtain ⟨hrun, hbucket, hmem⟩ := hi.single _ k0 hb
    have hdescend : (s.tree tb x).descend (s.key g) x s.fuel (some k0) none = _ :=
      descend_single hmem
    rw [hdescend]
    by_cases hx : x = s.key g k0
    · rw [if_pos hx]
      refine ⟨some k0, rfl, fun k => ⟨?_, ?_⟩⟩
      · rintro h
        cases h
        exact ⟨hrun, hx.symm⟩
      · rintro ⟨hk, rfl⟩
        exact hb.symm.trans (hi.linked k hk)
    · rw [if_neg hx]
      refine ⟨none, rfl, fun k => ⟨nofun, ?_⟩⟩
      rintro ⟨hk, rfl⟩
      cases hb.symm.trans (hi.linked k hk)
      exact absurd rfl hx

theorem init_inv (g : Ifaces I W) : Inv g State.init where
  noDuplicate := rfl
  sound := rfl
  listed _ h := nomatch h
  nodup := List.nodup_nil
  apart _ h := nomatch h
  same _ := rfl
  single _ _ h := nomatch h
  linked _ h := nomatch h.1
  nets _ _ h := nomatch h.1

end Invariant

/-! ## Starting -/

section Start

variable {g : Ifaces I W} {s s' : State I W} {i : I} {k k0 : Nat} {tb : Table}

theorem alloc_key_self (s : State I W) (i : I) : (s.alloc i).key g s.fresh = g.ifindex i :=
  key_of_iface (by simp [State.alloc])

theorem alloc_key_of_ne (h : k ≠ s.fresh) : (s.alloc i).key g k = s.key g k := by
  simp_all [State.alloc, State.key]

theorem Inv.ne_fresh (hi : Inv g s) (h : k ∈ s.servList) : k ≠ s.fresh :=
  Nat.ne_of_lt (hi.listed k h).1

theorem alloc_running (hi : Inv g s) : Running (s.alloc i) k ↔ Running s k := by
  refine and_congr_right fun h => ?_
  simp_all [hi.ne_fresh, State.alloc]

theorem alloc_inv (hi : Inv g s) (i : I) : Inv g (s.alloc i) := by
  have hiface : ∀ k ∈ s.servList, (s.alloc i).iface k = s.iface k := fun k h => by
    have hne := hi.ne_fresh h
    simp [State.alloc, hne]
  constructor
  case noDuplicate => exact hi.noDuplicate
  case sound => exact hi.sound
  case listed =>
    intro k h
    rw [hiface k h]
    exact ⟨Nat.lt_succ_of_lt (hi.listed k h).1, (hi.listed k h).2⟩
  case nodup => exact hi.nodup
  case apart =>
    intro k h k' h' heq
    rw [hiface k h, hiface k' h'] at heq
    exact hi.apart k h k' h' heq
  case same => exact hi.same
  case single =>
    intro b k h
    obtain ⟨hrun, hb, hmem⟩ := hi.single b k h
    rw [alloc_running hi, alloc_key_of_ne (hi.ne_fresh hrun.1)]
    exact ⟨hrun, hb, hmem⟩
  case linked =>
    intro k h
    rw [alloc_running hi] at h
    rw [alloc_key_of_ne (hi.ne_fresh h.1)]
    exact hi.linked k h
  case nets =>
    intro k j h hj
    rw [alloc_running hi] at h
    rw [hiface k h.1] at hj
    exact hi.nets k j h hj

def State.started (s : State I W) (g : Ifaces I W) (i : I) : State I W :=
  { s.alloc i with
    mem := Function.update s.mem s.fresh Node.single
    discNet := some (g.net i)
    sesNet := some (g.net i)
    disc := Function.update s.disc (bucket (g.ifindex i)) (some s.fresh)
    ses := Function.update s.ses (bucket (g.ifindex i)) (some s.fresh)
    servList := s.servList ++ [s.fresh] }

theorem started_running (hi : Inv g s) : Running (s.started g i) k ↔ Running s k ∨ k = s.fresh := by
  have hstop : (s.started g i).stopping k = (s.alloc i).stopping k := rfl
  constructor
  · rintro ⟨hmem, hk⟩
    rcases List.mem_append.1 hmem with hmem | hmem
    · exact .inl ((alloc_running (i := i) hi).1 ⟨hmem, hk⟩)
    · exact .inr (List.mem_singleton.1 hmem)
  · rintro (hk | rfl)
    · obtain ⟨hmem, hk⟩ := (alloc_running (i := i) hi).2 hk
      exact ⟨List.mem_append_left _ hmem, hk⟩
    · refine ⟨List.mem_append_right _ (List.mem_singleton_self _), ?_⟩
      rw [hstop]
      simp [State.alloc]

theorem started_inv (hi : Inv g s) (hnew : ∀ k ∈ s.servList, s.iface k ≠ some i)
    (hempty : s.disc (bucket (g.ifindex i)) = none)
    (hdisc : s.discNet = some (g.net i) ∨ s.discNet = none) : Inv g (s.started g i) := by
  have hnet : ∀ k j, Running s k → s.iface k = some j → g.net j = g.net i := by
    intro k j hk hj
    obtain ⟨hd, -⟩ := hi.nets k j hk hj
    simp_all
  have hself : (s.started g i).key g s.fresh = g.ifindex i := alloc_key_self s i
  have hkey : ∀ k, k ≠ s.fresh → (s.started g i).key g k = s.key g k := fun k hk =>
    alloc_key_of_ne hk
  have hiface : ∀ k, k ≠ s.fresh → (s.started g i).iface k = s.iface k := fun k hk => by
    simp [State.started, State.alloc, hk]
  have hifself : (s.started g i).iface s.fresh = some i := by simp [State.started, State.alloc]
  have hdiscAt : ∀ b, (s.started g i).disc b =
      if b = bucket (g.ifindex i) then some s.fresh else s.disc b := fun b => by
    by_cases hb : b = bucket (g.ifindex i)
    · simp [State.started, hb]
    · simp [State.started, hb]
  constructor
  case noDuplicate => exact hi.noDuplicate
  case sound => exact hi.sound
  case listed =>
    intro k hk
    rcases List.mem_append.1 hk with hk | hk
    · rw [hiface k (hi.ne_fresh hk)]
      exact ⟨Nat.lt_succ_of_lt (hi.listed k hk).1, (hi.listed k hk).2⟩
    · cases List.mem_singleton.1 hk
      exact ⟨Nat.lt_succ_self _, i, hifself⟩
  case nodup =>
    refine List.nodup_append.2 ⟨hi.nodup, List.nodup_singleton _, fun a ha b hb => ?_⟩
    rw [List.mem_singleton.1 hb]
    exact hi.ne_fresh ha
  case apart =>
    intro k hk k' hk' heq
    rcases List.mem_append.1 hk with hk | hk <;> rcases List.mem_append.1 hk' with hk' | hk'
    · grind [hi.apart]
    · simp_all [hi.ne_fresh]
    · grind
    simp_all
  case same =>
    intro b
    have hsesAt : (s.started g i).ses b =
        if b = bucket (g.ifindex i) then some s.fresh else s.ses b := by
      by_cases hb : b = bucket (g.ifindex i)
      · simp [State.started, hb]
      · simp [State.started, hb]
    rw [hsesAt, hdiscAt, hi.same]
  case single =>
    intro b k hk
    rw [hdiscAt] at hk
    split at hk
    · next hb =>
      cases hk
      refine ⟨(started_running hi).2 (.inr rfl), by rw [hself, hb], ?_⟩
      simp [State.started]
    · obtain ⟨hrun, hbucket, hmem⟩ := hi.single b k hk
      have hne := hi.ne_fresh hrun.1
      refine ⟨(started_running hi).2 (.inl hrun), by rw [hkey k hne]; exact hbucket, ?_⟩
      simpa [State.started, hne] using hmem
  case linked => grind [started_running, hi.linked]
  case nets =>
    intro k j hk hj
    rcases (started_running hi).1 hk with hrun | rfl
    · rw [hiface k (hi.ne_fresh hrun.1)] at hj
      rw [hnet k j hrun hj]
      exact ⟨rfl, rfl⟩
    · cases hifself.symm.trans hj
      exact ⟨rfl, rfl⟩

theorem not_dispatch_of_lookup (tb : Table) (x : Int) (h : lookup g s tb x = some (some k))
    (hk : k ∉ s.servList) : ¬ Dispatch g s := by
  intro hd
  obtain ⟨r, hr, hiff⟩ := hd.finds tb x
  cases h.symm.trans hr
  exact hk ((hiff k).1 rfl).1.1

variable [DecidableEq W]

variable {w : W} {socket : Bool}

theorem openNet_isSome (s : State I W) (tb : Table) :
    (∃ s', openNet s tb w socket = some s') ↔
      s.net tb = some w ∨ s.net tb = none ∧ socket = true := by
  unfold openNet
  cases h : s.net tb with
  | none =>
    cases socket with
    | true | false => simp
  | some w' =>
    by_cases hw : w' = w
    · simp
    · simp

theorem openNet_eq (h : openNet s tb w socket = some s') : s' = s.setNet tb w := by
  unfold openNet at h
  cases hn : s.net tb with
  | none =>
    rw [hn] at h
    exact (of_enabled_if h).2.symm
  | some w' =>
    rw [hn] at h
    obtain ⟨rfl, rfl⟩ := of_enabled_if h
    cases tb with
    | disc =>
      change s.discNet = _ at hn
      show s = { s with discNet := _ }
      rw [← hn]
    | ses =>
      change s.sesNet = _ at hn
      show s = { s with sesNet := _ }
      rw [← hn]

theorem tableStart_empty (hopen : openNet s tb (g.net i) socket = some s')
    (hroot : s'.roots tb (bucket (g.ifindex i)) = none) :
    tableStart g tb i k socket s =
      .ok (s'.setTree tb (g.ifindex i) ⟨Function.update s'.mem k Node.single, some k⟩) := by
  have hdescend : (s'.tree tb (g.ifindex i)).descend (s'.key g) (g.ifindex i) s'.fuel
      (s'.tree tb (g.ifindex i)).root none = some (.absent none) := by
    rw [State.tree, hroot]
    exact descend_empty
  have hinsert : ((s'.tree tb (g.ifindex i)).linkNode k none).insertColor s'.fuel k =
      some ⟨Function.update s'.mem k Node.single, some k⟩ := insert_empty
  simp_all [tableStart]

theorem tableStart_occupied (hopen : openNet s tb (g.net i) socket = some s')
    (hroot : s'.roots tb (bucket (g.ifindex i)) = some k0) (hmem : s'.mem k0 = Node.single)
    (hkey : g.ifindex i ≠ s'.key g k0) (hne : k0 ≠ k) :
    ∃ t, tableStart g tb i k socket s = .ok (s'.setTree tb (g.ifindex i) t) ∧ t.root = some k0 ∧
      (t.mem k0).child (if g.ifindex i < s'.key g k0 then .left else .right) = some k := by
  have hdescend : (s'.tree tb (g.ifindex i)).descend (s'.key g) (g.ifindex i) s'.fuel
      (s'.tree tb (g.ifindex i)).root none =
      some (.absent (some (k0, if g.ifindex i < s'.key g k0 then .left else .right))) := by
    have hsingle : (s'.tree tb (g.ifindex i)).descend (s'.key g) (g.ifindex i) s'.fuel
        (some k0) none = _ := descend_single hmem
    have htree : (s'.tree tb (g.ifindex i)).root = some k0 := hroot
    rw [htree, hsingle, if_neg hkey]
  obtain ⟨t, hinsert, htroot, hchild⟩ := insert_below (t := s'.tree tb (g.ifindex i)) (k := k)
    (d := if g.ifindex i < s'.key g k0 then .left else .right) hne hroot
    (congrArg Node.black hmem)
  refine ⟨t, ?_, htroot, hchild⟩
  unfold tableStart
  rw [hopen]
  dsimp only
  rw [hdescend]
  dsimp only
  rw [State.fuel, hinsert]

theorem tableStart_found (hopen : openNet s tb (g.net i) socket = some s')
    (hroot : s'.roots tb (bucket (g.ifindex i)) = some k0) (hself : s'.key g k = g.ifindex i)
    (hkey : g.ifindex i ≠ s'.key g k0)
    (hchild : (s'.mem k0).child (if g.ifindex i < s'.key g k0 then .left else .right) = some k) :
    tableStart g tb i k socket s = .duplicate s' := by
  have hbelow : (s'.tree tb (g.ifindex i)).descend (s'.key g) (s'.key g k) s'.fuel (some k0) none =
      some (.found k) := descend_below (by rw [hself]; exact hkey) (by rw [hself]; exact hchild)
  have htree : (s'.tree tb (g.ifindex i)).root = some k0 := hroot
  simp_all [tableStart]

theorem openNet_eq_none
    (h : ¬ (s.net tb = some w ∨ s.net tb = none ∧ socket = true)) :
    openNet s tb w socket = none :=
  Option.eq_none_iff_forall_ne_some.2 fun s' h' => h ((openNet_isSome s tb).1 ⟨s', h'⟩)

variable [DecidableEq I] {d e : Bool}

theorem serverStart_new (hnew : ∀ k ∈ s.servList, s.iface k ≠ some i) :
    serverStart g i d e s =
      match tableStart g .disc i s.fresh d (s.alloc i) with
      | .ok s1 =>
        match tableStart g .ses i s.fresh e s1 with
        | .ok s2 => { s2 with servList := s2.servList ++ [s.fresh] }
        | out => out.finish s1
      | out => out.finish (s.alloc i) := by
  have hany : ¬ (s.servList.any fun k => s.iface k = some i) = true := fun h => by
    obtain ⟨k, hk, hiface⟩ := List.any_eq_true.1 h
    exact hnew k hk (of_decide_eq_true hiface)
  unfold serverStart
  rw [if_neg hany]

theorem serverStart_empty (hi : Inv g s) (hs : Starts g s i d)
    (hroot : s.disc (bucket (g.ifindex i)) = none) :
    (s.sesNet = some (g.net i) ∨ s.sesNet = none ∧ e = true → Inv g (serverStart g i d e s)) ∧
      (¬ (s.sesNet = some (g.net i) ∨ s.sesNet = none ∧ e = true) →
        ¬ Dispatch g (serverStart g i d e s)) := by
  obtain ⟨s1, hs1⟩ := (openNet_isSome (s.alloc i) .disc).2 hs.2
  have hdisc := tableStart_empty (k := s.fresh) hs1 (by rw [openNet_eq hs1]; exact hroot)
  have hsesroot : s.ses (bucket (g.ifindex i)) = none := (hi.same _).trans hroot
  cases openNet_eq hs1
  rw [serverStart_new hs.1, hdisc]
  dsimp only
  generalize hs2 : State.setTree ((s.alloc i).setNet .disc (g.net i)) .disc (g.ifindex i)
    ⟨Function.update ((s.alloc i).setNet .disc (g.net i)).mem s.fresh Node.single, some s.fresh⟩ = s2
  have hnet : s2.net .ses = s.sesNet := by subst hs2; rfl
  constructor
  · intro hses
    rw [← hnet] at hses
    obtain ⟨s3, hs3⟩ := (openNet_isSome s2 .ses).2 hses
    have hroot2 : s3.roots .ses (bucket (g.ifindex i)) = none := by
      rw [openNet_eq hs3, ← hs2]
      exact hsesroot
    rw [tableStart_empty hs3 hroot2]
    have hinv := started_inv hi hs.1 hroot (hs.2.imp_right And.left)
    cases openNet_eq hs3
    subst hs2
    have heq : Function.update s.mem s.fresh Node.single =
        Function.update (Function.update s.mem s.fresh Node.single) s.fresh Node.single :=
      (Function.update_idem _ _ _).symm
    unfold State.started at hinv
    rw [heq] at hinv
    exact hinv
  · intro hses
    rw [← hnet] at hses
    have hstart : tableStart g .ses i s.fresh e s2 = .failed s2 := by
      rw [tableStart, openNet_eq_none hses]
    rw [hstart]
    show ¬ Dispatch g s2
    -- The server is freed, but it is in the discovery tree.
    have hfresh : s.fresh ∉ s2.servList := by
      subst hs2
      exact fun h => hi.ne_fresh h rfl
    have hmem : s2.mem s.fresh = Node.single := by
      subst hs2
      exact Function.update_self _ _ _
    have htree : (s2.tree .disc (g.ifindex i)).root = some s.fresh := by
      subst hs2
      exact Function.update_self _ _ _
    have hkey : s2.key g s.fresh = g.ifindex i := by
      subst hs2
      exact alloc_key_self s i
    have hdescend : (s2.tree .disc (g.ifindex i)).descend (s2.key g) (g.ifindex i) s2.fuel
        (some s.fresh) none = _ := descend_single hmem
    refine not_dispatch_of_lookup .disc (g.ifindex i) ?_ hfresh
    rw [lookup, htree, hdescend, if_pos hkey.symm]
    rfl

theorem serverStart_occupied (hi : Inv g s) (hs : Starts g s i d) {k0 : Nat}
    (hroot : s.disc (bucket (g.ifindex i)) = some k0) : ¬ Dispatch g (serverStart g i d e s) := by
  obtain ⟨s1, hs1⟩ := (openNet_isSome (s.alloc i) .disc).2 hs.2
  obtain ⟨hrun, -, hmem⟩ := hi.single _ k0 hroot
  have hne := hi.ne_fresh hrun.1
  obtain ⟨j, hj⟩ := (hi.listed k0 hrun.1).2
  have hkey0 : ∀ s' : State I W, s'.iface = (s.alloc i).iface → s'.key g k0 = g.ifindex j := by
    simp_all [key_of_iface, State.alloc]
  have hkey : g.ifindex i ≠ g.ifindex j := fun h => hs.1 k0 hrun.1 (by rw [hj, g.ifindex_inj i j h])
  cases openNet_eq hs1
  have h1 := hkey0 ((s.alloc i).setNet .disc (g.net i)) rfl
  obtain ⟨t, hdisc, htroot, hchild⟩ := tableStart_occupied (k := s.fresh) hs1 hroot hmem
    (by rw [h1]; exact hkey) hne
  rw [h1] at hchild
  rw [serverStart_new hs.1, hdisc]
  dsimp only
  generalize hs2 : State.setTree ((s.alloc i).setNet .disc (g.net i)) .disc (g.ifindex i) t = s2
  have h2 : s2.key g k0 = g.ifindex j := hkey0 s2 (by subst hs2; rfl)
  have hself : s2.key g s.fresh = g.ifindex i := by
    subst hs2
    exact alloc_key_self s i
  have hmem2 : s2.mem = t.mem := by subst hs2; rfl
  by_cases hses : s2.net .ses = some (g.net i) ∨ s2.net .ses = none ∧ e = true
  · -- The second insertion finds the server below the other one.
    obtain ⟨s3, hs3⟩ := (openNet_isSome s2 .ses).2 hses
    cases openNet_eq hs3
    have hroot2 : (s2.setNet .ses (g.net i)).roots .ses (bucket (g.ifindex i)) = some k0 := by
      subst hs2
      exact (hi.same _).trans hroot
    have hdup := tableStart_found (k := s.fresh) hs3 hroot2 hself
      (by rw [show (s2.setNet .ses (g.net i)).key g k0 = _ from h2]; exact hkey)
      (by
        rw [show (s2.setNet .ses (g.net i)).key g k0 = _ from h2,
          show (s2.setNet .ses (g.net i)).mem = _ from hmem2]
        exact hchild)
    rw [hdup]
    exact fun hd => nomatch hd.noDuplicate
  · have hstart : tableStart g .ses i s.fresh e s2 = .failed s2 := by
      rw [tableStart, openNet_eq_none hses]
    rw [hstart]
    show ¬ Dispatch g s2
    have hfresh : s.fresh ∉ s2.servList := by
      subst hs2
      exact fun h => hi.ne_fresh h rfl
    have htree : (s2.tree .disc (g.ifindex i)).root = some k0 := by
      subst hs2
      exact (Function.update_self _ _ _).trans htroot
    have hdescend : (s2.tree .disc (g.ifindex i)).descend (s2.key g) (s2.key g s.fresh) s2.fuel
        (some k0) none = some (.found s.fresh) :=
      descend_below (by rw [hself, h2]; exact hkey)
        (by rw [hself, h2, show (s2.tree .disc (g.ifindex i)).mem = _ from hmem2]; exact hchild)
    rw [hself] at hdescend
    refine not_dispatch_of_lookup .disc (g.ifindex i) ?_ hfresh
    rw [lookup, htree, hdescend]
    rfl

/-- **A start** keeps the invariant if the condition holds; otherwise a table is wrong. -/
theorem serverStart_inv (hi : Inv g s) :
    (NoCollision g s (.start i d e) → Inv g (serverStart g i d e s)) ∧
      (¬ NoCollision g s (.start i d e) → ¬ Dispatch g (serverStart g i d e s)) := by
  by_cases hs : Starts g s i d
  case neg =>
    have hc : NoCollision g s (.start i d e) := fun h => absurd h hs
    refine ⟨fun _ => ?_, fun h => absurd hc h⟩
    by_cases hnew : ∀ k ∈ s.servList, s.iface k ≠ some i
    · -- There is no discovery socket, and nothing was linked.
      have hnone : openNet (s.alloc i) .disc (g.net i) d = none :=
        openNet_eq_none fun h => hs ⟨hnew, h⟩
      have hstart : tableStart g .disc i s.fresh d (s.alloc i) = .failed (s.alloc i) := by
        rw [tableStart, hnone]
      rw [serverStart_new hnew, hstart]
      exact alloc_inv hi i
    · simp only [not_forall, not_not] at hnew
      obtain ⟨k, hk, hiface⟩ := hnew
      unfold serverStart
      rw [if_pos (List.any_eq_true.2 ⟨k, hk, decide_eq_true hiface⟩)]
      exact hi
  case pos =>
    cases hroot : s.disc (bucket (g.ifindex i)) with
    | none =>
      have hnobody : ∀ k, Running s k → bucket (s.key g k) ≠ bucket (g.ifindex i) := by
        grind [hi.linked]
      obtain ⟨hgood, hbad⟩ := serverStart_empty (e := e) hi hs hroot
      exact ⟨fun hc => hgood (hc hs).2, fun hc => hbad fun h => hc fun _ => ⟨hnobody, h⟩⟩
    | some k0 =>
      obtain ⟨hrun, hb, -⟩ := hi.single _ k0 hroot
      exact ⟨fun hc => absurd hb ((hc hs).1 k0 hrun), fun _ => serverStart_occupied hi hs hroot⟩

end Start

/-! ## Stopping -/

section Stop

variable {g : Ifaces I W} {s s' : State I W} {i : I} {k : Nat}

/-- The state after the server has been taken out of both tables. -/
def State.stopped (s : State I W) (g : Ifaces I W) (i : I) (k : Nat) : State I W :=
  { s with
    stopping := Function.update s.stopping k true
    disc := Function.update s.disc (bucket (g.ifindex i)) none
    ses := Function.update s.ses (bucket (g.ifindex i)) none }

theorem stopped_running {k' : Nat} : Running (s.stopped g i k) k' ↔ Running s k' ∧ k' ≠ k := by
  unfold Running State.stopped
  by_cases h : k' = k
  · simp [h]
  · simp [h]

theorem stopped_inv (hi : Inv g s) (hrun : Running s k) (hk : s.iface k = some i) :
    Inv g (s.stopped g i k) := by
  have hkey : s.key g k = g.ifindex i := key_of_iface hk
  have hat : ∀ b, (s.stopped g i k).disc b = if b = bucket (g.ifindex i) then none else s.disc b :=
    fun b => by
      by_cases hb : b = bucket (g.ifindex i)
      · simp [State.stopped, hb]
      · simp [State.stopped, hb]
  constructor
  case noDuplicate => exact hi.noDuplicate
  case sound => exact hi.sound
  case listed => exact hi.listed
  case nodup => exact hi.nodup
  case apart => exact hi.apart
  case same =>
    intro b
    by_cases hb : b = bucket (g.ifindex i)
    · simp [State.stopped, hb]
    · simpa [State.stopped, hb] using hi.same b
  case single =>
    intro b k' h
    rw [hat] at h
    split at h
    · cases h
    · obtain ⟨hrun', hbucket, hmem⟩ := hi.single b k' h
      refine ⟨stopped_running.2 ⟨hrun', ?_⟩, hbucket, hmem⟩
      grind
  case linked =>
    intro k' h
    obtain ⟨hrun', hne⟩ := stopped_running.1 h
    have hlinked := hi.linked k' hrun'
    show (s.stopped g i k).disc (bucket (s.key g k')) = some k'
    grind [hi.linked]
  case nets => exact fun k' j h hj => hi.nets k' j (stopped_running.1 h).1 hj

theorem serverFree_inv (hi : Inv g s) (hstop : s.stopping k = true) : Inv g (serverFree k s) := by
  have hrun : ∀ k', Running (serverFree k s) k' ↔ Running s k' := by grind [Running, serverFree]
  exact ⟨hi.noDuplicate, hi.sound, fun k' h => hi.listed k' (List.mem_of_mem_erase h),
    hi.nodup.erase k,
    fun a ha b hb => hi.apart a (List.mem_of_mem_erase ha) b (List.mem_of_mem_erase hb), hi.same,
    fun b k' h => by
      obtain ⟨h1, h2, h3⟩ := hi.single b k' h
      exact ⟨(hrun k').2 h1, h2, h3⟩,
    fun k' h => hi.linked k' ((hrun k').1 h), fun k' j h hj => hi.nets k' j ((hrun k').1 h) hj⟩

variable [DecidableEq W]

theorem serverStop_inv (hi : Inv g s) (hmem : k ∈ s.servList) (hk : s.iface k = some i)
    (idle : Bool) : Inv g (serverStop g i k idle s) := by
  unfold serverStop
  split
  · exact hi
  · next hstop =>
    have hrun : Running s k := ⟨hmem, Bool.not_eq_true _ ▸ hstop⟩
    have hlinked := hi.linked k hrun
    obtain ⟨hd, hs⟩ := hi.nets k i hrun hk
    have hsingle : s.mem k = Node.single := (hi.single _ k hlinked).2.2
    generalize hs1 : ({ s with stopping := Function.update s.stopping k true } : State I W) = s1
    have hmem1 : s1.mem k = Node.single := by subst hs1; exact hsingle
    have hdisc : tableStop g .disc i k s1 =
        some (s1.setTree .disc (g.ifindex i) ⟨s1.mem, none⟩) := by
      unfold tableStop
      rw [if_pos (by subst hs1; exact hd)]
      have herase : (s1.tree .disc (g.ifindex i)).erase s1.fuel k = some _ := erase_single hmem1
      rw [herase]
      rfl
    generalize hs2 : s1.setTree .disc (g.ifindex i) ⟨s1.mem, none⟩ = s2
    have hmem2 : s2.mem k = Node.single := by subst hs2; exact hmem1
    have hses : tableStop g .ses i k s2 = some (s2.setTree .ses (g.ifindex i) ⟨s2.mem, none⟩) := by
      unfold tableStop
      rw [if_pos (by subst hs2; subst hs1; exact hs)]
      have herase : (s2.tree .ses (g.ifindex i)).erase s2.fuel k = some _ := erase_single hmem2
      rw [herase]
      rfl
    have hstopped : s2.setTree .ses (g.ifindex i) ⟨s2.mem, none⟩ = s.stopped g i k := by
      subst hs2
      subst hs1
      rfl
    dsimp only
    rw [hdisc, hs2, Option.bind_some, hses, hstopped]
    dsimp only
    have hinv := stopped_inv hi hrun hk
    split
    · exact serverFree_inv hinv (Function.update_self _ _ _)
    · exact hinv

end Stop

/-! ## Runs -/

section Runs

variable [DecidableEq I] {g : Ifaces I W} {s s' : State I W}

theorem findServ_eq_some {i : I} {k : Nat} (h : findServ s i = some k) :
    k ∈ s.servList ∧ s.iface k = some i :=
  ⟨List.mem_of_find?_eq_some h, of_decide_eq_true (List.find?_some h :)⟩

variable [DecidableEq W]

theorem step_inv {e : Event I} (hi : Inv g s) (h : step g s e = some s') :
    (NoCollision g s e → Inv g s') ∧ (¬ NoCollision g s e → ¬ Dispatch g s') := by
  cases e with
  | start i d e =>
    cases h
    exact serverStart_inv hi
  | stop i idle =>
    obtain ⟨k, hk, rfl⟩ := Option.map_eq_some_iff.1 h
    obtain ⟨hmem, hiface⟩ := findServ_eq_some hk
    exact ⟨fun _ => serverStop_inv hi hmem hiface idle, fun hc => absurd trivial hc⟩
  | free i =>
    cases hk : findServ s i with
    | none =>
      rw [step, hk] at h
      cases h
    | some k =>
      rw [step, hk] at h
      obtain ⟨hstop, rfl⟩ := of_enabled_if h
      exact ⟨fun _ => serverFree_inv hi hstop, fun hc => absurd trivial hc⟩

/-- **Dispatch**: no start fails as a duplicate, and both tables have just the running servers, if
and only if no server is started while one with the same low 16 bits of its index runs, nor without
a session socket. -/
theorem dispatch_iff (g : Ifaces I W) (es : List (Event I)) (s : State I W)
    (hr : run (step g) State.init es = some s) :
    Throughout (step g) (Dispatch g) State.init es ↔
      Guarded (step g) (NoCollision g) State.init es :=
  throughout_iff_guarded_of (J := Inv g)
    (fun s e s' _ hi h => by
      obtain ⟨hgood, hbad⟩ := step_inv hi h
      refine ⟨fun hd => ?_, fun hc => (hgood hc).dispatch⟩
      by_contra hc
      exact hbad hc hd)
    (fun _ _ _ _ hi hc h => (step_inv hi h).1 hc)
    (init_inv g).dispatch (init_inv g) hr

end Runs

/-! ## Two interfaces -/

/-- Two interfaces in one namespace, with the indexes 1 and `second`. -/
def two (second : Int) (h : -2 ^ 31 ≤ second ∧ second < 2 ^ 31) (hne : second ≠ 1) :
    Ifaces Bool Unit where
  net _ := ()
  ifindex i := if i then second else 1
  ifindex_lt i := by
    cases i with
    | false => exact (by decide : (-2 ^ 31 : Int) ≤ 1 ∧ (1 : Int) < 2 ^ 31)
    | true => exact h
  ifindex_inj i j heq := by grind

def startBoth : List (Event Bool) := [.start false true true, .start true true true]

instance (g : Ifaces Bool Unit) (s : State Bool Unit) (e : Event Bool) :
    Decidable (NoCollision g s e) :=
  match e with
  | .start i d e =>
    decidable_of_iff (((∀ k ∈ s.servList, s.iface k ≠ some i) ∧
        (s.discNet = some (g.net i) ∨ s.discNet = none ∧ d = true)) →
      (∀ k ∈ s.servList, s.stopping k = false → bucket (s.key g k) ≠ bucket (g.ifindex i)) ∧
        (s.sesNet = some (g.net i) ∨ s.sesNet = none ∧ e = true))
      (imp_congr_right fun _ => and_congr_left fun _ =>
        ⟨fun h k hk => h k hk.1 hk.2, fun h k hk hs => h k ⟨hk, hs⟩⟩)
  | .stop _ _ | .free _ => isTrue trivial

/-- Interfaces whose indexes differ in the low 16 bits. -/
theorem dispatch_iff_two :
    Throughout (step (two 2 (by decide) (by decide))) (Dispatch (two 2 (by decide) (by decide)))
      State.init startBoth := by
  obtain ⟨s, hr, -⟩ : ∃ s, run (step (two 2 (by decide) (by decide))) State.init startBoth = some s ∧
      s.duplicate = false := by decide +kernel
  exact (dispatch_iff (two 2 (by decide) (by decide)) startBoth s hr).2 (by decide +kernel)

/-- **Two indexes that differ by 65536.**  The second start fails as a duplicate. -/
theorem second_start_fails :
    ∃ s, run (step (two 65537 (by decide) (by decide))) State.init startBoth = some s ∧
      s.duplicate = true ∧ s.servList = [0] ∧
      ¬ Dispatch (two 65537 (by decide) (by decide)) s := by
  obtain ⟨s, hr, hdup, hlist⟩ :
      ∃ s, run (step (two 65537 (by decide) (by decide))) State.init startBoth = some s ∧
        s.duplicate = true ∧ s.servList = [0] := by decide +kernel
  exact ⟨s, hr, hdup, hlist, fun hd => nomatch hdup.symm.trans hd.noDuplicate⟩

end Pppoe.Disc
