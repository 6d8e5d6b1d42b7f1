import MicroBng.Lib.Machine
import Mathlib.Data.List.Nodup
import Mathlib.Data.List.Pairwise

/-!
# The order in which the layers of a session start

`ppp/ppp.c` keeps the layers of a session in nodes: LCP, then authentication, then the network
protocols. A node is started when the node before it is done, that is, when each of its layers is
started or passive and one that is not optional is started; the last one activates the session.
`start` and `ap_session_activate` may call the notifications again before they return, so the calls
in progress are a part of the state (`Ses.frames`), and a notification may come at any moment.

* `layerStarted_inOrder`, `in_order_iff`: notifications keep the order exactly if each one comes in
  its turn
-/

namespace Ppp.Layers

open Machine

/-! ## Registered layers -/

/-- The names `get_layer_order` knows. -/
inductive LayerName
  | lcp | auth | ccp | ipcp | ipv6cp

def getLayerOrder : LayerName → Nat
  | .lcp => 0
  | .auth => 1
  | .ccp | .ipcp | .ipv6cp => 2

/-- `struct layer_node_t`: layers are numbers here. -/
structure Node where
  order : Nat
  items : List Nat

def pppRegisterLayer (name : LayerName) (layer : Nat) : List Node → List Node
  | [] => [⟨getLayerOrder name, [layer]⟩]
  | n :: ns =>
    if getLayerOrder name > n.order then n :: pppRegisterLayer name layer ns
    else if getLayerOrder name < n.order then ⟨getLayerOrder name, [layer]⟩ :: n :: ns
    else { n with items := n.items ++ [layer] } :: ns

/-- What registration gives: each layer in one place, no empty node, nodes in order, network
protocols last. -/
structure Layering where
  nodes : List Node
  nodup : (nodes.flatMap Node.items).Nodup
  items_ne_nil : ∀ n ∈ nodes, n.items ≠ []
  order_lt : nodes.Pairwise fun n m => n.order < m.order
  order_le : ∀ n ∈ nodes, n.order ≤ getLayerOrder .ipcp

theorem getLayerOrder_le (name : LayerName) : getLayerOrder name ≤ getLayerOrder .ipcp := by
  cases name <;> decide

variable {name : LayerName} {layer d : Nat} {ns : List Node}

theorem mem_pppRegisterLayer :
    d ∈ (pppRegisterLayer name layer ns).flatMap Node.items ↔
      d = layer ∨ d ∈ ns.flatMap Node.items := by
  induction ns with
  | nil => simp [pppRegisterLayer]
  | cons n ns ih => grind [pppRegisterLayer]

variable {n : Node}

theorem order_pppRegisterLayer
    (h : n ∈ pppRegisterLayer name layer ns) :
    n.order = getLayerOrder name ∨ ∃ m ∈ ns, n.order = m.order := by
  induction ns with
  | nil =>
    rw [List.mem_singleton.1 h]
    exact .inl rfl
  | cons m ns ih =>
    unfold pppRegisterLayer at h
    split at h
    · grind
    grind

theorem pppRegisterLayer_order_lt
    (h : ns.Pairwise fun n m => n.order < m.order) :
    (pppRegisterLayer name layer ns).Pairwise fun n m => n.order < m.order := by
  induction ns with
  | nil => exact List.pairwise_singleton _ _
  | cons n ns ih =>
    obtain ⟨hn, hns⟩ := List.pairwise_cons.1 h
    unfold pppRegisterLayer
    split
    · refine List.pairwise_cons.2 ⟨fun m hm => ?_, ih hns⟩
      grind [order_pppRegisterLayer]
    · split
      · refine List.pairwise_cons.2 ⟨fun m hm => ?_, h⟩
        grind
      · exact List.pairwise_cons.2 ⟨hn, hns⟩

theorem pppRegisterLayer_nodup
    (h : (ns.flatMap Node.items).Nodup) (hnew : layer ∉ ns.flatMap Node.items) :
    ((pppRegisterLayer name layer ns).flatMap Node.items).Nodup := by
  induction ns with
  | nil => simp [pppRegisterLayer]
  | cons n ns ih =>
    rw [List.flatMap_cons] at h hnew
    obtain ⟨hn, hns, hdis⟩ := List.nodup_append.1 h
    rw [List.mem_append, not_or] at hnew
    unfold pppRegisterLayer
    split
    · refine List.nodup_append.2 ⟨hn, ih hns hnew.2, fun a ha b hb => ?_⟩
      rcases mem_pppRegisterLayer.1 hb with rfl | hb
      · intro hab
        exact hnew.1 (hab ▸ ha)
      · exact hdis a ha b hb
    · split
      · simp_all
      grind

theorem pppRegisterLayer_ne_nil
    (h : ∀ n ∈ ns, n.items ≠ []) : ∀ n ∈ pppRegisterLayer name layer ns, n.items ≠ [] := by
  induction ns with
  | nil => simp [pppRegisterLayer]
  | cons m ns ih => grind [List.mem_cons_self, List.mem_cons_of_mem, pppRegisterLayer]

def Layering.register (L : Layering) (name : LayerName) (layer : Nat)
    (hnew : layer ∉ L.nodes.flatMap Node.items) : Layering where
  nodes := pppRegisterLayer name layer L.nodes
  nodup := pppRegisterLayer_nodup L.nodup hnew
  items_ne_nil := pppRegisterLayer_ne_nil L.items_ne_nil
  order_lt := pppRegisterLayer_order_lt L.order_lt
  order_le := by
    intro n hn
    rcases order_pppRegisterLayer hn with ho | ⟨m, hm, ho⟩
    · rw [ho]
      exact getLayerOrder_le name
    · rw [ho]
      exact L.order_le m hm

/-- Layers registered under these names, numbered from `k` on. -/
def Layering.registerFrom (L : Layering) (k : Nat) (h : ∀ d ∈ L.nodes.flatMap Node.items, d < k) :
    List LayerName → Layering
  | [] => L
  | name :: names =>
    (L.register name k fun hk => Nat.lt_irrefl k (h k hk)).registerFrom (k + 1)
      (fun d hd => by
        rcases mem_pppRegisterLayer.1 hd with rfl | hd
        · exact Nat.lt_succ_self _
        · exact Nat.lt_succ_of_lt (h d hd)) names

/-- The layers registered under these names, numbered by their places. -/
def registered (names : List LayerName) : Layering :=
  Layering.registerFrom ⟨[], List.nodup_nil, (nofun), .nil, (nofun)⟩
    0 (nofun) names

/-! ## The scheduler -/

/-- `struct ppp_layer_data_t`. -/
structure LayerData where
  passive : Bool
  optional : Bool
  starting : Bool
  started : Bool
  finished : Bool

/-- `AP_STATE_STARTING`, `AP_STATE_ACTIVE`, `AP_STATE_FINISHING`. -/
inductive SesState
  | starting | active | finishing
  deriving DecidableEq

/-- A call in progress: `start` of a layer, with those still to start, or `ap_session_activate`. -/
inductive Frame
  | start (rest : List Nat)
  | activate

/-- A session with its calls of `start` and the layers' data at each `ap_session_activate`. -/
structure Ses where
  data : Nat → LayerData
  state : SesState
  finishStarted : Bool
  frames : List Frame
  starts : List Nat
  activations : List (Nat → LayerData)

def change (data : Nat → LayerData) (d : Nat) (f : LayerData → LayerData) (i : Nat) : LayerData :=
  if i = d then f (data i) else data i

/-- The first loop of `__ppp_layer_started`: a layer neither started nor passive ends it; `f`: one
is started and not optional. -/
def allReady (data : Nat → LayerData) : List Nat → Bool → Bool
  | [], f => f
  | d :: ds, f =>
    if !(data d).started && !(data d).passive then false
    else allReady data ds (f || ((data d).started && !(data d).optional))

/-- The loop that starts a node's layers, up to the next call of `start`. -/
def startItems (s : Ses) : List Nat → Ses
  | [] => s
  | d :: rest =>
    { s with
      data := change s.data d fun l => { l with starting := true }
      starts := s.starts ++ [d]
      frames := .start rest :: s.frames }

def Layering.nodeOf (L : Layering) (d : Nat) : Nat := L.nodes.findIdx fun n => decide (d ∈ n.items)

def layerStarted (L : Layering) (s : Ses) (d : Nat) : Ses :=
  match L.nodes[L.nodeOf d]? with
  | none => s
  | some n =>
    if allReady s.data n.items false then
      match L.nodes[L.nodeOf d + 1]? with
      | none =>
        if s.state = .starting then
          { s with activations := s.activations ++ [s.data], frames := .activate :: s.frames }
        else s
      | some m => startItems s m.items
    else s

def pppLayerStarted (L : Layering) (s : Ses) (d : Nat) : Ses :=
  if (s.data d).started then s
  else layerStarted L { s with data := change s.data d fun l => { l with started := true } } d

def pppLayerPassive (L : Layering) (s : Ses) (d : Nat) : Ses :=
  if (s.data d).started then s
  else layerStarted L { s with data := change s.data d fun l => { l with passive := true } } d

def destablishPpp (s : Ses) : Ses := { s with finishStarted := true }

def Layering.any (L : Layering) (s : Ses) (p : LayerData → Bool) : Bool :=
  L.nodes.any fun n => n.items.any fun d => p (s.data d)

def pppLayerFinished (L : Layering) (s : Ses) (d : Nat) : Ses :=
  let s := { s with data := change s.data d fun l => { l with finished := true, starting := false } }
  if L.any s fun l => l.starting && !l.finished then s else destablishPpp s

/-- `ap_session_terminate` with `ppp_terminate`; what the layers say are further events. -/
def apSessionTerminate (L : Layering) (s : Ses) (hard : Bool) : Ses :=
  if s.state = .finishing then
    if hard then destablishPpp s else s
  else
    let s := { s with state := .finishing }
    if hard || !L.any s LayerData.starting then destablishPpp s else s

/-- What can happen. `passiveSet`: a layer writes its `passive`; the returns end the running call.
-/
inductive Event
  | started (d : Nat)
  | passive (d : Nat)
  | finished (d : Nat)
  | passiveSet (d : Nat) (passive : Bool)
  | startReturns (ok : Bool)
  | activateReturns (ok : Bool)
  | terminate (hard : Bool)

def Layering.Has (L : Layering) (d : Nat) : Prop := ∃ n ∈ L.nodes, d ∈ n.items
deriving Decidable

def Layering.IsNetwork (L : Layering) (d : Nat) : Prop :=
  ∃ n ∈ L.nodes, n.order = getLayerOrder .ipcp ∧ d ∈ n.items
deriving Decidable

/-- One step. `destablish_ppp` frees the layers. -/
def step (L : Layering) (s : Ses) (e : Event) : Option Ses :=
  if s.finishStarted then none
  else match e with
    | .started d => if L.Has d then some (pppLayerStarted L s d) else none
    | .passive d => if L.Has d then some (pppLayerPassive L s d) else none
    | .finished d => if L.Has d then some (pppLayerFinished L s d) else none
    -- CCP, IPCP and IPV6CP do so when the peer asks for them, and CCP with the policy for MPPE
    | .passiveSet d passive =>
      if L.IsNetwork d then
        some { s with data := change s.data d fun l => { l with passive := passive } }
      else none
    | .startReturns ok =>
      match s.frames with
      | .start rest :: frames =>
        let s := { s with frames := frames }
        some (if ok then startItems s rest else apSessionTerminate L s false)
      | _ => none
    | .activateReturns ok =>
      match s.frames with
      | .activate :: frames =>
        -- not while the daemon shuts down, nor if the session was terminated on the way
        some { s with frames := frames
                      state := if ok ∧ s.state ≠ .finishing then .active else s.state }
      | _ => none
    | .terminate hard => some (apSessionTerminate L s hard)

/-- What `init` leaves in the data of a layer. -/
def initData (passive optional : Bool) : LayerData where
  passive := passive
  optional := optional
  starting := false
  started := false
  finished := false

/-- `establish_ppp`: layers are as `init` left them; `start_first_layer` is at the first `start`. -/
def establishPpp (L : Layering) (passive optional : Nat → Bool) : Ses :=
  startItems
    { data := fun d => initData (passive d) (optional d)
      state := .starting
      finishStarted := false
      frames := []
      starts := []
      activations := [] }
    (L.nodes.head?.elim [] Node.items)

/-! ## Nodes that are done -/

/-- Each layer of the node is started or passive, and one that is not optional is started. -/
def Node.Done (data : Nat → LayerData) (n : Node) : Prop :=
  (∀ d ∈ n.items, (data d).started = true ∨ (data d).passive = true) ∧
    ∃ d ∈ n.items, (data d).started = true ∧ (data d).optional = false
deriving Decidable

variable {data : Nat → LayerData}

theorem allReady_iff {items : List Nat} {f : Bool} :
    allReady data items f = true ↔
      (∀ d ∈ items, (data d).started = true ∨ (data d).passive = true) ∧
        (f = true ∨ ∃ d ∈ items, (data d).started = true ∧ (data d).optional = false) := by
  induction items generalizing f with
  | nil => simp [allReady]
  | cons d ds ih =>
    unfold allReady
    cases hs : (data d).started <;> cases hp : (data d).passive <;>
      simp [ih, hs, hp, or_assoc]

theorem allReady_done : allReady data n.items false = true ↔ n.Done data := by
  rw [allReady_iff]
  simp [Node.Done]

def SameReady (l l' : LayerData) : Prop :=
  l'.started = l.started ∧ l'.passive = l.passive ∧ l'.optional = l.optional

variable {data' : Nat → LayerData}

theorem Node.done_congr
    (h : ∀ d ∈ n.items, SameReady (data d) (data' d)) : n.Done data' ↔ n.Done data := by
  refine and_congr (forall₂_congr fun d hd => ?_)
    (exists_congr fun d => and_congr_right fun hd => ?_)
  · rw [(h d hd).1, (h d hd).2.1]
  · rw [(h d hd).1, (h d hd).2.2]

structure Raises (data data' : Nat → LayerData) (d : Nat) : Prop where
  other : ∀ i, i ≠ d → data' i = data i
  started : (data d).started = true → (data' d).started = true
  passive : (data d).passive = true → (data' d).passive = true
  optional : (data' d).optional = (data d).optional

theorem Raises.done (h : Raises data data' d) (hn : n.Done data) : n.Done data' := by
  obtain ⟨hall, e, he, hes, heo⟩ := hn
  have hup : ∀ i, ((data i).started = true → (data' i).started = true) ∧
      ((data i).passive = true → (data' i).passive = true) ∧
      (data' i).optional = (data i).optional := by
    grind [h.started, h.passive, h.optional, h.other]
  refine ⟨fun i hi => (hall i hi).imp (hup i).1 (hup i).2.1, e, he, (hup e).1 hes, ?_⟩
  rw [(hup e).2.2]
  exact heo

theorem Raises.done_iff (h : Raises data data' d) (hd : d ∉ n.items) : n.Done data' ↔ n.Done data := by
  refine Node.done_congr fun i hi => ?_
  rw [h.other i (fun hid => hd (hid ▸ hi))]
  exact ⟨rfl, rfl, rfl⟩

theorem done_change {f : LayerData → LayerData}
    (h : SameReady (data d) (f (data d))) (n : Node) : n.Done (change data d f) ↔ n.Done data := by
  refine Node.done_congr fun i _ => ?_
  unfold change
  split
  · rename_i hi
    subst hi
    exact h
  · exact ⟨rfl, rfl, rfl⟩

/-! ## The place of a layer -/

section Place

variable {L : Layering} {d i j : Nat} {n m : Node}

theorem Layering.place_unique (hi : L.nodes[i]? = some n) (hj : L.nodes[j]? = some m)
    (hn : d ∈ n.items) (hm : d ∈ m.items) : i = j := by
  obtain ⟨-, hdis⟩ := List.nodup_flatMap.1 L.nodup
  have hlt : ∀ a b (ha : a < L.nodes.length) (hb : b < L.nodes.length), a < b →
      d ∈ L.nodes[a].items → d ∉ L.nodes[b].items := fun a b ha hb hab h1 h2 =>
    List.pairwise_iff_getElem.1 hdis a b ha hb hab h1 h2
  grind

theorem Layering.mem_nodeOf (hn : L.nodes[L.nodeOf d]? = some n) : d ∈ n.items := by
  obtain ⟨hlt, rfl⟩ := List.getElem?_eq_some_iff.1 hn
  exact of_decide_eq_true (List.findIdx_getElem (w := hlt))

theorem Layering.nodeOf_spec (h : L.Has d) : ∃ n, L.nodes[L.nodeOf d]? = some n ∧ d ∈ n.items := by
  obtain ⟨n, hn, hd⟩ := h
  have hlt : L.nodeOf d < L.nodes.length :=
    List.findIdx_lt_length_of_exists ⟨n, hn, decide_eq_true hd⟩
  simp_all [L.mem_nodeOf]

theorem Layering.items_nodup (hn : n ∈ L.nodes) : n.items.Nodup :=
  (List.nodup_flatMap.1 L.nodup).1 n hn

theorem Layering.IsNetwork.last (h : L.IsNetwork d) (hi : L.nodes[i]? = some n) (hd : d ∈ n.items) :
    L.nodes[i + 1]? = none := by
  obtain ⟨k, hk, ho, hdk⟩ := h
  obtain ⟨j, hj⟩ := List.mem_iff_getElem?.1 hk
  obtain rfl : j = i := L.place_unique hj hi hdk hd
  obtain rfl : k = n := Option.some.inj (hj.symm.trans hi)
  cases hnext : L.nodes[j + 1]? with
  | none => rfl
  | some m =>
    obtain ⟨hil, rfl⟩ := List.getElem?_eq_some_iff.1 hi
    obtain ⟨hjl, rfl⟩ := List.getElem?_eq_some_iff.1 hnext
    have hlt := List.pairwise_iff_getElem.1 L.order_lt j (j + 1) hil hjl (Nat.lt_succ_self j)
    have hle := L.order_le _ (List.getElem_mem hjl)
    omega

end Place

/-! ## What holds between the steps -/

def pending (frames : List Frame) : List Nat :=
  frames.flatMap fun
    | .start rest => rest
    | .activate => []

/-- No layer is started twice, and at each activation all nodes are done. -/
def InOrder (L : Layering) (s : Ses) : Prop :=
  s.starts.Nodup ∧ ∀ data ∈ s.activations, ∀ n ∈ L.nodes, n.Done data

/-- The notification of `d`, which makes the data `data'`, comes in its turn. -/
structure InTurn (L : Layering) (s : Ses) (data' : Nat → LayerData) (d : Nat) : Prop where
  last : ∀ n, L.nodes[L.nodeOf d]? = some n → L.nodes[L.nodeOf d + 1]? = none →
    n.Done data' → s.state = .starting → ∀ k ∈ L.nodes, k.Done data'
  inner : ∀ n m, L.nodes[L.nodeOf d]? = some n → L.nodes[L.nodeOf d + 1]? = some m → ¬ n.Done s.data

/-- The data after `ppp_layer_started` has set its flag. -/
def Ses.withStarted (s : Ses) (d : Nat) : Nat → LayerData :=
  change s.data d fun l => { l with started := true }

/-- The data after `ppp_layer_passive` has set its flag. -/
def Ses.withPassive (s : Ses) (d : Nat) : Nat → LayerData :=
  change s.data d fun l => { l with passive := true }

/-- A notification that is not ignored comes in its turn. -/
def Orderly (L : Layering) (s : Ses) : Event → Prop
  | .started d => (s.data d).started = false → InTurn L s (s.withStarted d) d
  | .passive d => (s.data d).started = false → InTurn L s (s.withPassive d) d
  | _ => True

/-- A node is begun if the one before is done, and not otherwise. -/
structure Sound (L : Layering) (s : Ses) : Prop where
  nodup : (s.starts ++ pending s.frames).Nodup
  begun : ∀ i n m, L.nodes[i]? = some n → L.nodes[i + 1]? = some m → n.Done s.data →
    ∀ a, m.items.head? = some a → a ∈ s.starts
  fresh : ∀ i n m, L.nodes[i]? = some n → L.nodes[i + 1]? = some m → ¬ n.Done s.data →
    ∀ d ∈ m.items, d ∉ s.starts ++ pending s.frames

section Steps

variable {L : Layering} {s s' : Ses} {d : Nat}

theorem Sound.of_same (h : Sound L s)
    (hdone : ∀ i n m, L.nodes[i]? = some n → L.nodes[i + 1]? = some m →
      (n.Done s'.data ↔ n.Done s.data))
    (hstarts : ∀ a ∈ s.starts, a ∈ s'.starts)
    (hnodup : (s'.starts ++ pending s'.frames).Nodup)
    (hsub : ∀ d ∈ s'.starts ++ pending s'.frames, d ∈ s.starts ++ pending s.frames) :
    Sound L s' where
  nodup := hnodup
  begun i n m hn hm hd a ha := hstarts a (h.begun i n m hn hm ((hdone i n m hn hm).1 hd) a ha)
  fresh i n m hn hm hd x hx hx' :=
    h.fresh i n m hn hm (fun hd' => hd ((hdone i n m hn hm).2 hd')) x hx (hsub x hx')

theorem Sound.of_data (h : Sound L s)
    (hdone : ∀ i n m, L.nodes[i]? = some n → L.nodes[i + 1]? = some m →
      (n.Done s'.data ↔ n.Done s.data))
    (hstarts : s'.starts = s.starts) (hframes : pending s'.frames = pending s.frames) :
    Sound L s' := by
  grind [h.of_same, h.nodup]

theorem layerStarted_cases (h : L.Has d) :
    ∃ n, L.nodes[L.nodeOf d]? = some n ∧ d ∈ n.items ∧ (
      (¬ n.Done s.data ∧ layerStarted L s d = s) ∨
      (n.Done s.data ∧ L.nodes[L.nodeOf d + 1]? = none ∧ s.state = .starting ∧
        layerStarted L s d =
          { s with activations := s.activations ++ [s.data], frames := .activate :: s.frames }) ∨
      (n.Done s.data ∧ L.nodes[L.nodeOf d + 1]? = none ∧ s.state ≠ .starting ∧
        layerStarted L s d = s) ∨
      (n.Done s.data ∧ ∃ m a rest, L.nodes[L.nodeOf d + 1]? = some m ∧ m.items = a :: rest ∧
        layerStarted L s d = startItems s (a :: rest))) := by
  obtain ⟨n, hn, hd⟩ := L.nodeOf_spec h
  refine ⟨n, hn, hd, ?_⟩
  unfold layerStarted
  rw [hn]
  simp only
  by_cases hdone : n.Done s.data
  · rw [if_pos (allReady_done.2 hdone)]
    cases hm : L.nodes[L.nodeOf d + 1]? with
    | none => grind
    | some m =>
      cases hitems : m.items with
      | nil => exact absurd hitems (L.items_ne_nil m (List.mem_of_getElem? hm))
      | cons a rest => simp_all
  · rw [if_neg fun h => hdone (allReady_done.1 h)]
    exact .inl ⟨hdone, rfl⟩

variable {data' : Nat → LayerData}

/-- **A notification keeps the order exactly if it comes in its turn.** -/
theorem layerStarted_inOrder (hi : InOrder L s) (hs : Sound L s) (hd : L.Has d)
    (hr : Raises s.data data' d) :
    InOrder L (layerStarted L { s with data := data' } d) ↔ InTurn L s data' d := by
  obtain ⟨n, hn, -, ⟨hnd, heq⟩ | ⟨hdone, hlast, hst, heq⟩ | ⟨hdone, hlast, hst, heq⟩ |
    ⟨hdone, m, a, rest, hm, hitems, heq⟩⟩ := layerStarted_cases (s := { s with data := data' }) hd
  · rw [heq]
    refine iff_of_true hi ⟨fun k hk _ hkd => ?_, fun k m hk _ hkd => ?_⟩
    · cases hn.symm.trans hk
      exact absurd hkd hnd
    · cases hn.symm.trans hk
      exact hnd (hr.done hkd)
  · rw [heq]
    constructor
    · intro h
      exact ⟨fun _ _ _ _ _ => h.2 data' (List.mem_append_right _ List.mem_cons_self),
        fun _ m _ hm => nomatch hlast.symm.trans hm⟩
    · intro h
      refine ⟨hi.1, fun data hdata => ?_⟩
      grind [hi.2, h.last]
  · rw [heq]
    exact iff_of_true hi ⟨fun _ _ _ _ hst' => absurd hst' hst,
      fun _ m _ hm => nomatch hlast.symm.trans hm⟩
  · rw [heq]
    have hnodup : (s.starts ++ [a]).Nodup ↔ a ∉ s.starts := by
      rw [List.nodup_append]
      simp only [hi.1]
      grind
    have hstarts : InOrder L (startItems { s with data := data' } (a :: rest)) ↔ a ∉ s.starts :=
      ⟨fun h => hnodup.1 h.1, fun h => ⟨hnodup.2 h, hi.2⟩⟩
    rw [hstarts]
    constructor
    · intro ha
      refine ⟨fun _ _ hm' => absurd (hm.symm.trans hm') nofun, fun k m' hk hm' hkd => ?_⟩
      cases hn.symm.trans hk
      exact ha (hs.begun _ n m hn hm hkd a (by rw [hitems]; rfl))
    · intro h ha
      have hfresh := hs.fresh _ n m hn hm (h.inner n m hn hm) a
        (by rw [hitems]; exact List.mem_cons_self)
      exact hfresh (List.mem_append_left _ ha)

theorem layerStarted_sound (hs : Sound L s) (hd : L.Has d) (hr : Raises s.data data' d)
    (ht : InTurn L s data' d) : Sound L (layerStarted L { s with data := data' } d) := by
  obtain ⟨n, hn, hdn, hcases⟩ := layerStarted_cases (s := { s with data := data' }) hd
  -- nodes other than that of the layer are what they were
  have hother : ∀ i k, L.nodes[i]? = some k → i ≠ L.nodeOf d → (k.Done data' ↔ k.Done s.data) :=
    fun i k hk hne => hr.done_iff fun hdk => hne (L.place_unique hk hn hdk hdn)
  have hlastnode : L.nodes[L.nodeOf d + 1]? = none → ∀ i k m, L.nodes[i]? = some k →
      L.nodes[i + 1]? = some m → (k.Done data' ↔ k.Done s.data) := by
    intro hlast i k m hk hm
    refine hother i k hk fun hi => ?_
    rw [hi, hlast] at hm
    cases hm
  rcases hcases with ⟨hnd, heq⟩ | ⟨-, hlast, -, heq⟩ | ⟨-, hlast, -, heq⟩ |
    ⟨hdone, m, a, rest, hm, hitems, heq⟩
  · rw [heq]
    refine hs.of_data (fun i k m hk _ => ?_) rfl rfl
    by_cases hi : i = L.nodeOf d
    · rw [hi] at hk
      cases hn.symm.trans hk
      exact iff_of_false hnd fun h => hnd (hr.done h)
    · exact hother i k hk hi
  · rw [heq]
    exact hs.of_data (hlastnode hlast) rfl rfl
  · rw [heq]
    exact hs.of_data (hlastnode hlast) rfl rfl
  · rw [heq]
    have hmitems := L.items_nodup (List.mem_of_getElem? hm)
    rw [hitems] at hmitems
    have hfresh : ∀ x ∈ a :: rest, x ∉ s.starts ++ pending s.frames := fun x hx =>
      hs.fresh _ n m hn hm (ht.inner n m hn hm) x (hitems ▸ hx)
    -- the new calls beside those before them
    have hperm : ((s.starts ++ [a]) ++ (rest ++ pending s.frames)).Perm
        ((a :: rest) ++ (s.starts ++ pending s.frames)) := by
      grind
    have hsame : ∀ k : Node, k.Done (startItems { s with data := data' } (a :: rest)).data ↔
        k.Done data' := fun k => done_change ⟨rfl, rfl, rfl⟩ k
    refine ⟨?_, fun i k m' hk hm' hkd b hb => ?_, fun i k m' hk hm' hkd x hx hx' => ?_⟩
    · refine hperm.nodup_iff.2 (List.nodup_append.2 ⟨hmitems, hs.nodup, fun x hx y hy hxy => ?_⟩)
      exact hfresh x hx (hxy ▸ hy)
    · by_cases hi : i = L.nodeOf d
      · rw [hi, hm] at hm'
        cases hm'
        rw [hitems] at hb
        cases hb
        exact List.mem_append_right _ List.mem_cons_self
      · exact List.mem_append_left _
          (hs.begun i k m' hk hm' ((hother i k hk hi).1 ((hsame k).1 hkd)) b hb)
    · by_cases hi : i = L.nodeOf d
      · rw [hi] at hk
        cases hn.symm.trans hk
        exact hkd ((hsame n).2 hdone)
      · rcases List.mem_append.1 (hperm.mem_iff.1 hx') with hx' | hx'
        · have := L.place_unique hm' hm hx (hitems ▸ hx')
          omega
        · exact hs.fresh i k m' hk hm'
            (fun h => hkd ((hsame k).2 ((hother i k hk hi).2 h))) x hx hx'

theorem startItems_sound {rest : List Nat} {frames : List Frame} (hs : Sound L s)
    (hf : s.frames = .start rest :: frames) :
    Sound L (startItems { s with frames := frames } rest) := by
  have hp : pending s.frames = rest ++ pending frames := by
    rw [hf]
    rfl
  cases rest with
  | nil => exact hs.of_data (fun _ _ _ _ _ => Iff.rfl) rfl hp.symm
  | cons a rest =>
    have hall : (s.starts ++ [a]) ++ (rest ++ pending frames) = s.starts ++ pending s.frames := by
      rw [hp]
      simp
    refine hs.of_same (fun _ k _ _ _ => done_change ⟨rfl, rfl, rfl⟩ k)
      (fun b hb => List.mem_append_left _ hb) ?_ ?_
    · exact hall ▸ hs.nodup
    · intro x hx
      rw [← hall]
      exact hx

theorem startItems_inOrder {rest : List Nat} {frames : List Frame} (hi : InOrder L s)
    (hs : Sound L s) (hf : s.frames = .start rest :: frames) :
    InOrder L (startItems { s with frames := frames } rest) := by
  have hnodup := (startItems_sound hs hf).nodup
  refine ⟨(List.nodup_append.1 hnodup).1, ?_⟩
  cases rest with
  | nil | cons a rest => exact hi.2

theorem apSessionTerminate_same (L : Layering) (s : Ses) (hard : Bool) :
    (apSessionTerminate L s hard).data = s.data ∧
      (apSessionTerminate L s hard).starts = s.starts ∧
      (apSessionTerminate L s hard).frames = s.frames ∧
      (apSessionTerminate L s hard).activations = s.activations := by
  grind [apSessionTerminate, destablishPpp]

theorem pppLayerFinished_same (L : Layering) (s : Ses) (d : Nat) :
    (pppLayerFinished L s d).data =
        change s.data d (fun l => { l with finished := true, starting := false }) ∧
      (pppLayerFinished L s d).starts = s.starts ∧
      (pppLayerFinished L s d).frames = s.frames ∧
      (pppLayerFinished L s d).activations = s.activations := by
  grind [pppLayerFinished, destablishPpp]

theorem raises_withStarted (s : Ses) (d : Nat) : Raises s.data (s.withStarted d) d where
  other i hi := if_neg hi
  started _ := by simp [Ses.withStarted, change]
  passive h := by simpa [Ses.withStarted, change] using h
  optional := by simp [Ses.withStarted, change]

theorem raises_withPassive (s : Ses) (d : Nat) : Raises s.data (s.withPassive d) d where
  other i hi := if_neg hi
  started h := by simpa [Ses.withPassive, change] using h
  passive _ := by simp [Ses.withPassive, change]
  optional := by simp [Ses.withPassive, change]

theorem step_cases {e : Event} (h : step L s e = some s') :
    (∃ d data', Raises s.data data' d ∧ L.Has d ∧ (Orderly L s e ↔ InTurn L s data' d) ∧
      s' = layerStarted L { s with data := data' } d) ∨
    (Orderly L s e ∧ (InOrder L s → Sound L s → InOrder L s' ∧ Sound L s')) := by
  unfold step at h
  split at h
  · cases h
  cases e with
  | started d =>
    obtain ⟨hd, rfl⟩ := of_enabled_if h
    by_cases hst : (s.data d).started = true
    · rw [pppLayerStarted, if_pos hst]
      exact .inr ⟨fun h' => absurd (hst.symm.trans h') nofun, fun hi hs => ⟨hi, hs⟩⟩
    · rw [pppLayerStarted, if_neg hst]
      exact .inl ⟨d, s.withStarted d, raises_withStarted s d, hd,
        ⟨fun h' => h' (Bool.eq_false_iff.2 hst), fun h' _ => h'⟩, rfl⟩
  | passive d =>
    obtain ⟨hd, rfl⟩ := of_enabled_if h
    by_cases hst : (s.data d).started = true
    · rw [pppLayerPassive, if_pos hst]
      exact .inr ⟨fun h' => absurd (hst.symm.trans h') nofun, fun hi hs => ⟨hi, hs⟩⟩
    · rw [pppLayerPassive, if_neg hst]
      exact .inl ⟨d, s.withPassive d, raises_withPassive s d, hd,
        ⟨fun h' => h' (Bool.eq_false_iff.2 hst), fun h' _ => h'⟩, rfl⟩
  | finished d =>
    obtain ⟨-, rfl⟩ := of_enabled_if h
    obtain ⟨hdata, hstarts, hframes, hact⟩ := pppLayerFinished_same L s d
    refine .inr ⟨trivial, fun hi hs => ⟨?_, hs.of_data (fun _ k _ _ _ => ?_) hstarts
      (by rw [hframes])⟩⟩
    · unfold InOrder
      rw [hstarts, hact]
      exact hi
    · rw [hdata]
      exact done_change ⟨rfl, rfl, rfl⟩ k
  | passiveSet d passive =>
    obtain ⟨hnet, rfl⟩ := of_enabled_if h
    refine .inr ⟨trivial, fun hi hs => ⟨hi, hs.of_data (fun i k m hk hm => ?_) rfl rfl⟩⟩
    -- the node of the layer is the last one, and `k` is not
    refine Node.done_congr fun x hx => ?_
    have hxd : x ≠ d := by
      rintro rfl
      cases hm.symm.trans (hnet.last hk hx)
    simp only [change, if_neg hxd]
    exact ⟨rfl, rfl, rfl⟩
  | startReturns ok =>
    simp only at h
    split at h
    · rename_i rest frames hf
      cases h
      refine .inr ⟨trivial, fun hi hs => ?_⟩
      cases ok with
      | true => exact ⟨startItems_inOrder hi hs hf, startItems_sound hs hf⟩
      | false =>
        obtain ⟨hdata, hstarts, hframes, hact⟩ :=
          apSessionTerminate_same L { s with frames := frames } false
        have hp : pending s.frames = rest ++ pending frames := by
          rw [hf]
          rfl
        refine ⟨?_, hs.of_same (fun _ k _ _ _ => ?_) (fun a ha => ?_) ?_ ?_⟩
        · simp_all [InOrder]
        · simp_all
        · simp_all
        · grind [hs.nodup]
        grind
    · cases h
  | activateReturns ok =>
    simp only at h
    split at h
    · rename_i frames hf
      cases h
      refine .inr ⟨trivial, fun hi hs => ⟨hi, hs.of_data (fun _ _ _ _ _ => Iff.rfl) rfl ?_⟩⟩
      rw [hf]
      rfl
    · cases h
  | terminate hard =>
    cases h
    obtain ⟨hdata, hstarts, hframes, hact⟩ := apSessionTerminate_same L s hard
    refine .inr ⟨trivial, fun hi hs => ⟨?_, hs.of_data (fun _ _ _ _ _ => ?_) hstarts
      (by rw [hframes])⟩⟩
    · unfold InOrder
      rw [hstarts, hact]
      exact hi
    · rw [hdata]

end Steps

/-! ## Whole runs -/

section Runs

variable {L : Layering} {passive optional : Nat → Bool} {es : List Event} {t : Ses}

theorem initData_not_done (n : Node) : ¬ n.Done fun d => initData (passive d) (optional d) := by
  rintro ⟨-, d, -, hd, -⟩
  cases hd

theorem establishPpp_done (n : Node) : ¬ n.Done (establishPpp L passive optional).data := by
  unfold establishPpp
  cases L.nodes.head?.elim [] Node.items with
  | nil => exact initData_not_done n
  | cons a rest => exact fun h => initData_not_done n ((done_change ⟨rfl, rfl, rfl⟩ n).1 h)

theorem establishPpp_calls :
    (establishPpp L passive optional).starts ++ pending (establishPpp L passive optional).frames =
      L.nodes.head?.elim [] Node.items := by
  unfold establishPpp
  cases L.nodes.head?.elim [] Node.items with
  | nil => rfl
  | cons a rest => simp [startItems, pending]

theorem establishPpp_sound : Sound L (establishPpp L passive optional) where
  nodup := by
    rw [establishPpp_calls]
    cases h : L.nodes.head? with
    | none => exact List.nodup_nil
    | some n => exact L.items_nodup (List.mem_of_head? h)
  begun _ n _ _ _ hd := absurd hd (establishPpp_done n)
  fresh i n m hn hm _ d hd := by
    rw [establishPpp_calls]
    cases h : L.nodes.head? with
    | none => exact nofun
    | some k =>
      intro hk
      rw [List.head?_eq_getElem?] at h
      have := L.place_unique hm h hd hk
      omega

theorem establishPpp_inOrder : InOrder L (establishPpp L passive optional) := by
  have hnodup := (@establishPpp_sound L passive optional).nodup
  refine ⟨(List.nodup_append.1 hnodup).1, ?_⟩
  unfold establishPpp
  cases L.nodes.head?.elim [] Node.items with
  | nil | cons a rest => exact nofun

theorem step_inOrder {s s' : Ses} {e : Event} (hi : InOrder L s) (hs : Sound L s)
    (h : step L s e = some s') : InOrder L s' ↔ Orderly L s e := by
  rcases step_cases h with ⟨d, data', hr, hd, hiff, rfl⟩ | ⟨ho, hkeep⟩
  · rw [hiff]
    exact layerStarted_inOrder hi hs hd hr
  · exact iff_of_true (hkeep hi hs).1 ho

theorem step_sound {s s' : Ses} {e : Event} (hi : InOrder L s) (hs : Sound L s)
    (ho : Orderly L s e) (h : step L s e = some s') : Sound L s' := by
  rcases step_cases h with ⟨d, data', hr, hd, hiff, rfl⟩ | ⟨-, hkeep⟩
  · exact layerStarted_sound hs hd hr (hiff.1 ho)
  · exact (hkeep hi hs).2

/-- **The layers start in order**: none is started twice and the session is activated only when all
nodes are done, exactly if each notification not ignored comes in its turn. -/
theorem in_order_iff (L : Layering) (passive optional : Nat → Bool) (es : List Event) (t : Ses)
    (hr : run (step L) (establishPpp L passive optional) es = some t) :
    Throughout (step L) (InOrder L) (establishPpp L passive optional) es ↔
      Guarded (step L) (Orderly L) (establishPpp L passive optional) es :=
  throughout_iff_guarded_of (J := Sound L) (fun _ _ _ hi hs h => step_inOrder hi hs h)
    (fun _ _ _ hi hs ho h => step_sound hi hs ho h) establishPpp_inOrder establishPpp_sound hr

/-- Two layers in the node of the authentication, in a run with one notification too many. -/
def twoAuth : Layering := registered [.lcp, .auth, .auth, .ipcp]

/-- LCP comes up, both layers behind it are started, one stays passive and the other is up, which
starts IPCP. -/
def twoAuthUp : List Event :=
  [.startReturns true, .started 0, .startReturns true, .startReturns true, .passive 2, .started 1,
    .startReturns true]

theorem in_order_iff_twoAuth :
    ∃ t, run (step twoAuth) (establishPpp twoAuth (fun _ => false) (fun _ => false)) twoAuthUp =
        some t ∧
      (Throughout (step twoAuth) (InOrder twoAuth)
          (establishPpp twoAuth (fun _ => false) (fun _ => false)) twoAuthUp ↔
        Guarded (step twoAuth) (Orderly twoAuth)
          (establishPpp twoAuth (fun _ => false) (fun _ => false)) twoAuthUp) := by
  obtain ⟨t, ht, -⟩ : ∃ t, run (step twoAuth)
      (establishPpp twoAuth (fun _ => false) (fun _ => false)) twoAuthUp = some t ∧ True := by
    decide +kernel
  exact ⟨t, ht, in_order_iff _ _ _ _ t ht⟩

/-- The passive layer says so twice, and IPCP is started twice. And IPCP's start before LCP is up
activates the session. -/
theorem notified_out_of_turn :
    (∃ t, run (step twoAuth) (establishPpp twoAuth (fun _ => false) (fun _ => false))
        (twoAuthUp ++ [.passive 2]) = some t ∧ ¬ t.starts.Nodup) ∧
    ∃ t, run (step (registered [.lcp, .auth, .ipcp]))
        (establishPpp (registered [.lcp, .auth, .ipcp]) (fun _ => false) (fun _ => false))
        [.startReturns true, .started 2] = some t ∧
      ∃ data ∈ t.activations, ∃ n ∈ (registered [.lcp, .auth, .ipcp]).nodes, ¬ n.Done data := by
  constructor <;> decide +kernel

end Runs

end Ppp.Layers
