import Mathlib.Data.List.Nodup
import Mathlib.Data.List.Perm.Subperm
import MicroBng.Ipdb.Pool

/-!
# Addresses are neither lost nor given twice

`session_restore` looks for an item in which both addresses are those of the backup. The own address
of an item is not the one it was generated with once it has been handed out, so the item of a
session may be in its pool and not be found. The session then gets an item of its own.

* `generate_peers_nodup`: the items of disjoint ranges have different peer addresses
* `items_conserved`: as long as that one has a peer address of its own, every item is in the list of
  its pool or with one session, and no two sessions have the same peer address
-/

namespace Ippool

open Machine

/-! ## The peer addresses of the items -/

section Generation

variable {N : Type*}

variable (cf : Conf) (pools : List (Pool N))

theorem generateP2p_subperm (rnd : Nat → UInt8) (turns : Nat) (tunnel gw : List Nat)
    (w : Walk) : ((generateP2p cf rnd turns tunnel gw w).map Prod.snd).Subperm tunnel := by
  induction turns generalizing tunnel gw w with
  | zero => exact List.nil_subperm
  | succ turns ih =>
    unfold generateP2p
    generalize (if cf.shuffle then shufflePick rnd tunnel.length 10 w else (0, w)) = choice
    obtain ⟨pos, w'⟩ := choice
    dsimp only
    split
    · exact List.nil_subperm
    · next peer hpeer =>
      obtain ⟨hlt, rfl⟩ := List.getElem?_eq_some_iff.1 hpeer
      have hperm := List.getElem_cons_eraseIdx_perm hlt
      have hrest : (tunnel.eraseIdx pos).Subperm tunnel := (List.eraseIdx_sublist _ _).subperm
      have htake : ∀ gw', (tunnel[pos] ::
          ((generateP2p cf rnd turns (tunnel.eraseIdx pos) gw' w').map Prod.snd)).Subperm tunnel :=
        fun gw' => ((List.subperm_cons _).2 (ih (tunnel.eraseIdx pos) gw' w')).trans hperm.subperm
      split
      · split
        · exact List.nil_subperm
        · exact htake _
      split
      · exact (ih _ _ _).trans hrest
      · exact htake _

theorem generateNet30_sublist (tunnel : List Nat) :
    ((generateNet30 tunnel).map Prod.snd).Sublist tunnel := by
  fun_induction generateNet30 tunnel with
  | case1 a0 a1 a2 a3 rest ih => exact ((ih.cons a3).cons_cons a2).cons a1 |>.cons a0
  | case2 a0 a1 a2 => exact ((List.Sublist.refl [a2]).cons a1).cons a0
  | case3 => exact List.nil_sublist _

theorem items_subperm (i : Nat) (p : Pool N) : ((p.items cf i).map Prod.snd).Subperm p.tunnel := by
  unfold Pool.items
  split
  · exact List.nil_subperm
  · exact generateP2p_subperm _ _ _ _ _ _
  · exact (generateNet30_sublist _).subperm

theorem flatMap_items_subperm (k : Nat) :
    ((pools.zipIdx k).flatMap fun p => (p.1.items cf p.2).map Prod.snd).Subperm
      (pools.flatMap Pool.tunnel) := by
  induction pools generalizing k with
  | nil => exact List.Subperm.refl _
  | cons p pools ih => exact (items_subperm cf k p).append (ih (k + 1))

theorem generate_peers :
    (generate cf pools).map (fun it => it.tag.peerAddr) =
      pools.zipIdx.flatMap fun p => (p.1.items cf p.2).map Prod.snd := by
  unfold generate
  rw [List.map_map]
  have hfst : ∀ l : List (Nat × Nat × Nat),
      l.zipIdx.map ((fun it : Item => it.tag.peerAddr) ∘
        fun x => (⟨⟨x.2, x.1.1, x.1.2.2⟩, x.1.2.1, 0⟩ : Item)) = l.map fun x => x.2.2 := fun l => by
    rw [← List.zipIdx_map_fst 0 l, List.map_map]
    simp
  rw [hfst, List.map_flatMap]
  simp [Function.comp_def]

theorem generate_tags_nodup : ((generate cf pools).map Item.tag).Nodup := by
  have hids : ((generate cf pools).map fun it => it.tag.id).Nodup := by
    unfold generate
    rw [List.map_map]
    have hsnd : ∀ l : List (Nat × Nat × Nat),
        l.zipIdx.map ((fun it : Item => it.tag.id) ∘
          fun x => (⟨⟨x.2, x.1.1, x.1.2.2⟩, x.1.2.1, 0⟩ : Item)) = List.range l.length := fun l => by
      rw [List.range_eq_range', ← List.zipIdx_map_snd 0 l]
      rfl
    rw [hsnd]
    exact List.nodup_range
  grind

def Opt.tunnelAddrs (opt : Opt N) : List Nat :=
  match opt.range with
  | some (.tunnel, _) => opt.addrs.getD []
  | _ => []

theorem modify_tunnels {f : Pool N → Pool N} {extra : List Nat}
    (hf : ∀ p, (f p).tunnel = p.tunnel ++ extra) (pools : List (Pool N)) (i : Nat) :
    ((pools.modify i f).flatMap Pool.tunnel).Subperm (pools.flatMap Pool.tunnel ++ extra) := by
  induction pools generalizing i with
  | nil =>
    rw [List.modify_nil]
    exact List.nil_subperm
  | cons p pools ih =>
    cases i with
    | zero =>
      rw [List.modify_zero_cons, List.flatMap_cons, List.flatMap_cons, hf, List.append_assoc,
        List.append_assoc]
      exact ((List.Perm.refl p.tunnel).append List.perm_append_comm).subperm
    | succ i =>
      rw [List.modify_succ_cons, List.flatMap_cons, List.flatMap_cons, List.append_assoc]
      exact (List.Subperm.refl p.tunnel).append (ih i)

/-- The range of an option, as `add_range` reads it. -/
def Opt.bounds (opt : Opt N) : Option (Nat × Nat) := opt.range.bind fun r => r.2.parse

def DisjointRanges (opts : List (Opt N)) : Prop :=
  opts.Pairwise fun a b => ∀ r ∈ a.bounds, ∀ r' ∈ b.bounds, r.2 < r'.1 ∨ r'.2 < r.1

theorem tunnelAddrs_cases (opt : Opt N) : opt.tunnelAddrs = [] ∨
    ∃ r ∈ opt.bounds, opt.tunnelAddrs = List.range' r.1 (r.2 + 1 - r.1) := by
  unfold Opt.tunnelAddrs
  split
  · next text hr =>
    cases ha : opt.addrs with
    | none => exact .inl rfl
    | some addrs =>
      unfold Opt.addrs at ha
      rw [hr] at ha
      obtain ⟨r, hparse, hrange⟩ := Option.bind_eq_some_iff.1 ha
      obtain ⟨-, rfl⟩ := of_enabled_unless hrange
      simp_all [Opt.bounds]
  · exact .inl rfl

theorem mem_tunnelAddrs {opt : Opt N} {x : Nat} (h : x ∈ opt.tunnelAddrs) :
    ∃ r ∈ opt.bounds, r.1 ≤ x ∧ x ≤ r.2 := by
  grind [tunnelAddrs_cases]

theorem nodup_tunnelAddrs (opt : Opt N) : opt.tunnelAddrs.Nodup := by
  grind [tunnelAddrs_cases]

variable [DecidableEq N]

theorem findOrCreate_tunnels (name : N) :
    (findOrCreate pools name).1.flatMap Pool.tunnel = pools.flatMap Pool.tunnel := by
  unfold findOrCreate
  split
  · rfl
  · simp [createPool]

theorem optPool_tunnels (name : Option N) :
    (optPool pools name).1.flatMap Pool.tunnel = pools.flatMap Pool.tunnel := by
  cases name with
  | none => rfl
  | some name => exact findOrCreate_tunnels pools name

theorem optNext_tunnels (name : Option N) :
    (optNext pools name).1.flatMap Pool.tunnel = pools.flatMap Pool.tunnel := by
  cases name with
  | none => rfl
  | some name => exact findOrCreate_tunnels pools name

theorem applyOpt_tunnels {pools pools' : List (Pool N)} {opt : Opt N}
    (h : applyOpt pools opt = some pools') :
    (pools'.flatMap Pool.tunnel).Subperm (pools.flatMap Pool.tunnel ++ opt.tunnelAddrs) := by
  obtain ⟨addrs, haddrs, rfl⟩ := Option.map_eq_some_iff.1 h
  have hsame : (optNext (optPool pools opt.pool).1 opt.next).1.flatMap Pool.tunnel =
      pools.flatMap Pool.tunnel := (optNext_tunnels _ _).trans (optPool_tunnels _ _)
  rw [← hsame]
  refine modify_tunnels (fun p => ?_) _ _
  unfold Opt.tunnelAddrs
  rw [haddrs]
  match opt.range with
  | none => exact (List.append_nil _).symm
  | some (.gw, _) => exact (List.append_nil _).symm
  | some (.tunnel, _) => rfl

theorem foldlM_tunnels {opts : List (Opt N)} {pools pools' : List (Pool N)}
    (h : opts.foldlM applyOpt pools = some pools') :
    (pools'.flatMap Pool.tunnel).Subperm
      (pools.flatMap Pool.tunnel ++ opts.flatMap Opt.tunnelAddrs) := by
  induction opts generalizing pools with
  | nil =>
    cases h
    exact (List.sublist_append_left _ _).subperm
  | cons opt opts ih =>
    obtain ⟨mid, hmid, h⟩ := Option.bind_eq_some_iff.1 h
    refine (ih h).trans ?_
    rw [List.flatMap_cons, ← List.append_assoc]
    exact (applyOpt_tunnels hmid).append (List.Subperm.refl _)

/-- **The peer addresses of the items are different** where the ranges are disjoint. -/
theorem generate_peers_nodup {opts : List (Opt N)} {pools : List (Pool N)}
    (hd : DisjointRanges opts) (h : configure opts = some pools) :
    ((generate cf pools).map fun it => it.tag.peerAddr).Nodup := by
  have hall : (opts.flatMap Opt.tunnelAddrs).Nodup := by
    grind [nodup_tunnelAddrs, hd.imp, mem_tunnelAddrs]
  have hsub : ((generate cf pools).map fun it => it.tag.peerAddr).Subperm
      (opts.flatMap Opt.tunnelAddrs) := by
    rw [generate_peers]
    exact (flatMap_items_subperm cf pools 0).trans (foldlM_tunnels h)
  obtain ⟨l, hperm, hl⟩ := hsub
  exact hperm.nodup_iff.1 (hall.sublist hl)

end Generation

/-! ## Items are conserved -/

section Statement

variable {N S : Type*}

def Db.tags (db : Db S) (p : Nat) : List Tag := (db.free p).map Item.tag

def Holds (db : Db S) (ses : S) (g : Tag) : Prop := ∃ it, db.held ses = some (.item it) ∧ it.tag = g

/-- An item is in the list of its own pool, once, and no session has it. -/
structure IsFree (db : Db S) (g : Tag) : Prop where
  once : (db.tags g.pool).count g = 1
  nobody : ∀ ses, ¬ Holds db ses g

/-- An item is in no list, and exactly one session has it. -/
structure IsTaken (db : Db S) (g : Tag) : Prop where
  absent : g ∉ db.tags g.pool
  holder : ∃ ses, Holds db ses g ∧ ∀ ses', Holds db ses' g → ses' = ses

/-- Each of the items `G` is in one place, and no two sessions have one peer address. -/
structure Conserved (G : List Tag) (db : Db S) : Prop where
  placed : ∀ g ∈ G, IsFree db g ∨ IsTaken db g
  elsewhere : ∀ g ∈ G, ∀ p, g ∈ db.tags p → p = g.pool
  peers : ∀ ses ses' h h', db.held ses = some h → db.held ses' = some h' →
    h.peerAddr = h'.peerAddr → ses = ses'

/-- `session_restore` makes items only for peer addresses no item and no session has. -/
def FreshPeer (G : List Tag) (db : Db S) : Event S N → Prop
  | .search ses =>
    match db.pc ses with
    | .restoring _ peerAddr [] =>
      (∀ g ∈ G, g.peerAddr ≠ peerAddr) ∧ ∀ ses' h, db.held ses' = some h → h.peerAddr ≠ peerAddr
    | _ => True
  | _ => True

end Statement

/-! ## The invariant -/

section Invariant

variable {N S : Type*} {G : List Tag} {db db' : Db S} {ses : S}

structure Inv (G : List Tag) (db : Db S) : Prop where
  listed : ∀ p it, it ∈ db.free p → it.tag ∈ G ∧ it.tag.pool = p
  once : ∀ p, (db.tags p).Nodup
  taken : ∀ ses it, db.held ses = some (.item it) → it.tag ∈ G ∧ it.tag ∉ db.tags it.tag.pool
  alone : ∀ ses ses' g, Holds db ses g → Holds db ses' g → ses = ses'
  kept : ∀ g ∈ G, g ∈ db.tags g.pool ∨ ∃ ses, Holds db ses g
  ownPeer : ∀ ses addr peer, db.held ses = some (.own addr peer) → ∀ g ∈ G, g.peerAddr ≠ peer
  ownAlone : ∀ ses ses' addr addr' peer, db.held ses = some (.own addr peer) →
    db.held ses' = some (.own addr' peer) → ses = ses'
  waits : ∀ ses, db.pc ses ≠ .idle → db.held ses = none

theorem Inv.tags_pool (hi : Inv G db) {g : Tag} {p : Nat} (h : g ∈ db.tags p) : p = g.pool := by
  obtain ⟨it, hit, rfl⟩ := List.mem_map.1 h
  exact (hi.listed p it hit).2.symm

theorem Inv.conserved (hi : Inv G db)
    (hpeer : ∀ g ∈ G, ∀ g' ∈ G, g.peerAddr = g'.peerAddr → g = g') : Conserved G db := by
  constructor
  case placed =>
    intro g hg
    by_cases hmem : g ∈ db.tags g.pool
    · refine .inl ⟨List.count_eq_one_of_mem (hi.once _) hmem, ?_⟩
      rintro ses ⟨it, hit, rfl⟩
      exact (hi.taken ses it hit).2 hmem
    · obtain ⟨ses, hses⟩ := (hi.kept g hg).resolve_left hmem
      exact .inr ⟨hmem, ses, hses, fun ses' h => hi.alone ses' ses g h hses⟩
  case elsewhere => exact fun g _ p h => hi.tags_pool h
  case peers =>
    intro ses ses' h h' hh hh' heq
    cases h with
    | item it =>
      cases h' with
      | item it' =>
        have htag := hpeer _ (hi.taken ses it hh).1 _ (hi.taken ses' it' hh').1 heq
        exact hi.alone ses ses' it.tag ⟨it, hh, rfl⟩ ⟨it', hh', htag.symm⟩
      | own addr peer => exact absurd heq (hi.ownPeer ses' addr peer hh' _ (hi.taken ses it hh).1)
    | own addr peer =>
      cases h' with
      | item it' => exact absurd heq.symm (hi.ownPeer ses addr peer hh _ (hi.taken ses' it' hh').1)
      | own addr' peer' =>
        cases heq
        exact hi.ownAlone ses ses' addr addr' _ hh hh'

theorem init_inv (cf : Conf) (pools : List (Pool N)) :
    Inv ((generate cf pools).map Item.tag) (Db.init cf pools : Db S) where
  listed p it h := by
    obtain ⟨hmem, hp⟩ := List.mem_filter.1 h
    exact ⟨List.mem_map.2 ⟨it, hmem, rfl⟩, of_decide_eq_true hp⟩
  once p := (generate_tags_nodup cf pools).sublist (List.filter_sublist.map _)
  taken _ _ h := nomatch h
  alone _ _ _ h := nomatch h.choose_spec.1
  kept g hg := by
    obtain ⟨it, hit, rfl⟩ := List.mem_map.1 hg
    exact .inl (List.mem_map.2 ⟨it, List.mem_filter.2 ⟨hit, decide_eq_true rfl⟩, rfl⟩)
  ownPeer _ _ _ h := nomatch h
  ownAlone _ _ _ _ _ h := nomatch h
  waits _ _ := rfl

/-! ## Where the items are -/

/-- What a session has: an item of a pool, or an item of its own for a peer address. -/
def Held.key : Held → Tag ⊕ Nat
  | .item it => .inl it.tag
  | .own _ peerAddr => .inr peerAddr

def Db.keys (db : Db S) : S → Option (Tag ⊕ Nat) := Option.map Held.key ∘ db.held

/-- The invariant, of the tags in the lists and with the sessions. -/
structure Placed (G : List Tag) (tags : Nat → List Tag) (keys : S → Option (Tag ⊕ Nat)) : Prop where
  listed : ∀ p, ∀ g ∈ tags p, g ∈ G ∧ g.pool = p
  once : ∀ p, (tags p).Nodup
  taken : ∀ s g, keys s = some (.inl g) → g ∈ G ∧ g ∉ tags g.pool
  own : ∀ s peer, keys s = some (.inr peer) → ∀ g ∈ G, g.peerAddr ≠ peer
  alone : ∀ s s' k, keys s = some k → keys s' = some k → s = s'
  kept : ∀ g ∈ G, g ∈ tags g.pool ∨ ∃ s, keys s = some (.inl g)

theorem holds_iff {g : Tag} : Holds db ses g ↔ db.keys ses = some (.inl g) := by
  unfold Holds
  rw [Db.keys, Function.comp_apply]
  cases db.held ses with
  | none => simp
  | some h => cases h <;> simp [Held.key]

theorem keys_own {peer : Nat} :
    db.keys ses = some (.inr peer) ↔ ∃ addr, db.held ses = some (.own addr peer) := by
  rw [Db.keys, Function.comp_apply]
  cases db.held ses with
  | none => simp
  | some h => cases h <;> simp [Held.key]

theorem Inv.placed (hi : Inv G db) : Placed G db.tags db.keys where
  listed p g hg := by
    obtain ⟨it, hit, rfl⟩ := List.mem_map.1 hg
    exact hi.listed p it hit
  once := hi.once
  taken s g h := by
    obtain ⟨it, hit, rfl⟩ := holds_iff.2 h
    exact hi.taken s it hit
  own s peer h := by
    obtain ⟨addr, h⟩ := keys_own.1 h
    exact hi.ownPeer s addr peer h
  alone s s' k h h' := by
    cases k with
    | inl g => exact hi.alone s s' g (holds_iff.2 h) (holds_iff.2 h')
    | inr peer =>
      obtain ⟨addr, h⟩ := keys_own.1 h
      obtain ⟨addr', h'⟩ := keys_own.1 h'
      exact hi.ownAlone s s' addr addr' peer h h'
  kept g hg := (hi.kept g hg).imp_right fun ⟨s, h⟩ => ⟨s, holds_iff.1 h⟩

theorem Placed.inv (h : Placed G db.tags db.keys) (hw : ∀ s, db.pc s ≠ .idle → db.held s = none) :
    Inv G db where
  listed p it hit := h.listed p it.tag (List.mem_map_of_mem hit)
  once := h.once
  taken s it hit := h.taken s it.tag (holds_iff.1 ⟨it, hit, rfl⟩)
  alone s s' _ hs hs' := h.alone s s' _ (holds_iff.1 hs) (holds_iff.1 hs')
  kept g hg := (h.kept g hg).imp_right fun ⟨s, hs⟩ => ⟨s, holds_iff.2 hs⟩
  ownPeer s addr peer hs := h.own s peer (keys_own.2 ⟨addr, hs⟩)
  ownAlone s s' addr addr' _ hs hs' :=
    h.alone s s' _ (keys_own.2 ⟨addr, hs⟩) (keys_own.2 ⟨addr', hs'⟩)
  waits := hw

variable [DecidableEq S]

section Changes

variable {tags : Nat → List Tag} {keys : S → Option (Tag ⊕ Nat)} {g : Tag}

variable (h : Placed G tags keys)
include h

theorem Placed.take {p : Nat} {rest : List Tag} (hperm : (g :: rest).Perm (tags p))
    (hnone : keys ses = none) :
    Placed G (Function.update tags p rest) (Function.update keys ses (some (.inl g))) := by
  have hmem : ∀ x, x ∈ tags p ↔ x = g ∨ x ∈ rest := by simp [← hperm.mem_iff]
  have hnodup := hperm.nodup_iff.2 (h.once p)
  have hlisted := h.listed p
  constructor
  case listed => grind [h.listed]
  case once => grind [h.once]
  case taken => grind [h.taken]
  case own => grind [h.own]
  case alone => grind [h.alone, h.taken]
  case kept =>
    intro x hx
    by_cases hxg : x = g
    · exact .inr ⟨ses, by simp [hxg]⟩
    · rcases h.kept x hx with hin | ⟨s, hs⟩
      · grind
      · exact .inr ⟨s, by grind⟩

theorem Placed.put (hk : keys ses = some (.inl g)) :
    Placed G (Function.update tags g.pool (tags g.pool ++ [g])) (Function.update keys ses none) := by
  obtain ⟨hg, habsent⟩ := h.taken ses g hk
  constructor
  case listed => grind [h.listed]
  case once => grind [h.once]
  case taken => grind [h.taken, h.alone]
  case own => grind [h.own]
  case alone => grind [h.alone]
  case kept =>
    intro x hx
    rcases h.kept x hx with hin | ⟨s, hs⟩
    · grind
    · by_cases hss : s = ses
      · grind
      · exact .inr ⟨s, by simp [hss, hs]⟩

theorem Placed.change (hold : ∀ g, keys ses ≠ some (.inl g)) {k : Option Nat}
    (hnew : ∀ peer ∈ k, (∀ g ∈ G, g.peerAddr ≠ peer) ∧ ∀ s, keys s ≠ some (.inr peer)) :
    Placed G tags (Function.update keys ses (k.map .inr)) := by
  have hself : ∀ x : Tag ⊕ Nat, k.map .inr = some x → ∃ peer ∈ k, x = .inr peer := by
    cases k <;> simp
  constructor
  case listed => exact h.listed
  case once => exact h.once
  case taken => grind [h.taken]
  case own => grind [h.own]
  case alone => grind [h.alone]
  case kept =>
    refine fun g hg => (h.kept g hg).imp_right fun ⟨s, hs⟩ => ⟨s, ?_⟩
    rw [Function.update_of_ne]
    · exact hs
    · rintro rfl
      exact hold g hs

end Changes

variable (hi : Inv G db)
include hi

theorem setPc_inv {pc : Pc} (h : pc = .idle ∨ db.held ses = none) : Inv G (db.setPc ses pc) := by
  refine Placed.inv (by exact hi.placed) fun s hs => ?_
  by_cases hss : s = ses
  · simp_all [Db.setPc]
  simp_all [Db.setPc, hi.waits]

omit hi in
theorem keys_give (db : Db S) (h : Held) :
    (db.give ses h).keys = Function.update db.keys ses (some h.key) :=
  Function.comp_update ..

omit hi [DecidableEq S] in
theorem tags_setFree (db : Db S) (p : Nat) (items : List Item) :
    (db.setFree p items).tags = Function.update db.tags p (items.map Item.tag) :=
  Function.comp_update (List.map Item.tag) ..

theorem give_waits (h : Held) (s : S) (hs : (db.give ses h).pc s ≠ .idle) :
    (db.give ses h).held s = none := by
  by_cases hss : s = ses
  · subst hss
    exact absurd (by simp [Db.give]) hs
  simp_all [hi.waits, Db.give]

theorem take_inv {p : Nat} {it it' : Item} {rest : List Item}
    (hperm : (it :: rest).Perm (db.free p)) (htag : it'.tag = it.tag) (hnone : db.held ses = none) :
    Inv G ((db.setFree p rest).give ses (.item it')) := by
  refine Placed.inv ?_ (give_waits hi (.item it'))
  rw [keys_give, Held.key, htag]
  show Placed G (db.setFree p rest).tags _
  rw [tags_setFree]
  exact hi.placed.take (hperm.map Item.tag) (by simp [Db.keys, hnone])

theorem own_inv {addr peer : Nat} (hnone : db.held ses = none)
    (hG : ∀ g ∈ G, g.peerAddr ≠ peer) (hs : ∀ s h, db.held s = some h → h.peerAddr ≠ peer) :
    Inv G (db.give ses (.own addr peer)) := by
  refine Placed.inv ?_ (give_waits hi (.own addr peer))
  rw [keys_give]
  refine hi.placed.change (k := some peer) (by simp [Db.keys, hnone]) ?_
  rintro _ ⟨⟩
  refine ⟨hG, fun s hk => ?_⟩
  obtain ⟨a, ha⟩ := keys_own.1 hk
  exact hs s _ ha rfl

theorem putIp_inv {h : Held} (hh : db.held ses = some h) : Inv G (putIp ses h db) := by
  have hk : db.keys ses = some h.key := by simp [Db.keys, hh]
  have hkeys : (putIp ses h db).keys = Function.update db.keys ses none := by
    cases h <;> exact Function.comp_update ..
  refine Placed.inv ?_ fun s hs => ?_
  · rw [hkeys]
    cases h with
    | item it =>
      show Placed G (db.setFree it.tag.pool (db.free it.tag.pool ++ [it])).tags _
      rw [tags_setFree, List.map_append]
      exact hi.placed.put hk
    | own addr peer => exact hi.placed.change (k := none) (by simp [hk, Held.key]) nofun
  · have hheld : (putIp ses h db).held = Function.update db.held ses none := by cases h <;> rfl
    have hwaits := hi.waits s (by cases h <;> exact hs)
    rw [hheld, Function.update_apply, hwaits, ite_self]

theorem setAddr_inv {h : Held} {addr : Nat} (hh : db.held ses = some h) :
    Inv G { db with held := Function.update db.held ses (some (h.setAddr addr)) } := by
  have hkey : (h.setAddr addr).key = h.key := by cases h <;> rfl
  refine Placed.inv ?_ fun s hs => ?_
  · have hkeys : Option.map Held.key ∘ Function.update db.held ses (some (h.setAddr addr)) =
        db.keys := by
      rw [Function.comp_update, Option.map_some, hkey]
      exact Function.update_eq_self_iff.2 (by simp [hh])
    show Placed G db.tags (Option.map Held.key ∘ _)
    rw [hkeys]
    exact hi.placed
  · have hnone := hi.waits s hs
    grind

end Invariant

/-! ## Runs -/

section Runs

variable {N S : Type*} [DecidableEq S] {G : List Tag} {db db' : Db S} {cf : Conf}
  {pools : List (Pool N)}

theorem getTurn_inv (hi : Inv G db) {ses : S} {ppp : Bool} {start pool : Nat}
    (hnone : db.held ses = none) : Inv G (getTurn cf pools ses ppp start pool db) := by
  grind [getTurn, take_inv, setPc_inv]

variable [DecidableEq N]

theorem step_inv {e : Event S N} (hi : Inv G db) (hc : FreshPeer G db e)
    (h : step cf pools db e = some db') : Inv G db' := by
  cases e with
  | get ses name ppp =>
    obtain ⟨⟨hnone, -⟩, h⟩ := Option.ite_none_right_eq_some.1 h
    grind [setPc_inv]
  | probe ses => grind [step, getTurn_inv, hi.waits]
  | put ses => grind [step, putIp_inv]
  | setAddr ses addr => grind [step, setAddr_inv]
  | restore ses addr peer =>
    obtain ⟨⟨hnone, -⟩, rfl⟩ := of_enabled_if h
    exact setPc_inv hi (.inr hnone)
  | search ses =>
    cases hpc : db.pc ses with
    | restoring addr peer rest =>
      have hnone := hi.waits ses fun h => nomatch hpc.symm.trans h
      rw [step, hpc] at h
      cases h
      cases rest with
      | nil =>
        rw [FreshPeer, hpc] at hc
        exact own_inv hi hnone hc.1 hc.2
      | cons pool rest => grind [restoreTurn, take_inv, List.perm_cons_erase, setPc_inv]
    | _ => rw [step, hpc] at h; cases h

/-- **Conservation.** If `session_restore` makes items only for peer addresses nobody has, each
generated item is always in the list of its pool, once, or with one session, and no two sessions
have the same peer address. -/
theorem items_conserved (cf : Conf) (opts : List (Opt N)) (pools : List (Pool N))
    (hd : DisjointRanges opts) (hp : configure opts = some pools) (es : List (Event S N))
    (hg : Guarded (step cf pools) (FreshPeer ((generate cf pools).map Item.tag))
      (Db.init cf pools : Db S) es) :
    Throughout (step cf pools) (Conserved ((generate cf pools).map Item.tag))
      (Db.init cf pools : Db S) es := by
  have hpeers := generate_peers_nodup cf hd hp
  have hinj : ∀ g ∈ (generate cf pools).map Item.tag, ∀ g' ∈ (generate cf pools).map Item.tag,
      g.peerAddr = g'.peerAddr → g = g' := by
    intro g hg g' hg' heq
    have hcomp : ((generate cf pools).map fun it => it.tag.peerAddr) =
        ((generate cf pools).map Item.tag).map Tag.peerAddr := by
      rw [List.map_map]
      rfl
    rw [hcomp] at hpeers
    exact List.inj_on_of_nodup_map hpeers hg hg' heq
  exact (hg.throughout (fun _ _ _ hi hc h => step_inv hi hc h) (init_inv cf pools)).mono
    fun _ hi => hi.conserved hinj

end Runs

/-! ## A pool of two addresses -/

/-- `10.0.0.1-2` in the default pool. -/
def twoAddrs : List (Opt Nat) := [⟨none, .p2p, none, some (.tunnel, .dash 10 0 0 1 2)⟩]

/-- The gateway is `10.0.0.254`, and nothing is shuffled. -/
def plainConf : Conf := ⟨dotted 10 0 0 254, false, fun _ _ => 0⟩

def twoPools : List (Pool Nat) := [⟨none, [], [dotted 10 0 0 1, dotted 10 0 0 2], some .p2p, none⟩]

def foundRun : List (Event Bool Nat) :=
  [.get false none true, .get true none true, .probe false, .probe true, .put false,
    .restore false (dotted 10 0 0 254) (dotted 10 0 0 1), .search false]

/-- After a restart a session that had written its own address is restored, and another one gets
an address. -/
def missedRun : List (Event Bool Nat) :=
  [.restore false (dotted 10 0 0 253) (dotted 10 0 0 1), .search false, .search false,
    .get true none false, .probe true]

instance (G : List Tag) (db : Db Bool) (e : Event Bool Nat) : Decidable (FreshPeer G db e) :=
  match e with
  | .search ses =>
    match h : db.pc ses with
    | .restoring _ peerAddr [] =>
      decidable_of_iff ((∀ g ∈ G, g.peerAddr ≠ peerAddr) ∧
          ∀ ses' : Bool, ∀ h ∈ db.held ses', h.peerAddr ≠ peerAddr)
        (by rw [FreshPeer, h]; exact Iff.rfl)
    | .restoring _ _ (_ :: _) | .idle | .getting _ _ _ => isTrue (by rw [FreshPeer, h]; trivial)
  | .get _ _ _ | .probe _ | .put _ | .setAddr _ _ | .restore _ _ _ => isTrue trivial

/-- A session that is restored with its item. -/
theorem items_conserved_found : configure twoAddrs = some twoPools ∧
    Throughout (step plainConf twoPools) (Conserved ((generate plainConf twoPools).map Item.tag))
      (Db.init plainConf twoPools : Db Bool) foundRun :=
  ⟨by decide +kernel, items_conserved plainConf twoAddrs twoPools
    (List.pairwise_singleton _ _) (by decide +kernel) foundRun (by decide +kernel)⟩

/-- **One address for two sessions.** -/
theorem restored_peer_given_twice : configure twoAddrs = some twoPools ∧
    ∃ db : Db Bool, run (step plainConf twoPools) (Db.init plainConf twoPools) missedRun = some db ∧
      (db.held false).map Held.peerAddr = some (dotted 10 0 0 1) ∧
      (db.held true).map Held.peerAddr = some (dotted 10 0 0 1) ∧
      ¬ Conserved ((generate plainConf twoPools).map Item.tag) db := by
  refine ⟨by decide +kernel, ?_⟩
  obtain ⟨db, hr, hf, ht⟩ : ∃ db : Db Bool,
      run (step plainConf twoPools) (Db.init plainConf twoPools) missedRun = some db ∧
      (db.held false).map Held.peerAddr = some (dotted 10 0 0 1) ∧
      (db.held true).map Held.peerAddr = some (dotted 10 0 0 1) := by decide +kernel
  refine ⟨db, hr, hf, ht, fun hc => ?_⟩
  obtain ⟨h, hh, hpeer⟩ := Option.map_eq_some_iff.1 hf
  obtain ⟨h', hh', hpeer'⟩ := Option.map_eq_some_iff.1 ht
  exact nomatch hc.peers false true h h' hh hh' (hpeer.trans hpeer'.symm)

end Ippool
