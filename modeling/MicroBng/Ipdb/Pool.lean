import Mathlib.Algebra.Group.Nat.Defs
import MicroBng.Lib.Machine

/-!
# The IPv4 address pools

`extra/ippool.c` makes items out of the configured ranges: each has the address of a client, its
peer address, and an own address that is set again whenever the item is handed out. An item is in
the list of its pool until a session takes it with `get_ip`, and comes back with `put_ip`. After a
restart `session_restore` looks for the item of a session in all pools, or else makes one.

* Addresses are numbers in host byte order. An option is modelled from the point where its names
  have been cut out of the text and `sscanf` has read the numbers of its range.
* An item is the same thing through its whole life; `Tag` is what never changes of it.
* `get_ip` and `session_restore` lock one pool after another. What they do with one pool is one
  step, so other sessions may come in between.
* A session asks for an address only while it has none.
-/

namespace Ippool

open Machine

/-! ## Ranges -/

/-- What `sscanf` has read of `x.x.x.x/mask` or of `x.x.x.x-y`. -/
inductive RangeText
  | cidr (f1 f2 f3 f4 m : Nat)
  | dash (f1 f2 f3 f4 f5 : Nat)

def dotted (f1 f2 f3 f4 : Nat) : Nat := f1 <<< 24 ||| f2 <<< 16 ||| f3 <<< 8 ||| f4

/-- `parse1` and `parse2`. -/
def RangeText.parse : RangeText → Option (Nat × Nat)
  | .cidr f1 f2 f3 f4 m =>
    if f1 > 255 ∨ f2 > 255 ∨ f3 > 255 ∨ f4 > 255 then none
    else if m = 0 ∨ m > 32 then none
    else
      some (dotted f1 f2 f3 f4, dotted f1 f2 f3 f4 ||| if m = 32 then 0 else 1 <<< (32 - m) - 1)
  | .dash f1 f2 f3 f4 f5 =>
    if f1 > 255 ∨ f2 > 255 ∨ f3 > 255 ∨ f4 > 255 then none
    else if f5 < f4 ∨ f5 > 255 then none
    else some (dotted f1 f2 f3 f4, dotted f1 f2 f3 f5)

/-- The loop of `add_range` from the address `i` on, with bounded turns. -/
def addFrom (endip : Nat) : Nat → Nat → Option (List Nat)
  | 0, _ => none
  | n + 1, i => if i ≤ endip then (addFrom endip n ((i + 1) % 2 ^ 32)).map (i :: ·) else some []

/-- What the loop adds (`rangeAddrs_eq_some_iff`); it never ends for a range up to the last address. -/
def rangeAddrs (startip endip : Nat) : Option (List Nat) :=
  if endip = 2 ^ 32 - 1 then none else some (List.range' startip (endip + 1 - startip))

theorem dotted_lt {f1 f2 f3 f4 : Nat} (h : ¬ (f1 > 255 ∨ f2 > 255 ∨ f3 > 255 ∨ f4 > 255)) :
    dotted f1 f2 f3 f4 < 2 ^ 32 := by
  unfold dotted
  refine Nat.or_lt_two_pow (Nat.or_lt_two_pow (Nat.or_lt_two_pow ?_ ?_) ?_) ?_ <;> omega

variable {text : RangeText} {r : Nat × Nat}

theorem parse_lt (h : text.parse = some r) : r.1 < 2 ^ 32 ∧ r.2 < 2 ^ 32 := by
  cases text with
  | cidr f1 f2 f3 f4 m =>
    simp only [RangeText.parse, Option.ite_none_left_eq_some] at h
    obtain ⟨hf, -, ⟨⟩⟩ := h
    refine ⟨dotted_lt hf, Nat.or_lt_two_pow (dotted_lt hf) ?_⟩
    split
    · decide
    · have := Nat.pow_le_pow_right (n := 2) (by decide) (Nat.sub_le 32 m)
      omega
  | dash f1 f2 f3 f4 f5 =>
    simp only [RangeText.parse, Option.ite_none_left_eq_some] at h
    obtain ⟨hf, hm, ⟨⟩⟩ := h
    exact ⟨dotted_lt hf, dotted_lt (by omega)⟩

theorem addFrom_eq {e : Nat} (he : e + 1 < 2 ^ 32) (n i : Nat) :
    addFrom e n i = if e + 1 - i < n then some (List.range' i (e + 1 - i)) else none := by
  induction n generalizing i with
  | zero => rfl
  | succ n ih =>
    unfold addFrom
    split
    · have hk : e + 1 - i = e + 1 - (i + 1) + 1 := by omega
      rw [Nat.mod_eq_of_lt (by omega), ih (i + 1), hk, List.range'_succ]
      simp
    · rw [Nat.sub_eq_zero_of_le (by omega)]
      rfl

theorem addFrom_last (n i : Nat) (hi : i < 2 ^ 32) : addFrom (2 ^ 32 - 1) n i = none := by
  induction n generalizing i with
  | zero => rfl
  | succ n ih =>
    rw [addFrom, if_pos (by omega), ih _ (Nat.mod_lt _ (by decide)), Option.map_none]

theorem rangeAddrs_eq_some_iff {s e : Nat} {l : List Nat} (hs : s < 2 ^ 32) (he : e < 2 ^ 32) :
    rangeAddrs s e = some l ↔ ∃ n, addFrom e n s = some l := by
  by_cases hlast : e = 2 ^ 32 - 1
  · rw [rangeAddrs, if_pos hlast, hlast]
    simp only [addFrom_last _ s hs, exists_const]
  · rw [rangeAddrs, if_neg hlast]
    simp only [addFrom_eq (show e + 1 < 2 ^ 32 by omega), Option.ite_none_right_eq_some]
    exact ⟨fun h => ⟨e + 2, by omega, h⟩, fun ⟨_, _, h⟩ => h⟩

/-- **Expansion of a range**: the loop adds its addresses and returns unless the range goes up to the
last address. -/
theorem expands_iff (h : text.parse = some r) :
    (∃ n, addFrom r.2 n r.1 = some (List.range' r.1 (r.2 + 1 - r.1))) ↔ r.2 ≠ 2 ^ 32 - 1 := by
  obtain ⟨h1, h2⟩ := parse_lt h
  rw [← rangeAddrs_eq_some_iff h1 h2, rangeAddrs]
  split <;> simp_all

theorem expands_iff_dash : ∃ n, addFrom (dotted 10 0 0 3) n (dotted 10 0 0 1) =
    some [dotted 10 0 0 1, dotted 10 0 0 2, dotted 10 0 0 3] :=
  (@expands_iff (.dash 10 0 0 1 3) _ rfl).2 (by decide)

/-- `255.255.255.254-255` is accepted, and the loop goes on for ever. -/
theorem last_address_endless :
    RangeText.parse (.dash 255 255 255 254 255) = some (2 ^ 32 - 2, 2 ^ 32 - 1) ∧
      ∀ n, addFrom (2 ^ 32 - 1) n (2 ^ 32 - 2) = none :=
  ⟨by decide, fun n => addFrom_last n _ (by decide)⟩

/-! ## Configuration -/

variable {N : Type*}

/-- `generate_pool_p2p` or `generate_pool_net30`. -/
inductive Allocator
  | p2p | net30
  deriving DecidableEq

inductive Target
  | gw | tunnel

/-- `struct ippool_t` while it is configured; pools are numbered. -/
structure Pool (N : Type*) where
  name : Option N
  gw : List Nat
  tunnel : List Nat
  generate : Option Allocator
  next : Option Nat
  deriving DecidableEq

/-- An option of the section: its pool, the next one, the allocator, the range and its list. -/
structure Opt (N : Type*) where
  pool : Option N
  allocator : Allocator
  next : Option N
  range : Option (Target × RangeText)

/-- The other options; `rnd` are the bytes of `get_random` for each pool. -/
structure Conf where
  gwIpAddress : Nat
  shuffle : Bool
  rnd : Nat → Nat → UInt8

def createPool (name : Option N) : Pool N := ⟨name, [], [], none, none⟩

variable [DecidableEq N]

/-- `find_pool` without `create`. -/
def findPool (pools : List (Pool N)) (name : N) : Option Nat :=
  pools.findIdx? fun p => p.name = some name

/-- `find_pool` with `create`. -/
def findOrCreate (pools : List (Pool N)) (name : N) : List (Pool N) × Nat :=
  match findPool pools name with
  | some i => (pools, i)
  | none => (pools ++ [createPool (some name)], pools.length)

def optPool (pools : List (Pool N)) : Option N → List (Pool N) × Nat
  | none => (pools, 0)
  | some name => findOrCreate pools name

def optNext (pools : List (Pool N)) : Option N → List (Pool N) × Option Nat
  | none => (pools, none)
  | some name => ((findOrCreate pools name).1, some (findOrCreate pools name).2)

/-- `add_range` on a pool. -/
def Pool.addRange (p : Pool N) (target : Target) (addrs : List Nat) (generate : Allocator) :
    Pool N :=
  match target with
  | .gw => { p with gw := p.gw ++ addrs, generate := some generate }
  | .tunnel => { p with tunnel := p.tunnel ++ addrs, generate := some generate }

def Opt.addrs (opt : Opt N) : Option (List Nat) :=
  match opt.range with
  | none => some []
  | some (_, text) => text.parse.bind fun r => rangeAddrs r.1 r.2

/-- The loop body of `ippool_init2`: `parse_options` and `add_range`. -/
def applyOpt (pools : List (Pool N)) (opt : Opt N) : Option (List (Pool N)) :=
  let pool := optPool pools opt.pool
  let next := optNext pool.1 opt.next
  opt.addrs.map fun addrs =>
    next.1.modify pool.2 fun p =>
      let p := match opt.range with
        | none => p
        | some (target, _) => p.addRange target addrs opt.allocator
      { p with next := next.2.or p.next }

def configure (opts : List (Opt N)) : Option (List (Pool N)) :=
  opts.foldlM applyOpt [createPool none]

/-! ## Generation -/

/-- The shuffle: the bytes read and two positions; behind the last is the head of the list. -/
structure Walk where
  used : Nat
  pos1 : Nat
  pos2 : Nat

def nextPos (n i : Nat) : Nat := if i = n then 0 else i + 1

def prevPos (n i : Nat) : Nat := if i = 0 then n else i - 1

/-- A position after the entry at `pos` has been taken out. -/
def shiftPos (pos i : Nat) : Nat := if pos < i then i - 1 else i

/-- The walk goes on from both positions without taking an entry. -/
def Walk.advance (n : Nat) (w : Walk) : Walk :=
  ⟨w.used + 1, nextPos n (if w.pos1 = n then nextPos n w.pos1 else w.pos1),
    prevPos n (if w.pos2 = n then prevPos n w.pos2 else w.pos2)⟩

/-- The entry that is taken for `r`, and the walk after it. -/
def Walk.pick (n r : Nat) (w : Walk) : Nat × Walk :=
  let pos := if r < 32 then (if w.pos1 = n then nextPos n w.pos1 else w.pos1)
    else if w.pos2 = n then prevPos n w.pos2 else w.pos2
  let w' := w.advance n
  let pos1 := if pos = w'.pos1 then nextPos n w'.pos1 else w'.pos1
  let pos2 := if pos = w'.pos2 then prevPos n w'.pos2 else w'.pos2
  (pos, ⟨w'.used, shiftPos pos pos1, shiftPos pos pos2⟩)

/-- The turns of `generate_pool_p2p` for an entry: after ten bytes too large one modulo 64. -/
def shufflePick (rnd : Nat → UInt8) (n : Nat) : Nat → Walk → Nat × Walk
  | 0, w => w.pick n ((rnd w.used).toNat % 64)
  | tries + 1, w =>
    if 64 ≤ (rnd w.used).toNat then shufflePick rnd n tries (w.advance n)
    else w.pick n (rnd w.used).toNat

/-- `generate_pool_p2p`: own and peer addresses; each turn takes an entry off the tunnel list. -/
def generateP2p (cf : Conf) (rnd : Nat → UInt8) :
    Nat → List Nat → List Nat → Walk → List (Nat × Nat)
  | 0, _, _, _ => []
  | turns + 1, tunnel, gw, w =>
    let choice := if cf.shuffle then shufflePick rnd tunnel.length 10 w else (0, w)
    match tunnel[choice.1]? with
    | none => []
    | some peer =>
      let tunnel := tunnel.eraseIdx choice.1
      if cf.gwIpAddress = 0 then
        match gw with
        | [] => []
        | addr :: gw => (addr, peer) :: generateP2p cf rnd turns tunnel gw choice.2
      else if cf.gwIpAddress = peer then generateP2p cf rnd turns tunnel gw choice.2
      else (cf.gwIpAddress, peer) :: generateP2p cf rnd turns tunnel gw choice.2

/-- `generate_pool_net30`: the second and third of every four addresses. -/
def generateNet30 : List Nat → List (Nat × Nat)
  | _ :: a1 :: a2 :: _ :: rest => (a1, a2) :: generateNet30 rest
  | [_, a1, a2] => [(a1, a2)]
  | _ => []

def Pool.items (cf : Conf) (i : Nat) (p : Pool N) : List (Nat × Nat) :=
  match p.generate with
  | none => []
  | some .p2p => generateP2p cf (cf.rnd i) p.tunnel.length p.tunnel p.gw ⟨0, 0, p.tunnel.length - 1⟩
  | some .net30 => generateNet30 p.tunnel

structure Tag where
  id : Nat
  pool : Nat
  peerAddr : Nat
  deriving DecidableEq

/-- `struct ippool_item_t`. -/
structure Item where
  tag : Tag
  addr : Nat
  mask : Nat
  deriving DecidableEq

/-- The end of `ippool_init2`: the items of all pools. -/
def generate (cf : Conf) (pools : List (Pool N)) : List Item :=
  (pools.zipIdx.flatMap fun p => (p.1.items cf p.2).map fun a => (p.2, a)).zipIdx.map fun x =>
    ⟨⟨x.2, x.1.1, x.1.2.2⟩, x.1.2.1, 0⟩

/-! ## Sessions -/

/-- `ses->ipv4`: an item of a pool, or one made by `session_restore` (`ipdb_b`). -/
inductive Held
  | item (it : Item)
  | own (addr peerAddr : Nat)

def Held.peerAddr : Held → Nat
  | .item it => it.tag.peerAddr
  | .own _ peerAddr => peerAddr

def Held.setAddr (addr : Nat) : Held → Held
  | .item it => .item { it with addr := addr }
  | .own _ peerAddr => .own addr peerAddr

/-- Where a session is: in `get_ip` with its first pool and the present one, or in `session_restore`
with the pools left. -/
inductive Pc
  | idle
  | getting (ppp : Bool) (start pool : Nat)
  | restoring (addr peerAddr : Nat) (rest : List Nat)
  deriving DecidableEq

variable {S : Type*}

/-- The lists `items` of the pools, and the sessions. -/
structure Db (S : Type*) where
  free : Nat → List Item
  held : S → Option Held
  pc : S → Pc

/-- After `ippool_init2`. -/
def Db.init (cf : Conf) (pools : List (Pool N)) : Db S where
  free i := (generate cf pools).filter fun it => it.tag.pool = i
  held _ := none
  pc _ := .idle

inductive Event (S N : Type*)
  /-- `get_ip` begins. -/
  | get (ses : S) (name : Option N) (ppp : Bool)
  /-- `get_ip` looks at a pool. -/
  | probe (ses : S)
  | put (ses : S)
  /-- `__ipoe_session_start` writes the own address into the session's item. -/
  | setAddr (ses : S) (addr : Nat)
  /-- `session_restore` begins, with the two addresses of the backup. -/
  | restore (ses : S) (addr peerAddr : Nat)
  /-- `session_restore` looks at a pool, or has looked at all. -/
  | search (ses : S)

/-- The pool `get_ip` begins with. -/
def startPool (pools : List (Pool N)) : Option N → Option Nat
  | none => some 0
  | some name => findPool pools name

/-- `pool->next`. -/
def nextPool (pools : List (Pool N)) (i : Nat) : Option Nat := (pools[i]?).bind Pool.next

variable [DecidableEq S]

def Db.give (db : Db S) (ses : S) (h : Held) : Db S :=
  { db with held := Function.update db.held ses (some h), pc := Function.update db.pc ses .idle }

def Db.setPc (db : Db S) (ses : S) (pc : Pc) : Db S :=
  { db with pc := Function.update db.pc ses pc }

def Db.setFree (db : Db S) (i : Nat) (items : List Item) : Db S :=
  { db with free := Function.update db.free i items }

/-- One turn of the loop of `get_ip`. -/
def getTurn (cf : Conf) (pools : List (Pool N)) (ses : S) (ppp : Bool) (start pool : Nat)
    (db : Db S) : Db S :=
  match db.free pool with
  | it :: rest =>
    (db.setFree pool rest).give ses
      (.item { it with addr := if ppp then cf.gwIpAddress else 0, mask := 0 })
  | [] =>
    match nextPool pools pool with
    | none => db.setPc ses .idle
    | some next => if next = start then db.setPc ses .idle else db.setPc ses (.getting ppp start next)

/-- The test of `session_restore`. -/
def Item.matches (addr peerAddr : Nat) (it : Item) : Bool :=
  decide (peerAddr = it.tag.peerAddr ∧ addr = it.addr)

/-- `session_restore` with one pool, or its end. -/
def restoreTurn (ses : S) (addr peerAddr : Nat) (rest : List Nat) (db : Db S) : Db S :=
  match rest with
  | pool :: rest =>
    match (db.free pool).find? (Item.matches addr peerAddr) with
    | some it => (db.setFree pool ((db.free pool).erase it)).give ses (.item it)
    | none => db.setPc ses (.restoring addr peerAddr rest)
  | [] => db.give ses (.own addr peerAddr)

/-- `put_ip` and `put_ip_b`. -/
def putIp (ses : S) (h : Held) (db : Db S) : Db S :=
  let db := { db with held := Function.update db.held ses none }
  match h with
  | .item it => db.setFree it.tag.pool (db.free it.tag.pool ++ [it])
  | .own _ _ => db

def step (cf : Conf) (pools : List (Pool N)) (db : Db S) : Event S N → Option (Db S)
  | .get ses name ppp =>
    if db.held ses = none ∧ db.pc ses = .idle then
      match startPool pools name with
      | none => some db
      | some pool => some (db.setPc ses (.getting ppp pool pool))
    else none
  | .probe ses =>
    match db.pc ses with
    | .getting ppp start pool => some (getTurn cf pools ses ppp start pool db)
    | _ => none
  | .put ses =>
    match db.held ses with
    | some h => some (putIp ses h db)
    | none => none
  | .setAddr ses addr =>
    match db.held ses with
    | some h => some { db with held := Function.update db.held ses (some (h.setAddr addr)) }
    | none => none
  | .restore ses addr peerAddr =>
    if db.held ses = none ∧ db.pc ses = .idle then
      some (db.setPc ses (.restoring addr peerAddr (List.range pools.length)))
    else none
  | .search ses =>
    match db.pc ses with
    | .restoring addr peerAddr rest => some (restoreTurn ses addr peerAddr rest db)
    | _ => none

end Ippool
