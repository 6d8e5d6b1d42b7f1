import Mathlib.Data.Nat.Digits.Defs
import MicroBng.Lib.Chained
import MicroBng.Pppoe.Handoff

/-!
# The connections of a PPPoE server

A server of `ctrl/pppoe/pppoe.c` finds its connections in two hash tables: `cookie_2_conn` by the
first 20 bytes of the AC-Cookie, and `mac_sessid_2_conn` by a number of 64 bits that is put together
from the address of the peer and the session identifier. `allocate_channel` puts a connection into
both; `disconnect`, in the context of the connection, takes it out of one and then of the other.

* `padr_idempotent`: a repeated PADR is answered with the session it already has
* `session_dispatch`: a frame concerns only the connection of its address and identifier
-/

namespace Pppoe.Serv

open Machine Handoff

/-! ## Addresses and keys -/

abbrev Mac := { bs : List UInt8 // bs.length = 6 }

/-- The part of the AC-Cookie that identifies a connection: `COOKIE_LENGTH - 4` bytes. -/
abbrev Cookie := { bs : List UInt8 // bs.length = 20 }

def Mac.le (m : Mac) : BitVec 48 := BitVec.ofNat 48 (Nat.ofDigits 256 (m.1.map UInt8.toNat))

/-- `key64`: eight bytes are read at the address, `behind` the two that follow; the identifier takes
the place the shift has cleared. -/
def key64 (m : Mac) (behind sid : BitVec 16) : BitVec 64 :=
  (((behind ++ m.le : BitVec 64) <<< 16) &&& ~~~0xffff#64) ||| sid.setWidth 64

/-- The loop of `def_hashfunc_obj` from the last byte of the key on, eight bytes at a time. -/
def hashChunks : Nat → List UInt8 → Nat
  | 0, _ => 0
  | n + 1, bytes =>
    if bytes.isEmpty then 0
    else (bytes.take 8).foldl (fun val b => val * 256 + b.toNat) 0 ^^^ hashChunks n (bytes.drop 8)

def defHashfuncObj (key : List UInt8) : Nat := hashChunks key.length key.reverse

/-- The size of the tables: 1000, made a power of two. -/
def tableSize : Nat := 1024

def cookieIdx (c : Cookie) : Nat := defHashfuncObj c.1 % tableSize

/-- The chain of a number: `def_hashfunc64` gives it back. -/
def keyIdx (k : BitVec 64) : Nat := k.toNat % tableSize

/-! ## Frames -/

/-- `ethhdr->h_dest`. -/
def hDest (f : Frame) : List UInt8 := f.data.take 6

/-- `ethhdr->h_source`. -/
def hSource (f : Frame) : Mac :=
  ⟨(f.data.drop 6).take 6, by
    grind [f.fits]⟩

/-- `ethhdr->h_proto`, the two bytes behind the source address. -/
def hProto (f : Frame) : BitVec 16 :=
  BitVec.ofNat 16 ((f.data.getD 12 0).toNat + 256 * (f.data.getD 13 0).toNat)

/-- `ntohs(hdr->sid)`. -/
def frameSid (f : Frame) : BitVec 16 := BitVec.ofNat 16 (ntohs f.data 16)

def bcAddr : List UInt8 := List.replicate 6 0xff

/-! ## The server -/

/-- How far `disconnect` is: not begun, the cookie is taken out, the other key too. -/
inductive Phase
  | live | leaving | gone
  deriving DecidableEq

/-- `struct pppoe_conn_t`. `calls` counts the queued `disconnect`s, `frames` were handed over. -/
structure PppoeConn where
  addr : Mac
  sid : BitVec 16
  cookie : Cookie
  username : Bool
  phase : Phase
  calls : Nat
  frames : List Frame

/-- A PADR. `passes`: the tests up to `check_cookie` (limits, addresses, tags); `service`: its
Service-Name is one of the server's, or any is accepted; `full`: `max-starting` is reached behind
the lookup. -/
structure Padr where
  addr : Mac
  tag : List UInt8
  tag_length : tag.length = 24
  passes : Bool
  service : Bool
  full : Bool

def Padr.cookie (p : Padr) : Cookie :=
  ⟨p.tag.take 20, by rw [List.length_take, p.tag_length]; rfl⟩

/-- A PADS, or one that carries an error instead of a session. -/
inductive Sent
  | pads (sid : BitVec 16)
  | serviceNameError
  | systemError
  deriving DecidableEq

/-- `struct pppoe_serv_t`. `ctx` is the PADR `allocate_channel` is performed for. -/
structure PppoeServ where
  conns : List PppoeConn
  cookie2conn : Chained Cookie Nat
  macSessid2conn : Chained (BitVec 64) Nat
  ctx : Option Padr
  sent : List Sent

def PppoeServ.init : PppoeServ := ⟨[], .empty, .empty, none, []⟩

/-- `pppoe_recv_PADR` up to `allocate_channel`. -/
def pppoeRecvPadr (s : PppoeServ) (p : Padr) : PppoeServ :=
  if !p.passes then s
  else if !p.service then { s with sent := s.sent ++ [.serviceNameError] }
  else
    match (s.cookie2conn.get cookieIdx p.cookie).bind fun i => s.conns[i]? with
    | some c => if c.username then s else { s with sent := s.sent ++ [.pads c.sid] }
    | none => if p.full then s else { s with ctx := some p }

/-- A connection as `allocate_channel` makes it. -/
def newConn (p : Padr) (sid : BitVec 16) : PppoeConn :=
  ⟨p.addr, sid, p.cookie, false, .live, 0, []⟩

/-- `allocate_channel` and the rest of `pppoe_recv_PADR`; identifiers may run out. -/
def allocateChannel (s : PppoeServ) (p : Padr) (behind : BitVec 16) :
    Option (BitVec 16) → PppoeServ
  | none => { s with ctx := none, sent := s.sent ++ [.systemError] }
  | some sid =>
    { conns := s.conns ++ [newConn p sid]
      cookie2conn := s.cookie2conn.insert cookieIdx p.cookie s.conns.length
      macSessid2conn := s.macSessid2conn.insert keyIdx (key64 p.addr behind sid) s.conns.length
      ctx := none
      sent := s.sent ++ [.pads sid] }

/-- The lookup of `pppoe_recv_PADT` and `pppoe_recv_PPP`, then `act`. -/
def dispatch (s : PppoeServ) (f : Frame) (act : PppoeConn → PppoeConn) : PppoeServ :=
  match s.macSessid2conn.get keyIdx (key64 (hSource f) (hProto f) (frameSid f)) with
  | none => s
  | some i => { s with conns := s.conns.modify i act }

def pppoeRecvPadt (s : PppoeServ) (f : Frame) : PppoeServ :=
  if hDest f = bcAddr then s else dispatch s f fun c => { c with calls := c.calls + 1 }

def pppoeRecvPpp (s : PppoeServ) (f : Frame) : PppoeServ :=
  if f.accepted then dispatch s f fun c => { c with frames := c.frames ++ [f] } else s

/-- A server handles a frame or goes on with a PADR; a session gets or loses its user name; a
connection goes on with `disconnect`. -/
inductive Event
  | padr (p : Padr)
  | allocated (sid : Option (BitVec 16)) (behind : BitVec 16)
  | padt (f : Frame)
  | session (f : Frame)
  | username (i : Nat) (named : Bool)
  | unhash (i : Nat)
  | remove (i : Nat) (behind : BitVec 16)

/-- One step; the context of the server performs one frame at a time. -/
def step (s : PppoeServ) : Event → Option PppoeServ
  | .padr p => if s.ctx.isNone then some (pppoeRecvPadr s p) else none
  | .allocated sid behind => s.ctx.map fun p => allocateChannel s p behind sid
  | .padt f => if s.ctx.isNone then some (pppoeRecvPadt s f) else none
  | .session f => if s.ctx.isNone then some (pppoeRecvPpp s f) else none
  | .username i named =>
    some { s with conns := s.conns.modify i fun c => { c with username := named } }
  | .unhash i =>
    (s.conns[i]?.filter fun c => c.phase = .live).map fun c =>
      { s with
        conns := s.conns.set i { c with phase := .leaving }
        cookie2conn := s.cookie2conn.free cookieIdx c.cookie }
  | .remove i behind =>
    (s.conns[i]?.filter fun c => c.phase = .leaving).map fun c =>
      { s with
        conns := s.conns.set i { c with phase := .gone }
        macSessid2conn := s.macSessid2conn.free keyIdx (key64 c.addr behind c.sid) }

/-! ## The keys -/

theorem Mac.digit_lt (m : Mac) : ∀ d ∈ m.1.map UInt8.toNat, d < 256 := by
  intro d hd
  obtain ⟨b, -, rfl⟩ := List.mem_map.1 hd
  exact b.toNat_lt

theorem Mac.le_inj {m n : Mac} (h : m.le = n.le) : m = n := by
  have hlt : ∀ (k : Mac), Nat.ofDigits 256 (k.1.map UInt8.toNat) < 2 ^ 48 := by
    intro k
    have hpow := Nat.ofDigits_lt_base_pow_length (by decide) k.digit_lt
    rw [List.length_map, k.2] at hpow
    exact hpow
  have hnat : Nat.ofDigits 256 (m.1.map UInt8.toNat) = Nat.ofDigits 256 (n.1.map UInt8.toNat) := by
    have := congrArg BitVec.toNat h
    grind [Mac.le]
  have hlist := Nat.ofDigits_inj_of_len_eq (by decide)
    (by rw [List.length_map, List.length_map, m.2, n.2]) m.digit_lt n.digit_lt hnat
  exact Subtype.ext (List.map_injective_iff.2 (fun _ _ => UInt8.toNat_inj.1) hlist)

theorem key64_eq (m : Mac) (behind sid : BitVec 16) :
    key64 m behind sid = (m.le ++ sid : BitVec 64) := by
  apply BitVec.eq_of_getLsbD_eq
  have hmask : ∀ i, i < 64 → (0xffff#64).getLsbD i = decide (i < 16) := by decide
  simp only [key64, BitVec.getLsbD_or, BitVec.getLsbD_and, BitVec.getLsbD_not]
  grind

theorem key64_inj {m n : Mac} {b b' sid sid' : BitVec 16} :
    key64 m b sid = key64 n b' sid' ↔ m = n ∧ sid = sid' := by
  rw [key64_eq, key64_eq]
  constructor
  · intro h
    have hsid : sid = sid' := by
      apply BitVec.eq_of_getLsbD_eq
      intro i hi
      have hbit := congrArg (fun k => BitVec.getLsbD k i) h
      simpa only [BitVec.getLsbD_append, if_pos hi] using hbit
    subst hsid
    exact ⟨Mac.le_inj ((BitVec.append_left_inj sid).1 h), rfl⟩
  · rintro ⟨rfl, rfl⟩
    rfl

/-! ## What the tables say -/

structure Ident where
  addr : Mac
  sid : BitVec 16
  cookie : Cookie
  phase : Phase

def PppoeConn.ident (c : PppoeConn) : Ident := ⟨c.addr, c.sid, c.cookie, c.phase⟩

def Ident.key (a : Ident) : BitVec 64 := key64 a.addr 0 a.sid

def PppoeServ.ids (s : PppoeServ) : List Ident := s.conns.map PppoeConn.ident

/-- `cookie_2_conn` has the live connections; the cookie of a PADR being served is free. -/
structure CookieInv (ids : List Ident) (t : Chained Cookie Nat) (ctx : Option Padr) : Prop where
  get : ∀ k i, t.get cookieIdx k = some i ↔ ∃ a, ids[i]? = some a ∧ a.phase = .live ∧ a.cookie = k
  pending : ∀ p, ctx = some p → t.get cookieIdx p.cookie = none

/-- `mac_sessid_2_conn` has only connections under their own keys. -/
def KeySound (ids : List Ident) (t : Chained (BitVec 64) Nat) : Prop :=
  ∀ k i, t.get keyIdx k = some i → ∃ a, ids[i]? = some a ∧ a.phase ≠ .gone ∧ k = a.key

def KeyFull (ids : List Ident) (t : Chained (BitVec 64) Nat) : Prop :=
  ∀ i a, ids[i]? = some a → a.phase ≠ .gone → t.get keyIdx a.key = some i

section Tables

variable {ids : List Ident} {ct : Chained Cookie Nat} {kt : Chained (BitVec 64) Nat}
  {ctx : Option Padr} {p : Padr} {a new : Ident} {i : Nat}

theorem key_eq_iff {a b : Ident} : a.key = b.key ↔ a.addr = b.addr ∧ a.sid = b.sid := key64_inj

theorem key64_eq_key (a : Ident) (behind : BitVec 16) : key64 a.addr behind a.sid = a.key :=
  key64_inj.2 ⟨rfl, rfl⟩

theorem getElem?_concat {j : Nat} (h : (ids ++ [new])[j]? = some a) :
    ids[j]? = some a ∨ j = ids.length ∧ a = new := by
  grind

theorem getElem?_concat_old {j : Nat} (h : ids[j]? = some a) : (ids ++ [new])[j]? = some a := by
  rw [List.getElem?_append_left (List.getElem?_eq_some_iff.1 h).1, h]

theorem getElem?_concat_new : (ids ++ [new])[ids.length]? = some new := by simp

theorem CookieInv.unique (hi : CookieInv ids ct ctx) {j : Nat} {b : Ident}
    (ha : ids[i]? = some a) (hb : ids[j]? = some b) (hla : a.phase = .live)
    (hlb : b.phase = .live) (hc : a.cookie = b.cookie) : i = j := by
  have h1 := (hi.get b.cookie i).2 ⟨a, ha, hla, hc⟩
  have h2 := (hi.get b.cookie j).2 ⟨b, hb, hlb, rfl⟩
  exact Option.some.inj (h1.symm.trans h2)

theorem CookieInv.allocate (new : Ident) (hi : CookieInv ids ct (some p))
    (hnew : new.cookie = p.cookie) (hlive : new.phase = .live) :
    CookieInv (ids ++ [new]) (ct.insert cookieIdx p.cookie ids.length) none := by
  have hfree := hi.pending p rfl
  refine ⟨fun k j => ?_, fun q hq => by cases hq⟩
  rw [Chained.get_insert cookieIdx hfree]
  constructor
  · intro h
    split at h
    · next hk =>
      cases h
      exact ⟨new, getElem?_concat_new, hlive, hnew.trans hk.symm⟩
    · obtain ⟨a, ha, hrest⟩ := (hi.get k j).1 h
      exact ⟨a, getElem?_concat_old ha, hrest⟩
  · rintro ⟨a, ha, hl, hk⟩
    rcases getElem?_concat ha with ha | ⟨rfl, rfl⟩
    · have hget := (hi.get k j).2 ⟨a, ha, hl, hk⟩
      rw [if_neg, hget]
      rintro rfl
      rw [hfree] at hget
      cases hget
    · rw [if_pos (hk.symm.trans hnew)]

theorem CookieInv.unhash (hi : CookieInv ids ct ctx) (ha : ids[i]? = some a)
    (hl : a.phase = .live) :
    CookieInv (ids.set i { a with phase := .leaving }) (ct.free cookieIdx a.cookie) ctx := by
  refine ⟨fun k j => ?_, fun q hq => ?_⟩
  · rw [Chained.get_free]
    constructor
    · intro h
      split at h
      · cases h
      · obtain ⟨b, hb, hlb, hbk⟩ := (hi.get k j).1 h
        grind
    grind [hi.get, hi.unique]
  · rw [Chained.get_free]
    split
    · rfl
    · exact hi.pending q hq

theorem CookieInv.remove (hi : CookieInv ids ct ctx) (ha : ids[i]? = some a)
    (hl : a.phase ≠ .live) {b : Ident} (hb : b.phase ≠ .live) :
    CookieInv (ids.set i b) ct ctx := by
  refine ⟨fun k j => (hi.get k j).trans ?_, hi.pending⟩
  grind

theorem KeySound.allocate (new : Ident) (hi : KeySound ids kt) (hp : new.phase ≠ .gone) :
    KeySound (ids ++ [new]) (kt.insert keyIdx new.key ids.length) := by
  intro k j h
  cases hget : kt.get keyIdx new.key with
  | some w =>
    rw [Chained.insert_of_get keyIdx hget] at h
    obtain ⟨a, ha, hrest⟩ := hi k j h
    exact ⟨a, getElem?_concat_old ha, hrest⟩
  | none =>
    rw [Chained.get_insert keyIdx hget] at h
    split at h
    · next hk =>
      cases h
      exact ⟨new, getElem?_concat_new, hp, hk⟩
    · obtain ⟨a, ha, hrest⟩ := hi k j h
      exact ⟨a, getElem?_concat_old ha, hrest⟩

theorem KeySound.unhash (hi : KeySound ids kt) (ha : ids[i]? = some a) :
    KeySound (ids.set i { a with phase := .leaving }) kt := by
  have hlen := (List.getElem?_eq_some_iff.1 ha).1
  intro k j h
  obtain ⟨b, hb, hp, hk⟩ := hi k j h
  by_cases hij : i = j
  · subst hij
    cases ha.symm.trans hb
    exact ⟨_, List.getElem?_set_self hlen, Phase.noConfusion, hk⟩
  simp_all

theorem KeySound.remove (hi : KeySound ids kt) (ha : ids[i]? = some a) :
    KeySound (ids.set i { a with phase := .gone }) (kt.free keyIdx a.key) := by
  intro k j h
  rw [Chained.get_free] at h
  split at h
  · cases h
  · obtain ⟨b, hb, hp, hk⟩ := hi k j h
    grind

theorem KeyFull.allocate (new : Ident) (hs : KeySound ids kt) (hi : KeyFull ids kt)
    (hfresh : ∀ a ∈ ids, a.phase ≠ .gone → ¬ (a.addr = new.addr ∧ a.sid = new.sid)) :
    KeyFull (ids ++ [new]) (kt.insert keyIdx new.key ids.length) := by
  have hother : ∀ (j : Nat) (a : Ident), ids[j]? = some a → a.phase ≠ .gone → a.key ≠ new.key :=
    fun j a ha hp hk => hfresh a (List.mem_of_getElem? ha) hp (key_eq_iff.1 hk)
  have hnone : kt.get keyIdx new.key = none := by
    cases hget : kt.get keyIdx new.key with
    | none => rfl
    | some j =>
      obtain ⟨a, ha, hp, hk⟩ := hs _ j hget
      exact absurd hk.symm (hother j a ha hp)
  intro j a ha hp
  rw [Chained.get_insert keyIdx hnone]
  rcases getElem?_concat ha with ha | ⟨rfl, rfl⟩
  · rw [if_neg (hother j a ha hp)]
    exact hi j a ha hp
  · rw [if_pos rfl]

theorem KeyFull.unhash (hi : KeyFull ids kt) (ha : ids[i]? = some a) (hl : a.phase ≠ .gone) :
    KeyFull (ids.set i { a with phase := .leaving }) kt := by
  have hlen := (List.getElem?_eq_some_iff.1 ha).1
  intro j b hb hp
  by_cases hij : i = j
  · subst hij
    rw [List.getElem?_set_self hlen] at hb
    cases hb
    exact hi i a ha hl
  · rw [List.getElem?_set_ne hij] at hb
    exact hi j b hb hp

theorem KeyFull.remove (hi : KeyFull ids kt) (ha : ids[i]? = some a) (hl : a.phase ≠ .gone) :
    KeyFull (ids.set i { a with phase := .gone }) (kt.free keyIdx a.key) := by
  intro j b hb hp
  have hij : i ≠ j := by grind
  rw [List.getElem?_set_ne hij] at hb
  have hget := hi j b hb hp
  rw [Chained.get_free, if_neg, hget]
  intro hk
  rw [hk, hi i a ha hl] at hget
  exact hij (Option.some.inj hget)

end Tables

/-! ## One step -/

section Step

variable {s s' : PppoeServ} {e : Event}

theorem map_ident_modify (conns : List PppoeConn) (i : Nat) {act : PppoeConn → PppoeConn}
    (h : ∀ c, (act c).ident = c.ident) :
    (conns.modify i act).map PppoeConn.ident = conns.map PppoeConn.ident := by
  apply List.ext_getElem?
  grind

theorem ids_getElem? (s : PppoeServ) (i : Nat) : s.ids[i]? = s.conns[i]?.map PppoeConn.ident :=
  List.getElem?_map

/-- What a step does to the identities and the tables. -/
inductive Move (s : PppoeServ) (e : Event) : PppoeServ → Prop
  | keep (s' : PppoeServ) (hids : s'.ids = s.ids) (hct : s'.cookie2conn = s.cookie2conn)
      (hkt : s'.macSessid2conn = s.macSessid2conn)
      (hctx : s'.ctx = none ∨ s'.ctx = s.ctx) : Move s e s'
  | serve (p : Padr)
      (hfree : (s.cookie2conn.get cookieIdx p.cookie).bind (fun i => s.conns[i]?) = none) :
      Move s e { s with ctx := some p }
  | allocate (p : Padr) (sid behind : BitVec 16) (hctx : s.ctx = some p)
      (he : e = .allocated (some sid) behind) :
      Move s e (allocateChannel s p behind (some sid))
  | unhash (i : Nat) (c : PppoeConn) (hc : s.conns[i]? = some c) (hl : c.phase = .live) :
      Move s e { s with
        conns := s.conns.set i { c with phase := .leaving }
        cookie2conn := s.cookie2conn.free cookieIdx c.cookie }
  | remove (i : Nat) (behind : BitVec 16) (c : PppoeConn) (hc : s.conns[i]? = some c)
      (hl : c.phase = .leaving) :
      Move s e { s with
        conns := s.conns.set i { c with phase := .gone }
        macSessid2conn := s.macSessid2conn.free keyIdx (key64 c.addr behind c.sid) }

theorem dispatch_move {f : Frame} {act : PppoeConn → PppoeConn}
    (h : ∀ c, (act c).ident = c.ident) : Move s e (dispatch s f act) := by
  unfold dispatch
  split
  · exact .keep s rfl rfl rfl (.inr rfl)
  · exact .keep _ (map_ident_modify _ _ h) rfl rfl (.inr rfl)

theorem padr_move (p : Padr) : Move s e (pppoeRecvPadr s p) := by
  unfold pppoeRecvPadr
  split
  · exact .keep s rfl rfl rfl (.inr rfl)
  split
  · exact .keep _ rfl rfl rfl (.inr rfl)
  split
  · split
    · exact .keep s rfl rfl rfl (.inr rfl)
    · exact .keep _ rfl rfl rfl (.inr rfl)
  · next hfree =>
    split
    · exact .keep s rfl rfl rfl (.inr rfl)
    · exact .serve p hfree

theorem step_move (h : step s e = some s') : Move s e s' := by
  cases e with
  | padr p =>
    obtain ⟨-, rfl⟩ := of_enabled_if h
    exact padr_move p
  | allocated sid behind =>
    obtain ⟨p, hctx, rfl⟩ := Option.map_eq_some_iff.1 h
    cases sid with
    | none => exact .keep _ rfl rfl rfl (.inl rfl)
    | some sid => exact .allocate p sid behind hctx rfl
  | padt f =>
    obtain ⟨-, rfl⟩ := of_enabled_if h
    unfold pppoeRecvPadt
    split
    · exact .keep s rfl rfl rfl (.inr rfl)
    · exact dispatch_move fun _ => rfl
  | session f =>
    obtain ⟨-, rfl⟩ := of_enabled_if h
    unfold pppoeRecvPpp
    split
    · exact dispatch_move fun _ => rfl
    · exact .keep s rfl rfl rfl (.inr rfl)
  | username i named =>
    cases h
    exact .keep _ (map_ident_modify _ _ fun _ => rfl) rfl rfl (.inr rfl)
  | unhash i =>
    obtain ⟨c, hc, rfl⟩ := Option.map_eq_some_iff.1 h
    obtain ⟨hc, hl⟩ := Option.filter_eq_some_iff.1 hc
    exact .unhash i c hc (of_decide_eq_true hl)
  | remove i behind =>
    obtain ⟨c, hc, rfl⟩ := Option.map_eq_some_iff.1 h
    obtain ⟨hc, hl⟩ := Option.filter_eq_some_iff.1 hc
    exact .remove i behind c hc (of_decide_eq_true hl)

theorem ids_set (s : PppoeServ) (i : Nat) (c : PppoeConn) :
    (s.conns.set i c).map PppoeConn.ident = s.ids.set i c.ident :=
  List.map_set

theorem ids_of_conn {i : Nat} {c : PppoeConn} (h : s.conns[i]? = some c) :
    s.ids[i]? = some c.ident := by
  rw [ids_getElem?, h]
  rfl

def Cookies (s : PppoeServ) : Prop := CookieInv s.ids s.cookie2conn s.ctx

theorem cookies_move (hi : Cookies s) (h : Move s e s') : Cookies s' := by
  cases h with
  | keep s' hids hct hkt hctx =>
    unfold Cookies
    rw [hids, hct]
    refine ⟨hi.get, fun p hp => ?_⟩
    simp_all [hi.pending]
  | serve p hfree =>
    refine ⟨hi.get, fun q hq => ?_⟩
    cases hq
    cases hget : s.cookie2conn.get cookieIdx p.cookie with
    | none => rfl
    | some i =>
      -- An entry of the table is a connection, so the lookup would have found it.
      simp_all [hi.get, ids_getElem?]
  | allocate p sid behind hctx he =>
    have hi' : CookieInv s.ids s.cookie2conn (some p) := hctx ▸ hi
    have halloc := hi'.allocate (newConn p sid).ident rfl rfl
    simpa [Cookies, PppoeServ.ids, allocateChannel] using halloc
  | unhash i c hc hl =>
    have hun := CookieInv.unhash hi (ids_of_conn hc) hl
    unfold Cookies
    rw [PppoeServ.ids, ids_set]
    exact hun
  | remove i behind c hc hl =>
    unfold Cookies
    rw [PppoeServ.ids, ids_set]
    refine CookieInv.remove hi (ids_of_conn hc) ?_ Phase.noConfusion
    show c.phase ≠ .live
    rw [hl]
    exact Phase.noConfusion

def Keys (s : PppoeServ) : Prop := KeySound s.ids s.macSessid2conn

theorem keys_move (hi : Keys s) (h : Move s e s') : Keys s' := by
  cases h with
  | keep s' hids hct hkt hctx =>
    unfold Keys
    rw [hids, hkt]
    exact hi
  | serve p hfree => exact hi
  | allocate p sid behind hctx he =>
    have halloc := KeySound.allocate (newConn p sid).ident hi Phase.noConfusion
    rw [← key64_eq_key _ behind] at halloc
    simpa [Keys, PppoeServ.ids, allocateChannel, newConn, PppoeConn.ident] using halloc
  | unhash i c hc hl =>
    unfold Keys
    rw [PppoeServ.ids, ids_set]
    exact KeySound.unhash hi (ids_of_conn hc)
  | remove i behind c hc hl =>
    have hrem := KeySound.remove hi (ids_of_conn hc)
    rw [← key64_eq_key _ behind] at hrem
    unfold Keys
    rw [PppoeServ.ids, ids_set]
    exact hrem

def Full (s : PppoeServ) : Prop := KeyFull s.ids s.macSessid2conn

/-- The identifier of a new connection is not that of another connection with its address. -/
def FreshId (s : PppoeServ) : Event → Prop
  | .allocated (some sid) _ => ∀ p ∈ s.ctx, ∀ c ∈ s.conns, c.phase ≠ .gone →
      ¬ (c.addr = p.addr ∧ c.sid = sid)
  | _ => True

instance (s : PppoeServ) (e : Event) : Decidable (FreshId s e) := by
  unfold FreshId
  split <;> infer_instance

theorem full_move (hs : Keys s) (hi : Full s) (hc : FreshId s e) (h : Move s e s') : Full s' := by
  cases h with
  | keep s' hids hct hkt hctx =>
    unfold Full
    rw [hids, hkt]
    exact hi
  | serve p hfree => exact hi
  | allocate p sid behind hctx he =>
    subst he
    have hfresh : ∀ a ∈ s.ids, a.phase ≠ .gone → ¬ (a.addr = p.addr ∧ a.sid = sid) := by
      intro a ha hp
      obtain ⟨c, hmem, rfl⟩ := List.mem_map.1 ha
      exact hc p hctx c hmem hp
    have halloc := KeyFull.allocate (newConn p sid).ident hs hi hfresh
    rw [← key64_eq_key _ behind] at halloc
    simpa [Full, PppoeServ.ids, allocateChannel, newConn, PppoeConn.ident] using halloc
  | unhash i c hc hl =>
    unfold Full
    rw [PppoeServ.ids, ids_set]
    refine KeyFull.unhash hi (ids_of_conn hc) ?_
    show c.phase ≠ .gone
    rw [hl]
    exact Phase.noConfusion
  | remove i behind c hc hl =>
    have hrem := KeyFull.remove hi (ids_of_conn hc) (by
      show c.phase ≠ .gone
      rw [hl]
      exact Phase.noConfusion)
    rw [← key64_eq_key _ behind] at hrem
    unfold Full
    rw [PppoeServ.ids, ids_set]
    exact hrem

end Step

/-! ## PADR -/

/-- The state with more PADS sent. -/
def PppoeServ.send (s : PppoeServ) (sent : List Sent) : PppoeServ := { s with sent := s.sent ++ sent }

/-- There is one live connection for a cookie. A PADR with its cookie sends its PADS again while it
has no user name, and nothing afterwards. A refused PADR changes nothing, and one with the cookie
of no live connection is served. -/
structure Idempotent (s : PppoeServ) : Prop where
  unique : ∀ (i j : Nat) (a b : PppoeConn), s.conns[i]? = some a → s.conns[j]? = some b →
    a.phase = .live → b.phase = .live → a.cookie = b.cookie → i = j
  repeated : ∀ (p : Padr) (i : Nat) (c : PppoeConn), s.ctx = none → p.passes = true →
    p.service = true → s.conns[i]? = some c → c.phase = .live → c.cookie = p.cookie →
    step s (.padr p) = some (if c.username then s else s.send [.pads c.sid])
  refused : ∀ (p : Padr), s.ctx = none → (p.passes && p.service) = false →
    step s (.padr p) = some (if p.passes then s.send [.serviceNameError] else s)
  fresh : ∀ (p : Padr), s.ctx = none → p.passes = true → p.service = true → p.full = false →
    (∀ c ∈ s.conns, c.phase = .live → c.cookie ≠ p.cookie) →
    step s (.padr p) = some { s with ctx := some p }

theorem Cookies.idempotent {s : PppoeServ} (hi : Cookies s) : Idempotent s := by
  constructor
  case unique =>
    intro i j a b ha hb hla hlb hk
    exact CookieInv.unique hi (ids_of_conn ha) (ids_of_conn hb) hla hlb hk
  case repeated =>
    intro p i c hctx hp hs hc hl hk
    -- The lookup finds the live connection with the cookie.
    have hget := (hi.get p.cookie i).2 ⟨c.ident, ids_of_conn hc, hl, hk⟩
    simp [step, hctx, pppoeRecvPadr, hp, hs, hget, hc, PppoeServ.send]
  case refused =>
    intro p hctx hp
    cases hpass : p.passes <;> simp_all [step, pppoeRecvPadr, PppoeServ.send]
  case fresh =>
    intro p hctx hp hs hfull hno
    have hget : s.cookie2conn.get cookieIdx p.cookie = none := by
      refine Option.eq_none_iff_forall_ne_some.2 fun i hsome => ?_
      obtain ⟨a, ha, hl, hk⟩ := (hi.get p.cookie i).1 hsome
      rw [ids_getElem?] at ha
      obtain ⟨c, hc, rfl⟩ := Option.map_eq_some_iff.1 ha
      exact hno c (List.mem_of_getElem? hc) hl hk
    simp [step, hctx, pppoeRecvPadr, hp, hs, hget, hfull]

/-- **PADR is idempotent** in every sequence of frames, disconnects and events of the sessions. -/
theorem padr_idempotent (es : List Event) : Throughout step Idempotent .init es := by
  have hinit : Cookies .init := ⟨fun k i => by simp [PppoeServ.ids, PppoeServ.init],
    fun p hp => by cases hp⟩
  have hg : Guarded step (fun _ _ => True) .init es := Guarded.of_forall (fun _ _ _ => trivial) _
  exact (hg.throughout (fun _ _ _ hi _ h => cookies_move hi (step_move h)) hinit).mono
    fun _ hi => hi.idempotent

/-- A PADR of the peer `m`. -/
def peerPadr (m : UInt8) : Padr where
  addr := ⟨[2, 0, 0, 0, 0, m], rfl⟩
  tag := List.replicate 24 m
  tag_length := List.length_replicate
  passes := true
  service := true
  full := false

/-- A PADR is repeated before and after its session has a user name. -/
def repeatedPadr : List Event :=
  [.padr (peerPadr 1), .allocated (some 7) 0, .padr (peerPadr 1), .username 0 true,
    .padr (peerPadr 1)]

theorem padr_idempotent_repeated :
    endsIn step .init repeatedPadr (fun t => t.sent = [.pads 7, .pads 7] ∧
        t.conns.map (fun c => (c.phase, c.cookie)) = [(.live, (peerPadr 1).cookie)]) = true ∧
      Throughout step Idempotent .init repeatedPadr :=
  ⟨by decide +kernel, padr_idempotent repeatedPadr⟩

/-! ## PADT and session frames -/

/-- The two kinds of frames that belong to a connection. -/
inductive Kind
  | padt | session

def Kind.event (k : Kind) (f : Frame) : Event :=
  match k with
  | .padt => .padt f
  | .session => .session f

def Kind.effect (k : Kind) (f : Frame) (c : PppoeConn) : PppoeConn :=
  match k with
  | .padt => if hDest f = bcAddr then c else { c with calls := c.calls + 1 }
  | .session => if f.accepted then { c with frames := c.frames ++ [f] } else c

/-- The connection has the frame's source address and session identifier. -/
def PppoeConn.Peer (c : PppoeConn) (f : Frame) : Prop :=
  c.phase ≠ .gone ∧ c.addr = hSource f ∧ c.sid = frameSid f

/-- A frame changes no connection but its own, and nothing at all if there is none. -/
structure Dispatches (s : PppoeServ) : Prop where
  only : ∀ (k : Kind) (f : Frame) (s' : PppoeServ) (i : Nat) (c : PppoeConn),
    step s (k.event f) = some s' → s.conns[i]? = some c →
    s'.conns[i]? = some c ∨ c.Peer f ∧ s'.conns[i]? = some (k.effect f c)
  nobody : ∀ (k : Kind) (f : Frame) (s' : PppoeServ), step s (k.event f) = some s' →
    (∀ c ∈ s.conns, ¬ c.Peer f) → s' = s

def Delivers (s : PppoeServ) : Prop :=
  ∀ (k : Kind) (f : Frame) (s' : PppoeServ) (i : Nat) (c : PppoeConn),
    step s (k.event f) = some s' → s.conns[i]? = some c → c.Peer f →
    s' = { s with conns := s.conns.set i (k.effect f c) }

section Dispatch

variable {s s' : PppoeServ} {f : Frame}

def frameKey (f : Frame) : BitVec 64 := key64 (hSource f) (hProto f) (frameSid f)

theorem key_eq_frameKey (c : PppoeConn) (f : Frame) :
    frameKey f = c.ident.key ↔ c.addr = hSource f ∧ c.sid = frameSid f := by
  refine key64_inj.trans ⟨fun h => ⟨h.1.symm, h.2.symm⟩, fun h => ⟨h.1.symm, h.2.symm⟩⟩

theorem modify_of_getElem? {conns : List PppoeConn} {i : Nat} {c : PppoeConn}
    (h : conns[i]? = some c) (act : PppoeConn → PppoeConn) :
    conns.modify i act = conns.set i (act c) := by
  rw [List.modify_eq_set_getElem?, h]
  rfl

theorem kind_step (k : Kind) (h : step s (k.event f) = some s') :
    (s.macSessid2conn.get keyIdx (frameKey f) = none ∧ s' = s) ∨
    ∃ i, s.macSessid2conn.get keyIdx (frameKey f) = some i ∧
      ∀ c, s.conns[i]? = some c → s' = { s with conns := s.conns.set i (k.effect f c) } := by
  have hdispatch : ∀ act : PppoeConn → PppoeConn, (∀ c, k.effect f c = act c) →
      (s.macSessid2conn.get keyIdx (frameKey f) = none ∧ dispatch s f act = s) ∨
      ∃ i, s.macSessid2conn.get keyIdx (frameKey f) = some i ∧
        ∀ c, s.conns[i]? = some c →
          dispatch s f act = { s with conns := s.conns.set i (k.effect f c) } := by
    grind [dispatch, frameKey, modify_of_getElem?]
  -- A frame that is discarded has no effect on any connection.
  have hsame : (∀ c, k.effect f c = c) →
      (s.macSessid2conn.get keyIdx (frameKey f) = none ∧ s = s) ∨
      ∃ i, s.macSessid2conn.get keyIdx (frameKey f) = some i ∧
        ∀ c, s.conns[i]? = some c → s = { s with conns := s.conns.set i (k.effect f c) } := by
    intro hid
    cases s.macSessid2conn.get keyIdx (frameKey f) with
    | none => exact .inl ⟨rfl, rfl⟩
    | some i =>
      refine .inr ⟨i, rfl, fun c hc => ?_⟩
      obtain ⟨hlt, rfl⟩ := List.getElem?_eq_some_iff.1 hc
      rw [hid, List.set_getElem_self]
  cases k with
  | padt =>
    dsimp only [Kind.event, step] at h
    split at h
    · cases h
      unfold pppoeRecvPadt
      split
      · next hb => exact hsame fun c => if_pos hb
      · next hb => exact hdispatch _ fun c => if_neg hb
    · cases h
  | session =>
    dsimp only [Kind.event, step] at h
    split at h
    · cases h
      unfold pppoeRecvPpp
      split
      · next ha => exact hdispatch _ fun c => if_pos ha
      · next ha => exact hsame fun c => if_neg ha
    · cases h

theorem Keys.peer (hi : Keys s) {i : Nat}
    (h : s.macSessid2conn.get keyIdx (frameKey f) = some i) :
    ∃ c, s.conns[i]? = some c ∧ c.Peer f := by
  obtain ⟨a, ha, hp, hk⟩ := hi _ i h
  rw [ids_getElem?] at ha
  obtain ⟨c, hc, rfl⟩ := Option.map_eq_some_iff.1 ha
  exact ⟨c, hc, hp, (key_eq_frameKey c f).1 hk⟩

theorem Keys.dispatches (hi : Keys s) : Dispatches s := by
  constructor
  case only =>
    intro k f s' j c h hc
    rcases kind_step k h with ⟨-, rfl⟩ | ⟨i, hget, hall⟩
    · exact .inl hc
    grind [hi.peer]
  case nobody =>
    intro k f s' h hno
    rcases kind_step k h with ⟨-, rfl⟩ | ⟨i, hget, -⟩
    · rfl
    grind [hi.peer]

theorem Full.delivers (hi : Full s) : Delivers s := by
  intro k f s' i c h hc hpeer
  have hget := hi i c.ident (ids_of_conn hc) hpeer.1
  rw [← (key_eq_frameKey c f).2 hpeer.2] at hget
  rcases kind_step k h with ⟨hnone, -⟩ | ⟨j, hget', hall⟩
  · rw [hnone] at hget
    cases hget
  · cases hget.symm.trans hget'
    exact hall c hc

end Dispatch

/-- **Dispatch of session frames and PADT.** A frame concerns only the connection of its source
address and session identifier, and reaches it if no two have both in common. -/
theorem session_dispatch (es : List Event) :
    Throughout step Dispatches .init es ∧
      (Guarded step FreshId .init es →
        Throughout step (fun s => Dispatches s ∧ Delivers s) .init es) := by
  have hsound : Keys .init := fun k i h => by cases h
  have hfull : Full .init := fun i a h => by cases h
  constructor
  · have hg : Guarded step (fun _ _ => True) .init es := Guarded.of_forall (fun _ _ _ => trivial) _
    exact (hg.throughout (fun _ _ _ hi _ h => keys_move hi (step_move h)) hsound).mono
      fun _ hi => hi.dispatches
  · intro hg
    have hinv : Throughout step (fun s => Keys s ∧ Full s) .init es :=
      hg.throughout (fun _ _ _ hi hc h =>
        ⟨keys_move hi.1 (step_move h), full_move hi.1 hi.2 hc (step_move h)⟩) ⟨hsound, hfull⟩
    exact hinv.mono fun _ hi => ⟨hi.1.dispatches, hi.2.delivers⟩

/-- A frame of 20 bytes from the peer `m` for the session `sid`. -/
def peerFrame (m sid : UInt8) : Frame where
  data := List.replicate 6 0 ++ [2, 0, 0, 0, 0, m, 0x88, 0x63, 0x11, 0xa7, 0, sid, 0, 0]
  size_le := by simp
  fits := by
    show 20 + (0 * 256 + 0) ≤ 20
    decide

def twoPeers : List Event :=
  [.padr (peerPadr 1), .allocated (some 1) 0, .padr (peerPadr 2), .allocated (some 2) 0,
    .padr (peerPadr 1), .padt (peerFrame 1 1), .unhash 0, .remove 0 1, .padt (peerFrame 1 1)]

theorem session_dispatch_two_peers :
    endsIn step .init twoPeers (fun t => t.conns.map (fun c => (c.phase, c.calls)) =
        [(.gone, 1), (.live, 0)]) = true ∧
      Guarded step FreshId .init twoPeers ∧
      Throughout step (fun s => Dispatches s ∧ Delivers s) .init twoPeers :=
  have hg : Guarded step FreshId .init twoPeers := by decide +kernel
  ⟨by decide +kernel, hg, (session_dispatch twoPeers).2 hg⟩

end Pppoe.Serv
