import Mathlib.Data.List.Nodup
import MicroBng.Lib.Bitmap
import MicroBng.Lib.Machine

/-!
# The address range of an IPoE server

`ctrl/ipoe/dhcpv4.c` gives the clients of an interface the addresses of a range `a.b.c.d/m`. A
bitmap says which ones are free. `parse_range` clears the bits of the network, of the router and of
the broadcast address; `dhcpv4_get_ip` looks for a bit from the word of the last success on and then
once more from the start; `dhcpv4_put_ip` sets it again. Addresses are in host order.

* `get_ip_cases`, `Inv.exhausted`: an address is given out unless all are held
* `range_kept`: every run uses the range well (`PoolOk`)
-/

namespace Ipoe.Range

open Machine Bitmap

structure IpRange where
  routerip : BitVec 32
  startip : BitVec 32
  mask : Nat
  pos : Nat
  len : Nat
  free : Nat → BitVec 64

/-- `(f1 << 24) | (f2 << 16) | (f3 << 8) | f4`. -/
def quad (f1 f2 f3 f4 : BitVec 32) : BitVec 32 := (f1 <<< 24) ||| (f2 <<< 16) ||| (f3 <<< 8) ||| f4

/-- `~((1 << (32 - m)) - 1)`; for `m = 1` the difference of two `int`s wraps. -/
def maskOf (m : Nat) : BitVec 32 := ~~~((1#32 <<< (32 - m)) - 1#32)

/-- The words of a new range; `last` is the offset of the last address that can be used. -/
def freshWords (last : Nat) : Nat → BitVec 64 :=
  let len := last / 64 + 1
  let full : Nat → BitVec 64 := fun i => if i < len then BitVec.allOnes 64 else 0#64
  let cut := Function.update full (last / 64)
    (full (last / 64) &&& ((1#64 <<< (last % 64 + 1)) - 1#64))
  Function.update cut 0 (cut 0 &&& ~~~3#64)

/-- The second half of `parse_range`. -/
def newRange (ip : BitVec 32) (m : Nat) : IpRange :=
  let start := ip &&& maskOf m
  let stop := start ||| ~~~maskOf m
  let last := (stop - start - 1#32).toNat
  { routerip := start + 1#32
    startip := start
    mask := m
    pos := 0
    len := last / 64 + 1
    free := freshWords last }

/-- `parse_range`, on the numbers that `sscanf` has read. -/
def parseRange : List (BitVec 32) → Option IpRange
  | [f1, f2, f3, f4, m] =>
    if f1 > 255#32 then none
    else if f2 > 255#32 then none
    else if f3 > 255#32 then none
    else if f4 > 255#32 then none
    else if m = 0#32 ∨ m > 30#32 then none
    else some (newRange (quad f1 f2 f3 f4) m.toNat)
  | _ => none

/-- The `for` loop of `dhcpv4_get_ip` over the `n` words from word `i` on: the first word with a
bit, and `ffsl` of it less one. -/
def findFrom (free : Nat → BitVec 64) (i : Nat) : Nat → Option (Nat × Nat)
  | 0 => none
  | n + 1 =>
    match lowest (free i) with
    | some k => some (i, k)
    | none => findFrom free (i + 1) n

/-- What `dhcpv4_get_ip` stores through its arguments. -/
structure Lease where
  yiaddr : BitVec 32
  siaddr : BitVec 32
  mask : Nat

def take (r : IpRange) (i k : Nat) : IpRange × Option Lease :=
  ({ r with free := Function.update r.free i (r.free i &&& ~~~(1#64 <<< k)), pos := i },
    some ⟨r.startip + BitVec.ofNat 32 (i * 64 + k), r.routerip, r.mask⟩)

/-- `dhcpv4_get_ip`. The second round, from word 0, is the last one. -/
def dhcpv4GetIp (r : IpRange) : IpRange × Option Lease :=
  match findFrom r.free r.pos (r.len - r.pos) with
  | some (i, k) => take r i k
  | none =>
    if r.pos = 0 then (r, none)
    else
      let r := { r with pos := 0 }
      match findFrom r.free 0 r.len with
      | some (i, k) => take r i k
      | none => (r, none)

/-- `dhcpv4_put_ip`; the difference is an `int`. -/
def dhcpv4PutIp (r : IpRange) (ip : BitVec 32) : IpRange :=
  let n := (ip - r.startip).toInt
  if n ≤ 0 ∨ n.toNat / 64 ≥ r.len then r
  else
    { r with
      free := Function.update r.free (n.toNat / 64)
        (r.free (n.toNat / 64) ||| (1#64 <<< (n.toNat % 64))) }

/-- A range and the addresses clients hold, oldest first. -/
structure Pool where
  range : IpRange
  held : List (BitVec 32)

/-- A client asks for an address, or gives back one that is held. -/
inductive Event
  | get
  | put (ip : BitVec 32)

def step (s : Pool) : Event → Option Pool
  | .get =>
    match dhcpv4GetIp s.range with
    | (r, some l) => some ⟨r, s.held ++ [l.yiaddr]⟩
    | (r, none) => some ⟨r, s.held⟩
  | .put ip =>
    if ip ∈ s.held then some ⟨dhcpv4PutIp s.range ip, s.held.erase ip⟩ else none

/-! ## What is meant -/

/-- A network as configured: an address and the length of its prefix. -/
structure Network where
  addr : Nat
  prefixLen : Nat

namespace Network

def size (w : Network) : Nat := 2 ^ (32 - w.prefixLen)

def network (w : Network) : Nat := w.addr / w.size * w.size

def router (w : Network) : Nat := w.network + 1

def broadcast (w : Network) : Nat := w.network + w.size - 1

def Contains (w : Network) (a : Nat) : Prop := a / w.size = w.addr / w.size

def Usable (w : Network) (a : Nat) : Prop :=
  w.Contains a ∧ a ≠ w.network ∧ a ≠ w.router ∧ a ≠ w.broadcast

end Network

def networkOf : List (BitVec 32) → Network
  | [f1, f2, f3, f4, m] =>
    ⟨f1.toNat * 2 ^ 24 + f2.toNat * 2 ^ 16 + f3.toNat * 2 ^ 8 + f4.toNat, m.toNat⟩
  | _ => ⟨0, 0⟩

structure PoolOk (w : Network) (s : Pool) : Prop where
  distinct : s.held.Nodup
  usable : ∀ a ∈ s.held, w.Usable a.toNat
  /-- A call fails exactly when every address clients may have is held. -/
  fails : (dhcpv4GetIp s.range).2 = none ↔ ∀ a : BitVec 32, w.Usable a.toNat → a ∈ s.held

/-! ## Words -/

section Words

theorem toNat_or_of_lt {x y : BitVec 32} (k : Nat) (hx : x.toNat % 2 ^ k = 0)
    (hy : y.toNat < 2 ^ k) : (x ||| y).toNat = x.toNat + y.toNat := by
  obtain ⟨c, hc⟩ := Nat.dvd_of_mod_eq_zero hx
  rw [BitVec.toNat_or, hc]
  exact (Nat.two_pow_add_eq_or_of_lt hy c).symm

theorem toNat_octet_shiftLeft {f : BitVec 32} (k : Nat) (hf : f.toNat < 256) (hk : k ≤ 24) :
    (f <<< k).toNat = f.toNat * 2 ^ k := by
  have hpow : 2 ^ k ≤ 2 ^ 24 := Nat.pow_le_pow_right (by decide) hk
  have hlt : f.toNat * 2 ^ k < 2 ^ 32 := calc
    f.toNat * 2 ^ k ≤ 255 * 2 ^ 24 := Nat.mul_le_mul (by omega) hpow
    _ < 2 ^ 32 := by decide
  rw [BitVec.toNat_shiftLeft, Nat.shiftLeft_eq, Nat.mod_eq_of_lt hlt]

theorem toNat_quad {f1 f2 f3 f4 : BitVec 32} (h1 : f1.toNat < 256) (h2 : f2.toNat < 256)
    (h3 : f3.toNat < 256) (h4 : f4.toNat < 256) :
    (quad f1 f2 f3 f4).toNat =
      f1.toNat * 2 ^ 24 + f2.toNat * 2 ^ 16 + f3.toNat * 2 ^ 8 + f4.toNat := by
  have e1 := toNat_octet_shiftLeft 24 h1 (by decide)
  have e2 := toNat_octet_shiftLeft 16 h2 (by decide)
  have e3 := toNat_octet_shiftLeft 8 h3 (by decide)
  have o2 := toNat_or_of_lt (x := f1 <<< 24) (y := f2 <<< 16) 24 (by omega) (by omega)
  have o3 := toNat_or_of_lt (x := f1 <<< 24 ||| f2 <<< 16) (y := f3 <<< 8) 16 (by omega) (by omega)
  have o4 := toNat_or_of_lt (x := f1 <<< 24 ||| f2 <<< 16 ||| f3 <<< 8) (y := f4) 8
    (by omega) (by omega)
  rw [quad, o4, o3, o2, e1, e2, e3]

theorem toNat_and_low (x : BitVec 32) {k : Nat} (hk : k < 32) :
    (x &&& ((1#32 <<< k) - 1#32)).toNat = x.toNat % 2 ^ k := by
  rw [BitVec.toNat_and, toNat_low hk, Nat.and_two_pow_sub_one_eq_mod]

theorem toNat_and_high (x : BitVec 32) {k : Nat} (hk : k < 32) :
    (x &&& ~~~((1#32 <<< k) - 1#32)).toNat = x.toNat / 2 ^ k * 2 ^ k := by
  generalize hy : (1#32 <<< k) - 1#32 = y
  have hdisj : (x &&& ~~~y) &&& (x &&& y) = 0#32 := by grind
  have hjoin : (x &&& ~~~y) + (x &&& y) = x := by
    rw [BitVec.add_eq_or_of_and_eq_zero _ _ hdisj]
    grind
  grind [BitVec.toNat_add_of_and_eq_zero, toNat_and_low, Nat.div_add_mod]

end Words

/-! ## The range as it is parsed -/

/-- A network that `parse_range` accepts. -/
structure Network.Valid (w : Network) : Prop where
  addr : w.addr < 2 ^ 32
  pos : 0 < w.prefixLen
  le : w.prefixLen ≤ 30

namespace Network

variable {w : Network}

theorem Valid.four_le_size (hw : w.Valid) : 4 ≤ w.size :=
  Nat.pow_le_pow_right (n := 2) (by decide) (show 2 ≤ 32 - w.prefixLen by have := hw.le; omega)

theorem Valid.size_le (hw : w.Valid) : w.size ≤ 2 ^ 31 :=
  Nat.pow_le_pow_right (by decide) (by have := hw.pos; omega)

theorem Valid.network_add_size_le (hw : w.Valid) : w.network + w.size ≤ 2 ^ 32 := by
  have hsplit : w.size * 2 ^ w.prefixLen = 2 ^ 32 := by
    have hle := hw.le
    rw [size, ← Nat.pow_add, Nat.sub_add_cancel (by omega)]
  have hdiv : w.addr / w.size < 2 ^ w.prefixLen := Nat.div_lt_of_lt_mul (hsplit ▸ hw.addr)
  calc w.network + w.size = (w.addr / w.size + 1) * w.size := (Nat.succ_mul _ _).symm
    _ ≤ 2 ^ w.prefixLen * w.size := Nat.mul_le_mul_right _ hdiv
    _ = 2 ^ 32 := by rw [Nat.mul_comm, hsplit]

theorem contains_iff (hpos : 0 < w.size) (a : Nat) :
    w.Contains a ↔ w.network ≤ a ∧ a < w.network + w.size := by
  rw [Contains, Nat.div_eq_iff hpos, network]
  omega

theorem Valid.usable_iff (hw : w.Valid) (a : Nat) :
    w.Usable a ↔ w.network + 2 ≤ a ∧ a + 1 < w.network + w.size := by
  have h4 := hw.four_le_size
  rw [Usable, contains_iff (by omega), router, broadcast]
  omega

end Network

/-- What `parse_range` returns. -/
structure Parsed (w : Network) (r : IpRange) : Prop where
  valid : w.Valid
  startip : r.startip.toNat = w.network
  routerip : r.routerip.toNat = w.router
  mask : r.mask = w.prefixLen
  pos : r.pos = 0
  len : r.len = (w.size - 2) / 64 + 1
  free : r.free = freshWords (w.size - 2)

theorem newRange_last (ip : BitVec 32) {m : Nat} (hm : 0 < m) (hm' : m ≤ 30) :
    (((ip &&& maskOf m) ||| ~~~maskOf m) - (ip &&& maskOf m) - 1#32).toNat = 2 ^ (32 - m) - 2 := by
  -- The host bits of the network address are 0, so that the disjunction is a sum.
  have hdisj : (ip &&& maskOf m) &&& ~~~maskOf m = 0#32 := by grind
  have hlow := toNat_low (w := 32) (k := 32 - m) (by omega)
  have hpow : 2 ^ 2 ≤ 2 ^ (32 - m) := Nat.pow_le_pow_right (by decide) (by omega)
  rw [← BitVec.add_eq_or_of_and_eq_zero _ _ hdisj, BitVec.add_comm, BitVec.add_sub_cancel, maskOf,
    BitVec.not_not, BitVec.toNat_sub_of_le (by rw [BitVec.le_def]; simp; omega)]
  simp only [BitVec.toNat_ofNat]
  omega

theorem newRange_spec {w : Network} (hw : w.Valid) {ip : BitVec 32} (hip : ip.toNat = w.addr) :
    Parsed w (newRange ip w.prefixLen) := by
  have hlast := newRange_last ip hw.pos hw.le
  have hpos := hw.pos
  have h4 := hw.four_le_size
  have hroom := hw.network_add_size_le
  have hstart : (ip &&& maskOf w.prefixLen).toNat = w.network := by
    rw [maskOf, toNat_and_high _ (by omega), hip]
    rfl
  refine ⟨hw, hstart, ?_, rfl, rfl, ?_, ?_⟩
  · show ((ip &&& maskOf w.prefixLen) + 1#32).toNat = w.network + 1
    grind
  · exact congrArg (fun n => n / 64 + 1) hlast
  · exact congrArg freshWords hlast

theorem parse_range_spec {fields : List (BitVec 32)} {r : IpRange}
    (h : parseRange fields = some r) : Parsed (networkOf fields) r := by
  unfold parseRange at h
  split at h
  case h_2 => cases h
  case h_1 f1 f2 f3 f4 m =>
    obtain ⟨h1, h⟩ := Option.ite_none_left_eq_some.1 h
    obtain ⟨h2, h⟩ := Option.ite_none_left_eq_some.1 h
    obtain ⟨h3, h⟩ := Option.ite_none_left_eq_some.1 h
    obtain ⟨h4, h⟩ := Option.ite_none_left_eq_some.1 h
    obtain ⟨hm, h⟩ := Option.ite_none_left_eq_some.1 h
    cases h
    have hoct : ∀ f : BitVec 32, ¬ f > 255#32 → f.toNat < 256 := fun f hf => by bv_omega
    have hquad := toNat_quad (hoct f1 h1) (hoct f2 h2) (hoct f3 h3) (hoct f4 h4)
    refine newRange_spec (w := networkOf [f1, f2, f3, f4, m]) ⟨?_, ?_, ?_⟩ hquad
    · exact Nat.lt_of_le_of_lt (Nat.le_of_eq hquad.symm) (quad f1 f2 f3 f4).isLt
    · show 0 < m.toNat
      bv_omega
    · show m.toNat ≤ 30
      bv_omega

theorem has_freshWords {last n : Nat} (hlast : last % 64 < 63) (hn : n < (last / 64 + 1) * 64) :
    has (freshWords last) n = true ↔ 2 ≤ n ∧ n ≤ last := by
  have hb : n % 64 < 64 := Nat.mod_lt _ (by decide)
  have hword : n / 64 < last / 64 + 1 := by omega
  have hfirst : ∀ b, b < 64 → ((~~~3#64).getLsbD b = true ↔ 2 ≤ b) := by decide +kernel
  have hcut : ∀ i, i < last / 64 + 1 → ∀ b, b < 64 →
      ((Function.update (fun i => if i < last / 64 + 1 then BitVec.allOnes 64 else 0#64) (last / 64)
        ((if last / 64 < last / 64 + 1 then BitVec.allOnes 64 else 0#64) &&&
          ((1#64 <<< (last % 64 + 1)) - 1#64)) i).getLsbD b = true ↔ i * 64 + b ≤ last) := by
    intro i hi b hb
    by_cases hil : i = last / 64
    · subst hil
      rw [Function.update_self, if_pos hi, BitVec.getLsbD_and, BitVec.getLsbD_allOnes,
        getLsbD_low (by omega)]
      simp only [hb, decide_true, Bool.true_and, decide_eq_true_eq]
      omega
    · rw [Function.update_of_ne hil, if_pos hi, BitVec.getLsbD_allOnes]
      simp only [hb, decide_true, true_iff]
      omega
  unfold has freshWords
  by_cases h0 : n / 64 = 0
  · rw [h0, Function.update_self, BitVec.getLsbD_and, Bool.and_eq_true, hcut 0 (by omega) _ hb,
      hfirst _ hb]
    omega
  · rw [Function.update_of_ne h0, hcut _ hword _ hb]
    omega

/-! ## The loop -/

section Loop

variable {free : Nat → BitVec 64}

theorem findFrom_some {i n j k : Nat} (h : findFrom free i n = some (j, k)) :
    i ≤ j ∧ j < i + n ∧ lowest (free j) = some k := by
  induction n generalizing i with
  | zero => cases h
  | succ n ih =>
    unfold findFrom at h
    grind

theorem findFrom_none {i n : Nat} (h : findFrom free i n = none) {j : Nat} (hi : i ≤ j)
    (hj : j < i + n) : lowest (free j) = none := by
  induction n generalizing i with
  | zero => omega
  | succ n ih => grind [findFrom]

/-- **`dhcpv4_get_ip`** takes a bit of some word, or there is none in any word. -/
theorem get_ip_cases {r : IpRange} (hpos : r.pos < r.len) :
    (∃ i k, i < r.len ∧ lowest (r.free i) = some k ∧ dhcpv4GetIp r = take { r with pos := i } i k) ∨
    (dhcpv4GetIp r = ({ r with pos := 0 }, none) ∧ ∀ i, i < r.len → lowest (r.free i) = none) := by
  unfold dhcpv4GetIp
  cases h1 : findFrom r.free r.pos (r.len - r.pos) with
  | some ik =>
    obtain ⟨i, k⟩ := ik
    obtain ⟨-, hlt, hlow⟩ := findFrom_some h1
    exact .inl ⟨i, k, by omega, hlow, rfl⟩
  | none =>
    by_cases h0 : r.pos = 0
    · right
      simp only [if_pos h0]
      refine ⟨by rw [← h0], fun i hi => findFrom_none h1 (by omega) (by omega)⟩
    · simp only [if_neg h0]
      cases h2 : findFrom r.free 0 r.len with
      | some ik =>
        obtain ⟨i, k⟩ := ik
        obtain ⟨-, hlt, hlow⟩ := findFrom_some h2
        exact .inl ⟨i, k, by omega, hlow, rfl⟩
      | none => exact .inr ⟨rfl, fun i hi => findFrom_none h2 (Nat.zero_le i) (by omega)⟩

end Loop

/-! ## The invariant -/

structure Inv (w : Network) (s : Pool) : Prop where
  valid : w.Valid
  startip : s.range.startip.toNat = w.network
  len : s.range.len = (w.size - 2) / 64 + 1
  pos : s.range.pos < s.range.len
  distinct : s.held.Nodup
  usable : ∀ a ∈ s.held, w.Usable a.toNat
  /-- The bit of an address is set when clients may have it and none does. -/
  free : ∀ n, n < s.range.len * 64 → (has s.range.free n = true ↔
    2 ≤ n ∧ n + 1 < w.size ∧ s.range.startip + BitVec.ofNat 32 n ∉ s.held)

section Invariant

variable {w : Network} {s s' : Pool}

theorem Parsed.inv {r : IpRange} (h : Parsed w r) : Inv w ⟨r, []⟩ where
  valid := h.valid
  startip := h.startip
  len := h.len
  pos := by simp [h.pos, h.len]
  distinct := List.nodup_nil
  usable a ha := by cases ha
  free n hn := by
    have heven : w.size % 2 = 0 := by
      have hpos := h.valid.le
      obtain ⟨j, hj⟩ : ∃ j, 32 - w.prefixLen = j + 1 := ⟨31 - w.prefixLen, by omega⟩
      rw [Network.size, hj, Nat.pow_succ, Nat.mul_mod_left]
    rw [h.free, has_freshWords (by omega) (h.len ▸ hn)]
    grind

variable (hi : Inv w s)
include hi

theorem Inv.toNat_addr {n : Nat} (hn : n < w.size) :
    (s.range.startip + BitVec.ofNat 32 n).toNat = w.network + n := by
  grind [hi.valid.network_add_size_le, hi.startip]

theorem Inv.offset {a : BitVec 32} (ha : w.Usable a.toNat) :
    (a - s.range.startip).toNat = a.toNat - w.network ∧ 2 ≤ a.toNat - w.network ∧
      a.toNat - w.network + 1 < w.size ∧ a.toNat - w.network < s.range.len * 64 ∧
      s.range.startip + BitVec.ofNat 32 (a.toNat - w.network) = a := by
  grind [hi.valid.usable_iff, hi.len, hi.startip, BitVec.toNat_sub_of_le, BitVec.le_def]

theorem Inv.free_of_lowest {i k : Nat} (hlt : i < s.range.len)
    (hk : lowest (s.range.free i) = some k) :
    k < 64 ∧ 2 ≤ i * 64 + k ∧ i * 64 + k + 1 < w.size ∧
      s.range.startip + BitVec.ofNat 32 (i * 64 + k) ∉ s.held := by
  obtain ⟨hb, hset⟩ := lowest_eq_some hk
  refine ⟨hb, (hi.free _ (by omega)).1 ?_⟩
  grind [has]

theorem Inv.take {i k : Nat} (hlt : i < s.range.len) (hk : lowest (s.range.free i) = some k) :
    Inv w ⟨{ s.range with
        free := Function.update s.range.free i (s.range.free i &&& ~~~(1#64 <<< k)), pos := i },
      s.held ++ [s.range.startip + BitVec.ofNat 32 (i * 64 + k)]⟩ := by
  obtain ⟨hb, hlo, hhi, hfree⟩ := hi.free_of_lowest hlt hk
  have haddr := hi.toNat_addr (n := i * 64 + k) (by omega)
  constructor
  case valid => exact hi.valid
  case startip => exact hi.startip
  case len => exact hi.len
  case pos => exact hlt
  case distinct => simp_all [List.Nodup.append, hi.distinct]
  case usable => grind [hi.usable, hi.valid.usable_iff]
  case free =>
    intro n hn
    have hsame : n + 1 < w.size → (s.range.startip + BitVec.ofNat 32 n =
        s.range.startip + BitVec.ofNat 32 (i * 64 + k) ↔ n = i * 64 + k) := by
      intro hns
      refine ⟨fun h => ?_, fun h => h ▸ rfl⟩
      have := congrArg BitVec.toNat h
      rw [hi.toNat_addr (by omega)] at this
      omega
    rw [has_clear _ hb, Bool.and_eq_true, hi.free n hn]
    grind

/-- **`dhcpv4_get_ip` fails**: every address clients may have is held. -/
theorem Inv.exhausted (hall : ∀ i, i < s.range.len → lowest (s.range.free i) = none) {a : BitVec 32}
    (ha : w.Usable a.toNat) : a ∈ s.held := by
  obtain ⟨-, hlo, hhi, hlen, haddr⟩ := hi.offset ha
  by_contra hfree
  have hset := (hi.free _ hlen).2 ⟨hlo, hhi, haddr.symm ▸ hfree⟩
  rw [has, lowest_eq_none (hall _ (by omega))] at hset
  cases hset

theorem Inv.put {ip : BitVec 32} (hip : ip ∈ s.held) :
    Inv w ⟨dhcpv4PutIp s.range ip, s.held.erase ip⟩ := by
  obtain ⟨hoff, hlo, hhi, hlen, haddr⟩ := hi.offset (hi.usable ip hip)
  generalize ip.toNat - w.network = m at hoff hlo hhi hlen haddr
  have hsize := hi.valid.size_le
  have hint : (ip - s.range.startip).toInt = m := by
    rw [BitVec.toInt_eq_toNat_of_lt (by omega), hoff]
  have hput : dhcpv4PutIp s.range ip =
      { s.range with
        free := Function.update s.range.free (m / 64)
          (s.range.free (m / 64) ||| (1#64 <<< (m % 64))) } := by
    unfold dhcpv4PutIp
    rw [hint]
    exact if_neg (by omega)
  rw [hput]
  constructor
  case valid => exact hi.valid
  case startip => exact hi.startip
  case len => exact hi.len
  case pos => exact hi.pos
  case distinct => exact hi.distinct.erase ip
  case usable => exact fun a ha => hi.usable a (List.mem_of_mem_erase ha)
  case free =>
    intro n hn
    have hbit : (decide (n / 64 = m / 64) && (1#64 <<< (m % 64)).getLsbD (n % 64)) =
        decide (n = m) := by
      rw [getLsbD_one_shiftLeft (Nat.mod_lt _ (by decide)), ← Bool.decide_and, decide_eq_decide]
      omega
    rw [has_join, hbit, Bool.or_eq_true, hi.free n hn, decide_eq_true_eq, hi.distinct.mem_erase_iff]
    constructor
    · rintro (⟨h1, h2, h3⟩ | rfl)
      · exact ⟨h1, h2, fun h => h3 h.2⟩
      · exact ⟨hlo, hhi, fun h => h.1 haddr⟩
    grind

theorem step_inv {e : Event} (h : step s e = some s') : Inv w s' := by
  cases e with
  | get =>
    rcases get_ip_cases hi.pos with ⟨i, k, hlt, hk, heq⟩ | ⟨heq, -⟩
    · grind [step, Range.take, hi.take]
    · simp only [step, heq, Option.some.injEq] at h
      exact h ▸ { hi with pos := Nat.lt_of_le_of_lt (Nat.zero_le _) hi.pos }
  | put ip =>
    obtain ⟨hip, rfl⟩ := of_enabled_if h
    exact hi.put hip

theorem Inv.poolOk : PoolOk w s where
  distinct := hi.distinct
  usable := hi.usable
  fails := by
    rcases get_ip_cases hi.pos with ⟨i, k, hlt, hk, heq⟩ | ⟨heq, hall⟩
    · obtain ⟨-, hlo, hhi, hfree⟩ := hi.free_of_lowest hlt hk
      rw [heq]
      refine ⟨fun h => (nomatch h), fun h => absurd (h _ ?_) hfree⟩
      rw [hi.valid.usable_iff, hi.toNat_addr (by omega)]
      omega
    simp_all [hi.exhausted]

end Invariant

/-- **The range is used well**, for every accepted range and all calls. -/
theorem range_kept (fields : List (BitVec 32)) (r : IpRange) (hr : parseRange fields = some r)
    (es : List Event) : Throughout step (PoolOk (networkOf fields)) ⟨r, []⟩ es := by
  have hg : Guarded step (fun _ _ => True) ⟨r, []⟩ es := Guarded.of_forall (fun _ _ _ => trivial) _
  exact (hg.throughout (fun _ _ _ hi _ h => step_inv hi h) (parse_range_spec hr).inv).mono
    fun _ hi => hi.poolOk

/-- A range with one address for clients: the second call fails until it is given back. -/
theorem range_kept_smallest :
    parseRange [10#32, 0#32, 0#32, 6#32, 30#32] = some (newRange 0x0a000006#32 30) ∧
      Throughout step (PoolOk (networkOf [10#32, 0#32, 0#32, 6#32, 30#32]))
        ⟨newRange 0x0a000006#32 30, []⟩ [.get, .get, .put 0x0a000006#32, .get] :=
  have hr : parseRange [10#32, 0#32, 0#32, 6#32, 30#32] = some (newRange 0x0a000006#32 30) := rfl
  ⟨hr, range_kept _ _ hr _⟩

end Ipoe.Range
