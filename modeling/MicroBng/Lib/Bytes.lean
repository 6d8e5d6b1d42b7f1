import Mathlib.Algebra.Group.Nat.Defs
import Mathlib.Data.List.Basic

/-!
# Numbers as bytes

Numbers in network byte order and in the order of the machine, and the comparison of blocks of
bytes.

Principal results: `ofBe_toBe`, `toBe_ofBe`, `be_append`, `memcmp_neg_iff`.
-/

namespace Bytes

/-- The number with the bytes `bs`, the most significant first. -/
def ofBe : List UInt8 → Nat
  | [] => 0
  | b :: bs => b.toNat * 256 ^ bs.length + ofBe bs

/-- The `n` low bytes of a number, the most significant one first. -/
def toBe : Nat → Nat → List UInt8
  | 0, _ => []
  | n + 1, v => UInt8.ofNat (v / 256 ^ n) :: toBe n v

@[simp] theorem length_toBe (n v : Nat) : (toBe n v).length = n := by
  induction n with
  | zero => rfl
  | succ n ih => simp only [toBe, List.length_cons, ih]

theorem ofBe_lt (bs : List UInt8) : ofBe bs < 256 ^ bs.length := by
  induction bs with
  | nil => decide
  | cons b bs ih =>
    have hb : b.toNat < 256 := b.toNat_lt
    calc ofBe (b :: bs) < b.toNat * 256 ^ bs.length + 256 ^ bs.length := Nat.add_lt_add_left ih _
      _ = (b.toNat + 1) * 256 ^ bs.length := (Nat.succ_mul _ _).symm
      _ ≤ 256 * 256 ^ bs.length := Nat.mul_le_mul_right _ hb
      _ = 256 ^ (bs.length + 1) := (Nat.pow_succ').symm

theorem ofBe_toBe_mod (n v : Nat) : ofBe (toBe n v) = v % 256 ^ n := by
  induction n with
  | zero => exact (Nat.mod_one v).symm
  | succ n ih =>
    have hbyte : (UInt8.ofNat (v / 256 ^ n)).toNat = v / 256 ^ n % 256 := UInt8.toNat_ofNat'
    rw [toBe, ofBe, length_toBe, ih, hbyte, Nat.pow_succ, Nat.mod_mul, Nat.mul_comm, Nat.add_comm]

variable {n : Nat} {bs as : List UInt8}

theorem ofBe_toBe {v : Nat} (h : v < 256 ^ n) : ofBe (toBe n v) = v := by
  rw [ofBe_toBe_mod, Nat.mod_eq_of_lt h]

theorem toBe_ofBe (bs : List UInt8) : toBe bs.length (ofBe bs) = bs := by
  have hgen : ∀ (bs : List UInt8) (k : Nat), toBe bs.length (k * 256 ^ bs.length + ofBe bs) = bs := by
    intro bs
    induction bs with
    | nil => exact fun _ => rfl
    | cons b bs ih =>
      intro k
      have hpos : 0 < 256 ^ bs.length := Nat.pow_pos (by decide)
      have hval : k * 256 ^ (bs.length + 1) + (b.toNat * 256 ^ bs.length + ofBe bs) =
          (k * 256 + b.toNat) * 256 ^ bs.length + ofBe bs := by
        rw [Nat.pow_succ', Nat.add_mul, Nat.mul_assoc, Nat.add_assoc]
      have hbyte : UInt8.ofNat (k * 256 + b.toNat) = b := by simp
      simp only [List.length_cons, toBe, ofBe, hval]
      rw [ih, Nat.mul_comm, Nat.mul_add_div hpos, Nat.div_eq_of_lt (ofBe_lt bs), Nat.add_zero, hbyte]
  have h := hgen bs 0
  rwa [Nat.zero_mul, Nat.zero_add] at h

/-- The number with the bytes `bs`, the least significant first. -/
def ofLe (bs : List UInt8) : Nat := ofBe bs.reverse

/-- The `n` low bytes of a number, the least significant first. -/
def toLe (n v : Nat) : List UInt8 := (toBe n v).reverse

@[simp] theorem length_toLe (n v : Nat) : (toLe n v).length = n := by
  rw [toLe, List.length_reverse, length_toBe]

theorem ofLe_toLe {v : Nat} (h : v < 256 ^ n) : ofLe (toLe n v) = v := by
  rw [ofLe, toLe, List.reverse_reverse, ofBe_toBe h]

theorem ofLe_lt (bs : List UInt8) : ofLe bs < 256 ^ bs.length := by
  have h := ofBe_lt bs.reverse
  rwa [List.length_reverse] at h

/-- The number in the `n` bytes of a packet from an offset on. -/
def be (bs : List UInt8) (off n : Nat) : Nat := ofBe ((bs.drop off).take n)

theorem be_append {off : Nat} (h : off + n ≤ bs.length) (ys : List UInt8) :
    be (bs ++ ys) off n = be bs off n := by
  grind [be]

theorem be_take {mem : List UInt8} (h : mem.take n = bs) : be mem 0 n = ofBe bs := by
  rw [be, List.drop_zero, h]

theorem take_eq_toBe {mem : List UInt8} (h : n ≤ mem.length) :
    mem.take n = toBe n (be mem 0 n) := by
  grind [toBe_ofBe, List.length_take, be]

theorem be_lt (mem : List UInt8) (w : Nat) : be mem 0 w < 256 ^ w := by
  have h := ofBe_lt (mem.take w)
  have hle : 256 ^ (mem.take w).length ≤ 256 ^ w :=
    Nat.pow_le_pow_right (by decide) (by rw [List.length_take]; omega)
  rw [be, List.drop_zero]
  omega

theorem xor_mul_add {k x y p q : Nat} (hp : p < 2 ^ k) (hq : q < 2 ^ k) :
    (x * 2 ^ k + p) ^^^ (y * 2 ^ k + q) = (x ^^^ y) * 2 ^ k + (p ^^^ q) := by
  have hpq : p ^^^ q < 2 ^ k := Nat.xor_lt_two_pow hp hq
  apply Nat.eq_of_testBit_eq
  intro i
  rw [Nat.testBit_xor, Nat.mul_comm x, Nat.mul_comm y, Nat.mul_comm (x ^^^ y),
    Nat.testBit_two_pow_mul_add _ hp, Nat.testBit_two_pow_mul_add _ hq,
    Nat.testBit_two_pow_mul_add _ hpq]
  split
  · rw [Nat.testBit_xor]
  · rw [Nat.testBit_xor]

theorem ofBe_zipWith_xor (h : as.length = bs.length) :
    ofBe (List.zipWith (· ^^^ ·) as bs) = ofBe as ^^^ ofBe bs := by
  induction as generalizing bs with
  | nil =>
    obtain rfl := List.length_eq_zero_iff.1 h.symm
    rfl
  | cons a as ih =>
    cases bs with
    | nil => cases h
    | cons b bs =>
      have hpow : 256 ^ bs.length = 2 ^ (8 * bs.length) := by rw [Nat.pow_mul]
      grind [ofBe_lt, List.zipWith_cons_cons, ofBe, UInt8.toNat_xor, xor_mul_add]

/-- `memcmp`, which compares the first bytes that differ. -/
def memcmp : List UInt8 → List UInt8 → Int
  | a :: as, b :: bs => if a = b then memcmp as bs else (a.toNat : Int) - b.toNat
  | _, _ => 0

theorem memcmp_eq_zero (h : as.length = bs.length) : memcmp as bs = 0 ↔ as = bs := by
  induction as generalizing bs with
  | nil => simp [memcmp, List.length_eq_zero_iff.1 h.symm]
  | cons a as ih =>
    cases bs with
    | nil => cases h
    | cons b bs =>
      by_cases hab : a = b
      · simp [memcmp, hab, ih (Nat.succ.inj h)]
      · have hne : a.toNat ≠ b.toNat := fun he => hab (UInt8.toNat.inj he)
        simp only [memcmp, hab, if_false, List.cons.injEq, false_and, iff_false]
        omega

theorem memcmp_neg_iff (h : as.length = bs.length) : memcmp as bs < 0 ↔ ofBe as < ofBe bs := by
  induction as generalizing bs with
  | nil =>
    cases bs with
    | nil => decide
    | cons b bs => cases h
  | cons a as ih =>
    cases bs with
    | nil => cases h
    | cons b bs =>
      have hlen : as.length = bs.length := Nat.succ.inj h
      have hlt := ofBe_lt as
      have hlt' := ofBe_lt bs
      rw [hlen] at hlt
      simp only [memcmp, ofBe, hlen]
      generalize 256 ^ bs.length = p at hlt hlt' ⊢
      split
      · next hab =>
        rw [ih hlen, hab]
        omega
      · next hab =>
        have hne : a.toNat ≠ b.toNat := fun he => hab (UInt8.toNat.inj he)
        constructor
        · intro hneg
          have hle : a.toNat + 1 ≤ b.toNat := by omega
          have := Nat.mul_le_mul_right p hle
          rw [Nat.succ_mul] at this
          omega
        · by_contra hge
          have hle : b.toNat + 1 ≤ a.toNat := by omega
          have := Nat.mul_le_mul_right p hle
          rw [Nat.succ_mul] at this
          omega

theorem ofBe_inj (h : as.length = bs.length) (hv : ofBe as = ofBe bs) : as = bs := by
  rw [← toBe_ofBe as, ← toBe_ofBe bs, h, hv]

end Bytes
