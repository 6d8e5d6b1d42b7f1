import Mathlib.Data.Nat.ModEq

/-!
# Sliding windows: 16-bit serial numbers and circular buffers

Sequence numbers live in `UInt16` and are compared through their distance, so the lemmas of
`Serial` turn a distance between two numbers of one stream (`base + k` and `base + n`) back into
a difference of positions. `Ring` keeps a partial window of a stream in a circular buffer: slot
`(id + i) % sz` is empty or holds what belongs at offset `i` from the read position `id`.
-/

namespace Serial

variable (base : UInt16)

/-- The serial number at position `k` of a stream from `base` on. -/
def num (base : UInt16) (k : Nat) : UInt16 := base + UInt16.ofNat k

@[simp] theorem num_zero : num base 0 = base := by simp [num]

theorem num_succ (k : Nat) : num base k + 1 = num base (k + 1) := by
  simp [num, UInt16.add_assoc]

theorem num_add (k j : Nat) : num base k + UInt16.ofNat j = num base (k + j) := by
  simp [num, UInt16.add_assoc]

theorem toNat_num (k : Nat) : (num base k).toNat = (base.toNat + k) % 65536 := by
  simp [num]

theorem toNat_sub_num (k n : Nat) :
    (num base k - num base n).toNat = (65536 - (base.toNat + n) % 65536
      + (base.toNat + k) % 65536) % 65536 := by
  rw [UInt16.toNat_sub, toNat_num, toNat_num]

theorem sub_of_le {k n : Nat} (hle : n ≤ k) (hlt : k < n + 65536) :
    (num base k - num base n).toNat = k - n := by
  rw [toNat_sub_num]
  omega

theorem sub_of_lt {k n : Nat} (hlt : k < n) (hle : n ≤ k + 65536) :
    (num base k - num base n).toNat = k + 65536 - n := by
  rw [toNat_sub_num]
  omega

theorem sub_via (x y z : UInt16) :
    (y - z).toNat = ((x - z).toNat + 65536 - (x - y).toNat) % 65536 := by
  have hy := y.toNat_lt
  simp only [UInt16.toNat_sub]
  omega

theorem add_toNat_sub (x y : UInt16) : y + UInt16.ofNat (x - y).toNat = x := by
  rw [UInt16.ofNat_toNat, UInt16.add_comm, UInt16.sub_add_cancel]

end Serial

namespace Ring

variable {α : Type*} {q : Nat → Option α} {sz id i : Nat} {P : Nat → α → Prop}

/-- The slot at offset `i` from the read position `id`. -/
def slot (sz id i : Nat) : Nat := (id + i) % sz

/-- Every occupied slot holds what belongs at its offset. -/
def Holds (q : Nat → Option α) (sz id : Nat) (P : Nat → α → Prop) : Prop :=
  ∀ i < sz, ∀ x, q (slot sz id i) = some x → P i x

theorem Holds.empty (sz id : Nat) (P : Nat → α → Prop) : Holds (fun _ => none) sz id P :=
  nofun

theorem Holds.mono {P' : Nat → α → Prop} (h : Holds q sz id P)
    (himp : ∀ i x, P i x → P' i x) : Holds q sz id P' :=
  fun i hi x hx => himp i x (h i hi x hx)

theorem slot_inj {j : Nat} (hi : i < sz) (hj : j < sz) (h : slot sz id i = slot sz id j) :
    i = j := by
  have hmod : i ≡ j [MOD sz] := Nat.ModEq.add_left_cancel' id h
  rwa [Nat.ModEq, Nat.mod_eq_of_lt hi, Nat.mod_eq_of_lt hj] at hmod

theorem Holds.insert (h : Holds q sz id P) (hi : i < sz) {x : α} (hx : P i x) :
    Holds (Function.update q (slot sz id i) (some x)) sz id P := by
  intro j hj y hy
  by_cases hs : slot sz id j = slot sz id i
  · grind [slot_inj]
  · rw [Function.update_of_ne hs] at hy
    exact h j hj y hy

theorem slot_succ (sz id i : Nat) : slot sz ((id + 1) % sz) i = slot sz id (i + 1) := by
  simp only [slot, Nat.mod_add_mod]
  congr 1
  omega

theorem Holds.advance (h : Holds q sz id P) (hid : id < sz) :
    Holds (Function.update q id none) sz ((id + 1) % sz) fun i => P (i + 1) := by
  intro i hi x hx
  rw [slot_succ] at hx
  have hne : slot sz id (i + 1) ≠ id := by
    intro he
    rw [he, Function.update_self] at hx
    cases hx
  rw [Function.update_of_ne hne] at hx
  have hlt : i + 1 < sz := by
    by_contra hge
    obtain rfl : i + 1 = sz := by omega
    exact hne (by simp [slot, Nat.mod_eq_of_lt hid])
  exact h (i + 1) hlt x hx

theorem Holds.first (h : Holds q sz id P) (hid : id < sz) {x : α} (hx : q id = some x) : P 0 x :=
  h 0 (by omega) x (by simpa [slot, Nat.mod_eq_of_lt hid] using hx)

end Ring
