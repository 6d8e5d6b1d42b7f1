import Mathlib.Data.List.Basic

/-!
# Chained hiding

Bytes are hidden block by block: each block is combined with a key by exclusive or, and the key of
the next block is a function of the hidden block.

Principal results: `memxor_take_memxor`, `unhide_take_hide`, `drop_unhideBack`.
-/

namespace Chaining

def memxor (bs key : List UInt8) : List UInt8 := List.zipWith (· ^^^ ·) bs key

/-- Bytes are hidden in blocks of `b`, for so many blocks. -/
def hide (b : Nat) (next : List UInt8 → List UInt8) : Nat → List UInt8 → List UInt8 → List UInt8
  | 0, _, _ => []
  | n + 1, key, clear =>
    if clear.length ≤ b then memxor clear key
    else
      let block := memxor (clear.take b) key
      block ++ hide b next n (next block) (clear.drop b)

/-- Hidden bytes are revealed: the keys only depend on what is hidden. -/
def unhide (b : Nat) (next : List UInt8 → List UInt8) : Nat → List UInt8 → List UInt8 → List UInt8
  | 0, _, _ => []
  | n + 1, key, hidden =>
    if hidden.length ≤ b then memxor hidden key
    else memxor (hidden.take b) key ++ unhide b next n (next (hidden.take b)) (hidden.drop b)

/-- In place, `len` bytes of the block behind block `k` are revealed with the key of block `k`. -/
def reveal (b : Nat) (next : List UInt8 → List UInt8) (k len : Nat) (buf : List UInt8) :
    List UInt8 :=
  buf.take (b * (k + 1)) ++
    memxor ((buf.drop (b * (k + 1))).take len) (next ((buf.drop (b * k)).take b)) ++
    buf.drop (b * (k + 1) + len)

/-- The `n` blocks behind the first are revealed in place, from the last one on. -/
def unhideBack (b : Nat) (next : List UInt8 → List UInt8) : Nat → List UInt8 → List UInt8
  | 0, buf => buf
  | n + 1, buf => unhideBack b next n (reveal b next n b buf)

@[simp] theorem length_memxor (bs key : List UInt8) :
    (memxor bs key).length = min bs.length key.length :=
  List.length_zipWith

theorem memxor_comm (bs key : List UInt8) : memxor bs key = memxor key bs := by
  grind [memxor, List.zipWith_comm]

theorem take_memxor (bs key : List UInt8) (n : Nat) :
    (memxor bs key).take n = memxor (bs.take n) (key.take n) :=
  List.take_zipWith

variable {n : Nat} {bs key : List UInt8}

theorem memxor_take_right (bs key : List UInt8) (h : bs.length ≤ n) :
    memxor bs (key.take n) = memxor bs key := by
  have h1 := take_memxor bs key n
  grind [List.take_of_length_le, length_memxor]

theorem memxor_memxor (h : bs.length ≤ key.length) : memxor (memxor bs key) key = bs := by
  induction bs generalizing key with
  | nil => rfl
  | cons b bs ih =>
    cases key with
    | nil => cases h
    | cons k key =>
      have hb : b ^^^ k ^^^ k = b := by rw [UInt8.xor_assoc, UInt8.xor_self, UInt8.xor_zero]
      simp_all [memxor]

theorem memxor_take_memxor (h : bs.length ≤ key.length) (n : Nat) :
    memxor ((memxor bs key).take n) key = bs.take n := by
  grind [take_memxor, memxor_take_right, memxor_memxor]

theorem take_eq_of_memxor {key' : List UInt8} (hkey : key.length ≤ bs.length)
    (hkey' : key'.length ≤ bs.length)
    (h : (memxor bs key).take n = (memxor bs key').take n) : key.take n = key'.take n := by
  grind [memxor_take_memxor, memxor_comm]

variable {b : Nat} {next : List UInt8 → List UInt8}

theorem hide_of_lt {clear : List UInt8} (h : b < clear.length) :
    hide b next (n + 1) key clear =
      memxor (clear.take b) key ++
        hide b next n (next (memxor (clear.take b) key)) (clear.drop b) := by
  grind [hide]

/-! ## In place -/

theorem unhide_nil (m : Nat) (key : List UInt8) : unhide b next m key [] = [] := by
  cases m <;> simp [unhide, memxor]

theorem reveal_append {first rest : List UInt8} (hfirst : first.length = b) (k len : Nat) :
    reveal b next (k + 1) len (first ++ rest) = first ++ reveal b next k len rest := by
  have hmul (k : Nat) : b * (k + 1) = b + b * k := by rw [Nat.mul_succ, Nat.add_comm]
  have htake (m : Nat) : (first ++ rest).take (b + m) = first ++ rest.take m := by
    rw [← hfirst, List.take_length_add_append]
  have hdrop (m : Nat) : (first ++ rest).drop (b + m) = rest.drop m := by
    rw [← hfirst, List.drop_length_add_append]
  rw [reveal, reveal, hmul (k + 1), Nat.add_assoc, htake, hdrop, hdrop, hmul k, hdrop]
  simp only [List.append_assoc]

theorem take_reveal (k len : Nat) {buf : List UInt8} (h : b ≤ buf.length) :
    (reveal b next k len buf).take b = buf.take b := by
  have hle : b ≤ b * (k + 1) := Nat.le_mul_of_pos_right b k.succ_pos
  rw [reveal, List.append_assoc, List.take_append_of_le_length (by rw [List.length_take]; omega),
    List.take_take, Nat.min_eq_left hle]

theorem length_reveal_ge (k len : Nat) (buf : List UInt8) (h : b * (k + 1) ≤ buf.length) :
    b * (k + 1) ≤ (reveal b next k len buf).length := by
  rw [reveal, List.append_assoc, List.length_append, List.length_take]
  omega

/-- The first of the blocks can be revealed apart from the others. -/
theorem drop_unhideBack_append {n : Nat} {first rest : List UInt8} (hfirst : first.length = b)
    (hrest : b * (n + 1) ≤ rest.length) :
    (unhideBack b next (n + 1) (first ++ rest)).drop b =
      memxor (rest.take b) (next first) ++ (unhideBack b next n rest).drop b := by
  induction n generalizing rest with
  | zero =>
    rw [unhideBack, unhideBack, unhideBack, reveal]
    simp [← hfirst, List.drop_append]
  | succ n ih =>
    have hle : b * (n + 1) ≤ rest.length := by
      rw [Nat.mul_succ] at hrest
      omega
    have hb : b ≤ rest.length := Nat.le_trans (Nat.le_mul_of_pos_right b n.succ_pos) hle
    rw [unhideBack, reveal_append hfirst, ih (length_reveal_ge n b rest hle), take_reveal n b hb,
      unhideBack]

/-- **In place** from the last block on, so that those before are still hidden, the bytes are
revealed as they are from the first block on. The last block may be a part of one. -/
theorem drop_unhideBack (hb : 0 < b) {n m len : Nat} {buf : List UInt8} (hlen : len ≤ b)
    (hbuf : b * (n + 1) + len ≤ buf.length) (hm : b * n + len ≤ m) :
    (unhideBack b next n (reveal b next n len buf)).drop b =
      unhide b next m (next (buf.take b)) ((buf.drop b).take (b * n + len)) ++
        (buf.drop b).drop (b * n + len) := by
  have hmul (k : Nat) : b * (k + 1) = b + b * k := by rw [Nat.mul_succ, Nat.add_comm]
  induction n generalizing buf m with
  | zero =>
    have hbase : unhide b next m (next (buf.take b)) ((buf.drop b).take len) =
        memxor ((buf.drop b).take len) (next (buf.take b)) := by
      cases m with
      | zero =>
        obtain rfl : len = 0 := by omega
        simp [unhide, memxor]
      | succ m => rw [unhide, if_pos (by rw [List.length_take]; omega)]
    have hfirst : (buf.take b).length = b := by
      rw [List.length_take]
      omega
    simp only [Nat.mul_zero, Nat.zero_add, hbase, unhideBack, reveal, Nat.mul_one, List.drop_zero,
      List.append_assoc, List.drop_drop]
    exact List.drop_left' hfirst
  | succ n ih =>
    rw [hmul (n + 1), hmul n] at hbuf
    rw [hmul n] at hm
    obtain ⟨first, rest, rfl, hfirst⟩ : ∃ first rest, buf = first ++ rest ∧ first.length = b :=
      ⟨_, _, (List.take_append_drop b buf).symm, by rw [List.length_take]; omega⟩
    rw [List.length_append, hfirst] at hbuf
    have hrest : b * (n + 1) ≤ rest.length := by
      rw [hmul n]
      omega
    rw [reveal_append hfirst, drop_unhideBack_append hfirst (length_reveal_ge n len rest hrest),
      take_reveal n len (by omega), List.take_left' hfirst, List.drop_left' hfirst, hmul n]
    obtain ⟨m, rfl⟩ : ∃ k, m = k + 1 := ⟨m - 1, by omega⟩
    rw [ih (m := m) (by rw [hmul n]; omega) (by omega), unhide]
    have htake : (rest.take (b + b * n + len)).length = b + b * n + len := by
      rw [List.length_take]
      omega
    by_cases hlast : b * n + len = 0
    · rw [if_pos (by omega), hlast, Nat.add_assoc, hlast, List.take_zero, unhide_nil]
      rfl
    · rw [if_neg (by omega), List.take_take, Nat.min_eq_left (by omega), Nat.add_assoc,
        List.drop_take, Nat.add_sub_cancel_left, List.append_assoc, List.drop_drop]

section

variable (hb : 0 < b) (hnext : ∀ block, (next block).length = b)

include hb hnext

theorem length_hide {n : Nat} {key clear : List UInt8} (hkey : key.length = b)
    (hn : clear.length ≤ n) : (hide b next n key clear).length = clear.length := by
  induction n generalizing key clear with
  | zero => rw [hide, List.length_nil]; omega
  | succ n ih =>
    rcases Nat.lt_or_ge b clear.length with h | h
    · rw [hide_of_lt h, List.length_append, length_memxor, List.length_take,
        ih (hnext _) (by rw [List.length_drop]; omega), List.length_drop]
      omega
    · rw [hide, if_pos h, length_memxor]
      omega

theorem unhide_take_hide {n m j : Nat} {key clear : List UInt8} (hkey : key.length = b)
    (hn : clear.length ≤ n) (hm : j ≤ m) :
    unhide b next m key ((hide b next n key clear).take j) = clear.take j := by
  induction n generalizing key clear m j with
  | zero =>
    obtain rfl := List.length_eq_zero_iff.1 (Nat.le_zero.1 hn)
    cases m with
    | zero => simp [unhide]
    | succ m => simp [hide, unhide, memxor]
  | succ n ih =>
    cases m with
    | zero =>
      obtain rfl := Nat.le_zero.1 hm
      rfl
    | succ m =>
      rcases Nat.lt_or_ge b clear.length with h | h
      · have hblock : (clear.take b).length = b := by rw [List.length_take]; omega
        have hhid : (memxor (clear.take b) key).length = b := by
          rw [length_memxor, hblock, hkey, Nat.min_self]
        rw [hide_of_lt h]
        rcases Nat.lt_or_ge b j with hj | hj
        · -- the first block is whole
          have hrest : ((hide b next n (next (memxor (clear.take b) key)) (clear.drop b)).take
              (j - b)).length ≠ 0 := by
            rw [List.length_take, length_hide hb hnext (hnext _) (by rw [List.length_drop]; omega),
              List.length_drop]
            omega
          rw [List.take_append, hhid, List.take_of_length_le (by omega), unhide,
            if_neg (by rw [List.length_append]; omega), List.take_left' hhid, List.drop_left' hhid,
            ih (hnext _) (by rw [List.length_drop]; omega) (by omega),
            memxor_memxor (by omega), ← List.take_append_drop b (clear.take j), List.take_take,
            List.drop_take, Nat.min_eq_left (by omega)]
        simp_all [List.take_append_of_le_length, unhide, memxor_take_memxor, List.take_take]
      · rw [hide, if_pos h, unhide, if_pos (by rw [List.length_take, length_memxor]; omega),
          memxor_take_memxor (by omega)]

end

end Chaining
