import Mathlib.Algebra.GroupWithZero.Nat
import Mathlib.Data.List.Basic

/-!
# Sliding statistics

`radius/stat_accm.c`: the samples of the last `time` seconds with their number and their sum, which
are kept in an `unsigned int` and an `unsigned long`.

* `window_counted`: they are those of the samples in the window, as far as their types go
-/

namespace Radius.StatAccm

structure Item where
  val : UInt32
  ts : Nat

structure Accm where
  items : List Item
  itemsCnt : UInt32
  time : UInt32
  total : UInt64

def create (time : UInt32) : Accm := ⟨[], 0, time, 0⟩

/-- The sample has left the window. -/
def old (time now : Nat) (it : Item) : Bool := now - it.ts > time

/-- The loop of `stat_accm_clean` from an item on. -/
def cleanFrom (now : Nat) : List Item → Accm → Accm
  | [], s => { s with items := [] }
  | it :: items, s =>
    if old s.time.toNat now it then
      cleanFrom now items
        { s with itemsCnt := s.itemsCnt - 1, total := s.total - it.val.toUInt64 }
    else { s with items := it :: items }

def clean (now : Nat) (s : Accm) : Accm := cleanFrom now s.items s

inductive Call
  | add (val : UInt32)
  | getCnt
  | getAvg

/-- A call at a time, and what it returns. -/
def call (s : Accm) (now : Nat) : Call → Accm × UInt64
  | .add val =>
    let s := clean now s
    (⟨s.items ++ [⟨val, now⟩], s.itemsCnt + 1, s.time, s.total + val.toUInt64⟩, 0)
  | .getCnt => (clean now s, (clean now s).itemsCnt.toUInt64)
  | .getAvg =>
    let s := clean now s
    (s, if s.itemsCnt ≠ 0 then s.total / s.itemsCnt.toUInt64 else 0)

def calls (s : Accm) (es : List (Nat × Call)) : Accm := es.foldl (fun s e => (call s e.1 e.2).1) s

/-- The samples that were added. -/
def samples (es : List (Nat × Call)) : List Item :=
  es.filterMap fun e => match e.2 with
    | .add val => some ⟨val, e.1⟩
    | _ => none

def inside (time now : Nat) (items : List Item) : List Item := items.filter (!old time now ·)

def sum (items : List Item) : Nat := (items.map (·.val.toNat)).sum

theorem ofNat_add_val (n : Nat) (val : UInt32) :
    UInt64.ofNat (val.toNat + n) = .ofNat n + val.toUInt64 := by
  rw [UInt64.add_comm]
  simp

variable {now t : Nat} {items xs : List Item} {s : Accm} {time : UInt32}

/-- The loop takes out the old items in front. -/
theorem cleanFrom_eq (hcnt : s.itemsCnt = .ofNat items.length) (htotal : s.total = .ofNat (sum items)) :
    let rest := items.dropWhile (old s.time.toNat now)
    cleanFrom now items s = ⟨rest, .ofNat rest.length, s.time, .ofNat (sum rest)⟩ := by
  induction items generalizing s with
  | nil => simp [cleanFrom, hcnt, htotal]
  | cons it items ih =>
    unfold cleanFrom
    by_cases h : old s.time.toNat now it = true
    · have hsum : sum (it :: items) = it.val.toNat + sum items := rfl
      rw [if_pos h, List.dropWhile_cons_of_pos h]
      apply ih
      · simp [hcnt]
      · rw [htotal, hsum, ofNat_add_val, UInt64.add_sub_cancel]
    · rw [if_neg h, List.dropWhile_cons_of_neg h, hcnt, htotal]

/-- The items are in the order of their times, so the loop stops behind the old ones. -/
theorem dropWhile_old (time : Nat) (h : items.Pairwise (·.ts ≤ ·.ts)) :
    items.dropWhile (old time now) = inside time now items := by
  induction items with
  | nil => rfl
  | cons it items ih =>
    rw [List.pairwise_cons] at h
    unfold inside at ih ⊢
    by_cases hit : old time now it = true
    · simp [hit, ih h.2]
    · rw [List.dropWhile_cons_of_neg hit, eq_comm, List.filter_eq_self]
      intro x hx
      unfold old at hit ⊢
      rcases List.mem_cons.1 hx with rfl | hx
      · simpa using hit
      · have hle := h.1 x hx
        simp at hit ⊢
        omega

/-- The samples `xs` have been added, and the items were last looked at when it was `t`. -/
structure Inv (time : UInt32) (xs : List Item) (t : Nat) (s : Accm) : Prop where
  width : s.time = time
  items : s.items = inside time.toNat t xs
  cnt : s.itemsCnt = .ofNat s.items.length
  total : s.total = .ofNat (sum s.items)
  sorted : xs.Pairwise (·.ts ≤ ·.ts)
  past : ∀ x ∈ xs, x.ts ≤ t

theorem create_inv (time : UInt32) : Inv time [] 0 (create time) := ⟨rfl, rfl, rfl, rfl, .nil, nofun⟩

theorem Inv.clean (h : Inv time xs t s) (hle : t ≤ now) : Inv time xs now (clean now s) := by
  have hkeep : s.items.dropWhile (old s.time.toNat now) = inside time.toNat now xs := by
    have hsorted : (inside time.toNat t xs).Pairwise (·.ts ≤ ·.ts) := h.sorted.filter _
    rw [h.items, h.width, dropWhile_old _ hsorted, inside, inside, List.filter_filter]
    apply List.filter_congr
    simp [old]
    omega
  rw [StatAccm.clean, cleanFrom_eq h.cnt h.total, hkeep]
  exact ⟨h.width, rfl, rfl, rfl, h.sorted, fun x hx => Nat.le_trans (h.past x hx) hle⟩

theorem Inv.call (h : Inv time xs t s) (hle : t ≤ now) (c : Call) :
    Inv time (xs ++ samples [(now, c)]) now (call s now c).1 := by
  have hc := h.clean hle
  cases c with
  | getCnt | getAvg => simpa [samples, StatAccm.call] using hc
  | add val =>
    refine ⟨hc.width, ?_, ?_, ?_, ?_, ?_⟩
    · simp [samples, StatAccm.call, inside, hc.items, old]
    · simp [StatAccm.call, hc.cnt]
    · simp [StatAccm.call, hc.total, sum]
    · exact List.pairwise_append.2
        ⟨hc.sorted, List.pairwise_singleton .., by simpa [samples] using hc.past⟩
    · simpa [samples, or_imp, forall_and] using hc.past

/-- The time of the last call. -/
def lastTime (es : List (Nat × Call)) (t : Nat) : Nat := (es.getLast?.map Prod.fst).getD t

theorem Inv.calls (h : Inv time xs t s) {es : List (Nat × Call)} (hes : es.Pairwise (·.1 ≤ ·.1))
    (hle : ∀ e ∈ es, t ≤ e.1) : Inv time (xs ++ samples es) (lastTime es t) (calls s es) := by
  induction es generalizing xs t s with
  | nil => simpa [samples, StatAccm.calls, lastTime] using h
  | cons e es ih =>
    rw [List.pairwise_cons] at hes
    have hi := ih (h.call (hle e List.mem_cons_self) e.2) hes.2 hes.1
    have hsamples : samples (e :: es) = samples [e] ++ samples es :=
      List.filterMap_append (l := [e])
    have hlast : lastTime (e :: es) t = lastTime es e.1 := by
      cases h : es.getLast? <;> simp [lastTime, List.getLast?_cons]
    rwa [List.append_assoc, ← hsamples, ← hlast] at hi

/-- **The sliding window.**  After any calls at non-decreasing times the counters are those of the
samples inside the window, as far as their types go, and an average is their quotient. -/
theorem window_counted (time : UInt32) (es : List (Nat × Call)) (hes : es.Pairwise (·.1 ≤ ·.1)) :
    let s := calls (create time) es
    let live := inside time.toNat (lastTime es 0) (samples es)
    s.itemsCnt = .ofNat live.length ∧ s.total = .ofNat (sum live) ∧
      ∀ now, let r := call s now .getAvg
        r.2 = if r.1.itemsCnt = 0 then 0 else r.1.total / r.1.itemsCnt.toUInt64 := by
  have hi := (create_inv time).calls hes fun e _ => Nat.zero_le e.1
  refine ⟨hi.items ▸ hi.cnt, hi.items ▸ hi.total, fun now => ?_⟩
  simp [StatAccm.call]

/-- Of three samples the first has left the window. -/
theorem window_counted_three :
    let s := calls (create 60) [(0, .add 7), (50, .add 1), (61, .add 4)]
    s.itemsCnt = 2 ∧ (call s 61 .getAvg).2 = 2 :=
  ⟨(window_counted 60 [(0, .add 7), (50, .add 1), (61, .add 4)] (by decide)).1, by decide +kernel⟩

theorem calls_replicate (n : Nat) : let es := List.replicate n (0, Call.add 0)
    es.Pairwise (·.1 ≤ ·.1) ∧ (inside 60 (lastTime es 0) (samples es)).length = n ∧
      (calls (create 60) es).itemsCnt = .ofNat n := by
  intro es
  have hes : es.Pairwise (·.1 ≤ ·.1) := List.pairwise_replicate.2 (.inr (Nat.le_refl 0))
  have hi := (create_inv 60).calls hes fun e _ => Nat.zero_le e.1
  have hlast : lastTime es 0 = 0 := by
    by_cases hn : n = 0 <;> simp [es, lastTime, List.getLast?_replicate, hn]
  have hlive : (inside 60 0 (samples es)).length = n := by
    have hsamples : samples es = List.replicate n ⟨0, 0⟩ := List.filterMap_replicate_of_some rfl
    rw [hsamples, inside, List.filter_replicate_of_pos rfl, List.length_replicate]
  rw [hlast]
  refine ⟨hes, hlive, ?_⟩
  rw [hi.cnt, hi.items, hlast]
  exact congrArg UInt32.ofNat hlive

/-- With `2 ^ 32` samples inside the window the count is zero. -/
theorem count_wraps : ∃ es : List (Nat × Call), es.Pairwise (·.1 ≤ ·.1) ∧
    (inside 60 (lastTime es 0) (samples es)).length = 2 ^ 32 ∧
      (calls (create 60) es).itemsCnt = 0 := by
  obtain ⟨hes, hlen, hcnt⟩ := calls_replicate (2 ^ 32)
  exact ⟨_, hes, hlen, hcnt.trans (by decide)⟩

end Radius.StatAccm
