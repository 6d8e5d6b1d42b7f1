import MicroBng.Lib.Machine
import Mathlib.Data.Fintype.Basic

/-!
# The MAC filter

`ctrl/pppoe/mac_filter.c`: the list that a file is loaded into and that commands add to and take
from, and the set of addresses they define.

* `check_decides`: the filter decides by that set if every line has an address (`Clean`)
-/

namespace Pppoe.MacFilter

open Machine

abbrev Mac := Fin 6 → UInt8

/-- `type` is -1 if the filter is disabled, 1 if it allows and 0 if it denies the addresses. -/
structure State where
  type : Int
  macs : List Mac

def check (s : State) (addr : Mac) : Int :=
  if s.type = -1 then 0 else if addr ∈ s.macs then (if s.type = 0 then 1 else 0) else s.type

/-- A command. `opt` is what is behind the comma, if it is `allow` or `deny`, `file` the lines of
the file, if it can be opened, and `junk` what freed memory contains. -/
inductive Cmd
  | load (opt : Option Bool) (file : Option (List (List UInt8))) (junk : Mac)
  | add (addr : List UInt8)
  | del (addr : List UInt8)

/-- What `fgets` returns for a line, with a buffer of 1024 bytes. -/
def fgets (line : List UInt8) : List (List UInt8) :=
  if 1023 < line.length then line.take 1023 :: fgets (line.drop 1023) else [line]
termination_by line.length
decreasing_by simp; omega

/-- The line begins with `#`, `;` or a newline. -/
def skipped (buf : List UInt8) : Bool :=
  buf.head? = some 35 || buf.head? = some 59 || buf.head? = some 10

def isHex (c : UInt8) : Bool := (48 ≤ c ∧ c ≤ 57) ∨ (65 ≤ c ∧ c ≤ 70) ∨ (97 ≤ c ∧ c ≤ 102)

def hexVal (c : UInt8) : Nat := if c ≤ 57 then c.toNat - 48 else (c.toNat - 55) % 32

/-- `%x`: a number, if there is one, and what is behind it. Blanks, a sign and `0x` may come first;
the number is that of `strtoul`, of which an `unsigned int` keeps the lower half. -/
def scanHex (bs : List UInt8) : Option (Nat × List UInt8) :=
  let bs := bs.dropWhile fun c => c = 32 ∨ (9 ≤ c ∧ c ≤ 13)
  let minus := bs.head? = some 45
  let bs := if minus ∨ bs.head? = some 43 then bs.tail else bs
  let marked := bs.take 2 = [48, 120] ∨ bs.take 2 = [48, 88]
  let bs := if marked then bs.drop 2 else bs
  let v := (bs.takeWhile isHex).foldl (fun v c => 16 * v + hexVal c) 0
  let n := if UInt64.size ≤ v then UInt64.size - 1 else if minus then UInt64.size - v else v
  if marked ∨ bs.head?.any isHex then some (n % UInt32.size, bs.dropWhile isHex) else none

def scanFrom : Nat → List UInt8 → Option (List Nat)
  | 0, bs => (scanHex bs).map fun r => [r.1]
  | k + 1, bs => (scanHex bs).bind fun r =>
    if r.2.head? = some 58 then (scanFrom k r.2.tail).map (r.1 :: ·) else none

/-- `sscanf` with the format `%x:%x:%x:%x:%x:%x`: the numbers, if it reads all six. -/
def sscanf (addr : List UInt8) : Option (Fin 6 → Nat) :=
  (scanFrom 5 addr).map fun ns i => ns.getD i 0

-- The filter does what it does whatever `scan` reads of a text; the source has `sscanf` there.
variable (scan : List UInt8 → Option (Fin 6 → Nat))

/-- The address of a text that is well formed. -/
def parse (addr : List UInt8) : Option Mac :=
  (scan addr).bind fun n => if ∀ i, n i ≤ 255 then some fun i => UInt8.ofNat (n i) else none

/-- The entry for a line. With a number above 255 it is freed and added all the same: the
`continue` is one of the loop over the numbers. -/
def loadLine (junk : Mac) (buf : List UInt8) : Option Mac :=
  if skipped buf then none
  else (scan buf).map fun n i => if n i ≤ 255 then UInt8.ofNat (n i) else junk i

def exec (s : State) : Cmd → State
  | .load none _ _ => s
  | .load (some allow) none _ => { s with type := if allow then 1 else 0 }
  | .load (some allow) (some file) junk =>
    ⟨if allow then 1 else 0, (file.flatMap fgets).filterMap (loadLine scan junk)⟩
  | .add addr => { s with macs := s.macs ++ (parse scan addr).toList }
  | .del addr => ((parse scan addr).map fun a => { s with macs := s.macs.erase a }).getD s

/-- The set of addresses after a command. -/
def define (addrs : Set Mac) : Cmd → Set Mac
  | .load (some _) (some file) _ => {a | ∃ line ∈ file, skipped line = false ∧ parse scan line = some a}
  | .load _ _ _ => addrs
  | .add addr => addrs ∪ {a | parse scan addr = some a}
  | .del addr => addrs \ {a | parse scan addr = some a}

def step (x : State × Set Mac) (c : Cmd) : Option (State × Set Mac) :=
  some (exec scan x.1 c, define scan x.2 c)

/-- The set decides. -/
def Decides (x : State × Set Mac) : Prop :=
  ∀ a, (x.1.type = -1 → check x.1 a = 0) ∧ (x.1.type ≠ -1 →
    (a ∈ x.2 → check x.1 a = if x.1.type = 0 then 1 else 0) ∧ (a ∉ x.2 → check x.1 a = x.1.type))

/-- Lines fit into the buffer and have no number above 255, and an address that is deleted is in the
list once. -/
def Clean (x : State × Set Mac) : Cmd → Prop
  | .load _ file _ => ∀ lines ∈ file, ∀ line ∈ lines, line.length ≤ 1023 ∧
      (skipped line = false → ∀ n ∈ scan line, ∀ i, n i ≤ 255)
  | .add _ => True
  | .del addr => ∀ a ∈ parse scan addr, x.1.macs.count a ≤ 1

section Steps

variable {scan} {s : State} {addrs : Set Mac}

theorem fgets_of_le {line : List UInt8} (h : line.length ≤ 1023) : fgets line = [line] := by
  rw [fgets, if_neg (by omega)]

theorem loadLine_eq {junk a : Mac} {line : List UInt8}
    (h : skipped line = false → ∀ n ∈ scan line, ∀ i, n i ≤ 255) :
    loadLine scan junk line = some a ↔ skipped line = false ∧ parse scan line = some a := by
  unfold loadLine parse
  cases hs : skipped line with
  | true => simp
  | false =>
    cases hn : scan line with
    | none => simp
    | some n =>
      have hle : ∀ i, n i ≤ 255 := h hs n hn
      simp [hle]

theorem mem_erase_of_count {l : List Mac} {a b : Mac} (h : l.count a ≤ 1) :
    b ∈ l.erase a ↔ b ∈ l ∧ b ≠ a := by
  by_cases hab : b = a
  · have hcount : (l.erase a).count a = 0 := by
      rw [List.count_erase_self]
      omega
    simp [hab, List.count_eq_zero.1 hcount]
  · simp [hab]

theorem exec_mem {c : Cmd} (hi : ∀ a, a ∈ s.macs ↔ a ∈ addrs) (hc : Clean scan (s, addrs) c) (a : Mac) :
    a ∈ (exec scan s c).macs ↔ a ∈ define scan addrs c := by
  cases c with
  | load opt file junk =>
    cases opt with
    | none => exact hi a
    | some allow =>
      cases file with
      | none => exact hi a
      | some lines =>
        have hpieces : lines.flatMap fgets = lines := by
          refine Eq.trans (List.flatMap_congr fun line hl => ?_) (List.flatMap_singleton' lines)
          exact fgets_of_le (hc lines rfl line hl).1
        simp only [exec, hpieces, List.mem_filterMap]
        refine exists_congr fun line => and_congr_right fun hl => ?_
        exact loadLine_eq (hc lines rfl line hl).2
  | add addr => simp [exec, define, hi]
  | del addr =>
    cases hp : parse scan addr with
    | none => simp [exec, define, hp, hi]
    | some b => simp [exec, define, hp, hi, mem_erase_of_count (hc b hp)]

end Steps

/-- The filter decides by the set of addresses its commands define. -/
theorem check_decides (scan : List UInt8 → Option (Fin 6 → Nat)) (s : State) (cs : List Cmd)
    (hg : Guarded (step scan) (Clean scan) (s, {a | a ∈ s.macs}) cs) :
    Throughout (step scan) Decides (s, {a | a ∈ s.macs}) cs := by
  have hstep : ∀ x c y, (∀ a, a ∈ x.1.macs ↔ a ∈ x.2) → Clean scan x c → step scan x c = some y →
      ∀ a, a ∈ y.1.macs ↔ a ∈ y.2 := by
    rintro x c y hi hc h
    obtain rfl := Option.some.inj h
    exact exec_mem hi hc
  refine (hg.throughout hstep fun _ => Iff.rfl).mono fun x hi a => ?_
  refine ⟨fun h => if_pos h, fun h => ⟨fun ha => ?_, fun ha => ?_⟩⟩
  · rw [check, if_neg h, if_pos ((hi a).2 ha)]
  · rw [check, if_neg h, if_neg (mt (hi a).1 ha)]

/-- `100:0:0:0:0:0`. -/
def badLine : List UInt8 := [49, 48, 48, 58, 48, 58, 48, 58, 48, 58, 48, 58, 48]

/-- `1:0:0:0:0:0`. -/
def goodLine : List UInt8 := [49, 58, 48, 58, 48, 58, 48, 58, 48, 58, 48]

theorem check_decides_deleted :
    (exec sscanf (exec sscanf ⟨1, []⟩ (.add goodLine)) (.del goodLine)).macs.length = 0 ∧
      Throughout (step sscanf) Decides (⟨1, []⟩, {a | a ∈ ([] : List Mac)})
        [.add goodLine, .del goodLine] := by
  refine ⟨by decide, check_decides _ _ _ ⟨trivial, ?_⟩⟩
  rintro x hx
  obtain rfl := Option.some.inj hx
  exact ⟨fun a _ => Nat.le_trans List.count_le_length (by decide), fun _ _ => trivial⟩

/-- No line is well formed, yet an address is denied. -/
theorem invalid_line_loaded :
    ∃ x, run (step sscanf) (⟨-1, []⟩, ∅) [.load (some false) (some [badLine]) fun _ => 7] = some x ∧
      ¬ Decides x := by
  have hpiece : fgets badLine = [badLine] := fgets_of_le (by decide)
  refine ⟨_, rfl, fun h => ?_⟩
  have hno := ((h fun i => if i = 0 then 7 else 0).2 (by decide)).2 (by simp [define]; decide)
  revert hno
  simp [exec, hpiece]
  decide

end Pppoe.MacFilter
