import MicroBng.Lib.Framing
import MicroBng.Lib.Machine

/-!
# Command lines over TCP

`cln_read` of `cli/tcp.c` cuts the lines off what it has read and moves what follows to the front. It
finds the next newline with `strchr`, but writes a terminating zero only after a read, not after a
move: a newline among the old bytes behind those that were moved is found as well.

* `lines_executed`: the lines that were sent are executed if there is none (`NoneLeft`)
-/

namespace Cli

open Machine Framing

/-! ## Strings in the buffer -/

def recvBufSize : Nat := 1024

def cstring (mem : List UInt8) : List UInt8 := mem.takeWhile (· ≠ 0)

def strchr (b : UInt8) (mem : List UInt8) : Option Nat :=
  if b ∈ cstring mem then some ((cstring mem).idxOf b) else none

def writeAt (mem : List UInt8) (pos : Nat) (data : List UInt8) : List UInt8 :=
  mem.take pos ++ data ++ mem.drop (pos + data.length)

/-- `memmove` of `n` bytes from an offset to the front. -/
def memmove (mem : List UInt8) (off n : Nat) : List UInt8 := (mem.drop off).take n ++ mem.drop n

/-! ## Commands -/

/-- `CLI_CMD_*`. -/
inductive CmdResult
  | ok | failed | syntaxError | inval | exit
  deriving DecidableEq

/-- The registered commands: what those that match a string return. -/
structure Commands where
  regexp : List UInt8 → Option CmdResult
  simple : List UInt8 → Option CmdResult

/-- `conf_cli_passwd` and the commands. -/
structure Conf where
  passwd : Option (List UInt8)
  commands : Commands

/-- Whether a write to the client fails while a command is executed. -/
structure Env where
  sendFails : Bool

def isBlank (b : UInt8) : Bool := b == 32 || b == 9

def isGraph (b : UInt8) : Bool := decide (33 ≤ b) && decide (b ≤ 126)

def skipSpace (s : List UInt8) : List UInt8 := s.dropWhile isBlank

/-- `split` on a string: a zero byte behind each of the first words. -/
def split : Nat → List UInt8 → List UInt8
  | 0, s => s
  | n + 1, s =>
    s.takeWhile isBlank ++ (skipSpace s).takeWhile isGraph ++
      match (skipSpace s).dropWhile isGraph with
      | [] => []
      | _ :: rest => 0 :: split n rest

def maxCmdItems : Nat := 100

def helpcmd : List UInt8 := [104, 101, 108, 112]

/-- The check of `cli_process_help_cmd`. -/
def isHelp (s : List UInt8) : Bool :=
  (skipSpace s).take 4 == helpcmd &&
    match ((skipSpace s).drop 4).head? with
    | none => true
    | some b => isBlank b

/-- The line in the buffer after a command, and whether the client is disconnected. -/
structure Processed where
  line : List UInt8
  disconnect : Bool

def cliProcessCmd (cf : Conf) (env : Env) (s : List UInt8) : Processed :=
  if isHelp s then
    -- the words behind `help` are split, the rest of the line is left
    let n := s.length - (skipSpace ((skipSpace s).drop 4)).length
    ⟨s.take n ++ split maxCmdItems (s.drop n), env.sendFails⟩
  else
    match cf.commands.regexp (skipSpace s) with
    | some .exit => ⟨s, true⟩
    | some .failed | some .syntaxError | some .inval => ⟨s, env.sendFails⟩
    | some .ok | none => ⟨split maxCmdItems s, cf.commands.simple s == some .exit || env.sendFails⟩

/-! ## `cln_read` -/

/-- What `cln_read` uses of `struct tcp_client_t`. -/
structure Client where
  cmdline : List UInt8
  recvPos : Nat
  auth : Bool

/-- `read` has returned bytes, and a zero is written behind them. -/
def clnReceive (c : Client) (data : List UInt8) : Client :=
  { c with
    cmdline := (writeAt c.cmdline c.recvPos data).set (c.recvPos + data.length) 0
    recvPos := c.recvPos + data.length }

/-- The line up to the newline at `d`: its command, if any, the client then, and whether it is
disconnected. -/
def clnLine (cf : Conf) (env : Env) (d : Nat) (c : Client) : List (List UInt8) × Client × Bool :=
  let mem := c.cmdline.set d 0
  if c.auth = false then
    if cf.passwd ≠ some (cstring mem) then ([], { c with cmdline := mem }, true)
    else ([], { c with cmdline := mem, auth := true }, false)
  else
    let p := cliProcessCmd cf env (cstring mem)
    ([cstring mem], { c with cmdline := p.line ++ mem.drop p.line.length }, p.disconnect)

/-- How the inner loop of `cln_read` ends: more is needed, a disconnect, or a negative length. -/
inductive Outcome
  | wait | close | crash
  deriving DecidableEq

/-- The inner loop of `cln_read`, for so many turns, and the commands it executes. -/
def clnLoop (cf : Conf) : Nat → (Nat → Env) → Client → List (List UInt8) × Client × Outcome
  | 0, _, c => ([], c, .wait)
  | k + 1, env, c =>
    if c.recvPos = 0 then ([], c, .wait)
    else
      match strchr 10 c.cmdline with
      | none => ([], c, if c.recvPos = recvBufSize - 1 then .close else .wait)
      | some d =>
        let (cmds, c', stop) := clnLine cf (env 0) d c
        if stop then (cmds, c', .close)
        else if c'.recvPos < d + 1 then (cmds, c', .crash)
        else
          let n := c'.recvPos - (d + 1)
          let r := clnLoop cf k (fun i => env (i + 1))
            { c' with recvPos := n, cmdline := memmove c'.cmdline (d + 1) n }
          (cmds ++ r.1, r.2)

/-! ## The machine -/

/-- A connection; `received` was read, `executed` given to `cli_process_cmd`. -/
structure State where
  client : Client
  status : Outcome
  received : List UInt8
  executed : List (List UInt8)

inductive Event
  /-- `read` returns bytes; `env` is by the number of the line. -/
  | read (data : List UInt8) (env : Nat → Env)
  /-- The peer has closed the connection, or the daemon does. -/
  | hangup

/-- A turn of the outer loop of `cln_read`. -/
def clnRead (cf : Conf) (s : State) (data : List UInt8) (env : Nat → Env) : State :=
  let c := clnReceive s.client data
  let r := clnLoop cf (c.recvPos + 1) env c
  ⟨r.2.1, r.2.2, s.received ++ data, s.executed ++ r.1⟩

def step (cf : Conf) (s : State) : Event → Option State
  | .read data env =>
    if s.status = .wait ∧ data ≠ [] ∧ data.length ≤ recvBufSize - 1 - s.client.recvPos then
      some (clnRead cf s data env)
    else none
  | .hangup => if s.status = .wait then some { s with status := .close } else none

def State.init (cf : Conf) (mem : List UInt8) : State := ⟨⟨mem, 0, cf.passwd.isNone⟩, .wait, [], []⟩

/-! ## Lines of a stream -/

def firstLine : List UInt8 → Option (List UInt8 × List UInt8)
  | [] => none
  | b :: bs => if b = 10 then some ([], bs) else (firstLine bs).map fun p => (b :: p.1, p.2)

variable {bs l ys s r old : List UInt8} {ls : List (List UInt8)} {b : UInt8} {cf : Conf}

theorem firstLine_eq_some {rest : List UInt8} :
    firstLine bs = some (l, rest) ↔ bs = l ++ 10 :: rest ∧ 10 ∉ l := by
  induction bs generalizing l with
  | nil => simp [firstLine]
  | cons b bs ih =>
    unfold firstLine
    split_ifs with hb
    · subst hb
      cases l with
      | nil => simp
      | cons a l => simp_all
    · rw [Option.map_eq_some_iff]
      cases l with
      | nil => simp_all
      | cons a l => grind

theorem firstLine_eq_none : firstLine bs = none ↔ 10 ∉ bs := by
  induction bs with
  | nil => simp [firstLine]
  | cons b bs ih =>
    unfold firstLine
    split_ifs with hb
    · simp [hb]
    · rw [Option.map_eq_none_iff]
      grind

def front (bs : List UInt8) : Front UInt8 (List UInt8) :=
  match firstLine bs with
  | none => .wait
  | some (l, rest) => .frame l rest

def lines (bs : List UInt8) : List (List UInt8) := (cut front bs).frames

def unfinished (bs : List UInt8) : List UInt8 := (cut front bs).rest

theorem front_eq_frame {rest : List UInt8} :
    front bs = .frame l rest ↔ bs = l ++ 10 :: rest ∧ 10 ∉ l := by
  rw [← firstLine_eq_some]
  grind [front]

theorem front_eq_wait : front bs = .wait ↔ 10 ∉ bs := by
  grind [firstLine_eq_none, front]

theorem front_ne_refuse (bs : List UInt8) : front bs ≠ .refuse := by
  grind [front]

theorem front_lawful : Lawful front where
  nil := rfl
  shorter := by
    intro bs l rest h
    obtain ⟨rfl, -⟩ := front_eq_frame.1 h
    rw [List.length_append, List.length_cons]
    omega
  frame_append := by
    intro bs l rest h ys
    obtain ⟨rfl, hl⟩ := front_eq_frame.1 h
    exact front_eq_frame.2 ⟨by rw [List.append_assoc, List.cons_append], hl⟩
  refuse_append := fun h => absurd h (front_ne_refuse _)

def text (ls : List (List UInt8)) (r : List UInt8) : List UInt8 := ls.flatMap (· ++ [10]) ++ r

@[simp] theorem text_nil (r : List UInt8) : text [] r = r := rfl

@[simp] theorem text_cons (l : List UInt8) (ls : List (List UInt8)) (r : List UInt8) :
    text (l :: ls) r = l ++ 10 :: text ls r := by
  simp [text]

theorem length_le_text (ls : List (List UInt8)) (r : List UInt8) :
    ls.length + r.length ≤ (text ls r).length := by
  induction ls with
  | nil => simp
  | cons l ls ih => grind [text_cons]

theorem text_lines (bs : List UInt8) : text (lines bs) (unfinished bs) = bs := by
  have henc : ∀ {xs l rest : List UInt8}, front xs = .frame l rest → xs = (l ++ [10]) ++ rest := by
    intro xs l rest h
    rw [List.append_assoc]
    exact (front_eq_frame.1 h).1
  exact ((consumed_cut front_lawful bs).input_eq henc).symm

theorem no_newline_of_consumed {xs : List UInt8}
    (h : Consumed front xs ls ys) : ∀ l ∈ ls, 10 ∉ l := by
  induction h with
  | none xs => exact fun l hl => nomatch hl
  | next hf _ ih =>
    rintro l (_ | ⟨_, hl⟩)
    · exact (front_eq_frame.1 hf).2
    · exact ih l hl

theorem no_newline_in_lines (bs : List UInt8) : ∀ l ∈ lines bs, 10 ∉ l :=
  no_newline_of_consumed (consumed_cut front_lawful bs)

theorem no_newline_unfinished (bs : List UInt8) : 10 ∉ unfinished bs := by
  -- by induction on the length: behind the last newline there is none
  generalize hn : bs.length = n
  induction n using Nat.strongRecOn generalizing bs with
  | ind n ih =>
    unfold unfinished
    cases hf : front bs with
    | wait => rw [cut_of_wait hf]; exact front_eq_wait.1 hf
    | refuse => exact absurd hf (front_ne_refuse bs)
    | frame l rest =>
      rw [cut_of_frame front_lawful hf]
      exact ih _ (hn ▸ front_lawful.shorter hf) rest rfl

theorem cut_append (xs ys : List UInt8) :
    lines (xs ++ ys) = lines xs ++ lines (unfinished xs ++ ys) ∧
      unfinished (xs ++ ys) = unfinished (unfinished xs ++ ys) := by
  have h := ((consumed_cut front_lawful xs).append front_lawful ys).cut_eq front_lawful
  unfold lines unfinished
  rw [h]
  exact ⟨rfl, rfl⟩

/-! ## Strings and newlines -/

theorem cstring_append (h : 0 ∉ s) (ys : List UInt8) : cstring (s ++ ys) = s ++ cstring ys :=
  List.takeWhile_append_of_pos fun _ hb => decide_eq_true fun he => h (he ▸ hb)

theorem cstring_zero (h : 0 ∉ s) (ys : List UInt8) : cstring (s ++ 0 :: ys) = s := by
  rw [cstring_append h]
  simp [cstring]

theorem strchr_line (h0 : 0 ∉ l) (h10 : 10 ∉ l) (ys : List UInt8) :
    strchr 10 (l ++ 10 :: ys) = some l.length := by
  have hs : cstring (l ++ 10 :: ys) = l ++ 10 :: cstring ys := by
    rw [cstring_append h0]
    simp [cstring]
  simp_all [strchr, List.idxOf_append_of_notMem]

def Quiet (old : List UInt8) : Prop := 10 ∉ cstring old

theorem strchr_unfinished (h0 : 0 ∉ r) (h10 : 10 ∉ r) (hq : Quiet old) :
    strchr 10 (r ++ old) = none := by
  unfold strchr
  rw [cstring_append h0, if_neg]
  exact fun hm => (List.mem_append.1 hm).elim h10 hq

theorem Quiet.of_zero (h : 10 ∉ s) (ys : List UInt8) : Quiet (s ++ 0 :: ys) := by
  unfold Quiet cstring
  induction s with
  | nil => simp
  | cons b s ih => simp_all [List.takeWhile_cons]

theorem Quiet.append (h0 : 0 ∉ s) (h10 : 10 ∉ s) (hq : Quiet old) : Quiet (s ++ old) := by
  simp_all [Quiet, cstring_append]

/-! ## What is left behind a move -/

/-- The last line that is not shorter than the unfinished one `r` is not shorter than all that
follows it either. -/
def Clean (r : List UInt8) : List (List UInt8) → Prop
  | [] => True
  | l :: ls =>
    if ∃ l' ∈ ls, r.length ≤ l'.length then Clean r ls
    else l.length < r.length ∨ (text ls r).length ≤ l.length

instance Clean.decidable (r : List UInt8) : ∀ ls, Decidable (Clean r ls)
  | [] => isTrue trivial
  | _ :: ls =>
    have := Clean.decidable r ls
    inferInstanceAs (Decidable (ite _ _ _))

/-- A line not shorter than the unfinished one is to come, or no old newline is found. -/
def Settled (r : List UInt8) (ls : List (List UInt8)) (old : List UInt8) : Prop :=
  ((∃ l ∈ ls, r.length ≤ l.length) ∧ Clean r ls) ∨ ((∀ l ∈ ls, l.length < r.length) ∧ Quiet old)

theorem Settled.quiet (h : Settled r [] old) : Quiet old := by
  rcases h with ⟨⟨l, hl, -⟩, -⟩ | ⟨-, hq⟩
  · exact nomatch hl
  · exact hq

theorem Clean.settled (h : Clean r ls) (hq : Quiet old) : Settled r ls old := by
  by_cases hl : ∃ l ∈ ls, r.length ≤ l.length
  · exact .inl ⟨hl, h⟩
  · exact .inr ⟨fun l hm => Nat.lt_of_not_le fun hle => hl ⟨l, hm, hle⟩, hq⟩

theorem drop_text (ls : List (List UInt8)) {n : Nat} (h : n ≤ r.length) :
    (text ls r).drop ((text ls r).length - n) = r.drop (r.length - n) := by
  unfold text
  rw [List.length_append, List.drop_append, List.drop_eq_nil_of_le (by omega), List.nil_append]
  congr 1
  omega

theorem Settled.next {l' : List UInt8} (h0 : 0 ∉ r) (h10 : 10 ∉ r)
    (hlen : l'.length = l.length) (hl' : 10 ∉ l') (h : Settled r (l :: ls) old) :
    Settled r ls ((l' ++ 0 :: (text ls r ++ old)).drop (text ls r).length) := by
  by_cases hlong : ∃ x ∈ ls, r.length ≤ x.length
  · refine .inl ⟨hlong, ?_⟩
    rcases h with ⟨-, hc⟩ | ⟨hshort, -⟩
    · rwa [Clean, if_pos hlong] at hc
    grind
  · refine .inr ⟨fun x hx => Nat.lt_of_not_le fun hle => hlong ⟨x, hx, hle⟩, ?_⟩
    have hle := length_le_text ls r
    -- either what follows fits into the line, and its zero stays, or the line is shorter than `r`
    have hcases : (text ls r).length ≤ l.length ∨ l.length < r.length ∧ Quiet old := by
      rcases h with ⟨⟨x, hx, hxr⟩, hc⟩ | ⟨hshort, hq⟩
      · grind [Clean]
      · exact .inr ⟨hshort l List.mem_cons_self, hq⟩
    rcases hcases with hfit | ⟨hlt, hq⟩
    · rw [List.drop_append_of_le_length (by omega)]
      exact .of_zero (fun hm => hl' (List.mem_of_mem_drop hm)) _
    · have hsuffix : (l' ++ 0 :: (text ls r ++ old)).drop (text ls r).length =
          r.drop (r.length - (l.length + 1)) ++ old := by
        rw [← drop_text ls (by omega), List.drop_append,
          List.drop_eq_nil_of_le (by omega), List.nil_append,
          show (text ls r).length - l'.length = ((text ls r).length - (l.length + 1)) + 1 by omega,
          List.drop_succ_cons, List.drop_append_of_le_length (by omega)]
      rw [hsuffix]
      exact .append (fun hm => h0 (List.mem_of_mem_drop hm)) (fun hm => h10 (List.mem_of_mem_drop hm))
        hq

/-! ## What a command does to its line -/

theorem length_split (n : Nat) (s : List UInt8) : (split n s).length = s.length := by
  induction n generalizing s with
  | zero => rfl
  | succ n ih =>
    have hs := congrArg List.length (List.takeWhile_append_dropWhile (p := isBlank) (l := s))
    have hw := congrArg List.length
      (List.takeWhile_append_dropWhile (p := isGraph) (l := skipSpace s))
    rw [split]
    grind [skipSpace]

theorem mem_split {n : Nat} (h : b ∈ split n s) : b ∈ s ∨ b = 0 := by
  induction n generalizing s with
  | zero => exact .inl h
  | succ n ih =>
    have hskip : ∀ x ∈ skipSpace s, x ∈ s := fun x hx => (List.dropWhile_suffix _).mem hx
    rw [split, List.mem_append, List.mem_append] at h
    rcases h with (h | h) | h
    · exact .inl ((List.takeWhile_prefix _).mem h)
    · exact .inl (hskip b ((List.takeWhile_prefix _).mem h))
    grind [List.dropWhile_suffix]

/-- A command overwrites bytes of its line with zeros. -/
structure Wiped (s s' : List UInt8) : Prop where
  length : s'.length = s.length
  mem : ∀ b ∈ s', b ∈ s ∨ b = 0

theorem cliProcessCmd_wiped (cf : Conf) (env : Env) (s : List UInt8) :
    Wiped s (cliProcessCmd cf env s).line := by
  have hself : Wiped s s := ⟨rfl, fun _ hb => .inl hb⟩
  unfold cliProcessCmd
  split_ifs with hh
  · refine ⟨?_, ?_⟩
    · simp [length_split]
    grind [mem_split, List.mem_of_mem_drop]
  · split
    · exact hself
    · exact hself
    · exact hself
    · exact hself
    · exact ⟨length_split _ _, fun _ hb => mem_split hb⟩
    · exact ⟨length_split _ _, fun _ hb => mem_split hb⟩

/-! ## What the inner loop does -/

/-- The commands among these lines, for an authenticated client or not. -/
def commandsOf (cf : Conf) (auth : Bool) (ls : List (List UInt8)) : List (List UInt8) :=
  if auth then ls
  else
    match ls with
    | [] => []
    | l :: ls => if cf.passwd = some l then ls else []

def Admitted (cf : Conf) (auth : Bool) (ls : List (List UInt8)) : Prop :=
  auth = true ∨ ∀ l ∈ ls.head?, cf.passwd = some l

theorem commandsOf_append {auth : Bool}
    (h : Admitted cf auth ls) (ms : List (List UInt8)) :
    commandsOf cf auth (ls ++ ms) =
      commandsOf cf auth ls ++ commandsOf cf (auth || !ls.isEmpty) ms := by
  cases auth with
  | true => rfl
  | false =>
    cases ls with
    | nil => rfl
    | cons l ls =>
      have hpw : cf.passwd = some l := h.resolve_left (by decide) l rfl
      simp [commandsOf, hpw]

theorem Admitted.append {auth : Bool} {ms : List (List UInt8)}
    (h : Admitted cf auth ls) (hm : Admitted cf (auth || !ls.isEmpty) ms) :
    Admitted cf auth (ls ++ ms) := by
  cases auth with
  | true => exact .inl rfl
  | false =>
    cases ls with
    | nil => exact hm
    | cons l ls => exact .inr (h.resolve_left (by decide))

/-- The loop has ended on these lines and the unfinished one, in a buffer of this size. -/
def Ended (cf : Conf) (auth : Bool) (ls : List (List UInt8)) (r : List UInt8) (size : Nat) :
    List (List UInt8) × Client × Outcome → Prop
  | (cmds, c, .wait) => cmds = commandsOf cf auth ls ∧ Admitted cf auth ls ∧
      c.auth = (auth || !ls.isEmpty) ∧ c.recvPos = r.length ∧
      ∃ old, c.cmdline = r ++ old ∧ r.length + old.length = size
  | (cmds, _, .close) => cmds <+: commandsOf cf auth ls
  | (_, _, .crash) => False

theorem clnLine_cases (cf : Conf) (env : Env) {c : Client} (h0 : 0 ∉ l)
    (hc : c.cmdline = l ++ 10 :: ys) :
    ∃ cmds c' stop, clnLine cf env l.length c = (cmds, c', stop) ∧ c'.recvPos = c.recvPos ∧
      (∃ l', Wiped l l' ∧ c'.cmdline = l' ++ 0 :: ys) ∧
      cmds = (if c.auth then [l] else []) ∧
      (stop = false → Admitted cf c.auth [l] ∧ c'.auth = true) := by
  have hset : c.cmdline.set l.length 0 = l ++ 0 :: ys := by simp_all
  have hself : Wiped l l := ⟨rfl, fun _ hb => .inl hb⟩
  unfold clnLine
  rw [hset]
  dsimp only
  rw [cstring_zero h0]
  cases ha : c.auth with
  | false =>
    by_cases hpw : cf.passwd = some l
    · rw [if_neg (not_not.2 hpw)]
      refine ⟨[], _, false, rfl, rfl, ⟨l, hself, rfl⟩, rfl, fun _ => ⟨.inr ?_, rfl⟩⟩
      intro x hx
      cases hx
      exact hpw
    simp_all
  | true =>
    have hw := cliProcessCmd_wiped cf env l
    refine ⟨[l], _, _, rfl, rfl, ⟨_, hw, ?_⟩, rfl, fun _ => ⟨.inl rfl, rfl⟩⟩
    grind [hw.length]

theorem memmove_line {l' : List UInt8} :
    memmove (l' ++ 0 :: (ys ++ old)) (l'.length + 1) ys.length =
      ys ++ (l' ++ 0 :: (ys ++ old)).drop ys.length := by
  simp [memmove]

theorem clnLoop_ended (cf : Conf)
    (hls : ∀ l ∈ ls, 0 ∉ l ∧ 10 ∉ l) (h0 : 0 ∉ r) (h10 : 10 ∉ r)
    (k : Nat) (hk : ls.length < k) (env : Nat → Env) (c : Client)
    (old : List UInt8) (hc : c.cmdline = text ls r ++ old) (hpos : c.recvPos = (text ls r).length)
    (hs : Settled r ls old) :
    Ended cf c.auth ls r ((text ls r).length + old.length) (clnLoop cf k env c) := by
  induction ls generalizing k env c old with
  | nil =>
    cases k with
    | zero => omega
    | succ k =>
      have hwait : Ended cf c.auth [] r (r.length + old.length) ([], c, .wait) := by
        refine ⟨?_, ?_, ?_, hpos, old, hc, rfl⟩
        · unfold commandsOf
          split_ifs <;> rfl
        · exact .inr fun l hl => nomatch hl
        · simp
      by_cases hz : c.recvPos = 0
      · rw [clnLoop, if_pos hz]
        exact hwait
      · have hnone : strchr 10 c.cmdline = none := by
          rw [hc]
          exact strchr_unfinished h0 h10 hs.quiet
        simp only [clnLoop, if_neg hz, hnone]
        by_cases hfull : c.recvPos = recvBufSize - 1
        · rw [if_pos hfull]
          exact List.nil_prefix
        · rw [if_neg hfull]
          exact hwait
  | cons l ls ih =>
    cases k with
    | zero => omega
    | succ k =>
      obtain ⟨hl0, hl10⟩ := hls l List.mem_cons_self
      have hcl : c.cmdline = l ++ 10 :: (text ls r ++ old) := by
        rw [hc, text_cons, List.append_assoc, List.cons_append]
      have hlen : (text (l :: ls) r).length = l.length + ((text ls r).length + 1) := by
        rw [text_cons, List.length_append, List.length_cons]
      obtain ⟨cmds, c', stop, hline, hpos', ⟨l', hw, hcmd⟩, hcmds, hgo⟩ :=
        clnLine_cases cf (env 0) hl0 hcl
      rw [clnLoop, if_neg (by omega), hcl, strchr_line hl0 hl10]
      simp only [hline]
      cases stop with
      | true =>
        rw [hcmds]
        cases c.auth with
        | true => exact ⟨ls, rfl⟩
        | false => exact List.nil_prefix
      | false =>
        obtain ⟨hadm, hauth⟩ := hgo rfl
        have hn : c'.recvPos - (l.length + 1) = (text ls r).length := by omega
        rw [if_neg (by decide), if_neg (by omega), hn, hcmd, ← hw.length, memmove_line]
        have hl' : 10 ∉ l' := fun hm => (hw.mem 10 hm).elim hl10 (by decide)
        have hrec := ih (fun x hx => hls x (List.mem_cons_of_mem l hx)) k
          (by rw [List.length_cons] at hk; omega) (fun i => env (i + 1))
          { c' with
            recvPos := (text ls r).length
            cmdline := text ls r ++ (l' ++ 0 :: (text ls r ++ old)).drop (text ls r).length }
          _ rfl rfl (hs.next h0 h10 hw.length hl')
        generalize clnLoop cf k (fun i => env (i + 1)) _ = res at hrec ⊢
        have hcat : commandsOf cf c.auth (l :: ls) = cmds ++ commandsOf cf true ls := by
          have happ := commandsOf_append hadm ls
          simp_all [commandsOf]
        obtain ⟨cmds', c'', out⟩ := res
        rw [hauth] at hrec
        cases out with
        | wait =>
          obtain ⟨h1, -, h3, h4, old', h5, h6⟩ := hrec
          refine ⟨?_, ?_, ?_, h4, old', h5, ?_⟩
          · rw [h1, hcat]
          · exact hadm.imp id fun h x hx => h x hx
          · rw [h3]
            simp
          grind [hw.length]
        | close =>
          show cmds ++ cmds' <+: commandsOf cf c.auth (l :: ls)
          rw [hcat]
          exact (List.prefix_append_right_inj cmds).2 hrec
        | crash => exact hrec

/-! ## What a run does -/

theorem mem_of_mem_lines (hl : l ∈ lines bs) (hb : b ∈ l) : b ∈ bs := by
  rw [← text_lines bs]
  refine List.mem_append_left _ (List.mem_flatMap.2 ⟨l, hl, ?_⟩)
  exact List.mem_append_left _ hb

theorem mem_of_mem_unfinished (hb : b ∈ unfinished bs) : b ∈ bs := by
  rw [← text_lines bs]
  exact List.mem_append_right _ hb

/-- The commands of a stream: all lines, or those behind the password. -/
def commands (cf : Conf) (bs : List UInt8) : List (List UInt8) :=
  commandsOf cf cf.passwd.isNone (lines bs)

def Good (cf : Conf) (s : State) : Prop :=
  match s.status with
  | .wait => s.executed = commands cf s.received ∧
      Admitted cf cf.passwd.isNone (lines s.received) ∧
      s.client.auth = (cf.passwd.isNone || !(lines s.received).isEmpty) ∧
      s.client.recvPos = (unfinished s.received).length ∧
      ∃ old, s.client.cmdline = unfinished s.received ++ old ∧
        (unfinished s.received).length + old.length = recvBufSize
  | .close => s.executed <+: commands cf s.received
  | .crash => False

/-- **What the moves leave behind**: a read with several lines leaves no old newline behind the
unfinished one. -/
def NoneLeft (s : State) : Event → Prop
  | .read data _ =>
    Clean (unfinished (s.client.cmdline.take s.client.recvPos ++ data))
      (lines (s.client.cmdline.take s.client.recvPos ++ data))
  | .hangup => True

instance (s : State) (e : Event) : Decidable (NoneLeft s e) := by
  unfold NoneLeft
  split <;> infer_instance

theorem cmdline_clnReceive {c : Client} {v : List UInt8} (data : List UInt8)
    (hc : c.cmdline = v ++ old) (hpos : c.recvPos = v.length) (hroom : data.length < old.length) :
    ∃ old', (clnReceive c data).cmdline = (v ++ data) ++ 0 :: old' ∧
      old'.length + 1 = old.length - data.length := by
  have hdrop : 0 < (old.drop data.length).length := by
    rw [List.length_drop]
    omega
  obtain ⟨b, old', hold⟩ := List.exists_cons_of_length_pos hdrop
  refine ⟨old', ?_, ?_⟩
  · simp_all [clnReceive, writeAt]
  grind

theorem good_read {s : State} {data : List UInt8} {env : Nat → Env}
    (hs : Good cf s) (hw : s.status = .wait) (hdata : data ≠ [])
    (hroom : data.length ≤ recvBufSize - 1 - s.client.recvPos)
    (hzero : 0 ∉ s.received ++ data) (hk : NoneLeft s (.read data env)) :
    Good cf (clnRead cf s data env) := by
  simp only [Good, hw] at hs
  obtain ⟨hexec, hadm, hauth, hpos, old, hcmd, hsize⟩ := hs
  obtain ⟨hl, hu⟩ := cut_append s.received data
  have hsome := List.length_pos_of_ne_nil hdata
  obtain ⟨old', hrecv, hold'⟩ := cmdline_clnReceive data hcmd hpos (by omega)
  -- the lines to handle are those of the unfinished line with what was read behind it
  have hk' : Clean (unfinished (unfinished s.received ++ data))
      (lines (unfinished s.received ++ data)) := by
    simp_all [NoneLeft]
  have htext := text_lines (unfinished s.received ++ data)
  generalize hls : lines (unfinished s.received ++ data) = ls at *
  generalize hr : unfinished (unfinished s.received ++ data) = r at *
  have hmem : ∀ l ∈ ls, 0 ∉ l ∧ 10 ∉ l := by grind [mem_of_mem_lines, no_newline_in_lines]
  have h0 : 0 ∉ r := fun h => hzero (mem_of_mem_unfinished (hu ▸ h))
  have h10 : 10 ∉ r := hr ▸ no_newline_unfinished _
  have hpos' : (clnReceive s.client data).recvPos = (text ls r).length := by
    rw [htext, List.length_append, ← hpos]
    rfl
  have hcount := length_le_text ls r
  have hend := clnLoop_ended cf hmem h0 h10 ((clnReceive s.client data).recvPos + 1)
    (by omega) env (clnReceive s.client data) (0 :: old') (by rw [htext]; exact hrecv) hpos'
    (hk'.settled (.of_zero (s := []) (by decide) old'))
  have hsame : (clnReceive s.client data).auth = s.client.auth := rfl
  rw [hsame, hauth] at hend
  generalize hres : clnLoop cf ((clnReceive s.client data).recvPos + 1) env
    (clnReceive s.client data) = res at hend
  have hread : clnRead cf s data env =
      ⟨res.2.1, res.2.2, s.received ++ data, commands cf s.received ++ res.1⟩ := by
    rw [← hres, ← hexec]
    rfl
  have hcmds : commands cf (s.received ++ data) = commands cf s.received ++
      commandsOf cf (cf.passwd.isNone || !(lines s.received).isEmpty) ls := by
    rw [commands, hl, commandsOf_append hadm]
    rfl
  rw [hread]
  obtain ⟨cmds, c, out⟩ := res
  cases out with
  | wait =>
    obtain ⟨h1, h2, h3, h4, old'', h5, h6⟩ := hend
    simp only [Good, hcmds, hl, hu]
    refine ⟨by rw [h1], hadm.append h2, ?_, h4, old'', h5, ?_⟩
    · rw [h3]
      cases lines s.received <;> simp
    · rw [h6, htext, List.length_append, List.length_cons]
      omega
  | close =>
    simp only [Good, hcmds]
    exact (List.prefix_append_right_inj _).2 hend
  | crash => exact hend

theorem good_step {s s' : State} {e : Event} (hs : 0 ∉ s.received → Good cf s)
    (hk : NoneLeft s e) (h : step cf s e = some s') (hzero : 0 ∉ s'.received) : Good cf s' := by
  cases e with
  | read data env =>
    obtain ⟨⟨hw, hdata, hroom⟩, rfl⟩ := of_enabled_if h
    have hold : 0 ∉ s.received := fun hm => hzero (List.mem_append_left data hm)
    exact good_read (hs hold) hw hdata hroom hzero hk
  | hangup =>
    obtain ⟨hw, rfl⟩ := of_enabled_if h
    simp_all [Good]

/-! ## The results -/

/-- What `lines_executed` says of a client. -/
structure Obeys (cf : Conf) (t : State) : Prop where
  /-- Nothing is moved with a negative length. -/
  sound : t.status ≠ .crash
  /-- Executed are the first commands of the stream, none without the password asked for. -/
  inOrder : t.executed <+: commands cf t.received
  /-- Nothing is left out until the client is disconnected. -/
  all : t.status = .wait → t.executed = commands cf t.received

/-- **Command lines**: for every run on a stream without zero bytes, if no read leaves an old
newline behind. -/
theorem lines_executed (cf : Conf) (mem : List UInt8) (hmem : mem.length = recvBufSize)
    (es : List Event) (t : State) (hr : run (step cf) (State.init cf mem) es = some t)
    (hg : Guarded (step cf) NoneLeft (State.init cf mem) es) (hzero : 0 ∉ t.received) :
    Obeys cf t := by
  have hgood : Good cf t := by
    refine hg.invariant (I := fun s => 0 ∉ s.received → Good cf s) ?_ ?_ hr hzero
    · exact fun s e s' hs hc h => good_step hs hc h
    · intro _
      have hadm : Admitted cf cf.passwd.isNone [] := .inr fun l hl => nomatch hl
      refine ⟨?_, hadm, (Bool.or_false _).symm, rfl, mem, rfl, ?_⟩
      · show [] = commandsOf cf cf.passwd.isNone []
        unfold commandsOf
        split_ifs <;> rfl
      · rw [hmem]
        exact Nat.zero_add _
  unfold Good at hgood
  refine ⟨?_, ?_, ?_⟩
  · intro hst
    rw [hst] at hgood
    exact hgood
  · grind
  · intro hst
    rw [hst] at hgood
    exact hgood.1

/-- The password is `aaaaa`, and no command is known. -/
def sampleConf : Conf := ⟨some [97, 97, 97, 97, 97], ⟨fun _ => none, fun _ => none⟩⟩

def sampleEnv : Nat → Env := fun _ => ⟨false⟩

def sampleMem : List UInt8 := List.replicate recvBufSize 0

/-- The password, a command and a half, and the rest of the second command. -/
def splitRun : List Event :=
  [.read [97, 97, 97, 97, 97, 10, 98, 32, 98, 10, 99] sampleEnv, .read [99, 10] sampleEnv]

theorem lines_executed_split :
    ∃ t, run (step sampleConf) (State.init sampleConf sampleMem) splitRun = some t ∧
      t.executed = [[98, 32, 98], [99, 99]] ∧ Obeys sampleConf t := by
  obtain ⟨t, hr, hf, he⟩ : ∃ t, run (step sampleConf) (State.init sampleConf sampleMem) splitRun =
      some t ∧ 0 ∉ t.received ∧ t.executed = [[98, 32, 98], [99, 99]] := by decide +kernel
  exact ⟨t, hr, he, lines_executed sampleConf sampleMem (by decide +kernel) splitRun t hr
    (by decide +kernel) hf⟩

/-- Password, command and five bytes of a line in one read: a line never sent is executed, and the
next length is negative. -/
theorem old_newline :
    ∃ t, run (step sampleConf) (State.init sampleConf sampleMem)
        [.read [97, 97, 97, 97, 97, 10, 98, 10, 99, 99, 99, 99, 99] sampleEnv] = some t ∧
      commands sampleConf t.received = [[98]] ∧
      t.executed = [[98], [99, 99, 99, 99, 99, 99, 99]] ∧ t.status = .crash := by
  decide +kernel

end Cli
