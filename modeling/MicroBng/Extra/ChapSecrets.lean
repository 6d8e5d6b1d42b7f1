import MicroBng.Lib.Runs

/-!
# The file of secrets

`extra/chap-secrets.c` looks a user up in a file of lines of words. `split` cuts a line; its words
are plain or quoted, and a backslash escapes inside quotes. A session keeps the entry of the first
user it has found, and later calls for another user get that one.

A newline is a word of its own for `split` unless it comes directly after a plain word: behind
blanks or a closing quote it makes an empty word more.

* `split_iff` : when `split` returns the fields of a line.
* `outcomes_own` : calls whose users have the same entry, or none, get their own entry; for
  `get_passwd` no others do.
-/

namespace ChapSecrets

open Runs

/-! ## Words of a line -/

def isBlank (c : UInt8) : Bool := c == 32 || c == 9

def isQuote (c : UInt8) : Bool := c == 34 || c == 39

/-- Neither blank nor newline. -/
def inWord (c : UInt8) : Bool := !isBlank c && c != 10

/-- `skip_word` behind a quote. The closing quote becomes a blank. -/
def skipQuoted (quote : UInt8) : List UInt8 → List UInt8 × List UInt8
  | [] => ([], [])
  | [c] => if c = 10 then ([], [c]) else if c = quote then ([], [32]) else ([c], [])
  | c :: d :: cs =>
    if c = 10 then ([], c :: d :: cs)
    else if c = 92 ∧ d ≠ 10 then (skipQuoted quote cs).map (d :: ·) id
    else if c = quote then ([], 32 :: d :: cs)
    else (skipQuoted quote (d :: cs)).map (c :: ·) id

/-- `skip_word`: the word, and the line from where it has stopped. -/
def skipWord (s : List UInt8) : List UInt8 × List UInt8 :=
  match s with
  | [] => ([], [])
  | c :: cs => if isQuote c then skipQuoted c cs else (s.takeWhile inWord, s.dropWhile inWord)

/-- The loop of `split`, with the number of turns left. -/
def words : Nat → List UInt8 → List (List UInt8)
  | 0, s => [(skipWord s).1]
  | n + 1, s =>
    let r := skipWord s
    match r.2.tail.dropWhile isBlank with
    | [] => [r.1]
    | s => r.1 :: words n s

/-- `split`: what it returns, `buf` and the words of `ptr`. -/
def split (buf : List UInt8) : Nat × List (List UInt8) := ((words 4 buf).length - 1, words 4 buf)

/-! ## Lines as they are written -/

inductive Piece
  | raw (c : UInt8)
  | escaped (c : UInt8)

def Piece.text : Piece → List UInt8
  | .raw c => [c]
  | .escaped c => [92, c]

def Piece.value : Piece → UInt8
  | .raw c | .escaped c => c

def Piece.Ok (quote : UInt8) : Piece → Prop
  | .raw c => c ≠ 10 ∧ c ≠ 92 ∧ c ≠ quote
  | .escaped c => c ≠ 10

inductive Field
  | plain (c : UInt8) (cs : List UInt8)
  | quoted (quote : UInt8) (ps : List Piece)

def Field.text : Field → List UInt8
  | .plain c cs => c :: cs
  | .quoted quote ps => quote :: ps.flatMap Piece.text ++ [quote]

def Field.value : Field → List UInt8
  | .plain c cs => c :: cs
  | .quoted _ ps => ps.map Piece.value

def Field.Ok : Field → Prop
  | .plain c cs => isQuote c = false ∧ All inWord (c :: cs)
  | .quoted quote ps => isQuote quote = true ∧ ∀ p ∈ ps, p.Ok quote

/-- Where `split` goes on behind a field: it skips the character the word has stopped at. -/
def Field.behind (tail : List UInt8) : Field → List UInt8
  | .plain .. => tail.tail
  | .quoted .. => tail

/-- What may follow the last field: blanks, in front of which a plain one may have a newline. -/
def Field.Closes (f : Field) (tail : List UInt8) : Prop := All isBlank (f.behind tail)

/-- The fields after the first, each with the blanks in front of it. -/
abbrev Rest := List (List UInt8 × Field)

def Rest.Ok (r : Rest) : Prop := ∀ x ∈ r, x.1 ≠ [] ∧ All isBlank x.1 ∧ x.2.Ok

def Rest.text (r : Rest) : List UInt8 := r.flatMap fun x => x.1 ++ x.2.text

variable {f : Field} {tail : List UInt8}

theorem skipQuoted_text {quote : UInt8} {ps : List Piece} (hq : isQuote quote = true)
    (h : ∀ p ∈ ps, p.Ok quote) (rest : List UInt8) :
    skipQuoted quote (ps.flatMap Piece.text ++ quote :: rest) = (ps.map Piece.value, 32 :: rest) := by
  have hne : quote ≠ 10 ∧ quote ≠ 92 := by
    constructor <;> rintro rfl <;> simp [isQuote] at hq
  induction ps with
  | nil => cases rest <;> simp [skipQuoted, hne]
  | cons p ps ih =>
    have hp := h p List.mem_cons_self
    have ih := ih fun q hm => h q (List.mem_cons_of_mem p hm)
    obtain ⟨d, ds, hd⟩ : ∃ d ds, ps.flatMap Piece.text ++ quote :: rest = d :: ds :=
      List.exists_cons_of_ne_nil (by simp)
    rw [List.flatMap_cons, List.append_assoc]
    cases p with
    | raw c =>
      obtain ⟨h10, h92, hc⟩ := hp
      rw [hd] at ih ⊢
      simp [Piece.text, Piece.value, skipQuoted, h10, h92, hc, ih]
    | escaped c =>
      have hc : c ≠ 10 := hp
      simp [Piece.text, Piece.value, skipQuoted, hc, ih]

theorem skipWord_text (hf : f.Ok) (ht : Stops inWord tail) :
    (skipWord (f.text ++ tail)).1 = f.value ∧ (skipWord (f.text ++ tail)).2.tail = f.behind tail := by
  cases f with
  | plain c cs =>
    have hword : skipWord (c :: cs ++ tail) = (c :: cs, tail) := by
      rw [List.cons_append, skipWord, hf.1, ← List.cons_append, takeWhile_run hf.2 ht,
        dropWhile_run hf.2 ht]
      rfl
    rw [Field.text, hword]
    exact ⟨rfl, rfl⟩
  | quoted quote ps =>
    have hword : skipWord (quote :: ps.flatMap Piece.text ++ [quote] ++ tail) =
        (ps.map Piece.value, 32 :: tail) := by
      simp [skipWord, hf.1, skipQuoted_text hf.1 hf.2]
    rw [Field.text, hword]
    exact ⟨rfl, rfl⟩

theorem Field.Ok.stops (hf : f.Ok) (rest : List UInt8) : Stops isBlank (f.text ++ rest) := by
  cases f with
  | plain c cs =>
    have hc := hf.2 c List.mem_cons_self
    simp_all [Field.text, inWord]
  | quoted quote ps =>
    have hq := hf.1
    simp only [isQuote, Bool.or_eq_true, beq_iff_eq] at hq
    rcases hq with rfl | rfl <;> simp [Field.text, isBlank]

theorem words_ne_nil (n : Nat) (s : List UInt8) : words n s ≠ [] := by
  cases n with
  | zero => simp [words]
  | succ n =>
    rw [words]
    split <;> simp

/-- The last field, with turns left. -/
theorem words_last {n : Nat} (hf : f.Ok) (htail : ∀ c ∈ tail, inWord c = false) :
    words (n + 1) (f.text ++ tail) = [f.value] ↔ f.Closes tail := by
  obtain ⟨hword, hrest⟩ := skipWord_text hf fun c hc => htail c (List.mem_of_mem_head? hc)
  rw [words]
  simp only [hword, hrest]
  have hnil := List.dropWhile_eq_nil_iff (p := isBlank) (l := f.behind tail)
  split
  case h_1 h => exact iff_of_true rfl (hnil.1 h)
  case h_2 h =>
    refine iff_of_false (fun he => words_ne_nil n _ (List.cons.inj he).2) fun hclose => ?_
    exact h (hnil.2 hclose)

/-- A field and the blanks behind it. -/
theorem words_step {g : Field} {sep : List UInt8} {r : Rest} {n : Nat} (hf : f.Ok)
    (hr : Rest.Ok ((sep, g) :: r)) :
    words (n + 1) (f.text ++ (Rest.text ((sep, g) :: r) ++ tail)) =
      f.value :: words n (g.text ++ (r.text ++ tail)) := by
  obtain ⟨hne, hblank, hg⟩ := hr (sep, g) List.mem_cons_self
  have htext : Rest.text ((sep, g) :: r) ++ tail = sep ++ (g.text ++ (Rest.text r ++ tail)) := by
    simp [Rest.text]
  have hstop : Stops inWord (sep ++ (g.text ++ (Rest.text r ++ tail))) :=
    stops_of_all (fun c hc => by simp [inWord, hc]) hne hblank
  obtain ⟨hword, hrest⟩ := skipWord_text hf hstop
  have hskip : (f.behind (sep ++ (g.text ++ (Rest.text r ++ tail)))).dropWhile isBlank =
      g.text ++ (Rest.text r ++ tail) := by
    cases f with
    | plain =>
      obtain ⟨b, bs, rfl⟩ := List.exists_cons_of_ne_nil hne
      exact dropWhile_run (fun c hc => hblank c (List.mem_cons_of_mem b hc)) (hg.stops _)
    | quoted => exact dropWhile_run hblank (hg.stops _)
  obtain ⟨b, bs, hcons⟩ : ∃ b bs, g.text ++ (Rest.text r ++ tail) = b :: bs :=
    List.exists_cons_of_ne_nil (by cases g <;> simp [Field.text])
  rw [htext, words]
  simp only [hword, hrest, hskip]
  rw [hcons]

theorem words_zero {r : Rest} (hf : f.Ok) (hr : r.Ok) (htail : ∀ c ∈ tail, inWord c = false) :
    words 0 (f.text ++ (r.text ++ tail)) = [f.value] := by
  have hstop : Stops inWord (r.text ++ tail) := by
    cases r with
    | nil => exact fun c hc => htail c (List.mem_of_mem_head? hc)
    | cons x r =>
      obtain ⟨hne, hblank, -⟩ := hr x List.mem_cons_self
      rw [Rest.text, List.flatMap_cons, List.append_assoc, List.append_assoc]
      exact stops_of_all (fun c hc => by simp [inWord, hc]) hne hblank
  rw [words, (skipWord_text hf hstop).1]

/-- The words are the fields, if the turns suffice and nothing follows the last one. -/
theorem words_iff {r : Rest} {n : Nat} (hf : f.Ok) (hr : r.Ok)
    (htail : ∀ c ∈ tail, inWord c = false) :
    words n (f.text ++ (r.text ++ tail)) = f.value :: r.map (·.2.value) ↔
      r.length ≤ n ∧ (r.length = n ∨ ((r.map Prod.snd).getLastD f).Closes tail) := by
  induction r generalizing f n with
  | nil =>
    cases n with
    | zero => simp [words_zero hf hr htail]
    | succ n => simpa [Rest.text] using words_last hf htail
  | cons x r ih =>
    cases n with
    | zero => simp [words_zero hf hr htail]
    | succ n =>
      have hg := (hr x List.mem_cons_self).2.2
      rw [words_step hf hr, List.map_cons, List.cons.injEq, ih hg fun y hy => hr y (.tail _ hy)]
      simp only [true_and, List.length_cons, List.map_cons, List.getLastD_cons,
        Nat.add_le_add_iff_right, Nat.add_right_cancel_iff]

/-- The words behind an empty first one are the fields but the first, if all are empty and the
turns end before the last. -/
theorem words_shifted_iff {r : Rest} {n : Nat} (hf : f.Ok) (hr : r.Ok)
    (htail : ∀ c ∈ tail, inWord c = false) (hempty : f.value = []) :
    words n (f.text ++ (r.text ++ tail)) = r.map (·.2.value) ↔
      r.length = n + 1 ∧ ∀ x ∈ r, x.2.value = [] := by
  induction r generalizing f n with
  | nil => simp [words_ne_nil]
  | cons x r ih =>
    have hg := (hr x List.mem_cons_self).2.2
    cases n with
    | zero =>
      rw [words_zero hf hr htail, hempty]
      cases r with
      | nil => simp [eq_comm (a := ([] : List UInt8))]
      | cons y r => simp
    | succ n =>
      rw [words_step hf hr, hempty, List.map_cons, List.cons.injEq]
      by_cases hx : x.2.value = []
      · rw [ih hg (fun y hy => hr y (.tail _ hy)) hx]
        simp [hx]
      · simp [hx, Ne.symm hx]

/-- **When `split` returns the fields of a line**: exactly if there are at most five and the line
begins with the first and ends with the last of them, or they are five empty ones behind blanks. -/
theorem split_iff (lead : List UInt8) (f : Field) (r : Rest) (tail : List UInt8)
    (hlead : All isBlank lead) (hf : f.Ok) (hr : r.Ok) (htail : ∀ c ∈ tail, inWord c = false) :
    split (lead ++ (f.text ++ (r.text ++ tail))) = (r.length, f.value :: r.map (·.2.value)) ↔
      lead = [] ∧ r.length ≤ 4 ∧ (r.length = 4 ∨ ((r.map Prod.snd).getLastD f).Closes tail) ∨
        lead ≠ [] ∧ r.length = 4 ∧ f.value = [] ∧ ∀ x ∈ r, x.2.value = [] := by
  have hsplit (s : List UInt8) : split s = (r.length, f.value :: r.map (·.2.value)) ↔
      words 4 s = f.value :: r.map (·.2.value) := by
    rw [split, Prod.mk.injEq]
    exact ⟨And.right, fun h => ⟨by simp [h], h⟩⟩
  rw [hsplit]
  cases lead with
  | nil => simpa using words_iff hf hr htail
  | cons b bs =>
    obtain ⟨hb, hbs⟩ := List.forall_mem_cons.1 hlead
    -- the first word ends where it begins
    have hstop : ¬inWord b = true := by simp [inWord, hb]
    have hquote : isQuote b = false := by
      simp only [isBlank, Bool.or_eq_true, beq_iff_eq] at hb
      rcases hb with rfl | rfl <;> rfl
    have hword : words 4 (b :: (bs ++ (f.text ++ (r.text ++ tail)))) =
        [] :: words 3 (f.text ++ (r.text ++ tail)) := by
      obtain ⟨c, cs, hcons⟩ : ∃ c cs, f.text ++ (r.text ++ tail) = c :: cs :=
        List.exists_cons_of_ne_nil (by cases f <;> simp [Field.text])
      rw [words, skipWord, hquote, if_neg (by simp), List.takeWhile_cons_of_neg hstop,
        List.dropWhile_cons_of_neg hstop, List.tail_cons, dropWhile_run hbs (hf.stops _), hcons]
    rw [List.cons_append, hword, List.cons.injEq]
    by_cases hempty : f.value = []
    · rw [words_shifted_iff hf hr htail hempty]
      simp [hempty]
    · simp [hempty, Ne.symm hempty]

/-- The line `a "\"b"` with two blanks between. -/
theorem split_iff_two :
    split [97, 32, 9, 34, 92, 34, 98, 34] = (1, [[97], [34, 98]]) :=
  (split_iff [] (.plain 97 []) [([32, 9], .quoted 34 [.escaped 34, .raw 98])] [] (by simp [All])
    ⟨by decide, by simp [All, inWord, isBlank]⟩
    (by simp [Rest.Ok, All, isBlank, Field.Ok, isQuote, Piece.Ok]) (by simp)).2
    (.inl ⟨rfl, by decide, .inr (by simp [Field.Closes, Field.behind, All])⟩)

/-- **One word more**: a blank in front, and a newline behind a blank or a closing quote. -/
theorem split_extra_word :
    split [32, 97, 10] = (1, [[], [97]]) ∧ split [97, 32, 10] = (1, [[97], []]) ∧
      split [34, 97, 34, 10] = (1, [[97], []]) := by
  decide

/-! ## The entry of a session -/

/-- The lines of the file, if it can be opened, the hash chain for names, the digits of encrypted
passwords, and `check_passwd`. -/
structure Conf (A V : Type) where
  file : Option (List (List UInt8))
  encrypted : Bool
  hash : List UInt8 → List UInt8
  unhex : List UInt8 → List UInt8
  auth : List UInt8 → List UInt8 → A → V

variable {A V : Type}

/-- `create_pd`: the password of the user's first line with four words. -/
def createPd (cf : Conf A V) (username : List UInt8) : Option (List UInt8) := do
  let user := if cf.encrypted then cf.hash username else username
  let entry ← ((← cf.file).filter (·.head? ≠ some 35)).map split |>.find? fun e =>
    decide (3 ≤ e.1) && e.2.head? == some user
  let passwd ← entry.2[2]?
  if cf.encrypted then
    if passwd.length ≠ 32 then none else some (cf.unhex passwd)
  else some passwd

inductive Call (A : Type)
  | getPasswd (username : List UInt8)
  | checkPasswd (username : List UInt8) (args : A)

def Call.username : Call A → List UInt8
  | .getPasswd u | .checkPasswd u _ => u

/-- What `get_passwd` or `check_passwd` returns; none is `NULL` or `PWDB_NO_IMPL`. -/
inductive Outcome (V : Type)
  | passwd (p : Option (List UInt8))
  | verdict (v : Option V)
  deriving DecidableEq

/-- `get_passwd` and `check_passwd`; `find_pd` gives what the session has. -/
def call (cf : Conf A V) (pd : Option (List UInt8)) (c : Call A) :
    Outcome V × Option (List UInt8) :=
  let found := pd.or (createPd cf c.username)
  match c with
  | .getPasswd _ => if cf.encrypted then (.passwd none, pd) else (.passwd found, found)
  | .checkPasswd u args =>
    if cf.encrypted then (.verdict (found.map fun p => cf.auth p u args), found)
    else (.verdict none, pd)

def outcomes (cf : Conf A V) : Option (List UInt8) → List (Call A) → List (Outcome V)
  | _, [] => []
  | pd, c :: cs => (call cf pd c).1 :: outcomes cf (call cf pd c).2 cs

/-- What the call gives on a session that has nothing yet. -/
def own (cf : Conf A V) (c : Call A) : Outcome V := (call cf none c).1

/-- The call asks for the entry of its user: `get_passwd` unless the passwords are encrypted, and
`check_passwd` if they are. -/
def looksUp (cf : Conf A V) : Call A → Bool
  | .getPasswd _ => !cf.encrypted
  | .checkPasswd .. => cf.encrypted

/-- What a session has does not matter to a call. -/
def Fits (cf : Conf A V) (pd : Option (List UInt8)) (c : Call A) : Prop :=
  looksUp cf c = true → pd = none ∨ createPd cf c.username = pd

theorem call_fits {cf : Conf A V} {pd : Option (List UInt8)} {c : Call A} (h : Fits cf pd c) :
    (call cf pd c).1 = own cf c := by
  cases c <;> cases he : cf.encrypted <;> simp_all [own, call, Fits, looksUp] <;> grind

theorem call_state (cf : Conf A V) (pd : Option (List UInt8)) (c : Call A) :
    (call cf pd c).2 = if looksUp cf c then pd.or (createPd cf c.username) else pd := by
  cases c <;> cases he : cf.encrypted <;> simp [call, looksUp, he]

/-- Only `get_passwd` shows the entry it has found. -/
theorem fits_of_call {cf : Conf A V} {pd : Option (List UInt8)} {c : Call A}
    (he : cf.encrypted = false) (h : (call cf pd c).1 = own cf c) : Fits cf pd c := by
  intro hl
  cases c with
  | getPasswd u => cases pd <;> simp_all [own, call]
  | checkPasswd u args => simp [looksUp, he] at hl

/-- No call that looks a user up follows one for a user with another entry. -/
def Agree (cf : Conf A V) (a b : Call A) : Prop :=
  looksUp cf a = true → looksUp cf b = true → createPd cf a.username = none ∨
    createPd cf b.username = createPd cf a.username

theorem fits_call_iff {cf : Conf A V} {pd : Option (List UInt8)} {a b : Call A}
    (ha : Fits cf pd a) : Fits cf (call cf pd a).2 b ↔ Fits cf pd b ∧ Agree cf a b := by
  rw [call_state]
  unfold Fits Agree at *
  cases pd <;> grind

theorem outcomes_own_from {cf : Conf A V} {pd : Option (List UInt8)} {cs : List (Call A)}
    (hpd : ∀ c ∈ cs, Fits cf pd c) (h : cs.Pairwise (Agree cf)) :
    outcomes cf pd cs = cs.map (own cf) := by
  induction cs generalizing pd with
  | nil => rfl
  | cons c cs ih =>
    obtain ⟨hc, hcs⟩ := List.forall_mem_cons.1 hpd
    obtain ⟨hagree, h⟩ := List.pairwise_cons.1 h
    rw [outcomes, call_fits hc, ih (fun b hb => (fits_call_iff hc).2 ⟨hcs b hb, hagree b hb⟩) h,
      List.map_cons]

theorem agree_of_outcomes {cf : Conf A V} {pd : Option (List UInt8)} {cs : List (Call A)}
    (he : cf.encrypted = false) (h : outcomes cf pd cs = cs.map (own cf)) :
    (∀ c ∈ cs, Fits cf pd c) ∧ cs.Pairwise (Agree cf) := by
  induction cs generalizing pd with
  | nil => exact ⟨by simp, .nil⟩
  | cons c cs ih =>
    rw [outcomes, List.map_cons, List.cons.injEq] at h
    have hc := fits_of_call he h.1
    obtain ⟨hfits, hpair⟩ := ih h.2
    have hboth b hb := (fits_call_iff hc).1 (hfits b hb)
    exact ⟨List.forall_mem_cons.2 ⟨hc, fun b hb => (hboth b hb).1⟩,
      List.pairwise_cons.2 ⟨fun b hb => (hboth b hb).2, hpair⟩⟩

/-- **Each call is answered by its own user's entry** where none that looks a user up follows one
for a user with another entry; without encryption only there. -/
theorem outcomes_own (cf : Conf A V) (cs : List (Call A)) :
    (cs.Pairwise (Agree cf) → outcomes cf none cs = cs.map (own cf)) ∧
      (cf.encrypted = false → outcomes cf none cs = cs.map (own cf) → cs.Pairwise (Agree cf)) :=
  ⟨outcomes_own_from fun _ _ _ => .inl rfl, fun he h => (agree_of_outcomes he h).2⟩

/-- The lines `a * x *` and `b * y *`. -/
def twoUsers : Conf Unit Bool where
  file := some [[97, 32, 42, 32, 120, 32, 42, 10], [98, 32, 42, 32, 121, 32, 42, 10]]
  encrypted := false
  hash := id
  unhex := id
  auth _ _ _ := true

theorem outcomes_own_unknown :
    outcomes twoUsers none [.getPasswd [99], .getPasswd [98], .getPasswd [98]] =
      [.passwd none, .passwd (some [121]), .passwd (some [121])] := by
  rw [(outcomes_own twoUsers _).1 (by simp [Agree]; decide)]
  decide

/-- **Another user's password**: `b` is asked for after `a`. -/
theorem other_password :
    outcomes twoUsers none [.getPasswd [97], .getPasswd [98]] =
        [.passwd (some [120]), .passwd (some [120])] ∧
      own twoUsers (.getPasswd [98]) = .passwd (some [121]) := by
  decide

end ChapSecrets
