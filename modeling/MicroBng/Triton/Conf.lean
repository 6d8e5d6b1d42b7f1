import Mathlib.Data.List.Basic

/-!
# The configuration file

`triton/conf_file.c`: a configuration is read from a file and the files it includes, and read again
while the daemon runs. The sections of before are set aside during a reload, freed if it succeeds
and put in front of the new ones if it fails. An include that cannot be opened, or has an error in
it, ends only the block or the file it stands in. The current section is kept from one load to the
next, so an option in front of the first section is not seen as an error. And the sections that were
read before an error stay.

* `reload_right`: a `Sound` reload is all or nothing, and another is not, with one exception
-/

namespace Triton.Conf

abbrev Str := List Char

/-! ## Lines -/

/-- What `fgets` returns: a line with its line feed, or as much of it as there is room for. -/
def fgetsFrom : Str → Nat → Str → List Str
  | acc, _, [] => if acc = [] then [] else [acc.reverse]
  | acc, room, ch :: text =>
    if ch = '\n' ∨ room ≤ 1 then (ch :: acc).reverse :: fgetsFrom [] 1023 text
    else fgetsFrom (ch :: acc) (room - 1) text

/-- The reads of a file into `buf`. -/
def fgets (text : Str) : List Str := fgetsFrom [] 1023 text

def isSpace (ch : Char) : Bool := ch = ' ' ∨ ch = '\t'

def skipSpace (str : Str) : Str := str.dropWhile isSpace

def isWord (ch : Char) : Bool := ch ≠ ' ' ∧ ch ≠ '\t' ∧ ch ≠ '='

def skipWord (str : Str) : Str := str.dropWhile isWord

/-- The string in `buf`, without the line feed and the blanks in front of it. -/
def chomp (buf : Str) : Str :=
  let str := buf.takeWhile (· ≠ '\x00')
  let str := if str.getLast? = some '\n' then str.dropLast else str
  (str.reverse.dropWhile isSpace).reverse

/-- A line. A section has all that follows the bracket, and the part before the closing one. -/
inductive Line
  | blank
  | included (fname : Str)
  | unclosed
  | sect (str name : Str)
  | option (str : Str)

def lineOf (buf : Str) : Line :=
  match skipSpace (chomp buf) with
  | [] => .blank
  | ch :: str =>
    if ch = '#' then .blank
    else if ['$', 'i', 'n', 'c', 'l', 'u', 'd', 'e'].isPrefixOf (ch :: str) then
      .included (skipSpace (skipWord (ch :: str)))
    else if ch = '[' then
      if ']' ∈ str then .sect str (str.takeWhile (· ≠ ']')) else .unclosed
    else .option (ch :: str)

/-- What follows an option's name: nothing, a text, or another option's name. -/
inductive Value
  | none
  | text (val : Str)
  | parent (name : Str)

/-- The text behind `=`. -/
def valueOf (str : Str) : Value :=
  match str with
  | '$' :: '\x7b' :: s =>
    if '\x7d' ∈ s then .parent (s.takeWhile (· ≠ '\x7d')) else .parent str
  | _ => .text str

/-- Name and value of an option; a blank behind the name ends it, a tabulator does not. -/
def optionOf (str : Str) : Str × Value :=
  let word := str.takeWhile isWord
  match skipWord str with
  | ' ' :: rest =>
    match skipSpace rest with
    | ch :: val => if ch = '=' ∨ ch = ',' then (word, valueOf (skipSpace val)) else (word, .none)
    | [] => (word, .none)
  | rest =>
    match skipSpace rest with
    | ch :: val =>
      if ch = '=' ∨ ch = ',' then (word ++ rest.takeWhile isSpace, valueOf (skipSpace val))
      else (str, .none)
    | [] => (str, .none)

/-! ## Sections -/

/-- `struct conf_option_t`. -/
inductive Opt
  | mk (name : Str) (val : Option Str) (raw : Str) (items : List Opt)

namespace Opt

def name : Opt → Str
  | mk name _ _ _ => name

def val : Opt → Option Str
  | mk _ val _ _ => val

def items : Opt → List Opt
  | mk _ _ _ items => items

def setVal (val : Str) : Opt → Opt
  | mk name _ raw items => mk name (some val) raw items

def setItems (items : List Opt) : Opt → Opt
  | mk name val raw _ => mk name val raw items

end Opt

/-- `struct conf_sect_t`. -/
structure Sect where
  name : Str
  items : List Opt

/-- A list of options: which section of those that are being read, and from option to option. -/
structure Items where
  sect : Nat
  path : List Nat
  deriving DecidableEq

/-- `list_add_tail`, to the list a path leads to. -/
def addTail (opt : Opt) : List Nat → List Opt → List Opt
  | [], items => items ++ [opt]
  | i :: path, items => items.modify i fun p => p.setItems (addTail opt path p.items)

def count : List Nat → List Opt → Nat
  | [], items => items.length
  | i :: path, items => (items[i]?.map fun p => count path p.items).getD 0

def findItem (items : List Opt) (name : Str) : Option Nat := items.findIdx? fun o => o.name = name

def findSect (sections : List Sect) (name : Str) : Option Nat :=
  sections.findIdx? fun s => s.name = name

/-- `cur_sect`, kept between loads: a section being read, one of before, or a freed one. -/
inductive Cur
  | null
  | here (i : Nat)
  | old (i : Nat) (sect : Sect)
  | freed

/-- The sections that have been read, and `cur_sect`. -/
structure Loading where
  sections : List Sect
  cur : Cur

/-- The section `cur_sect` points to, unless it has been freed. -/
def Loading.curSect (st : Loading) : Option Sect :=
  match st.cur with
  | .here i => st.sections[i]?
  | .old _ sect => some sect
  | .null | .freed => none

/-- `items == &cur_sect->items`. -/
def Cur.hasItems (cur : Cur) (items : Option Items) : Bool :=
  match cur with
  | .here i => items = some ⟨i, []⟩
  | _ => false

/-! ## Loading -/

/-- The messages on `stderr`; `noSection` has the option as well. -/
inductive Message
  | sintaxError
  | openSectionInsideOption
  | noSectionOpened (str : Str)
  | parentOptionNotFound

inductive Error
  | notOpened
  | inLine (fname : Str) (line : Nat) (message : Message)

/-- Why a load does not return, and that a text is not complete. -/
inductive Stop
  | nullItems
  | freedSection
  | incomplete

/-- A load: `load_file` returns zero or not, or it does not return. -/
inductive Loaded
  | done (st : Loading)
  | failed (error : Error) (st : Loading)
  | stopped (why : Stop)

/-- `struct conf_ctx`. For a block `load_file` calls itself; `callers` are the lists above. -/
structure Ctx where
  fname : Str
  line : Nat
  items : Option Items
  callers : List (Option Items)

def Ctx.error (c : Ctx) (message : Message) : Error := .inLine c.fname c.line message

/-- A line leads to the next line, or to a return from `load_file`. -/
inductive Turn
  | next (c : Ctx) (st : Loading)
  | leave (st : Loading)
  | fail (error : Error) (st : Loading)
  | stop (why : Stop)

/-- `sect_add_item`, up to the call of `load_file` for a block. -/
def sectAddItem (c : Ctx) (st : Loading) (name : Str) (val : Option Str) (raw : Str) : Turn :=
  match c.items with
  | none => .stop .nullItems
  | some list =>
    let block := val.bind List.getLast? = some '\x7b'
    let opt := Opt.mk name (if block then val.map List.dropLast else val) raw []
    let pos := ((st.sections[list.sect]?).map fun s => count list.path s.items).getD 0
    let st := { st with
      sections := st.sections.modify list.sect fun s =>
        { s with items := addTail opt list.path s.items } }
    if block then
      .next { c with items := some ⟨list.sect, list.path ++ [pos]⟩, callers := c.items :: c.callers }
        st
    else .next c st

/-- The value of the parent is not copied: the brace that opens a block is taken off there, too. -/
def Loading.cutParent (st : Loading) (j : Nat) (val : Option Str) : Loading :=
  match st.cur, val with
  | .here i, some v =>
    if v.getLast? = some '\x7b' then
      { st with sections := st.sections.modify i fun s =>
          { s with items := s.items.modify j (Opt.setVal v.dropLast) } }
    else st
  | _, _ => st

def optionTurn (c : Ctx) (st : Loading) (str : Str) : Turn :=
  match (optionOf str).2 with
  | .none => sectAddItem c st (optionOf str).1 none str
  | .text val => sectAddItem c st (optionOf str).1 (some val) str
  | .parent name =>
    match st.curSect with
    | none => .stop .freedSection
    | some sect =>
      match findItem sect.items name with
      | none => .fail (c.error .parentOptionNotFound) st
      | some j =>
        let val := (sect.items[j]?).bind Opt.val
        sectAddItem c (st.cutParent j val) (optionOf str).1 val str

/-- A line that opens a section. The section is looked for by all that follows the bracket. -/
def sectTurn (c : Ctx) (st : Loading) (str name : Str) : Turn :=
  match findSect st.sections str with
  | some i =>
    let st := { st with cur := .here i }
    if c.items = some ⟨i, []⟩ then .next c st else .fail (c.error .openSectionInsideOption) st
  | none =>
    .next { c with items := some ⟨st.sections.length, []⟩ }
      ⟨st.sections ++ [⟨name, []⟩], .here st.sections.length⟩

/-- A turn of the loop of `load_file`; `incl` is `__conf_load`. -/
def turn (incl : Option Items → Str → Loading → Loaded) (c : Ctx) (st : Loading) (buf : Str) :
    Turn :=
  match lineOf buf with
  | .blank => .next c st
  | .included fname =>
    match incl c.items fname st with
    | .done st => .next c st
    | .failed _ st => .leave st
    | .stopped why => .stop why
  | .unclosed => .fail (c.error .sintaxError) st
  | .sect str name => sectTurn c st str name
  | .option str =>
    match st.cur with
    | .null => .fail (c.error (.noSectionOpened str)) st
    | _ =>
      if str.head? = some '\x7d' ∧ st.cur.hasItems c.items = false then .leave st
      else optionTurn c st str

/-- `load_file`, with the calls for its blocks. -/
def loadFile (incl : Option Items → Str → Loading → Loaded) : List Str → Ctx → Loading → Loaded
  | [], _, st => .done st
  | buf :: bufs, c, st =>
    match turn incl { c with line := c.line + 1 } st buf with
    | .next c st => loadFile incl bufs c st
    | .leave st =>
      match c.callers with
      | [] => .done st
      | items :: callers =>
        loadFile incl bufs { c with line := c.line + 1, items := items, callers := callers } st
    | .fail error st => .failed error st
    | .stop why => .stopped why

abbrev Files := Str → Option Str

variable (files : Files) (n : Nat)

/-- `__conf_load`, where so many files can be open at a time. -/
def confLoadFile (files : Files) : Nat → Option Items → Str → Loading → Loaded
  | 0, _, _, st => .failed .notOpened st
  | n + 1, items, fname, st =>
    match files fname with
    | none => .failed .notOpened st
    | some text => loadFile (confLoadFile files n) (fgets text) ⟨fname, 0, items, []⟩ st

structure State where
  fname : Str
  sections : List Sect
  cur : Cur

def State.init : State := ⟨[], [], .null⟩

def confGetSection (s : State) (name : Str) : Option Sect :=
  s.sections.find? fun sect => sect.name = name

def confGetOpt (s : State) (sect name : Str) : Option Str :=
  (confGetSection s sect).bind fun sect => (sect.items.find? fun o => o.name = name).bind Opt.val

/-- What `conf_reload` comes to: it returns zero or not, or not at all. -/
inductive Reloaded
  | success (s : State)
  | failure (s : State)
  | crash

/-- `cur_sect` when the sections are set aside. -/
def State.setAside (s : State) : Cur :=
  match s.cur with
  | .here i =>
    match s.sections[i]? with
    | some sect => .old i sect
    | none => .freed
  | cur => cur

/-- `cur_sect` when the sections of before have been freed, -/
def Cur.afterFree : Cur → Cur
  | .old _ _ => .freed
  | cur => cur

def Cur.afterSplice (n : Nat) : Cur → Cur
  | .here i => .here (n + i)
  | .old i _ => .here i
  | cur => cur

/-- `conf_reload`, with a name or with the name of the last load. -/
def confReload (n : Nat) (s : State) (fname : Option Str) : Reloaded :=
  let fname := fname.getD s.fname
  match confLoadFile files n none fname ⟨[], s.setAside⟩ with
  | .done st => .success ⟨fname, st.sections, st.cur.afterFree⟩
  | .failed _ st =>
    .failure ⟨fname, s.sections ++ st.sections, st.cur.afterSplice s.sections.length⟩
  | .stopped _ => .crash

/-! ## The parse of a text -/

def Loaded.whole : Loaded → Loaded
  | .failed _ _ => .stopped .incomplete
  | r => r

def parseFile (files : Files) : Nat → Option Items → Str → Loading → Loaded
  | 0, _, _, st => .failed .notOpened st
  | n + 1, items, fname, st =>
    match files fname with
    | none => .failed .notOpened st
    | some text =>
      loadFile (fun items fname st => (parseFile files n items fname st).whole) (fgets text)
        ⟨fname, 0, items, []⟩ st

/-- **The parse of a text**: nothing has been read before, and no error is passed over. -/
def parse (n : Nat) (fname : Str) : Loaded := parseFile files n none fname ⟨[], .null⟩

/-! ## Texts that are complete -/

section Whole

variable {incl incl' : Option Items → Str → Loading → Loaded}

theorem loadFile_eq_of_whole
    (hincl : ∀ items fname st, incl' items fname st ≠ .stopped .incomplete →
      incl items fname st = incl' items fname st) (bufs : List Str) (c : Ctx) (st : Loading)
    (h : loadFile incl' bufs c st ≠ .stopped .incomplete) :
    loadFile incl bufs c st = loadFile incl' bufs c st := by
  induction bufs generalizing c st with
  | nil => rfl
  | cons buf bufs ih =>
    have hturn : turn incl { c with line := c.line + 1 } st buf =
        turn incl' { c with line := c.line + 1 } st buf := by
      unfold turn
      cases hl : lineOf buf with
      | included fname => grind [loadFile, turn]
      | blank | unclosed | sect _ _ | option _ => rfl
    grind [loadFile]

end Whole

theorem confLoadFile_eq_parseFile (items : Option Items) (fname : Str) (st : Loading)
    (h : parseFile files n items fname st ≠ .stopped .incomplete) :
    confLoadFile files n items fname st = parseFile files n items fname st := by
  induction n generalizing items fname st with
  | zero => rfl
  | succ n ih =>
    rw [parseFile] at h ⊢
    rw [confLoadFile]
    cases hf : files fname with
    | none => rfl
    | some text =>
      rw [hf] at h
      refine loadFile_eq_of_whole (fun items fname st hw => ?_) _ _ _ h
      cases hp : parseFile files n items fname st with
      | done st' => exact (ih items fname st (by rw [hp]; exact Loaded.noConfusion)).trans hp
      | failed error st' =>
        rw [hp] at hw
        exact absurd rfl hw
      | stopped why =>
        rw [hp] at hw
        exact (ih items fname st (by rw [hp]; exact hw)).trans hp

/-! ## The section of before -/

/-- What an option in front of the first section comes to, where a section is current. -/
def leftOver (cur : Cur) (error : Error) (str : Str) : Loaded :=
  if str.head? = some '\x7d' then .done ⟨[], cur⟩
  else
    match (optionOf str).2, Loading.curSect ⟨[], cur⟩ with
    | .parent _, none => .stopped .freedSection
    | .parent name, some sect =>
      if findItem sect.items name = none then .failed error ⟨[], cur⟩ else .stopped .nullItems
    | _, _ => .stopped .nullItems

/-- How a load with a current section differs from one without. -/
def Follows (cur : Cur) (r r' : Loaded) : Prop :=
  match r with
  | .done st => r' = .done st ∨ st = ⟨[], .null⟩ ∧ r' = .done ⟨[], cur⟩
  | .failed (.inLine fname line (.noSectionOpened str)) st =>
    st = ⟨[], .null⟩ ∧ r' = leftOver cur (.inLine fname line .parentOptionNotFound) str
  | .failed error st => r' = .failed error st ∨ st = ⟨[], .null⟩ ∧ r' = .failed error ⟨[], cur⟩
  | .stopped why => why = .incomplete ∨ r' = .stopped why

/-- A section has been opened: it stays so, and no option is found to be in front of it. -/
def Opened (r : Loaded) : Prop :=
  match r with
  | .done st => st.cur ≠ .null
  | .failed error st => st.cur ≠ .null ∧
      ∀ fname line str, error ≠ .inLine fname line (.noSectionOpened str)
  | .stopped _ => True

section Opened

variable {c c' : Ctx} {st st' : Loading} {error : Error}

theorem cur_cutParent (st : Loading) (j : Nat) (val : Option Str) :
    (st.cutParent j val).cur = st.cur := by
  unfold Loading.cutParent
  split
  · split_ifs <;> rfl
  · rfl

theorem sectAddItem_cases (c : Ctx) (st : Loading) (name : Str) (val : Option Str) (raw : Str) :
    sectAddItem c st name val raw = .stop .nullItems ∨
      ∃ c' sections, sectAddItem c st name val raw = .next c' { st with sections := sections } := by
  grind [sectAddItem]

def Turn.Opened : Turn → Prop
  | .next _ st | .leave st => st.cur ≠ .null
  | .fail error st => Conf.Opened (.failed error st)
  | .stop _ => True

theorem opened_sectAddItem (h : st.cur ≠ .null) (name : Str) (val : Option Str) (raw : Str) :
    (sectAddItem c st name val raw).Opened := by
  rcases sectAddItem_cases c st name val raw with hs | ⟨c', sections, hs⟩
  · rw [hs]
    trivial
  · rw [hs]
    exact h

theorem opened_optionTurn (h : st.cur ≠ .null) (str : Str) : (optionTurn c st str).Opened := by
  unfold optionTurn
  cases (optionOf str).2 with
  | none | text val => exact opened_sectAddItem h _ _ _
  | parent name =>
    cases st.curSect with
    | none => trivial
    | some sect =>
      dsimp only
      cases findItem sect.items name with
      | none => exact ⟨h, nofun⟩
      | some j => exact opened_sectAddItem (by rwa [cur_cutParent]) _ _ _

theorem opened_sectTurn (str name : Str) : (sectTurn c st str name).Opened := by
  unfold sectTurn
  cases findSect st.sections str with
  | none => exact Cur.noConfusion
  | some i =>
    dsimp only
    split_ifs
    · exact Cur.noConfusion
    · exact ⟨Cur.noConfusion, nofun⟩

variable {incl : Option Items → Str → Loading → Loaded}
  (hincl : ∀ items fname st, st.cur ≠ .null → Opened (incl items fname st))

include hincl

theorem opened_turn (h : st.cur ≠ .null) (buf : Str) : (turn incl c st buf).Opened := by
  unfold turn
  cases lineOf buf with
  | blank => exact h
  | included fname =>
    have ho := hincl c.items fname st h
    dsimp only
    cases hi : incl c.items fname st with
    | done st' => rw [hi] at ho; exact ho
    | failed error st' => rw [hi] at ho; exact ho.1
    | stopped why => trivial
  | unclosed => exact ⟨h, nofun⟩
  | sect str name => exact opened_sectTurn str name
  | option str =>
    cases hc : st.cur with
    | null => exact absurd hc h
    | here _ | old _ _ | freed =>
      dsimp only
      split_ifs
      · exact h
      · exact opened_optionTurn h str

theorem opened_loadFile (bufs : List Str) (c : Ctx) (h : st.cur ≠ .null) :
    Opened (loadFile incl bufs c st) := by
  induction bufs generalizing c st with
  | nil => exact h
  | cons buf bufs ih =>
    have ht := opened_turn hincl (c := { c with line := c.line + 1 }) h buf
    rw [loadFile]
    cases hturn : turn incl { c with line := c.line + 1 } st buf with
    | next c' st' => rw [hturn] at ht; exact ih c' ht
    | leave st' =>
      rw [hturn] at ht
      cases c.callers with
      | nil => exact ht
      | cons items callers => exact ih _ ht
    | fail error st' => rw [hturn] at ht; exact ht
    | stop why => trivial

end Opened

theorem opened_whole {r : Loaded} (h : Opened r) : Opened r.whole := by
  cases r with
  | done st => exact h
  | failed error st | stopped why => trivial

theorem opened_parseFile (items : Option Items) (fname : Str) (st : Loading) (h : st.cur ≠ .null) :
    Opened (parseFile files n items fname st) := by
  induction n generalizing items fname st with
  | zero => exact ⟨h, nofun⟩
  | succ n ih =>
    rw [parseFile]
    cases files fname with
    | none => exact ⟨h, nofun⟩
    | some text => exact opened_loadFile (fun items fname st h => opened_whole (ih _ _ _ h)) _ _ h

theorem Follows.of_opened {cur : Cur} {r : Loaded} (h : Opened r) : Follows cur r r := by
  cases r with
  | done st => exact .inl rfl
  | failed error st =>
    cases error with
    | notOpened => exact .inl rfl
    | inLine fname line message =>
      cases message with
      | noSectionOpened str => exact absurd rfl (h.2 fname line str)
      | sintaxError | openSectionInsideOption | parentOptionNotFound => exact .inl rfl
  | stopped why => exact .inr rfl

section Follows

variable {cur : Cur} (hcur : cur ≠ .null)

include hcur

omit hcur in
theorem optionTurn_of_null {c : Ctx} {st : Loading} {str : Str} (h : c.items = none) :
    optionTurn c st str =
      match (optionOf str).2, st.curSect with
      | .parent _, none => .stop .freedSection
      | .parent name, some sect =>
        if findItem sect.items name = none then .fail (c.error .parentOptionNotFound) st
        else .stop .nullItems
      | _, _ => .stop .nullItems := by
  have hadd (st : Loading) (name : Str) (val : Option Str) :
      sectAddItem c st name val str = .stop .nullItems := by
    rw [sectAddItem, h]
  grind [optionTurn]

theorem loadFile_option {incl : Option Items → Str → Loading → Loaded} {bufs : List Str} {c : Ctx}
    {buf str : Str} (hitems : c.items = none) (hcallers : c.callers = [])
    (hl : lineOf buf = .option str) :
    loadFile incl (buf :: bufs) c ⟨[], cur⟩ =
      leftOver cur (.inLine c.fname (c.line + 1) .parentOptionNotFound) str := by
  have hturn : turn incl { c with line := c.line + 1 } ⟨[], cur⟩ buf =
      if str.head? = some '\x7d' then .leave ⟨[], cur⟩
      else optionTurn { c with line := c.line + 1 } ⟨[], cur⟩ str := by
    have hitems' : cur.hasItems c.items = false := by
      rw [hitems]
      cases cur <;> rfl
    rw [turn, hl]
    simp only [hitems', and_true]
  rw [loadFile, hturn, leftOver]
  by_cases hb : str.head? = some '\x7d'
  · rw [if_pos hb, if_pos hb]
    rw [hcallers]
  · rw [if_neg hb, if_neg hb,
      optionTurn_of_null (c := { c with line := c.line + 1 }) hitems]
    cases (optionOf str).2 with
    | none | text _ => rfl
    | parent name =>
      cases Loading.curSect ⟨[], cur⟩ with
      | none => rfl
      | some sect =>
        dsimp only
        split_ifs <;> rfl

theorem follows_loadFile {incl : Option Items → Str → Loading → Loaded}
    (hopen : ∀ items fname st, st.cur ≠ .null → Opened (incl items fname st))
    (hfail : ∀ items fname st error st', incl items fname st ≠ .failed error st')
    (hincl : ∀ fname, Follows cur (incl none fname ⟨[], .null⟩) (incl none fname ⟨[], cur⟩))
    (bufs : List Str) (c : Ctx) (hitems : c.items = none) (hcallers : c.callers = []) :
    Follows cur (loadFile incl bufs c ⟨[], .null⟩) (loadFile incl bufs c ⟨[], cur⟩) := by
  induction bufs generalizing c with
  | nil => exact .inr ⟨rfl, rfl⟩
  | cons buf bufs ih =>
    cases hl : lineOf buf with
    | blank => simp_all [loadFile, turn]
    | unclosed =>
      rw [loadFile, loadFile, turn, turn, hl]
      exact .inr ⟨rfl, rfl⟩
    | sect str name =>
      -- from here on the two loads are the same
      rw [loadFile, loadFile, turn, turn, hl]
      exact .of_opened (opened_loadFile hopen _ _ Cur.noConfusion)
    | option str =>
      rw [loadFile_option hcur hitems hcallers hl, loadFile, turn, hl]
      exact ⟨rfl, rfl⟩
    | included fname =>
      have hf := hincl fname
      have ho := hopen none fname ⟨[], cur⟩ hcur
      rw [loadFile, loadFile, turn, turn, hl]
      dsimp only
      rw [hitems]
      cases hi : incl none fname ⟨[], .null⟩ with
      | done st =>
        rw [hi] at hf
        rcases hf with hi' | ⟨rfl, hi'⟩
        · rw [hi'] at ho ⊢
          exact .of_opened (opened_loadFile hopen _ _ ho)
        · rw [hi']
          exact ih _ rfl hcallers
      | failed error st => exact absurd hi (hfail _ _ _ _ _)
      | stopped why =>
        rw [hi] at hf
        rcases hf with rfl | hi'
        · exact .inl rfl
        · rw [hi']
          exact .inr rfl

omit hcur in
theorem Follows.whole {r r' : Loaded} (h : Follows cur r r') : Follows cur r.whole r'.whole := by
  cases r with
  | done st =>
    rcases h with rfl | ⟨rfl, rfl⟩
    · exact .inl rfl
    · exact .inr ⟨rfl, rfl⟩
  | failed error st => exact .inl rfl
  | stopped why =>
    rcases h with rfl | rfl
    · exact .inl rfl
    · exact .inr rfl

theorem follows_parseFile (fname : Str) :
    Follows cur (parseFile files n none fname ⟨[], .null⟩)
      (parseFile files n none fname ⟨[], cur⟩) := by
  induction n generalizing fname with
  | zero => exact .inr ⟨rfl, rfl⟩
  | succ n ih =>
    rw [parseFile, parseFile]
    cases files fname with
    | none => exact .inr ⟨rfl, rfl⟩
    | some text =>
      refine follows_loadFile hcur
        (fun items fname st h => opened_whole (opened_parseFile _ _ _ _ _ h))
        (fun items fname st error st' h => ?_) (fun fname => (ih fname).whole) _ _ rfl rfl
      cases hp : parseFile files n items fname st <;> rw [hp] at h <;> cases h

end Follows

/-! ## Reloads -/

/-- **All or nothing**: a successful reload leaves the parse of the text, and after a failed one
every section is found as before. -/
def Right (n : Nat) (s : State) (fname : Option Str) : Prop :=
  match confReload files n s fname with
  | .success s' => ∃ st, parse files n (fname.getD s.fname) = .done st ∧ s'.sections = st.sections
  | .failure s' => (∀ sect, confGetSection s' sect = confGetSection s sect) ∧
      ∀ sect name, confGetOpt s' sect name = confGetOpt s sect name
  | .crash => False

def Known (s : State) (st : Loading) : Prop := ∀ sect ∈ st.sections, ∃ old ∈ s.sections,
  old.name = sect.name

/-- The option is refused, since it takes its value from one that the section does not have. -/
def NoParent (cur : Cur) (str : Str) : Prop :=
  str.head? ≠ some '\x7d' ∧ ∃ name sect, (optionOf str).2 = .parent name ∧
    Loading.curSect ⟨[], cur⟩ = some sect ∧ findItem sect.items name = none

/-- **When a reload is all or nothing**: the text has no error, or its first error is in the file
itself and the sections in front of it are known. An option before the first section is an error
only if none was ever opened, or it refers to one missing in the last section of before. -/
def Sound (n : Nat) (s : State) (fname : Option Str) : Prop :=
  match parse files n (fname.getD s.fname) with
  | .done _ => True
  | .failed (.inLine _ _ (.noSectionOpened str)) _ => s.cur = .null ∨ NoParent s.setAside str
  | .failed _ st => Known s st
  | .stopped _ => False

section Reload

variable {files : Files} {n : Nat} {s : State} {fname : Option Str}

variable {st : Loading} {error : Error} {r : Loaded}

theorem lookups_iff {s' : State} (h : s'.sections = s.sections ++ st.sections) :
    ((∀ sect, confGetSection s' sect = confGetSection s sect) ∧
      ∀ sect name, confGetOpt s' sect name = confGetOpt s sect name) ↔ Known s st := by
  constructor
  · rintro ⟨hsect, -⟩ sect hm
    have hfind := hsect sect.name
    unfold confGetSection at hfind
    rw [h, List.find?_append] at hfind
    by_contra hnone
    have hold : s.sections.find? (fun o => o.name = sect.name) = none := by
      rw [List.find?_eq_none]
      intro old ho heq
      exact hnone ⟨old, ho, of_decide_eq_true heq⟩
    rw [hold, Option.none_or, List.find?_eq_none] at hfind
    exact hfind sect hm (decide_eq_true rfl)
  · intro hknown
    have hsect (name : Str) : confGetSection s' name = confGetSection s name := by
      unfold confGetSection
      rw [h, List.find?_append]
      cases hold : s.sections.find? (fun o => o.name = name) with
      | some old => rfl
      | none =>
        rw [Option.none_or, List.find?_eq_none]
        intro sect hm heq
        obtain ⟨old, ho, hname⟩ := hknown sect hm
        rw [List.find?_eq_none] at hold
        exact hold old ho (decide_eq_true (hname.trans (of_decide_eq_true heq)))
    simp_all [confGetOpt]

theorem right_iff_of_done
    (h : confLoadFile files n none (fname.getD s.fname) ⟨[], s.setAside⟩ = .done st) :
    Right files n s fname ↔
      ∃ st', parse files n (fname.getD s.fname) = .done st' ∧ st.sections = st'.sections := by
  unfold Right confReload
  dsimp only
  rw [h]

theorem right_iff_of_failed
    (h : confLoadFile files n none (fname.getD s.fname) ⟨[], s.setAside⟩ = .failed error st) :
    Right files n s fname ↔ Known s st := by
  unfold Right confReload
  dsimp only
  rw [h]
  exact lookups_iff rfl

theorem not_right_of_stopped {why : Stop}
    (h : confLoadFile files n none (fname.getD s.fname) ⟨[], s.setAside⟩ = .stopped why) :
    ¬ Right files n s fname := by
  unfold Right confReload
  dsimp only
  rw [h]
  exact id

theorem setAside_ne_null (h : s.cur ≠ .null) : s.setAside ≠ .null := by
  unfold State.setAside
  grind

theorem setAside_of_null (h : s.cur = .null) : s.setAside = .null := by
  rw [State.setAside, h]

theorem leftOver_ne_incomplete (cur : Cur) (error : Error) (str : Str) :
    leftOver cur error str ≠ .stopped .incomplete := by
  unfold leftOver
  grind

theorem Follows.of_failed {cur : Cur}
    (h : Follows cur (.failed error st) r)
    (hfirst : ¬ ∃ fname line str, error = .inLine fname line (.noSectionOpened str)) :
    r = .failed error st ∨ st = ⟨[], .null⟩ ∧ r = .failed error ⟨[], cur⟩ := by
  cases error with
  | notOpened => exact h
  | inLine fname line message =>
    cases message with
    | noSectionOpened str => exact absurd ⟨fname, line, str, rfl⟩ hfirst
    | sintaxError | openSectionInsideOption | parentOptionNotFound => exact h

theorem Follows.ne_incomplete {cur : Cur} {r' : Loaded} (h : Follows cur r r')
    (hr : r ≠ .stopped .incomplete) : r' ≠ .stopped .incomplete := by
  cases r with
  | done st => rcases h with rfl | ⟨-, rfl⟩ <;> exact Loaded.noConfusion
  | failed error st =>
    by_cases hfirst : ∃ fname line str, error = .inLine fname line (.noSectionOpened str)
    · obtain ⟨fname, line, str, rfl⟩ := hfirst
      rw [h.2]
      exact leftOver_ne_incomplete _ _ _
    · rcases h.of_failed hfirst with rfl | ⟨-, rfl⟩ <;> exact Loaded.noConfusion
  | stopped why =>
    rcases h with rfl | rfl
    · exact absurd rfl hr
    · exact hr

theorem load_follows (h : parse files n (fname.getD s.fname) ≠ .stopped .incomplete) :
    (s.cur = .null ∧ confLoadFile files n none (fname.getD s.fname) ⟨[], s.setAside⟩ =
      parse files n (fname.getD s.fname)) ∨
    (s.cur ≠ .null ∧ Follows s.setAside (parse files n (fname.getD s.fname))
      (confLoadFile files n none (fname.getD s.fname) ⟨[], s.setAside⟩)) := by
  by_cases hc : s.cur = .null
  · refine .inl ⟨hc, ?_⟩
    rw [setAside_of_null hc]
    exact confLoadFile_eq_parseFile files n none _ _ h
  · have hf := follows_parseFile files n (setAside_ne_null hc) (fname.getD s.fname)
    have heq := confLoadFile_eq_parseFile files n none _ _ (hf.ne_incomplete h)
    rw [heq]
    exact .inr ⟨hc, hf⟩

theorem known_nil (s : State) (cur : Cur) : Known s ⟨[], cur⟩ := nofun

theorem right_iff_noParent {error' : Error} {str : Str}
    (hp : parse files n (fname.getD s.fname) = .failed error st)
    (hl : confLoadFile files n none (fname.getD s.fname) ⟨[], s.setAside⟩ =
      leftOver s.setAside error' str) : Right files n s fname ↔ NoParent s.setAside str := by
  unfold leftOver at hl
  split_ifs at hl with hb
  · rw [right_iff_of_done hl, hp]
    refine iff_of_false ?_ (fun h => h.1 hb)
    rintro ⟨st', h, -⟩
    cases h
  · have hnot (h : ∀ name sect, (optionOf str).2 = .parent name →
        Loading.curSect ⟨[], s.setAside⟩ = some sect → findItem sect.items name ≠ none) :
        ¬ NoParent s.setAside str := by
      rintro ⟨-, name, sect, hv, hs, hnone⟩
      exact h name sect hv hs hnone
    cases hv : (optionOf str).2 with
    | none | text _ => simp_all [not_right_of_stopped]
    | parent name =>
      rw [hv] at hl
      cases hs : Loading.curSect ⟨[], s.setAside⟩ with
      | none => simp_all [not_right_of_stopped]
      | some sect =>
        rw [hs] at hl
        dsimp only at hl
        by_cases hnone : findItem sect.items name = none
        · rw [if_pos hnone] at hl
          rw [right_iff_of_failed hl]
          exact iff_of_true (known_nil s _) ⟨hb, name, sect, hv, hs, hnone⟩
        simp_all [not_right_of_stopped]

theorem right_iff_known
    (hl : confLoadFile files n none (fname.getD s.fname) ⟨[], s.setAside⟩ = r)
    (hr : r = .failed error st ∨ st = ⟨[], .null⟩ ∧ r = .failed error ⟨[], s.setAside⟩) :
    Right files n s fname ↔ Known s st := by
  rcases hr with rfl | ⟨rfl, rfl⟩
  · exact right_iff_of_failed hl
  · rw [right_iff_of_failed hl]
    exact iff_of_true (known_nil s _) (known_nil s _)

theorem right_iff_sound (h : parse files n (fname.getD s.fname) ≠ .stopped .incomplete) :
    Right files n s fname ↔ Sound files n s fname := by
  unfold Sound
  cases hp : parse files n (fname.getD s.fname) with
  | done st =>
    refine iff_of_true ?_ trivial
    rcases load_follows h with ⟨-, hl⟩ | ⟨-, hl⟩
    · exact (right_iff_of_done (hl.trans hp)).2 ⟨st, hp, rfl⟩
    · rw [hp] at hl
      rcases hl with hl | ⟨rfl, hl⟩
      · exact (right_iff_of_done hl).2 ⟨st, hp, rfl⟩
      · exact (right_iff_of_done hl).2 ⟨_, hp, rfl⟩
  | failed error st =>
    by_cases hfirst : ∃ fname line str, error = .inLine fname line (.noSectionOpened str)
    · obtain ⟨fname', line, str, rfl⟩ := hfirst
      rcases load_follows h with ⟨hc, hl⟩ | ⟨hc, hl⟩
      · -- nothing has been read when the error is found
        have hf := follows_parseFile files n (show Cur.freed ≠ .null from Cur.noConfusion)
          (fname.getD s.fname)
        change Follows _ (parse files n (fname.getD s.fname)) _ at hf
        rw [hp] at hf
        obtain ⟨rfl, -⟩ := hf
        rw [right_iff_of_failed (hl.trans hp)]
        exact iff_of_true (known_nil s _) (.inl hc)
      · rw [hp] at hl
        grind [right_iff_noParent, hl.2]
    · have hr : Right files n s fname ↔ Known s st := by
        rcases load_follows h with ⟨-, hl⟩ | ⟨-, hl⟩
        · exact right_iff_known (hl.trans hp) (.inl rfl)
        · rw [hp] at hl
          exact right_iff_known rfl (hl.of_failed hfirst)
      simp_all
  | stopped why =>
    refine iff_of_false ?_ id
    rcases load_follows h with ⟨-, hl⟩ | ⟨-, hl⟩
    · exact not_right_of_stopped (hl.trans hp)
    · rw [hp] at hl
      rcases hl with rfl | hl
      · exact absurd hp h
      · exact not_right_of_stopped hl

end Reload

/-- **Reloads**: a sound reload is all or nothing; another is not, unless an included file has an
error and the reload fails for another one. -/
theorem reload_right (files : Files) (n : Nat) (s : State) (fname : Option Str) :
    (Sound files n s fname → Right files n s fname) ∧
    (Right files n s fname → Sound files n s fname ∨
      parse files n (fname.getD s.fname) = .stopped .incomplete ∧
        ∃ s', confReload files n s fname = .failure s') := by
  by_cases h : parse files n (fname.getD s.fname) = .stopped .incomplete
  · grind [Sound, Right]
  · rw [right_iff_sound h]
    exact ⟨id, .inl⟩

def alone (fname text : Str) : Files := fun name => if name = fname then some text else none

/-- **An include that cannot be opened** ends the file it stands in: the reload succeeds without the
option that follows. -/
theorem missing_include_accepted :
    ∃ s s', confReload (alone "c".toList "[a]\nb=1\n".toList) 16 State.init (some "c".toList) =
        .success s ∧
      confReload (alone "c".toList "[a]\n$include x\nb=2\n".toList) 16 s none = .success s' ∧
      parse (alone "c".toList "[a]\n$include x\nb=2\n".toList) 16 "c".toList =
        .stopped .incomplete ∧
      confGetOpt s "a".toList "b".toList = some "1".toList ∧
      confGetOpt s' "a".toList "b".toList = none := by
  refine ⟨_, _, rfl, rfl, rfl, ?_, ?_⟩
  · decide +kernel
  · decide +kernel

end Triton.Conf
