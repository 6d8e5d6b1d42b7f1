import Mathlib.Algebra.Group.Nat.Defs
import Mathlib.Algebra.Ring.Int.Defs
import MicroBng.Lib.Machine
import MicroBng.Radius.Packet

/-!
# The bandwidth of a session under CoA

For a CoA request `check_radius_attrs` of `shaper/shaper.c` sets the session's rates to the
configured defaults, reads the attributes of the request over them, and says whether one was for
the shaper; only then `ev_radius_coa` gives the rates to the two policers. So a request without such
an attribute takes the rates of the session away and leaves the policers alone.

The products with `conf_multiplier` are in floating point: `Conf.rate` stands for
`conf_multiplier * mult * val` as an `int`. The burst sizes of the policers are left out.

* `coa_consistent_iff`: exactly when the rates of the session are those of its policers after each
  request, and requests that are not for the shaper change nothing
-/

namespace Shaper

open Machine Radius

/-! ## Reading a rate -/

/-- `ATTR_DOWN`, `ATTR_UP`. -/
inductive Dir
  | down | up

/-- The suffixes `parse_integer` knows. -/
inductive Suffix
  | none | B | K | M | G

/-- The configuration, with the product with `conf_multiplier`. -/
structure Conf where
  vendor : UInt32
  attrDown : Nat
  attrUp : Nat
  dfltDown : Int32
  dfltUp : Int32
  rate : Suffix → Int → Int32
  timeRangeId : Int32

structure Parsed where
  speed : Int32
  burst : Int32
  trId : Int32

variable (cf : Conf)

def ascii (s : String) : List UInt8 := s.toList.map fun c => UInt8.ofNat c.toNat

def isspace (c : UInt8) : Bool := c == 32 || (9 ≤ c && c ≤ 13)

def isblank (c : UInt8) : Bool := c == 32 || c == 9

def isdigit (c : UInt8) : Bool := 48 ≤ c && c ≤ 57

def digit (c : UInt8) : Option Nat :=
  if isdigit c then some (c.toNat - 48)
  else if 97 ≤ c && c ≤ 122 then some (c.toNat - 87)
  else if 65 ≤ c && c ≤ 90 then some (c.toNat - 55)
  else .none

/-- The number of the digits in front of `s`, with what follows them. -/
def digits (base : Nat) : List UInt8 → Nat → Nat × List UInt8
  | [], acc => (acc, [])
  | c :: s, acc =>
    match digit c with
    | some d => if d < base then digits base s (acc * base + d) else (acc, c :: s)
    | .none => (acc, c :: s)

def sign (s : List UInt8) : Bool × List UInt8 :=
  match s.dropWhile isspace with
  | 45 :: t => (true, t)
  | 43 :: t => (false, t)
  | t => (false, t)

/-- A `long` from a number out of its range is the nearest one. -/
def toLong (n : Int) : Int := max (-(2 ^ 63)) (min n (2 ^ 63 - 1))

/-- `strtol(s, &endptr, 10)`. -/
def strtol (s : List UInt8) : Int × List UInt8 :=
  let (neg, t) := sign s
  match t with
  | [] => (0, s)
  | c :: _ =>
    if isdigit c then
      let (n, rest) := digits 10 t 0
      (toLong (if neg then -n else n), rest)
    else (0, s)

def parseInteger (s : List UInt8) : Int × Suffix × List UInt8 :=
  let (val, rest) := strtol s
  match rest with
  | [] => (val, .none, [])
  | c :: t =>
    if c = 66 ∨ c = 98 then (val, .B, t)
    else if c = 75 ∨ c = 107 then (val, .K, t)
    else if c = 77 ∨ c = 109 then (val, .M, t)
    else if c = 71 ∨ c = 103 then (val, .G, t)
    else (val, .none, c :: t)

def atEnd : List UInt8 → Bool
  | [] => true
  | c :: _ => isblank c

def parseStringSimple (s : List UInt8) (dir : Dir) (p : Parsed) : Parsed :=
  let (val, suffix, rest) := parseInteger s
  let (val, suffix, rest, p) :=
    match rest with
    | 44 :: t =>
      let (val', suffix', rest') := parseInteger t
      (val', suffix', rest', { p with trId := Int32.ofInt val })
    | _ => (val, suffix, rest, p)
  if atEnd rest then { p with speed := cf.rate suffix val }
  else match rest with
    | [] => p
    | c :: t =>
      -- a slash, a backslash or a colon
      if c = 47 ∨ c = 92 ∨ c = 58 then
        match dir with
        | .down => { p with speed := cf.rate suffix val }
        | .up =>
          let (val', suffix', rest') := parseInteger t
          if atEnd rest' then { p with speed := cf.rate suffix' val' } else p
      else p

def strstr (pat : List UInt8) : List UInt8 → Option (List UInt8)
  | [] => if pat = [] then some [] else .none
  | c :: s => if pat.isPrefixOf (c :: s) then some (c :: s) else strstr pat s

/-- `%u` of `sscanf`. -/
def scanUnsigned (s : List UInt8) : Option (UInt32 × List UInt8) :=
  let (neg, t) := sign s
  match t with
  | [] => .none
  | c :: _ =>
    if isdigit c then
      let (n, rest) := digits 10 t 0
      let n := min n (2 ^ 64 - 1)
      some (if neg then -UInt32.ofNat n else UInt32.ofNat n, rest)
    else .none

/-- `%i` of `sscanf`. -/
def scanInt (s : List UInt8) : Option (Int32 × List UInt8) :=
  let (neg, t) := sign s
  let result (base : Nat) (u : List UInt8) : Int32 × List UInt8 :=
    let (n, rest) := digits base u 0
    (Int32.ofInt (toLong (if neg then -n else n)), rest)
  match t with
  | [] => .none
  | 48 :: x :: u =>
    if x = 120 ∨ x = 88 then
      if ((u.head?.bind digit).any (· < 16)) then some (result 16 u) else .none
    else some (result 8 (48 :: x :: u))
  | c :: _ => if isdigit c then some (result 10 t) else .none

/-- The numbers behind `rate-limit`: the first two are kept if all three are there. -/
def ciscoRates (s : List UInt8) (p : Parsed) : Parsed :=
  match scanUnsigned s with
  | .none => p
  | some (n1, s1) =>
    match scanUnsigned s1 with
    | .none => p
    | some (n2, s2) =>
      match scanUnsigned s2 with
      | .none => p
      | some _ => { p with speed := (n1 / 1000).toInt32, burst := n2.toInt32 }

def ciscoGroup (s : List UInt8) (p : Parsed) : Parsed :=
  match scanInt s with
  | .none => p
  | some (g, t) => ciscoRates t { p with trId := g }

/-- `parse_string_cisco`; `none` where the direction does not occur in the string. -/
def parseStringCisco (s : List UInt8) (dir : Dir) (p : Parsed) : Option Parsed :=
  let plain :=
    match dir with
    | .down => ascii "rate-limit output"
    | .up => ascii "rate-limit input"
  let group := plain ++ ascii " access-group"
  match strstr group s with
  | some t => some (ciscoGroup (t.drop group.length) p)
  | .none =>
    match strstr plain s with
    | some t => some (ciscoRates (t.drop plain.length) p)
    | .none => .none

def parseString (s : List UInt8) (dir : Dir) (p : Parsed) : Parsed :=
  match parseStringCisco s dir p with
  | some p' => p'
  | .none => parseStringSimple cf s dir p

def Dir.swap : Dir → Dir
  | .down => .up
  | .up => .down

def cString : Value → List UInt8
  | .string bytes => bytes.takeWhile (· != 0)
  | _ => []

/-- `attr->val.integer`. -/
def integerOf : Value → Int
  | .integer n => n
  | _ => 0

/-- `parse_attr`: what an attribute says of a direction, by type and vendor. -/
def parseAttr (a : RadAttr) (dir : Dir) (p : Parsed) : Parsed :=
  match a.attr.type with
  | .string =>
    let vendor := a.vendor.elim 0 DictVendor.id
    if vendor = 9 then (parseStringCisco (cString a.val) dir p).getD p
    else if vendor = 14988 ∧ a.attr.id = 8 then
      parseStringSimple cf (cString a.val) dir.swap p
    else parseString cf (cString a.val) dir p
  | .integer => { p with speed := cf.rate .none (integerOf a.val) }
  | _ => p

/-! ## The rates of a session -/

/-- `struct time_range_pd_t`. -/
structure TimeRange where
  id : Int32
  downBurst : Int32
  upBurst : Int32
  act : Bool

/-- `struct shaper_pd_t`: the time ranges, and the current one. -/
structure ShaperPd where
  trList : List TimeRange
  curTr : Option Int32

/-- What the shaper keeps of a session, and the rates last given to its policers. -/
structure Ses where
  maxUp : Int32
  maxDown : Int32
  pd : Option ShaperPd
  policerUp : UInt32
  policerDown : UInt32

def changeTr (id : Int32) (f : TimeRange → TimeRange) : List TimeRange → List TimeRange
  | [] => []
  | tr :: trs => if tr.id = id then f tr :: trs else tr :: changeTr id f trs

def getTrPd (pd : ShaperPd) (id : Int32) : ShaperPd where
  trList :=
    if pd.trList.any (·.id == id) then changeTr id (fun tr => { tr with act := true }) pd.trList
    else pd.trList ++ [⟨id, 0, 0, true⟩]
  curTr := if id = cf.timeRangeId then some id else pd.curTr

def isShaperAttr (a : RadAttr) : Bool :=
  (match a.vendor with
    | some v => v.id == cf.vendor
    | .none => cf.vendor == 0) &&
  (a.attr.id == cf.attrDown || a.attr.id == cf.attrUp)

/-- The body of the loop of `check_radius_attrs`, for an attribute for the shaper. -/
def takeAttr (a : RadAttr) (s : Ses) (pd : ShaperPd) : Ses × ShaperPd :=
  let down :=
    if a.attr.id = cf.attrDown then parseAttr cf a .down ⟨0, 0, 0⟩ else ⟨0, 0, 0⟩
  let up :=
    if a.attr.id = cf.attrUp then parseAttr cf a .up ⟨0, 0, down.trId⟩ else ⟨0, 0, down.trId⟩
  let pd := getTrPd cf pd up.trId
  let setBursts (tr : TimeRange) : TimeRange :=
    { tr with
      downBurst := if down.burst ≠ 0 then down.burst else tr.downBurst
      upBurst := if up.burst ≠ 0 then up.burst else tr.upBurst }
  ({ s with
      maxDown := if down.speed ≠ 0 then down.speed else s.maxDown
      maxUp := if up.speed ≠ 0 then up.speed else s.maxUp },
    { pd with trList := changeTr up.trId setBursts pd.trList })

/-- The loop of `check_radius_attrs`; the last part is `r`. -/
def checkLoop (cf : Conf) : List RadAttr → Ses → ShaperPd → Bool → Ses × ShaperPd × Bool
  | [], s, pd, r => (s, pd, r)
  | a :: attrs, s, pd, r =>
    if isShaperAttr cf a then
      let (s, pd) := takeAttr cf a s pd
      checkLoop cf attrs s pd true
    else checkLoop cf attrs s pd r

/-- `check_radius_attrs`; the flag: one attribute was for the shaper. -/
def checkRadiusAttrs (s : Ses) (pd : ShaperPd) (attrs : List RadAttr) : Ses × Bool :=
  let pd : ShaperPd :=
    { trList := pd.trList.map fun tr => { tr with act := false }, curTr := .none }
  let s := { s with maxDown := cf.dfltDown, maxUp := cf.dfltUp }
  let (s, pd, r) := checkLoop cf attrs s pd false
  if r then
    let pd :=
      match pd.curTr with
      | some _ => pd
      | .none => { getTrPd cf pd 0 with curTr := some 0 }
    ({ s with pd := some { pd with trList := pd.trList.filter (·.act) } }, true)
  else ({ s with pd := some pd }, false)

/-- A CoA request, with the configuration at that time. -/
structure Request where
  conf : Conf
  attrs : List RadAttr

/-- `ev_radius_coa`: only then the policers get the rates. -/
def evRadiusCoa (s : Ses) (q : Request) : Ses :=
  match s.pd with
  | .none => s
  | some pd =>
    let (s, r) := checkRadiusAttrs q.conf s pd q.attrs
    if r then { s with policerUp := s.maxUp.toUInt32, policerDown := s.maxDown.toUInt32 }
    else s

/-- `setup_pppoe_policer_vpp`: unset rates get the defaults, both policers the rates. -/
def setupPppoePolicerVpp (dfltDown dfltUp : Int32) (s : Ses) : Ses :=
  let s :=
    { s with
      maxDown := if s.maxDown = 0 then dfltDown else s.maxDown
      maxUp := if s.maxUp = 0 then dfltUp else s.maxUp }
  { s with policerUp := s.maxUp.toUInt32, policerDown := s.maxDown.toUInt32 }

def step (s : Ses) (q : Request) : Option Ses := some (evRadiusCoa s q)

/-! ## When the policers have the rates of the session -/

/-- The rates last given to the policers are those of the session. -/
def Consistent (s : Ses) : Prop :=
  s.policerUp = s.maxUp.toUInt32 ∧ s.policerDown = s.maxDown.toUInt32
deriving Decidable

def Request.ForShaper (q : Request) : Prop := ∃ a ∈ q.attrs, isShaperAttr q.conf a = true

def SameRates (s s' : Ses) : Prop :=
  s'.maxUp = s.maxUp ∧ s'.maxDown = s.maxDown ∧ s'.policerUp = s.policerUp ∧
    s'.policerDown = s.policerDown
deriving Decidable

def Untouched (s : Ses) (q : Request) : Prop := ¬ q.ForShaper → SameRates s (evRadiusCoa s q)

/-- The request is for the shaper, or the rates are the defaults, or the shaper has no data. -/
def Harmless (s : Ses) (q : Request) : Prop :=
  q.ForShaper ∨ (s.maxUp = q.conf.dfltUp ∧ s.maxDown = q.conf.dfltDown) ∨ s.pd = .none

instance (q : Request) : Decidable q.ForShaper :=
  inferInstanceAs (Decidable (∃ a ∈ q.attrs, isShaperAttr q.conf a = true))

instance (s : Ses) (q : Request) : Decidable (Untouched s q) := inferInstanceAs (Decidable (_ → _))

theorem checkLoop_spec (attrs : List RadAttr) (s : Ses) (pd : ShaperPd) (r : Bool) :
    ((checkLoop cf attrs s pd r).2.2 = true ↔
        r = true ∨ ∃ a ∈ attrs, isShaperAttr cf a = true) ∧
      (checkLoop cf attrs s pd r).1.policerUp = s.policerUp ∧
      (checkLoop cf attrs s pd r).1.policerDown = s.policerDown := by
  induction attrs generalizing s pd r with
  | nil => simp [checkLoop]
  | cons a attrs ih => grind [checkLoop, takeAttr]

theorem checkLoop_of_not {cf : Conf} {attrs : List RadAttr}
    (h : ¬ ∃ a ∈ attrs, isShaperAttr cf a = true) (s : Ses) (pd : ShaperPd) (r : Bool) :
    checkLoop cf attrs s pd r = (s, pd, r) := by
  induction attrs with
  | nil => rfl
  | cons a attrs ih => simp_all [checkLoop]

variable {s : Ses} {q : Request}

/-- **A request for the shaper** ends with the rates of the session in the policers. -/
theorem evRadiusCoa_forShaper {pd : ShaperPd} (hpd : s.pd = some pd)
    (h : q.ForShaper) : Consistent (evRadiusCoa s q) := by
  have hr : (checkRadiusAttrs q.conf s pd q.attrs).2 = true := by
    unfold checkRadiusAttrs
    simp only
    rw [if_pos ((checkLoop_spec _ _ _ _ _).1.2 (.inr h))]
  unfold evRadiusCoa
  rw [hpd]
  simp only [hr]
  exact ⟨rfl, rfl⟩

/-- **A request that is not for the shaper** sets the rates of the session to the defaults, and
leaves the policers alone. -/
theorem evRadiusCoa_notForShaper {pd : ShaperPd} (hpd : s.pd = some pd)
    (h : ¬ q.ForShaper) :
    (evRadiusCoa s q).maxUp = q.conf.dfltUp ∧ (evRadiusCoa s q).maxDown = q.conf.dfltDown ∧
      (evRadiusCoa s q).policerUp = s.policerUp ∧
      (evRadiusCoa s q).policerDown = s.policerDown := by
  unfold evRadiusCoa checkRadiusAttrs
  rw [hpd]
  simp only [checkLoop_of_not h, Bool.false_eq_true, if_false]
  exact ⟨trivial, trivial, trivial, trivial⟩

theorem evRadiusCoa_none (hpd : s.pd = .none) : evRadiusCoa s q = s := by
  unfold evRadiusCoa
  rw [hpd]

theorem toUInt32_inj {a b : Int32} (h : a.toUInt32 = b.toUInt32) : a = b := by
  cases b
  cases h
  rfl

theorem evRadiusCoa_consistent (hs : Consistent s) :
    Consistent (evRadiusCoa s q) ↔ Harmless s q := by
  cases hpd : s.pd with
  | none =>
    rw [evRadiusCoa_none hpd]
    exact iff_of_true hs (.inr (.inr hpd))
  | some pd =>
    by_cases hq : q.ForShaper
    · exact iff_of_true (evRadiusCoa_forShaper hpd hq) (.inl hq)
    · obtain ⟨hu, hd, hpu, hpdn⟩ := evRadiusCoa_notForShaper hpd hq
      unfold Consistent
      rw [hu, hd, hpu, hpdn, hs.1, hs.2]
      constructor
      · rintro ⟨h1, h2⟩
        exact .inr (.inl ⟨toUInt32_inj h1, toUInt32_inj h2⟩)
      · rintro (h | ⟨h1, h2⟩ | h)
        · exact absurd h hq
        · rw [h1, h2]
          exact ⟨rfl, rfl⟩
        · cases hpd.symm.trans h

theorem Harmless.untouched (h : Harmless s q) : Untouched s q := by
  intro hq
  rcases h with h | ⟨h1, h2⟩ | h
  · exact absurd h hq
  · cases hpd : s.pd with
    | none =>
      rw [evRadiusCoa_none hpd]
      exact ⟨rfl, rfl, rfl, rfl⟩
    | some pd =>
      obtain ⟨hu, hd, hpu, hpdn⟩ := evRadiusCoa_notForShaper hpd hq
      exact ⟨hu.trans h1.symm, hd.trans h2.symm, hpu, hpdn⟩
  · rw [evRadiusCoa_none h]
    exact ⟨rfl, rfl, rfl, rfl⟩

theorem setupPppoePolicerVpp_consistent (dfltDown dfltUp : Int32) (s : Ses) :
    Consistent (setupPppoePolicerVpp dfltDown dfltUp s) := ⟨rfl, rfl⟩

theorem run_step (s : Ses) (qs : List Request) : ∃ t, run step s qs = some t := by
  induction qs generalizing s with
  | nil => exact ⟨s, rfl⟩
  | cons q qs ih => exact ih (evRadiusCoa s q)

/-- **The bandwidth of a session under CoA**: after each request the policers have the session's
rates, and those not for the shaper change nothing, exactly if each request is harmless. -/
theorem coa_consistent_iff (dfltDown dfltUp : Int32) (s : Ses) (qs : List Request) :
    (Throughout step Consistent (setupPppoePolicerVpp dfltDown dfltUp s) qs ∧
      Guarded step Untouched (setupPppoePolicerVpp dfltDown dfltUp s) qs) ↔
    Guarded step Harmless (setupPppoePolicerVpp dfltDown dfltUp s) qs := by
  obtain ⟨t, ht⟩ := run_step (setupPppoePolicerVpp dfltDown dfltUp s) qs
  have hiff : Throughout step Consistent (setupPppoePolicerVpp dfltDown dfltUp s) qs ↔
      Guarded step Harmless (setupPppoePolicerVpp dfltDown dfltUp s) qs := by
    refine throughout_iff_guarded (fun s q s' hs h => ?_)
      (setupPppoePolicerVpp_consistent dfltDown dfltUp s) ht
    cases h
    exact evRadiusCoa_consistent hs
  rw [hiff]
  exact ⟨And.left, fun h => ⟨h, h.mono fun _ _ => Harmless.untouched⟩⟩

def shaped : Ses where
  maxUp := 2000
  maxDown := 10000
  pd := some ⟨[], .none⟩
  policerUp := 0
  policerDown := 0

def timeoutRequest : Request where
  conf :=
    { vendor := 0, attrDown := 11, attrUp := 11, dfltDown := 5000, dfltUp := 5000,
      rate := fun _ n => Int32.ofInt n, timeRangeId := 0 }
  attrs :=
    [{ vendor := .none, attr := ⟨"Session-Timeout", 27, .integer, false, 4⟩, len := 4,
       raw := [0, 0, 14, 16], val := .integer 3600 }]

/-- It leaves the session with the default rates and the policers with those from before. -/
theorem timeout_resets_rates :
    ¬ timeoutRequest.ForShaper ∧
      ¬ Consistent (evRadiusCoa (setupPppoePolicerVpp 5000 5000 shaped) timeoutRequest) ∧
      ¬ Untouched (setupPppoePolicerVpp 5000 5000 shaped) timeoutRequest := by
  decide +kernel

end Shaper
