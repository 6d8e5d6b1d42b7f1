import Mathlib.Algebra.Group.Nat.Defs
import MicroBng.Lib.Runs

/-!
# Framed IPv6 routes

The attribute Framed-IPv6-Route, parsed by `parse_framed_ipv6_route` of `radius/radius.c` with the
helpers of `utils.c`. A text is what stands before the NUL; `inet_pton` is given.

* `Ip6RouteText` : the documented form, with what it denotes.
* `parseFramedIpv6Route_iff` : the parser accepts exactly this form.
-/

namespace Radius

open Runs

abbrev Text := List Char

/-! ## Helpers -/

def digitOf (c : Char) : Nat :=
  if c.isDigit then c.toNat - '0'.toNat
  else if c.isLower then c.toNat - 'a'.toNat + 10
  else if c.isUpper then c.toNat - 'A'.toNat + 10
  else 36

def number (base : Nat) (t : Text) : Nat := t.foldl (fun n c => base * n + digitOf c) 0

def decimal (t : Text) : Nat := number 10 t

/-- `strtoul` of base 10 on a text of digits. -/
def strtoul (t : Text) : Nat := min (decimal t) (2 ^ 64 - 1)

def isSpace (c : Char) : Bool := c == ' '

def uParseSpaces (s : Text) : Nat := (s.takeWhile isSpace).length

def uParseEndstr (s : Text) : Nat :=
  if s.drop (uParseSpaces s) ≠ [] then 0 else uParseSpaces s + 1

/-- `u_parse_u8` and `u_parse_u32`, by the test of the number; `none` for length 0. -/
def uParseUint (tooBig : Text → Bool) (s : Text) : Option (Nat × Nat) :=
  let t := s.takeWhile Char.isDigit
  if t = [] ∨ tooBig t then none else some (t.length, strtoul t)

def uParseU8 : Text → Option (Nat × Nat) := uParseUint fun t => 255 < strtoul t

/-- `u_parse_u32`, which looks for an overflow first. -/
def uParseU32 : Text → Option (Nat × Nat) :=
  uParseUint fun t => 2 ^ 64 ≤ decimal t ∨ 2 ^ 32 - 1 < strtoul t

def isIp6Char (c : Char) : Bool := ":0123456789abcdef".toList.contains c

variable {A : Type} (pton : Text → Option A)

def uParseIp6addr (s : Text) : Option (Nat × A) :=
  let t := s.takeWhile isIp6Char
  if t.length = 0 ∨ 46 ≤ t.length then none else (pton t).map fun a => (t.length, a)

def uParseIp6cidr (s : Text) : Option (Nat × A × Nat) :=
  match uParseIp6addr pton s with
  | none => none
  | some (n, a) =>
    match s.drop n with
    | '/' :: s' =>
      match uParseU8 s' with
      | none => none
      | some (m, plen) => if 128 < plen then none else some (n + 1 + m, a, plen)
    | _ => none

/-! ## Framed-IPv6-Route -/

structure Ip6Route (A : Type) where
  net : A
  plen : Nat
  gw : A
  prio : Nat

/-- The end of the text, or spaces and a piece that `parse` reads. -/
def optionalPiece {β : Type} (default : β) (parse : Text → Option β) (s : Text) : Option β :=
  if uParseSpaces s = 0 ∧ s ≠ [] then none
  else if s.drop (uParseSpaces s) = [] then some default
  else parse (s.drop (uParseSpaces s))

/-- `parse_framed_ipv6_route` from the end of the gateway on: the metric. -/
def parseMetric : Text → Option Nat :=
  optionalPiece 0 fun s => match uParseU32 s with
    | none => none
    | some (n, prio) => if uParseEndstr (s.drop n) = 0 then none else some prio

/-- `parse_framed_ipv6_route` from the end of the network on: gateway and metric. -/
def parseGateway (any : A) : Text → Option (A × Nat) :=
  optionalPiece (any, 0) fun s => match uParseIp6addr pton s with
    | none => none
    | some (n, gw) => (parseMetric (s.drop n)).map fun prio => (gw, prio)

/-- `parse_framed_ipv6_route`; `any` is `in6addr_any`. -/
def parseFramedIpv6Route (any : A) (s : Text) : Option (Ip6Route A) :=
  let s := s.drop (uParseSpaces s)
  match uParseIp6cidr pton s with
  | none => none
  | some (n, net, plen) => (parseGateway pton any (s.drop n)).map fun r => ⟨net, plen, r.1, r.2⟩

/-! ### The documented form -/

def NumText (t : Text) (n : Nat) : Prop := t ≠ [] ∧ All Char.isDigit t ∧ decimal t = n

def AddrText (t : Text) (a : A) : Prop := All isIp6Char t ∧ pton t = some a

/-- Nothing, or spaces and a piece of the form `P`; spaces may follow. -/
def OptionalText {β : Type} (default : β) (P : Text → β → Prop) (s : Text) (v : β) : Prop :=
  All isSpace s ∧ v = default ∨
    ∃ sep rest, s = sep ++ rest ∧ sep ≠ [] ∧ All isSpace sep ∧ P rest v

def MetricText : Text → Nat → Prop :=
  OptionalText 0 fun s prio => ∃ t trail, s = t ++ trail ∧ NumText t prio ∧ prio ≤ 2 ^ 32 - 1 ∧
    All isSpace trail

def GatewayText (any : A) : Text → A × Nat → Prop :=
  OptionalText (any, 0) fun s r => ∃ t rest, s = t ++ rest ∧ AddrText pton t r.1 ∧
    MetricText rest r.2

/-- **The form of the attribute**: network, length, gateway and metric. -/
def Ip6RouteText (any : A) (s : Text) (r : Ip6Route A) : Prop :=
  ∃ lead t len rest, s = lead ++ (t ++ '/' :: (len ++ rest)) ∧ All isSpace lead ∧
    AddrText pton t r.net ∧ NumText len r.plen ∧ r.plen ≤ 128 ∧
    GatewayText pton any rest (r.gw, r.prio)

/-! ### What the helpers accept -/

variable {s t rest d via m : Text} {n v : Nat} {q : Char → Bool}

theorem uParseUint_iff {tooBig : Text → Bool} {max : Nat} (hmax : max < 2 ^ 64)
    (hbig : ∀ t, tooBig t = true ↔ max < decimal t) :
    uParseUint tooBig s = some (n, v) ↔ ∃ t rest, s = t ++ rest ∧ n = t.length ∧ NumText t v ∧
      v ≤ max ∧ Stops Char.isDigit rest := by
  unfold uParseUint
  constructor
  · intro h
    dsimp only at h
    split at h
    · cases h
    case isFalse hok =>
      simp only [hbig, not_or, Nat.not_lt] at hok
      cases h
      have hv : strtoul (s.takeWhile Char.isDigit) = decimal (s.takeWhile Char.isDigit) := by
        unfold strtoul
        omega
      exact ⟨_, _, List.takeWhile_append_dropWhile.symm, rfl, ⟨hok.1, all_takeWhile _ _, hv.symm⟩,
        hv ▸ hok.2, stops_dropWhile _ _⟩
  · rintro ⟨t, rest, rfl, rfl, ⟨hne, hall, rfl⟩, hle, hstop⟩
    have hok : ¬(t = [] ∨ tooBig t = true) := by
      rw [hbig]
      exact fun h => h.elim hne (by omega)
    rw [takeWhile_run hall hstop, if_neg hok, strtoul, Nat.min_eq_left (by omega)]

theorem uParseU8_iff : uParseU8 s = some (n, v) ↔
    ∃ t rest, s = t ++ rest ∧ n = t.length ∧ NumText t v ∧ v ≤ 255 ∧ Stops Char.isDigit rest :=
  uParseUint_iff (by decide) fun t => by rw [decide_eq_true_eq, strtoul]; omega

theorem uParseU32_iff : uParseU32 s = some (n, v) ↔
    ∃ t rest, s = t ++ rest ∧ n = t.length ∧ NumText t v ∧ v ≤ 2 ^ 32 - 1 ∧
      Stops Char.isDigit rest :=
  uParseUint_iff (by decide) fun t => by rw [decide_eq_true_eq, strtoul]; omega

theorem uParseEndstr_iff : uParseEndstr s ≠ 0 ↔ All isSpace s := by
  unfold uParseEndstr uParseSpaces
  rw [drop_length_takeWhile]
  constructor
  · intro h c hc
    have hnil : s.dropWhile isSpace = [] := by
      by_contra hne
      exact h (if_pos hne)
    exact List.dropWhile_eq_nil_iff.1 hnil c hc
  · intro h
    rw [if_neg (by simpa using List.dropWhile_eq_nil_iff.2 h)]
    simp

/-- `inet_pton` gives an address for texts that are neither empty nor longer than an address. -/
def Short (pton : Text → Option A) : Prop := ∀ t a, pton t = some a → 0 < t.length ∧ t.length < 46

variable {pton : Text → Option A}

theorem uParseIp6addr_iff (hp : Short pton) {a : A} :
    uParseIp6addr pton s = some (n, a) ↔
      ∃ t rest, s = t ++ rest ∧ n = t.length ∧ AddrText pton t a ∧ Stops isIp6Char rest := by
  unfold uParseIp6addr
  constructor
  · intro h
    dsimp only at h
    split at h
    · cases h
    · obtain ⟨a', ha, he⟩ := Option.map_eq_some_iff.1 h
      cases he
      exact ⟨_, _, List.takeWhile_append_dropWhile.symm, rfl, ⟨all_takeWhile _ _, ha⟩,
        stops_dropWhile _ _⟩
  · rintro ⟨t, rest, rfl, rfl, ⟨hall, ha⟩, hstop⟩
    have := hp t a ha
    rw [takeWhile_run hall hstop, if_neg (by omega), ha]
    rfl

theorem uParseIp6cidr_iff (hp : Short pton) {plen : Nat} {a : A} :
    uParseIp6cidr pton s = some (n, a, plen) ↔
      ∃ t len rest, s = t ++ '/' :: (len ++ rest) ∧ n = t.length + 1 + len.length ∧
        AddrText pton t a ∧ NumText len plen ∧ plen ≤ 128 ∧ Stops Char.isDigit rest := by
  unfold uParseIp6cidr
  constructor
  · intro h
    split at h
    · cases h
    case h_2 m a' ha =>
      obtain ⟨t, rest, rfl, rfl, haddr, -⟩ := (uParseIp6addr_iff hp).1 ha
      rw [List.drop_left] at h
      split at h
      case h_1 s' =>
        split at h
        · cases h
        case h_2 k v hu =>
          obtain ⟨len, rest', rfl, rfl, hnum, -, hstop⟩ := uParseU8_iff.1 hu
          split at h
          · cases h
          case isFalse hle =>
            cases h
            exact ⟨t, len, rest', rfl, rfl, haddr, hnum, by omega, hstop⟩
      · cases h
  · rintro ⟨t, len, rest, rfl, rfl, haddr, hnum, hle, hstop⟩
    have ha : uParseIp6addr pton (t ++ '/' :: (len ++ rest)) = some (t.length, a) :=
      (uParseIp6addr_iff hp).2 ⟨t, _, rfl, rfl, haddr, stops_cons.2 (by decide)⟩
    have hu : uParseU8 (len ++ rest) = some (len.length, plen) :=
      uParseU8_iff.2 ⟨len, rest, rfl, rfl, hnum, by omega, hstop⟩
    simp only [ha, List.drop_left, hu]
    rw [if_neg (by omega)]

/-! ### What the parser accepts -/

theorem isSpace_eq_false {c : Char} (h : c ≠ ' ') : isSpace c = false := by
  simpa [isSpace] using h

theorem digit_not_space (c : Char) (h : c.isDigit = true) : isSpace c = false :=
  isSpace_eq_false fun e => absurd (e ▸ h) (by decide)

theorem ip6Char_not_space (c : Char) (h : isIp6Char c = true) : isSpace c = false :=
  isSpace_eq_false fun e => absurd (e ▸ h) (by decide)

theorem space_not_digit (c : Char) (h : isSpace c = true) : c.isDigit = false := by
  rw [beq_iff_eq.1 h]
  decide

theorem space_not_ip6Char (c : Char) (h : isSpace c = true) : isIp6Char c = false := by
  rw [beq_iff_eq.1 h]
  decide

/-- **An optional piece**, of a form that neither is empty nor begins with a space. -/
theorem optionalPiece_iff {β : Type} {default : β} {parse : Text → Option β}
    {P : Text → β → Prop} (hparse : ∀ s v, parse s = some v ↔ P s v)
    (hP : ∀ s v, P s v → s ≠ [] ∧ Stops isSpace s) {v : β} :
    optionalPiece default parse s = some v ↔ OptionalText default P s v := by
  -- the text is spaces and a rest that does not begin with one
  have hsplit : s = s.takeWhile isSpace ++ s.dropWhile isSpace :=
    List.takeWhile_append_dropWhile.symm
  have hsep := all_takeWhile isSpace s
  have hrest := stops_dropWhile isSpace s
  unfold optionalPiece OptionalText uParseSpaces
  rw [drop_length_takeWhile]
  generalize s.takeWhile isSpace = sep, s.dropWhile isSpace = rest at hsplit hsep hrest
  subst hsplit
  rw [all_append_iff hsep hrest]
  constructor
  · intro h
    split at h
    · cases h
    case isFalse hs =>
    split at h
    case isTrue he => exact .inl ⟨he, (Option.some.inj h).symm⟩
    case isFalse he => exact .inr ⟨sep, rest, rfl, fun e => hs ⟨by simp [e], by simp [he]⟩, hsep,
      (hparse _ _).1 h⟩
  · rintro (⟨rfl, rfl⟩ | ⟨sep', rest', he, hne, hsep', hpiece⟩)
    · rw [if_neg (by simp), if_pos rfl]
    · obtain ⟨hne', hstop⟩ := hP _ _ hpiece
      obtain ⟨rfl, rfl⟩ := run_unique he hsep hrest hsep' hstop
      rw [if_neg (by simp [hne]), if_neg hne', (hparse _ _).2 hpiece]

theorem OptionalText.stops {β : Type} {default : β} {P : Text → β → Prop} {v : β}
    (hq : ∀ c, isSpace c = true → q c = false) (h : OptionalText default P s v) : Stops q s := by
  rcases h with ⟨h, -⟩ | ⟨sep, rest, rfl, hne, hsep, -⟩
  · exact h.stops hq
  · exact stops_of_all hq hne hsep

theorem parseMetric_iff {prio : Nat} : parseMetric s = some prio ↔ MetricText s prio := by
  refine optionalPiece_iff (fun s v => ?_) fun s v ⟨t, trail, hs, hnum, _⟩ => ?_
  · constructor
    · intro h
      split at h
      · cases h
      case h_2 n v' hu =>
      obtain ⟨t, trail, rfl, rfl, hnum, hle, -⟩ := uParseU32_iff.1 hu
      rw [List.drop_left] at h
      split at h
      · cases h
      case isFalse hend =>
      cases h
      exact ⟨t, trail, rfl, hnum, hle, uParseEndstr_iff.1 hend⟩
    · rintro ⟨t, trail, rfl, hnum, hle, htrail⟩
      have hu : uParseU32 (t ++ trail) = some (t.length, v) :=
        uParseU32_iff.2 ⟨t, trail, rfl, rfl, hnum, hle, htrail.stops space_not_digit⟩
      simp only [hu, List.drop_left]
      rw [if_neg (uParseEndstr_iff.2 htrail)]
  · rw [hs]
    exact ⟨by simp [hnum.1], stops_of_all digit_not_space hnum.1 hnum.2.1⟩

theorem parseGateway_iff (hp : Short pton) {any : A} {r : A × Nat} :
    parseGateway pton any s = some r ↔ GatewayText pton any s r := by
  refine optionalPiece_iff (fun s v => ?_) fun s v ⟨t, rest, hs, haddr, _⟩ => ?_
  · constructor
    · intro h
      split at h
      · cases h
      case h_2 n gw ha =>
      obtain ⟨t, rest, rfl, rfl, haddr, -⟩ := (uParseIp6addr_iff hp).1 ha
      rw [List.drop_left] at h
      obtain ⟨prio, hm, rfl⟩ := Option.map_eq_some_iff.1 h
      exact ⟨t, rest, rfl, haddr, parseMetric_iff.1 hm⟩
    · rintro ⟨t, rest, rfl, haddr, hm⟩
      have ha : uParseIp6addr pton (t ++ rest) = some (t.length, v.1) :=
        (uParseIp6addr_iff hp).2 ⟨t, rest, rfl, rfl, haddr, hm.stops space_not_ip6Char⟩
      simp only [ha, List.drop_left, parseMetric_iff.2 hm]
      rfl
  · have hne : t ≠ [] := List.length_pos_iff.1 (hp t _ haddr.2).1
    rw [hs]
    exact ⟨by simp [hne], stops_of_all ip6Char_not_space hne haddr.1⟩

/-- **The parser accepts just the texts of the documented form, and gives what they denote.** -/
theorem parseFramedIpv6Route_iff (pton : Text → Option A) (hp : Short pton) (any : A) (s : Text)
    (r : Ip6Route A) :
    parseFramedIpv6Route pton any s = some r ↔ Ip6RouteText pton any s r := by
  unfold parseFramedIpv6Route Ip6RouteText uParseSpaces
  dsimp only
  rw [drop_length_takeWhile]
  constructor
  · intro h
    split at h
    · cases h
    case h_2 n net plen hc =>
    obtain ⟨t, len, rest, hs, rfl, haddr, hnum, hle, -⟩ := (uParseIp6cidr_iff hp).1 hc
    obtain ⟨g, hg, rfl⟩ := Option.map_eq_some_iff.1 h
    rw [hs, show t.length + 1 + len.length = (t ++ '/' :: len).length by simp; omega,
      show t ++ '/' :: (len ++ rest) = (t ++ '/' :: len) ++ rest by simp, List.drop_left] at hg
    exact ⟨s.takeWhile isSpace, t, len, rest, by rw [← hs, List.takeWhile_append_dropWhile],
      all_takeWhile _ _, haddr, hnum, hle, (parseGateway_iff hp).1 hg⟩
  · rintro ⟨lead, t, len, rest, rfl, hlead, haddr, hnum, hle, hg⟩
    have hne : t ≠ [] := List.length_pos_iff.1 (hp t _ haddr.2).1
    rw [dropWhile_run hlead (stops_of_all ip6Char_not_space hne haddr.1),
      (uParseIp6cidr_iff hp).2 ⟨t, len, rest, rfl, rfl, haddr, hnum, hle, hg.stops space_not_digit⟩]
    simp only [show t.length + 1 + len.length = (t ++ '/' :: len).length by simp; omega,
      show t ++ '/' :: (len ++ rest) = (t ++ '/' :: len) ++ rest by simp, List.drop_left,
      (parseGateway_iff hp).2 hg]
    rfl

/-- Network, gateway and metric. -/
theorem parseFramedIpv6Route_full :
    parseFramedIpv6Route (fun t => if t = "fc00::1".toList then some 1 else none) 0
      " fc00::1/64 fc00::1 20".toList = some ⟨1, 64, 1, 20⟩ :=
  (parseFramedIpv6Route_iff _ (fun t a h => by
      split at h
      case isTrue ht => subst ht; decide
      case isFalse => cases h) 0 _ _).2
    ⟨" ".toList, "fc00::1".toList, "64".toList, " fc00::1 20".toList, rfl, by simp [All, isSpace],
      ⟨by simp [All]; decide, rfl⟩, ⟨by decide, by simp [All], rfl⟩, by decide,
      .inr ⟨[' '], "fc00::1 20".toList, rfl, by decide, by simp [All, isSpace],
        "fc00::1".toList, " 20".toList, rfl, ⟨by simp [All]; decide, rfl⟩,
        .inr ⟨[' '], "20".toList, rfl, by decide, by simp [All, isSpace],
          "20".toList, [], rfl, ⟨by decide, by simp [All], rfl⟩, by decide, by simp [All]⟩⟩⟩

end Radius
