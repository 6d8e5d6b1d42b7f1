import Mathlib.Algebra.GroupWithZero.Nat
import Mathlib.Data.List.Basic

/-!
# Record by record decoding

A decoder of one record looks at the front of the input and either fails or says how long the
record is and which value it stands for; a record without a value is skipped. `decode` applies
it until the input is used up, as a loop over a receive buffer does.

Principal results: `Parses`, `Breaks`, `decode_eq_ok`, `decode_eq_error`, `parses_flatMap`,
`decode_append`, `decode_append_eq`.
-/

namespace Records

variable {α β ε : Type*}

/-- A decoded record: how many bytes it takes and its value, if it is not skipped. -/
structure Item (β : Type*) where
  size : Nat
  value : Option β

def decodeFrom (one : List α → Except ε (Item β)) : Nat → List α → Except ε (List β)
  | 0, _ => .ok []
  | _ + 1, [] => .ok []
  | fuel + 1, a :: bs =>
    match one (a :: bs) with
    | .error e => .error e
    | .ok it => (decodeFrom one fuel ((a :: bs).drop it.size)).map (it.value.toList ++ ·)

def decode (one : List α → Except ε (Item β)) (bs : List α) : Except ε (List β) :=
  decodeFrom one bs.length bs

/-- A record is not empty, lies inside the input, and is read without looking past it. -/
structure Lawful (one : List α → Except ε (Item β)) : Prop where
  pos : ∀ {bs it}, one bs = .ok it → 0 < it.size
  le : ∀ {bs it}, one bs = .ok it → it.size ≤ bs.length
  append : ∀ {bs it}, one bs = .ok it → ∀ t, one (bs ++ t) = .ok it

/-- The input is a sequence of complete records with these values. -/
inductive Parses (one : List α → Except ε (Item β)) : List α → List β → Prop
  | nil : Parses one [] []
  | cons {bs : List α} {it : Item β} {vs : List β} : bs ≠ [] → one bs = .ok it →
      Parses one (bs.drop it.size) vs → Parses one bs (it.value.toList ++ vs)

/-- After some complete records comes one that fails with `e`. -/
inductive Breaks (one : List α → Except ε (Item β)) (e : ε) : List α → Prop
  | here {bs : List α} : bs ≠ [] → one bs = .error e → Breaks one e bs
  | later {bs : List α} {it : Item β} : bs ≠ [] → one bs = .ok it →
      Breaks one e (bs.drop it.size) → Breaks one e bs

variable {one : List α → Except ε (Item β)} (hl : Lawful one)

include hl

variable {bs : List α} {vs : List β} {e : ε}

theorem Lawful.drop_length_lt {it : Item β} (h : one bs = .ok it) :
    (bs.drop it.size).length < bs.length := by
  have h1 := hl.pos h
  have h2 := hl.le h
  rw [List.length_drop]
  omega

theorem decodeFrom_eq (fuel : Nat) (bs : List α) (h : bs.length ≤ fuel) :
    decodeFrom one fuel bs = decode one bs := by
  suffices ∀ m n (bs : List α), bs.length ≤ m → bs.length ≤ n →
      decodeFrom one m bs = decodeFrom one n bs from this fuel bs.length bs h (Nat.le_refl _)
  intro m
  induction m with
  | zero =>
    intro n bs hm _
    obtain rfl := List.length_eq_zero_iff.1 (Nat.le_zero.1 hm)
    cases n <;> rfl
  | succ m ih =>
    intro n bs hm hn
    cases bs with
    | nil => cases n <;> rfl
    | cons a bs =>
      obtain ⟨n, rfl⟩ : ∃ k, n = k + 1 := Nat.exists_eq_add_one_of_ne_zero (by
        rw [List.length_cons] at hn; omega)
      unfold decodeFrom
      cases ho : one (a :: bs) with
      | error e => rfl
      | ok it =>
        have hlt := hl.drop_length_lt ho
        grind

theorem decode_of_ok {it : Item β} (hne : bs ≠ []) (h : one bs = .ok it) :
    decode one bs = (decode one (bs.drop it.size)).map (it.value.toList ++ ·) := by
  cases bs with
  | nil => exact absurd rfl hne
  | cons a bs =>
    have hlt := hl.drop_length_lt h
    grind [decode, decodeFrom, decodeFrom_eq]

omit hl in
theorem parses_flatMap {γ : Type*} {enc : γ → List α} {val : γ → β} {vs : List γ}
    (h : ∀ v ∈ vs, enc v ≠ [] ∧
      ∀ t, one (enc v ++ t) = .ok ⟨(enc v).length, some (val v)⟩) :
    Parses one (vs.flatMap enc) (vs.map val) := by
  induction vs with
  | nil => exact .nil
  | cons v vs ih =>
    obtain ⟨hne, hone⟩ := h v List.mem_cons_self
    have hrest := ih fun w hw => h w (List.mem_cons_of_mem v hw)
    refine .cons (fun he => hne (List.append_eq_nil_iff.1 he).1) (hone _) ?_
    rwa [List.drop_left]

omit hl in
theorem decode_of_error (hne : bs ≠ []) (h : one bs = .error e) : decode one bs = .error e := by
  cases bs with
  | nil => exact absurd rfl hne
  | cons a bs =>
    unfold decode
    rw [List.length_cons, decodeFrom, h]

theorem Parses.decode (h : Parses one bs vs) : Records.decode one bs = .ok vs := by
  induction h with
  | nil => rfl
  | cons hne ho _ ih => rw [decode_of_ok hl hne ho, ih]; rfl

theorem Breaks.decode (h : Breaks one e bs) : Records.decode one bs = .error e := by
  induction h with
  | here hne ho => exact decode_of_error hne ho
  | later hne ho _ ih => rw [decode_of_ok hl hne ho, ih]; rfl

theorem parses_or_breaks (bs : List α) : (∃ vs, Parses one bs vs) ∨ ∃ e, Breaks one e bs := by
  generalize hn : bs.length = n
  induction n using Nat.strongRecOn generalizing bs with
  | ind n ih =>
    by_cases hne : bs = []
    · exact .inl ⟨[], hne ▸ .nil⟩
    · cases ho : one bs with
      | error e => exact .inr ⟨e, .here hne ho⟩
      | ok it =>
        rcases ih _ (hn ▸ hl.drop_length_lt ho) _ rfl with ⟨vs, h⟩ | ⟨e, h⟩
        · exact .inl ⟨_, .cons hne ho h⟩
        · exact .inr ⟨e, .later hne ho h⟩

theorem decode_eq_ok : decode one bs = .ok vs ↔ Parses one bs vs := by
  refine ⟨fun h => ?_, fun h => h.decode hl⟩
  rcases parses_or_breaks hl bs with ⟨vs', hp⟩ | ⟨e, hb⟩
  · cases (hp.decode hl).symm.trans h
    exact hp
  · cases (hb.decode hl).symm.trans h

theorem decode_eq_error : decode one bs = .error e ↔ Breaks one e bs := by
  refine ⟨fun h => ?_, fun h => h.decode hl⟩
  rcases parses_or_breaks hl bs with ⟨vs, hp⟩ | ⟨e', hb⟩
  · cases (hp.decode hl).symm.trans h
  · cases (hb.decode hl).symm.trans h
    exact hb

theorem decode_append {p : List α} (h : Parses one p vs) (t : List α) :
    decode one (p ++ t) = (decode one t).map (vs ++ ·) := by
  induction h with
  | nil =>
    rw [List.nil_append]
    cases decode one t <;> rfl
  | @cons bs it vs hne ho _ ih =>
    rw [decode_of_ok hl (fun h => hne (List.append_eq_nil_iff.1 h).1) (hl.append ho t),
      List.drop_append_of_le_length (hl.le ho), ih]
    cases decode one t with
    | error e => rfl
    | ok ws =>
      show Except.ok (it.value.toList ++ (vs ++ ws)) = Except.ok (it.value.toList ++ vs ++ ws)
      rw [List.append_assoc]

/-- **Bytes after `p` leave the result alone** exactly if there are none, `p` is complete and they
are skipped, or both fail alike. -/
theorem decode_append_eq {p t : List α} :
    decode one (p ++ t) = decode one p ↔
      t = [] ∨ ((∃ vs, Parses one p vs) ∧ Parses one t []) ∨
        ∃ e, Breaks one e p ∧ Breaks one e (p ++ t) := by
  constructor
  · intro h
    rcases parses_or_breaks hl p with ⟨vs, hp⟩ | ⟨e, hb⟩
    · refine .inr (.inl ⟨⟨vs, hp⟩, (decode_eq_ok hl).1 ?_⟩)
      rw [decode_append hl hp, hp.decode hl] at h
      cases ht : decode one t with
      | error e => rw [ht] at h; cases h
      | ok ws =>
        rw [ht] at h
        have hnil : vs ++ ws = vs := Except.ok.inj h
        rw [List.append_right_eq_self.1 hnil]
    · exact .inr (.inr ⟨e, hb, (decode_eq_error hl).1 (h.trans (hb.decode hl))⟩)
  · rintro (rfl | ⟨⟨vs, hp⟩, ht⟩ | ⟨e, hb, hw⟩)
    · rw [List.append_nil]
    · rw [decode_append hl hp, hp.decode hl, ht.decode hl]
      exact congrArg Except.ok (List.append_nil vs)
    · rw [hb.decode hl, hw.decode hl]

end Records
