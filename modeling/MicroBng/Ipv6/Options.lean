import MicroBng.Lib.Bytes
import MicroBng.Lib.Outline

/-!
# DHCPv6 options

`parse_option` of `ipv6/dhcpv6_packet.c`, and the options it reads as an outline.

* `reads_iff`: the parser reads an outline (`Reads`)
* `reads_encode`: an outline that is written down (`encode`) is read again
-/

namespace Dhcpv6

open Bytes Outline

/-! ## Parsing -/

/-- The size of the structure `known_options` has for an option, with its header, or 0. -/
def structLen : Nat → Nat
  | 3 => 16
  | 4 => 8
  | 5 => 28
  | 25 => 16
  | 26 => 29
  | _ => 0

/-- An option with what is its own, and how deep it is nested. -/
structure Node where
  depth : Nat
  code : Nat
  data : List UInt8
  deriving DecidableEq

def size : List Node → Nat
  | [] => 0
  | n :: ns => 4 + n.data.length + size ns

@[simp] theorem size_append (ns ms : List Node) : size (ns ++ ms) = size ns + size ms := by
  induction ns with
  | nil => simp only [List.nil_append, size, Nat.zero_add]
  | cons n ns ih => simp only [List.cons_append, size, ih, Nat.add_assoc]

variable {ns ms : List Node} {code d k : Nat} {bs : List UInt8}

theorem eq_nil_of_size (h : size ns = 0) : ns = [] := by
  cases ns with
  | nil => rfl
  | cons n ns =>
    rw [size] at h
    omega

/-- `parse_option`, with the bytes up to `endptr`, and how far the pointer has moved: an option
shorter than its structure is skipped by the length of the structure. -/
def parseOption (nested : Nat → List UInt8 → Option (List Node × Nat)) (depth : Nat)
    (bs : List UInt8) : Option (List Node × Nat) :=
  if bs.length < 4 ∨ bs.length < 4 + be bs 2 2 then none
  else
    let own := bs.take (4 + be bs 2 2)
    let len := structLen (be bs 0 2)
    if len = 0 then some ([⟨depth, be bs 0 2, own.drop 4⟩], 4 + be bs 2 2)
    else
      (nested (depth + 1) (own.drop len)).map fun (ns, k) =>
        (⟨depth, be bs 0 2, (own.take len).drop 4⟩ :: ns, len + k)

/-- The loop around `parse_option`, with a turn for each byte. -/
def parseOptions : Nat → Nat → List UInt8 → Option (List Node × Nat)
  | 0, _, bs => if bs = [] then some ([], 0) else none
  | turns + 1, depth, bs =>
    if bs = [] then some ([], 0)
    else
      (parseOption (parseOptions turns) depth bs).bind fun (ns, k) =>
        (parseOptions turns depth (bs.drop k)).map fun (rest, k') => (ns ++ rest, k + k')

def header (code len : Nat) : List UInt8 := toBe 2 code ++ toBe 2 len

@[simp] theorem length_header (code len : Nat) : (header code len).length = 4 := by
  simp [header]

/-- What the loop makes of bytes at a depth: the options, and how far the pointer moves. -/
inductive Reads : Nat → List UInt8 → List Node → Nat → Prop
  | nil (d : Nat) : Reads d [] [] 0
  | plain {d code k : Nat} {data tail : List UInt8} {rest : List Node} : code < 65536 →
      data.length < 65536 → structLen code = 0 → Reads d tail rest k →
      Reads d (header code data.length ++ (data ++ tail)) (⟨d, code, data⟩ :: rest)
        (4 + data.length + k)
  | struct {d code k k' : Nat} {body tail : List UInt8} {inner rest : List Node} : code < 65536 →
      body.length < 65536 → structLen code ≠ 0 →
      Reads (d + 1) (body.drop (structLen code - 4)) inner k →
      Reads d ((body ++ tail).drop (structLen code - 4 + k)) rest k' →
      Reads d (header code body.length ++ (body ++ tail))
        (⟨d, code, body.take (structLen code - 4)⟩ :: (inner ++ rest)) (structLen code + k + k')

theorem four_lt_structLen (h : structLen code ≠ 0) : 4 < structLen code := by
  unfold structLen at h ⊢
  split at h <;> simp_all

theorem be_header_code (hc : code < 65536) (len : Nat) (bs : List UInt8) :
    be (header code len ++ bs) 0 2 = code := by
  simp_all [be, header, ofBe_toBe]

theorem be_header_len (code : Nat) {len : Nat} (hl : len < 65536) (bs : List UInt8) :
    be (header code len ++ bs) 2 2 = len := by
  simp_all [be, header, ofBe_toBe]

theorem eq_header_append (h : 4 + be bs 2 2 ≤ bs.length) :
    ∃ body tail : List UInt8, body.length = be bs 2 2 ∧ be bs 0 2 < 65536 ∧
      body.length < 65536 ∧ bs = header (be bs 0 2) body.length ++ (body ++ tail) := by
  refine ⟨(bs.drop 4).take (be bs 2 2), (bs.drop 4).drop (be bs 2 2), ?_, ?_, ?_, ?_⟩
  · simp only [List.length_take, List.length_drop]
    omega
  · have h1 := ofBe_lt (bs.take 2)
    have h2 : (bs.take 2).length = 2 := by rw [List.length_take]; omega
    rw [h2] at h1
    exact h1
  · grind [ofBe_lt, List.length_take, be]
  · have hlen : ((bs.drop 4).take (be bs 2 2)).length = be bs 2 2 := by
      simp only [List.length_take, List.length_drop]
      omega
    have hcode : toBe 2 (be bs 0 2) = bs.take 2 := by
      have h1 := toBe_ofBe (bs.take 2)
      rwa [show (bs.take 2).length = 2 by rw [List.length_take]; omega] at h1
    have hl : toBe 2 (be bs 2 2) = (bs.drop 2).take 2 := by
      have h1 := toBe_ofBe ((bs.drop 2).take 2)
      rwa [show ((bs.drop 2).take 2).length = 2 by
        simp only [List.length_take, List.length_drop]; omega] at h1
    grind [List.take_append_drop, header, List.drop_drop]

theorem parseOption_plain (nested : Nat → List UInt8 → Option (List Node × Nat)) (d : Nat)
    {data : List UInt8} (hc : code < 65536) (hl : data.length < 65536)
    (h0 : structLen code = 0) (tail : List UInt8) :
    parseOption nested d (header code data.length ++ (data ++ tail)) =
      some ([⟨d, code, data⟩], 4 + data.length) := by
  have hown : (header code data.length ++ (data ++ tail)).take (4 + data.length) =
      header code data.length ++ data := by
    rw [← List.append_assoc]
    exact List.take_left' (by simp)
  simp_all [parseOption, be_header_code, be_header_len]

theorem parseOption_struct (nested : Nat → List UInt8 → Option (List Node × Nat)) (d : Nat)
    {body : List UInt8} (hc : code < 65536) (hl : body.length < 65536)
    (h0 : structLen code ≠ 0) (tail : List UInt8) :
    parseOption nested d (header code body.length ++ (body ++ tail)) =
      (nested (d + 1) (body.drop (structLen code - 4))).map fun (ns, k) =>
        (⟨d, code, body.take (structLen code - 4)⟩ :: ns, structLen code + k) := by
  have h4 := four_lt_structLen h0
  have hlen : ¬ (4 + (body.length + tail.length) < 4 ∨
      4 + (body.length + tail.length) < 4 + body.length) := by omega
  have hown : (header code body.length ++ (body ++ tail)).take (4 + body.length) =
      header code body.length ++ body := by
    rw [← List.append_assoc]
    exact List.take_left' (by simp)
  have hdrop : (header code body.length ++ body).drop (structLen code) =
      body.drop (structLen code - 4) := by
    rw [List.drop_append, length_header, List.drop_eq_nil_of_le (by simp; omega), List.nil_append]
  have htake : ((header code body.length ++ body).take (structLen code)).drop 4 =
      body.take (structLen code - 4) := by
    simp [List.drop_take]
  simp only [parseOption, be_header_code hc, be_header_len code hl, List.length_append,
    length_header, hlen, if_false, h0, hown, hdrop, htake]

theorem reads_of_parseOptions {turns : Nat}
    (h : parseOptions turns d bs = some (ns, k)) : Reads d bs ns k := by
  induction turns generalizing d bs ns k with
  | zero =>
    by_cases hbs : bs = []
    · simp only [parseOptions, hbs, if_true, Option.some.injEq, Prod.mk.injEq] at h
      rw [hbs, ← h.1, ← h.2]
      exact .nil d
    · simp only [parseOptions, hbs] at h
      cases h
  | succ turns ih =>
    by_cases hbs : bs = []
    · simp only [parseOptions, hbs, if_true, Option.some.injEq, Prod.mk.injEq] at h
      rw [hbs, ← h.1, ← h.2]
      exact .nil d
    · simp only [parseOptions, hbs] at h
      obtain ⟨⟨ms, j⟩, hone, hrest⟩ := Option.bind_eq_some_iff.1 h
      obtain ⟨⟨rest, k'⟩, hloop, hout⟩ := Option.map_eq_some_iff.1 hrest
      obtain ⟨rfl, rfl⟩ := hout
      have hroom : 4 + be bs 2 2 ≤ bs.length := by simp_all [parseOption]
      obtain ⟨body, tail, -, hc, hl, hbytes⟩ := eq_header_append hroom
      rw [hbytes] at hone hloop ⊢
      generalize be bs 0 2 = code at hc hone hloop ⊢
      by_cases h0 : structLen code = 0
      · rw [parseOption_plain _ d hc hl h0] at hone
        obtain ⟨rfl, rfl⟩ := hone
        rw [← List.drop_drop, List.drop_left' (length_header code body.length),
          List.drop_left' rfl] at hloop
        exact .plain hc hl h0 (ih hloop)
      · have h4 := four_lt_structLen h0
        rw [parseOption_struct _ d hc hl h0] at hone
        obtain ⟨⟨inner, k⟩, hin, hout⟩ := Option.map_eq_some_iff.1 hone
        obtain ⟨rfl, rfl⟩ := hout
        rw [show structLen code + k = 4 + (structLen code - 4 + k) by omega, ← List.drop_drop] at hloop
        exact .struct hc hl h0 (ih hin) (ih hloop)

theorem Reads.complete (h : Reads d bs ns k) {turns : Nat} (hturns : bs.length ≤ turns) :
    parseOptions turns d bs = some (ns, k) := by
  induction h generalizing turns with
  | nil d => cases turns <;> rfl
  | @plain d code k data tail rest hc hl h0 _ ih =>
    simp only [List.length_append, length_header] at hturns
    obtain ⟨turns, rfl⟩ : ∃ t, turns = t + 1 := ⟨turns - 1, by omega⟩
    have hne : header code data.length ++ (data ++ tail) ≠ [] := by simp [header, toBe]
    have hdrop : (header code data.length ++ (data ++ tail)).drop (4 + data.length) = tail := by
      grind [length_header]
    have hr : parseOptions turns d tail = some (rest, k) := ih (by omega)
    simp [parseOptions, hne, parseOption_plain _ d hc hl h0,
      hdrop, hr]
  | @struct d code k k' body tail inner rest hc hl h0 _ _ ihi ihr =>
    have h4 := four_lt_structLen h0
    simp only [List.length_append, length_header] at hturns
    obtain ⟨turns, rfl⟩ : ∃ t, turns = t + 1 := ⟨turns - 1, by omega⟩
    have hne : header code body.length ++ (body ++ tail) ≠ [] := by simp [header, toBe]
    have hdrop : (header code body.length ++ (body ++ tail)).drop (structLen code + k) =
        (body ++ tail).drop (structLen code - 4 + k) := by
      rw [show structLen code + k = 4 + (structLen code - 4 + k) by omega, ← List.drop_drop,
        List.drop_left' (length_header code body.length)]
    have hi : parseOptions turns (d + 1) (body.drop (structLen code - 4)) = some (inner, k) :=
      ihi (by rw [List.length_drop]; omega)
    have hr : parseOptions turns d ((body ++ tail).drop (structLen code - 4 + k)) =
        some (rest, k') :=
      ihr (by rw [List.length_drop, List.length_append]; omega)
    simp [parseOptions, hne, parseOption_struct _ d hc hl h0, hi, hdrop, hr]

theorem reads_iff : parseOptions bs.length d bs = some (ns, k) ↔ Reads d bs ns k :=
  ⟨reads_of_parseOptions, fun h => h.complete (Nat.le_refl _)⟩

/-! ## Outlines and their bytes -/

/-- Options as they should be written: a length counts what is nested in the option. -/
def encode : List Node → List UInt8
  | [] => []
  | n :: ns =>
    header n.code (n.data.length + size (inside Node.depth n.depth ns)) ++ (n.data ++ encode ns)

/-- An option taken apart as it was added: without a structure nothing is nested in it, else its own
data are the structure, except at the end. -/
def Fits (n : Node) (later : List Node) : Prop :=
  n.code < 65536 ∧
    (structLen n.code = 0 ∧ inside Node.depth n.depth later = [] ∨
      structLen n.code = 4 + n.data.length ∨
      later = [] ∧ 4 + n.data.length ≤ structLen n.code)

instance (n : Node) (later : List Node) : Decidable (Fits n later) := inferInstanceAs
  (Decidable (_ ∧ (_ ∧ _ ∨ _ ∨ _ ∧ _)))

def Shaped : List Node → Prop
  | [] => True
  | n :: later => Fits n later ∧ Shaped later

instance decidableShaped : (ns : List Node) → Decidable (Shaped ns)
  | [] => inferInstanceAs (Decidable True)
  | _ :: later => @instDecidableAnd _ _ inferInstance (decidableShaped later)

@[simp] theorem length_encode (ns : List Node) : (encode ns).length = size ns := by
  induction ns with
  | nil => rfl
  | cons n ns ih =>
    simp only [encode, size, List.length_append, length_header]
    omega

theorem encode_append (hns : ∀ n ∈ ns, d ≤ n.depth)
    (hms : Forest Node.depth d ms) : encode (ns ++ ms) = encode ns ++ encode ms := by
  induction ns with
  | nil => rfl
  | cons n ns ih => simp_all [encode, hms.inside_append_right]

theorem encode_node {n : Node} {inner rest : List Node} (hn : n.depth = d)
    (hi : Forest Node.depth (d + 1) inner) (hr : Forest Node.depth d rest) :
    encode (n :: (inner ++ rest)) =
      header n.code (n.data ++ encode inner).length ++ (n.data ++ encode inner ++ encode rest) := by
  grind [Nat.le_of_succ_le, hi.le_depth, encode, hi.inside_append, encode_append, length_encode]

theorem Shaped.right (h : Shaped (ns ++ ms)) : Shaped ms := by
  induction ns with
  | nil => exact h
  | cons n ns ih => exact ih h.2

theorem Shaped.structLen_le (h : Shaped (ns ++ ms)) (hms : ms ≠ []) :
    ∀ n ∈ ns, structLen n.code ≤ 4 + n.data.length := by
  induction ns with
  | nil => simp
  | cons n ns ih =>
    intro m hm
    rcases List.mem_cons.1 hm with rfl | hm
    · rcases h.1.2 with ⟨h0, -⟩ | heq | ⟨hnil, -⟩
      · omega
      · omega
      · exact absurd (List.append_eq_nil_iff.1 hnil).2 hms
    · exact ih h.2 m hm

theorem Shaped.left (h : Shaped (ns ++ ms))
    (hns : ∀ n ∈ ns, d ≤ n.depth) (hms : Forest Node.depth d ms) : Shaped ns := by
  induction ns with
  | nil => trivial
  | cons n ns ih =>
    refine ⟨⟨h.1.1, ?_⟩, ih h.2 fun m hm => hns m (by simp [hm])⟩
    have hin := hms.inside_append_right (hns n (by simp)) ns
    rcases h.1.2 with ⟨h0, hnone⟩ | heq | ⟨hnil, hle⟩
    · exact .inl ⟨h0, hin ▸ hnone⟩
    · exact .inr (.inl heq)
    simp_all

theorem Shaped.append (hns : Shaped ns) (hms : Shaped ms)
    (hdepth : ∀ n ∈ ns, d ≤ n.depth) (hforest : Forest Node.depth d ms)
    (hlong : ms ≠ [] → ∀ n ∈ ns, structLen n.code ≤ 4 + n.data.length) : Shaped (ns ++ ms) := by
  induction ns with
  | nil => exact hms
  | cons n ns ih =>
    refine ⟨⟨hns.1.1, ?_⟩, ih hns.2 (fun m hm => hdepth m (by simp [hm]))
      fun hne m hm => hlong hne m (by simp [hm])⟩
    have hin := hforest.inside_append_right (hdepth n (by simp)) ns
    rcases hns.1.2 with ⟨h0, hnone⟩ | heq | ⟨hnil, hle⟩
    · exact .inl ⟨h0, hin.trans hnone⟩
    · exact .inr (.inl heq)
    · by_cases hne : ms = []
      · exact .inr (.inr ⟨by rw [hnil, hne]; rfl, hle⟩)
      grind

/-! ### What the parser accepts -/

section

variable (h : Reads d bs ns k)
include h

theorem Reads.length_le : bs.length ≤ k := by
  induction h with
  | nil d => exact Nat.le_refl 0
  | plain _ _ _ _ ih =>
    simp only [List.length_append, length_header]
    omega
  | struct _ _ h0 _ _ ihi ihr =>
    have h4 := four_lt_structLen h0
    simp only [List.length_append, length_header, List.length_drop] at ihi ihr ⊢
    omega

theorem Reads.size_le : size ns ≤ bs.length := by
  induction h with
  | nil d => exact Nat.le_refl 0
  | plain _ _ _ _ ih =>
    simp only [size, List.length_append, length_header]
    omega
  | struct _ _ h0 hi _ ihi ihr => grind [hi.length_le, size, size_append, length_header]

theorem Reads.forest : Forest Node.depth d ns := by
  induction h with
  | nil d => exact .nil d
  | @plain d code k data tail rest _ _ _ _ ih =>
    have hnil : Forest Node.depth (d + 1) [] := .nil _
    have h : Forest Node.depth d (⟨d, code, data⟩ :: ([] ++ rest)) := .node rfl hnil ih
    exact h
  | struct _ _ _ _ _ ihi ihr => exact .node rfl ihi ihr

theorem Reads.structLen_le (hsize : size ns = bs.length) (hk : k = bs.length) :
    ∀ n ∈ ns, structLen n.code ≤ 4 + n.data.length := by
  induction h with
  | nil d => simp
  | plain _ _ h0 _ ih => grind [size, length_header]
  | struct _ _ h0 hi hr ihi ihr =>
    have h4 := four_lt_structLen h0
    grind [hi.length_le, hi.size_le, hr.size_le, size, size_append, length_header]

theorem Reads.exact (hsize : size ns = bs.length) : encode ns = bs ∧ Shaped ns := by
  induction h with
  | nil d => exact ⟨rfl, trivial⟩
  | @plain d code k data tail rest hc hl h0 hr ih =>
    have hforest := hr.forest
    simp only [size, List.length_append, length_header] at hsize
    obtain ⟨henc, hshape⟩ := ih (by omega)
    have hin : inside Node.depth d rest = [] := hforest.inside_eq_nil (Nat.le_refl d)
    refine ⟨?_, ⟨hc, .inl ⟨h0, hin⟩⟩, hshape⟩
    rw [encode, henc, hin]
    rfl
  | @struct d code k k' body tail inner rest hc hl h0 hi hr ihi ihr =>
    have h4 := four_lt_structLen h0
    have hk := hi.length_le
    have hsi := hi.size_le
    have hsr := hr.size_le
    simp only [size, size_append, List.length_append, length_header, List.length_drop,
      List.length_take] at hsize hk hsi hsr
    have hsi' : size inner = (body.drop (structLen code - 4)).length := by
      rw [List.length_drop]
      omega
    -- what is skipped behind the option is its own, unless nothing follows
    have htail : (body ++ tail).drop (structLen code - 4 + k) = tail := by
      by_cases hnil : tail = []
      · rw [hnil, List.append_nil]
        exact List.drop_eq_nil_of_le (by omega)
      · have hpos := List.length_pos_iff.2 hnil
        rw [show structLen code - 4 + k = body.length by omega]
        exact List.drop_left' rfl
    rw [htail] at hr ihr
    have hsr' : size rest = tail.length := by omega
    obtain ⟨hei, hshapei⟩ := ihi hsi'
    obtain ⟨her, hshaper⟩ := ihr hsr'
    constructor
    · simp_all [encode_node, hi.forest, hr.forest]
    · refine ⟨⟨hc, .inr ?_⟩, hshapei.append hshaper
        (fun n hn => Nat.le_of_succ_le (hi.forest.le_depth n hn)) hr.forest fun hne => ?_⟩
      · grind [eq_nil_of_size]
      · have hpos : 0 < size rest := Nat.pos_of_ne_zero fun h0 => hne (eq_nil_of_size h0)
        have hkeq : k = (body.drop (structLen code - 4)).length := by omega
        exact hi.structLen_le hsi' hkeq

end

theorem reads_encode (hf : Forest Node.depth d ns) (hs : Shaped ns) (hsize : size ns < 65536) :
    ∃ k, Reads d (encode ns) ns k ∧
      ((∀ n ∈ ns, structLen n.code ≤ 4 + n.data.length) → k = size ns) := by
  induction hf with
  | nil d => exact ⟨0, .nil d, fun _ => rfl⟩
  | @node d n inner rest hn hi hr ihi ihr =>
    have hin : ∀ m ∈ inner, d ≤ m.depth := fun m hm => Nat.le_of_succ_le (hi.le_depth m hm)
    simp only [size, size_append] at hsize
    obtain ⟨k, hri, hki⟩ := ihi (hs.2.left hin hr) (by omega)
    obtain ⟨k', hrr, hkr⟩ := ihr hs.2.right (by omega)
    have hk := hri.length_le
    rw [length_encode] at hk
    rw [encode_node hn hi hr]
    have hbody : (n.data ++ encode inner).length < 65536 := by
      rw [List.length_append, length_encode]
      omega
    have hnode : n = ⟨d, n.code, n.data⟩ := by rw [← hn]
    by_cases h0 : structLen n.code = 0
    · -- without a structure nothing is nested
      have hnil : inner = [] := by grind [hs.1.2, hi.inside_append]
      subst hnil
      have hdata : n.data.length < 65536 := by omega
      have h := Reads.plain hs.1.1 hdata h0 hrr
      rw [← hnode] at h
      refine ⟨4 + n.data.length + k', ?_, fun hlong => ?_⟩
      · rw [encode, List.append_nil]
        exact h
      · rw [hkr fun m hm => hlong m (by simp [hm])]
        rfl
    · have hfits : structLen n.code = 4 + n.data.length ∨
          (inner = [] ∧ rest = []) ∧ 4 + n.data.length ≤ structLen n.code := by
        rcases hs.1.2 with ⟨h, -⟩ | h | ⟨h, hle⟩
        · exact absurd h h0
        · exact .inl h
        · exact .inr ⟨List.append_eq_nil_iff.1 h, hle⟩
      have htake : (n.data ++ encode inner).take (structLen n.code - 4) = n.data := by
        grind [encode, List.take_of_length_le]
      have hdrop : (n.data ++ encode inner).drop (structLen n.code - 4) = encode inner := by
        grind [encode]
      have hskip : (n.data ++ encode inner ++ encode rest).drop (structLen n.code - 4 + k) =
          encode rest := by
        by_cases hne : rest = []
        · subst hne
          rw [encode, List.append_nil]
          refine List.drop_eq_nil_of_le ?_
          rw [List.length_append, length_encode]
          rcases hfits with h | ⟨⟨rfl, -⟩, hle⟩
          · omega
          · omega
        grind [hs.2.structLen_le, length_encode]
      rw [← hdrop] at hri
      rw [← hskip] at hrr
      have h := Reads.struct hs.1.1 hbody h0 hri hrr
      rw [htake, ← hnode] at h
      refine ⟨structLen n.code + k + k', h, fun hlong => ?_⟩
      have hlen : structLen n.code ≤ 4 + n.data.length := hlong n (by simp)
      rw [hki fun m hm => hlong m (by simp [hm]), hkr fun m hm => hlong m (by simp [hm])]
      simp only [size, size_append]
      rcases hfits with h | ⟨-, hle⟩
      · omega
      · omega

end Dhcpv6
