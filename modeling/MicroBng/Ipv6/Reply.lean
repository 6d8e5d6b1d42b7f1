import Mathlib.Data.List.TakeWhile
import MicroBng.Ipv6.Packet

/-!
# DHCPv6 replies

* `reply_iff`: exactly when a reply of `ipv6/dhcpv6_packet.c` can be unwrapped and parsed again
-/

namespace Dhcpv6

open Bytes Outline

/-! ## Options that are added in order -/

variable (up : List Nat) (n : Nat)

/-- An option is nested only where nothing but options in it was added behind it. -/
def Call.InOrder (r : Reply) : Call → Prop
  | .option _ _ => True
  | .nested p _ data => r.Room data.length →
      ∀ j < r.entries.length, p < j → p ∈ parentsAt r.entries j

instance (r : Reply) (c : Call) : Decidable (c.InOrder r) := by
  unfold Call.InOrder
  split <;> infer_instance

def Reply.InOrder (r : Reply) : List Call → Prop
  | [] => True
  | c :: cs => c.InOrder r ∧ (r.call c).InOrder cs

instance Reply.decidableInOrder : (r : Reply) → (cs : List Call) → Decidable (r.InOrder cs)
  | _, [] => inferInstanceAs (Decidable True)
  | r, c :: cs => @instDecidableAnd _ _ inferInstance (Reply.decidableInOrder (r.call c) cs)

/-- The options of a reply are written as their outline: in its order, nested as they were added,
with the nested lengths. -/
structure Neat (r : Reply) : Prop where
  order : r.order = List.range r.entries.length
  path : ∀ j, ∀ p ∈ (parentsAt r.entries j).head?,
    p < j ∧ parentsAt r.entries j = p :: parentsAt r.entries p
  between : ∀ k, ∀ a ∈ parentsAt r.entries k, ∀ j, a < j → j < k → a ∈ parentsAt r.entries j
  len : ∀ i e, r.entries[i]? = some e → e.len = e.data.length +
    size (inside Node.depth e.parents.length ((r.entries.map Entry.node).drop (i + 1)))
  forest : Forest Node.depth 0 (r.entries.map Entry.node)
  room : r.data.length ≤ bufSize

/-- An option and its parents, up to where the next option goes. -/
structure Spine (es : List Entry) (up : List Nat) : Prop where
  path : ∀ p ∈ up.head?, p < es.length ∧ up = p :: parentsAt es p
  within : ∀ a ∈ up, ∀ j < es.length, a < j → a ∈ parentsAt es j

@[simp] theorem parentsAt_snoc (es : List Entry) (e : Entry) (i : Nat) :
    parentsAt (es ++ [e]) i = if i = es.length then e.parents else parentsAt es i := by
  unfold parentsAt
  rcases Nat.lt_trichotomy i es.length with h | h | h
  · rw [List.getElem?_append_left h, if_neg (by omega)]
  · rw [h, List.getElem?_concat_length, if_pos rfl]
    rfl
  · rw [List.getElem?_eq_none (by simp; omega), List.getElem?_eq_none (by omega), if_neg (by omega)]

variable {es : List Entry} {bs m : List UInt8} {r : Reply}

theorem parentsAt_of_le {i : Nat} (h : es.length ≤ i) : parentsAt es i = [] := by
  rw [parentsAt, List.getElem?_eq_none h]
  rfl

theorem parentsAt_of_getElem? {i : Nat} {e : Entry} (h : es[i]? = some e) :
    parentsAt es i = e.parents := by
  rw [parentsAt, h]
  rfl

@[simp] theorem length_raise (es : List Entry) : (raise up n es).length = es.length := by
  simp [raise]

theorem getElem?_raise (es : List Entry) (i : Nat) :
    (raise up n es)[i]? =
      es[i]?.map fun e => if i ∈ up then { e with len := (e.len + n) % 65536 } else e := by
  simp [raise]

@[simp] theorem parentsAt_raise (es : List Entry) (i : Nat) :
    parentsAt (raise up n es) i = parentsAt es i := by
  rw [parentsAt, parentsAt, getElem?_raise]
  cases es[i]? with
  | none => rfl
  | some e =>
    by_cases h : i ∈ up
    · simp [h]
    · simp [h]

@[simp] theorem map_node_raise (es : List Entry) :
    (raise up n es).map Entry.node = es.map Entry.node := by
  apply List.ext_getElem?
  intro i
  rw [List.getElem?_map, List.getElem?_map, getElem?_raise]
  cases es[i]? with
  | none => rfl
  | some e =>
    by_cases h : i ∈ up
    · simp [h, Entry.node]
    · simp [h]

@[simp] theorem raise_nil (es : List Entry) : raise [] n es = es := by
  apply List.ext_getElem?
  simp [getElem?_raise]

theorem length_flatMap_bytes (es : List Entry) :
    (es.flatMap Entry.bytes).length = size (es.map Entry.node) := by
  induction es with
  | nil => rfl
  | cons e es ih =>
    simp only [List.flatMap_cons, List.length_append, Entry.bytes, length_header, ih, List.map_cons,
      size, Entry.node]

theorem flatMap_bytes_eq_encode (h : ∀ i e, es[i]? = some e → e.len = e.data.length +
      size (inside Node.depth e.parents.length ((es.map Entry.node).drop (i + 1)))) :
    es.flatMap Entry.bytes = encode (es.map Entry.node) := by
  induction es with
  | nil => rfl
  | cons e es ih =>
    have hhead := h 0 e rfl
    have htail := ih fun i e' he' => h (i + 1) e' he'
    rw [List.flatMap_cons, htail, Entry.bytes, hhead]
    rfl

theorem size_inside_le (d : Nat) (ns : List Node) : size (inside Node.depth d ns) ≤ size ns := by
  have h : size ns = size (inside Node.depth d ns ++ ns.dropWhile fun n => d < n.depth) :=
    congrArg size List.takeWhile_append_dropWhile.symm
  rw [h, size_append]
  omega

theorem size_drop_le (ns : List Node) (i : Nat) : size (ns.drop i) ≤ size ns := by
  have h : size ns = size (ns.take i ++ ns.drop i) := congrArg size (List.take_append_drop i ns).symm
  rw [h, size_append]
  omega

namespace Neat

variable {r : Reply}

variable {j a p i code : Nat} {up : List Nat} {data : List UInt8}

variable (h : Neat r)
include h

theorem suffix (ha : a ∈ parentsAt r.entries j) :
    a < j ∧ (a :: parentsAt r.entries a) <:+ parentsAt r.entries j := by
  induction j using Nat.strongRecOn with
  | ind j ih =>
    cases hp : parentsAt r.entries j with
    | nil =>
      rw [hp] at ha
      cases ha
    | cons p ps =>
      obtain ⟨hlt, hpath⟩ := h.path j p (by rw [hp]; rfl)
      grind

theorem depth_lt (ha : a ∈ parentsAt r.entries j) :
    (parentsAt r.entries a).length < (parentsAt r.entries j).length := by
  have := (h.suffix ha).2.length_le
  rwa [List.length_cons] at this

theorem exists_parent {d : Nat} (hd : d < (parentsAt r.entries j).length) :
    ∃ a ∈ parentsAt r.entries j, (parentsAt r.entries a).length = d := by
  induction j using Nat.strongRecOn with
  | ind j ih =>
    cases hp : parentsAt r.entries j with
    | nil =>
      rw [hp] at hd
      cases hd
    | cons p ps =>
      obtain ⟨hlt, hpath⟩ := h.path j p (by rw [hp]; rfl)
      grind

theorem spine (hp : p < r.entries.length)
    (hin : ∀ j < r.entries.length, p < j → p ∈ parentsAt r.entries j) :
    Spine r.entries (p :: parentsAt r.entries p) where
  path := by simp_all
  within := by grind [h.between, h.suffix]

theorem mem_spine_iff (hup : Spine r.entries up) (hi : i < r.entries.length) :
    i ∈ up ↔ (∀ j < r.entries.length, i < j →
        (parentsAt r.entries i).length < (parentsAt r.entries j).length) ∧
      (parentsAt r.entries i).length < up.length := by
  cases up with
  | nil => simp
  | cons p ps =>
    obtain ⟨hp, hpath⟩ := hup.path p rfl
    constructor
    · intro hmem
      refine ⟨fun j hj hlt => h.depth_lt (hup.within i hmem j hj hlt), ?_⟩
      rw [hpath] at hmem ⊢
      rw [List.length_cons]
      rcases List.mem_cons.1 hmem with rfl | hmem
      · omega
      · have := h.depth_lt hmem
        omega
    · rintro ⟨hdeep, hlen⟩
      have hwithin := hup.within p (by simp)
      rw [hpath, List.length_cons] at hlen
      rcases Nat.lt_trichotomy i p with hlt | rfl | hgt
      · -- the parent of `p` at the depth of `i` can only be `i`
        obtain ⟨a, ha, hda⟩ := h.exists_parent (hdeep p hp hlt)
        grind [h.suffix, h.between]
      · exact List.mem_cons_self
      · have := h.depth_lt (hwithin i hi hgt)
        omega

omit h in
theorem lt_of_mem_parentsAt {es : List Entry} (h : a ∈ parentsAt es j) : j < es.length := by
  by_contra hge
  rw [parentsAt_of_le (by omega)] at h
  cases h

theorem inside_add (hup : Spine r.entries up) (code : Nat)
    (data : List UInt8) {e : Entry} (he : r.entries[i]? = some e) :
    size (inside Node.depth e.parents.length
        ((r.entries.map Entry.node ++ [(⟨up.length, code, data⟩ : Node)]).drop (i + 1))) =
      size (inside Node.depth e.parents.length ((r.entries.map Entry.node).drop (i + 1))) +
        if i ∈ up then 4 + data.length else 0 := by
  have hi : i < r.entries.length := (List.getElem?_eq_some_iff.1 he).1
  have hdepth : (parentsAt r.entries i).length = e.parents.length := by
    rw [parentsAt_of_getElem? he]
  have hall : (∀ n ∈ (r.entries.map Entry.node).drop (i + 1), e.parents.length < n.depth) ↔
      ∀ j < r.entries.length, i < j →
        (parentsAt r.entries i).length < (parentsAt r.entries j).length := by
    rw [hdepth]
    constructor
    · intro hd j hj hlt
      have hmem : (r.entries[j]).node ∈ (r.entries.map Entry.node).drop (i + 1) := by
        rw [List.mem_drop_iff_getElem]
        exact ⟨j - (i + 1), by simp; omega, by simp [show i + 1 + (j - (i + 1)) = j by omega]⟩
      rw [parentsAt_of_getElem? (List.getElem?_eq_getElem hj)]
      exact hd _ hmem
    · intro hd n hn
      obtain ⟨k, hk, rfl⟩ := List.mem_drop_iff_getElem.1 hn
      grind [parentsAt_of_getElem?, Entry.node]
  have hlen : i + 1 ≤ (r.entries.map Entry.node).length := by
    rw [List.length_map]
    omega
  have hcond : i ∈ up ↔ (∀ n ∈ (r.entries.map Entry.node).drop (i + 1),
      e.parents.length < n.depth) ∧ e.parents.length < up.length := by
    rw [hall, ← hdepth]
    exact h.mem_spine_iff hup hi
  rw [List.drop_append_of_le_length hlen, inside_snoc, size_append]
  by_cases hmem : i ∈ up
  · rw [if_pos hmem, if_pos (hcond.1 hmem)]
    rfl
  · rw [if_neg hmem, if_neg (mt hcond.2 hmem)]
    rfl

theorem len_le {e : Entry} (he : r.entries[i]? = some e) : 4 + e.len ≤ r.data.length := by
  have hi : i < r.entries.length := (List.getElem?_eq_some_iff.1 he).1
  have hdrop : (r.entries.map Entry.node).drop i =
      e.node :: (r.entries.map Entry.node).drop (i + 1) := by
    simp_all [List.drop_eq_getElem_cons]
  have h1 := size_drop_le (r.entries.map Entry.node) i
  have h2 := size_inside_le e.parents.length ((r.entries.map Entry.node).drop (i + 1))
  have hdata : e.node.data = e.data := rfl
  rw [hdrop, size, hdata] at h1
  rw [Reply.data, length_flatMap_bytes, h.len i e he]
  omega

omit h in
theorem length_data_add :
    ((raise up (4 + data.length) r.entries ++ [(⟨up, code, data, data.length⟩ : Entry)]).flatMap
      Entry.bytes).length = r.data.length + (4 + data.length) := by
  rw [Reply.data, length_flatMap_bytes, length_flatMap_bytes, List.map_append, map_node_raise,
    size_append]
  rfl

theorem add (hup : Spine r.entries up) (code : Nat) (hroom : r.Room data.length) :
    Neat { r with
      entries := raise up (4 + data.length) r.entries ++ [⟨up, code, data, data.length⟩]
      order := List.range (r.entries.length + 1) } where
  order := by simp
  path := by
    intro j p hp
    simp only [parentsAt_snoc, parentsAt_raise, length_raise] at hp ⊢
    by_cases hj : j = r.entries.length
    · rw [if_pos hj] at hp ⊢
      obtain ⟨hlt, hpath⟩ := hup.path p hp
      rw [if_neg (by omega)]
      exact ⟨by omega, hpath⟩
    · rw [if_neg hj] at hp ⊢
      obtain ⟨hlt, hpath⟩ := h.path j p hp
      have hjlt : j < r.entries.length := lt_of_mem_parentsAt (List.mem_of_mem_head? hp)
      rw [if_neg (by omega)]
      exact ⟨hlt, hpath⟩
  between := by
    grind [parentsAt_snoc, parentsAt_raise, length_raise, hup.within, lt_of_mem_parentsAt,
      h.between]
  len := by
    intro i e he
    rw [List.map_append, map_node_raise]
    rcases Nat.lt_or_ge i r.entries.length with hi | hi
    · rw [List.getElem?_append_left (by simpa using hi), getElem?_raise] at he
      obtain ⟨e', he', rfl⟩ := Option.map_eq_some_iff.1 he
      have hadd := h.inside_add hup code data he'
      have hlen := h.len i e' he'
      have hle := h.len_le he'
      have hbuf : r.data.length + (4 + data.length) ≤ bufSize := by
        unfold Reply.Room at hroom
        omega
      unfold bufSize at hbuf
      simp only [List.map_cons, Entry.node] at hadd ⊢
      grind
    · obtain rfl : i = r.entries.length := by grind [length_raise]
      rw [List.getElem?_append_right (by simp), length_raise, Nat.sub_self,
        List.getElem?_cons_zero, Option.some.injEq] at he
      rw [← he, List.drop_eq_nil_of_le (by simp)]
      rfl
  forest := by
    rw [List.map_append, map_node_raise]
    refine h.forest.snoc (Nat.zero_le _) ?_
    cases up with
    | nil => exact Nat.zero_le _
    | cons p ps =>
      obtain ⟨hp, hpath⟩ := hup.path p rfl
      have hne : r.entries ≠ [] := List.length_pos_iff.1 (by omega)
      have hlast : parentsAt r.entries (r.entries.length - 1) = (r.entries.getLast hne).parents :=
        parentsAt_of_getElem? (by rw [← List.getLast?_eq_getElem?, List.getLast?_eq_some_getLast hne])
      have hle : (parentsAt r.entries p).length ≤ (r.entries.getLast hne).parents.length := by
        rw [← hlast]
        by_cases heq : p = r.entries.length - 1
        · exact Nat.le_of_eq (by rw [← heq])
        · exact Nat.le_of_lt (h.depth_lt (hup.within p (by simp) _ (by omega) (by omega)))
      simp_all [List.getLast?_eq_some_getLast, Entry.node]
  room := by
    unfold Reply.Room at hroom
    rw [Reply.data, length_data_add]
    omega

omit h in
theorem insertUnder_eq {es : List Entry} {new : Nat} {is : List Nat}
    (hsorted : is.Pairwise (· < ·)) (hp : p ∈ is) (hin : ∀ j ∈ is, p < j → p ∈ parentsAt es j) :
    insertUnder es p new is = is ++ [new] := by
  induction is with
  | nil => cases hp
  | cons i is ih =>
    obtain ⟨hlt, hsorted⟩ := List.pairwise_cons.1 hsorted
    rw [insertUnder]
    by_cases hi : i = p
    · have hall : ∀ j ∈ is, decide (p ∈ parentsAt es j) = true := fun j hj =>
        decide_eq_true (hin j (by simp [hj]) (hi ▸ hlt j hj))
      rw [if_pos hi, List.takeWhile_eq_self_iff.2 hall, List.dropWhile_eq_nil_iff.2 hall,
        List.cons_append]
    simp_all [Ne.symm]

theorem optionAlloc {r' : Reply} (halloc : r.optionAlloc code data = some r') : Neat r' := by
  rw [Reply.optionAlloc] at halloc
  by_cases hroom : r.Room data.length
  · have hup : Spine r.entries [] := ⟨by simp, by simp⟩
    have hadd := h.add hup code hroom
    simp_all [List.range_succ, h.order]
  · rw [if_neg hroom] at halloc
    cases halloc

theorem nestedOptionAlloc {r' : Reply} (hin : (Call.nested p code data).InOrder r)
    (halloc : r.nestedOptionAlloc p code data = some r') : Neat r' := by
  obtain ⟨popt, hpopt, halloc⟩ := Option.bind_eq_some_iff.1 halloc
  by_cases hroom : r.Room data.length
  · have hp : p < r.entries.length := (List.getElem?_eq_some_iff.1 hpopt).1
    have hadd := h.add (h.spine hp (hin hroom)) code hroom
    have horder : insertUnder r.entries p r.entries.length r.order =
        List.range (r.entries.length + 1) := by
      rw [h.order, List.range_succ]
      exact insertUnder_eq List.pairwise_lt_range (List.mem_range.2 hp)
        fun j hj hlt => hin hroom j (List.mem_range.1 hj) hlt
    simp_all [parentsAt_of_getElem?]
  · rw [if_neg hroom] at halloc
    cases halloc

theorem call {c : Call} (hin : c.InOrder r) : Neat (r.call c) := by
  cases c with
  | option code data =>
    rw [Reply.call]
    cases halloc : r.optionAlloc code data with
    | none => exact h
    | some r' => exact h.optionAlloc halloc
  | nested p code data =>
    rw [Reply.call]
    cases halloc : r.nestedOptionAlloc p code data with
    | none => exact h
    | some r' => exact h.nestedOptionAlloc hin halloc

theorem run {calls : List Call} (hin : r.InOrder calls) : Neat (r.run calls) := by
  induction calls generalizing r with
  | nil => exact h
  | cons c cs ih => exact ih (h.call hin.1) hin.2

omit h in
theorem packetAllocReply {req : Packet} {type : Nat} {r : Reply}
    (h : packetAllocReply req type = some r) : Neat r := by
  obtain ⟨sid, -, h⟩ := Option.bind_eq_some_iff.1 h
  obtain ⟨cid, -, h⟩ := Option.bind_eq_some_iff.1 h
  obtain ⟨r₁, h₁, h⟩ := Option.bind_eq_some_iff.1 h
  have hnil : Neat ⟨req.relays, UInt8.ofNat type, req.transId, [], []⟩ := by
    refine ⟨rfl, ?_, ?_, ?_, .nil 0, Nat.zero_le _⟩
    · intro j p hp
      cases hp
    · intro k a ha
      cases ha
    · intro i e he
      cases he
  exact (hnil.optionAlloc h₁).optionAlloc h

theorem outline : r.outline = r.entries.map Entry.node := by
  rw [Reply.outline, h.order]
  have hgen : ∀ (es : List Entry) (n : Nat), n ≤ es.length →
      (List.range n).filterMap (fun i => es[i]?.map Entry.node) = (es.map Entry.node).take n := by
    intro es n
    induction n with
    | zero => exact fun _ => rfl
    | succ n ih =>
      intro hn
      rw [List.range_succ, List.filterMap_append, ih (by omega), List.take_add_one]
      simp [List.getElem?_eq_getElem (show n < es.length by omega)]
  rw [hgen r.entries _ (Nat.le_refl _), List.take_of_length_le (by simp)]

theorem data_eq : r.data = encode r.outline := by
  rw [h.outline]
  exact flatMap_bytes_eq_encode h.len

theorem size_outline : size r.outline = r.data.length := by
  rw [h.data_eq, length_encode]

end Neat

/-! ## Relay layers -/

@[simp] theorem length_layer (rel : Relay) (inner : List UInt8) :
    (layer rel inner).length = 38 + inner.length := by
  simp only [layer, List.length_append, List.length_cons, List.length_nil, length_toBe, length_toLe]

@[simp] theorem length_message (r : Reply) : r.message.length = 4 + r.data.length := by
  simp only [Reply.message, List.cons_append, List.length_cons, List.length_append, length_toLe]
  omega

theorem length_layers (relays : List Relay) (m : List UInt8) :
    (relays.foldr layer m).length = 38 * relays.length + m.length := by
  induction relays with
  | nil => simp
  | cons rel relays ih => grind [length_layer]

theorem Reads.first {d : Nat} {ns : List Node} {k : Nat} (h : Reads d bs ns k)
    (hne : bs ≠ []) (h0 : structLen (be bs 0 2) = 0) :
    4 + be bs 2 2 ≤ bs.length ∧
      ∃ rest, ns = ⟨d, be bs 0 2, (bs.drop 4).take (be bs 2 2)⟩ :: rest := by
  cases h with
  | nil => exact absurd rfl hne
  | @plain _ code k data tail rest hc hl _ _ => simp_all [be_header_code, be_header_len]
  | struct hc _ hs _ _ =>
    rw [be_header_code hc] at h0
    exact absurd h0 hs

theorem size_of_mem {n : Node} {ns : List Node} (h : n ∈ ns) : 4 + n.data.length ≤ size ns := by
  induction ns with
  | nil => cases h
  | cons m ns ih => grind [size]

theorem relayMessage_eq_some (h : relayMessage bs = some m) :
    34 ≤ bs.length ∧ ∃ options k, Reads 0 (bs.drop 34) options k ∧
      (options.find? fun n => n.depth = 0 ∧ n.code = relayMsg).map Node.data = some m := by
  rw [relayMessage] at h
  by_cases hc : bs.length < 34 ∨ bs.head? ≠ some relayRepl
  · rw [if_pos hc] at h
    cases h
  · rw [if_neg hc] at h
    obtain ⟨⟨options, k⟩, hopts, hm⟩ := Option.bind_eq_some_iff.1 h
    rw [← List.length_drop] at hopts
    exact ⟨by omega, options, k, reads_iff.1 hopts, hm⟩

theorem length_of_relayMessage (h : relayMessage bs = some m) : 38 + m.length ≤ bs.length := by
  obtain ⟨hlen, options, k, hreads, hm⟩ := relayMessage_eq_some h
  obtain ⟨n, hn, rfl⟩ := Option.map_eq_some_iff.1 hm
  have h1 := hreads.size_le
  have h2 := size_of_mem (List.mem_of_find?_eq_some hn)
  rw [List.length_drop] at h1
  omega

theorem length_of_unwrap {k : Nat} (h : unwrap k bs = some m) : 38 * k + m.length ≤ bs.length := by
  induction k generalizing bs with
  | zero =>
    rw [unwrap, Option.some.injEq] at h
    rw [h]
    omega
  | succ k ih =>
    obtain ⟨m', hm', hm⟩ := Option.bind_eq_some_iff.1 h
    have h1 := length_of_relayMessage hm'
    have h2 := ih hm
    omega

theorem ofBe_toLe_ne : ofBe (toLe 2 (4 + n)) ≠ n := by
  have hval : ofBe (toLe 2 (4 + n)) = (4 + n) % 256 * 256 + (4 + n) / 256 % 256 := by
    simp [toLe, toBe, ofBe]
  grind

theorem length_relayMessage_layer {rel : Relay} {inner : List UInt8}
    (h : relayMessage (layer rel inner) = some m) : m.length < inner.length := by
  obtain ⟨-, options, k, hreads, hm⟩ := relayMessage_eq_some h
  have hdrop : (layer rel inner).drop 34 = toBe 2 relayMsg ++ toLe 2 (4 + inner.length) ++ inner := by
    rw [layer, List.append_assoc _ _ inner]
    exact List.drop_left' (by simp)
  rw [hdrop] at hreads
  have hcode : be (toBe 2 relayMsg ++ toLe 2 (4 + inner.length) ++ inner) 0 2 = relayMsg := by
    rw [be_append (by simp), be, List.drop_zero, List.take_left' (length_toBe 2 relayMsg)]
    exact ofBe_toBe (by decide)
  have hlen : be (toBe 2 relayMsg ++ toLe 2 (4 + inner.length) ++ inner) 2 2 =
      ofBe (toLe 2 (4 + inner.length)) := by
    simp [be]
  have hne : toBe 2 relayMsg ++ toLe 2 (4 + inner.length) ++ inner ≠ [] := by simp [toBe]
  obtain ⟨hle, rest, hopts⟩ := hreads.first hne (by rw [hcode]; rfl)
  grind [length_toBe, toLe, ofBe_toLe_ne]

theorem length_of_unwrap_layers {rel : Relay} {relays : List Relay} {m' : List UInt8}
    (h : unwrap (relays.length + 1) (layer rel (relays.foldr layer m)) = some m') :
    m'.length < m.length := by
  obtain ⟨inner, hinner, hm'⟩ := Option.bind_eq_some_iff.1 h
  have h1 := length_relayMessage_layer hinner
  have h2 := length_of_unwrap hm'
  rw [length_layers] at h1
  omega

/-! ## Replies that are right -/

theorem head?_message (r : Reply) : r.message.head? = some r.type := rfl

namespace Neat

variable {r : Reply} {turns : Nat} {junk : Nat → UInt8}

theorem relays_of_right (h : Neat r) (hr : Right turns junk r) : r.relays = [] := by
  obtain ⟨-, m, p, hm, hp, hopts⟩ := hr
  cases hrel : r.relays with
  | nil => rfl
  | cons rel relays =>
    rw [Reply.fillRelayInfo, hrel] at hm
    have h1 := length_of_unwrap_layers hm
    have h2 := (size_of_packetParse hp).1
    rw [hopts, h.size_outline] at h2
    rw [length_message] at h1
    omega

theorem right_iff (h : Neat r) :
    Right turns junk r ↔ r.relays = [] ∧ r.type ≠ relayForw ∧ size r.outline ≤ 4092 ∧
      Shaped r.outline := by
  have hbuf : size r.outline ≤ 4092 ↔ 4 + r.data.length ≤ bufSize := by
    rw [h.size_outline, bufSize]
    omega
  constructor
  · intro hr
    have hrel := h.relays_of_right hr
    obtain ⟨hlen, m, p, hm, hp, hopts⟩ := hr
    rw [Reply.fillRelayInfo, hrel, List.foldr_nil] at hlen hm
    obtain rfl : r.message = m := Option.some.inj hm
    rw [length_message] at hlen
    have htype : r.type ≠ relayForw := by
      intro heq
      have h2 := (size_of_packetParse hp).2 (by rw [head?_message, heq])
      rw [hopts, h.size_outline, length_message] at h2
      omega
    refine ⟨hrel, htype, hbuf.2 hlen, ?_⟩
    have hmsg : 4 ≤ r.message.length := by
      rw [length_message]
      omega
    have hhead : r.message.head? ≠ some relayForw := fun hh => htype (Option.some.inj hh)
    obtain ⟨k, hreads⟩ := (packetParse_message turns junk hmsg hhead r.outline).1 ⟨p, hp, hopts⟩
    exact (hreads.exact h.size_outline).2
  · rintro ⟨hrel, htype, hsize, hshape⟩
    have hlen := hbuf.1 hsize
    have hmsg : 4 ≤ r.message.length := by
      rw [length_message]
      omega
    have hhead : r.message.head? ≠ some relayForw := fun hh => htype (Option.some.inj hh)
    have hforest : Forest Node.depth 0 r.outline := by
      rw [h.outline]
      exact h.forest
    obtain ⟨k, hreads, -⟩ := reads_encode hforest hshape (by omega)
    rw [← h.data_eq] at hreads
    obtain ⟨p, hp, hopts⟩ := (packetParse_message turns junk hmsg hhead r.outline).2 ⟨k, hreads⟩
    refine ⟨?_, r.message, p, ?_, hp, hopts⟩
    · simp_all [Reply.fillRelayInfo]
    · rw [Reply.fillRelayInfo, hrel]
      rfl

end Neat

theorem header_of_optionAlloc {r' : Reply} {code : Nat} {data : List UInt8}
    (h : r.optionAlloc code data = some r') : r'.relays = r.relays ∧ r'.type = r.type := by
  grind [Reply.optionAlloc]

theorem header_of_nestedOptionAlloc {r' : Reply} {p code : Nat} {data : List UInt8}
    (h : r.nestedOptionAlloc p code data = some r') :
    r'.relays = r.relays ∧ r'.type = r.type := by
  obtain ⟨popt, -, h⟩ := Option.bind_eq_some_iff.1 h
  grind

theorem header_call (r : Reply) (c : Call) :
    (r.call c).relays = r.relays ∧ (r.call c).type = r.type := by
  cases c with
  | option code data =>
    rw [Reply.call]
    cases h : r.optionAlloc code data with
    | none => exact ⟨rfl, rfl⟩
    | some r' => exact header_of_optionAlloc h
  | nested p code data =>
    rw [Reply.call]
    cases h : r.nestedOptionAlloc p code data with
    | none => exact ⟨rfl, rfl⟩
    | some r' => exact header_of_nestedOptionAlloc h

theorem header_run (r : Reply) (calls : List Call) :
    (r.run calls).relays = r.relays ∧ (r.run calls).type = r.type := by
  induction calls generalizing r with
  | nil => exact ⟨rfl, rfl⟩
  | cons c cs ih =>
    obtain ⟨hrel, htype⟩ := ih (r.call c)
    obtain ⟨hrel', htype'⟩ := header_call r c
    exact ⟨hrel.trans hrel', htype.trans htype'⟩

theorem header_packetAllocReply {req : Packet} {type : Nat}
    (h : packetAllocReply req type = some r) :
    r.relays = req.relays ∧ r.type = UInt8.ofNat type := by
  obtain ⟨sid, -, h⟩ := Option.bind_eq_some_iff.1 h
  obtain ⟨cid, -, h⟩ := Option.bind_eq_some_iff.1 h
  obtain ⟨r₁, h₁, h⟩ := Option.bind_eq_some_iff.1 h
  obtain ⟨hrel₁, htype₁⟩ := header_of_optionAlloc h₁
  grind [header_of_optionAlloc]

/-- Of the replies with options added in order those are right that came through no relay and whose
options fit the buffer, behind the header, and have the shape the parser takes them to have. -/
theorem reply_iff (turns : Nat) (junk : Nat → UInt8) {req : Packet} {type : Nat} {r : Reply}
    {calls : List Call} (h : packetAllocReply req type = some r) (hin : r.InOrder calls) :
    Right turns junk (r.run calls) ↔
      req.relays = [] ∧ UInt8.ofNat type ≠ relayForw ∧ size (r.run calls).outline ≤ 4092 ∧
        Shaped (r.run calls).outline := by
  obtain ⟨hrel, htype⟩ := header_packetAllocReply h
  obtain ⟨hrel', htype'⟩ := header_run r calls
  rw [((Neat.packetAllocReply h).run hin).right_iff, hrel', hrel, htype', htype]

def sampleRequest : List UInt8 := [3, 0, 0, 7, 0, 1, 0, 2, 10, 11, 0, 2, 0, 2, 20, 21]

def sampleReply (relays : List Relay) : Reply :=
  ⟨relays, 7, 458752, [⟨[], 2, [20, 21], 2⟩, ⟨[], 1, [10, 11], 2⟩], [0, 1]⟩

def sampleCalls : List Call :=
  [.option 3 (List.replicate 12 1), .nested 2 5 (List.replicate 24 2), .nested 3 13 [0, 0],
    .option 23 (List.replicate 16 3)]

theorem reply_iff_sample :
    ∃ req, packetParse 1 (fun _ => 0) sampleRequest = some req ∧
      packetAllocReply req 7 = some (sampleReply []) ∧ (sampleReply []).InOrder sampleCalls ∧
      Right 1 (fun _ => 0) ((sampleReply []).run sampleCalls) := by
  have hreq : packetParse 1 (fun _ => 0) sampleRequest =
      some ⟨[], 3, 458752, [⟨0, 1, [10, 11]⟩, ⟨0, 2, [20, 21]⟩], some [10, 11], some [20, 21],
        false⟩ := by
    decide +kernel
  have halloc : packetAllocReply
      ⟨[], 3, 458752, [⟨0, 1, [10, 11]⟩, ⟨0, 2, [20, 21]⟩], some [10, 11], some [20, 21], false⟩ 7 =
        some (sampleReply []) := by
    decide +kernel
  have hin : (sampleReply []).InOrder sampleCalls := by decide +kernel
  exact ⟨_, hreq, halloc, hin, (reply_iff 1 (fun _ => 0) halloc hin).2 (by decide +kernel)⟩

/-- The same Request through a relay: its reply cannot be unwrapped. -/
theorem relayed_reply_lost :
    ∃ req rel, packetParse 4 (fun _ => 0)
        ([12, 0] ++ List.replicate 32 1 ++ [0, 9, 0, 16] ++ sampleRequest ++ [0, 18, 0, 0]) =
          some req ∧
      packetAllocReply req 7 = some (sampleReply [rel]) ∧
      unwrap 1 (sampleReply [rel]).fillRelayInfo = none ∧
      ¬ Right 1 (fun _ => 0) ((sampleReply [rel]).run []) := by
  let addr : Nat := ofBe (List.replicate 16 1)
  have hlost : unwrap 1 (sampleReply [⟨0, addr, addr⟩]).fillRelayInfo = none := by decide +kernel
  refine ⟨⟨[⟨0, addr, addr⟩], 3, 458752, [⟨0, 1, [10, 11]⟩, ⟨0, 2, [20, 21]⟩, ⟨0, 18, []⟩],
    some [10, 11], some [20, 21], false⟩, ⟨0, addr, addr⟩, by decide +kernel, by decide +kernel,
    hlost, ?_⟩
  rintro ⟨-, m, p, hm, -⟩
  have hsome : unwrap 1 (sampleReply [⟨0, addr, addr⟩]).fillRelayInfo = some m := hm
  rw [hlost] at hsome
  cases hsome

end Dhcpv6
