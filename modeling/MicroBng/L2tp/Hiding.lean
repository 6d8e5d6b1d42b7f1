import MicroBng.L2tp.Wire

/-!
# Hidden L2TP attributes

`encode_attr` and `decode_avp` of `ctrl/l2tp/packet.c`. A value is hidden forward, block after block,
and is deciphered in place from the last block backward, as far as its length says.

* `decodeAvp_eq`: the value is deciphered as it would be from the first block on
* `deciphered_iff`: exactly when both sides have the same key for that block
* `decodeAvp_encodeAttr`: a hidden value is deciphered as it was
-/

namespace L2tp.Wire

open Bytes Chaining

/-! ## Words -/

/-- How many bytes `memxor` combines at once, with so many left. -/
def wordSize (left : Nat) : Nat :=
  if 8 ≤ left then 8 else if 4 ≤ left then 4 else if 2 ≤ left then 2 else 1

def xorWord (dst src : List UInt8) : List UInt8 := toLe dst.length (ofLe dst ^^^ ofLe src)

/-- `memxor` on all of `dst`, with at most so many words. -/
def memxorWords : Nat → List UInt8 → List UInt8 → List UInt8
  | 0, _, _ => []
  | n + 1, dst, src =>
    if dst = [] then []
    else
      let w := wordSize dst.length
      xorWord (dst.take w) (src.take w) ++ memxorWords n (dst.drop w) (src.drop w)

theorem xorWord_eq {dst src : List UInt8} (h : dst.length = src.length) :
    xorWord dst src = memxor dst src := by
  have hlen : (memxor dst src).reverse.length = dst.length := by
    rw [List.length_reverse, length_memxor, h, Nat.min_self]
  grind [memxor, ofLe, ofBe_zipWith_xor, toBe_ofBe, xorWord, toLe]

/-- **Word by word** `memxor` is the exclusive or of the bytes. -/
theorem memxorWords_eq {n : Nat} {dst src : List UInt8} (hn : dst.length ≤ n)
    (h : dst.length ≤ src.length) : memxorWords n dst src = memxor dst src := by
  induction n generalizing dst src with
  | zero =>
    obtain rfl := List.length_eq_zero_iff.1 (Nat.le_zero.1 hn)
    rfl
  | succ n ih =>
    by_cases hnil : dst = []
    · subst hnil
      rfl
    · have hpos := List.length_pos_iff.2 hnil
      have hw : 0 < wordSize dst.length ∧ wordSize dst.length ≤ dst.length := by
        unfold wordSize
        split_ifs <;> omega
      grind [memxorWords, xorWord_eq, memxor, List.take_append_drop]

theorem memxorWords_eq_seven : memxorWords 7 [1, 2, 3, 4, 5, 6, 7] [7, 6, 5, 4, 3, 2, 1, 0] =
    [6, 4, 6, 0, 6, 4, 6] :=
  memxorWords_eq (by decide) (by decide)

/-! ## Values that are hidden and deciphered -/

/-- **In place, from the last block on**, the value is deciphered as it would be from the first. -/
theorem decodeAvp_eq (s : Side) (rv : List UInt8) (id : Nat) (val : List UInt8) :
    decodeAvp s rv id val =
      if val.length < 2 then none
      else
        let key := firstKey s.md5 id s.secret rv
        if val.length ≤ 16 then some (memxor val key)
        else
          let first := memxor key (val.take 16)
          let origLen := be first 0 2
          if origLen ≤ 14 then some (first ++ val.drop 16)
          else if val.length - 2 < origLen then none
          else
            let left := origLen - 14
            some (first ++
              unhide 16 (nextKey s.md5 s.secret) left (nextKey s.md5 s.secret (val.take 16))
                ((val.drop 16).take left) ++ (val.drop 16).drop left) := by
  unfold decodeAvp
  dsimp only
  split
  · rfl
  split
  · rfl
  split
  · rfl
  split
  · rfl
  · generalize be (memxor (firstKey s.md5 id s.secret rv) (val.take 16)) 0 2 = n at *
    have hleft : 16 * ((n - 14) / 16) + (n - 14) % 16 = n - 14 := Nat.div_add_mod _ _
    have hlast : (n - 14) % 16 ≤ 16 := by omega
    have hroom : 16 * ((n - 14) / 16 + 1) + (n - 14) % 16 ≤ val.length := by omega
    rw [drop_unhideBack (by decide) hlast hroom (Nat.le_of_eq hleft), hleft, List.append_assoc]

theorem length_subformat (val pad : List UInt8) :
    (subformat val pad).length = 2 + val.length % 65536 + pad.length := by
  grind [subformat, length_toBe]

theorem take_subformat {val : List UInt8} (h : val.length < 65536) (pad : List UInt8) :
    (subformat val pad).take (2 + val.length) = toBe 2 val.length ++ val := by
  rw [subformat, Nat.mod_eq_of_lt h, List.take_of_length_le (Nat.le_refl _)]
  exact List.take_left' (by simp)

theorem read_subformat {out val : List UInt8} (hlt : val.length < 65536)
    (h : out.take (2 + val.length) = toBe 2 val.length ++ val) :
    be out 0 2 = val.length ∧ (out.drop 2).take val.length = val := by
  have hlen : out.take 2 = toBe 2 val.length := by
    have h2 := congrArg (List.take 2) h
    grind [length_toBe]
  have hval := congrArg (List.drop 2) h
  grind [List.drop_take, length_toBe, be_take, ofBe_toBe]

section

variable (s : Side) (r r' : List UInt8) (id : Nat) (val pad : List UInt8)

/-- What is deciphered with `r'` of what `r` has hidden: only the first block depends on it. -/
def deciphered : List UInt8 :=
  memxor (firstKey s.md5 id s.secret r') ((hiddenBytes s.md5 s.secret r id val pad).take 16) ++
    (subformat val pad).drop 16

theorem length_firstKey : (firstKey s.md5 id s.secret r).length = 16 := (s.md5 _).2

theorem length_nextKey (block : List UInt8) : (nextKey s.md5 s.secret block).length = 16 :=
  (s.md5 _).2

@[simp] theorem length_hiddenBytes :
    (hiddenBytes s.md5 s.secret r id val pad).length = (subformat val pad).length :=
  length_hide (by decide) (length_nextKey s) (length_firstKey s r id) (Nat.le_refl _)

variable {pad} (hlt : 16 < (subformat val pad).length)

include hlt

theorem hiddenBytes_eq : ∃ n, (subformat val pad).length = n + 1 ∧
    hiddenBytes s.md5 s.secret r id val pad =
      memxor ((subformat val pad).take 16) (firstKey s.md5 id s.secret r) ++
        hide 16 (nextKey s.md5 s.secret) n
          (nextKey s.md5 s.secret
            (memxor ((subformat val pad).take 16) (firstKey s.md5 id s.secret r)))
          ((subformat val pad).drop 16) := by
  obtain ⟨n, hn⟩ : ∃ n, (subformat val pad).length = n + 1 :=
    ⟨(subformat val pad).length - 1, by omega⟩
  refine ⟨n, hn, ?_⟩
  rw [hiddenBytes, hn, hide_of_lt (by omega)]

theorem take_hiddenBytes : (hiddenBytes s.md5 s.secret r id val pad).take 16 =
    memxor ((subformat val pad).take 16) (firstKey s.md5 id s.secret r) := by
  obtain ⟨n, -, heq⟩ := hiddenBytes_eq s r id val hlt
  grind [length_memxor, length_firstKey]

theorem unhide_drop_hiddenBytes {left : Nat} :
    unhide 16 (nextKey s.md5 s.secret) left
        (nextKey s.md5 s.secret ((hiddenBytes s.md5 s.secret r id val pad).take 16))
        (((hiddenBytes s.md5 s.secret r id val pad).drop 16).take left) =
      ((subformat val pad).drop 16).take left := by
  obtain ⟨n, hn, heq⟩ := hiddenBytes_eq s r id val hlt
  have hdrop : (hiddenBytes s.md5 s.secret r id val pad).drop 16 =
      hide 16 (nextKey s.md5 s.secret) n
        (nextKey s.md5 s.secret ((hiddenBytes s.md5 s.secret r id val pad).take 16))
        ((subformat val pad).drop 16) := by
    grind [length_memxor, length_firstKey]
  rw [hdrop]
  exact unhide_take_hide (by decide) (length_nextKey s) (length_nextKey s _)
    (by rw [List.length_drop]; omega) (Nat.le_refl _)

theorem length_deciphered : (deciphered s r r' id val pad).length = (subformat val pad).length := by
  grind [deciphered, length_memxor, length_firstKey, length_hiddenBytes]

theorem decodeAvp_hiddenBytes :
    (subformat val pad).length - 2 < be (deciphered s r r' id val pad) 0 2 ∧
        decodeAvp s r' id (hiddenBytes s.md5 s.secret r id val pad) = none ∨
      ∃ out, decodeAvp s r' id (hiddenBytes s.md5 s.secret r id val pad) = some out ∧
        be (deciphered s r r' id val pad) 0 2 + 2 ≤ (subformat val pad).length ∧
        out.length = (subformat val pad).length ∧
        out.take (2 + be (deciphered s r r' id val pad) 0 2) =
          (deciphered s r r' id val pad).take (2 + be (deciphered s r r' id val pad) 0 2) := by
  have hlen := length_hiddenBytes s r id val pad
  have hfirst : (memxor (firstKey s.md5 id s.secret r')
      ((hiddenBytes s.md5 s.secret r id val pad).take 16)).length = 16 := by
    rw [length_memxor, length_firstKey, List.length_take]
    omega
  have hbe : be (memxor (firstKey s.md5 id s.secret r')
      ((hiddenBytes s.md5 s.secret r id val pad).take 16)) 0 2 =
        be (deciphered s r r' id val pad) 0 2 :=
    (be_append (by omega) _).symm
  rw [decodeAvp_eq, if_neg (by omega)]
  dsimp only
  rw [if_neg (by omega), hbe]
  generalize hn : be (deciphered s r r' id val pad) 0 2 = n
  by_cases h14 : n ≤ 14
  · grind [deciphered]
  · rw [if_neg h14]
    by_cases hbig : (hiddenBytes s.md5 s.secret r id val pad).length - 2 < n
    · rw [if_pos hbig]
      exact .inl ⟨by omega, rfl⟩
    · have hroom : n + 2 ≤ (subformat val pad).length := by omega
      rw [if_neg hbig, unhide_drop_hiddenBytes s r id val hlt]
      refine .inr ⟨_, rfl, hroom, ?_, ?_⟩
      · simp only [List.length_append, List.length_take, List.length_drop]
        omega
      grind [deciphered, List.take_append]

theorem take_deciphered_iff (n : Nat) :
    (deciphered s r r' id val pad).take n = (subformat val pad).take n ↔
      (firstKey s.md5 id s.secret r).take n = (firstKey s.md5 id s.secret r').take n := by
  have hk := length_firstKey s r id
  have hk' := length_firstKey s r' id
  unfold deciphered
  rw [take_hiddenBytes s r id val hlt]
  nth_rewrite 3 [← List.take_append_drop 16 (subformat val pad)]
  have hclear : ((subformat val pad).take 16).length = 16 := by
    rw [List.length_take]
    omega
  generalize (subformat val pad).take 16 = clear at hclear ⊢
  generalize firstKey s.md5 id s.secret r = key at hk ⊢
  generalize firstKey s.md5 id s.secret r' = key' at hk' ⊢
  have hblock : (memxor clear key).length = 16 := by
    rw [length_memxor]
    omega
  have hrev : clear = memxor (memxor clear key) key := (memxor_memxor (by omega)).symm
  nth_rewrite 2 [hrev]
  rw [memxor_comm key']
  generalize memxor clear key = block at hblock ⊢
  have h1 : (memxor block key).length = 16 := by
    rw [length_memxor]
    omega
  have h2 : (memxor block key').length = 16 := by
    rw [length_memxor]
    omega
  rw [List.take_append, List.take_append, h1, h2, List.append_cancel_right_eq]
  constructor
  · intro h
    exact (take_eq_of_memxor (by omega) (by omega) h).symm
  · intro h
    rw [take_memxor, take_memxor, h]

/-- **A hidden value is deciphered** if both sides have the same key for the first block, as far as
the length and the value go. -/
theorem deciphered_iff :
    (be (deciphered s r r' id val pad) 0 2 + 2 ≤ (subformat val pad).length ∧
      ((deciphered s r r' id val pad).drop 2).take (be (deciphered s r r' id val pad) 0 2) = val) ↔
    val.length < 65536 ∧ (firstKey s.md5 id s.secret r).take (2 + val.length) =
      (firstKey s.md5 id s.secret r').take (2 + val.length) := by
  have hlen := length_deciphered s r r' id val hlt
  rw [← take_deciphered_iff s r r' id val hlt]
  generalize deciphered s r r' id val pad = out at hlen ⊢
  constructor
  · rintro ⟨hle, hval⟩
    have hn : val.length = be out 0 2 := by grind
    have hlt : val.length < 65536 := hn ▸ be_lt out 2
    refine ⟨hlt, ?_⟩
    rw [take_subformat hlt, hn, List.take_add, hval, take_eq_toBe (by omega)]
  grind [take_subformat, read_subformat]

end

theorem encodeAttr_eq_some {md5 : List UInt8 → Digest} {p : Pack} {id : Nat} {val : List UInt8}
    {pad : Option (List UInt8)} {hidden : List UInt8} (h : encodeAttr md5 p id val pad = some hidden) :
    ∃ r bs, p.lastRV = some r ∧ pad = some bs ∧ p.secret ≠ [] ∧
      hidden = hiddenBytes md5 p.secret r id val bs := by
  unfold encodeAttr at h
  by_cases hs : p.secret = []
  · rw [if_pos hs] at h
    cases h
  · rw [if_neg hs] at h
    obtain ⟨r, hr, h⟩ := Option.bind_eq_some_iff.1 h
    obtain ⟨bs, hbs, rfl⟩ := Option.map_eq_some_iff.1 h
    exact ⟨r, bs, hr, hbs, hs, rfl⟩

theorem decodeAvp_hiddenBytes_short (s : Side) (rv : List UInt8) (id : Nat)
    {val pad : List UInt8} (hle : (subformat val pad).length ≤ 16) :
    decodeAvp s rv id (hiddenBytes s.md5 s.secret rv id val pad) = some (subformat val pad) := by
  have hlen := length_hiddenBytes s rv id val pad
  grind [length_subformat, hiddenBytes, firstKey, hide, decodeAvp, memxor_memxor]

/-- **What was hidden is deciphered**: `decode_avp` recovers length and value with the same secret
and Random-Vector. -/
theorem decodeAvp_encodeAttr (s : Side) {p : Pack} {rv : List UInt8} {id : Nat}
    {val pad hidden : List UInt8} (hsecret : p.secret = s.secret) (hrv : p.lastRV = some rv)
    (hlen : 2 + val.length + pad.length ≤ 1017)
    (henc : encodeAttr s.md5 p id val (some pad) = some hidden) :
    ∃ out, decodeAvp s rv id hidden = some out ∧ be out 0 2 = val.length ∧
      (out.drop 2).take val.length = val := by
  obtain ⟨r, bs, hr, hbs, -, rfl⟩ := encodeAttr_eq_some henc
  obtain rfl : rv = r := Option.some.inj (hrv.symm.trans hr)
  obtain rfl : pad = bs := Option.some.inj hbs
  have hval : val.length < 65536 := by omega
  have hsub := take_subformat hval pad
  rw [hsecret]
  rcases Nat.lt_or_ge 16 (subformat val pad).length with hlong | hshort
  · have hclear := (take_deciphered_iff s rv rv id val hlong (2 + val.length)).2 rfl
    obtain ⟨hbe, -⟩ := read_subformat hval (hclear.trans hsub)
    have hroom := ((deciphered_iff s rv rv id val hlong).2 ⟨hval, rfl⟩).1
    rcases decodeAvp_hiddenBytes s rv rv id val hlong with ⟨hbig, -⟩ | ⟨out, hout, -, -, htake⟩
    · omega
    · rw [hbe] at htake
      exact ⟨out, hout, read_subformat hval (htake.trans (hclear.trans hsub))⟩
  · exact ⟨_, decodeAvp_hiddenBytes_short s rv id hshort, read_subformat hval hsub⟩

def sampleSide : Side :=
  { md5 := fun bs => ⟨toBe 16 (ofBe bs * 7919), length_toBe 16 _⟩
    dict := dictionary
    secret := [1, 2, 3]
    permissive := false
    behind := [] }

def hidingPack : Pack := ⟨⟨51202, 0, 0, 0, 0⟩, [], some [9, 9], [1, 2, 3], true⟩

/-- A value of 20 bytes with 3 bytes of padding. -/
theorem decodeAvp_encodeAttr_sample :
    ∃ hidden out,
      encodeAttr sampleSide.md5 hidingPack 11 (List.replicate 20 4) (some [5, 6, 7]) = some hidden ∧
      decodeAvp sampleSide [9, 9] 11 hidden = some out ∧ be out 0 2 = 20 ∧
      (out.drop 2).take 20 = List.replicate 20 4 := by
  have henc : encodeAttr sampleSide.md5 hidingPack 11 (List.replicate 20 4) (some [5, 6, 7]) =
      some (hiddenBytes sampleSide.md5 [1, 2, 3] [9, 9] 11 (List.replicate 20 4) [5, 6, 7]) := rfl
  obtain ⟨out, hout, hlen, hval⟩ := decodeAvp_encodeAttr sampleSide rfl rfl (by decide) henc
  exact ⟨_, out, henc, hout, hlen, hval⟩

end L2tp.Wire
