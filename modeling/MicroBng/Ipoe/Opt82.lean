import Mathlib.Algebra.GroupWithZero.Nat
import MicroBng.Lib.Bytes
import MicroBng.Lib.Records

/-!
# The relay agent information option

`ctrl/ipoe/dhcpv4.c` parses a request of a client (`dhcpv4_parse_packet`, `dhcpv4_parse_opt82`) and
puts option 82 behind its options before it is relayed (`dhcpv4_packet_insert_opt82`), where the
last byte of the packet is, which is taken for the End option. The parser does not ask for one.
Neither the length of the option nor the byte for the End option is checked against the room there
is, and the length counts an empty remote id that is not written.

* `insert_iff`: the packet is parsed as before, with the option (`Right`), exactly if it is `Safe`
-/

namespace Ipoe.Opt82

open Records

/-! ## Packets -/

def bufSize : Nat := 4096

/-- The size of `struct dhcpv4_hdr`. -/
def hdrSize : Nat := 240

/-- `struct dhcpv4_option`. Zero is a pad byte and 255 the End option. -/
structure Opt where
  type : UInt8
  data : List UInt8
  type_ok : type ≠ 0 ∧ type ≠ 255
  size_lt : data.length < 256
  deriving DecidableEq

/-- What a turn of the loop of `dhcpv4_parse_packet` comes to. -/
inductive Token
  | pad
  | opt (o : Opt)
  | fin
  deriving DecidableEq

def Token.opt? : Token → Option Opt
  | .opt o => some o
  | _ => none

/-- The option at the front, if its type is neither of the two and its data is there. -/
def optAt (type len : UInt8) (rest : List UInt8) (hp : type ≠ 0) (he : type ≠ 255) : Opt :=
  ⟨type, rest.take len.toNat, ⟨hp, he⟩,
    Nat.lt_of_le_of_lt (List.length_take_le _ _) (UInt8.toNat_lt len)⟩

/-- The loop of `dhcpv4_parse_packet`, with bounded turns; nothing if the packet is invalid. -/
def parseFrom : Nat → List UInt8 → Option (List Token)
  | 0, _ => some []
  | _ + 1, [] => some []
  | k + 1, b :: bs =>
    if hp : b = 0 then (parseFrom k bs).map (.pad :: ·)
    else if he : b = 255 then some [.fin]
    else
      match bs with
      | [] => none
      | len :: rest =>
        if rest.length < len.toNat then none
        else (parseFrom k (rest.drop len.toNat)).map (.opt (optAt b len rest hp he) :: ·)

def parse (bs : List UInt8) : Option (List Token) := parseFrom bs.length bs

/-- A known option: the length it may have and its element size. -/
structure KnownOption where
  type : UInt8
  minLen : Nat
  maxLen : Nat
  elemSize : Nat

/-- `options` of `dhcpv4_options.c`. -/
def knownOptions : List KnownOption :=
  [⟨1, 4, 4, 4⟩, ⟨2, 4, 4, 4⟩, ⟨3, 4, 255, 4⟩, ⟨4, 4, 255, 4⟩, ⟨5, 4, 255, 4⟩, ⟨6, 4, 255, 4⟩,
    ⟨12, 1, 255, 1⟩, ⟨15, 1, 255, 1⟩, ⟨26, 2, 2, 2⟩, ⟨28, 4, 4, 4⟩, ⟨33, 8, 255, 8⟩,
    ⟨42, 4, 4, 4⟩, ⟨43, 1, 255, 1⟩, ⟨50, 4, 4, 4⟩, ⟨51, 4, 4, 4⟩, ⟨53, 1, 1, 1⟩, ⟨54, 4, 4, 4⟩,
    ⟨55, 1, 255, 1⟩, ⟨56, 1, 255, 1⟩, ⟨57, 2, 2, 2⟩, ⟨58, 4, 4, 4⟩, ⟨59, 4, 4, 4⟩,
    ⟨60, 1, 255, 1⟩, ⟨61, 2, 255, 1⟩, ⟨82, 3, 255, 1⟩, ⟨121, 5, 255, 1⟩]

def checkOption (o : Opt) : Bool :=
  match knownOptions.find? (·.type == o.type) with
  | none => true
  | some k => decide (k.minLen ≤ o.data.length ∧ o.data.length ≤ k.maxLen ∧
      o.data.length % k.elemSize = 0)

def checkOptions (opts : List Opt) : Bool := opts.all checkOption

/-- `msg_type`: the first byte of the last option 53. -/
def msgType (opts : List Opt) : UInt8 :=
  (opts.filter (·.type = 53)).getLast?.elim 0 (·.data.headD 0)

/-- `struct dhcpv4_packet`: the bytes up to `ptr`, `options` and `relay_agent`. -/
structure Packet where
  data : List UInt8
  options : List Opt
  relayAgent : Option Opt

def headerOk (bs : List UInt8) : Bool :=
  decide (hdrSize ≤ bs.length) && bs.getD 1 0 == 1 && bs.getD 2 0 == 6 &&
    (bs.drop 236).take 4 == [0x63, 0x82, 0x53, 0x63]

def Token.bytes : Token → List UInt8
  | .pad => [0]
  | .opt o => o.type :: UInt8.ofNat o.data.length :: o.data
  | .fin => [255]

def packetOf (hdr : List UInt8) (ts : List Token) : Packet :=
  let opts := ts.filterMap Token.opt?
  ⟨hdr ++ ts.flatMap Token.bytes, opts, (opts.filter (·.type = 82)).getLast?⟩

/-- `dhcpv4_parse_packet`. `ptr` ends up behind the last token. -/
def parsePacket (bs : List UInt8) : Option Packet :=
  if headerOk bs = false then none
  else
    match parse (bs.drop hdrSize) with
    | none => none
    | some ts =>
      let p := packetOf (bs.take hdrSize) ts
      if msgType p.options = 0 ∨ 8 < msgType p.options ∨ checkOptions p.options = false then none
      else some p

/-! ## `dhcpv4_parse_opt82` -/

/-- The values `dhcpv4_parse_opt82` points to, without their length bytes. -/
structure Agent where
  circuit : Option (List UInt8)
  remote : Option (List UInt8)
  link : Option (List UInt8)
  deriving DecidableEq

def Agent.set (a : Agent) (sub : UInt8 × List UInt8) : Agent :=
  if sub.1 = 1 then { a with circuit := some sub.2 }
  else if sub.1 = 2 then { a with remote := some sub.2 }
  else if sub.1 = 5 then { a with link := some sub.2 }
  else a

def subOne : List UInt8 → Except Unit (Item (UInt8 × List UInt8))
  | type :: len :: rest =>
    if rest.length < len.toNat then .error ()
    else .ok ⟨2 + len.toNat, some (type, rest.take len.toNat)⟩
  | _ => .error ()

def parseOpt82 (data : List UInt8) : Option Agent :=
  match decode subOne data with
  | .ok subs => some (subs.foldl Agent.set ⟨none, none, none⟩)
  | .error _ => none

/-! ## `dhcpv4_packet_insert_opt82` -/

/-- An address as `inet_pton` returns it. -/
def Ip4 : Type := { bs : List UInt8 // bs.length = 4 }

/-- What is inserted: circuit id, remote id, and link selection if it is an address. -/
structure Values where
  circuit : List UInt8
  remote : Option (List UInt8)
  link : Option Ip4

/-- Whether the pool has an option left, and the last two bytes of its memory. -/
structure Env where
  pool : Bool
  junk : UInt8 × UInt8

variable (env : Env)

def Values.len (v : Values) : Nat :=
  v.circuit.length + 2 + (v.remote.elim 0 fun r => r.length + 2) + (v.link.elim 0 fun _ => 4 + 2)

def subBytes (type : UInt8) (value : List UInt8) : List UInt8 :=
  type :: UInt8.ofNat value.length :: value

/-- The data of the option. A remote id without bytes is counted but not written. -/
def Values.payload (v : Values) : List UInt8 :=
  subBytes 1 v.circuit ++
    (v.remote.elim [] fun r => if r = [] then [] else subBytes 2 r) ++
    (v.link.elim [] fun a => subBytes 5 a.1) ++
    (if v.remote = some [] then [env.junk.1, env.junk.2] else [])

def added (data : List UInt8) : Opt :=
  ⟨82, data.take (UInt8.ofNat data.length).toNat, by decide,
    Nat.lt_of_le_of_lt (List.length_take_le _ _) (UInt8.toNat_lt _)⟩

/-- `dhcpv4_packet_add_opt` with type 82. -/
def addOpt (p : Packet) (data : List UInt8) : Option Packet :=
  if bufSize < p.data.length + (2 + data.length) ∨ env.pool = false then none
  else some ⟨p.data ++ 82 :: UInt8.ofNat data.length :: data, p.options ++ [added data],
    some (added data)⟩

/-- An insertion succeeds or fails, or the End option is written behind the buffer. -/
inductive Inserted
  | done (p : Packet)
  | failed (p : Packet)
  | overflow

def insertOpt82 (p : Packet) (v : Values) : Inserted :=
  let p := { p with data := p.data.dropLast }
  match addOpt env p (v.payload env) with
  | none => .failed { p with data := p.data ++ [255] }
  | some p =>
    if p.data.length < bufSize then .done { p with data := p.data ++ [255] } else .overflow

/-! ## The parser -/

theorem parseFrom_eq (k : Nat) (bs : List UInt8) (h : bs.length ≤ k) :
    parseFrom k bs = parse bs := by
  suffices ∀ m n (bs : List UInt8), bs.length ≤ m → bs.length ≤ n →
      parseFrom m bs = parseFrom n bs from this k bs.length bs h (Nat.le_refl _)
  intro m
  induction m with
  | zero =>
    intro n bs hm _
    obtain rfl := List.length_eq_zero_iff.1 (Nat.le_zero.1 hm)
    cases n <;> rfl
  | succ m ih =>
    intro n bs hm hn
    cases bs with
    | nil => cases n <;> rfl
    | cons b bs =>
      rw [List.length_cons] at hm hn
      cases n with
      | zero => omega
      | succ n =>
        unfold parseFrom
        by_cases hp : b = 0
        · rw [dif_pos hp, dif_pos hp, ih n bs (by omega) (by omega)]
        grind

theorem parse_pad (bs : List UInt8) : parse (0 :: bs) = (parse bs).map (.pad :: ·) := rfl

theorem parse_opt {b : UInt8} (hp : b ≠ 0) (he : b ≠ 255) (len : UInt8) (rest : List UInt8) :
    parse (b :: len :: rest) = if rest.length < len.toNat then none
      else (parse (rest.drop len.toNat)).map (.opt (optAt b len rest hp he) :: ·) := by
  grind [parse, parseFrom, parseFrom_eq]

theorem parse_short {b : UInt8} (hp : b ≠ 0) (he : b ≠ 255) : parse [b] = none := by
  rw [parse, List.length_singleton, parseFrom, dif_neg hp, dif_neg he]

theorem parse_optBytes (o : Opt) (rest : List UInt8) :
    parse ((Token.opt o).bytes ++ rest) = (parse rest).map (.opt o :: ·) := by
  have hlen : (UInt8.ofNat o.data.length).toNat = o.data.length := by
    rw [UInt8.toNat_ofNat', Nat.mod_eq_of_lt o.size_lt]
  have hat : optAt o.type (UInt8.ofNat o.data.length) (o.data ++ rest) o.type_ok.1
      o.type_ok.2 = o := by
    unfold optAt
    simp only [hlen, List.take_left]
  show parse (o.type :: UInt8.ofNat o.data.length :: (o.data ++ rest)) = _
  rw [parse_opt o.type_ok.1 o.type_ok.2, hat, hlen, List.drop_left, if_neg]
  rw [List.length_append]
  omega

def Plain (ts : List Token) : Prop := Token.fin ∉ ts

variable {ts us : List Token} {bs hdr data : List UInt8} {o : Opt}

theorem parse_append (h : Plain ts) (rest : List UInt8) :
    parse (ts.flatMap Token.bytes ++ rest) = (parse rest).map (ts ++ ·) := by
  induction ts with
  | nil => simp
  | cons t ts ih =>
    have hts : Plain ts := fun hm => h (List.mem_cons_of_mem t hm)
    rw [List.flatMap_cons, List.append_assoc]
    cases t with
    | pad =>
      show parse (0 :: (ts.flatMap Token.bytes ++ rest)) = _
      rw [parse_pad, ih hts, Option.map_map]
      rfl
    | opt o =>
      rw [parse_optBytes, ih hts, Option.map_map]
      rfl
    | fin => exact absurd List.mem_cons_self h

theorem parse_eq_some (h : parse bs = some ts) :
    ∃ rest, bs = ts.flatMap Token.bytes ++ rest ∧
      (Plain ts ∨ ∃ body, Plain body ∧ ts = body ++ [.fin]) := by
  generalize hn : bs.length = n
  induction n using Nat.strongRecOn generalizing bs ts with
  | ind n ih =>
    cases bs with
    | nil =>
      obtain rfl := Option.some.inj h
      exact ⟨[], rfl, .inl List.not_mem_nil⟩
    | cons b bs =>
      rw [List.length_cons] at hn
      by_cases hp : b = 0
      · obtain rfl := hp
        obtain ⟨ts', hts', rfl⟩ := Option.map_eq_some_iff.1 h
        obtain ⟨rest, rfl, hplain⟩ := ih bs.length (by omega) hts' rfl
        refine ⟨rest, rfl, ?_⟩
        rcases hplain with hplain | ⟨body, hplain, rfl⟩
        · exact .inl (by simpa [Plain] using hplain)
        · exact .inr ⟨.pad :: body, by simpa [Plain] using hplain, rfl⟩
      · by_cases he : b = 255
        · obtain rfl := he
          obtain rfl := Option.some.inj h
          exact ⟨bs, rfl, .inr ⟨[], List.not_mem_nil, rfl⟩⟩
        · cases bs with
          | nil => rw [parse_short hp he] at h; cases h
          | cons len rest =>
            rw [parse_opt hp he] at h
            split_ifs at h with hshort
            obtain ⟨ts', hts', rfl⟩ := Option.map_eq_some_iff.1 h
            rw [List.length_cons] at hn
            obtain ⟨rest', hrest', hplain⟩ := ih (rest.drop len.toNat).length
              (by rw [List.length_drop]; omega) hts' rfl
            refine ⟨rest', ?_, ?_⟩
            · show b :: len :: rest = b :: UInt8.ofNat (rest.take len.toNat).length ::
                (rest.take len.toNat ++ ts'.flatMap Token.bytes) ++ rest'
              grind [UInt8.ofNat_toNat, List.take_append_drop]
            · rcases hplain with hplain | ⟨body, hplain, rfl⟩
              · exact .inl (by simpa [Plain] using hplain)
              · exact .inr ⟨_ :: body, by simpa [Plain] using hplain, rfl⟩

/-- What `dhcpv4_parse_packet` accepts. -/
structure Accepts (hdr : List UInt8) (ts : List Token) : Prop where
  size : hdr.length = hdrSize
  header : ∀ rest, headerOk (hdr ++ rest) = true
  type : msgType (ts.filterMap Token.opt?) ≠ 0
  type_le : ¬ 8 < msgType (ts.filterMap Token.opt?)
  checked : checkOptions (ts.filterMap Token.opt?) = true

theorem headerOk_append (h : hdr.length = hdrSize) (xs ys : List UInt8) :
    headerOk (hdr ++ xs) = headerOk (hdr ++ ys) := by
  have hget : ∀ (i : Nat) (zs : List UInt8), i < hdrSize → (hdr ++ zs).getD i 0 = hdr.getD i 0 := by
    simp_all [List.getElem?_append_left]
  have hdrop : ∀ zs : List UInt8, ((hdr ++ zs).drop 236).take 4 = hdr.drop 236 := by
    intro zs
    rw [List.drop_append_of_le_length (by rw [h]; decide), List.take_left']
    rw [List.length_drop, h]
    rfl
  have hlen : ∀ zs : List UInt8, hdrSize ≤ (hdr ++ zs).length := by
    intro zs
    rw [List.length_append]
    omega
  unfold headerOk
  rw [hget 1 xs (by decide), hget 1 ys (by decide), hget 2 xs (by decide), hget 2 ys (by decide),
    hdrop, hdrop, decide_eq_true (hlen xs), decide_eq_true (hlen ys)]

theorem parsePacket_eq_some {p : Packet} (h : parsePacket bs = some p) :
    ∃ hdr ts, parse (bs.drop hdrSize) = some ts ∧ p = packetOf hdr ts ∧ Accepts hdr ts := by
  unfold parsePacket at h
  split_ifs at h with hh
  cases hts : parse (bs.drop hdrSize) with
  | none => rw [hts] at h; cases h
  | some ts =>
    rw [hts] at h
    dsimp only at h
    split_ifs at h with hc
    obtain ⟨h0, h8, hchk⟩ := not_or.1 hc |>.imp id fun h => not_or.1 h
    have hok : headerOk bs = true := by simpa using hh
    have hsize : hdrSize ≤ bs.length := by
      unfold headerOk at hok
      simp only [Bool.and_eq_true, decide_eq_true_eq] at hok
      exact hok.1.1.1
    have hlen : (bs.take hdrSize).length = hdrSize := by
      rw [List.length_take]
      omega
    refine ⟨bs.take hdrSize, ts, rfl, (Option.some.inj h).symm, hlen, fun rest => ?_, h0, h8, ?_⟩
    · rw [headerOk_append hlen rest (bs.drop hdrSize), List.take_append_drop]
      exact hok
    · simpa [packetOf] using hchk

theorem parsePacket_append (ha : Accepts hdr ts) {q : Packet} :
    parsePacket (hdr ++ bs) = some q ↔ ∃ us, parse bs = some us ∧ q = packetOf hdr us ∧
      msgType (us.filterMap Token.opt?) ≠ 0 ∧ ¬ 8 < msgType (us.filterMap Token.opt?) ∧
      checkOptions (us.filterMap Token.opt?) = true := by
  unfold parsePacket
  rw [if_neg (by rw [ha.header]; decide), List.drop_left' ha.size, List.take_left' ha.size]
  cases parse bs with
  | none => simp
  | some us =>
    dsimp only
    constructor
    · intro h
      split_ifs at h with hc
      obtain ⟨h0, h8, hchk⟩ := not_or.1 hc |>.imp id fun h => not_or.1 h
      exact ⟨us, rfl, (Option.some.inj h).symm, h0, h8, by simpa [packetOf] using hchk⟩
    · rintro ⟨us', hus, rfl, h0, h8, hchk⟩
      obtain rfl := Option.some.inj hus
      rw [if_neg]
      rintro (h | h | h)
      · exact h0 h
      · exact h8 h
      · exact absurd (hchk.symm.trans h) (by decide)

/-! ## Sub-options -/

theorem subOne_cons (type len : UInt8) (rest : List UInt8) :
    subOne (type :: len :: rest) = if rest.length < len.toNat then .error ()
      else .ok ⟨2 + len.toNat, some (type, rest.take len.toNat)⟩ := rfl

theorem subOne_eq_ok {it : Item (UInt8 × List UInt8)} (h : subOne bs = .ok it) :
    ∃ type len rest, bs = type :: len :: rest ∧ len.toNat ≤ rest.length ∧
      it = ⟨2 + len.toNat, some (type, rest.take len.toNat)⟩ := by
  match bs, h with
  | type :: len :: rest, h => grind [subOne_cons]

theorem subOne_lawful : Lawful subOne where
  pos := by
    intro bs it h
    obtain ⟨type, len, rest, rfl, hlen, rfl⟩ := subOne_eq_ok h
    exact Nat.lt_of_lt_of_le (by decide) (Nat.le_add_right 2 _)
  le := by grind [subOne_eq_ok]
  append := by grind [subOne_eq_ok, subOne_cons]

def valueSize (v : Option (List UInt8)) : Nat := v.elim 0 fun v => v.length + 2

def Agent.size (a : Agent) : Nat := valueSize a.circuit + valueSize a.remote + valueSize a.link

theorem size_set_le (a : Agent) (sub : UInt8 × List UInt8) :
    (a.set sub).size ≤ a.size + (sub.2.length + 2) := by
  unfold Agent.set Agent.size
  split_ifs <;> simp only [valueSize, Option.elim] <;> omega

theorem size_foldl_set_le (subs : List (UInt8 × List UInt8)) (a : Agent) :
    (subs.foldl Agent.set a).size ≤ a.size + (subs.map fun s => s.2.length + 2).sum := by
  induction subs generalizing a with
  | nil => exact Nat.le_refl _
  | cons sub subs ih => grind [size_set_le]

theorem length_of_parses {subs : List (UInt8 × List UInt8)}
    (h : Parses subOne bs subs) : (subs.map fun s => s.2.length + 2).sum = bs.length := by
  induction h with
  | nil => rfl
  | @cons bs it vs _ ho _ ih => grind [subOne_eq_ok]

theorem size_le_of_parseOpt82 {a : Agent} (h : parseOpt82 data = some a) :
    a.size ≤ data.length := by
  unfold parseOpt82 at h
  cases hd : decode subOne data with
  | error e => rw [hd] at h; cases h
  | ok subs =>
    rw [hd] at h
    obtain rfl := Option.some.inj h
    have hp := (decode_eq_ok subOne_lawful).1 hd
    have hs := size_foldl_set_le subs ⟨none, none, none⟩
    rw [length_of_parses hp] at hs
    exact Nat.le_trans hs (Nat.le_of_eq (Nat.zero_add _))

theorem subOne_subBytes (type : UInt8) {value : List UInt8} (h : value.length < 256)
    (t : List UInt8) : subOne (subBytes type value ++ t) =
      .ok ⟨(subBytes type value).length, some (type, value)⟩ := by
  have hlen : (UInt8.ofNat value.length).toNat = value.length := by
    rw [UInt8.toNat_ofNat', Nat.mod_eq_of_lt h]
  grind [subBytes, subOne_cons]

/-! ## The data of the option -/

def Values.agent (v : Values) : Agent := ⟨some v.circuit, v.remote, v.link.map (·.1)⟩

theorem size_agent (v : Values) : v.agent.size = v.len := by
  obtain ⟨circuit, remote, link⟩ := v
  unfold Agent.size Values.agent Values.len valueSize
  cases remote <;> cases link with
  | none => rfl
  | some a => simp [a.2]

theorem length_subBytes (type : UInt8) (value : List UInt8) :
    (subBytes type value).length = value.length + 2 := rfl

theorem length_payload (v : Values) : (v.payload env).length = v.len := by
  obtain ⟨circuit, remote, link⟩ := v
  unfold Values.payload Values.len
  have hlink : (link.elim [] fun a => subBytes 5 a.1).length = link.elim 0 fun _ => 4 + 2 := by
    cases link with
    | none => rfl
    | some a => simp [length_subBytes, a.2]
  rw [List.length_append, List.length_append, List.length_append, hlink, length_subBytes]
  cases remote with
  | none => simp
  | some r => grind [length_subBytes]

theorem payload_eq_cons (v : Values) :
    ∃ len rest, v.payload env = 1 :: len :: rest := ⟨_, _, rfl⟩

def Values.subs (v : Values) : List (UInt8 × List UInt8) :=
  [(1, v.circuit)] ++ (v.remote.elim [] fun r => if r = [] then [] else [(2, r)]) ++
    (v.link.elim [] fun a => [(5, a.1)])

theorem payload_eq (v : Values) :
    v.payload env = v.subs.flatMap (fun s => subBytes s.1 s.2) ++
      if v.remote = some [] then [env.junk.1, env.junk.2] else [] := by
  obtain ⟨circuit, remote, link⟩ := v
  unfold Values.payload Values.subs
  rw [List.flatMap_append, List.flatMap_append, List.flatMap_singleton]
  congr 2
  · cases remote with
    | none => rfl
    | some r =>
      by_cases hr : r = []
      · simp [hr]
      · simp [hr]
  · cases link <;> simp

variable {v : Values}

theorem parses_subs (h : v.len ≤ 255) :
    Parses subOne (v.subs.flatMap fun s => subBytes s.1 s.2) v.subs := by
  have hfit : ∀ s ∈ v.subs, s.2.length < 256 := by
    intro s hs
    unfold Values.len at h
    rcases List.mem_append.1 hs with hs | hs
    · rcases List.mem_append.1 hs with hs | hs
      · grind
      · cases hr : v.remote with
        | none => rw [hr] at hs; cases hs
        | some r => grind
    · cases hl : v.link with
      | none => rw [hl] at hs; cases hs
      | some a =>
        rw [hl] at hs
        obtain rfl := List.mem_singleton.1 hs
        exact Nat.lt_of_le_of_lt (Nat.le_of_eq a.2) (by decide)
  have hp : Parses subOne (v.subs.flatMap fun s => subBytes s.1 s.2) (v.subs.map id) :=
    parses_flatMap fun s hs => ⟨List.cons_ne_nil _ _, subOne_subBytes s.1 (hfit s hs)⟩
  rwa [List.map_id] at hp

theorem foldl_subs (v : Values) : v.subs.foldl Agent.set ⟨none, none, none⟩ =
    ⟨some v.circuit, if v.remote = some [] then none else v.remote, v.link.map (·.1)⟩ := by
  obtain ⟨circuit, remote, link⟩ := v
  unfold Values.subs
  cases remote with
  | none => cases link <;> simp [Agent.set]
  | some r =>
    by_cases hr : r = []
    · cases link <;> simp [Agent.set, hr]
    · cases link <;> simp [Agent.set, hr]

theorem decode_junk (a b : UInt8) : decode subOne [a, b] =
    if b = 0 then .ok [(a, [])] else .error () := by
  by_cases hb : b = 0
  · rw [hb]
    rfl
  · have hpos : 0 < b.toNat := by
      rcases Nat.eq_zero_or_pos b.toNat with h | h
      · exact absurd (UInt8.toNat.inj h) hb
      · exact h
    simp_all [decode_of_error, subOne_cons]

/-- **The option holds the values** to be inserted, if an empty remote id is not left to chance. -/
theorem parseOpt82_payload (h : v.len ≤ 255) :
    parseOpt82 (v.payload env) = some v.agent ↔ (v.remote = some [] → env.junk = (2, 0)) := by
  unfold parseOpt82
  rw [payload_eq, decode_append subOne_lawful (parses_subs h)]
  by_cases hr : v.remote = some []
  · rw [if_pos hr, decode_junk]
    by_cases hz : env.junk.2 = 0
    · rw [if_pos hz]
      show some ((v.subs ++ [(env.junk.1, [])]).foldl Agent.set ⟨none, none, none⟩) = _ ↔ _
      rw [List.foldl_append, foldl_subs]
      have hjunk : env.junk = (2, 0) ↔ env.junk.1 = 2 := by
        rw [Prod.ext_iff]
        exact and_iff_left hz
      simp only [Values.agent, List.foldl_cons,
        Agent.set]
      split_ifs with h1 h2 h5 <;> simp_all
    · rw [if_neg hz]
      refine ⟨fun h => (nomatch h), fun hj => absurd ?_ hz⟩
      rw [hj hr]
  · rw [if_neg hr]
    show some ((v.subs ++ []).foldl Agent.set ⟨none, none, none⟩) = _ ↔ _
    rw [List.append_nil, foldl_subs, if_neg hr]
    exact ⟨fun _ h => absurd h hr, fun _ => rfl⟩

/-! ## What is parsed again -/

def options (ts : List Token) : List Opt := ts.filterMap Token.opt?

@[simp] theorem options_append (ts us : List Token) :
    options (ts ++ us) = options ts ++ options us := List.filterMap_append

@[simp] theorem options_opt (o : Opt) (ts : List Token) :
    options (.opt o :: ts) = o :: options ts := rfl

@[simp] theorem options_fin : options [.fin] = [] := rfl

theorem msgType_append {opts : List Opt} (h : o.type = 82) :
    msgType (opts ++ [o]) = msgType opts := by
  simp_all [msgType]

theorem checkOption_of_82 (h : o.type = 82) : checkOption o = true ↔ 3 ≤ o.data.length := by
  have hfind : knownOptions.find? (·.type == o.type) = some ⟨82, 3, 255, 1⟩ := by
    rw [h]
    rfl
  have hlt := o.size_lt
  unfold checkOption
  rw [hfind]
  simp only [decide_eq_true_eq]
  omega

def tail (data : List UInt8) : List UInt8 := 82 :: UInt8.ofNat data.length :: (data ++ [255])

theorem toNat_ofNat_le (data : List UInt8) : (UInt8.ofNat data.length).toNat ≤ data.length := by
  exact Nat.mod_le _ _

theorem parse_tail (h : parse (tail data) = some us) : ∃ us', us = .opt (added data) :: us' := by
  have hle := toNat_ofNat_le data
  have hat : optAt 82 (UInt8.ofNat data.length) (data ++ [255]) (by decide) (by decide) =
      added data := by
    unfold optAt added
    simp only [List.take_append_of_le_length hle]
  unfold tail at h
  rw [parse_opt (by decide) (by decide), hat] at h
  split_ifs at h
  obtain ⟨us', -, rfl⟩ := Option.map_eq_some_iff.1 h
  exact ⟨us', rfl⟩

theorem parse_tail_of_le (data : List UInt8) (h : data.length ≤ 255) :
    (added data).data = data ∧ parse (tail data) = some [.opt (added data), .fin] := by
  have hlen : (UInt8.ofNat data.length).toNat = data.length := by
    rw [UInt8.toNat_ofNat', Nat.mod_eq_of_lt (by omega)]
  have hdata : (added data).data = data := by
    show data.take (UInt8.ofNat data.length).toNat = data
    rw [hlen, List.take_length]
  have hbytes : tail data = (Token.opt (added data)).bytes ++ [255] := by
    show _ = 82 :: UInt8.ofNat (added data).data.length :: ((added data).data ++ [255])
    rw [hdata]
    rfl
  refine ⟨hdata, ?_⟩
  rw [hbytes, parse_optBytes]
  rfl

theorem parse_misread {n len : UInt8} {rest : List UInt8}
    (h : parse (n :: 1 :: len :: rest) = some us) (hopts : options us = [o]) :
    o.type ≠ 82 ∨ parseOpt82 o.data = none := by
  by_cases hp : n = 0
  · obtain rfl := hp
    rw [parse_pad] at h
    obtain ⟨us₁, h₁, rfl⟩ := Option.map_eq_some_iff.1 h
    rw [parse_opt (by decide) (by decide)] at h₁
    split_ifs at h₁
    obtain ⟨us₂, -, rfl⟩ := Option.map_eq_some_iff.1 h₁
    obtain ⟨rfl, -⟩ := List.cons_eq_cons.1 hopts
    exact .inl (show (1 : UInt8) ≠ 82 by decide)
  · by_cases he : n = 255
    · obtain rfl := he
      obtain rfl := Option.some.inj h
      cases hopts
    · rw [parse_opt hp he] at h
      obtain ⟨us₁, -, rfl⟩ := Option.map_eq_some_iff.1 h
      obtain ⟨rfl, -⟩ := List.cons_eq_cons.1 hopts
      exact .inr rfl

/-- **The last byte of an option is overwritten**: what follows it is not what was added. -/
theorem parse_overwritten {o' : Opt}
    (hdata : ∃ len rest, data = 1 :: len :: rest)
    (h : parse ((Token.opt o).bytes.dropLast ++ tail data) = some us)
    (hopts : options us = [o, o']) : o'.type ≠ 82 ∨ parseOpt82 o'.data = none := by
  obtain ⟨len1, more, hmore⟩ := hdata
  rcases List.eq_nil_or_concat o.data with hnil | ⟨d, x, hd⟩
  · -- the byte that is overwritten is the length of the option
    have hlast : (Token.opt o).bytes.dropLast = [o.type] := by simp [Token.bytes, hnil]
    rw [hlast, List.singleton_append, tail, parse_opt o.type_ok.1 o.type_ok.2] at h
    split_ifs at h with hshort
    obtain ⟨us₁, -, rfl⟩ := Option.map_eq_some_iff.1 h
    grind [options_opt, optAt]
  · -- the option takes the type as its last byte, and its length is read as a type
    rw [List.concat_eq_append] at hd
    have hsize := o.size_lt
    rw [hd, List.length_append, List.length_singleton] at hsize
    have hlen : (UInt8.ofNat (d.length + 1)).toNat = d.length + 1 := by
      rw [UInt8.toNat_ofNat', Nat.mod_eq_of_lt hsize]
    have hlast : (Token.opt o).bytes.dropLast = o.type :: UInt8.ofNat (d.length + 1) :: d := by
      show (o.type :: UInt8.ofNat o.data.length :: o.data).dropLast = _
      grind
    have hdrop : (d ++ tail data).drop (d.length + 1) =
        UInt8.ofNat data.length :: 1 :: len1 :: (more ++ [255]) := by
      simp_all [tail]
    rw [hlast, List.cons_append, List.cons_append, parse_opt o.type_ok.1 o.type_ok.2] at h
    split_ifs at h
    obtain ⟨us₁, h₁, rfl⟩ := Option.map_eq_some_iff.1 h
    grind [options_opt, parse_misread]

/-! ## The results -/

/-- Parsed again, the packet has the options of before and one option 82 with the values. -/
def Reparsed (p : Packet) (v : Values) (p' : Packet) : Prop :=
  ∃ q o, parsePacket p'.data = some q ∧ q.options = p.options ++ [o] ∧ o.type = 82 ∧
    parseOpt82 o.data = some v.agent

/-- **What an insertion should do**: add one option, or leave the packet if it fails. -/
def Right (p : Packet) (v : Values) : Prop :=
  match insertOpt82 env p v with
  | .done p' => Reparsed p v p'
  | .failed p' => p' = p
  | .overflow => False

def Closed (ts : List Token) : Prop := ts.getLast? = some .fin ∨ ts.getLast? = some .pad
deriving Decidable

/-- **When an insertion is right**: a failed one finds the byte 255 at the end; another one finds an
End option or a pad byte there, three to 255 bytes and room for an End option, and an empty remote
id is an empty sub-option by chance. -/
def Safe (p : Packet) (ts : List Token) (v : Values) : Prop :=
  if bufSize < p.data.length + 1 + v.len ∨ env.pool = false then p.data.getLast? = some 255
  else Closed ts ∧ 3 ≤ v.len ∧ v.len ≤ 255 ∧ p.data.length + 1 + v.len < bufSize ∧
    (v.remote = some [] → env.junk = (2, 0))
deriving Decidable

theorem parse_inserted {init : List Token} {last : Token} (hinit : Plain init)
    (h : parse (((init ++ [last]).flatMap Token.bytes).dropLast ++ tail data) = some us) :
    ∃ us', us = init ++ us' ∧ parse (last.bytes.dropLast ++ tail data) = some us' := by
  have hne : last.bytes ≠ [] := by
    cases last <;> exact List.cons_ne_nil _ _
  rw [List.flatMap_append, List.flatMap_singleton, List.dropLast_append_of_ne_nil hne,
    List.append_assoc, parse_append hinit] at h
  obtain ⟨us', h', rfl⟩ := Option.map_eq_some_iff.1 h
  exact ⟨us', rfl, h'⟩

theorem reparsed_iff_of_closed {env : Env} {init : List Token} {last : Token}
    (ha : Accepts hdr (init ++ [last])) (hinit : Plain init)
    (hlast : last = .fin ∨ last = .pad) {p' : Packet}
    (hp' : p'.data =
      hdr ++ (((init ++ [last]).flatMap Token.bytes).dropLast ++ tail (v.payload env))) :
    Reparsed (packetOf hdr (init ++ [last])) v p' ↔
      3 ≤ v.len ∧ v.len ≤ 255 ∧ (v.remote = some [] → env.junk = (2, 0)) := by
  have hdrop : last.bytes.dropLast = [] := by
    rcases hlast with rfl | rfl <;> rfl
  have hopts : options (init ++ [last]) = options init := by
    rcases hlast with rfl | rfl <;> simp [options, Token.opt?]
  have hlen := length_payload env v
  unfold Reparsed
  rw [hp']
  constructor
  · rintro ⟨q, o, hq, hqo, htype, hagent⟩
    obtain ⟨us, hus, rfl, -, -, hchk⟩ := (parsePacket_append ha).1 hq
    obtain ⟨us', rfl, hus'⟩ := parse_inserted hinit hus
    rw [hdrop] at hus'
    obtain ⟨us'', rfl⟩ := parse_tail hus'
    have heq : options init ++ added (v.payload env) :: options us'' = options init ++ [o] := by
      have h := hqo
      change options (init ++ .opt _ :: us'') = options (init ++ [last]) ++ [o] at h
      rwa [hopts, options_append, options_opt] at h
    obtain ⟨rfl, -⟩ := List.cons_eq_cons.1 (List.append_cancel_left heq)
    -- all values are in the option, so its length has not been cut
    have hsize := size_le_of_parseOpt82 hagent
    have hlt := (added (v.payload env)).size_lt
    rw [size_agent] at hsize
    have hle : v.len ≤ 255 := by omega
    obtain ⟨hdata, -⟩ := parse_tail_of_le (v.payload env) (by omega)
    have hmem : added (v.payload env) ∈
        List.filterMap Token.opt? (init ++ .opt (added (v.payload env)) :: us'') := by
      rw [List.mem_filterMap]
      exact ⟨.opt _, List.mem_append_right _ List.mem_cons_self, rfl⟩
    have hthree := (checkOption_of_82 rfl).1 (List.all_eq_true.1 hchk _ hmem)
    simp_all [parseOpt82_payload]
  · rintro ⟨hthree, hle, hjunk⟩
    obtain ⟨hdata, htail⟩ := parse_tail_of_le (v.payload env) (by omega)
    have hus : parse (((init ++ [last]).flatMap Token.bytes).dropLast ++ tail (v.payload env)) =
        some (init ++ [.opt (added (v.payload env)), .fin]) := by
      have hne : last.bytes ≠ [] := by
        cases last <;> exact List.cons_ne_nil _ _
      simp_all [parse_append]
    have hall : options (init ++ [.opt (added (v.payload env)), .fin]) =
        options init ++ [added (v.payload env)] := by
      rw [options_append, options_opt, options_fin]
    have htype := ha.type
    have htype_le := ha.type_le
    have hchk := ha.checked
    change msgType (options (init ++ [last])) ≠ 0 at htype
    change ¬ 8 < msgType (options (init ++ [last])) at htype_le
    change checkOptions (options (init ++ [last])) = true at hchk
    rw [hopts] at htype htype_le hchk
    refine ⟨_, added (v.payload env), (parsePacket_append ha).2 ⟨_, hus, rfl, ?_, ?_, ?_⟩, ?_, rfl,
      ?_⟩
    · change msgType (options _) ≠ 0
      rwa [hall, msgType_append rfl]
    · change ¬ 8 < msgType (options _)
      rwa [hall, msgType_append rfl]
    · grind [checkOptions, options, added, checkOption_of_82]
    · change options _ = options _ ++ _
      rw [hall, hopts]
    · rw [hdata]
      exact (parseOpt82_payload env hle).2 hjunk

theorem reparsed_iff {env : Env}
    (ha : Accepts hdr ts) (hplain : Plain ts ∨ ∃ body, Plain body ∧ ts = body ++ [.fin])
    {p' : Packet}
    (hp' : p'.data = hdr ++ ((ts.flatMap Token.bytes).dropLast ++ tail (v.payload env))) :
    Reparsed (packetOf hdr ts) v p' ↔
      Closed ts ∧ 3 ≤ v.len ∧ v.len ≤ 255 ∧ (v.remote = some [] → env.junk = (2, 0)) := by
  rcases List.eq_nil_or_concat ts with rfl | ⟨init, last, hts⟩
  · exact absurd rfl ha.type
  · rw [List.concat_eq_append] at hts
    have hinit : Plain init := by
      rcases hplain with hplain | ⟨body, hplain, hbody⟩
      · exact fun hm => hplain (hts ▸ List.mem_append_left _ hm)
      simp_all
    subst hts
    have hclosed : Closed (init ++ [last]) ↔ last = .fin ∨ last = .pad := by simp [Closed]
    rw [hclosed]
    by_cases hlast : last = .fin ∨ last = .pad
    · rw [reparsed_iff_of_closed ha hinit hlast hp']
      exact (and_iff_right hlast).symm
    · refine ⟨fun h => ?_, fun h => absurd h.1 hlast⟩
      obtain ⟨q, o, hq, hqo, htype, hagent⟩ := h
      cases last with
      | pad => exact absurd (.inr rfl) hlast
      | fin => exact absurd (.inl rfl) hlast
      | opt o₀ =>
        rw [hp'] at hq
        obtain ⟨us, hus, rfl, -⟩ := (parsePacket_append ha).1 hq
        obtain ⟨us', rfl, hus'⟩ := parse_inserted hinit hus
        have heq : options us' = [o₀, o] := by
          have h := hqo
          change options (init ++ us') = options (init ++ [.opt o₀]) ++ [o] at h
          rw [options_append, options_append, List.append_assoc] at h
          exact List.append_cancel_left h
        rcases parse_overwritten (payload_eq_cons env v) hus' heq with h | h
        · exact absurd htype h
        · rw [h] at hagent
          cases hagent

theorem dropLast_concat_eq_iff (h : bs ≠ []) (b : UInt8) :
    bs.dropLast ++ [b] = bs ↔ bs.getLast? = some b := by
  rcases List.eq_nil_or_concat bs with rfl | ⟨init, x, rfl⟩
  · exact absurd rfl h
  simp [eq_comm]

/-- **Insertion of option 82**: for every accepted request and all values the insertion is right
exactly if it is safe. -/
theorem insert_iff (env : Env) (bs : List UInt8) (p : Packet) (hp : parsePacket bs = some p)
    (ts : List Token) (hts : parse (bs.drop hdrSize) = some ts) (v : Values) :
    Right env p v ↔ Safe env p ts v := by
  obtain ⟨hdr, ts', hts', rfl, ha⟩ := parsePacket_eq_some hp
  obtain ⟨-, -, hplain⟩ := parse_eq_some hts
  have hne : ts'.flatMap Token.bytes ≠ [] := by
    intro h
    cases ts' with
    | nil => exact ha.type rfl
    | cons t ts =>
      rw [List.flatMap_cons, List.append_eq_nil_iff] at h
      cases t <;> cases h.1
  have hdata : (packetOf hdr ts').data ≠ [] := by
    intro h
    exact hne (List.append_eq_nil_iff.1 h).2
  have hpos := List.length_pos_of_ne_nil hdata
  have hlen := length_payload env v
  have hcut : (packetOf hdr ts').data.dropLast = hdr ++ (ts'.flatMap Token.bytes).dropLast :=
    List.dropLast_append_of_ne_nil hne
  have hroom : (bufSize < (packetOf hdr ts').data.dropLast.length + (2 + (v.payload env).length) ∨
      env.pool = false) ↔
      (bufSize < (packetOf hdr ts').data.length + 1 + v.len ∨ env.pool = false) := by
    grind
  unfold Right Safe insertOpt82 addOpt
  dsimp only
  by_cases hfail : bufSize < (packetOf hdr ts').data.length + 1 + v.len ∨ env.pool = false
  · rw [if_pos (hroom.2 hfail), if_pos hfail, ← dropLast_concat_eq_iff hdata 255]
    exact ⟨fun h => congrArg Packet.data h, fun h => by rw [h]⟩
  · by_cases hend : (packetOf hdr ts').data.length + 1 + v.len < bufSize
    · have hbytes : (packetOf hdr ts').data.dropLast ++ 82 :: UInt8.ofNat (v.payload env).length ::
          v.payload env ++ [255] =
          hdr ++ ((ts'.flatMap Token.bytes).dropLast ++ tail (v.payload env)) := by
        simp_all [tail]
      grind [reparsed_iff]
    grind

def ethernetHeader : List UInt8 := [1, 1, 6] ++ List.replicate 233 0 ++ [0x63, 0x82, 0x53, 0x63]

/-- A DHCPDISCOVER that has an End option gets its option 82. -/
theorem insert_iff_discover :
    ∃ p, parsePacket (ethernetHeader ++ [53, 1, 1, 255]) = some p ∧
      Right ⟨true, (0, 0)⟩ p ⟨[0x65, 0x74, 0x68, 0x30], none, none⟩ := by
  obtain ⟨p, hp, ts, hts, hsafe⟩ : ∃ p, parsePacket (ethernetHeader ++ [53, 1, 1, 255]) = some p ∧
      ∃ ts, parse ((ethernetHeader ++ [53, 1, 1, 255]).drop hdrSize) = some ts ∧
        Safe ⟨true, (0, 0)⟩ p ts ⟨[0x65, 0x74, 0x68, 0x30], none, none⟩ := by decide +kernel
  exact ⟨p, hp, (insert_iff _ _ p hp ts hts _).2 hsafe⟩

/-- **Without an End option** the last byte is overwritten: a DHCPDISCOVER becomes a refused message
of type 82. -/
theorem no_end_overwritten :
    ∃ p p', parsePacket (ethernetHeader ++ [53, 1, 1]) = some p ∧
      insertOpt82 ⟨true, (0, 0)⟩ p ⟨[0x65, 0x74, 0x68, 0x30], none, none⟩ = .done p' ∧
      parsePacket p'.data = none := by
  let v : Values := ⟨[0x65, 0x74, 0x68, 0x30], none, none⟩
  have hrun : (parsePacket (ethernetHeader ++ [53, 1, 1])).any (fun p =>
      match insertOpt82 ⟨true, (0, 0)⟩ p v with
      | .done p' => (parsePacket p'.data).isNone
      | _ => false) = true := by
    decide +kernel
  obtain ⟨p, hp, hrun⟩ := (Option.any_eq_true _ _).1 hrun
  cases hins : insertOpt82 ⟨true, (0, 0)⟩ p v with
  | done p' =>
    rw [hins] at hrun
    exact ⟨p, p', hp, hins, Option.isNone_iff_eq_none.1 hrun⟩
  | failed p' | overflow =>
    rw [hins] at hrun
    cases hrun

end Ipoe.Opt82
