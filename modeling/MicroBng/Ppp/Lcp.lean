import Mathlib.Algebra.GroupWithZero.Nat
import MicroBng.Ppp.Ccp

/-!
# Configure-Requests of LCP

`lcp_recv_conf_req` of `ppp/ppp_lcp.c` cuts the option field into options, has the handlers judge
them and returns the worst verdict; `send_conf_rej` sends back those that were rejected.

Which options are received is said on the bytes of the field (`Frame.Place`): the first starts with
the field, and each of the others where the one before it ends. Cutting stops at a length that is 0
or too large, and what is left of the field is not looked at.

* `mem_ropts_iff`, `ropts_sorted`: what is cut off are the received options, in order
* `verdictOk_iff`: the verdict is right unless bytes that are no option follow acceptable options
* `sendConfRej_exact`: a Configure-Reject has just the rejected options
-/

namespace Ppp.Lcp

open Ppp.Ccp (Verdict)

/-! ## Model -/

/-- A frame of `size` bytes in the buffer, and behind it old bytes. -/
structure Frame where
  buf : Nat → UInt8
  size : Nat

/-- `ntohs` of the two bytes at `i`. -/
def Frame.be16 (f : Frame) (i : Nat) : Nat := (f.buf i).toNat * 256 + (f.buf (i + 1)).toNat

/-- `ntohl` of the four bytes at `i`. -/
def Frame.be32 (f : Frame) (i : Nat) : Nat := f.be16 i * 65536 + f.be16 (i + 2)

/-- `hdr->code`. -/
def Frame.code (f : Frame) : Nat := (f.buf 2).toNat

/-- `ntohs(hdr->len)`. -/
def Frame.len (f : Frame) : Nat := f.be16 4

/-- `struct recv_opt_t`: an option and where it is in the buffer. -/
structure Ropt where
  pos : Nat
  len : Nat
  deriving DecidableEq

/-- The loop that cuts `size` bytes at `pos` into options; each turn takes something. -/
def cut (buf : Nat → UInt8) : Nat → Nat → Nat → List Ropt
  | 0, _, _ => []
  | fuel + 1, pos, size =>
    let len := (buf (pos + 1)).toNat
    if size = 0 ∨ len = 0 ∨ size < len then []
    else ⟨pos, len⟩ :: cut buf fuel (pos + len) (size - len)

def Frame.field (f : Frame) : Nat := f.len - 4

/-- `ropt_list`. -/
def Frame.ropts (f : Frame) : List Ropt := cut f.buf f.field 6 f.field

/-- `conf_*` of `ppp/lcp_opt_mru.c`, and `max_mtu` of the control type. -/
structure MruConf where
  confMtu : Nat := 0
  confMru : Nat := 0
  confMinMtu : Nat := 100
  confMaxMtu : Nat := 1500
  ctrlMaxMtu : Nat

structure Conf where
  mru : MruConf
  magic : Nat
  pcomp : Nat
  accomp : Nat

/-- `mru_recv_conf_req`; the state is `mtu`. -/
def mruRecvConfReq (cf : MruConf) (len val mtu : Nat) : Nat × Verdict :=
  if len ≠ 4 then (mtu, .rej)
  else if val < cf.confMinMtu ∨ cf.ctrlMaxMtu < val ∨ cf.confMaxMtu < val then (mtu, .nak)
  else (val, .ack)

def magicRecvConfReq (cf : Conf) (len val : Nat) : Verdict :=
  if len ≠ 6 then .rej else if cf.magic ≠ 0 ∧ cf.magic = val then .nak else .ack

/-- `pcomp_recv_conf_req` and `accomp_recv_conf_req`, for the setting `comp`. -/
def compRecvConfReq (comp len : Nat) : Verdict :=
  if len ≠ 2 then .rej else if comp &&& 2 ≠ 0 then .ack else .rej

/-- `lopt->h->recv_conf_req` of the registered options, `none` for an unknown one. -/
def recvConfReqOpt (cf : Conf) (f : Frame) (o : Ropt) (mtu : Nat) : Option (Nat × Verdict) :=
  match (f.buf o.pos).toNat with
  | 1 => some (mruRecvConfReq cf.mru o.len (f.be16 (o.pos + 2)) mtu)
  | 3 => some (mtu, .rej)
  | 5 => some (mtu, magicRecvConfReq cf o.len (f.be32 (o.pos + 2)))
  | 7 => some (mtu, compRecvConfReq cf.pcomp o.len)
  | 8 => some (mtu, compRecvConfReq cf.accomp o.len)
  | _ => none

/-- `mtu`, `ret` and the options with their verdicts. -/
structure Judging where
  mtu : Nat
  ret : Verdict
  ropts : List (Ropt × Verdict)

/-- One turn of the second loop of `lcp_recv_conf_req`. -/
def judgeOpt (cf : Conf) (f : Frame) (j : Judging) (o : Ropt) : Judging :=
  match recvConfReqOpt cf f o j.mtu with
  | some (mtu, r) => ⟨mtu, j.ret.worst r, j.ropts ++ [(o, r)]⟩
  | none => ⟨j.mtu, .rej, j.ropts ++ [(o, .rej)]⟩

def recvConfReq (cf : Conf) (f : Frame) (mtu : Nat) : Judging :=
  f.ropts.foldl (judgeOpt cf f) ⟨mtu, .ack, []⟩

def Frame.bytes (f : Frame) (o : Ropt) : List UInt8 :=
  (List.range o.len).map fun i => f.buf (o.pos + i)

/-- `send_conf_rej`: what is written to the buffer, which has `confRejRoom` bytes. -/
def sendConfRej (f : Frame) (recvId : UInt8) (j : Judging) : List UInt8 :=
  let body := j.ropts.foldl (fun out o => if o.2 = .rej then out ++ f.bytes o.1 else out) []
  let len := 6 + body.length - 2
  [0xc0, 0x21, 4, recvId, UInt8.ofNat (len / 256), UInt8.ofNat len] ++ body

/-- `ropt_len + sizeof(struct lcp_hdr_t)`. -/
def confRejRoom (f : Frame) : Nat := f.field + 6

/-! ## The options -/

/-- `hdr->len` of an option at `pos`. -/
def Frame.lenAt (f : Frame) (pos : Nat) : Nat := (f.buf (pos + 1)).toNat

def Frame.fieldEnd (f : Frame) : Nat := 6 + f.field

/-- At `pos` there is an option that ends within the field. -/
def Frame.OptionAt (f : Frame) (pos : Nat) : Prop :=
  pos < f.fieldEnd ∧ 0 < f.lenAt pos ∧ pos + f.lenAt pos ≤ f.fieldEnd

/-- From a place on, option by option. -/
inductive Frame.PlaceFrom (f : Frame) : Nat → Nat → Prop
  | here (pos : Nat) : f.PlaceFrom pos pos
  | later {pos q : Nat} : f.OptionAt pos → f.PlaceFrom (pos + f.lenAt pos) q → f.PlaceFrom pos q

/-- The start of the field, and where options of it end. -/
def Frame.Place (f : Frame) (pos : Nat) : Prop := f.PlaceFrom 6 pos

/-- An option of the field. -/
def Frame.Received (f : Frame) (o : Ropt) : Prop :=
  f.Place o.pos ∧ f.OptionAt o.pos ∧ o.len = f.lenAt o.pos

/-- Bytes are left at `pos` that are no option. -/
def Frame.Left (f : Frame) (pos : Nat) : Prop :=
  f.Place pos ∧ pos < f.fieldEnd ∧ ¬f.OptionAt pos

def verdict (cf : Conf) (f : Frame) (o : Ropt) : Verdict :=
  ((recvConfReqOpt cf f o 0).map Prod.snd).getD .rej

/-- An option that is acknowledged: an MRU in the configured range, a magic number that is not our
own, or a compression that is allowed. -/
def Acceptable (cf : Conf) (f : Frame) (o : Ropt) : Prop :=
  match (f.buf o.pos).toNat with
  | 1 => o.len = 4 ∧ cf.mru.confMinMtu ≤ f.be16 (o.pos + 2) ∧
      f.be16 (o.pos + 2) ≤ min cf.mru.ctrlMaxMtu cf.mru.confMaxMtu
  | 5 => o.len = 6 ∧ (cf.magic = 0 ∨ f.be32 (o.pos + 2) ≠ cf.magic)
  | 7 => o.len = 2 ∧ cf.pcomp &&& 2 ≠ 0
  | 8 => o.len = 2 ∧ cf.accomp &&& 2 ≠ 0
  | _ => False

def MostSevere (v : Verdict) (vs : List Verdict) : Prop :=
  (∀ w ∈ vs, v.code ≤ w.code) ∧ (v ∈ vs ∨ vs = [] ∧ v = .ack)

variable {cf : Conf} {f : Frame} {o : Ropt} {pos q : Nat}

theorem Frame.PlaceFrom.le (h : f.PlaceFrom pos q) : pos ≤ q := by
  induction h with
  | here => exact Nat.le_refl _
  | later _ _ ih => omega

theorem Frame.PlaceFrom.eq_or (h : f.PlaceFrom pos q) :
    q = pos ∨ f.OptionAt pos ∧ f.PlaceFrom (pos + f.lenAt pos) q := by
  cases h with
  | here => exact .inl rfl
  | later ho h => exact .inr ⟨ho, h⟩

theorem optionAt_iff {size : Nat} (h : pos + size = f.fieldEnd) :
    f.OptionAt pos ↔ ¬(size = 0 ∨ (f.buf (pos + 1)).toNat = 0 ∨ size < (f.buf (pos + 1)).toNat) := by
  unfold Frame.OptionAt Frame.lenAt
  omega

/-- **What is cut off** are the options of the field. -/
theorem mem_cut_iff {fuel size : Nat} (hsize : pos + size = f.fieldEnd) (hfuel : size ≤ fuel) :
    o ∈ cut f.buf fuel pos size ↔
      f.PlaceFrom pos o.pos ∧ f.OptionAt o.pos ∧ o.len = f.lenAt o.pos := by
  induction fuel generalizing pos size with
  | zero =>
    refine iff_of_false (by simp [cut]) fun ⟨hp, hopt, _⟩ => ?_
    have hle := hp.le
    have hlt := hopt.1
    omega
  | succ fuel ih =>
    have hopt := optionAt_iff hsize
    unfold cut
    dsimp only
    split
    case isTrue hstop =>
      refine iff_of_false (by simp) fun ⟨hp, ho, _⟩ => ?_
      rcases hp.eq_or with heq | ⟨hat, -⟩
      · exact hopt.1 (heq ▸ ho) hstop
      · exact hopt.1 hat hstop
    case isFalse hgo =>
      have hat := hopt.2 hgo
      have hlen : f.lenAt pos = (f.buf (pos + 1)).toNat := rfl
      rw [List.mem_cons, ih (by omega) (by omega), ← hlen]
      constructor
      · rintro (rfl | ⟨hp, ho, hl⟩)
        · exact ⟨.here _, hat, rfl⟩
        · exact ⟨.later hat hp, ho, hl⟩
      · rintro ⟨hp, ho, hl⟩
        rcases hp.eq_or with heq | ⟨-, hp⟩
        · exact .inl (by cases o; simp_all)
        · exact .inr ⟨hp, ho, hl⟩

theorem mem_ropts_iff : o ∈ f.ropts ↔ f.Received o := mem_cut_iff rfl (Nat.le_refl _)

theorem cut_sorted {fuel size : Nat} (hsize : pos + size = f.fieldEnd) (hfuel : size ≤ fuel) :
    (cut f.buf fuel pos size).Pairwise fun a b => a.pos < b.pos := by
  induction fuel generalizing pos size with
  | zero => simp [cut]
  | succ fuel ih =>
    unfold cut
    dsimp only
    split
    · exact .nil
    · refine .cons (fun o ho => ?_) (ih (by omega) (by omega))
      have hle := ((mem_cut_iff (by omega) (by omega)).1 ho).1.le
      dsimp only
      omega

theorem ropts_sorted (f : Frame) : f.ropts.Pairwise fun a b => a.pos < b.pos :=
  cut_sorted rfl (Nat.le_refl _)

/-- The options take up the field, or bytes are left. -/
theorem consumed_or_left {size : Nat} (hsize : pos + size = f.fieldEnd) :
    f.PlaceFrom pos f.fieldEnd ∨ ∃ p, f.PlaceFrom pos p ∧ p < f.fieldEnd ∧ ¬f.OptionAt p := by
  induction size using Nat.strongRecOn generalizing pos with
  | ind size ih =>
    by_cases hzero : size = 0
    · exact .inl (by rw [← hsize, hzero]; exact .here _)
    by_cases hopt : f.OptionAt pos
    · have hlen := hopt.2
      have hsize' : pos + f.lenAt pos + (size - f.lenAt pos) = f.fieldEnd := by omega
      rcases ih (size - f.lenAt pos) (by omega) hsize' with h | ⟨p, h, hp⟩
      · exact .inl (.later hopt h)
      · exact .inr ⟨p, .later hopt h, hp⟩
    · exact .inr ⟨pos, .here _, by omega, hopt⟩

theorem optionAt_of_consumed (h : f.PlaceFrom pos f.fieldEnd) (hq : f.PlaceFrom pos q)
    (hlt : q < f.fieldEnd) : f.OptionAt q := by
  generalize hend : f.fieldEnd = n at h hlt
  induction h with
  | here =>
    have hle := hq.le
    omega
  | later hopt _ ih =>
    rcases hq.eq_or with rfl | ⟨-, hq⟩
    · exact hopt
    · exact ih hq hend hlt

theorem consumed_iff : f.Place f.fieldEnd ↔ ∀ p, ¬f.Left p := by
  constructor
  · rintro h p ⟨hp, hlt, hno⟩
    exact hno (optionAt_of_consumed h hp hlt)
  · intro h
    rcases consumed_or_left (f := f) rfl with hc | ⟨p, hp⟩
    · exact hc
    · exact absurd hp (h p)

theorem cut_sum_le (buf : Nat → UInt8) (fuel pos size : Nat) :
    ((cut buf fuel pos size).map Ropt.len).sum ≤ size := by
  induction fuel generalizing pos size with
  | zero => simp [cut]
  | succ fuel ih =>
    simp only [cut]
    split
    · simp
    · have := ih (pos + (buf (pos + 1)).toNat) (size - (buf (pos + 1)).toNat)
      simp only [List.map_cons, List.sum_cons]
      omega

theorem verdict_cases (cf : Conf) (f : Frame) (o : Ropt) :
    verdict cf f o = .ack ∧ 2 ≤ o.len ∨ verdict cf f o = .nak ∨ verdict cf f o = .rej := by
  unfold verdict recvConfReqOpt mruRecvConfReq magicRecvConfReq compRecvConfReq
  split <;> grind

theorem recvConfReqOpt_verdict (cf : Conf) (f : Frame) (o : Ropt) (mtu : Nat) :
    ((recvConfReqOpt cf f o mtu).map Prod.snd).getD .rej = verdict cf f o := by
  unfold verdict recvConfReqOpt mruRecvConfReq
  split <;> grind

theorem verdict_eq_ack_iff : verdict cf f o = .ack ↔ Acceptable cf f o := by
  unfold verdict recvConfReqOpt mruRecvConfReq magicRecvConfReq compRecvConfReq Acceptable
  split <;> grind

/-! ## The verdict on the request -/

theorem MostSevere.snoc {v w : Verdict} {vs : List Verdict} (h : MostSevere v vs)
    (hw : w = .ack ∨ w = .nak ∨ w = .rej) : MostSevere (v.worst w) (vs ++ [w]) := by
  obtain ⟨hall, hmem⟩ := h
  unfold Verdict.worst
  split
  case isTrue hlt =>
    refine ⟨fun x hx => ?_, .inl (by simp)⟩
    rcases List.mem_append.1 hx with hx | hx
    · have := hall x hx
      omega
    · exact Int.le_of_eq (by rw [List.mem_singleton.1 hx])
  case isFalse hge =>
    refine ⟨fun x hx => ?_, ?_⟩
    · rcases List.mem_append.1 hx with hx | hx
      · exact hall x hx
      · rw [List.mem_singleton.1 hx]
        omega
    · rcases hmem with hmem | ⟨rfl, rfl⟩
      · exact .inl (by simp [hmem])
      · rcases hw with rfl | rfl | rfl <;> simp [Verdict.code] at hge ⊢

/-- What the loop has found after the options `os`. -/
structure Judged (cf : Conf) (f : Frame) (os : List Ropt) (j : Judging) : Prop where
  ropts : j.ropts = os.map fun o => (o, verdict cf f o)
  severe : MostSevere j.ret (os.map (verdict cf f))

theorem judgeOpt_judged {os : List Ropt} {j : Judging} (h : Judged cf f os j) (o : Ropt) :
    Judged cf f (os ++ [o]) (judgeOpt cf f j o) := by
  have hv := recvConfReqOpt_verdict cf f o j.mtu
  have hc : verdict cf f o = .ack ∨ verdict cf f o = .nak ∨ verdict cf f o = .rej :=
    (verdict_cases cf f o).imp_left And.left
  have hsnoc := h.severe.snoc hc
  unfold judgeOpt
  cases hr : recvConfReqOpt cf f o j.mtu with
  | some r =>
    rw [hr] at hv
    exact ⟨by simp [h.ropts, ← hv], by simpa [← hv] using hsnoc⟩
  | none =>
    -- an unknown option sets the verdict, and nothing is worse than a rejection
    rw [hr] at hv
    have hrej : j.ret.worst .rej = .rej := by
      have hret : j.ret = .ack ∨ j.ret = .nak ∨ j.ret = .rej := by
        rcases h.severe.2 with hmem | ⟨-, h⟩
        · obtain ⟨x, -, hx⟩ := List.mem_map.1 hmem
          rw [← hx]
          exact (verdict_cases cf f x).imp_left And.left
        · exact .inl h
      rcases hret with h | h | h <;> rw [h] <;> decide
    exact ⟨by simp [h.ropts, ← hv], by simpa [← hv, hrej] using hsnoc⟩

theorem recvConfReq_judged (cf : Conf) (f : Frame) (mtu : Nat) :
    Judged cf f f.ropts (recvConfReq cf f mtu) := by
  suffices ∀ (os' os : List Ropt) (j : Judging), Judged cf f os j →
      Judged cf f (os ++ os') (os'.foldl (judgeOpt cf f) j) from
    this f.ropts [] _ ⟨rfl, by simp [MostSevere]⟩
  intro os'
  induction os' with
  | nil => exact fun os j h => by simpa using h
  | cons o os' ih =>
    intro os j h
    rw [List.append_cons]
    exact ih _ _ (judgeOpt_judged h o)

/-- The request gets the most severe verdict on an option of the field, and is acknowledged only if
the field is made up of options with at least two bytes. -/
structure VerdictOk (cf : Conf) (f : Frame) (mtu : Nat) : Prop where
  most : ∀ o, f.Received o → (recvConfReq cf f mtu).ret.code ≤ (verdict cf f o).code
  given : (∃ o, f.Received o ∧ verdict cf f o = (recvConfReq cf f mtu).ret) ∨
    (∀ o, ¬f.Received o) ∧ (recvConfReq cf f mtu).ret = .ack
  consumed : (recvConfReq cf f mtu).ret = .ack →
    f.Place f.fieldEnd ∧ ∀ o, f.Received o → 2 ≤ o.len

theorem recvConfReq_severe (cf : Conf) (f : Frame) (mtu : Nat) :
    (∀ o, f.Received o → (recvConfReq cf f mtu).ret.code ≤ (verdict cf f o).code) ∧
      ((∃ o, f.Received o ∧ verdict cf f o = (recvConfReq cf f mtu).ret) ∨
        (∀ o, ¬f.Received o) ∧ (recvConfReq cf f mtu).ret = .ack) := by
  obtain ⟨hall, hmem⟩ := (recvConfReq_judged cf f mtu).severe
  refine ⟨fun o ho => hall _ (List.mem_map_of_mem (mem_ropts_iff.2 ho)), ?_⟩
  rcases hmem with hmem | ⟨hnil, hack⟩
  · obtain ⟨o, ho, hv⟩ := List.mem_map.1 hmem
    exact .inl ⟨o, mem_ropts_iff.1 ho, hv⟩
  · refine .inr ⟨fun o ho => ?_, hack⟩
    have hmem := mem_ropts_iff.2 ho
    rw [List.map_eq_nil_iff.1 hnil] at hmem
    cases hmem

theorem recvConfReq_ack_iff (cf : Conf) (f : Frame) (mtu : Nat) :
    (recvConfReq cf f mtu).ret = .ack ↔ ∀ o, f.Received o → Acceptable cf f o := by
  obtain ⟨hmost, hgiven⟩ := recvConfReq_severe cf f mtu
  constructor
  · intro hack o ho
    have hcode := hmost o ho
    rw [← verdict_eq_ack_iff]
    rcases verdict_cases cf f o with h | h | h
    · exact h.1
    all_goals
      rw [hack, h] at hcode
      exact absurd hcode (by decide)
  · intro hall
    rcases hgiven with ⟨o, ho, hv⟩ | ⟨-, hack⟩
    · rw [← hv, verdict_eq_ack_iff]
      exact hall o ho
    · exact hack

/-- **The verdict on a request is right** unless the options of the field are all acceptable and
bytes that are no option follow them. -/
theorem verdictOk_iff (cf : Conf) (f : Frame) (mtu : Nat) :
    VerdictOk cf f mtu ↔ ¬∃ p, f.Left p ∧ ∀ o, f.Received o → Acceptable cf f o := by
  obtain ⟨hmost, hgiven⟩ := recvConfReq_severe cf f mtu
  have hack := recvConfReq_ack_iff cf f mtu
  constructor
  · rintro h ⟨p, hp, hall⟩
    exact consumed_iff.1 (h.consumed (hack.2 hall)).1 p hp
  · intro h
    refine ⟨hmost, hgiven, fun hret => ⟨consumed_iff.2 fun p hp => h ⟨p, hp, hack.1 hret⟩, ?_⟩⟩
    intro o ho
    have hv := verdict_eq_ack_iff.2 (hack.1 hret o ho)
    rcases verdict_cases cf f o with hc | hc | hc
    · exact hc.2
    all_goals
      rw [hv] at hc
      cases hc

def frameOf (bytes : List UInt8) : Frame :=
  ⟨fun i => ([0xc0, 0x21] ++ bytes).getD i 0, bytes.length + 2⟩

def defaults : Conf := ⟨{ ctrlMaxMtu := 1492 }, 0, 0, 0⟩

/-- **A request that is not made up of options is acknowledged.** -/
theorem malformed_acknowledged :
    (recvConfReq defaults (frameOf [1, 1, 0, 6, 1, 0]) 1500).ret = .ack ∧
      ¬VerdictOk defaults (frameOf [1, 1, 0, 6, 1, 0]) 1500 := by
  have hack : (recvConfReq defaults (frameOf [1, 1, 0, 6, 1, 0]) 1500).ret = .ack := by decide
  refine ⟨hack, fun h => consumed_iff.1 (h.consumed hack).1 6 ⟨.here 6, by decide, ?_⟩⟩
  rintro ⟨-, hpos, -⟩
  exact absurd hpos (by decide)

/-! ## The Configure-Reject -/

theorem bytes_length (f : Frame) (o : Ropt) : (f.bytes o).length = o.len := by simp [Frame.bytes]

theorem field_le (f : Frame) : f.field ≤ 65531 := by
  have h4 := (f.buf 4).toNat_lt
  have h5 := (f.buf (4 + 1)).toNat_lt
  unfold Frame.field Frame.len Frame.be16
  omega

theorem foldl_rejected (f : Frame) (l : List (Ropt × Verdict)) (out : List UInt8) :
    l.foldl (fun out o => if o.2 = .rej then out ++ f.bytes o.1 else out) out =
      out ++ (l.filter fun o => o.2 = .rej).flatMap fun o => f.bytes o.1 := by
  induction l generalizing out with
  | nil => simp
  | cons o l ih =>
    rw [List.foldl_cons]
    split <;> simp_all

theorem rejected_length_le (f : Frame) (p : Ropt → Bool) :
    ((f.ropts.filter p).flatMap f.bytes).length ≤ f.field := by
  refine Nat.le_trans ?_ (cut_sum_le f.buf f.field 6 f.field)
  unfold Frame.ropts
  induction cut f.buf f.field 6 f.field with
  | nil => simp
  | cons o os ih =>
    by_cases h : p o = true
    · rw [List.filter_cons_of_pos h, List.flatMap_cons, List.length_append, bytes_length,
        List.map_cons, List.sum_cons]
      omega
    · rw [List.filter_cons_of_neg h, List.map_cons, List.sum_cons]
      omega

/-- **A Configure-Reject has just the rejected options** of the field, as received and in order,
with the right length, and it fits. -/
theorem sendConfRej_exact (cf : Conf) (f : Frame) (mtu : Nat) (recvId : UInt8) :
    let sent := sendConfRej f recvId (recvConfReq cf f mtu)
    ∃ os : List Ropt, (os.Pairwise fun a b => a.pos < b.pos) ∧ (∀ o, o ∈ os ↔ f.Received o) ∧
      sent.drop 6 = (os.filter fun o => verdict cf f o = .rej).flatMap f.bytes ∧
      (sent.getD 4 0).toNat * 256 + (sent.getD 5 0).toNat = sent.length - 2 ∧
      sent.length ≤ confRejRoom f := by
  have hle := rejected_length_le f fun o => verdict cf f o = .rej
  have hfield := field_le f
  refine ⟨f.ropts, ropts_sorted f, fun o => mem_ropts_iff, ?_⟩
  simp only [sendConfRej, foldl_rejected, (recvConfReq_judged cf f mtu).ropts, List.filter_map,
    List.flatMap_map, Function.comp_def, confRejRoom]
  generalize (f.ropts.filter fun o => verdict cf f o = .rej).flatMap f.bytes = body at hle
  refine ⟨rfl, ?_, ?_⟩
  · simp
    omega
  · simp
    omega

end Ppp.Lcp
