import MicroBng.Ppp.Address
import MicroBng.Ppp.Lcp

/-!
# Values that are suggested

A handler that does not like the value of an option answers with a Configure-Nak and suggests
another one. A peer that takes the suggestion should be acknowledged.

* `suggestions_accepted_iff` : when it is. The address of IPCP always; the MRU of LCP unless
  `min-mtu` is above the MTU that is configured, where `load_config` compares with `mru` only; the
  interface identifier of IPV6CP unless it is this side's own, which with
  `ipv6-accept-peer-intf-id` a peer that asks for it gets suggested; MPPE unless it is required
  while the keys that came are not for 128 bits.
* `Ipcp.confNak_iff` : the Configure-Nak of IPCP has one suggestion for each option that was not
  liked, however often it occurs, so it fits its buffer exactly if these are at most five.
-/

namespace Ppp

/-! ## The handlers -/

namespace Lcp

open Ppp.Ccp (Verdict)

/-- `load_config` of `ppp/lcp_opt_mru.c`; `none` for an option that is missing or not positive. -/
def loadConfig (mtu mru minMtu maxMtu : Option Nat) (c : MruConf) : MruConf :=
  let c := { c with
    confMtu := mtu.getD c.confMtu
    confMru := mru.getD c.confMru
    confMinMtu := minMtu.getD c.confMinMtu
    confMaxMtu := maxMtu.getD c.confMaxMtu }
  if c.confMru ≠ 0 ∧ c.confMru < c.confMinMtu then { c with confMinMtu := c.confMru } else c

/-- `mru_init`: the MTU. -/
def mruInit (c : MruConf) : Nat :=
  min (if c.confMtu ≠ 0 ∧ c.confMtu ≤ c.ctrlMaxMtu then c.confMtu else c.ctrlMaxMtu) c.confMaxMtu

/-- `mru_send_conf_nak`: the value, of 16 bits. -/
def mruSendConfNak (mtu : Nat) : Nat := mtu % 65536

def mruStep (c : MruConf) (mtu : Nat) (o : Nat × UInt16) : Nat :=
  (mruRecvConfReq c o.1 o.2.toNat mtu).1

/-- The suggestion that answers any value, of 16 bits, is accepted. -/
def MruAccepts (c : MruConf) (mtu : Nat) : Prop :=
  ∀ len (val : UInt16) mtu', mruRecvConfReq c len val.toNat mtu = (mtu', .nak) →
    (mruRecvConfReq c 4 (mruSendConfNak mtu') mtu').2 = .ack

end Lcp

namespace Ipv6cp

open Ppp.Ipcp (Verdict)

/-- `intf_id` and `peer_intf_id` of `struct ipv6db_item_t`. -/
structure Ids where
  intfId : UInt64
  peerIntfId : UInt64
  deriving DecidableEq

/-- `conf_accept_peer_intf_id` and `conf_check_exists`. -/
structure Conf where
  confAcceptPeerIntfId : Bool
  confCheckExists : Bool

/-- What comes from outside: `ipdb_get_ipv6`, `generate_intf_id`, `generate_peer_intf_id` and
`check_exists`. -/
structure Env where
  ipdb : Option Ids
  intfId : UInt64
  peerIntfId : UInt64
  taken : Bool

/-- The identifiers `alloc_ip` gives to the session. -/
def Env.ids (env : Env) : Ids :=
  let ids := env.ipdb.getD ⟨0, 0⟩
  if ids.intfId = 0 then { ids with intfId := env.intfId } else ids

/-- The end of `ipaddr_recv_conf_req`. -/
def compareId (val : UInt64) (ids : Ids) : Option Ids × Verdict :=
  (some ids, if val ≠ 0 ∧ ids.peerIntfId = val ∧ val ≠ ids.intfId then .ack else .nak)

/-- `ipaddr_recv_conf_req`; the state is `ses.ipv6`. -/
def ipaddrRecvConfReq (cf : Conf) (env : Env) (len : Nat) (val : UInt64) (ipv6 : Option Ids) :
    Option Ids × Verdict :=
  if len ≠ 10 then (ipv6, .rej)
  else if ipv6 = none ∧ cf.confCheckExists ∧ env.taken then (some env.ids, .fail)
  else
    let ids := ipv6.getD env.ids
    if cf.confAcceptPeerIntfId ∧ val ≠ 0 then compareId val { ids with peerIntfId := val }
    else if ids.peerIntfId = 0 then
      if env.peerIntfId = 0 then (some ids, .termack)
      else compareId val { ids with peerIntfId := env.peerIntfId }
    else compareId val ids

/-- `ipaddr_send_conf_nak`: the value. -/
def ipaddrSendConfNak (ipv6 : Option Ids) : Option UInt64 := ipv6.map Ids.peerIntfId

def Accepts (cf : Conf) (env : Env) (len : Nat) (val : UInt64) (ipv6 : Option Ids) : Prop :=
  ∀ ipv6', ipaddrRecvConfReq cf env len val ipv6 = (ipv6', .nak) →
    ∀ v, ipaddrSendConfNak ipv6' = some v →
      ∀ env', (ipaddrRecvConfReq cf env' 10 v ipv6').2 = .ack

/-- The identifier that the handler has for a peer that asks for `val`. -/
def offered (cf : Conf) (env : Env) (val : UInt64) (ids : Ids) : UInt64 :=
  if cf.confAcceptPeerIntfId ∧ val ≠ 0 then val
  else if ids.peerIntfId = 0 then env.peerIntfId
  else ids.peerIntfId

/-- The identifiers of the session cannot be had: `alloc_ip` fails. -/
def NoIds (cf : Conf) (env : Env) (ipv6 : Option Ids) : Prop :=
  ipv6 = none ∧ cf.confCheckExists = true ∧ env.taken = true
  deriving Decidable

theorem ipaddrRecvConfReq_nak_iff {cf : Conf} {env : Env} {len : Nat} {val : UInt64}
    {ipv6 ipv6' : Option Ids} :
    ipaddrRecvConfReq cf env len val ipv6 = (ipv6', .nak) ↔
      len = 10 ∧ ¬NoIds cf env ipv6 ∧ offered cf env val (ipv6.getD env.ids) ≠ 0 ∧
        ¬(offered cf env val (ipv6.getD env.ids) = val ∧ val ≠ (ipv6.getD env.ids).intfId) ∧
        ipv6' = some { ipv6.getD env.ids with
          peerIntfId := offered cf env val (ipv6.getD env.ids) } := by
  unfold ipaddrRecvConfReq compareId offered NoIds
  generalize ipv6.getD env.ids = ids
  obtain ⟨own, peer⟩ := ids
  grind

/-- A suggested identifier is accepted if it is not this side's own. -/
theorem ipaddrRecvConfReq_suggested {cf : Conf} {env : Env} {ids : Ids}
    (h : ids.peerIntfId ≠ 0) :
    (ipaddrRecvConfReq cf env 10 ids.peerIntfId (some ids)).2 = .ack ↔
      ids.peerIntfId ≠ ids.intfId := by
  unfold ipaddrRecvConfReq compareId
  grind

theorem accepts_iff {cf : Conf} {env : Env} {val : UInt64} {ipv6 : Option Ids} (len : Nat) :
    Accepts cf env len val ipv6 ↔
      len ≠ 10 ∨ NoIds cf env ipv6 ∨ offered cf env val (ipv6.getD env.ids) = 0 ∨
        offered cf env val (ipv6.getD env.ids) ≠ (ipv6.getD env.ids).intfId := by
  constructor
  · intro h
    by_contra hno
    simp only [not_or, Decidable.not_not] at hno
    obtain ⟨hlen, hids, hne, hown⟩ := hno
    -- the identifier offered is this side's own: it is suggested, and refused
    have hnak := ipaddrRecvConfReq_nak_iff.2 ⟨hlen, hids, hne, fun hv => hv.2 (hv.1 ▸ hown), rfl⟩
    exact (ipaddrRecvConfReq_suggested hne).1 (h _ hnak _ rfl env) hown
  · intro h ipv6' hnak v hv env'
    obtain ⟨hlen, hids, hne, -, rfl⟩ := ipaddrRecvConfReq_nak_iff.1 hnak
    cases hv
    refine (ipaddrRecvConfReq_suggested hne).2 ?_
    exact ((h.resolve_left fun h => h hlen).resolve_left hids).resolve_left hne

end Ipv6cp

namespace Lcp

variable {c : MruConf} {mtu : Nat}

/-- A value that `mru_recv_conf_req` acknowledges. -/
def InRange (c : MruConf) (val : Nat) : Prop :=
  c.confMinMtu ≤ val ∧ val ≤ c.ctrlMaxMtu ∧ val ≤ c.confMaxMtu

theorem mruRecvConfReq_nak {len val mtu' : Nat} :
    mruRecvConfReq c len val mtu = (mtu', .nak) ↔ len = 4 ∧ ¬InRange c val ∧ mtu' = mtu := by
  unfold mruRecvConfReq InRange
  grind

theorem mruRecvConfReq_ack {val : Nat} : (mruRecvConfReq c 4 val mtu).2 = .ack ↔ InRange c val := by
  unfold mruRecvConfReq InRange
  grind

theorem mruAccepts_iff : MruAccepts c mtu ↔ InRange c (mtu % 65536) := by
  constructor
  · intro h
    by_contra hno
    -- the value itself is refused, and gets itself suggested
    have hval : (UInt16.ofNat mtu).toNat = mtu % 65536 := UInt16.toNat_ofNat'
    have hnak : mruRecvConfReq c 4 (UInt16.ofNat mtu).toNat mtu = (mtu, .nak) :=
      mruRecvConfReq_nak.2 ⟨rfl, hval ▸ hno, rfl⟩
    exact hno (mruRecvConfReq_ack.1 (h 4 _ mtu hnak))
  · intro h len val mtu' hnak
    obtain ⟨-, -, rfl⟩ := mruRecvConfReq_nak.1 hnak
    exact mruRecvConfReq_ack.2 h

/-- A request of the history that was acknowledged. -/
def Agreed (c : MruConf) (o : Nat × UInt16) : Prop := o.1 = 4 ∧ InRange c o.2.toNat

theorem mruStep_eq (c : MruConf) (mtu : Nat) (o : Nat × UInt16) :
    mruStep c mtu o = mtu ∧ ¬Agreed c o ∨ mruStep c mtu o = o.2.toNat ∧ Agreed c o := by
  unfold mruStep mruRecvConfReq Agreed InRange
  grind

/-- The MTU is the initial one until a request is acknowledged, and one in range from then on. -/
theorem inRange_foldl (os : List (Nat × UInt16)) :
    InRange c (os.foldl (mruStep c) mtu % 65536) ↔
      (∃ o ∈ os, Agreed c o) ∨ InRange c (mtu % 65536) := by
  induction os generalizing mtu with
  | nil => simp
  | cons o os ih =>
    rw [List.foldl_cons, ih]
    obtain ⟨hstep, hno⟩ | ⟨hstep, hyes⟩ := mruStep_eq c mtu o
    · simp [hstep, hno]
    · have hval : o.2.toNat % 65536 = o.2.toNat := Nat.mod_eq_of_lt o.2.toNat_lt
      simp [hstep, hyes, hval, hyes.2]

theorem mruInit_inRange : InRange c (mruInit c % 65536) ↔ c.confMinMtu ≤ mruInit c % 65536 := by
  have hle : mruInit c ≤ c.ctrlMaxMtu ∧ mruInit c ≤ c.confMaxMtu := by
    unfold mruInit
    grind
  unfold InRange
  omega

end Lcp

namespace Ipcp

open Ppp.Ccp (Opt)

def AddrAccepts (cf : Conf) (env : Env) (o : Opt) (d : Data) : Prop :=
  ∀ d', ipaddrRecvConfReq cf env o d = (d', .nak) → ∀ env' (o' : Opt), o'.len = 6 →
    o'.val = (sendConfNakOpt d' .addr).2 → (ipaddrRecvConfReq cf env' o' d').2 = .ack

theorem addrAccepts (cf : Conf) (env : Env) (o : Opt) (d : Data) : AddrAccepts cf env o d := by
  intro d' hnak env' o' hlen hval
  have hip : ∃ ip, d'.ipv4 = some ip := by
    unfold ipaddrRecvConfReq compareAddr needIp allocIp at hnak
    grind
  obtain ⟨ip, hip⟩ := hip
  simp only [sendConfNakOpt] at hval
  simp [ipaddrRecvConfReq, needIp, hip, compareAddr, hlen, hval]

end Ipcp

namespace Ccp

inductive MppeEvent
  | req (o : Option Opt)
  | rej
  | nak (o : Opt)
  | keys (k : Keys)
  | ask

def mppeStep (cf : Conf) (d : Data) : MppeEvent → Data
  | .req o => (mppeRecvConfReq cf o d).1
  | .rej => (mppeRecvConfRej d).1
  | .nak o => mppeRecvConfNak o d
  | .keys k => evMppeKeys cf k d
  | .ask => (mppeOption cf true d).1

def MppeAccepts (cf : Conf) (d : Data) : Prop :=
  ∀ o d', mppeRecvConfReq cf o d = (d', .nak) → ∀ v, (mppeOption cf false d').2 = some v →
    ∀ o' : Opt, o'.len = 6 → o'.val = v → (mppeRecvConfReq cf (some o') d').2 = .ack

/-- What the configuration and the keys that came say. -/
structure Keyed where
  /-- Encryption is required. -/
  required : Bool
  /-- 128 bits are not allowed. -/
  weak : Bool

def keyed (cf : Conf) (s : Keyed) : MppeEvent → Keyed
  | .keys k =>
    if k.policy = -1 then s
    else if k.type &&& 4 = 0 then { s with weak := true }
    else if cf.ctrlMppe = none then ⟨k.policy = 2, false⟩
    else s
  | _ => s

/-- The option's state follows what the keys say: while encryption is required, `mppe` is 0 exactly
if 128 bits are not allowed. -/
def Follows (s : Keyed) (d : Data) : Prop :=
  (s.required = true ↔ d.policy = 2) ∧ (d.policy = 2 → (s.weak = true ↔ d.mppe = 0))

theorem follows_mppeStep {cf : Conf} {s : Keyed} {d : Data} (h : Follows s d) (e : MppeEvent) :
    Follows (keyed cf s e) (mppeStep cf d e) := by
  unfold Follows at *
  cases e with
  | req o =>
    unfold keyed mppeStep mppeRecvConfReq mppeAccept
    grind
  | rej =>
    unfold keyed mppeStep mppeRecvConfRej
    grind
  | nak o =>
    unfold keyed mppeStep mppeRecvConfNak
    grind
  | keys k =>
    unfold keyed mppeStep evMppeKeys
    grind
  | ask =>
    unfold keyed mppeStep mppeOption
    grind

theorem follows_foldl (cf : Conf) {s : Keyed} {d : Data} (h : Follows s d)
    (es : List MppeEvent) :
    Follows (es.foldl (keyed cf) s) (es.foldl (mppeStep cf) d) := by
  induction es generalizing s d with
  | nil => exact h
  | cons e es ih => exact ih (follows_mppeStep h e)

theorem follows_layerInit (cf : Conf) (id : UInt8) :
    Follows ⟨cf.mppe = .require, false⟩ (layerInit cf id).data := by
  unfold Follows
  rcases hm : cf.mppe <;> simp [layerInit, hm, Setting.code]

/-- What a refused request leaves behind. -/
theorem mppeRecvConfReq_nak {cf : Conf} {o : Option Opt} {d d' : Data}
    (h : mppeRecvConfReq cf o d = (d', .nak)) :
    (d.policy = 2 ∧ d' = d) ∨ (d.policy = 1 ∧ d' = { d with mppe := 1 }) ∨
      (d.policy = 1 ∧ cf.mppe ≠ .prefer ∧ d' = { d with mppe := 0 }) := by
  have hacc (d : Data) : (mppeAccept cf d).2 ≠ .nak := by
    unfold mppeAccept
    grind
  unfold mppeRecvConfReq at h
  cases o with
  | none => grind
  | some o =>
    by_cases hp : d.policy = 2
    · grind
    · rw [if_neg hp] at h
      by_cases hval : o.val &&& mppeSH ≠ 0 ∨ cf.mppe = .prefer
      · grind
      · grind

theorem mppeAccepts_iff {cf : Conf} {d : Data} (hk : cf.kernelMppe = true) :
    MppeAccepts cf d ↔ ¬(d.policy = 2 ∧ d.mppe = 0) := by
  constructor
  · rintro h ⟨hpolicy, hmppe⟩
    -- a request without the option gets no encryption suggested, which is refused
    have hnak : mppeRecvConfReq cf none d = (d, .nak) := by simp [mppeRecvConfReq, hpolicy]
    have hv : (mppeOption cf false d).2 = some 0 := by simp [mppeOption, hmppe]
    have hack := h none d hnak 0 hv ⟨[18, 6, 0, 0, 0, 0]⟩ (by decide) (by decide)
    have hval : (⟨[18, 6, 0, 0, 0, 0]⟩ : Opt).val ≠ mppeSH := by decide
    have hlen : (⟨[18, 6, 0, 0, 0, 0]⟩ : Opt).len = 6 := by decide
    simp [mppeRecvConfReq, hpolicy, hval, hlen] at hack
  · intro h o d' hnak v hv o' hlen hval
    simp only [mppeRecvConfReq, hlen, hval, mppeOption] at hv ⊢
    obtain ⟨hpolicy, rfl⟩ | ⟨hpolicy, rfl⟩ | ⟨hpolicy, hprefer, rfl⟩ := mppeRecvConfReq_nak hnak
    · have hmppe : d'.mppe ≠ 0 := fun hmppe => h ⟨hpolicy, hmppe⟩
      obtain ⟨-, rfl⟩ : d'.mppe ≠ -1 ∧ mppeSH = v := by grind
      simp [hpolicy, mppeAccept, hmppe, hk]
    · obtain rfl : mppeSH = v := by simpa using hv
      simp [hpolicy, mppeAccept, hk]
    · obtain rfl : 0 = v := by simpa using hv
      have hne : (0 : Nat) ≠ mppeSH := by decide
      simp [hpolicy, mppeAccept, hprefer, hne]

end Ccp

/-! ## The suggestions are accepted -/

/-- **When the value that a handler suggests is accepted**, for every history of a session. -/
theorem suggestions_accepted_iff (c : Lcp.MruConf) (os : List (Nat × UInt16)) (cf6 : Ipv6cp.Conf)
    (env6 : Ipv6cp.Env) (len : Nat) (val : UInt64) (ipv6 : Option Ipv6cp.Ids) (cf : Ccp.Conf)
    (id : UInt8) (es : List Ccp.MppeEvent) (hk : cf.kernelMppe = true) :
    (Lcp.MruAccepts c (os.foldl (Lcp.mruStep c) (Lcp.mruInit c)) ↔
      (∃ o ∈ os, Lcp.Agreed c o) ∨ c.confMinMtu ≤ Lcp.mruInit c % 65536) ∧
    (∀ cf env o d, Ipcp.AddrAccepts cf env o d) ∧
    (Ipv6cp.Accepts cf6 env6 len val ipv6 ↔
      len ≠ 10 ∨ Ipv6cp.NoIds cf6 env6 ipv6 ∨
        Ipv6cp.offered cf6 env6 val (ipv6.getD env6.ids) = 0 ∨
        Ipv6cp.offered cf6 env6 val (ipv6.getD env6.ids) ≠ (ipv6.getD env6.ids).intfId) ∧
    (Ccp.MppeAccepts cf (es.foldl (Ccp.mppeStep cf) (Ccp.layerInit cf id).data) ↔
      ¬((es.foldl (Ccp.keyed cf) ⟨cf.mppe = .require, false⟩).required = true ∧
        (es.foldl (Ccp.keyed cf) ⟨cf.mppe = .require, false⟩).weak = true)) := by
  refine ⟨?_, Ipcp.addrAccepts, Ipv6cp.accepts_iff len, ?_⟩
  · rw [Lcp.mruAccepts_iff, Lcp.inRange_foldl, Lcp.mruInit_inRange]
  · obtain ⟨hreq, hweak⟩ := Ccp.follows_foldl cf (Ccp.follows_layerInit cf id) es
    rw [Ccp.mppeAccepts_iff hk, hreq]
    exact not_congr (and_congr_right fun hpolicy => (hweak hpolicy).symm)

/-- `min-mtu = 1400` and `mtu = 1300`, as they are loaded. -/
def lowMtu : Lcp.MruConf := Lcp.loadConfig (some 1300) none (some 1400) none { ctrlMaxMtu := 1492 }

/-- Any identifier is accepted, and this side has the identifier 1. -/
def anyId : Ipv6cp.Conf × Ipv6cp.Env := (⟨true, false⟩, ⟨none, 1, 2, false⟩)

def requiring : Ccp.Conf := ⟨true, .require, none, 2, 3, 10, true⟩

/-- The defaults, and a session that has identifiers although the configured one of the peer is this
side's own. -/
theorem suggestions_accepted_defaults :
    Lcp.MruAccepts { ctrlMaxMtu := 1492 } 1492 ∧
      Ipv6cp.Accepts ⟨false, false⟩ ⟨none, 1, 1, false⟩ 10 0 (some ⟨1, 5⟩) ∧
      Ccp.MppeAccepts requiring (Ccp.layerInit requiring 0).data := by
  have h := suggestions_accepted_iff { ctrlMaxMtu := 1492 } [] ⟨false, false⟩ ⟨none, 1, 1, false⟩ 10 0
    (some ⟨1, 5⟩) requiring 0 [] rfl
  exact ⟨h.1.2 (Or.inr (by decide)), h.2.2.1.2 (by decide), h.2.2.2.2 (by decide)⟩

def weakKeys : Ccp.Keys := ⟨[], [], 2, 2⟩

/-- **Suggestions that are refused**: an MTU below the minimum, this side's own identifier, and no
encryption where it is required. -/
theorem suggestions_refused :
    ¬Lcp.MruAccepts lowMtu (Lcp.mruInit lowMtu) ∧ ¬Ipv6cp.Accepts anyId.1 anyId.2 10 1 none ∧
      ¬Ccp.MppeAccepts requiring
        (Ccp.mppeStep requiring (Ccp.layerInit requiring 0).data (.keys weakKeys)) := by
  refine ⟨fun h => ?_, fun h => ?_, fun h => ?_⟩
  · exact absurd (h 4 1200 1300 (by decide)) (by decide)
  · exact absurd (h (some ⟨1, 1⟩) (by decide) 1 (by decide) anyId.2) (by decide)
  · exact absurd (h none _ rfl 0 (by decide) ⟨[18, 6, 0, 0, 0, 0]⟩ (by decide) (by decide)) (by decide)

/-! ## The Configure-Nak of IPCP -/

namespace Ipcp

open Ppp.Ccp (Opt)

/-- `conf_req_len`: the header and one option of each kind. -/
def confReqLen : Nat := 6 + [Kind.addr, .dns1, .dns2, .wins1, .wins2].length * 6

/-- What `send_conf_nak` suggests after a request. -/
def suggestions (d : Data) : List (UInt8 × Nat) :=
  ((d.ropts.filter fun o => o.2 = .nak).filterMap fun o => lookup o.1.id).map (sendConfNakOpt d)

/-- The bytes `send_conf_nak` writes: a header, and 6 a suggestion. -/
def confNakLen (d : Data) : Nat := 6 + (suggestions d).length * 6

/-- The value this side has for an option of a kind. -/
def wanted (env : Env) (d : Data) (k : Kind) : Option Nat :=
  if k = .addr then (d.ipv4.or env.ipdb).map Ipv4.peerAddr
  else if d.server k = 0 then none
  else some (d.server k)

/-- An option with another value than this side has for it. -/
def disliked (env : Env) (d : Data) (o : Opt) : Bool :=
  o.len = 6 ∧ ((lookup o.id).bind (wanted env d)).any (· ≠ o.val)

theorem ipaddrRecvConfReq_nak {cf : Conf} {env : Env} {o : Opt} {d : Data}
    (h : Verdict.nak.code ≤ (ipaddrRecvConfReq cf env o d).2.code) :
    (∃ ip, d.ipv4.or env.ipdb = some ip ∧ (ipaddrRecvConfReq cf env o d).1.ipv4 = some ip ∧
      o.len = 6 ∧ ((ipaddrRecvConfReq cf env o d).2 = .nak ↔ ip.peerAddr ≠ o.val)) ∧
      (ipaddrRecvConfReq cf env o d).1.server = d.server := by
  refine ⟨?_, (ipaddr_judged cf env o d).quiet.1.server⟩
  unfold ipaddrRecvConfReq needIp allocIp compareAddr at h ⊢
  grind [Verdict.code]

/-- A verdict that is no worse than `.nak` is `.nak` for the options that are disliked, and leaves
the values this side has. -/
theorem recvConfReqOpt_nak (cf : Conf) (env : Env) {k : Kind} {o : Opt} (d : Data)
    (hk : lookup o.id = some k) (h : Verdict.nak.code ≤ (recvConfReqOpt cf env k o d).2.code) :
    ((recvConfReqOpt cf env k o d).2 = .nak ↔ disliked env d o = true) ∧
      wanted env (recvConfReqOpt cf env k o d).1 = wanted env d := by
  rw [disliked, hk, Option.bind_some]
  unfold recvConfReqOpt at h ⊢
  by_cases haddr : k = .addr
  · rw [if_pos haddr] at h ⊢
    obtain ⟨⟨ip, hip, hip', hlen, hv⟩, hs⟩ := ipaddrRecvConfReq_nak h
    refine ⟨by simp [wanted, haddr, hip, hlen, hv], funext fun k => ?_⟩
    simp [wanted, hip, hip', hs]
  · rw [if_neg haddr] at h ⊢
    unfold serverRecvConfReq at h ⊢
    simp only [wanted, if_neg haddr]
    grind [Verdict.code]

/-- A result of `.nak` has no verdict that is worse. -/
theorem judgeOpts_worst {cf : Conf} {env : Env} (os : List Opt) {ret : Verdict} {l : Layer Data}
    (h : (judgeOpts cf env os ret l).2 = .nak) : Verdict.nak.code ≤ ret.code := by
  induction os generalizing ret l with
  | nil => exact Int.le_of_eq (congrArg Verdict.code h.symm)
  | cons o os ih =>
    cases hk : lookup o.id with
    | none =>
      simp only [judgeOpts, hk] at h
      exact absurd (ih h) (by decide)
    | some k =>
      simp only [judgeOpts, hk] at h
      split at h
      · cases h
      split at h
      · cases h
      have hworst := ih h
      unfold Verdict.worst at hworst
      split at hworst <;> omega

theorem judgeOpts_ropts {cf : Conf} {env : Env} (os : List Opt) {ret : Verdict} {l : Layer Data}
    (h : (judgeOpts cf env os ret l).2 = .nak) :
    ∃ vs, (judgeOpts cf env os ret l).1.data.ropts = l.data.ropts ++ vs ∧ vs.map Prod.fst = os ∧
      ∀ o ∈ vs, (o.2 = .nak ↔ disliked env l.data o.1 = true) := by
  induction os generalizing ret l with
  | nil => exact ⟨[], by simp [judgeOpts], rfl, by simp⟩
  | cons o os ih =>
    cases hk : lookup o.id with
    | none =>
      simp only [judgeOpts, hk] at h
      exact absurd (judgeOpts_worst os h) (by decide)
    | some k =>
      have hq := (recvConfReqOpt_quiet cf env k o l.data).2
      have hnak := recvConfReqOpt_nak cf env l.data hk
      simp only [judgeOpts, hk] at h ⊢
      generalize recvConfReqOpt cf env k o l.data = r at h hq hnak ⊢
      split at h
      · cases h
      next hterm =>
      split at h
      · cases h
      next hclose =>
      rw [if_neg hterm, if_neg hclose]
      have hcode : Verdict.nak.code ≤ r.2.code := by
        have hworst := judgeOpts_worst os h
        unfold Verdict.worst at hworst
        split at hworst <;> omega
      obtain ⟨hv, hw⟩ := hnak hcode
      obtain ⟨vs, hvs, hfst, hall⟩ := ih h
      refine ⟨(o, r.2) :: vs, by simpa [onData, judged, hq] using hvs, by simp [hfst], ?_⟩
      have hsame : disliked env (judged o r.2 r.1) = disliked env l.data := by
        funext o'
        rw [disliked, disliked, ← hw]
        rfl
      intro v hmem
      obtain rfl | hmem := List.mem_cons.1 hmem
      · exact hv
      · rw [← hsame]
        exact hall v hmem

theorem recvConfReq_ropts {cf : Conf} {env : Env} {os : List Opt} {l : Layer Data}
    (h : (recvConfReq cf env os l).2 = .nak) :
    (recvConfReq cf env os l).1.data.ropts.map Prod.fst = os ∧
      ∀ o ∈ (recvConfReq cf env os l).1.data.ropts, (o.2 = .nak ↔ disliked env l.data o.1 = true) := by
  obtain ⟨vs, hvs, hfst, hnak⟩ := judgeOpts_ropts os h
  unfold recvConfReq
  rw [hvs]
  exact ⟨hfst, hnak⟩

theorem lookup_ci {id : UInt8} {k : Kind} (h : lookup id = some k) : k.ci = id := by
  simpa using List.find?_some h

theorem lookup_of_disliked {env : Env} {d : Data} {o : Opt} (h : disliked env d o = true) :
    ∃ k, lookup o.id = some k := by
  cases hk : lookup o.id with
  | none => simp [disliked, hk] at h
  | some k => exact ⟨k, rfl⟩

/-- There is one suggestion for each option that is disliked. -/
theorem suggestions_length {env : Env} {d d' : Data}
    (h : ∀ o ∈ d'.ropts, (o.2 = .nak ↔ disliked env d o.1 = true)) :
    (suggestions d').length = (d'.ropts.map Prod.fst).countP (disliked env d) := by
  rw [suggestions, List.length_map]
  generalize d'.ropts = vs at h
  induction vs with
  | nil => rfl
  | cons v vs ih =>
    have ih := ih fun o ho => h o (List.mem_cons_of_mem v ho)
    have hv := h v List.mem_cons_self
    by_cases hn : v.2 = .nak
    · obtain ⟨k, hk⟩ := lookup_of_disliked (hv.1 hn)
      simp [hn, hk, hv.1 hn, ih]
    · simp [hn, mt hv.2 hn, ih]

/-- **When the Configure-Nak fits and is complete**: exactly if at most five options of the request
are disliked. -/
theorem confNak_iff (cf : Conf) (env : Env) (os : List Opt) (l : Layer Data)
    (hnak : (recvConfReq cf env os l).2 = .nak) :
    (recvConfReq cf env os l).1.data.ropts.map Prod.fst = os ∧
      (∀ o ∈ (recvConfReq cf env os l).1.data.ropts, o.2 = .nak →
        ∃ s ∈ suggestions (recvConfReq cf env os l).1.data, s.1 = o.1.id) ∧
      (confNakLen (recvConfReq cf env os l).1.data ≤ confReqLen ↔
        os.countP (disliked env l.data) ≤ 5) := by
  obtain ⟨hropts, hjudged⟩ := recvConfReq_ropts hnak
  generalize (recvConfReq cf env os l).1.data = d at hropts hjudged ⊢
  refine ⟨hropts, fun o ho hn => ?_, ?_⟩
  · obtain ⟨k, hk⟩ := lookup_of_disliked ((hjudged o ho).1 hn)
    refine ⟨sendConfNakOpt d k, List.mem_map_of_mem (List.mem_filterMap.2
      ⟨o, List.mem_filter.2 ⟨ho, by simp [hn]⟩, hk⟩), lookup_ci hk⟩
  · have hlen : (suggestions d).length = os.countP (disliked env l.data) :=
      hropts ▸ suggestions_length hjudged
    simp only [confNakLen, hlen, confReqLen, List.length_cons, List.length_nil]
    omega

def withAddress : Layer Data :=
  onData (fun d => { d with ipv4 := some ⟨1, 2⟩ }) (layerInit allowed 0)

def askAddr : Opt := ⟨[3, 6, 0, 0, 0, 0]⟩

/-- The name server is configured. -/
def withServer : Layer Data := onData (fun d => { d with dns1 := 1 }) withAddress

def askDns : Opt := ⟨[129, 6, 0, 0, 0, 1]⟩

/-- An address that is disliked, and the name server asked for twice. -/
theorem confNak_iff_one :
    (recvConfReq allowed assigned [askAddr, askDns, askDns] withServer).2 = .nak ∧
      confNakLen (recvConfReq allowed assigned [askAddr, askDns, askDns] withServer).1.data ≤
        confReqLen := by
  have hnak : (recvConfReq allowed assigned [askAddr, askDns, askDns] withServer).2 = .nak := by
    decide
  exact ⟨hnak, (confNak_iff _ _ _ _ hnak).2.2.2 (by decide)⟩

/-- **An option that occurs six times is answered beyond the end of the buffer.** -/
theorem confNak_overflows :
    (recvConfReq allowed assigned (List.replicate 6 askAddr) withAddress).2 = .nak ∧
      ¬confNakLen (recvConfReq allowed assigned (List.replicate 6 askAddr) withAddress).1.data ≤
        confReqLen := by
  decide

end Ipcp

end Ppp
