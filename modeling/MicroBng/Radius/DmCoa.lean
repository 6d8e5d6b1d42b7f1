import Mathlib.Algebra.Group.Nat.Defs
import Mathlib.Algebra.Ring.Int.Defs
import MicroBng.Radius.Packet

/-!
# Disconnect and change-of-authorization requests

The server of `radius/dm_coa.c`: a datagram is decoded as a whole, its authenticator is compared
with the MD5 of its first Length bytes only, and the session its attributes name gets the request.
`LengthOk` says that nothing follows the Length bytes, or only complete attributes that the
dictionary does not know.

* `dmCoaRead_scheduled`: what is known of a request that reaches a session
* `length_respected`: its attributes are those of the first Length bytes exactly if `LengthOk`
-/

namespace Radius

open Records

/-! ## Model -/

/-- The configuration the server uses; `md5` stands for the digest. -/
structure DmCoaConf where
  md5 : List UInt8 → List UInt8
  secret : List UInt8
  requireNasIdent : Bool
  nasIdentifier : Option (List UInt8)
  nasIpAddress : Option (List UInt8)

/-- What `rad_find_session` compares of a session, and the request that waits for it. -/
structure Session where
  sessionid : List UInt8
  username : Option (List UInt8)
  unitIdx : Int
  ifname : List UInt8
  peerAddr : Option (List UInt8)
  callingStationId : Option (List UInt8)
  dmCoaReq : Option RadPacket

/-- `val.string`: the C string of an attribute, `none` if null. -/
def Value.str : Value → Option (List UInt8)
  | .string bytes => some (bytes.takeWhile (· ≠ 0))
  | _ => none

/-- `val.ipaddr`, `none` for the address 0. -/
def Value.ipaddr : Value → Option (List UInt8)
  | .address bytes => if bytes = [0, 0, 0, 0] then none else some bytes
  | _ => none

/-- `val.integer`, an `int`. -/
def Value.int : Value → Int
  | .integer n => if n < 2 ^ 31 then n else n - 2 ^ 32
  | _ => 0

/-- `dm_coa_check_RA`. With a Length below 20 the digest runs over the end of the buffer. -/
def dmCoaCheckRA (cf : DmCoaConf) (pack : RadPacket) : Except Fault Bool :=
  if pack.len < 20 then .error .indeterminate
  else .ok (cf.md5 (pack.buf.take 4 ++ List.replicate 16 0 ++ (pack.buf.take pack.len).drop 20 ++
    cf.secret) == (pack.buf.drop 4).take 16)

def radCheckNasPack (cf : DmCoaConf) (attrs : List RadAttr) : Bool :=
  let ident := attrs.foldl (fun r a => if a.attr.name = "NAS-Identifier" then a.val.str else r) none
  let ipaddr := attrs.foldl
    (fun r a => if a.attr.name = "NAS-IP-Address" then a.val.ipaddr else r) none
  !(cf.requireNasIdent && ident.isNone && ipaddr.isNone) &&
    (cf.nasIdentifier.isNone || ident.isNone || cf.nasIdentifier == ident) &&
    (cf.nasIpAddress.isNone || ipaddr.isNone || cf.nasIpAddress == ipaddr)

/-- What a request says about the session it is for. -/
structure Selector where
  sessionid : Option (List UInt8) := none
  username : Option (List UInt8) := none
  port : Int := -1
  portId : Option (List UInt8) := none
  ipaddr : Option (List UInt8) := none
  csid : Option (List UInt8) := none
  deriving DecidableEq

/-- One turn of the loop of `rad_find_session_pack`. -/
def Selector.add (s : Selector) (a : RadAttr) : Selector :=
  if a.vendor.isSome then s
  else match a.attr.id with
    | 44 => { s with sessionid := a.val.str }
    | 1 => { s with username := a.val.str }
    | 5 => { s with port := a.val.int }
    | 87 => { s with portId := a.val.str }
    | 8 => if a.val = .address [255, 255, 255, 254] then s else { s with ipaddr := a.val.ipaddr }
    | 31 => { s with csid := a.val.str }
    | _ => s

/-- The test of `rad_find_session` on one session. -/
def Selector.matches (s : Selector) (ses : Session) : Bool :=
  ses.username.isSome && (s.sessionid.isNone || s.sessionid == some ses.sessionid) &&
    (s.username.isNone || s.username == ses.username) &&
    (s.port < 0 || s.port == ses.unitIdx) &&
    (s.portId.isNone || s.portId == some ses.ifname) &&
    (s.ipaddr.isNone || ses.peerAddr.isNone || s.ipaddr == ses.peerAddr) &&
    (s.csid.isNone || ses.callingStationId.isNone || s.csid == ses.callingStationId)

/-- `rad_find_session_pack`: the position of the session. -/
def radFindSessionPack (sessions : List Session) (attrs : List RadAttr) : Option Nat :=
  let s := attrs.foldl Selector.add {}
  if s = {} then none else sessions.findIdx? s.matches

/-- What `dm_coa_read` does with a datagram. -/
inductive Verdict
  | dropped
  | nak (errCode : Nat)
  | scheduled (session : Nat) (pack : RadPacket)
  deriving DecidableEq

/-- One turn of the loop of `dm_coa_read`. -/
def dmCoaRead (cf : DmCoaConf) (dict : Dict) (sessions : List Session) (d : List UInt8) :
    Except Fault Verdict :=
  match radPacketRecv dict d with
  | .error .rejected => .ok .dropped
  | .error .indeterminate => .error .indeterminate
  | .ok pack =>
    if pack.code ≠ 40 ∧ pack.code ≠ 43 then .ok .dropped
    else match dmCoaCheckRA cf pack with
      | .error f => .error f
      | .ok false => .ok .dropped
      | .ok true =>
        if !radCheckNasPack cf pack.attrs then .ok (.nak 403)
        else match radFindSessionPack sessions pack.attrs with
          | none => .ok (.nak 503)
          | some i =>
            if (sessions[i]?.bind (·.dmCoaReq)).isSome then .ok .dropped
            else .ok (.scheduled i pack)

/-- **A request that is executed was authenticated**: its authenticator is the digest of its
first Length bytes and the secret. -/
theorem dmCoaRead_scheduled {cf : DmCoaConf} {dict : Dict} {sessions : List Session}
    {d : List UInt8} {i : Nat} {pack : RadPacket}
    (h : dmCoaRead cf dict sessions d = .ok (.scheduled i pack)) :
    radPacketRecv dict d = .ok pack ∧ dmCoaCheckRA cf pack = .ok true := by
  unfold dmCoaRead at h
  grind

/-! ## Which bytes are decoded -/

variable {dict : Dict} {d : List UInt8}

/-- The bytes of the attributes that `dmCoaCheckRA` covers. -/
def covered (d : List UInt8) : List UInt8 := (d.take (lengthField d)).drop 20

def surplus (d : List UInt8) : List UInt8 := d.drop (lengthField d)

/-- The attributes `rad_packet_recv` decodes. -/
def decoded (dict : Dict) (d : List UInt8) : Except Fault (List RadAttr) :=
  (radPacketRecv dict d).map (·.attrs)

theorem drop_eq_covered_append (h1 : 20 ≤ lengthField d) (h2 : lengthField d ≤ d.length) :
    d.drop 20 = covered d ++ surplus d := by
  grind [covered, surplus, List.take_append_drop]

theorem decoded_eq (h1 : 20 ≤ d.length) (h2 : lengthField d ≤ d.length) :
    decoded dict d = decode (decodeAttr dict) (d.drop 20) := by
  unfold decoded radPacketRecv
  rw [if_neg (by omega), if_neg (by omega)]
  cases decode (decodeAttr dict) (d.drop 20) <;> rfl

theorem recv_eq_error_iff {f : Fault} (h1 : 20 ≤ d.length) (h2 : lengthField d ≤ d.length) :
    radPacketRecv dict d = .error f ↔ Breaks (decodeAttr dict) f (d.drop 20) := by
  rw [← decode_eq_error (decodeAttr_lawful dict)]
  unfold radPacketRecv
  rw [if_neg (by omega), if_neg (by omega)]
  cases decode (decodeAttr dict) (d.drop 20) with
  | error e => constructor <;> intro h <;> cases h <;> rfl
  | ok attrs => constructor <;> intro h <;> cases h

theorem decoded_take (h1 : 20 ≤ lengthField d) (h2 : lengthField d ≤ d.length) :
    decoded dict (d.take (lengthField d)) = decode (decodeAttr dict) (covered d) := by
  have hlen : (d.take (lengthField d)).length = lengthField d := by
    rw [List.length_take]
    omega
  rw [decoded_eq (by omega) (by rw [lengthField_take (by omega)]; omega)]
  rfl

/-! ## The Length field -/

/-- The first Length bytes alone decide which attributes are decoded, and a Length that does not
fit the datagram is refused. -/
structure LengthRespected (dict : Dict) (d : List UInt8) : Prop where
  refused : lengthField d < 20 ∨ d.length < lengthField d → radPacketRecv dict d = .error .rejected
  decided : 20 ≤ lengthField d → lengthField d ≤ d.length →
    decoded dict d = decoded dict (d.take (lengthField d))

/-- The surplus bytes do not show: there are none, or complete unknown attributes, or an attribute
is malformed anyway. -/
def SurplusIgnored (dict : Dict) (d : List UInt8) : Prop :=
  surplus d = [] ∨
    ((∃ attrs, Parses (decodeAttr dict) (covered d) attrs) ∧
      Parses (decodeAttr dict) (surplus d) []) ∨
    ∃ f, Breaks (decodeAttr dict) f (covered d) ∧
      Breaks (decodeAttr dict) f (covered d ++ surplus d)

/-- The datagram is too short for a header or its Length, or its Length is below the header but an
attribute malformed, or the surplus bytes do not show. -/
def LengthOk (dict : Dict) (d : List UInt8) : Prop :=
  d.length < 20 ∨ d.length < lengthField d ∨
    (lengthField d < 20 ∧ Breaks (decodeAttr dict) .rejected (d.drop 20)) ∨
    (20 ≤ lengthField d ∧ SurplusIgnored dict d)

theorem decoded_take_iff (h1 : 20 ≤ lengthField d) (h2 : lengthField d ≤ d.length) :
    decoded dict d = decoded dict (d.take (lengthField d)) ↔ SurplusIgnored dict d := by
  rw [decoded_eq (by omega) h2, drop_eq_covered_append h1 h2, decoded_take h1 h2]
  exact decode_append_eq (decodeAttr_lawful dict)

theorem recv_of_short (h : d.length < 20 ∨ d.length < lengthField d) :
    radPacketRecv dict d = .error .rejected := by
  simp_all [radPacketRecv, h.resolve_left]

theorem lengthRespected_iff : LengthRespected dict d ↔ LengthOk dict d := by
  by_cases hsize : d.length < 20
  · exact iff_of_true ⟨fun _ => recv_of_short (.inl hsize), fun h1 h2 => absurd hsize (by omega)⟩
      (.inl hsize)
  by_cases hlong : d.length < lengthField d
  · exact iff_of_true ⟨fun _ => recv_of_short (.inr hlong), fun _ h2 => absurd hlong (by omega)⟩
      (.inr (.inl hlong))
  by_cases hshort : lengthField d < 20
  · -- the length passes the decoder's only check, so the attributes decide
    have hrecv : radPacketRecv dict d = .error .rejected ↔
        Breaks (decodeAttr dict) .rejected (d.drop 20) :=
      recv_eq_error_iff (Nat.not_lt.1 hsize) (Nat.not_lt.1 hlong)
    constructor
    · intro h
      exact .inr (.inr (.inl ⟨hshort, hrecv.1 (h.refused (.inl hshort))⟩))
    · rintro (h | h | ⟨-, h⟩ | ⟨h, -⟩)
      · exact absurd h hsize
      · exact absurd h hlong
      · exact ⟨fun _ => hrecv.2 h, fun h1 => absurd hshort (by omega)⟩
      · exact absurd hshort (by omega)
  · have hiff : decoded dict d = decoded dict (d.take (lengthField d)) ↔ SurplusIgnored dict d :=
      decoded_take_iff (Nat.not_lt.1 hshort) (Nat.not_lt.1 hlong)
    constructor
    · intro h
      exact .inr (.inr (.inr ⟨by omega, hiff.1 (h.decided (by omega) (by omega))⟩))
    · rintro (h | h | ⟨h, -⟩ | ⟨-, h⟩)
      · exact absurd h hsize
      · exact absurd h hlong
      · exact absurd h hshort
      · exact ⟨fun hbad => absurd hbad (by omega), fun _ _ => hiff.2 h⟩

theorem decoded_eq_of_agree {d₁ d₂ : List UInt8} (h₁ : LengthRespected dict d₁)
    (h₂ : LengthRespected dict d₂) (hmin : 20 ≤ lengthField d₁) (hmax : lengthField d₁ ≤ d₁.length)
    (hagree : d₁.take (lengthField d₁) = d₂.take (lengthField d₁)) :
    decoded dict d₁ = decoded dict d₂ := by
  have hfield : lengthField d₂ = lengthField d₁ := by grind [lengthField_take]
  have hsize : lengthField d₁ ≤ d₂.length := by
    have := congrArg List.length hagree
    rw [List.length_take, List.length_take] at this
    omega
  rw [h₁.decided hmin hmax, h₂.decided (by omega) (by omega), hfield, hagree]

theorem scheduled_attrs_covered {cf : DmCoaConf} {sessions : List Session} {i : Nat}
    {pack : RadPacket} (hd : LengthRespected dict d)
    (h : dmCoaRead cf dict sessions d = .ok (.scheduled i pack)) :
    decode (decodeAttr dict) (covered d) = .ok pack.attrs ∧
      cf.md5 (d.take 4 ++ List.replicate 16 0 ++ covered d ++ cf.secret) =
        (d.drop 4).take 16 := by
  obtain ⟨hrecv, hra⟩ := dmCoaRead_scheduled h
  have hmax : ¬ (lengthField d < 20 ∨ d.length < lengthField d) := by
    intro hbad
    rw [hd.refused hbad] at hrecv
    cases hrecv
  have hattrs : decoded dict d = .ok pack.attrs := by
    unfold decoded
    rw [hrecv]
    rfl
  rw [hd.decided (by omega) (by omega), decoded_take (by omega) (by omega)] at hattrs
  refine ⟨hattrs, ?_⟩
  obtain ⟨hlen, hbuf⟩ : pack.len = lengthField d ∧ pack.buf = d := by
    unfold radPacketRecv at hrecv
    rw [if_neg (by omega), if_neg (by omega)] at hrecv
    cases hdec : decode (decodeAttr dict) (d.drop 20) with
    | error e => rw [hdec] at hrecv; cases hrecv
    | ok attrs => rw [hdec] at hrecv; cases hrecv; exact ⟨rfl, rfl⟩
  unfold dmCoaCheckRA at hra
  rw [hlen, hbuf, if_neg (by omega)] at hra
  exact beq_iff_eq.1 (Except.ok.inj hra)

/-- **The Length field is respected exactly for the datagrams that are `LengthOk`**; an executed one
has the attributes the digest covers. -/
theorem length_respected (dict : Dict) :
    (∀ d, LengthRespected dict d ↔ LengthOk dict d) ∧
      (∀ d₁ d₂, LengthOk dict d₁ → LengthOk dict d₂ → 20 ≤ lengthField d₁ →
        lengthField d₁ ≤ d₁.length → d₁.take (lengthField d₁) = d₂.take (lengthField d₁) →
        decoded dict d₁ = decoded dict d₂) ∧
      ∀ cf sessions d i pack, LengthOk dict d →
        dmCoaRead cf dict sessions d = .ok (.scheduled i pack) →
        decode (decodeAttr dict) (covered d) = .ok pack.attrs ∧
          cf.md5 (d.take 4 ++ List.replicate 16 0 ++ covered d ++ cf.secret) =
            (d.drop 4).take 16 := by
  refine ⟨fun d => lengthRespected_iff, ?_, ?_⟩
  · intro d₁ d₂ h₁ h₂ hmin hmax hagree
    exact decoded_eq_of_agree (lengthRespected_iff.2 h₁) (lengthRespected_iff.2 h₂) hmin hmax hagree
  · intro cf sessions d i pack hd h
    exact scheduled_attrs_covered (lengthRespected_iff.2 hd) h

def sampleDict : Dict :=
  { items := [{ name := "User-Name", id := 1, type := .string, array := false, size := 0 }],
    vendors := [] }

/-- The attribute `User-Name` with the value `a`. -/
def sampleUserName : RadAttr :=
  { vendor := none, attr := ⟨"User-Name", 1, .string, false, 0⟩, len := 1, raw := [97],
    val := .string [97] }

def sampleDmCoaConf : DmCoaConf :=
  { md5 := fun _ => List.replicate 16 0, secret := [115], requireNasIdent := false,
    nasIdentifier := none, nasIpAddress := none }

/-- A session of the user `a`. -/
def sampleSession : Session :=
  { sessionid := [48], username := some [97], unitIdx := 0, ifname := [112], peerAddr := none,
    callingStationId := none, dmCoaReq := none }

def sampleRequest : List UInt8 := [40, 1, 0, 20] ++ List.replicate 16 0

/-- The request is respected, also with an unknown attribute behind it. -/
theorem length_respected_unknown :
    LengthOk sampleDict (sampleRequest ++ [99, 2]) ∧
      LengthRespected sampleDict (sampleRequest ++ [99, 2]) := by
  have hskip : Parses (decodeAttr sampleDict) [99, 2] [] :=
    .cons (List.cons_ne_nil _ _)
      (show decodeAttr sampleDict [99, 2] = .ok (attrItem sampleDict none 99 2 0 []) from rfl) .nil
  have hok : LengthOk sampleDict (sampleRequest ++ [99, 2]) :=
    .inr (.inr (.inr ⟨by decide, .inr (.inl ⟨⟨[], .nil⟩, hskip⟩)⟩))
  exact ⟨hok, ((length_respected sampleDict).1 _).2 hok⟩

/-- **A User-Name behind the Length bytes is executed**: of two requests with the same first Length
bytes only the one with surplus bytes disconnects the user; and a Length of 0 is accepted. -/
theorem trailing_attribute_executed :
    lengthField sampleRequest = 20 ∧ sampleRequest.length = 20 ∧
      (sampleRequest ++ [1, 3, 97]).take 20 = sampleRequest.take 20 ∧
      decoded sampleDict (sampleRequest ++ [1, 3, 97]) ≠ decoded sampleDict sampleRequest ∧
      dmCoaRead sampleDmCoaConf sampleDict [sampleSession] sampleRequest = .ok (.nak 503) ∧
      (∃ pack, dmCoaRead sampleDmCoaConf sampleDict [sampleSession]
        (sampleRequest ++ [1, 3, 97]) = .ok (.scheduled 0 pack)) ∧
      lengthField ([40, 1, 0, 0] ++ List.replicate 16 0) = 0 ∧
      decoded sampleDict ([40, 1, 0, 0] ++ List.replicate 16 0) = .ok [] := by
  refine ⟨by decide, by decide, by decide, by decide +kernel, by decide +kernel, ?_, by decide,
    by decide +kernel⟩
  exact ⟨⟨40, 1, 20, [sampleUserName], sampleRequest ++ [1, 3, 97]⟩, by decide +kernel⟩

end Radius
