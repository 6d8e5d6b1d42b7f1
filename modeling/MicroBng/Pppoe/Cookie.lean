import MicroBng.Lib.Bytes
import MicroBng.Pppoe.Serv

/-!
# The AC-Cookie

`generate_cookie` and `check_cookie` of `ctrl/pppoe/pppoe.c`: a hash of the addresses and the time
until which the cookie is good, encrypted with two keys block by block.

* `check_generate`: a generated cookie is accepted for its addresses until that time
-/

namespace Pppoe.Cookie

open Bytes
open Serv (Mac)

/-- A block cipher, in place of DES; its blocks have eight bytes. -/
structure BlockCipher where
  encrypt : List UInt8 → List UInt8 → List UInt8
  decrypt : List UInt8 → List UInt8 → List UInt8
  length_encrypt : ∀ key b, b.length = 8 → (encrypt key b).length = 8
  length_decrypt : ∀ key b, b.length = 8 → (decrypt key b).length = 8
  decrypt_encrypt : ∀ key b, b.length = 8 → decrypt key (encrypt key b) = b

/-- A hash function, in place of MD5. -/
structure Hash where
  final : List UInt8 → List UInt8
  length_final : ∀ bs, (final bs).length = 16

/-- What the cookie depends on in `struct pppoe_serv_t`; `desKs` is the schedule's key. -/
structure PppoeServ where
  secret : List UInt8
  hwaddr : Mac
  desKs : List UInt8

/-- `DES_ecb_encrypt` on the three blocks of a cookie. -/
def ecb (f : List UInt8 → List UInt8) (raw : List UInt8) : List UInt8 :=
  f (raw.take 8) ++ f ((raw.drop 8).take 8) ++ f ((raw.drop 16).take 8)

variable (c : BlockCipher) (md5 : Hash) (serv : PppoeServ) (src : Mac)

/-- The key that is made of the two addresses. -/
def key : List UInt8 := serv.hwaddr.1 ++ src.1.drop 4

/-- The hash of the addresses and the Relay-Session-Id. -/
def hash (relaySid : Option (List UInt8)) : List UInt8 :=
  md5.final (serv.secret ++ serv.hwaddr.1 ++ src.1 ++ relaySid.getD [])

/-- The four bytes for the Host-Uniq: a hash that is folded. -/
def uniq : Option (List UInt8) → List UInt8
  | none => List.replicate 4 0
  | some hostUniq =>
    let buf := md5.final (serv.secret ++ hostUniq)
    (List.range 4).map fun i =>
      buf.getD i 0 ^^^ buf.getD (i + 4) 0 ^^^ buf.getD (i + 8) 0 ^^^ buf.getD (i + 12) 0

/-- `generate_cookie` at a time; the time stored has 32 bits. -/
def generateCookie (hostUniq relaySid : Option (List UInt8)) (timeout now : Int) : List UInt8 :=
  ecb (c.encrypt serv.desKs) (ecb (c.encrypt (key serv src))
    (hash md5 serv src relaySid ++ uniq md5 serv hostUniq ++
      toLe 4 ((now + timeout) % 2 ^ 32).toNat))

/-- What `check_cookie` makes of the bytes of a cookie. -/
def decrypted (cookie : List UInt8) : List UInt8 :=
  ecb (c.decrypt (key serv src)) (ecb (c.decrypt serv.desKs) cookie)

/-- `check_cookie` at a time; 0 is the answer for a good cookie. -/
def checkCookie (cookie : List UInt8) (relaySid : Option (List UInt8)) (now : Int) : Int :=
  let u1 := decrypted c serv src cookie
  if (ofLe ((u1.drop 20).take 4) : Int) < now then 1
  else memcmp (u1.take 16) (hash md5 serv src relaySid)

variable {c md5 serv src}

theorem length_ecb {f : List UInt8 → List UInt8} {raw : List UInt8}
    (hf : ∀ b, b.length = 8 → (f b).length = 8) (h : raw.length = 24) :
    (ecb f raw).length = 24 := by
  simp [ecb, hf (raw.take 8) (by simp [h]), hf ((raw.drop 8).take 8) (by simp [h]),
    hf ((raw.drop 16).take 8) (by simp [h])]

theorem ecb_cancel {raw : List UInt8} (h : raw.length = 24) (k : List UInt8) :
    ecb (c.decrypt k) (ecb (c.encrypt k) raw) = raw := by
  have h1 : (raw.take 8).length = 8 := by simp [h]
  have h2 : ((raw.drop 8).take 8).length = 8 := by simp [h]
  have h3 : ((raw.drop 16).take 8).length = 8 := by simp [h]
  have e1 := c.length_encrypt k _ h1
  have e2 := c.length_encrypt k _ h2
  have f1 : (ecb (c.encrypt k) raw).take 8 = c.encrypt k (raw.take 8) := by
    rw [ecb, List.append_assoc, List.take_left' e1]
  have f2 : ((ecb (c.encrypt k) raw).drop 8).take 8 = c.encrypt k ((raw.drop 8).take 8) := by
    rw [ecb, List.append_assoc, List.drop_left' e1, List.take_left' e2]
  have f3 : ((ecb (c.encrypt k) raw).drop 16).take 8 = c.encrypt k ((raw.drop 16).take 8) := by
    rw [ecb, List.drop_left' (by simp [e1, e2]),
      List.take_of_length_le (by simp [c.length_encrypt k _ h3])]
  rw [ecb, f1, f2, f3, c.decrypt_encrypt k _ h1, c.decrypt_encrypt k _ h2, c.decrypt_encrypt k _ h3,
    List.take_of_length_le (by simp [h] : (raw.drop 16).length ≤ 8), List.append_assoc,
    ← List.drop_drop (i := 8) (j := 8), List.take_append_drop, List.take_append_drop]

theorem length_uniq (hostUniq : Option (List UInt8)) : (uniq md5 serv hostUniq).length = 4 := by
  cases hostUniq <;> simp [uniq]

theorem decrypted_generate (hostUniq relaySid : Option (List UInt8)) (timeout now : Int) :
    decrypted c serv src (generateCookie c md5 serv src hostUniq relaySid timeout now) =
      hash md5 serv src relaySid ++ uniq md5 serv hostUniq ++
        toLe 4 ((now + timeout) % 2 ^ 32).toNat := by
  have hlen : (hash md5 serv src relaySid ++ uniq md5 serv hostUniq ++
      toLe 4 ((now + timeout) % 2 ^ 32).toNat).length = 24 := by
    simp [hash, md5.length_final, length_uniq]
  rw [decrypted, generateCookie, ecb_cancel (length_ecb (c.length_encrypt _) hlen), ecb_cancel hlen]

/-- A cookie is good for its addresses until it expires, and what is accepted decrypts to the hash
for the addresses. -/
theorem check_generate (c : BlockCipher) (md5 : Hash) (serv : PppoeServ) (src : Mac)
    (relaySid : Option (List UInt8)) (timeout : Int) :
    (∀ (hostUniq : Option (List UInt8)) (t1 t2 : Int), 0 ≤ t1 + timeout → t1 + timeout < 2 ^ 32 →
      (checkCookie c md5 serv src (generateCookie c md5 serv src hostUniq relaySid timeout t1)
        relaySid t2 = 0 ↔ t2 ≤ t1 + timeout)) ∧
    ∀ (cookie : List UInt8) (t : Int), cookie.length = 24 →
      checkCookie c md5 serv src cookie relaySid t = 0 →
      (decrypted c serv src cookie).take 16 = hash md5 serv src relaySid := by
  have hhash : (hash md5 serv src relaySid).length = 16 := md5.length_final _
  constructor
  · intro hostUniq t1 t2 h0 h32
    have htime : ofLe (toLe 4 ((t1 + timeout) % 2 ^ 32).toNat) = (t1 + timeout).toNat := by
      rw [Int.emod_eq_of_lt h0 h32]
      exact ofLe_toLe (by omega)
    have hzero := (memcmp_eq_zero (rfl : (hash md5 serv src relaySid).length = _)).2 rfl
    unfold checkCookie
    dsimp only
    rw [decrypted_generate, List.drop_left' (by simp [hhash, length_uniq]),
      List.take_of_length_le (by simp), List.append_assoc, List.take_left' hhash]
    omega
  · intro cookie t hlen h
    have hdec : (decrypted c serv src cookie).length = 24 :=
      length_ecb (c.length_decrypt _) (length_ecb (c.length_decrypt _) hlen)
    unfold checkCookie at h
    by_cases hold : (ofLe (((decrypted c serv src cookie).drop 20).take 4) : Int) < t
    · simp [hold] at h
    · rw [if_neg hold] at h
      exact (memcmp_eq_zero (by simp [hdec, hhash])).1 h

/-- Blocks are reversed and the hash is constant: the cookie of second 10 is good in second 15. -/
theorem check_generate_reversed :
    let c : BlockCipher := ⟨fun _ => List.reverse, fun _ => List.reverse, by simp, by simp, by simp⟩
    let md5 : Hash := ⟨fun _ => List.replicate 16 7, by simp⟩
    let mac : Mac := ⟨[2, 0, 0, 0, 0, 1], rfl⟩
    let cookie := generateCookie c md5 ⟨[], mac, []⟩ mac (some [1]) none 5 10
    checkCookie c md5 ⟨[], mac, []⟩ mac cookie none 15 = 0 ∧
      checkCookie c md5 ⟨[], mac, []⟩ mac cookie none 16 ≠ 0 := by
  intro c md5 mac cookie
  have h := (check_generate c md5 ⟨[], mac, []⟩ mac none 5).1 (some [1]) 10
  exact ⟨(h 15 (by decide) (by decide)).2 (by decide),
    fun h0 => absurd ((h 16 (by decide) (by decide)).1 h0) (by decide)⟩

end Pppoe.Cookie
