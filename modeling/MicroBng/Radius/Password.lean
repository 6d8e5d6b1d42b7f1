import Mathlib.Data.UInt
import MicroBng.Lib.Chaining
import MicroBng.Radius.Request

/-!
# The hidden password

`encrypt_password` of `radius/auth.c` hides the password of a PAP request by chained hiding.

* `decryptPassword_encryptPassword`: the server that knows the secret gets back the password with
  the zero bytes that fill its last chunk
-/

namespace Radius

open Chaining

/-- RFC 2865, 5.2: the key of a block is the hash of the secret and the hidden block before. -/
def decryptPassword (md5 : List UInt8 → List UInt8) (secret ra hidden : List UInt8) : List UInt8 :=
  unhide 16 (fun c => md5 (secret ++ c)) hidden.length (md5 (secret ++ ra)) hidden

variable {md5 : List UInt8 → List UInt8} {secret : List UInt8}

theorem hideChunks_eq_hide {n m : Nat} {bs c : List UInt8} (hlen : bs.length = 16 * n)
    (hm : bs.length ≤ m) :
    hideChunks md5 secret n bs c =
      hide 16 (fun c => md5 (secret ++ c)) m (md5 (secret ++ c)) bs := by
  induction n generalizing m bs c with
  | zero =>
    obtain rfl := List.length_eq_zero_iff.1 hlen
    cases m <;> simp [hideChunks, hide, memxor]
  | succ n ih =>
    obtain ⟨m, rfl⟩ : ∃ k, m = k + 1 := ⟨m - 1, by omega⟩
    have hdrop : (bs.drop 16).length = 16 * n := by
      rw [List.length_drop]
      omega
    rw [hideChunks, ih hdrop (m := m) (by omega)]
    by_cases hn : n = 0
    · -- the last chunk
      have hnil : bs.drop 16 = [] := List.length_eq_zero_iff.1 (by omega)
      have hall : bs.take 16 = bs := List.take_of_length_le (by omega)
      rw [hide, hnil, hall]
      cases m <;> simp [hide, memxor]
    · rw [hide_of_lt (by omega)]
      rfl

theorem decryptPassword_hideChunks (hmd5 : ∀ bs, (md5 bs).length = 16) {n : Nat}
    {bs ra : List UInt8} (hlen : bs.length = 16 * n) :
    decryptPassword md5 secret ra (hideChunks md5 secret n bs ra) = bs := by
  have hnext : ∀ c, (md5 (secret ++ c)).length = 16 := fun c => hmd5 _
  have hhid := length_hide (by decide) hnext (hnext ra) (Nat.le_refl bs.length)
  have h := unhide_take_hide (by decide) hnext (hnext ra) (Nat.le_refl bs.length)
    (Nat.le_of_eq hhid)
  rw [hideChunks_eq_hide hlen (Nat.le_refl _), decryptPassword, hhid]
  rwa [List.take_length, hhid, List.take_length] at h

/-- **The server reveals the password**, filled up with zeros to whole chunks. -/
theorem decryptPassword_encryptPassword (hmd5 : ∀ bs, (md5 bs).length = 16)
    (passwd secret ra : List UInt8) :
    ∃ k < 16, 16 ∣ passwd.length + k ∧
      decryptPassword md5 secret ra (encryptPassword md5 passwd secret ra) =
        passwd ++ List.replicate k 0 := by
  refine ⟨(passwd.length + 15) / 16 * 16 - passwd.length, by omega, by omega, ?_⟩
  apply decryptPassword_hideChunks hmd5
  rw [List.length_append, List.length_replicate]
  omega

/-- Eighteen bytes, and the hash is the sum of what is hashed. -/
theorem decryptPassword_encryptPassword_sum :
    ∃ k < 16, 16 ∣ 18 + k ∧
      decryptPassword (fun bs => List.replicate 16 bs.sum) [7] (List.replicate 16 1)
        (encryptPassword (fun bs => List.replicate 16 bs.sum) (List.replicate 18 65) [7]
          (List.replicate 16 1)) = List.replicate 18 65 ++ List.replicate k 0 := by
  have h := @decryptPassword_encryptPassword (fun bs => List.replicate 16 bs.sum)
    (fun _ => List.length_replicate) (List.replicate 18 65) [7] (List.replicate 16 1)
  rwa [List.length_replicate] at h

end Radius
