import Mathlib.Algebra.GroupWithZero.Nat
import MicroBng.Lib.Bytes

/-!
# Backups of sessions in files

`backup/backup_file.c` saves the modules of a session in a file and restores them from it.
`fs_commit` gathers the pieces in a vector and writes it when it is nearly full; the vector is looked
at only behind a tag, so a module that ends there leads past its end. Each write may be short.

* `fsCommit_of_room`: a commit succeeds if no write is short and all pieces fit the vector
* `restore_commit`: what is written is restored as it was
-/

namespace Backup

open Bytes

/-! ## Modules and tags -/

/-- `struct backup_tag`. The size has 16 bits; a zero where a tag is expected ends the module. -/
structure Tag where
  id : UInt8
  internal : Bool
  data : List UInt8
  id_ne : id ≠ 0
  size_lt : data.length < 65536
  deriving DecidableEq

structure Mod where
  id : UInt8
  tags : List Tag
  deriving DecidableEq

variable (t : Tag) (rest : List UInt8)

def Digest : Type := { bs : List UInt8 // bs.length = 16 }

def version : UInt8 := 1

def iovMax : Nat := 1024

/-! ## `fs_commit` -/

/-- Why a commit fails: no file, a failed or short write, or a piece past the vector. -/
inductive Failure
  | noFile | shortWrite | overflow

/-- Whether the file can be opened, and what each `writev` of so many bytes returns. -/
structure Env where
  opens : Bool
  written : Nat → Nat → Int

/-- The vector, the file, the bytes given to MD5 and the number of writes. -/
structure Writer where
  iov : List (List UInt8)
  file : List UInt8
  hashed : List UInt8
  calls : Nat

def Writer.put (w : Writer) (piece : List UInt8) : Except Failure Writer :=
  if w.iov.length < iovMax then .ok { w with iov := w.iov ++ [piece] } else .error .overflow

/-- The next element of the vector, which is given to MD5 as well. -/
def Writer.add (w : Writer) (piece : List UInt8) : Except Failure Writer :=
  Writer.put { w with hashed := w.hashed ++ piece } piece

/-- `writev` and the check of its result. No more is written than there is. -/
def Writer.writev (env : Env) (w : Writer) : Except Failure Writer :=
  let len := w.iov.flatten.length
  let n := if iovMax < w.iov.length then -1 else min (env.written w.calls len) len
  if n < len then .error .shortWrite
  else .ok { w with
    iov := []
    file := w.file ++ w.iov.flatten.take n.toNat
    calls := w.calls + 1 }

def tagBytes (t : Tag) : List UInt8 :=
  t.id :: (if t.internal then 1 else 0) :: (toLe 2 t.data.length ++ t.data)

def putTag (env : Env) (w : Writer) (t : Tag) : Except Failure Writer := do
  let w ← w.add (tagBytes t)
  if w.iov.length = iovMax - 2 then w.writev env else .ok w

def putMod (env : Env) (w : Writer) (m : Mod) : Except Failure Writer := do
  let w ← w.add [m.id]
  let w ← m.tags.foldlM (putTag env) w
  w.add [0, 0, 0, 0]

/-- `fs_commit`, with whether `conf_path` is set: the file written if it returns 0. -/
def fsCommit (path : Bool) (md5 : List UInt8 → Digest) (env : Env) (mods : List Mod) :
    Except Failure (List UInt8) :=
  if path = false ∨ env.opens = false then .error .noFile
  else do
    let w ← Writer.add ⟨[], [], [], 0⟩ [version]
    let w ← mods.foldlM (putMod env) w
    let w ← w.put (md5 w.hashed).1
    let w ← w.writev env
    .ok w.file

/-! ## `restore_session` -/

def tagSize (bs : List UInt8) : Nat := ofLe ((bs.drop 2).take 2)

def tagAt (bs : List UInt8) (h : bs.headD 0 ≠ 0) : Tag where
  id := bs.headD 0
  internal := decide (bs.getD 1 0 &&& 1 = 1)
  data := (bs.drop 4).take (tagSize bs)
  id_ne := h
  size_lt := by
    have hsize := ofLe_lt ((bs.drop 2).take 2)
    have hpow : 256 ^ ((bs.drop 2).take 2).length ≤ 256 ^ 2 :=
      Nat.pow_le_pow_right (by decide) (List.length_take_le 2 _)
    grind [tagSize]

/-- The inner loop, for so many turns. `bs` is the file from `ptr` on, with the digest. -/
def restoreTags (internal : Bool) : Nat → List UInt8 → List Tag × List UInt8
  | 0, bs => ([], bs)
  | k + 1, bs =>
    if bs.length ≤ 16 then ([], bs)
    else if h : bs.headD 0 ≠ 0 then
      let r := restoreTags internal k (bs.drop (4 + tagSize bs))
      if internal = false ∧ bs.getD 1 0 ≠ 0 then r else (tagAt bs h :: r.1, r.2)
    else ([], bs.drop 4)

def restoreMods (internal : Bool) : Nat → List UInt8 → List Mod
  | 0, _ => []
  | k + 1, bs =>
    if bs.length ≤ 16 then []
    else
      let r := restoreTags internal bs.length bs.tail
      ⟨bs.headD 0, r.1⟩ :: restoreMods internal k r.2

/-- `restore_session` refuses a file, reads before its beginning, or restores a session. -/
inductive Restored
  | refused
  | crash
  | session (mods : List Mod)

def restoreSession (md5 : List UInt8 → Digest) (internal : Bool) (file : List UInt8) : Restored :=
  if file.head? ≠ some version then .refused
  else if file.length < 16 then .crash
  else if (md5 (file.take (file.length - 16))).1 ≠ file.drop (file.length - 16) then .refused
  else .session (restoreMods internal file.length file.tail)

/-! ## What is written -/

def modBytes (m : Mod) : List UInt8 := m.id :: (m.tags.flatMap tagBytes ++ [0, 0, 0, 0])

def body (mods : List Mod) : List UInt8 := version :: mods.flatMap modBytes

def Written (w : Writer) : Prop := w.file ++ w.iov.flatten = w.hashed

variable {w w' : Writer} {env : Env}

theorem put_eq_ok {piece : List UInt8} (h : w.put piece = .ok w') :
    w' = { w with iov := w.iov ++ [piece] } := by
  grind [Writer.put]

theorem writev_eq_ok (h : w.writev env = .ok w') :
    w'.iov = [] ∧ w'.file = w.file ++ w.iov.flatten ∧ w'.hashed = w.hashed := by
  unfold Writer.writev at h
  dsimp only at h
  generalize hn : (if iovMax < w.iov.length then (-1 : Int)
    else min (env.written w.calls w.iov.flatten.length) w.iov.flatten.length) = n at h
  split_ifs at h with hlt
  have hall : w.iov.flatten.take n.toNat = w.iov.flatten := List.take_of_length_le (by omega)
  grind

theorem add_written {piece : List UInt8} (hw : Written w)
    (h : w.add piece = .ok w') : Written w' ∧ w'.hashed = w.hashed ++ piece := by
  obtain rfl := put_eq_ok h
  refine ⟨?_, rfl⟩
  show w.file ++ (w.iov ++ [piece]).flatten = w.hashed ++ piece
  rw [List.flatten_append, List.flatten_singleton, ← List.append_assoc, hw]

theorem bind_eq_ok {α β ε : Type} {x : Except ε α} {f : α → Except ε β} {b : β} :
    x >>= f = .ok b ↔ ∃ a, x = .ok a ∧ f a = .ok b := by
  cases x with
  | error e => exact ⟨fun h => (nomatch h), fun ⟨a, h, _⟩ => nomatch h⟩
  | ok a => exact ⟨fun h => ⟨a, rfl, h⟩, fun ⟨a', h, h'⟩ => (Except.ok.inj h) ▸ h'⟩

theorem foldlM_written {α : Type} {f : Writer → α → Except Failure Writer} {bytes : α → List UInt8}
    (hf : ∀ w w' a, Written w → f w a = .ok w' → Written w' ∧ w'.hashed = w.hashed ++ bytes a)
    {as : List α} (hw : Written w) (h : as.foldlM f w = .ok w') :
    Written w' ∧ w'.hashed = w.hashed ++ as.flatMap bytes := by
  induction as generalizing w with
  | nil =>
    obtain rfl := Except.ok.inj h
    exact ⟨hw, (List.append_nil _).symm⟩
  | cons a as ih =>
    obtain ⟨w₁, h₁, h₂⟩ := bind_eq_ok.1 h
    grind

theorem putTag_written {t : Tag} (hw : Written w)
    (h : putTag env w t = .ok w') : Written w' ∧ w'.hashed = w.hashed ++ tagBytes t := by
  obtain ⟨w₁, h₁, h₂⟩ := bind_eq_ok.1 h
  obtain ⟨hw₁, hh₁⟩ := add_written hw h₁
  grind [writev_eq_ok, Written]

theorem putMod_written {m : Mod} (hw : Written w)
    (h : putMod env w m = .ok w') : Written w' ∧ w'.hashed = w.hashed ++ modBytes m := by
  obtain ⟨w₁, h₁, h₂⟩ := bind_eq_ok.1 h
  obtain ⟨w₂, h₂, h₃⟩ := bind_eq_ok.1 h₂
  obtain ⟨hw₁, hh₁⟩ := add_written hw h₁
  obtain ⟨hw₂, hh₂⟩ := foldlM_written (f := putTag env) (fun _ _ _ => putTag_written) hw₁ h₂
  grind [add_written, modBytes]

theorem fsCommit_eq_ok {path : Bool} {md5 : List UInt8 → Digest} {mods : List Mod}
    {file : List UInt8} (h : fsCommit path md5 env mods = .ok file) :
    file = body mods ++ (md5 (body mods)).1 := by
  unfold fsCommit at h
  split_ifs at h
  obtain ⟨w₁, h₁, h₂⟩ := bind_eq_ok.1 h
  obtain ⟨w₂, h₂, h₃⟩ := bind_eq_ok.1 h₂
  obtain ⟨w₃, h₃, h₄⟩ := bind_eq_ok.1 h₃
  obtain ⟨w₄, h₄, h₅⟩ := bind_eq_ok.1 h₄
  obtain ⟨hw₁, hh₁⟩ := add_written (w := ⟨[], [], [], 0⟩) rfl h₁
  obtain ⟨hw₂, hh₂⟩ := foldlM_written (f := putMod env) (fun _ _ _ => putMod_written) hw₁ h₂
  have hbody : w₂.hashed = body mods := by
    rw [hh₂, hh₁]
    rfl
  obtain rfl := put_eq_ok h₃
  obtain ⟨-, hfile, -⟩ := writev_eq_ok h₄
  obtain rfl := Except.ok.inj h₅
  rw [hfile]
  rw [List.flatten_append, List.flatten_singleton, ← List.append_assoc, hw₂, hbody]

/-! ## A commit that succeeds -/

/-- The elements of the vector the modules take, with the version and the digest. -/
def pieces (mods : List Mod) : Nat := (mods.map fun m => m.tags.length + 2).sum + 2

def Complete (env : Env) : Prop :=
  env.opens = true ∧ ∀ call len : Nat, (len : Int) ≤ env.written call len

theorem put_of_room (h : w.iov.length < iovMax) (piece : List UInt8) :
    ∃ w', w.put piece = .ok w' ∧ w'.iov.length = w.iov.length + 1 := by
  refine ⟨_, if_pos h, ?_⟩
  rw [List.length_append, List.length_singleton]

theorem writev_of_room (hc : Complete env) (h : w.iov.length ≤ iovMax) :
    ∃ w', w.writev env = .ok w' ∧ w'.iov = [] := by
  have hn := hc.2 w.calls w.iov.flatten.length
  unfold Writer.writev
  grind

theorem foldlM_of_room {α : Type} {f : Writer → α → Except Failure Writer} {cost : α → Nat}
    (hf : ∀ w a, w.iov.length + cost a ≤ iovMax →
      ∃ w', f w a = .ok w' ∧ w'.iov.length ≤ w.iov.length + cost a)
    (as : List α) (w : Writer) (h : w.iov.length + (as.map cost).sum ≤ iovMax) :
    ∃ w', as.foldlM f w = .ok w' ∧ w'.iov.length ≤ w.iov.length + (as.map cost).sum := by
  induction as generalizing w with
  | nil => exact ⟨w, rfl, Nat.le_add_right _ _⟩
  | cons a as ih =>
    rw [List.map_cons, List.sum_cons] at h ⊢
    obtain ⟨w₁, h₁, hlen₁⟩ := hf w a (by omega)
    obtain ⟨w₂, h₂, hlen₂⟩ := ih w₁ (by omega)
    exact ⟨w₂, by exact bind_eq_ok.2 ⟨w₁, h₁, h₂⟩, by omega⟩

theorem putTag_of_room (hc : Complete env) (w : Writer) (t : Tag)
    (h : w.iov.length + 1 ≤ iovMax) :
    ∃ w', putTag env w t = .ok w' ∧ w'.iov.length ≤ w.iov.length + 1 := by
  obtain ⟨w₁, h₁, hlen₁⟩ := put_of_room (w := { w with hashed := w.hashed ++ tagBytes t }) h
    (tagBytes t)
  by_cases hfull : w₁.iov.length = iovMax - 2
  · obtain ⟨w₂, h₂, hnil⟩ := writev_of_room hc (w := w₁) (by omega)
    refine ⟨w₂, bind_eq_ok.2 ⟨w₁, h₁, (if_pos hfull).trans h₂⟩, ?_⟩
    rw [hnil]
    exact Nat.zero_le _
  · exact ⟨w₁, bind_eq_ok.2 ⟨w₁, h₁, if_neg hfull⟩, Nat.le_of_eq hlen₁⟩

theorem putMod_of_room (hc : Complete env) (w : Writer) (m : Mod)
    (h : w.iov.length + (m.tags.length + 2) ≤ iovMax) :
    ∃ w', putMod env w m = .ok w' ∧ w'.iov.length ≤ w.iov.length + (m.tags.length + 2) := by
  obtain ⟨w₁, h₁, hlen₁⟩ := put_of_room (w := { w with hashed := w.hashed ++ [m.id] })
    (show w.iov.length < iovMax by omega) [m.id]
  change w₁.iov.length = w.iov.length + 1 at hlen₁
  have hsum : (m.tags.map fun _ => 1).sum = m.tags.length := by simp
  obtain ⟨w₂, h₂, hlen₂⟩ := foldlM_of_room (fun w t => putTag_of_room hc w t) m.tags w₁ (by omega)
  obtain ⟨w₃, h₃, hlen₃⟩ := put_of_room (w := { w₂ with hashed := w₂.hashed ++ [0, 0, 0, 0] })
    (show w₂.iov.length < iovMax by omega) [0, 0, 0, 0]
  change w₃.iov.length = w₂.iov.length + 1 at hlen₃
  exact ⟨w₃, bind_eq_ok.2 ⟨w₁, h₁, bind_eq_ok.2 ⟨w₂, h₂, h₃⟩⟩, by omega⟩

/-- **A commit succeeds** if no write is short and all pieces fit the vector at once. -/
theorem fsCommit_of_room (hc : Complete env) (md5 : List UInt8 → Digest)
    {mods : List Mod} (h : pieces mods ≤ iovMax) :
    ∃ file, fsCommit true md5 env mods = .ok file := by
  unfold pieces at h
  obtain ⟨w₁, h₁, hlen₁⟩ := put_of_room (w := ⟨[], [], [] ++ [version], 0⟩) (by decide) [version]
  change w₁.iov.length = 0 + 1 at hlen₁
  obtain ⟨w₂, h₂, hlen₂⟩ := foldlM_of_room (fun w m => putMod_of_room hc w m) mods w₁ (by omega)
  obtain ⟨w₃, h₃, hlen₃⟩ := put_of_room (w := w₂) (by omega) (md5 w₂.hashed).1
  obtain ⟨w₄, h₄, -⟩ := writev_of_room hc (w := w₃) (by omega)
  have hopen : ¬ (true = false ∨ env.opens = false) := by
    rw [hc.1]
    decide
  refine ⟨w₄.file, ?_⟩
  unfold fsCommit
  rw [if_neg hopen]
  exact bind_eq_ok.2 ⟨w₁, h₁, bind_eq_ok.2 ⟨w₂, h₂, bind_eq_ok.2 ⟨w₃, h₃,
    bind_eq_ok.2 ⟨w₄, h₄, rfl⟩⟩⟩⟩

/-! ## What is restored -/

/-- A tag that is restored: any in an internal restart, else the unmarked. -/
def visible (internal : Bool) (t : Tag) : Bool := internal || !t.internal

def Mod.seen (internal : Bool) (m : Mod) : Mod := ⟨m.id, m.tags.filter (visible internal)⟩

theorem length_tagBytes : (tagBytes t).length = 4 + t.data.length := by
  grind [tagBytes, length_toLe]

theorem tagSize_tagBytes : tagSize (tagBytes t ++ rest) = t.data.length := by
  simp [tagSize, tagBytes, ofLe_toLe, t.size_lt]

theorem drop_tagBytes : (tagBytes t ++ rest).drop (4 + tagSize (tagBytes t ++ rest)) = rest := by
  rw [tagSize_tagBytes, ← length_tagBytes, List.drop_left]

theorem tagAt_tagBytes (h : (tagBytes t ++ rest).headD 0 ≠ 0) :
    tagAt (tagBytes t ++ rest) h = t := by
  have hdata : ((tagBytes t ++ rest).drop 4).take (tagSize (tagBytes t ++ rest)) = t.data := by
    grind [tagSize_tagBytes, tagBytes, length_toLe]
  have hflag : decide ((tagBytes t ++ rest).getD 1 0 &&& 1 = 1) = t.internal := by
    show decide ((if t.internal then (1 : UInt8) else 0) &&& 1 = 1) = t.internal
    cases t.internal <;> rfl
  unfold tagAt
  simp only [hdata, hflag]
  rfl

theorem restoreTags_tags (internal : Bool) (tags : List Tag) {rest : List UInt8}
    (hrest : 16 ≤ rest.length) (k : Nat) (hk : tags.length < k) :
    restoreTags internal k (tags.flatMap tagBytes ++ ([0, 0, 0, 0] ++ rest)) =
      (tags.filter (visible internal), rest) := by
  induction tags generalizing k with
  | nil =>
    cases k with
    | zero => omega
    | succ k =>
      have hlong : ¬ ([0, 0, 0, 0] ++ rest).length ≤ 16 := by
        rw [List.length_append]
        show ¬ 4 + rest.length ≤ 16
        omega
      rw [List.flatMap_nil, List.nil_append, restoreTags, if_neg hlong]
      rfl
  | cons t ts ih =>
    cases k with
    | zero => omega
    | succ k =>
      rw [List.length_cons] at hk
      rw [List.flatMap_cons, List.append_assoc]
      generalize htail : ts.flatMap tagBytes ++ ([0, 0, 0, 0] ++ rest) = tail at ih ⊢
      have hlong : ¬ (tagBytes t ++ tail).length ≤ 16 := by grind
      have hid : (tagBytes t ++ tail).headD 0 ≠ 0 := t.id_ne
      have hmark : (tagBytes t ++ tail).getD 1 0 = if t.internal then 1 else 0 := rfl
      rw [restoreTags, if_neg hlong, dif_pos hid, drop_tagBytes, tagAt_tagBytes, hmark,
        ih k (by omega)]
      cases hi : internal <;> cases ht : t.internal <;> simp [visible, ht]

theorem length_le_flatMap_tagBytes (tags : List Tag) :
    tags.length ≤ (tags.flatMap tagBytes).length := by
  induction tags with
  | nil => exact Nat.zero_le _
  | cons t ts ih => grind [length_tagBytes]

theorem length_le_flatMap_modBytes (mods : List Mod) :
    mods.length ≤ (mods.flatMap modBytes).length := by
  induction mods with
  | nil => exact Nat.zero_le _
  | cons m ms ih => grind [modBytes]

theorem restoreMods_mods (internal : Bool) (mods : List Mod) {digest : List UInt8}
    (hd : digest.length = 16) (k : Nat) (hk : mods.length ≤ k) :
    restoreMods internal k (mods.flatMap modBytes ++ digest) = mods.map (Mod.seen internal) := by
  induction mods generalizing k with
  | nil =>
    cases k with
    | zero => rfl
    | succ k => simp_all [restoreMods]
  | cons m ms ih =>
    cases k with
    | zero => rw [List.length_cons] at hk; omega
    | succ k =>
      rw [List.length_cons] at hk
      have hshape : (m :: ms).flatMap modBytes ++ digest =
          m.id :: (m.tags.flatMap tagBytes ++
            ([0, 0, 0, 0] ++ (ms.flatMap modBytes ++ digest))) := by
        simp [modBytes]
      have hrest : 16 ≤ (ms.flatMap modBytes ++ digest).length := by
        rw [List.length_append]
        omega
      have htags := length_le_flatMap_tagBytes m.tags
      rw [hshape]
      generalize htail : ms.flatMap modBytes ++ digest = tail at ih hrest ⊢
      have hlen : (m.id :: (m.tags.flatMap tagBytes ++ ([0, 0, 0, 0] ++ tail))).length =
          (m.tags.flatMap tagBytes).length + (4 + tail.length) + 1 := by
        rw [List.length_cons, List.length_append, List.length_append]
        rfl
      rw [restoreMods, if_neg (by omega), List.tail_cons,
        restoreTags_tags internal m.tags hrest _ (by omega)]
      exact congrArg (m.seen internal :: ·) (ih k (by omega))

/-- **Backup round trip**: what a commit writes restores the same modules and tags, internal ones
only in an internal restart. -/
theorem restore_commit (path : Bool) (md5 : List UInt8 → Digest) (env : Env) (mods : List Mod)
    (file : List UInt8) (h : fsCommit path md5 env mods = .ok file) (internal : Bool) :
    restoreSession md5 internal file = .session (mods.map (Mod.seen internal)) := by
  have hd := (md5 (body mods)).2
  have hmods := length_le_flatMap_modBytes mods
  have hcut : (body mods ++ (md5 (body mods)).1).length - 16 = (body mods).length := by
    rw [List.length_append, hd, Nat.add_sub_cancel]
  have hlen : (body mods ++ (md5 (body mods)).1).length =
      (mods.flatMap modBytes).length + 1 + 16 := by
    rw [List.length_append, hd]
    rfl
  rw [fsCommit_eq_ok h]
  unfold restoreSession
  rw [hcut, List.take_left, List.drop_left, if_neg (by simp [body]), if_neg (by omega),
    if_neg (not_not.2 rfl)]
  exact congrArg Restored.session (restoreMods_mods internal mods hd _ (by omega))

def sampleMods : List Mod :=
  [⟨1, [⟨2, false, [7, 0, 9], by decide, by decide⟩, ⟨3, true, [0, 0], by decide, by decide⟩]⟩,
    ⟨4, []⟩]

def sampleMd5 (bs : List UInt8) : Digest :=
  ⟨List.replicate 16 (bs.foldl (· + ·) 0), List.length_replicate⟩

def sampleEnv : Env := ⟨true, fun _ len => len⟩

theorem restore_commit_sample :
    ∃ file, fsCommit true sampleMd5 sampleEnv sampleMods = .ok file ∧
      restoreSession sampleMd5 true file = .session (sampleMods.map (Mod.seen true)) ∧
      restoreSession sampleMd5 false file =
        .session [⟨1, [⟨2, false, [7, 0, 9], by decide, by decide⟩]⟩, ⟨4, []⟩] := by
  have hok : ∃ file, fsCommit true sampleMd5 sampleEnv sampleMods = .ok file :=
    fsCommit_of_room ⟨rfl, fun _ _ => Int.le_refl _⟩ sampleMd5 (by decide)
  obtain ⟨file, hfile⟩ := hok
  refine ⟨file, hfile, restore_commit true sampleMd5 sampleEnv sampleMods file hfile true, ?_⟩
  rw [restore_commit true sampleMd5 sampleEnv sampleMods file hfile false]
  rfl

end Backup
