import MicroBng.Lib.Machine

/-!
# One session for one user

`ap_session_set_username` of `session.c` compares the name of a newcomer with the names of the
sessions in `ses_list`. With `single-session=deny` a second session is refused. With
`single-session=replace` the old sessions are asked to terminate, one of them is told to wake the
newcomer, and the newcomer sleeps in `triton_context_schedule` until that session has finished.

A context that sleeps performs no other work, so a session that waits can neither be terminated nor
finish.
-/

namespace Session.Single

open Machine

/-- `conf_single_session`: negative, zero or positive. -/
inductive Mode
  | any | deny | replace
  deriving DecidableEq

/-- `terminate_cause`: not set, `TERM_AUTH_ERROR`, or another one. -/
inductive Cause
  | unset | authError | other
  deriving DecidableEq

/-- The options `single-session` and `single-session-ignore-case`. -/
structure Conf where
  mode : Mode
  ignoreCase : Bool

/-- A session. `waiting`: its context sleeps in `ap_session_set_username`; `calls` counts the queued
calls of `__terminate_sec`. Not in the source: `accepted`, the call has returned 0, and `stamp`,
when. -/
structure Ses where
  username : Option (List UInt8)
  cause : Cause
  wakeup : Option Nat
  calls : Nat
  terminating : Bool
  waiting : Bool
  accepted : Bool
  stamp : Nat

/-- A session after `ap_session_init`. -/
def blank : Ses where
  username := none
  cause := .unset
  wakeup := none
  calls := 0
  terminating := false
  waiting := false
  accepted := false
  stamp := 0

/-- The sessions by number, `ses_list`, and how many were started. -/
structure Table where
  ses : Nat → Ses
  sesList : List Nat
  count : Nat
  clock : Nat

def Table.init : Table := ⟨fun _ => blank, [], 0, 0⟩

/-! ## The functions -/

/-- `tolower`, as `strcasecmp` applies it. -/
def tolower (b : UInt8) : UInt8 := if 65 ≤ b ∧ b ≤ 90 then b + 32 else b

/-- What the comparison of names sees of a name: `strcasecmp` or `strcmp`. -/
def Conf.fold (conf : Conf) (name : List UInt8) : List UInt8 :=
  if conf.ignoreCase then name.map tolower else name

def Conf.key (conf : Conf) (s : Ses) : Option (List UInt8) := s.username.map conf.fold

/-- The test of `ap_session_set_username` on a session of `ses_list`. -/
def Conf.Hit (conf : Conf) (name : List UInt8) (s : Ses) : Prop :=
  s.cause ≠ .authError ∧ conf.key s = some (conf.fold name)
deriving Decidable

/-- The loop of `ap_session_set_username` for session `me`; `none` is the result `-1`. -/
def scan (conf : Conf) (me : Nat) (name : List UInt8) :
    List Nat → Bool → (Nat → Ses) → Option (Bool × (Nat → Ses))
  | [], wait, ses => some (wait, ses)
  | k :: ks, wait, ses =>
    if conf.Hit name (ses k) then
      if conf.mode = .deny then none
      else
        -- Only one old session is armed to wake the new one.
        let arm := !wait && (ses k).wakeup.isNone
        scan conf me name ks (wait || arm) (Function.update ses k
          { ses k with
            wakeup := if arm then some me else (ses k).wakeup
            calls := (ses k).calls + 1 })
    else scan conf me name ks wait ses

/-- `ap_session_set_username`; a refused session keeps what it has. -/
def apSessionSetUsername (conf : Conf) (t : Table) (me : Nat) (name : List UInt8) : Table :=
  match if conf.mode = .any then some (false, t.ses)
      else scan conf me name t.sesList false t.ses with
  | none => t
  | some (wait, ses) =>
    { t with
      ses := Function.update ses me
        { ses me with username := some name, waiting := wait, accepted := !wait, stamp := t.clock }
      clock := t.clock + 1 }

/-- `ap_session_terminate`, as far as the names are concerned. -/
def apSessionTerminate (s : Ses) (cause : Cause) : Ses :=
  { s with
    cause := if s.cause = .unset then cause else s.cause
    terminating := true }

/-- `ppp_auth_failed` with a name. -/
def pppAuthFailed (s : Ses) (name : List UInt8) : Ses :=
  apSessionTerminate
    { s with username := s.username.or (some name), cause := .authError } .authError

/-- What the contexts do; `unlink` and `wake` are the visible parts of `ap_session_finished`. -/
inductive Event
  | start
  | setUsername (i : Nat) (name : List UInt8)
  | terminateSec (i : Nat)
  | terminate (i : Nat) (cause : Cause)
  | authFailed (i : Nat) (name : List UInt8)
  | unlink (i : Nat)
  | wake (i : Nat)

def Table.Awake (t : Table) (i : Nat) : Prop :=
  i < t.count ∧ i ∈ t.sesList ∧ (t.ses i).waiting = false
deriving Decidable

def Table.put (t : Table) (i : Nat) (s : Ses) : Table :=
  { t with ses := Function.update t.ses i s }

/-- The end of `ap_session_finished`: the waiting session is woken, the name freed. -/
def Table.release (t : Table) (i : Nat) : Table :=
  let u := t.put i { t.ses i with wakeup := none, username := none }
  match (t.ses i).wakeup with
  | none => u
  | some w => u.put w { u.ses w with waiting := false, accepted := true }

def step (conf : Conf) (t : Table) : Event → Option Table
  | .start => some { t with sesList := t.sesList ++ [t.count], count := t.count + 1 }
  | .setUsername i name => if t.Awake i then some (apSessionSetUsername conf t i name) else none
  | .terminateSec i =>
    if t.Awake i ∧ 0 < (t.ses i).calls then
      some (t.put i (apSessionTerminate { t.ses i with calls := (t.ses i).calls - 1 } .other))
    else none
  | .terminate i cause =>
    if t.Awake i then some (t.put i (apSessionTerminate (t.ses i) cause)) else none
  | .authFailed i name =>
    if t.Awake i then some (t.put i (pppAuthFailed (t.ses i) name)) else none
  | .unlink i => if t.Awake i then some { t with sesList := t.sesList.erase i } else none
  | .wake i => if i < t.count ∧ i ∉ t.sesList then some (t.release i) else none

/-! ## The property -/

/-- The session is ending: off the list, `ap_session_terminate` has run, or a call is queued. -/
def Table.Ending (t : Table) (i : Nat) : Prop :=
  i ∉ t.sesList ∨ (t.ses i).terminating = true ∨ 0 < (t.ses i).calls

/-- Both sessions have a name and the comparison finds no difference. -/
def Conf.SameName (conf : Conf) (a b : Ses) : Prop := ∃ n, conf.key a = some n ∧ conf.key b = some n

structure Chain (conf : Conf) (t : Table) : Prop where
  /-- A waiting session will be woken by exactly one session, which got the name earlier and is
  being terminated. -/
  waits : ∀ w, (t.ses w).waiting = true → ∃ p, (t.ses p).wakeup = some w ∧
    (∀ q, (t.ses q).wakeup = some w → q = p) ∧ conf.SameName (t.ses p) (t.ses w) ∧
    (t.ses p).stamp < (t.ses w).stamp ∧ t.Ending p
  /-- A newcomer that finds a session of its name waits. -/
  joins : ∀ i name t', step conf t (.setUsername i name) = some t' →
    (∃ q ∈ t.sesList, conf.Hit name (t.ses q)) → (t'.ses i).waiting = true
  /-- Of two sessions of one user that were accepted, one is being terminated. -/
  single : ∀ p q, p ≠ q → (t.ses p).accepted = true → (t.ses q).accepted = true →
    conf.SameName (t.ses p) (t.ses q) → t.Ending p ∨ t.Ending q

def Unique (conf : Conf) (t : Table) : Prop :=
  ∀ p ∈ t.sesList, ∀ q ∈ t.sesList, (t.ses p).accepted = true → (t.ses q).accepted = true →
    conf.SameName (t.ses p) (t.ses q) → p = q

def Kept (conf : Conf) (t : Table) : Prop :=
  match conf.mode with
  | .any => True
  | .deny => Unique conf t
  | .replace => Chain conf t

/-- A session is named once, and not after it failed to authenticate; no accepted one is terminated
for `TERM_AUTH_ERROR`. -/
def NamedOnce (t : Table) : Event → Prop
  | .setUsername i _ => (t.ses i).username = none ∧ (t.ses i).cause ≠ .authError
  | .terminate i cause => cause = .authError → (t.ses i).accepted = false
  | .authFailed i _ => (t.ses i).accepted = false
  | _ => True

instance (t : Table) (e : Event) : Decidable (NamedOnce t e) := by
  unfold NamedOnce
  split <;> infer_instance

/-! ## The loop -/

/-- What the loop leaves in replace mode; `arm` is the session told to wake `me`. -/
structure Swept (conf : Conf) (me : Nat) (name : List UInt8) (ids : List Nat) (wait : Bool)
    (ses : Nat → Ses) (arm : Option Nat) (wait' : Bool) (ses' : Nat → Ses) : Prop where
  waits : wait' = (wait || arm.isSome)
  armed : ∀ a, arm = some a → wait = false ∧ a ∈ ids ∧ conf.Hit name (ses a) ∧ (ses a).wakeup = none
  unarmed : arm = none → wait = true ∨ ∀ k ∈ ids, conf.Hit name (ses k) → (ses k).wakeup ≠ none
  wakeup : ∀ k, (ses' k).wakeup = if arm = some k then some me else (ses k).wakeup
  same : ∀ k, ses' k = { ses k with wakeup := (ses' k).wakeup, calls := (ses' k).calls }
  calls : ∀ k, (ses k).calls ≤ (ses' k).calls
  called : ∀ k ∈ ids, conf.Hit name (ses k) → 0 < (ses' k).calls

section Scan

variable {conf : Conf} {me : Nat} {name : List UInt8} {ids : List Nat} {wait wait' : Bool}
  {ses ses' : Nat → Ses} {arm : Option Nat} {k : Nat}

theorem Swept.skip (hk : ¬ conf.Hit name (ses k))
    (h : Swept conf me name ids wait ses arm wait' ses') :
    Swept conf me name (k :: ids) wait ses arm wait' ses' where
  waits := h.waits
  armed a ha := by simp_all [h.armed]
  unarmed ha := by simp_all [h.unarmed]
  wakeup := h.wakeup
  same := h.same
  calls := h.calls
  called j hj hhit := by
    rcases List.mem_cons.1 hj with rfl | hj
    · exact absurd hhit hk
    · exact h.called j hj hhit

def found (me : Nat) (s : Ses) (arm : Bool) : Ses :=
  { s with wakeup := if arm then some me else s.wakeup, calls := s.calls + 1 }

theorem Swept.pass (harm : wait = true ∨ (ses k).wakeup ≠ none)
    (h : Swept conf me name ids wait (Function.update ses k (found me (ses k) false)) arm wait'
      ses') :
    Swept conf me name (k :: ids) wait ses arm wait' ses' := by
  have hfields : ∀ j, ∃ c, Function.update ses k (found me (ses k) false) j =
      { ses j with calls := c } ∧ (ses j).calls ≤ c ∧ (j = k → 0 < c) := by
    intro j
    by_cases hj : j = k
    · simp_all [found]
    · exact ⟨(ses j).calls, by simp [hj], Nat.le_refl _, fun e => absurd e hj⟩
  have hwake : ∀ j, (Function.update ses k (found me (ses k) false) j).wakeup = (ses j).wakeup := by
    intro j
    obtain ⟨c, hc, -⟩ := hfields j
    rw [hc]
  constructor
  case waits => exact h.waits
  case armed => grind [h.armed]
  case unarmed => grind [h.unarmed]
  case wakeup => intro j; rw [h.wakeup j, hwake j]
  case same =>
    intro j
    obtain ⟨c, hc, -⟩ := hfields j
    have := h.same j
    rw [hc] at this
    exact this
  case calls =>
    intro j
    obtain ⟨c, hc, hle, -⟩ := hfields j
    have := h.calls j
    rw [hc] at this
    exact Nat.le_trans hle this
  case called =>
    intro j hj hj'
    by_cases hjk : j = k
    · obtain ⟨c, hc, -, hpos⟩ := hfields j
      have := h.calls j
      grind
    simp_all [h.called]

theorem Swept.arms (hk : conf.Hit name (ses k)) (hfree : (ses k).wakeup = none)
    (h : Swept conf me name ids true (Function.update ses k (found me (ses k) true)) arm wait'
      ses') :
    Swept conf me name (k :: ids) false ses (some k) wait' ses' := by
  -- The rest of the loop starts with `wait` set and arms no other session.
  have hnone : arm = none := by
    cases harm : arm with
    | none => rfl
    | some a => exact absurd (h.armed a harm).1 (by decide)
  have hother : ∀ j, j ≠ k → Function.update ses k (found me (ses k) true) j = ses j :=
    fun j hj => Function.update_of_ne hj _ _
  have hself : Function.update ses k (found me (ses k) true) k = found me (ses k) true :=
    Function.update_self _ _ _
  have hwake : ∀ j, (ses' j).wakeup = (Function.update ses k (found me (ses k) true) j).wakeup := by
    intro j
    rw [h.wakeup j, hnone]
    simp
  constructor
  case waits => rw [h.waits]; simp
  case armed => simp_all
  case unarmed => intro ha; cases ha
  case wakeup => grind [found]
  case same =>
    intro j
    have hs := h.same j
    by_cases hj : j = k
    · subst hj
      rw [hself] at hs
      exact hs
    · rw [hother j hj] at hs
      exact hs
  case calls =>
    intro j
    have hc := h.calls j
    by_cases hj : j = k
    · subst hj
      rw [hself] at hc
      exact Nat.le_of_succ_le hc
    · rw [hother j hj] at hc
      exact hc
  case called =>
    intro j hj hhit
    by_cases hjk : j = k
    · subst hjk
      have hc := h.calls j
      rw [hself] at hc
      exact Nat.lt_of_lt_of_le (Nat.succ_pos _) hc
    simp_all [h.called]

theorem scan_swept (hm : conf.mode = .replace) (me : Nat) (name : List UInt8) (ids : List Nat)
    (wait : Bool) (ses : Nat → Ses) :
    ∃ arm wait' ses', scan conf me name ids wait ses = some (wait', ses') ∧
      Swept conf me name ids wait ses arm wait' ses' := by
  induction ids generalizing wait ses with
  | nil =>
    refine ⟨none, wait, ses, rfl, ?_⟩
    constructor <;> simp
  | cons k ids ih =>
    have hdeny : conf.mode ≠ .deny := by rw [hm]; decide
    by_cases hk : conf.Hit name (ses k)
    · by_cases harm : wait = false ∧ (ses k).wakeup = none
      · obtain ⟨rfl, hfree⟩ := harm
        obtain ⟨arm, wait', ses', hscan, h⟩ :=
          ih true (Function.update ses k (found me (ses k) true))
        refine ⟨some k, wait', ses', ?_, h.arms hk hfree⟩
        rw [← hscan]
        simp [scan, hk, hdeny, hfree, found]
      · obtain ⟨arm, wait', ses', hscan, h⟩ :=
          ih wait (Function.update ses k (found me (ses k) false))
        have hor : wait = true ∨ (ses k).wakeup ≠ none := by grind
        have hflag : (!wait && (ses k).wakeup.isNone) = false := by
          simp_all [Option.isSome_iff_ne_none]
        refine ⟨arm, wait', ses', ?_, h.pass hor⟩
        rw [← hscan]
        simp [scan, hk, hdeny, hflag, found]
    · obtain ⟨arm, wait', ses', hscan, h⟩ := ih wait ses
      exact ⟨arm, wait', ses', by simpa [scan, hk] using hscan, h.skip hk⟩

theorem scan_deny (hm : conf.mode = .deny) {r : Bool × (Nat → Ses)}
    (h : scan conf me name ids wait ses = some r) :
    r = (wait, ses) ∧ ∀ k ∈ ids, ¬ conf.Hit name (ses k) := by
  induction ids with
  | nil => exact ⟨(Option.some.inj h).symm, by simp⟩
  | cons k ids ih => simp_all [scan]

end Scan

end Session.Single
