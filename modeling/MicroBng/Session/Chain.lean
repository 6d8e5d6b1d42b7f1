import MicroBng.Session.Single

/-!
# The waiting chain of a user

The sessions of a user in replace mode are ordered by the time at which `ap_session_set_username`
named them. Each one but the oldest waits for one that was named before it, which wakes it when it
has finished; the youngest wakes nobody yet, so a newcomer finds it and is next in the chain.

* `named_once_kept`: this holds if every session is named once and stays accepted
-/

namespace Session.Single

open Machine

/-! ## The invariant of replace mode -/

/-- `ap_session_set_username` gave the session its name. -/
def Ses.Named (s : Ses) : Prop := s.waiting = true ∨ s.accepted = true

structure ChainInv (conf : Conf) (t : Table) : Prop where
  unborn : ∀ k, t.count ≤ k →
    ¬ (t.ses k).Named ∧ (t.ses k).wakeup = none ∧ (t.ses k).username = none
  armed : ∀ p w, (t.ses p).wakeup = some w → (t.ses w).waiting = true ∧
    conf.SameName (t.ses p) (t.ses w) ∧ (t.ses p).stamp < (t.ses w).stamp ∧ t.Ending p
  waited : ∀ w, (t.ses w).waiting = true → w ∈ t.sesList ∧ ∃ p, (t.ses p).wakeup = some w
  alone : ∀ p q w, (t.ses p).wakeup = some w → (t.ses q).wakeup = some w → p = q
  cause : ∀ p, (t.ses p).Named → (t.ses p).cause ≠ .authError
  stamps : ∀ p, (t.ses p).Named → (t.ses p).stamp < t.clock
  order : ∀ p q, (t.ses p).Named → (t.ses q).Named → (t.ses p).stamp = (t.ses q).stamp → p = q
  hits : ∀ p ∈ t.sesList, (t.ses p).username ≠ none → (t.ses p).cause ≠ .authError → (t.ses p).Named
  names : ∀ p ∈ t.sesList, (t.ses p).Named → (t.ses p).username ≠ none
  older : ∀ p q, (t.ses p).Named → (t.ses q).Named → conf.SameName (t.ses p) (t.ses q) →
    (t.ses p).stamp < (t.ses q).stamp → t.Ending p

section Chains

variable {conf : Conf} {t : Table} {i k : Nat} {s : Ses}

@[simp] theorem put_self : (t.put i s).ses i = s := Function.update_self _ _ _

@[simp] theorem put_of_ne (h : k ≠ i) : (t.put i s).ses k = t.ses k := Function.update_of_ne h _ _

theorem put_field {α : Type} (f : Ses → α) (h : f s = f (t.ses i)) (k : Nat) :
    f ((t.put i s).ses k) = f (t.ses k) := by
  grind [put_self, put_of_ne]

theorem key_isSome_of_sameName {a b : Ses} (h : conf.SameName a b) :
    a.username ≠ none ∧ b.username ≠ none := by
  obtain ⟨n, ha, hb⟩ := h
  grind [Conf.key]

theorem sameName_congr {a b a' b' : Ses} (ha : a'.username = a.username)
    (hb : b'.username = b.username) : conf.SameName a' b' ↔ conf.SameName a b := by
  simp only [Conf.SameName, Conf.key, ha, hb]

theorem init_chainInv : ChainInv conf .init := by
  have hn : ¬ blank.Named := by rintro (h | h) <;> cases h
  constructor
  case unborn => exact fun _ _ => ⟨hn, rfl, rfl⟩
  case armed => intro p w h; cases h
  case waited => intro w h; cases h
  case alone => intro p q w h; cases h
  case cause => exact fun _ h => absurd h hn
  case stamps => exact fun _ h => absurd h hn
  case order => exact fun _ _ h => absurd h hn
  case hits => intro p hp; cases hp
  case names => intro p hp; cases hp
  case older => exact fun _ _ h => absurd h hn

theorem ChainInv.start (hi : ChainInv conf t) :
    ChainInv conf { t with sesList := t.sesList ++ [t.count], count := t.count + 1 } := by
  have hnew := hi.unborn t.count (Nat.le_refl _)
  have hmem : ∀ p, p ∈ t.sesList ++ [t.count] → p ∈ t.sesList ∨ p = t.count := by simp
  have hending : ∀ p, p ≠ t.count → t.Ending p →
      Table.Ending { t with sesList := t.sesList ++ [t.count], count := t.count + 1 } p := by
    intro p hp he
    refine he.imp_left fun hout hin => ?_
    exact (hmem p hin).elim hout hp
  constructor
  case unborn => exact fun k hk => hi.unborn k (Nat.le_of_succ_le hk)
  case armed => grind [hi.armed]
  case waited => simp_all [hi.waited]
  case alone => exact hi.alone
  case cause => exact hi.cause
  case stamps => exact hi.stamps
  case order => exact hi.order
  case hits => grind [hi.hits]
  case names => grind [hi.names]
  grind [hi.older]

theorem ChainInv.unlink (hi : ChainInv conf t) (ha : t.Awake i) :
    ChainInv conf { t with sesList := t.sesList.erase i } := by
  have hending : ∀ p, t.Ending p → Table.Ending { t with sesList := t.sesList.erase i } p :=
    fun p he => he.imp_left fun hout hin => hout (List.mem_of_mem_erase hin)
  constructor
  case unborn => exact hi.unborn
  case armed => grind [hi.armed]
  case waited => grind [hi.waited, ha.2.2]
  case alone => exact hi.alone
  case cause => exact hi.cause
  case stamps => exact hi.stamps
  case order => exact hi.order
  case hits => exact fun p hp => hi.hits p (List.mem_of_mem_erase hp)
  case names => exact fun p hp => hi.names p (List.mem_of_mem_erase hp)
  grind [hi.older]

/-- The record `s` of a session whose termination begins or goes on. -/
structure Terminates (a s : Ses) : Prop where
  wakeup : s.wakeup = a.wakeup
  waiting : s.waiting = a.waiting
  accepted : s.accepted = a.accepted
  stamp : s.stamp = a.stamp
  terminating : s.terminating = true
  keeps : ∀ u, a.username = some u → s.username = some u
  cause : a.Named → a.cause ≠ .authError → s.cause ≠ .authError
  hits : s.username ≠ none → s.cause ≠ .authError → a.username ≠ none ∧ a.cause ≠ .authError

theorem Terminates.named {a : Ses} (h : Terminates a s) : s.Named ↔ a.Named := by
  rw [Ses.Named, Ses.Named, h.waiting, h.accepted]

theorem terminate_terminates {a : Ses} {cause : Cause} (n : Nat)
    (h : cause = .authError → ¬ a.Named) :
    Terminates a (apSessionTerminate { a with calls := n } cause) := by
  constructor
  case wakeup | waiting | accepted | stamp | terminating => rfl
  case keeps => exact fun _ hu => hu
  case cause => grind [apSessionTerminate]
  grind [apSessionTerminate]

theorem authFailed_terminates {a : Ses} {name : List UInt8} (h : ¬ a.Named) :
    Terminates a (pppAuthFailed a name) := by
  constructor
  case wakeup | waiting | accepted | stamp | terminating => rfl
  case keeps =>
    intro u hu
    simp [pppAuthFailed, apSessionTerminate, hu]
  case cause => exact fun hn => absurd hn h
  case hits =>
    intro _ hc
    simp [pppAuthFailed, apSessionTerminate] at hc

theorem ChainInv.terminates (hi : ChainInv conf t) (ha : t.Awake i)
    (h : Terminates (t.ses i) s) : ChainInv conf (t.put i s) := by
  have hwakeup := put_field Ses.wakeup h.wakeup
  have hwaiting := put_field Ses.waiting h.waiting
  have hstamp := put_field Ses.stamp h.stamp
  have hnamed : ∀ k, ((t.put i s).ses k).Named ↔ (t.ses k).Named := fun k =>
    iff_of_eq (put_field Ses.Named (propext h.named) k)
  -- A name that is there stays.
  have hname : ∀ k, (t.ses k).username ≠ none →
      ((t.put i s).ses k).username = (t.ses k).username := by
    intro k hk
    by_cases hki : k = i
    · subst hki
      obtain ⟨u, hu⟩ := Option.ne_none_iff_exists'.1 hk
      rw [put_self, hu, h.keeps u hu]
    · rw [put_of_ne hki]
  -- A session that `ap_session_set_username` named gets no new name.
  have hold : ∀ k, ((t.put i s).ses k).Named → ((t.put i s).ses k).username ≠ none →
      (t.ses k).username ≠ none := by
    grind [put_self, h.hits, h.cause, hi.cause, put_of_ne]
  have hending : ∀ p, t.Ending p → (t.put i s).Ending p := by
    intro p he
    by_cases hp : p = i
    · subst hp
      exact .inr (.inl (by rw [put_self, h.terminating]))
    · unfold Table.Ending
      rw [put_of_ne hp]
      exact he
  have hsame : ∀ p q, conf.SameName (t.ses p) (t.ses q) →
      conf.SameName ((t.put i s).ses p) ((t.put i s).ses q) := by
    grind [key_isSome_of_sameName, sameName_congr]
  constructor
  case unborn =>
    intro k hk
    have hne : k ≠ i := fun e => Nat.not_lt.2 hk (e ▸ ha.1)
    rw [put_of_ne hne]
    exact hi.unborn k hk
  case armed => grind [hi.armed]
  case waited =>
    intro w hw
    obtain ⟨h1, p, h2⟩ := hi.waited w ((hwaiting w).symm.trans hw)
    exact ⟨h1, p, (hwakeup p).trans h2⟩
  case alone => grind [hi.alone]
  case cause => grind [put_self, h.cause, hi.cause, put_of_ne]
  case stamps =>
    intro p hp
    rw [hstamp p]
    exact hi.stamps p ((hnamed p).1 hp)
  case order => grind [hi.order]
  case hits =>
    intro p hp hu hc
    refine (hnamed p).2 ?_
    by_cases hpi : p = i
    · subst hpi
      rw [put_self] at hu hc
      obtain ⟨hu, hc⟩ := h.hits hu hc
      exact hi.hits p hp hu hc
    · rw [put_of_ne hpi] at hu hc
      exact hi.hits p hp hu hc
  case names =>
    intro p hp hn
    have hu := hi.names p hp ((hnamed p).1 hn)
    rw [hname p hu]
    exact hu
  grind [key_isSome_of_sameName, hi.older, sameName_congr]

theorem release_ses (t : Table) (i k : Nat) :
    (t.release i).ses k =
      { t.ses k with
        username := if k = i then none else (t.ses k).username
        wakeup := if k = i then none else (t.ses k).wakeup
        waiting := if (t.ses i).wakeup = some k then false else (t.ses k).waiting
        accepted := if (t.ses i).wakeup = some k then true else (t.ses k).accepted } := by
  unfold Table.release
  cases hw : (t.ses i).wakeup with
  | none =>
    by_cases hk : k = i
    · subst hk
      simp
    · simp [hk]
  | some w =>
    by_cases hkw : k = w
    · subst hkw
      by_cases hk : k = i
      · subst hk
        simp
      · simp [hk]
    · have hkw' : ¬ w = k := fun e => hkw e.symm
      by_cases hk : k = i
      · subst hk
        simp [hkw, hkw']
      · simp [hk, hkw, hkw']

theorem release_sesList (t : Table) (i : Nat) : (t.release i).sesList = t.sesList := by
  unfold Table.release
  cases (t.ses i).wakeup <;> rfl

theorem release_count (t : Table) (i : Nat) : (t.release i).count = t.count := by
  unfold Table.release
  cases (t.ses i).wakeup <;> rfl

theorem release_clock (t : Table) (i : Nat) : (t.release i).clock = t.clock := by
  unfold Table.release
  cases (t.ses i).wakeup <;> rfl

theorem ChainInv.release (hi : ChainInv conf t) (hout : i ∉ t.sesList) :
    ChainInv conf (t.release i) := by
  have hses := release_ses t i
  have hnamed : ∀ k, ((t.release i).ses k).Named ↔ (t.ses k).Named := by
    intro k
    simp only [hses k, Ses.Named]
    by_cases hk : (t.ses i).wakeup = some k
    · simp [hk, (hi.armed i k hk).1]
    · simp [hk]
  have hstamp : ∀ k, ((t.release i).ses k).stamp = (t.ses k).stamp := fun k => by rw [hses k]
  have hcause : ∀ k, ((t.release i).ses k).cause = (t.ses k).cause := fun k => by rw [hses k]
  have hending : ∀ p, t.Ending p → (t.release i).Ending p := by
    intro p he
    simp only [Table.Ending, release_sesList, hses p]
    exact he
  have hmem : ∀ p, p ∈ (t.release i).sesList → p ∈ t.sesList ∧ p ≠ i := by grind [release_sesList]
  have hwakeup : ∀ p w, ((t.release i).ses p).wakeup = some w →
      p ≠ i ∧ (t.ses p).wakeup = some w := by
    simp_all
  constructor
  case unborn => grind [release_count, hi.unborn]
  case armed =>
    intro p w h
    obtain ⟨hp, hw⟩ := hwakeup p w h
    obtain ⟨h1, h2, h3, h4⟩ := hi.armed p w hw
    grind [hi.waited, hi.alone, sameName_congr]
  case waited => grind [hi.waited, release_sesList]
  case alone =>
    intro p q w hp hq
    exact hi.alone p q w (hwakeup p w hp).2 (hwakeup q w hq).2
  case cause =>
    intro p hp
    rw [hcause p]
    exact hi.cause p ((hnamed p).1 hp)
  case stamps =>
    intro p hp
    rw [hstamp p, release_clock]
    exact hi.stamps p ((hnamed p).1 hp)
  case order => grind [hi.order]
  case hits => grind [hi.hits]
  case names => grind [hi.names]
  grind [key_isSome_of_sameName, hi.older, sameName_congr]

/-- The table once the newcomer `i` has the name, with the sessions the loop left. -/
def Table.name (t : Table) (i : Nat) (name : List UInt8) (wait : Bool) (ses : Nat → Ses) : Table :=
  { t with
    ses := Function.update ses i
      { ses i with username := some name, waiting := wait, accepted := !wait, stamp := t.clock }
    clock := t.clock + 1 }

section Newcomer

variable {name : List UInt8} {arm : Option Nat} {wait : Bool} {ses : Nat → Ses}

theorem setUsername_replace (hm : conf.mode = .replace) (t : Table) (i : Nat)
    (name : List UInt8) :
    ∃ arm wait ses, apSessionSetUsername conf t i name = t.name i name wait ses ∧
      Swept conf i name t.sesList false t.ses arm wait ses := by
  obtain ⟨arm, wait, ses, hscan, h⟩ := scan_swept hm i name t.sesList false t.ses
  grind [apSessionSetUsername, Table.name]

theorem ChainInv.exists_unarmed (hi : ChainInv conf t) {q : Nat} (hq : q ∈ t.sesList)
    (hhit : conf.Hit name (t.ses q)) :
    ∃ p ∈ t.sesList, conf.Hit name (t.ses p) ∧ (t.ses p).wakeup = none := by
  -- Each step along the chain leads to a younger session, and stamps stay below the clock.
  induction hn : t.clock - (t.ses q).stamp using Nat.strongRecOn generalizing q with
  | _ n ih =>
    cases hw : (t.ses q).wakeup with
    | none => exact ⟨q, hq, hhit, hw⟩
    | some w =>
      obtain ⟨h1, ⟨m, hmq, hmw⟩, h3, -⟩ := hi.armed q w hw
      have hnw : (t.ses w).Named := .inl h1
      have hlt := hi.stamps w hnw
      have hkey : conf.key (t.ses w) = some (conf.fold name) := by
        rw [hmw, ← hmq]
        exact hhit.2
      exact ih _ (by omega) (hi.waited w h1).1 ⟨hi.cause w hnw, hkey⟩ rfl

theorem name_self : (t.name i name wait ses).ses i =
    { ses i with username := some name, waiting := wait, accepted := !wait, stamp := t.clock } :=
  Function.update_self _ _ _

theorem name_of_ne (hk : k ≠ i) : (t.name i name wait ses).ses k = ses k :=
  Function.update_of_ne hk _ _

theorem Swept.name_field {α : Type} (f : Ses → α)
    (hf : ∀ s w c, f { s with wakeup := w, calls := c } = f s)
    (h : Swept conf i name t.sesList false t.ses arm wait ses) (k : Nat) (hk : k ≠ i) :
    f ((t.name i name wait ses).ses k) = f (t.ses k) := by
  rw [name_of_ne hk, h.same k]
  exact hf _ _ _

section

variable (h : Swept conf i name t.sesList false t.ses arm wait ses)

include h

theorem Swept.name_cause (k : Nat) : ((t.name i name wait ses).ses k).cause = (t.ses k).cause := by
  by_cases hk : k = i
  · subst hk
    rw [name_self, h.same k]
  · exact h.name_field Ses.cause (fun _ _ _ => rfl) k hk

theorem Swept.name_wakeup (k : Nat) :
    ((t.name i name wait ses).ses k).wakeup =
      if arm = some k then some i else (t.ses k).wakeup := by
  grind [name_self, h.wakeup, name_of_ne]

theorem Swept.name_ending {p : Nat} (he : t.Ending p) : (t.name i name wait ses).Ending p := by
  have hfields : ((t.name i name wait ses).ses p).terminating = (t.ses p).terminating ∧
      ((t.name i name wait ses).ses p).calls = (ses p).calls := by
    grind [name_self, h.same, name_of_ne]
  unfold Table.Ending
  rw [hfields.1, hfields.2]
  exact he.imp_right (Or.imp_right fun hc => Nat.lt_of_lt_of_le hc (h.calls p))

theorem Swept.name_found {p : Nat}
    (hp : p ∈ t.sesList) (hpi : p ≠ i) (hhit : conf.Hit name (t.ses p)) :
    (t.name i name wait ses).Ending p := by
  refine .inr (.inr ?_)
  rw [name_of_ne hpi]
  exact h.called p hp hhit

end

theorem hit_username {a : Ses} (h : conf.Hit name a) : a.username ≠ none := by
  intro hn
  have hk := h.2
  simp [Conf.key, hn] at hk

theorem ChainInv.newcomer (hi : ChainInv conf t) (ha : t.Awake i)
    (hu : (t.ses i).username = none) (hc : (t.ses i).cause ≠ .authError)
    (h : Swept conf i name t.sesList false t.ses arm wait ses) :
    ChainInv conf (t.name i name wait ses) := by
  have hname := h.name_field Ses.username fun _ _ _ => rfl
  have hstamp := h.name_field Ses.stamp fun _ _ _ => rfl
  have hwaiting := h.name_field Ses.waiting fun _ _ _ => rfl
  have hnamed : ∀ k, k ≠ i → (((t.name i name wait ses).ses k).Named ↔ (t.ses k).Named) :=
    fun k hk => iff_of_eq (h.name_field Ses.Named (fun _ _ _ => rfl) k hk)
  have hstampi : ((t.name i name wait ses).ses i).stamp = t.clock := by rw [name_self]
  -- The newcomer had no name: the loop passed over it, and it wakes nobody.
  have harmi : ∀ a, arm = some a → a ≠ i := by
    rintro a harm rfl
    exact hit_username (h.armed a harm).2.2.1 hu
  have hnoti : ∀ w, (t.ses i).wakeup ≠ some w := fun w hw =>
    (key_isSome_of_sameName (hi.armed i w hw).2.1).1 hu
  have hselfNamed : ((t.name i name wait ses).ses i).Named := by
    rw [name_self]
    cases wait
    · exact .inr rfl
    · exact .inl rfl
  have hsame : ∀ p, p ≠ i → (conf.SameName ((t.name i name wait ses).ses p)
      ((t.name i name wait ses).ses i) ↔ conf.key (t.ses p) = some (conf.fold name)) := by
    intro p hpi
    simp [Conf.SameName, Conf.key, hname p hpi, name_self]
  constructor
  case unborn =>
    intro k hk
    have hki : k ≠ i := fun e => Nat.not_lt.2 hk (e ▸ ha.1)
    obtain ⟨h1, h2, h3⟩ := hi.unborn k hk
    have harmk : arm ≠ some k := fun hak => hit_username (h.armed k hak).2.2.1 h3
    simp_all [h.name_wakeup]
  case armed =>
    intro p w hw
    rw [h.name_wakeup p] at hw
    by_cases hp : arm = some p
    · rw [if_pos hp] at hw
      cases hw
      obtain ⟨-, hmem, hhit, -⟩ := h.armed p hp
      have hpi := harmi p hp
      refine ⟨?_, (hsame p hpi).2 hhit.2, ?_, h.name_found hmem hpi hhit⟩
      · rw [name_self, h.waits, hp]
        rfl
      · rw [hstamp p hpi, hstampi]
        exact hi.stamps p (hi.hits p hmem (hit_username hhit) hhit.1)
    · rw [if_neg hp] at hw
      obtain ⟨h1, h2, h3, h4⟩ := hi.armed p w hw
      grind [ha.2.2, h.name_ending, sameName_congr]
  case waited =>
    intro w hw
    by_cases hwi : w = i
    · subst hwi
      refine ⟨ha.2.1, ?_⟩
      rw [name_self, h.waits] at hw
      obtain ⟨a, harm⟩ := Option.isSome_iff_exists.1 ((Bool.false_or _).symm.trans hw)
      exact ⟨a, by rw [h.name_wakeup a, if_pos harm]⟩
    · obtain ⟨h1, p, h2⟩ := hi.waited w ((hwaiting w hwi).symm.trans hw)
      refine ⟨h1, p, ?_⟩
      have hp : arm ≠ some p := by
        intro hp
        rw [(h.armed p hp).2.2.2] at h2
        cases h2
      rw [h.name_wakeup p, if_neg hp, h2]
  case alone =>
    -- Nobody was to wake the newcomer before, so its one predecessor is the one just armed.
    have hone : ∀ p, ((t.name i name wait ses).ses p).wakeup = some i → arm = some p := by
      intro p hp
      rw [h.name_wakeup p] at hp
      by_contra hne
      rw [if_neg hne] at hp
      have := (hi.armed p i hp).1
      rw [ha.2.2] at this
      cases this
    grind [h.name_wakeup, hi.alone]
  case cause => grind [h.name_cause, hi.cause]
  case stamps =>
    intro p hp
    by_cases hpi : p = i
    · rw [hpi, hstampi]
      exact Nat.lt_succ_self _
    · rw [hstamp p hpi]
      exact Nat.lt_succ_of_lt (hi.stamps p ((hnamed p hpi).1 hp))
  case order =>
    intro p q hp hq he
    by_cases hpi : p = i
    · by_cases hqi : q = i
      · rw [hpi, hqi]
      · have hlt := hi.stamps q ((hnamed q hqi).1 hq)
        rw [hpi, hstamp q hqi] at he
        omega
    · have hlt := hi.stamps p ((hnamed p hpi).1 hp)
      grind [hi.order]
  case hits =>
    intro p hp hup hcp
    by_cases hpi : p = i
    · exact hpi ▸ hselfNamed
    · rw [hname p hpi] at hup
      rw [h.name_cause p] at hcp
      exact (hnamed p hpi).2 (hi.hits p hp hup hcp)
  case names =>
    intro p hp hn
    by_cases hpi : p = i
    · subst hpi
      simp [name_self]
    · rw [hname p hpi]
      exact hi.names p hp ((hnamed p hpi).1 hn)
  case older =>
    intro p q hp hq hs hlt
    -- The newcomer is the youngest, so the older session is another one.
    have hpi : p ≠ i := by
      rintro rfl
      by_cases hqi : q = p
      · rw [hqi] at hlt
        omega
      · rw [hstamp q hqi] at hlt
        have := hi.stamps q ((hnamed q hqi).1 hq)
        omega
    have hp' := (hnamed p hpi).1 hp
    by_cases hqi : q = i
    · subst hqi
      by_cases hmem : p ∈ t.sesList
      · exact h.name_found hmem hpi ⟨hi.cause p hp', (hsame p hpi).1 hs⟩
      · exact .inl hmem
    grind [h.name_ending, hi.older, sameName_congr]

end Newcomer

inductive Move (conf : Conf) (t : Table) : Table → Prop
  | start : Move conf t { t with sesList := t.sesList ++ [t.count], count := t.count + 1 }
  | name (i : Nat) (name : List UInt8) (ha : t.Awake i) (hu : (t.ses i).username = none)
      (hc : (t.ses i).cause ≠ .authError) : Move conf t (apSessionSetUsername conf t i name)
  | terminate (i : Nat) (s : Ses) (ha : t.Awake i) (h : Terminates (t.ses i) s) :
      Move conf t (t.put i s)
  | unlink (i : Nat) (ha : t.Awake i) : Move conf t { t with sesList := t.sesList.erase i }
  | release (i : Nat) (hout : i ∉ t.sesList) : Move conf t (t.release i)

theorem Table.Awake.not_named (ha : t.Awake i) (hacc : (t.ses i).accepted = false) :
    ¬ (t.ses i).Named := by
  rintro (h | h)
  · rw [ha.2.2] at h
    cases h
  · rw [hacc] at h
    cases h

theorem step_move {t' : Table} {e : Event} (hc : NamedOnce t e) (h : step conf t e = some t') :
    Move conf t t' := by
  cases e with
  | start =>
    cases h
    exact .start
  | setUsername i name =>
    obtain ⟨ha, rfl⟩ := of_enabled_if h
    exact .name i name ha hc.1 hc.2
  | terminateSec i =>
    obtain ⟨ha, rfl⟩ := of_enabled_if h
    exact .terminate i _ ha.1 (terminate_terminates _ (by intro e; cases e))
  | terminate i cause =>
    obtain ⟨ha, rfl⟩ := of_enabled_if h
    exact .terminate i _ ha (terminate_terminates (t.ses i).calls fun e => ha.not_named (hc e))
  | authFailed i name =>
    obtain ⟨ha, rfl⟩ := of_enabled_if h
    exact .terminate i _ ha (authFailed_terminates (ha.not_named hc))
  | unlink i =>
    obtain ⟨ha, rfl⟩ := of_enabled_if h
    exact .unlink i ha
  | wake i =>
    obtain ⟨ha, rfl⟩ := of_enabled_if h
    exact .release i ha.2

theorem ChainInv.move (hm : conf.mode = .replace) {t' : Table} (hi : ChainInv conf t)
    (h : Move conf t t') : ChainInv conf t' := by
  cases h with
  | start => exact hi.start
  | name i name ha hu hc =>
    obtain ⟨arm, wait, ses, heq, hs⟩ := setUsername_replace hm t i name
    rw [heq]
    exact hi.newcomer ha hu hc hs
  | terminate i s ha h => exact hi.terminates ha h
  | unlink i ha => exact hi.unlink ha
  | release i hout => exact hi.release hout

theorem ChainInv.chain (hm : conf.mode = .replace) (hi : ChainInv conf t) : Chain conf t := by
  constructor
  case waits =>
    intro w hw
    obtain ⟨-, p, hp⟩ := hi.waited w hw
    grind [hi.armed, hi.alone]
  case joins =>
    rintro i name t' h ⟨q, hq, hhit⟩
    obtain ⟨-, rfl⟩ := of_enabled_if h
    obtain ⟨arm, wait, ses, heq, hs⟩ := setUsername_replace hm t i name
    rw [heq, name_self, hs.waits]
    obtain ⟨p, hp, hphit, hfree⟩ := hi.exists_unarmed hq hhit
    cases harm : arm with
    | some a => rfl
    | none => grind [hs.unarmed]
  case single =>
    intro p q hne hp hq hs
    have hpn : (t.ses p).Named := .inr hp
    have hqn : (t.ses q).Named := .inr hq
    rcases Nat.lt_trichotomy (t.ses p).stamp (t.ses q).stamp with hlt | heq | hgt
    · exact .inl (hi.older p q hpn hqn hs hlt)
    · exact absurd (hi.order p q hpn hqn heq) hne
    · obtain ⟨n, h1, h2⟩ := hs
      exact .inr (hi.older q p hqn hpn ⟨n, h2, h1⟩ hgt)

/-! ## The invariant of deny mode -/

/-- The table in deny mode: nobody waits, and the accepted sessions have different names. -/
structure DenyInv (conf : Conf) (t : Table) : Prop where
  unborn : ∀ k, t.count ≤ k → (t.ses k).accepted = false
  unarmed : ∀ k, (t.ses k).wakeup = none
  cause : ∀ p, (t.ses p).accepted = true → (t.ses p).cause ≠ .authError
  unique : Unique conf t

theorem DenyInv.start (hi : DenyInv conf t) :
    DenyInv conf { t with sesList := t.sesList ++ [t.count], count := t.count + 1 } := by
  have hnew := hi.unborn t.count (Nat.le_refl _)
  have hmem : ∀ p, p ∈ t.sesList ++ [t.count] → (t.ses p).accepted = true → p ∈ t.sesList := by
    grind
  constructor
  case unborn => exact fun k hk => hi.unborn k (Nat.le_of_succ_le hk)
  case unarmed => exact hi.unarmed
  case cause => exact hi.cause
  case unique =>
    intro p hp q hq hpa hqa hs
    exact hi.unique p (hmem p hp hpa) q (hmem q hq hqa) hpa hqa hs

theorem DenyInv.terminates (hi : DenyInv conf t) (h : Terminates (t.ses i) s) :
    DenyInv conf (t.put i s) := by
  have hacc := put_field Ses.accepted h.accepted
  have hname : ∀ k, ((t.put i s).ses k).accepted = true →
      ((t.put i s).ses k).username ≠ none →
      ((t.put i s).ses k).username = (t.ses k).username := by
    intro k hk hu
    by_cases hki : k = i
    · subst hki
      rw [hacc k] at hk
      rw [put_self] at hu ⊢
      have hold := (h.hits hu (h.cause (.inr hk) (hi.cause k hk))).1
      obtain ⟨u, hu'⟩ := Option.ne_none_iff_exists'.1 hold
      rw [hu', h.keeps u hu']
    · rw [put_of_ne hki]
  constructor
  case unborn =>
    intro k hk
    rw [hacc k]
    exact hi.unborn k hk
  case unarmed =>
    intro k
    rw [put_field Ses.wakeup h.wakeup k]
    exact hi.unarmed k
  case cause =>
    intro p hp
    rw [hacc p] at hp
    by_cases hpi : p = i
    · subst hpi
      rw [put_self]
      exact h.cause (.inr hp) (hi.cause p hp)
    · rw [put_of_ne hpi]
      exact hi.cause p hp
  case unique =>
    intro p hp q hq hpa hqa hs
    obtain ⟨hup, huq⟩ := key_isSome_of_sameName hs
    refine hi.unique p hp q hq ((hacc p).symm.trans hpa) ((hacc q).symm.trans hqa) ?_
    exact (sameName_congr (hname p hpa hup) (hname q hqa huq)).1 hs

theorem DenyInv.release (hi : DenyInv conf t) (hout : i ∉ t.sesList) :
    DenyInv conf (t.release i) := by
  have hses : ∀ k, (t.release i).ses k =
      { t.ses k with username := if k = i then none else (t.ses k).username } := by
    intro k
    rw [release_ses]
    simp [hi.unarmed i, hi.unarmed k]
  constructor
  case unborn => simp_all [release_count, hi.unborn]
  case unarmed =>
    intro k
    rw [hses k]
    exact hi.unarmed k
  case cause =>
    intro p hp
    rw [hses p] at hp ⊢
    exact hi.cause p hp
  case unique =>
    intro p hp q hq hpa hqa hs
    rw [release_sesList] at hp hq
    have hname : ∀ k ∈ t.sesList, ((t.release i).ses k).username = (t.ses k).username := by grind
    rw [hses p] at hpa
    rw [hses q] at hqa
    exact hi.unique p hp q hq hpa hqa ((sameName_congr (hname p hp) (hname q hq)).1 hs)

theorem DenyInv.setUsername (hm : conf.mode = .deny) (hi : DenyInv conf t) (ha : t.Awake i)
    (hc : (t.ses i).cause ≠ .authError) (name : List UInt8) :
    DenyInv conf (apSessionSetUsername conf t i name) := by
  cases hscan : scan conf i name t.sesList false t.ses with
  | none => simpa [apSessionSetUsername, hm, hscan] using hi
  | some r =>
    obtain ⟨rfl, hfree⟩ := scan_deny hm hscan
    have heq : apSessionSetUsername conf t i name = t.name i name false t.ses := by
      simp [apSessionSetUsername, hscan, Table.name]
    rw [heq]
    -- An accepted session with the name of the newcomer would have been found.
    have hlone : ∀ p ∈ t.sesList, p ≠ i → (t.ses p).accepted = true →
        conf.key (t.ses p) ≠ some (conf.fold name) :=
      fun p hp _ hpa hk => hfree p hp ⟨hi.cause p hpa, hk⟩
    constructor
    case unborn =>
      intro k hk
      have hki : k ≠ i := fun e => Nat.not_lt.2 hk (e ▸ ha.1)
      rw [name_of_ne hki]
      exact hi.unborn k hk
    case unarmed => grind [name_self, hi.unarmed, name_of_ne]
    case cause => grind [name_self, name_of_ne, hi.cause]
    case unique =>
      intro p hp q hq hpa hqa hs
      by_cases hpi : p = i
      · by_cases hqi : q = i
        · rw [hpi, hqi]
        · obtain ⟨n, h1, h2⟩ := hs
          rw [name_of_ne hqi] at hqa h2
          subst hpi
          rw [name_self] at h1
          cases h1
          exact absurd h2 (hlone q hq hqi hqa)
      · rw [name_of_ne hpi] at hpa
        by_cases hqi : q = i
        · obtain ⟨n, h1, h2⟩ := hs
          rw [name_of_ne hpi] at h1
          subst hqi
          rw [name_self] at h2
          cases h2
          exact absurd h1 (hlone p hp hpi hpa)
        · rw [name_of_ne hqi] at hqa
          rw [name_of_ne hpi, name_of_ne hqi] at hs
          exact hi.unique p hp q hq hpa hqa hs

theorem DenyInv.move (hm : conf.mode = .deny) {t' : Table} (hi : DenyInv conf t)
    (h : Move conf t t') : DenyInv conf t' := by
  cases h with
  | start => exact hi.start
  | name i name ha hu hc => exact hi.setUsername hm ha hc name
  | terminate i s ha h => exact hi.terminates h
  | unlink i ha =>
    refine ⟨hi.unborn, hi.unarmed, hi.cause, fun p hp q hq => ?_⟩
    exact hi.unique p (List.mem_of_mem_erase hp) q (List.mem_of_mem_erase hq)
  | release i hout => exact hi.release hout

theorem init_denyInv : DenyInv conf .init := by
  refine ⟨fun _ _ => rfl, fun _ => rfl, ?_, fun p hp => ?_⟩
  · intro p hp
    cases hp
  · cases hp

end Chains

/-! ## Runs -/

/-- **The option keeps its promise**: if every session is named once and no accepted one terminated
for `TERM_AUTH_ERROR`, a user's sessions wait in a chain in replace mode and have different names in
deny mode. -/
theorem named_once_kept (conf : Conf) (es : List Event)
    (hg : Guarded (step conf) NamedOnce .init es) :
    Throughout (step conf) (Kept conf) .init es := by
  cases hm : conf.mode with
  | any => grind [Kept, hg.throughout]
  | deny =>
    refine Throughout.mono (I := DenyInv conf) (fun t hi => ?_)
      (hg.throughout (fun _ _ _ hi hc h => hi.move hm (step_move hc h)) init_denyInv)
    simpa [Kept, hm] using hi.unique
  | replace =>
    refine Throughout.mono (I := ChainInv conf) (fun t hi => ?_)
      (hg.throughout (fun _ _ _ hi hc h => hi.move hm (step_move hc h)) init_chainInv)
    simpa [Kept, hm] using hi.chain hm

/-- Three sessions of one user in replace mode, each waiting for another. -/
def threeLogins : List Event :=
  [.start, .start, .start, .setUsername 0 [97], .setUsername 1 [65], .setUsername 2 [97],
    .terminateSec 0, .unlink 0, .wake 0, .terminateSec 1, .unlink 1, .wake 1]

theorem named_once_kept_three :
    Guarded (step ⟨.replace, true⟩) NamedOnce .init threeLogins ∧
      Throughout (step ⟨.replace, true⟩) (Kept ⟨.replace, true⟩) .init threeLogins :=
  have hg : Guarded (step ⟨.replace, true⟩) NamedOnce .init threeLogins := by decide +kernel
  ⟨hg, named_once_kept _ _ hg⟩

/-- **Where the option fails.** In replace mode a session named twice finds itself and sleeps: the
call to terminate it stays in its own queue. In deny mode an accepted session terminated for
`TERM_AUTH_ERROR` does not keep a second one out. -/
theorem named_twice_waits_for_itself :
    (∃ t, run (step ⟨.replace, false⟩) .init
        [.start, .setUsername 0 [97], .setUsername 0 [97]] = some t ∧
      (t.ses 0).wakeup = some 0 ∧ (t.ses 0).calls = 1 ∧ ¬ Kept ⟨.replace, false⟩ t) ∧
    ∃ t, run (step ⟨.deny, false⟩) .init [.start, .start, .setUsername 0 [97],
        .terminate 0 .authError, .setUsername 1 [97]] = some t ∧ ¬ Kept ⟨.deny, false⟩ t := by
  constructor
  · obtain ⟨t, hr, hw, hc, hwait⟩ : ∃ t, run (step ⟨.replace, false⟩) .init
        [.start, .setUsername 0 [97], .setUsername 0 [97]] = some t ∧
        (t.ses 0).wakeup = some 0 ∧ (t.ses 0).calls = 1 ∧ (t.ses 0).waiting = true := by
      decide +kernel
    refine ⟨t, hr, hw, hc, fun (hk : Chain _ t) => ?_⟩
    -- The one session that is to wake it is itself, and it is not older than itself.
    obtain ⟨p, -, hone, -, hlt, -⟩ := hk.waits 0 hwait
    rw [← hone 0 hw] at hlt
    exact Nat.lt_irrefl _ hlt
  · obtain ⟨t, hr, hl, h0, h1, hu0, hu1⟩ : ∃ t, run (step ⟨.deny, false⟩) .init [.start, .start,
        .setUsername 0 [97], .terminate 0 .authError, .setUsername 1 [97]] = some t ∧
        t.sesList = [0, 1] ∧ (t.ses 0).accepted = true ∧ (t.ses 1).accepted = true ∧
        (t.ses 0).username = some [97] ∧ (t.ses 1).username = some [97] := by decide +kernel
    refine ⟨t, hr, fun (hk : Unique _ t) => ?_⟩
    have h01 := hk 0 (by simp [hl]) 1 (by simp [hl]) h0 h1
      ⟨[97], by rw [Conf.key, hu0]; rfl, by rw [Conf.key, hu1]; rfl⟩
    cases h01

end Session.Single
