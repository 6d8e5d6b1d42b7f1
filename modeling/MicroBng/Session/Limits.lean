import Mathlib.Algebra.Group.Nat.Defs
import Mathlib.Algebra.Ring.Int.Defs
import MicroBng.Session.Stat

/-!
# The licensed number of sessions

`pppoe_recv_PADR` and `pptp_connect` compare the counters with `conf_max_sessions` and
`conf_max_starting` before they set up a connection; its session is counted only when its own
context runs `ap_session_starting`. Every access interface has a worker: a request is a sequence of
steps here, between which anything else may happen.

* `limits_kept`: the limits are kept in runs without requests side by side (`Serial`)
-/

namespace Session

open Machine

/-- The configured limits, of type `int` in the source; zero stands for no limit. -/
structure Conf where
  maxSessions : Nat
  maxStarting : Nat
  testParameter : Nat
  maxSessions_lt : maxSessions < 2 ^ 31
  maxStarting_lt : maxStarting < 2 ^ 31

variable (st : Stat) (conf : Conf)

def u32 (x : Int) : Int := x % 2 ^ 32

theorem u32_of_lt {x : Int} (h0 : 0 ≤ x) (h : x < 2 ^ 31) : u32 x = x := by
  unfold u32; omega

/-- Where a worker is in `pppoe_recv_PADR`: past the first comparisons, past that with `incoming`,
past the addition to it, or not in it. -/
inductive Pc
  | idle | entered | cleared | added
  deriving DecidableEq

def Pc.busy : Pc → Bool
  | .idle => false
  | .entered | .cleared | .added => true

/-- Between the comparison with `incoming` and the addition. -/
def Pc.claims : Pc → Bool
  | .cleared => true
  | .idle | .entered | .added => false

structure Site where
  world : World
  workers : List Pc

def Site.init : Site := ⟨World.init, []⟩

def reached (limit : Nat) (x : Int) : Bool := limit ≠ 0 && (limit : Int) ≤ u32 x

/-- The calls of `ap_session_activate` that run during a comparison. Each takes one from `starting`,
then from `incoming`, where the call is a step here, and adds to `active` last. -/
structure Midway where
  early : Nat
  late : Nat

/-- What a comparison reads of the counters. -/
def Midway.read (m : Midway) (st : Stat) : Stat :=
  { st with starting := st.starting - m.early, active := st.active - m.late }

/-- The comparisons at the beginning of `pppoe_recv_PADR`. -/
def refusesPadr (shutdown : Bool) (st : Stat) : Bool :=
  shutdown || reached conf.maxStarting st.starting ||
    reached conf.maxSessions (st.active + st.starting) ||
    reached conf.testParameter (st.active + st.starting)

/-- The comparisons of `pptp_connect`. -/
def refusesAccept (shutdown : Bool) (st : Stat) : Bool :=
  shutdown || reached conf.maxStarting st.starting ||
    reached conf.maxSessions (st.active + st.starting)

/-- The steps. `padrDrop` is a request that is discarded after the first comparisons. -/
inductive SiteEvent
  | iface
  | padrEnter (k : Nat) (m : Midway)
  | padrDrop (k : Nat)
  | padrIncoming (k : Nat)
  | padrAdd (k : Nat)
  | padrAllocate (k : Nat) (ok : Bool)
  | accept (m : Midway)
  | call (c : Call)

def Site.move (t : Site) (k : Nat) (pc : Pc) : Site := { t with workers := t.workers.set k pc }

def Call.onSession : Call → Bool
  | .padr | .create _ | .restored _ => false
  | _ => true

def siteStep (t : Site) : SiteEvent → Option Site
  | .iface => some { t with workers := t.workers ++ [.idle] }
  | .padrEnter k m =>
    if t.workers[k]? = some .idle then
      some (if refusesPadr conf t.world.shutdown (m.read t.world.stat) then t
        else t.move k .entered)
    else none
  | .padrDrop k => if t.workers[k]? = some .entered then some (t.move k .idle) else none
  | .padrIncoming k =>
    if t.workers[k]? = some .entered then
      some (if reached conf.maxStarting t.world.stat.incoming then t.move k .idle
        else t.move k .cleared)
    else none
  | .padrAdd k =>
    if t.workers[k]? = some .cleared then
      let st := { t.world.stat with incoming := t.world.stat.incoming + 1 }
      some ({ t with world := { t.world with stat := st } }.move k .added)
    else none
  | .padrAllocate k ok =>
    if t.workers[k]? = some .added then
      let w := if ok then t.world.add (apSessionInit .pppoe)
        else { t.world with stat := releaseIncoming t.world.stat }
      some ({ t with world := w }.move k .idle)
    else none
  | .accept m =>
    some (if refusesAccept conf t.world.shutdown (m.read t.world.stat) then t
      else { t with world := t.world.add (apSessionInit .other) })
  | .call c =>
    if c.onSession then (step t.world c).map fun w => { t with world := w } else none

/-! ## The limits -/

structure Within (conf : Conf) (t : Site) : Prop where
  sessions : 0 < conf.maxSessions →
    u32 (t.world.stat.active + t.world.stat.starting) ≤ conf.maxSessions
  starting : 0 < conf.maxStarting → u32 t.world.stat.incoming ≤ conf.maxStarting

/-- A session that is counted in `starting` or `active`, or will be. -/
def Ses.occupies (s : Ses) : Bool := s.unstarted || s.isStarting || s.isActive

/-- A connection that was admitted and whose session is not counted yet. -/
def Site.waiting (t : Site) : Bool := t.workers.any Pc.busy || t.world.sessions.any Ses.unstarted

/-- No connection waits to be counted, and no session is on its way from `starting` to `active`. -/
def Site.Settled (t : Site) (m : Midway) : Prop := t.waiting = false ∧ m.early = 0 ∧ m.late = 0
deriving Decidable

/-- A request passes the first comparisons only when all sessions are counted, and the second only
when no other worker is between it and the addition. -/
def Serial (t : Site) : SiteEvent → Prop
  | .padrEnter _ m => 0 < conf.maxSessions → t.Settled m
  | .accept m => 0 < conf.maxSessions → t.Settled m
  | .padrIncoming _ => 0 < conf.maxStarting → t.workers.any Pc.claims = false
  | .call c => CountKept t.world c
  | .iface | .padrDrop _ | .padrAdd _ | .padrAllocate _ _ => True

/-- The invariant of serial runs: connections that wait are counted with the sessions. -/
structure LimitInv (conf : Conf) (t : Site) : Prop where
  counted : Counted t.world
  sound : Sound t.world
  sessions : 0 < conf.maxSessions →
    t.world.sessions.countP Ses.occupies + t.workers.countP Pc.busy ≤ conf.maxSessions
  starting : 0 < conf.maxStarting →
    t.world.stat.incoming + t.workers.countP Pc.claims ≤ conf.maxStarting

section Counting

theorem Ses.not_isStarting_and_isActive (s : Ses) : ¬(s.isStarting = true ∧ s.isActive = true) := by
  cases hs : s.state <;> simp [Ses.isStarting, Ses.isActive, hs]

theorem countP_le_occupies (ss : List Ses) :
    ss.countP Ses.isStarting + ss.countP Ses.isActive ≤ ss.countP Ses.occupies := by
  induction ss with
  | nil => exact Nat.le_refl _
  | cons s ss ih =>
    have hd := s.not_isStarting_and_isActive
    simp only [List.countP_cons, Ses.occupies]
    grind

theorem countP_occupies_le {ss : List Ses} (h : ss.any Ses.unstarted = false) :
    ss.countP Ses.occupies ≤ ss.countP Ses.isStarting + ss.countP Ses.isActive := by
  induction ss with
  | nil => exact Nat.le_refl _
  | cons s ss ih =>
    simp only [List.countP_cons, Ses.occupies]
    grind

theorem countP_move (p : Pc → Bool) {ws : List Pc} {k : Nat} {pc : Pc} (h : ws[k]? = some pc)
    (pc' : Pc) :
    (ws.set k pc').countP p + (p pc).toNat = ws.countP p + (p pc').toNat := by
  grind

end Counting

section Calls

variable {w w' : World} {i : Nat} {s : Ses}

theorem countP_occupies_put (hs : w.sessions[i]? = some s) {r : Stat × Ses}
    (h : r.2.occupies = true → s.occupies = true) :
    (w.put i r).sessions.countP Ses.occupies ≤ w.sessions.countP Ses.occupies := by
  grind [World.put]

theorem activatable_occupies (h : s.activatable = true) : s.occupies = true := by
  simp only [Ses.activatable] at h
  grind [Ses.occupies, Ses.isStarting]

theorem terminated_occupies {st : Stat} (h : (apSessionTerminate st s).2.occupies = true) :
    s.occupies = true := by
  grind [apSessionTerminate, Ses.occupies, Ses.unstarted, Ses.isStarting, Ses.isActive]

theorem finished_occupies {st : Stat} (h : (apSessionFinished st s).2.occupies = true) :
    s.occupies = true := by
  grind [apSessionFinished, Ses.occupies, Ses.unstarted, Ses.isStarting, Ses.isActive]

theorem starting_incoming (shutdown : Bool) (st : Stat) (s : Ses) :
    (apSessionStarting shutdown st s).1.incoming = st.incoming := by
  unfold apSessionStarting
  split <;> rfl

theorem activate_incoming (shutdown : Bool) (st : Stat) (s : Ses) :
    (apSessionActivate shutdown st s).1.incoming ≤ st.incoming := by
  unfold apSessionActivate
  grind

theorem terminate_incoming (s : Ses) : (apSessionTerminate st s).1.incoming ≤ st.incoming := by
  unfold apSessionTerminate recount
  grind

theorem finished_incoming (s : Ses) : (apSessionFinished st s).1.incoming ≤ st.incoming := by
  unfold apSessionFinished discount
  grind

theorem releaseIncoming_incoming : (releaseIncoming st).incoming ≤ st.incoming := by
  unfold releaseIncoming
  split
  · dsimp only; omega
  · exact Int.le_refl _

theorem discard_incoming (s : Ses) : (discard st s).1.incoming ≤ st.incoming := by
  unfold discard
  split
  · exact releaseIncoming_incoming st
  · exact Int.le_refl _

theorem call_frame (c : Call) (hc : c.onSession = true) (hk : CountKept w c)
    (hst : step w c = some w') :
    w'.sessions.countP Ses.occupies ≤ w.sessions.countP Ses.occupies ∧
      w'.stat.incoming ≤ w.stat.incoming := by
  cases c with
  | padr | create _ | restored _ => cases hc
  | drop i =>
    obtain ⟨s, hs, hu, rfl⟩ := on_some hst
    refine ⟨countP_occupies_put hs fun _ => ?_, discard_incoming _ _⟩
    simp only [Bool.and_eq_true] at hu
    simp [Ses.occupies, hu.2]
  | start i =>
    obtain ⟨s, hs, hu, rfl⟩ := on_some hst
    refine ⟨countP_occupies_put hs fun _ => ?_, Int.le_of_eq (starting_incoming _ _ _)⟩
    simp [Ses.occupies, hu]
  | activate i =>
    obtain ⟨s, hs, ha, rfl⟩ := on_some hst
    exact ⟨countP_occupies_put hs fun _ => activatable_occupies ha, activate_incoming _ _ _⟩
  | ipoeActivate i =>
    obtain ⟨s, hs, -, rfl⟩ := on_some hst
    have hi : (s.ipoeTerminating || s.ipoeStarted) = true := by simpa using hk s hs
    have he : ipoeSessionActivate w.shutdown w.stat s = (w.stat, s) := if_pos hi
    rw [he]
    exact ⟨countP_occupies_put hs id, Int.le_refl _⟩
  | mark i =>
    obtain ⟨s, hs, -, rfl⟩ := on_some hst
    exact ⟨countP_occupies_put hs id, Int.le_refl _⟩
  | terminate i =>
    obtain ⟨s, hs, -, rfl⟩ := on_some hst
    exact ⟨countP_occupies_put hs terminated_occupies, terminate_incoming _ _⟩
  | finish i =>
    obtain ⟨s, hs, -, rfl⟩ := on_some hst
    exact ⟨countP_occupies_put hs finished_occupies, finished_incoming _ _⟩
  | shutdown on => cases hst; exact ⟨Nat.le_refl _, Int.le_refl _⟩

end Calls

/-! ## Serial runs -/

section Serial

variable {conf : Conf} {t t' : Site}

theorem lt_of_not_reached {limit : Nat} {x : Int} (hl : 0 < limit) (hlt : limit < 2 ^ 31)
    (h0 : 0 ≤ x) (hx : x ≤ limit) (h : reached limit x = false) : x < limit := by
  grind [reached, u32_of_lt]

theorem LimitInv.sum_le (hi : LimitInv conf t) :
    0 ≤ t.world.stat.active + t.world.stat.starting ∧
      t.world.stat.active + t.world.stat.starting ≤
        (t.world.sessions.countP Ses.occupies : Int) := by
  grind [hi.counted.starting, hi.counted.active, countP_le_occupies]

theorem LimitInv.within (hi : LimitInv conf t) : Within conf t where
  sessions := fun hp => by
    have h1 := hi.sessions hp
    grind [hi.sum_le, conf.maxSessions_lt, u32_of_lt]
  starting := fun hp => by
    have h1 := hi.starting hp
    grind [hi.counted.incoming, conf.maxStarting_lt, u32_of_lt]

theorem LimitInv.room {m : Midway} (hi : LimitInv conf t) (hp : 0 < conf.maxSessions)
    (hm : t.Settled m)
    (hr : reached conf.maxSessions ((m.read t.world.stat).active + (m.read t.world.stat).starting) =
      false) :
    t.world.sessions.countP Ses.occupies + t.workers.countP Pc.busy < conf.maxSessions := by
  obtain ⟨hw, he, hl⟩ := hm
  simp only [Midway.read, he, hl, Int.natCast_zero, Int.sub_zero] at hr
  unfold Site.waiting at hw
  rw [Bool.or_eq_false_iff] at hw
  have hbusy : t.workers.countP Pc.busy = 0 := by simp_all
  have h1 := hi.counted.starting
  have h2 := hi.counted.active
  have h3 := countP_occupies_le hw.2
  have h4 := hi.sum_le
  have h5 := hi.sessions hp
  have h6 := lt_of_not_reached hp conf.maxSessions_lt h4.1 (by omega) hr
  omega

theorem LimitInv.init (conf : Conf) : LimitInv conf Site.init where
  counted := ⟨rfl, rfl, rfl, Int.le_refl 0⟩
  sound := fun s hs => nomatch hs
  sessions := fun _ => Nat.zero_le _
  starting := fun _ => by simp [Site.init, World.init]

theorem limits_moved {k : Nat} {pc pc' : Pc} (hk : t.workers[k]? = some pc) {w : World}
    (hcount : Counted w) (hsound : Sound w)
    (hs : 0 < conf.maxSessions →
      w.sessions.countP Ses.occupies + t.workers.countP Pc.busy + pc'.busy.toNat ≤
        conf.maxSessions + pc.busy.toNat)
    (ht : 0 < conf.maxStarting →
      w.stat.incoming + t.workers.countP Pc.claims + pc'.claims.toNat ≤
        conf.maxStarting + pc.claims.toNat) :
    LimitInv conf ({ t with world := w }.move k pc') := by
  have h1 := countP_move Pc.busy hk pc'
  have h2 := countP_move Pc.claims hk pc'
  refine ⟨hcount, hsound, fun hp => ?_, fun hp => ?_⟩
  · dsimp only [Site.move]
    omega
  · dsimp only [Site.move]
    omega

theorem counted_incoming {w : World} (h : Counted w) {n : Int} (hn : 0 ≤ n) :
    Counted { w with stat := { w.stat with incoming := n } } :=
  ⟨h.starting, h.active, h.finishing, hn⟩

theorem counted_release {w : World} (h : Counted w) :
    Counted { w with stat := releaseIncoming w.stat } := by
  unfold releaseIncoming
  split
  · exact counted_incoming h (by omega)
  · exact h

theorem occupies_add (w : World) (c : Ctrl) :
    (w.add (apSessionInit c)).sessions.countP Ses.occupies =
      w.sessions.countP Ses.occupies + 1 := by
  simp [apSessionInit, Ses.occupies, Ses.unstarted, World.add]

theorem step_limits (e : SiteEvent) (hi : LimitInv conf t) (hc : Serial conf t e)
    (hst : siteStep conf t e = some t') : LimitInv conf t' := by
  have hinc := hi.counted.incoming
  cases e with
  | iface =>
    cases hst
    refine { hi with sessions := fun hp => ?_, starting := fun hp => ?_ }
    · simpa [Pc.busy] using hi.sessions hp
    · simpa [Pc.claims] using hi.starting hp
  | padrEnter k m =>
    obtain ⟨hk, rfl⟩ := of_enabled_if hst
    split
    · exact hi
    · rename_i hr
      simp only [refusesPadr, Bool.not_eq_true, Bool.or_eq_false_iff] at hr
      refine limits_moved hk hi.counted hi.sound (fun hp => ?_) (fun hp => ?_)
      · have := hi.room hp (hc hp) hr.1.2
        grind [Pc.busy]
      · exact Int.add_le_add_right (hi.starting hp) 0
  | padrDrop k =>
    obtain ⟨hk, rfl⟩ := of_enabled_if hst
    refine limits_moved hk hi.counted hi.sound (fun hp => ?_) (fun hp => ?_)
    · exact Nat.le_trans (hi.sessions hp) (Nat.le_add_right _ _)
    · exact Int.add_le_add_right (hi.starting hp) 0
  | padrIncoming k =>
    obtain ⟨hk, rfl⟩ := of_enabled_if hst
    split
    · refine limits_moved hk hi.counted hi.sound (fun hp => ?_) (fun hp => ?_)
      · exact Nat.le_trans (hi.sessions hp) (Nat.le_add_right _ _)
      · exact Int.add_le_add_right (hi.starting hp) 0
    · refine limits_moved hk hi.counted hi.sound (fun hp => ?_) (fun hp => ?_)
      · exact Nat.add_le_add_right (hi.sessions hp) 1
      · -- no other worker is between its comparison and its addition
        have hnone : t.workers.countP Pc.claims = 0 := by
          rw [List.countP_eq_zero]
          exact fun pc hpc => List.any_eq_false.1 (hc hp) pc hpc
        have hle := hi.starting hp
        have hlt := lt_of_not_reached hp conf.maxStarting_lt hinc (by omega)
        grind [Pc.claims]
  | padrAdd k =>
    obtain ⟨hk, rfl⟩ := of_enabled_if hst
    refine limits_moved hk (counted_incoming hi.counted (by omega)) hi.sound (fun hp => ?_)
      (fun hp => ?_)
    · exact Nat.add_le_add_right (hi.sessions hp) 1
    · have := hi.starting hp
      grind [Pc.claims]
  | padrAllocate k ok =>
    obtain ⟨hk, rfl⟩ := of_enabled_if hst
    cases ok with
    | true =>
      refine limits_moved hk (counted_add hi.counted rfl) (hi.sound.add (apSessionInit_ok _))
        (fun hp => ?_) (fun hp => ?_)
      · have := hi.sessions hp
        grind [occupies_add, Pc.busy]
      · exact Int.add_le_add_right (hi.starting hp) 0
    | false =>
      refine limits_moved hk (counted_release hi.counted) hi.sound (fun hp => ?_) (fun hp => ?_)
      · exact Nat.le_trans (hi.sessions hp) (Nat.le_add_right _ _)
      · have h1 := hi.starting hp
        have h2 := releaseIncoming_incoming t.world.stat
        simp only [Pc.claims, Bool.false_eq_true, if_false]
        omega
  | accept m =>
    cases hst
    split
    · exact hi
    · rename_i hr
      simp only [refusesAccept, Bool.not_eq_true, Bool.or_eq_false_iff] at hr
      refine ⟨counted_add hi.counted rfl, hi.sound.add (apSessionInit_ok _), fun hp => ?_,
        hi.starting⟩
      have := hi.room hp (hc hp) hr.2
      rw [occupies_add]
      dsimp only
      omega
  | call c =>
    dsimp only [siteStep] at hst
    split at hst
    · rename_i hon
      obtain ⟨w, hw, rfl⟩ := Option.map_eq_some_iff.1 hst
      obtain ⟨ho, hle⟩ := call_frame c hon hc hw
      refine ⟨(step_counted c hi.counted hi.sound hw).2 hc, step_sound c hi.sound hc hw,
        fun hp => ?_, fun hp => ?_⟩
      · have := hi.sessions hp
        dsimp only
        omega
      · have := hi.starting hp
        dsimp only
        omega
    · cases hst

end Serial

/-- **Limits.** `active + starting` stays within a positive `conf_max_sessions` and `incoming`
within a positive `conf_max_starting` in every serial run. -/
theorem limits_kept (conf : Conf) (es : List SiteEvent)
    (hg : Guarded (siteStep conf) (Serial conf) Site.init es) :
    Throughout (siteStep conf) (Within conf) Site.init es :=
  (hg.throughout (fun _ e _ hi hc hst => step_limits e hi hc hst) (LimitInv.init conf)).mono
    fun _ hi => hi.within

instance (conf : Conf) (t : Site) (e : SiteEvent) : Decidable (Serial conf t e) := by
  unfold Serial
  split <;> infer_instance

def single : Conf := ⟨1, 1, 0, by decide, by decide⟩

/-- A request is admitted, its session started and activated; the next request is refused. -/
theorem limits_kept_single :
    Throughout (siteStep single) (Within single) Site.init
      [.iface, .padrEnter 0 ⟨0, 0⟩, .padrIncoming 0, .padrAdd 0, .padrAllocate 0 true,
        .call (.start 0), .call (.activate 0), .padrEnter 0 ⟨0, 0⟩, .accept ⟨0, 0⟩] :=
  limits_kept single _ (by decide +kernel)

/-- Two requests are admitted before either session is counted, and two workers compare `incoming`
before either adds to it. -/
theorem limits_exceeded :
    (∃ t, run (siteStep ⟨1, 0, 0, by decide, by decide⟩) Site.init
      [.iface, .padrEnter 0 ⟨0, 0⟩, .padrIncoming 0, .padrAdd 0, .padrAllocate 0 true,
        .padrEnter 0 ⟨0, 0⟩, .padrIncoming 0, .padrAdd 0, .padrAllocate 0 true, .call (.start 0), .call (.start 1)] =
        some t ∧ u32 (t.world.stat.active + t.world.stat.starting) = 2) ∧
    (∃ t, run (siteStep ⟨0, 1, 0, by decide, by decide⟩) Site.init
      [.iface, .iface, .padrEnter 0 ⟨0, 0⟩, .padrEnter 1 ⟨0, 0⟩, .padrIncoming 0, .padrIncoming 1, .padrAdd 0,
        .padrAdd 1] = some t ∧ u32 t.world.stat.incoming = 2) :=
  ⟨⟨_, rfl, by decide +kernel⟩, ⟨_, rfl, by decide +kernel⟩⟩

end Session
