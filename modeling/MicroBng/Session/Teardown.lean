import MicroBng.Lib.Machine

/-!
# How a PPP session is taken down

`session.c` and `ppp/ppp.c` can begin to take a session down from many places: a soft or a hard
`ap_session_terminate` (an error of a layer, a timeout, an operator, the end of the channel), and
the notification of the last layer that it has finished. The session keeps a log of what an observer
sees. Only LCP finishes later than it is asked to: it sends a Terminate-Request or queues a call. The
other layers notify `ppp_layer_finished` from within `finish`.

* `teardown_once`: `EV_SES_FINISHING` fires once, followed at most once by `ap_session_finished`
-/

namespace Session.Teardown

open Machine

/-- The registered layers, in the order of their nodes. -/
inductive LayerName
  | lcp | auth | ccp | ipcp | ipv6cp
  deriving DecidableEq

/-- `struct ppp_layer_data_t`. -/
structure LayerData where
  name : LayerName
  starting : Bool
  finished : Bool

/-- What is seen of a session's end: events, and steps of the body of `ap_session_finished`. -/
inductive Note
  | finishing | preFinished | unlinked | released | finished | ctrlFinished

/-- A PPP session. `lcpOpened` is LCP's `started`, `lcpCalls` the queued `_lcp_layer_finished`. -/
structure Ses where
  terminating : Bool
  terminated : Bool
  finishStarted : Bool
  down : Bool
  layers : List LayerData
  lcpStarted : Bool
  lcpOpened : Bool
  lcpCalls : Nat
  log : List Note

variable (ns : List LayerName) (asked : Bool)

/-- `establish_ppp` up to `start_first_layer`. -/
def establishPpp : Ses where
  terminating := false
  terminated := false
  finishStarted := false
  down := false
  layers := [LayerName.lcp, .auth, .ccp, .ipcp, .ipv6cp].map fun n => ⟨n, false, false⟩
  lcpStarted := false
  lcpOpened := false
  lcpCalls := 0
  log := []

/-! ## The functions -/

def apSessionFinished (s : Ses) : Ses :=
  if s.finishStarted then s
  else
    { s with
      finishStarted := true
      terminated := true
      log := s.log ++ (if s.down then [] else [.finishing]) ++
        [.preFinished, .unlinked, .released, .finished, .ctrlFinished] }

/-- `destroy_ppp_channel`: the layers are freed, and LCP's calls leave the queue. -/
def destroyPppChannel (s : Ses) : Ses := { s with layers := [], lcpCalls := 0 }

def destablishPpp (s : Ses) : Ses :=
  if s.finishStarted || s.terminated then s else destroyPppChannel (apSessionFinished s)

def LayerData.pending (d : LayerData) : Bool := d.starting && !d.finished

def LayerData.finish (n : LayerName) (d : LayerData) : LayerData :=
  if d.name = n then { d with finished := true, starting := false } else d

def pppLayerFinished (s : Ses) (n : LayerName) : Ses :=
  if s.finishStarted || s.terminated then s
  else
    let s := { s with layers := s.layers.map (LayerData.finish n) }
    if s.layers.any LayerData.pending then s else destablishPpp s

/-- `finish` of a layer. LCP closes its automaton, which tells it later, or queues a call. -/
def layerFinish (s : Ses) (n : LayerName) : Ses :=
  match n with
  | .lcp => if s.lcpStarted then s else { s with lcpCalls := s.lcpCalls + 1 }
  | _ => pppLayerFinished s n

/-- The `starting` of a layer. -/
def Ses.isStarting (s : Ses) (n : LayerName) : Bool :=
  s.layers.any fun d => d.name = n && d.starting

/-- The loop of `ppp_terminate`, and whether a layer was asked to finish. -/
def finishLayers : List LayerName → Ses → Bool → Ses × Bool
  | [], s, asked => (s, asked)
  | n :: ns, s, asked =>
    if s.isStarting n then finishLayers ns (layerFinish s n) true else finishLayers ns s asked

/-- `ppp_terminate`; the second part is the result `1`. -/
def pppTerminate (s : Ses) (hard : Bool) : Ses × Bool :=
  if s.finishStarted || s.terminated then (s, false)
  else if hard then (destablishPpp s, false)
  else
    let r := finishLayers (s.layers.map LayerData.name) s false
    if r.2 then r else (destablishPpp r.1, false)

def apSessionTerminate (s : Ses) (hard : Bool) : Ses :=
  if s.terminated || s.finishStarted then s
  else if s.terminating then
    if hard && !s.finishStarted then (pppTerminate s hard).1 else s
  else
    let r := pppTerminate { s with terminating := true } hard
    if r.2 then { r.1 with log := r.1.log ++ [.finishing], down := true } else r.1

/-- `lcp_layer_finished`, the callback of the automaton of LCP. -/
def lcpLayerFinished (s : Ses) : Ses :=
  if s.lcpStarted then
    let s := { s with lcpStarted := false }
    if s.terminating then pppLayerFinished s .lcp else apSessionTerminate s false
  else apSessionTerminate s false

/-- The `starting` flag is set before a layer is started. -/
def LayerData.start (n : LayerName) (d : LayerData) : LayerData :=
  if d.name = n then { d with starting := true } else d

/-! ## Events -/

/-- What may happen. `terminate` stands for all calls of `ap_session_terminate`. -/
inductive Event
  | startFirst
  | startLayer (n : LayerName)
  | lcpUp
  | lcpFinished
  | lcpCall
  | layerFinished (n : LayerName)
  | terminate (hard : Bool)

def Ses.lcpRuns (s : Ses) : Bool :=
  s.layers.any fun d => d.name = .lcp && (d.starting || d.finished)

/-- One event. LCP is started once; the layers above it are started when it has been up. -/
def step (s : Ses) : Event → Option Ses
  | .startFirst =>
    if s.lcpRuns then none else some { s with layers := s.layers.map (LayerData.start .lcp) }
  | .startLayer n =>
    if s.lcpOpened && n ≠ .lcp then some { s with layers := s.layers.map (LayerData.start n) }
    else none
  | .lcpUp =>
    if s.lcpRuns then some { s with lcpStarted := true, lcpOpened := true } else none
  | .lcpFinished => if s.lcpRuns then some (lcpLayerFinished s) else none
  | .lcpCall =>
    if 0 < s.lcpCalls then some (pppLayerFinished { s with lcpCalls := s.lcpCalls - 1 } .lcp)
    else none
  | .layerFinished n => if n = .lcp then none else some (pppLayerFinished s n)
  | .terminate hard => some (apSessionTerminate s hard)

/-! ## The invariant -/

def ended : List Note := [.finishing, .preFinished, .unlinked, .released, .finished, .ctrlFinished]

def Ses.lcpPending (s : Ses) : Prop := ∃ d ∈ s.layers, d.name = .lcp ∧ d.pending = true

/-- Not yet asked to end: nothing has been seen, and if a layer is starting, LCP is pending. -/
structure Quiet (s : Ses) : Prop where
  unfinished : s.finishStarted = false
  unterminated : s.terminated = false
  terminating : s.terminating = false
  down : s.down = false
  log : s.log = []
  calls : s.lcpCalls = 0
  lcp : s.lcpPending ∨ s.lcpOpened = false ∧ ∀ d ∈ s.layers, d.starting = false ∧ d.finished = false

structure Ending (s : Ses) : Prop where
  unfinished : s.finishStarted = false
  unterminated : s.terminated = false
  terminating : s.terminating = true
  down : s.down = true
  log : s.log = [.finishing]

structure Over (s : Ses) : Prop where
  finished : s.finishStarted = true
  terminated : s.terminated = true
  log : s.log = ended

def Inv (s : Ses) : Prop := Quiet s ∨ Ending s ∨ Over s

section Functions

variable {s : Ses} {n : LayerName}

theorem finished_over (hf : s.finishStarted = false)
    (hl : s.log ++ (if s.down then [] else [.finishing]) = [.finishing]) :
    Over (apSessionFinished s) := by
  unfold apSessionFinished
  rw [if_neg (by rw [hf]; nofun), hl]
  exact ⟨rfl, rfl, rfl⟩

theorem destablish_over (hf : s.finishStarted = false) (ht : s.terminated = false)
    (hl : s.log ++ (if s.down then [] else [.finishing]) = [.finishing]) :
    Over (destablishPpp s) := by
  unfold destablishPpp
  rw [if_neg (by rw [hf, ht]; nofun)]
  have h := finished_over hf hl
  exact ⟨h.finished, h.terminated, h.log⟩

/-- What the loop of `ppp_terminate` leaves alone while LCP is pending. -/
structure Kept (s s' : Ses) : Prop where
  finishStarted : s'.finishStarted = s.finishStarted
  terminated : s'.terminated = s.terminated
  terminating : s'.terminating = s.terminating
  down : s'.down = s.down
  log : s'.log = s.log
  lcp : s'.lcpPending

theorem Kept.trans {s₁ s₂ s₃ : Ses} (h₁ : Kept s₁ s₂) (h₂ : Kept s₂ s₃) : Kept s₁ s₃ :=
  ⟨h₂.finishStarted.trans h₁.finishStarted, h₂.terminated.trans h₁.terminated,
    h₂.terminating.trans h₁.terminating, h₂.down.trans h₁.down, h₂.log.trans h₁.log, h₂.lcp⟩

theorem lcpPending_map (hp : s.lcpPending) {f : LayerData → LayerData}
    (hf : ∀ d, d.name = .lcp → f d = d) :
    ({ s with layers := s.layers.map f } : Ses).lcpPending := by
  obtain ⟨d, hd, hn, hpd⟩ := hp
  exact ⟨d, List.mem_map.2 ⟨d, hd, hf d hn⟩, hn, hpd⟩

theorem finish_other (hn : n ≠ .lcp) (d : LayerData) (hd : d.name = .lcp) : d.finish n = d := by
  unfold LayerData.finish
  rw [if_neg (by rw [hd]; exact hn.symm)]

theorem start_other (hn : n ≠ .lcp) (d : LayerData) (hd : d.name = .lcp) : d.start n = d := by
  unfold LayerData.start
  rw [if_neg (by rw [hd]; exact hn.symm)]

theorem lcpPending.any (hp : s.lcpPending) : s.layers.any LayerData.pending = true := by
  obtain ⟨d, hd, -, hpd⟩ := hp
  exact List.any_eq_true.2 ⟨d, hd, hpd⟩

theorem layerFinished_kept (hf : s.finishStarted = false) (ht : s.terminated = false)
    (hp : s.lcpPending) (hn : n ≠ .lcp) :
    pppLayerFinished s n = { s with layers := s.layers.map (LayerData.finish n) } := by
  unfold pppLayerFinished
  rw [if_neg (by rw [hf, ht]; nofun)]
  exact if_pos (lcpPending.any (lcpPending_map hp (finish_other hn)))

theorem layerFinish_kept (hf : s.finishStarted = false) (ht : s.terminated = false)
    (hp : s.lcpPending) : Kept s (layerFinish s n) := by
  by_cases hn : n = .lcp
  · subst hn
    dsimp only [layerFinish]
    split
    · exact ⟨rfl, rfl, rfl, rfl, rfl, hp⟩
    · exact ⟨rfl, rfl, rfl, rfl, rfl, hp⟩
  · have he : layerFinish s n = pppLayerFinished s n := by
      cases n with
      | lcp => exact absurd rfl hn
      | _ => rfl
    rw [he, layerFinished_kept hf ht hp hn]
    exact ⟨rfl, rfl, rfl, rfl, rfl, lcpPending_map hp (finish_other hn)⟩

theorem finishLayers_kept (hf : s.finishStarted = false) (ht : s.terminated = false)
    (hp : s.lcpPending) : Kept s (finishLayers ns s asked).1 := by
  induction ns generalizing s asked with
  | nil => exact ⟨rfl, rfl, rfl, rfl, rfl, hp⟩
  | cons n ns ih =>
    unfold finishLayers
    split
    · have hk : Kept s (layerFinish s n) := layerFinish_kept hf ht hp
      exact hk.trans (ih true (hk.finishStarted.trans hf) (hk.terminated.trans ht) hk.lcp)
    · exact ih asked hf ht hp

theorem isStarting_lcp (hp : s.lcpPending) : s.isStarting .lcp = true := by
  obtain ⟨d, hd, hn, hpd⟩ := hp
  unfold LayerData.pending at hpd
  rw [Bool.and_eq_true] at hpd
  exact List.any_eq_true.2 ⟨d, hd, by simp [hn, hpd.1]⟩

theorem finishLayers_asked (hf : s.finishStarted = false) (ht : s.terminated = false)
    (hp : s.lcpPending) (hm : asked = true ∨ .lcp ∈ ns) : (finishLayers ns s asked).2 = true := by
  induction ns generalizing s asked with
  | nil => exact hm.resolve_right (nofun)
  | cons n ns ih =>
    unfold finishLayers
    split
    · have hk : Kept s (layerFinish s n) := layerFinish_kept hf ht hp
      exact ih true (hk.finishStarted.trans hf) (hk.terminated.trans ht) hk.lcp (.inl rfl)
    · grind [isStarting_lcp]

theorem finishLayers_none (h : ∀ d ∈ s.layers, d.starting = false) : finishLayers ns s asked = (s, asked) := by
  induction ns with
  | nil => rfl
  | cons n ns ih =>
    have hs : ¬s.isStarting n = true := by
      intro hs
      obtain ⟨d, hd, hp⟩ := List.any_eq_true.1 hs
      rw [Bool.and_eq_true, h d hd] at hp
      cases hp.2
    unfold finishLayers
    rw [if_neg hs]
    exact ih

end Functions

/-! ## The phases -/

section Phases

variable {s : Ses} {n : LayerName}

theorem Quiet.destablish (hq : Quiet s) (b : Bool) :
    Over (destablishPpp { s with terminating := b }) :=
  destablish_over hq.unfinished hq.unterminated (by simp [hq.log, hq.down])

theorem Ending.destablish (he : Ending s) : Over (destablishPpp s) :=
  destablish_over he.unfinished he.unterminated (by simp [he.log, he.down])

theorem pppTerminate_hard (hf : s.finishStarted = false) (ht : s.terminated = false) :
    pppTerminate s true = (destablishPpp s, false) := by
  simp_all [pppTerminate]

theorem pppTerminate_soft (hf : s.finishStarted = false) (ht : s.terminated = false) :
    pppTerminate s false =
      if (finishLayers (s.layers.map LayerData.name) s false).2 then
        finishLayers (s.layers.map LayerData.name) s false
      else (destablishPpp (finishLayers (s.layers.map LayerData.name) s false).1, false) := by
  simp_all [pppTerminate]

theorem Quiet.terminate (hq : Quiet s) (hard : Bool) : Inv (apSessionTerminate s hard) := by
  unfold apSessionTerminate
  rw [if_neg (by rw [hq.unfinished, hq.unterminated]; nofun),
    if_neg (by rw [hq.terminating]; nofun)]
  cases hard with
  | true =>
    rw [pppTerminate_hard (s := { s with terminating := true }) hq.unfinished hq.unterminated]
    exact .inr (.inr (hq.destablish true))
  | false =>
    rw [pppTerminate_soft (s := { s with terminating := true }) hq.unfinished hq.unterminated]
    rcases hq.lcp with hp | ⟨-, hn⟩
    · -- LCP is asked to finish, and does so later
      have hp' : ({ s with terminating := true } : Ses).lcpPending := hp
      have hm : LayerName.lcp ∈ s.layers.map LayerData.name := by
        obtain ⟨d, hd, hdn, -⟩ := hp
        exact List.mem_map.2 ⟨d, hd, hdn⟩
      have ha := finishLayers_asked (s := { s with terminating := true }) _ false hq.unfinished
        hq.unterminated hp' (.inr hm)
      have hk := finishLayers_kept (s := { s with terminating := true })
        (s.layers.map LayerData.name) false hq.unfinished hq.unterminated hp'
      rw [if_pos ha]
      rw [if_pos ha]
      refine .inr (.inl ⟨hk.finishStarted.trans hq.unfinished,
        hk.terminated.trans hq.unterminated, hk.terminating, rfl, ?_⟩)
      rw [hk.log, hq.log]
      rfl
    · rw [finishLayers_none (s := { s with terminating := true }) _ _ fun d hd => (hn d hd).1]
      exact .inr (.inr (hq.destablish true))

theorem Ending.terminate (he : Ending s) (hard : Bool) : Inv (apSessionTerminate s hard) := by
  unfold apSessionTerminate
  rw [if_neg (by rw [he.unfinished, he.unterminated]; nofun), if_pos he.terminating]
  cases hard with
  | false => exact .inr (.inl he)
  | true =>
    rw [if_pos (by rw [he.unfinished]; rfl), pppTerminate_hard he.unfinished he.unterminated]
    exact .inr (.inr he.destablish)

theorem Over.terminate (ho : Over s) (hard : Bool) : apSessionTerminate s hard = s :=
  if_pos (by rw [ho.terminated]; rfl)

theorem Over.layerFinished (ho : Over s) : pppLayerFinished s n = s :=
  if_pos (by rw [ho.finished]; rfl)

theorem Ending.layerFinished (he : Ending s) : Inv (pppLayerFinished s n) := by
  unfold pppLayerFinished
  rw [if_neg (by rw [he.unfinished, he.unterminated]; nofun)]
  have he' : Ending { s with layers := s.layers.map (LayerData.finish n) } := { he with }
  dsimp only
  split
  · exact .inr (.inl he')
  · exact .inr (.inr he'.destablish)

theorem Quiet.layerFinished (hq : Quiet s) (hn : n ≠ .lcp) : Inv (pppLayerFinished s n) := by
  rcases hq.lcp with hp | ⟨-, hnone⟩
  · rw [layerFinished_kept hq.unfinished hq.unterminated hp hn]
    exact .inl { hq with lcp := .inl (lcpPending_map hp (finish_other hn)) }
  · -- no layer is starting, and the session ends at once
    unfold pppLayerFinished
    rw [if_neg (by rw [hq.unfinished, hq.unterminated]; nofun)]
    have hany : ¬(s.layers.map (LayerData.finish n)).any LayerData.pending = true := by
      grind [LayerData.finish, LayerData.pending]
    rw [if_neg hany]
    refine .inr (.inr (destablish_over hq.unfinished hq.unterminated ?_))
    simp [hq.log, hq.down]

theorem Quiet.lcpFinished (hq : Quiet s) : Inv (lcpLayerFinished s) := by
  unfold lcpLayerFinished
  have hq' : Quiet { s with lcpStarted := false } := { hq with }
  grind [hq.terminating, hq'.terminate, hq.terminate]

theorem Ending.lcpFinished (he : Ending s) : Inv (lcpLayerFinished s) := by
  unfold lcpLayerFinished
  have he' : Ending { s with lcpStarted := false } := { he with }
  grind [he.terminating, he'.layerFinished, he.terminate]

theorem Over.lcpFinished (ho : Over s) : Over (lcpLayerFinished s) := by
  unfold lcpLayerFinished
  have ho' : Over { s with lcpStarted := false } := { ho with }
  grind [ho'.layerFinished, ho'.terminate, ho.terminate]

theorem Quiet.startFirst (hq : Quiet s) (hr : s.lcpRuns = false) :
    Quiet { s with layers := s.layers.map (LayerData.start .lcp) } := by
  refine { hq with lcp := ?_ }
  have hn : s.lcpOpened = false ∧ ∀ d ∈ s.layers, d.starting = false ∧ d.finished = false := by
    refine hq.lcp.resolve_left fun hp => ?_
    obtain ⟨d, hd, hdn, hpd⟩ := hp
    have := List.any_eq_false.1 hr d hd
    simp_all [LayerData.pending]
  by_cases hl : ∃ d ∈ s.layers, d.name = .lcp
  · obtain ⟨d, hd, hdn⟩ := hl
    refine .inl ⟨d.start .lcp, List.mem_map_of_mem hd, ?_, ?_⟩ <;>
      simp [LayerData.start, LayerData.pending, hdn, (hn.2 d hd).2]
  simp_all [LayerData.start]

theorem Quiet.lcpUp (hq : Quiet s) (hr : s.lcpRuns = true) : s.lcpPending := by
  refine hq.lcp.resolve_right fun hn => ?_
  obtain ⟨d, hd, hp⟩ := List.any_eq_true.1 hr
  simp [(hn.2 d hd).1, (hn.2 d hd).2] at hp

theorem step_inv (e : Event) {s' : Ses} (hi : Inv s) (hst : step s e = some s') : Inv s' := by
  cases e with
  | startFirst =>
    obtain ⟨hr, rfl⟩ := of_enabled_unless hst
    rcases hi with hq | he | ho
    · exact .inl (hq.startFirst (Bool.not_eq_true _ ▸ hr))
    · exact .inr (.inl { he with })
    · exact .inr (.inr { ho with })
  | startLayer n =>
    obtain ⟨hc, rfl⟩ := of_enabled_if hst
    simp only [Bool.and_eq_true, decide_eq_true_eq] at hc
    rcases hi with hq | he | ho
    · have hp := hq.lcp.resolve_right fun hn => by rw [hn.1] at hc; cases hc.1
      exact .inl { hq with lcp := .inl (lcpPending_map hp (start_other hc.2)) }
    · exact .inr (.inl { he with })
    · exact .inr (.inr { ho with })
  | lcpUp =>
    obtain ⟨hr, rfl⟩ := of_enabled_if hst
    rcases hi with hq | he | ho
    · exact .inl { hq with lcp := .inl (hq.lcpUp hr) }
    · exact .inr (.inl { he with })
    · exact .inr (.inr { ho with })
  | lcpFinished =>
    obtain ⟨-, rfl⟩ := of_enabled_if hst
    rcases hi with hq | he | ho
    · exact hq.lcpFinished
    · exact he.lcpFinished
    · exact .inr (.inr ho.lcpFinished)
  | lcpCall =>
    obtain ⟨hc, rfl⟩ := of_enabled_if hst
    rcases hi with hq | he | ho
    · rw [hq.calls] at hc; exact absurd hc (Nat.lt_irrefl 0)
    · have he' : Ending { s with lcpCalls := s.lcpCalls - 1 } := { he with }
      exact he'.layerFinished
    · have ho' : Over { s with lcpCalls := s.lcpCalls - 1 } := { ho with }
      rw [ho'.layerFinished]
      exact .inr (.inr ho')
  | layerFinished n =>
    obtain ⟨hn, rfl⟩ := of_enabled_unless hst
    rcases hi with hq | he | ho
    · exact hq.layerFinished hn
    · exact he.layerFinished
    · rw [ho.layerFinished]; exact .inr (.inr ho)
  | terminate hard =>
    cases hst
    rcases hi with hq | he | ho
    · exact hq.terminate hard
    · exact he.terminate hard
    · rw [ho.terminate]; exact .inr (.inr ho)

theorem establish_inv : Inv establishPpp :=
  .inl ⟨rfl, rfl, rfl, rfl, rfl, rfl, .inr ⟨rfl, by decide⟩⟩

end Phases

/-- **A session is taken down once**: the log is empty until somebody asks the session to end; then
`EV_SES_FINISHING` has fired once, followed at most by one run of the body of `ap_session_finished`.
-/
theorem teardown_once (es : List Event) (s : Ses) (hr : run step establishPpp es = some s) :
    s.log = (if s.finishStarted then ended else if s.terminating then [.finishing] else []) := by
  rcases run_invariant (fun s e s' hi hst => step_inv e hi hst) establish_inv hr with hq | he | ho
  · rw [hq.log, hq.unfinished, hq.terminating]; rfl
  · rw [he.log, he.unfinished, he.terminating]; rfl
  · rw [ho.log, ho.finished]; rfl

/-- A soft termination in the middle of the negotiation, a second one, and the end of LCP. -/
theorem teardown_once_soft :
    ∃ s, run step establishPpp
      [.startFirst, .lcpUp, .startLayer .auth, .terminate false, .terminate false, .lcpFinished,
        .terminate true] = some s ∧ s.log = ended := by
  obtain ⟨s, hs, hf⟩ : ∃ s, run step establishPpp [.startFirst, .lcpUp, .startLayer .auth,
      .terminate false, .terminate false, .lcpFinished, .terminate true] = some s ∧
      s.finishStarted = true := by decide +kernel
  exact ⟨s, hs, (teardown_once _ s hs).trans (if_pos hf)⟩

end Session.Teardown
