import MicroBng.Ppp.Negotiation

/-!
# What is agreed when a layer goes up

The rule for protocols in which sending a request can end the negotiation: `send_conf_req` of IPCP
and IPV6CP calls `ppp_fsm_close2` when it has nothing to ask for. `good` is what the protocol keeps
throughout, `acceptable` is said of the request that is being answered, and `agreed` of the one
that was answered with `send_conf_ack` last.

* `Callbacks.Upholds`: what the callbacks have to do
* `Bound`: what every function of the automaton then keeps: in `Ack_Sent` and `Opened`, and when
  `layer_up` is called, `agreed` holds
* `Callbacks.Upholds.fair`: the callbacks are fair to phases in which nothing has to be requested
-/

namespace Ppp

structure Terms (δ : Type*) where
  good : δ → Prop
  agreed : δ → Prop
  acceptable : δ → Prop

variable {δ : Type*}

structure Bound (T : Terms δ) (l : Layer δ) : Prop where
  good : T.good l.data
  agreed : l.fsm.state.acked = true → T.agreed l.data

/-- A callback that takes nothing back. It leaves the state alone or gives up. -/
structure Keeps (T : Terms δ) (f : Layer δ → Layer δ) : Prop where
  good : ∀ l, T.good l.data → T.good (f l).data
  agreed : ∀ l, T.agreed l.data → T.agreed (f l).data
  acceptable : ∀ l, T.acceptable l.data → T.acceptable (f l).data
  state : ∀ l, (f l).fsm.state = l.fsm.state ∨ (f l).fsm.state.acked = false

structure Callbacks.Upholds (cb : Callbacks δ) (T : Terms δ) : Prop where
  layerUp : ∀ l, T.good l.data → T.agreed l.data →
    T.good (cb.layerUp l).data ∧ T.agreed (cb.layerUp l).data
  layerDown : Keeps T cb.layerDown
  layerStarted : Keeps T cb.layerStarted
  layerFinished : Keeps T cb.layerFinished
  request : Keeps T cb.request
  sendConfAck : ∀ l, T.good l.data → T.acceptable l.data →
    T.good (cb.sendConfAck l).data ∧ T.agreed (cb.sendConfAck l).data
  sendConfNak : Keeps T cb.sendConfNak
  sendConfRej : Keeps T cb.sendConfRej
  sendCodeRej : Keeps T cb.sendCodeRej
  sendTermReq : Keeps T cb.sendTermReq
  sendTermAck : Keeps T cb.sendTermAck

/-! ## Rules -/

section Rules

variable {T : Terms δ} {l : Layer δ} {f : Layer δ → Layer δ} {cb : Callbacks δ}

theorem Bound.congr {l' : Layer δ} (h : Bound T l) (hd : l'.data = l.data)
    (hs : l'.fsm.state = l.fsm.state) : Bound T l' := by
  refine ⟨hd ▸ h.good, fun ha => ?_⟩
  rw [hd]
  exact h.agreed (hs ▸ ha)

theorem Keeps.bound (hf : Keeps T f) (h : Bound T l) : Bound T (f l) := by
  refine ⟨hf.good l h.good, fun ha => ?_⟩
  grind [hf.state, hf.agreed, h.agreed]

theorem Keeps.id : Keeps T (fun l : Layer δ => l) :=
  ⟨fun _ h => h, fun _ h => h, fun _ h => h, fun _ => .inl rfl⟩

/-! ## The phases of the terms -/

def Terms.phases (T : Terms δ) : Phases δ where
  good := T.good
  requested _ := True
  acknowledged := T.agreed
  acceptable := T.acceptable
  dead _ := False

theorem Bound.settled (h : Bound T l) : Settled T.phases l :=
  ⟨h.good, fun _ => trivial, h.agreed, False.elim⟩

theorem Settled.bound (h : Settled T.phases l) : Bound T l := ⟨h.good, h.acknowledged⟩

theorem Terms.asked {d : δ} (h : T.good d) : Asked T.phases d := ⟨⟨h, not_false⟩, trivial⟩

theorem Keeps.kept (hf : Keeps T f) (l : Layer δ) : Kept T.phases l.data (f l).data :=
  ⟨hf.good l, fun _ => trivial, hf.agreed l, hf.acceptable l, False.elim⟩

theorem Keeps.steady (hf : Keeps T f) : Steady T.phases f :=
  ⟨hf.kept, fun _ h => (hf.bound h.bound).settled⟩

theorem Callbacks.Upholds.fair (hcb : cb.Upholds T) : cb.Fair T.phases fun _ => True where
  down _ _ := trivial
  layerUp l h := by
    obtain ⟨hg, ha⟩ := hcb.layerUp l h.good h.acknowledged
    exact { Terms.asked hg with acknowledged := ha }
  layerDown l _ := hcb.layerDown.kept l
  layerDown_settled l _ _ := hcb.layerDown.steady.settled l
  layerStarted := hcb.layerStarted.kept
  layerFinished l hg hs := (hcb.layerFinished.bound ⟨hg, fun ha => nomatch hs.symm.trans ha⟩).settled
  request l h := Terms.asked (hcb.request.good l h.good)
  request_settled l h hk := (hcb.request.bound ⟨h.good, hk⟩).settled
  request_acceptable := hcb.request.acceptable
  request_down _ _ := trivial
  sendConfAck l h hk := by
    obtain ⟨hg, ha⟩ := hcb.sendConfAck l h.good hk
    exact { Terms.asked hg with acknowledged := ha }
  sendConfNak := hcb.sendConfNak.steady
  sendConfRej := hcb.sendConfRej.steady
  sendTermReq := hcb.sendTermReq.steady
  sendTermAck := hcb.sendTermAck.steady

end Rules

end Ppp
