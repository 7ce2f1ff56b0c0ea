import Mathlib.Logic.Relation

namespace FalconGuide.Lib

/-!
# Labelled transition systems

Runs of a program whose threads interleave, or of an object whose public calls arrive in any
order, are runs of a labelled transition system.

* `System` — the initial states and the labelled steps;
* `System.Reachable` — the states some run reaches, with the induction packaged once in
  `System.Reachable.invariant`;
* `System.Run` — the runs with the list of their labels;
* `System.guarded` — the runs whose steps all meet a condition on the state before the step
  and its label;
* `System.Simulation` — every step of the concrete system is matched by a (possibly empty)
  run of the abstract one, so abstract invariants transfer (`Simulation.exists_related`).
-/

/-- A labelled transition system: initial states and labelled steps. -/
structure System (σ : Type*) (ℓ : Type*) where
  /-- The states a run may start in. -/
  init : σ → Prop
  /-- `step s l t`: from `s` the system can do `l` and be in `t`. -/
  step : σ → ℓ → σ → Prop

namespace System

variable {σ ℓ : Type*} {S : System σ ℓ}

/-- The states that some run of `S` reaches. -/
inductive Reachable (S : System σ ℓ) : σ → Prop
  | init {s : σ} : S.init s → Reachable S s
  | step {s t : σ} {l : ℓ} : Reachable S s → S.step s l t → Reachable S t

/-- **Invariant rule.** A predicate that holds initially and that every step from a
    reachable state keeps holds in every reachable state. -/
theorem Reachable.invariant {I : σ → Prop} (h0 : ∀ s, S.init s → I s)
    (hstep : ∀ s l t, S.Reachable s → I s → S.step s l t → I t) {s : σ}
    (h : S.Reachable s) : I s := by
  induction h with
  | init hs => exact h0 _ hs
  | step hr hst ih => exact hstep _ _ _ hr ih hst

/-! ### Labelled runs -/

/-- `Run S s ls t`: from `s` the system does `ls`, one after the other, and is in `t`. -/
inductive Run (S : System σ ℓ) : σ → List ℓ → σ → Prop
  | nil (s : σ) : Run S s [] s
  | cons {s t u : σ} {l : ℓ} {ls : List ℓ} : S.step s l t → Run S t ls u → Run S s (l :: ls) u

/-- Two runs, one after the other. -/
theorem Run.append {s t u : σ} {ls ls' : List ℓ} (h : S.Run s ls t) (h' : S.Run t ls' u) :
    S.Run s (ls ++ ls') u := by
  induction h with
  | nil s => exact h'
  | cons hst _ ih => exact .cons hst (ih h')

/-- A run from a reachable state ends in one. -/
theorem Reachable.run {s t : σ} {ls : List ℓ} (h : S.Reachable s) (hrun : S.Run s ls t) :
    S.Reachable t := by
  induction hrun with
  | nil s => exact h
  | cons hst _ ih => exact ih (h.step hst)

/-! ### Guarded runs -/

/-- The runs of `S` whose steps all meet `G`, a condition on the state before the step and
    the label. -/
def guarded (S : System σ ℓ) (G : σ → ℓ → Prop) : System σ ℓ where
  init := S.init
  step s l t := G s l ∧ S.step s l t

@[simp] theorem guarded_init (G : σ → ℓ → Prop) (s : σ) :
    (S.guarded G).init s ↔ S.init s := Iff.rfl

@[simp] theorem guarded_step (G : σ → ℓ → Prop) (s t : σ) (l : ℓ) :
    (S.guarded G).step s l t ↔ G s l ∧ S.step s l t := Iff.rfl

/-- A guarded run is a run. -/
theorem Reachable.of_guarded {G : σ → ℓ → Prop} {s : σ} (h : (S.guarded G).Reachable s) :
    S.Reachable s := by
  induction h with
  | init hs => exact .init hs
  | step _ hst ih => exact .step ih hst.2

/-- With a weaker condition there are more runs. -/
theorem Reachable.guarded_mono {G G' : σ → ℓ → Prop} (hG : ∀ s l, G s l → G' s l) {s : σ}
    (h : (S.guarded G).Reachable s) : (S.guarded G').Reachable s := by
  induction h with
  | init hs => exact .init hs
  | step _ hst ih => exact .step ih ⟨hG _ _ hst.1, hst.2⟩

@[inherit_doc Reachable.guarded_mono]
theorem Run.guarded_mono {G G' : σ → ℓ → Prop} (hG : ∀ s l, G s l → G' s l) {s t : σ}
    {ls : List ℓ} (h : (S.guarded G).Run s ls t) : (S.guarded G').Run s ls t := by
  induction h with
  | nil s => exact .nil s
  | cons hst _ ih => exact .cons ⟨hG _ _ hst.1, hst.2⟩ ih

/-- A step that meets the condition extends a guarded run. -/
theorem Reachable.guarded_step {G : σ → ℓ → Prop} {s t : σ} {l : ℓ}
    (h : (S.guarded G).Reachable s) (hst : S.step s l t) (hg : G s l) :
    (S.guarded G).Reachable t :=
  h.step ⟨hg, hst⟩

/-! ### Simulation -/

/-- The states reachable from `s` by any number of steps. -/
def Steps (S : System σ ℓ) : σ → σ → Prop :=
  Relation.ReflTransGen (fun s t => ∃ l, S.step s l t)

theorem Steps.refl (S : System σ ℓ) (s : σ) : S.Steps s s := Relation.ReflTransGen.refl

theorem Steps.single {s t : σ} {l : ℓ} (h : S.step s l t) : S.Steps s t :=
  Relation.ReflTransGen.single ⟨l, h⟩

/-- Reachability is closed under further steps. -/
theorem Reachable.steps {s t : σ} (h : S.Reachable s) (hst : S.Steps s t) : S.Reachable t := by
  induction hst with
  | refl => exact h
  | tail _ hlast ih =>
    obtain ⟨l, hl⟩ := hlast
    exact .step ih hl

variable {σ' ℓ' : Type*}

/-- `R` is a simulation of `C` by `A`: initial states are related to initial states, and a
    step of `C` from a related pair is matched by a run of `A` (empty for a step that `A`
    does not see). -/
structure Simulation (C : System σ ℓ) (A : System σ' ℓ') (R : σ → σ' → Prop) : Prop where
  /-- Every initial state has a related initial state. -/
  init : ∀ s, C.init s → ∃ a, A.init a ∧ R s a
  /-- Every concrete step is matched from every related abstract state. -/
  step : ∀ s l t a, R s a → C.step s l t → ∃ b, A.Steps a b ∧ R t b

/-- **Transfer.** A reachable concrete state is related to a reachable abstract state. -/
theorem Simulation.exists_related {C : System σ ℓ} {A : System σ' ℓ'} {R : σ → σ' → Prop}
    (h : Simulation C A R) {s : σ} (hs : C.Reachable s) : ∃ a, A.Reachable a ∧ R s a := by
  induction hs with
  | init h0 =>
    obtain ⟨a, ha, hR⟩ := h.init _ h0
    exact ⟨a, .init ha, hR⟩
  | step _ hst ih =>
    obtain ⟨a, ha, hR⟩ := ih
    obtain ⟨b, hab, hR'⟩ := h.step _ _ _ a hR hst
    exact ⟨b, ha.steps hab, hR'⟩

end System

end FalconGuide.Lib
