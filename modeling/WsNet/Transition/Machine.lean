import Mathlib.Data.List.Basic

/-! Machines and their runs.

A machine is a step function on states, driven by labels: the label says who
moves and resolves whatever the environment chooses, so that a step is a
function and a concrete run can be evaluated. A step that is not enabled is
`none`.

Several results hold only of runs that keep to a rule, a condition on each label
and the state it is taken in. Reachability is therefore stated under a rule, and
plain reachability is reachability under the rule that allows everything. One
induction (`ReachableUnder.invariant`) serves every invariant. -/
namespace WsNet.Transition

structure Machine (σ ι : Type*) where
  Initial : σ → Prop
  step : ι → σ → Option σ

namespace Machine
variable {σ ι : Type*}

/-- From one state to another by steps that meet the rule. -/
inductive StepsUnder (M : Machine σ ι) (Rule : ι → σ → Prop) : σ → σ → Prop where
  | refl (s : σ) : StepsUnder M Rule s s
  | tail {s t u : σ} {i : ι} : StepsUnder M Rule s t → Rule i t → M.step i t = some u →
      StepsUnder M Rule s u

/-- The labels, in order, from a state, as long as they meet the rule. -/
def runUnder (M : Machine σ ι) (Rule : ι → σ → Prop) [∀ i s, Decidable (Rule i s)] :
    List ι → σ → Option σ
  | [], s => some s
  | i :: rest, s => if Rule i s then (M.step i s).bind (M.runUnder Rule rest) else none

/-- The rule that allows every step. -/
def anyStep : ι → σ → Prop := fun _ _ => True

instance (i : ι) (s : σ) : Decidable (anyStep i s) := .isTrue trivial

abbrev run (M : Machine σ ι) : List ι → σ → Option σ := M.runUnder anyStep

abbrev Steps (M : Machine σ ι) : σ → σ → Prop := M.StepsUnder anyStep

def ReachableUnder (M : Machine σ ι) (Rule : ι → σ → Prop) (s : σ) : Prop :=
  ∃ start, M.Initial start ∧ M.StepsUnder Rule start s

abbrev Reachable (M : Machine σ ι) (s : σ) : Prop := M.ReachableUnder anyStep s

variable {M : Machine σ ι} {Rule : ι → σ → Prop}

theorem StepsUnder.trans {s t u : σ} (h : M.StepsUnder Rule s t) (h' : M.StepsUnder Rule t u) :
    M.StepsUnder Rule s u := by
  induction h' with
  | refl => exact h
  | tail _ hr hs ih => exact .tail ih hr hs

/-- A stricter rule allows fewer runs. -/
theorem StepsUnder.mono {Rule' : ι → σ → Prop} (hR : ∀ i s, Rule i s → Rule' i s) {s t : σ}
    (h : M.StepsUnder Rule s t) : M.StepsUnder Rule' s t := by
  induction h with
  | refl => exact .refl _
  | tail _ hr hs ih => exact .tail ih (hR _ _ hr) hs

/-- What every step from a state with the property keeps, every run keeps. -/
theorem StepsUnder.preserves {P : σ → Prop}
    (preserved : ∀ i s t, P s → Rule i s → M.step i s = some t → P t) {s t : σ}
    (h : M.StepsUnder Rule s t) (hs : P s) : P t := by
  induction h with
  | refl => exact hs
  | tail _ hr hstep ih => exact preserved _ _ _ ih hr hstep

theorem ReachableUnder.initial {s : σ} (h : M.Initial s) : M.ReachableUnder Rule s :=
  ⟨s, h, .refl s⟩

theorem ReachableUnder.steps {s t : σ} (h : M.ReachableUnder Rule s)
    (hs : M.StepsUnder Rule s t) : M.ReachableUnder Rule t := by
  obtain ⟨start, hi, h⟩ := h
  exact ⟨start, hi, h.trans hs⟩

theorem ReachableUnder.next {s t : σ} {i : ι} (h : M.ReachableUnder Rule s) (hr : Rule i s)
    (hs : M.step i s = some t) : M.ReachableUnder Rule t :=
  h.steps (.tail (.refl s) hr hs)

/-- **The invariant rule.** What holds initially and survives every step that
meets the rule holds of every state reached under it. -/
theorem ReachableUnder.invariant {P : σ → Prop} (initial : ∀ s, M.Initial s → P s)
    (preserved : ∀ i s t, M.ReachableUnder Rule s → P s → Rule i s → M.step i s = some t → P t)
    {s : σ} (h : M.ReachableUnder Rule s) : P s := by
  obtain ⟨start, hi, h⟩ := h
  have key : M.ReachableUnder Rule s ∧ P s := by
    induction h with
    | refl => exact ⟨.initial hi, initial _ hi⟩
    | tail _ hr hs ih => exact ⟨ih.1.next hr hs, preserved _ _ _ ih.1 ih.2 hr hs⟩
  exact key.2

/-- **The simulation rule.** When initial states map to initial states and every step
to steps of another machine, reachable states map to reachable ones. -/
theorem ReachableUnder.simulation {τ κ : Type*} {N : Machine τ κ} {Rule' : κ → τ → Prop} (image : σ → τ)
    (initial : ∀ s, M.Initial s → N.Initial (image s))
    (matched : ∀ i s t, M.ReachableUnder Rule s → Rule i s → M.step i s = some t →
      N.StepsUnder Rule' (image s) (image t))
    {s : σ} (h : M.ReachableUnder Rule s) : N.ReachableUnder Rule' (image s) :=
  h.invariant (P := fun s => N.ReachableUnder Rule' (image s)) (fun s hi => .initial (initial s hi))
    fun i s t hs himage hr hstep => himage.steps (matched i s t hs hr hstep)

/-- One step that meets the rule. -/
theorem StepsUnder.single {s t : σ} {i : ι} (hr : Rule i s) (hs : M.step i s = some t) :
    M.StepsUnder Rule s t :=
  .tail (.refl s) hr hs

/-! ### Every step of a run -/

/-- Each step of the run from the state meets the condition. -/
def Throughout (M : Machine σ ι) (P : ι → σ → σ → Prop) : List ι → σ → Prop
  | [], _ => True
  | i :: rest, s => ∀ t, M.step i s = some t → P i s t ∧ M.Throughout P rest t

section Evaluation
variable [∀ i s, Decidable (Rule i s)]

/-- An evaluated run is a run. -/
theorem stepsUnder_of_run (labels : List ι) (s t : σ) (h : M.runUnder Rule labels s = some t) :
    M.StepsUnder Rule s t := by
  induction labels generalizing s with
  | nil =>
    cases h
    exact .refl _
  | cons i rest ih =>
    by_cases hr : Rule i s
    · rw [runUnder, if_pos hr] at h
      obtain ⟨u, hu, hrest⟩ := Option.bind_eq_some_iff.mp h
      exact StepsUnder.trans (.tail (.refl s) hr hu) (ih u hrest)
    · rw [runUnder, if_neg hr] at h
      cases h

theorem runUnder_cons {i : ι} {rest : List ι} {s u : σ} (hr : Rule i s) (hs : M.step i s = some u) :
    M.runUnder Rule (i :: rest) s = M.runUnder Rule rest u := by
  rw [runUnder, if_pos hr, hs, Option.bind_some]

theorem runUnder_append (labels more : List ι) (s : σ) :
    M.runUnder Rule (labels ++ more) s = (M.runUnder Rule labels s).bind (M.runUnder Rule more) := by
  induction labels generalizing s with
  | nil => rfl
  | cons i rest ih =>
    simp only [List.cons_append, runUnder]
    by_cases hr : Rule i s
    · rw [if_pos hr, if_pos hr, Option.bind_assoc]
      congr 1
      funext u
      exact ih u
    · rw [if_neg hr, if_neg hr]
      rfl

theorem runUnder_then {labels more : List ι} {s t : σ} {u : Option σ}
    (h : M.runUnder Rule labels s = some t) (h' : M.runUnder Rule more t = u) :
    M.runUnder Rule (labels ++ more) s = u := by
  rw [runUnder_append, h, Option.bind_some, h']

theorem reachableUnder_of_run {labels : List ι} {s t : σ} (hi : M.Initial s)
    (h : M.runUnder Rule labels s = some t) : M.ReachableUnder Rule t :=
  ⟨s, hi, stepsUnder_of_run labels s t h⟩

/-- The end of a run that was only checked to exist. -/
theorem reachable_getD {labels : List ι} {s : σ} (hi : M.Initial s)
    (h : (M.runUnder Rule labels s).isSome = true) :
    M.ReachableUnder Rule ((M.runUnder Rule labels s).getD s) := by
  obtain ⟨t, ht⟩ := Option.isSome_iff_exists.mp h
  rw [ht]
  exact reachableUnder_of_run hi ht

end Evaluation

/-- Conditions that agree on every step that is taken hold of the same runs. -/
theorem throughout_congr {P Q : ι → σ → σ → Prop} (Inv : σ → Prop)
    (agree : ∀ i s t, Inv s → M.step i s = some t → (P i s t ↔ Q i s t))
    (kept : ∀ i s t, Inv s → M.step i s = some t → P i s t → Inv t) {labels : List ι} {s : σ}
    (hs : Inv s) : M.Throughout P labels s ↔ M.Throughout Q labels s := by
  induction labels generalizing s with
  | nil => exact Iff.rfl
  | cons i rest ih =>
    refine forall₂_congr fun t ht => ?_
    rw [← agree i s t hs ht]
    exact and_congr_right fun hP => ih (kept i s t hs ht hP)

/-- What follows from a condition at each step, where the condition keeps an invariant. -/
theorem Throughout.mono {P Q : ι → σ → σ → Prop} (Inv : σ → Prop)
    (follows : ∀ i s t, Inv s → M.step i s = some t → P i s t → Q i s t ∧ Inv t) {labels : List ι} {s : σ}
    (hs : Inv s) (h : M.Throughout P labels s) : M.Throughout Q labels s := by
  induction labels generalizing s with
  | nil => trivial
  | cons i rest ih =>
    intro t ht
    obtain ⟨hP, hrest⟩ := h t ht
    obtain ⟨hQ, hInv⟩ := follows i s t hs ht hP
    exact ⟨hQ, ih hInv hrest⟩

end Machine

end WsNet.Transition
