import Mathlib.Data.Set.Insert
import WsNet.Transition.Machine

/-! Publishing what a growing source held.

A source only grows. Parties load what it holds and later publish what they have loaded,
and in between the source may have grown. A party that publishes an old value over a
newer one takes something back. Where nobody loads while another has something
loaded (`Alone`), what is published only grows, and is never ahead of the source
(`ordered_of_reached`, `published_grows`). -/
namespace WsNet.Transition

@[ext] structure Publication (V P : Type*) where
  source : V
  /-- What a party has loaded and not yet published. -/
  loaded : P → Option V
  published : V

inductive PublicationOp (V P : Type*) where
  | grow (value : V)
  | load (party : P)
  | publish (party : P)
  /-- Some parties forget what they have loaded. -/
  | drop (parties : Set P)
  /-- Publish what the source holds, in one step. -/
  | confirm

namespace Publication
variable {V P : Type*} [DecidableEq P]

theorem loaded_update {s : Publication V P} {p q : P} {value : Option V} {w : V}
    (h : Function.update s.loaded p value q = some w) : q = p ∧ value = some w ∨ s.loaded q = some w := by
  by_cases hq : q = p
  · subst hq
    rw [Function.update_self] at h
    exact .inl ⟨rfl, h⟩
  · rw [Function.update_of_ne hq] at h
    exact .inr h

theorem loaded_drop {s : Publication V P} {p q : P} {w : V} (h : Function.update s.loaded p none q = some w) :
    q ≠ p ∧ s.loaded q = some w := by
  by_cases hq : q = p
  · subst hq
    rw [Function.update_self] at h
    cases h
  · rw [Function.update_of_ne hq] at h
    exact ⟨hq, h⟩

variable [Preorder V]

open Classical in
noncomputable def step : PublicationOp V P → Publication V P → Option (Publication V P)
  | .grow value, s => if s.source ≤ value then some { s with source := value } else none
  | .load party, s => some { s with loaded := Function.update s.loaded party (some s.source) }
  | .publish party, s => (s.loaded party).map fun value =>
      { s with loaded := Function.update s.loaded party none, published := value }
  | .drop parties, s => some { s with loaded := fun party => if party ∈ parties then none else s.loaded party }
  | .confirm, s => some { s with published := s.source }

/-- Nothing is published, or loaded, that the source did not hold. -/
noncomputable def machine (V P : Type*) [Preorder V] [DecidableEq P] : Machine (Publication V P) (PublicationOp V P) where
  Initial := fun s => s.published ≤ s.source ∧ ∀ party, s.loaded party = none
  step := step

/-- Nobody loads, or publishes from the source, while another has something loaded. -/
def Alone : PublicationOp V P → Publication V P → Prop
  | .load _, s | .confirm, s => ∀ party, s.loaded party = none
  | _, _ => True

theorem step_drop_one (p : P) (s : Publication V P) :
    step (.drop {p}) s = some { s with loaded := Function.update s.loaded p none } := by
  refine congrArg some (Publication.ext rfl ?_ rfl)
  funext q
  by_cases hq : q = p
  · subst hq
    exact (if_pos (Set.mem_singleton q)).trans (Function.update_self q none s.loaded).symm
  · exact (if_neg fun hmem => hq (Set.mem_singleton_iff.mp hmem)).trans (Function.update_of_ne hq none s.loaded).symm

structure Ordered (s : Publication V P) : Prop where
  source : s.published ≤ s.source
  loaded : ∀ party value, s.loaded party = some value → s.published ≤ value ∧ value ≤ s.source
  alone : ∀ p q v w, s.loaded p = some v → s.loaded q = some w → p = q

variable {s t : Publication V P} {op : PublicationOp V P}

open Classical in
theorem ordered_step (h : s.Ordered) (hr : Alone op s) (hs : step op s = some t) :
    t.Ordered ∧ s.published ≤ t.published := by
  cases op with
  | grow value =>
    simp only [step, Option.ite_none_right_eq_some, Option.some.injEq] at hs
    obtain ⟨hle, rfl⟩ := hs
    refine ⟨⟨h.source.trans hle, ?_, h.alone⟩, le_rfl⟩
    intro p w hw
    obtain ⟨hlow, hhigh⟩ := h.loaded p w hw
    exact ⟨hlow, hhigh.trans hle⟩
  | load p =>
    cases hs
    have hown : ∀ q w, Function.update s.loaded p (some s.source) q = some w → q = p ∧ w = s.source := by
      intro q w hw
      rcases loaded_update hw with ⟨hq, heq⟩ | hold
      · exact ⟨hq, (Option.some.inj heq).symm⟩
      · rw [hr q] at hold
        cases hold
    refine ⟨⟨h.source, ?_, ?_⟩, le_rfl⟩
    · intro q w hw
      obtain ⟨-, rfl⟩ := hown q w hw
      exact ⟨h.source, le_rfl⟩
    · intro q q' w w' hw hw'
      exact (hown q w hw).1.trans (hown q' w' hw').1.symm
  | publish p =>
    simp only [step, Option.map_eq_some_iff] at hs
    obtain ⟨value, hvalue, rfl⟩ := hs
    obtain ⟨hlow, hhigh⟩ := h.loaded p value hvalue
    have hnone : ∀ q w, Function.update s.loaded p none q ≠ some w := by
      intro q w hw
      obtain ⟨hq, hold⟩ := loaded_drop hw
      exact hq (h.alone q p w value hold hvalue)
    refine ⟨⟨hhigh, ?_, ?_⟩, hlow⟩
    · exact fun q w hw => absurd hw (hnone q w)
    · exact fun q _ w _ hw => absurd hw (hnone q w)
  | drop parties =>
    cases hs
    have hold : ∀ q w, (if q ∈ parties then none else s.loaded q) = some w → s.loaded q = some w := by
      intro q w hw
      split at hw
      · cases hw
      · exact hw
    refine ⟨⟨h.source, ?_, ?_⟩, le_rfl⟩
    · exact fun q w hw => h.loaded q w (hold q w hw)
    · exact fun q q' w w' hw hw' => h.alone q q' w w' (hold q w hw) (hold q' w' hw')
  | confirm =>
    cases hs
    refine ⟨⟨le_rfl, ?_, h.alone⟩, h.source⟩
    intro q w hw
    rw [hr q] at hw
    cases hw

theorem ordered_of_reached (h : (machine V P).ReachableUnder Alone s) : s.Ordered := by
  refine h.invariant (P := Ordered) ?_ fun _ _ _ _ hs hr hstep => (ordered_step hs hr hstep).1
  intro s hi
  refine ⟨hi.1, ?_, ?_⟩
  · intro p v hv
    rw [hi.2 p] at hv
    cases hv
  · intro p q v w hv
    rw [hi.2 p] at hv
    cases hv

/-- **What is published only grows.** -/
theorem published_grows (h : s.Ordered) (hs : (machine V P).StepsUnder Alone s t) :
    t.Ordered ∧ s.published ≤ t.published := by
  induction hs with
  | refl => exact ⟨h, le_rfl⟩
  | tail _ hr hstep ih =>
    obtain ⟨hordered, hle⟩ := ordered_step ih.1 hr hstep
    exact ⟨hordered, ih.2.trans hle⟩

end Publication

end WsNet.Transition
