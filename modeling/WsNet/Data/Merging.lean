import Mathlib.Data.List.Basic

/-! Lists whose neighbours are joined.

A list is merged by joining two neighbours into one element, any number of times: the
order stays, and nothing is lost, repeated or moved across another element. What
makes a join is a parameter. -/
namespace WsNet.Data

/-- The second list is the first with some neighbours joined. -/
inductive Merging {α : Type*} (Join : α → α → α → Prop) : List α → List α → Prop
  | nil : Merging Join [] []
  | keep (a : α) {l m : List α} (tail : Merging Join l m) : Merging Join (a :: l) (a :: m)
  | join {a b c : α} {l m : List α} (joins : Join a b c) (rest : Merging Join (c :: l) m) :
      Merging Join (a :: b :: l) m

namespace Merging
variable {α β : Type*} {Join : α → α → α → Prop}

theorem refl (l : List α) : Merging Join l l := by
  induction l with
  | nil => exact .nil
  | cons a l ih => exact .keep a ih

theorem eq_nil {l : List α} (h : Merging Join l []) : l = [] := by
  generalize hm : ([] : List α) = m at h
  induction h with
  | nil => rfl
  | keep a _ _ => cases hm
  | join _ _ ih =>
    subst hm
    exact absurd (ih rfl) (List.cons_ne_nil _ _)

theorem append {l l' m m' : List α} (h : Merging Join l m) (h' : Merging Join l' m') :
    Merging Join (l ++ l') (m ++ m') := by
  induction h with
  | nil => exact h'
  | keep a _ ih => exact .keep a ih
  | join joins _ ih => exact .join joins ih

theorem snoc {l m : List α} (h : Merging Join l m) (a : α) : Merging Join (l ++ [a]) (m ++ [a]) :=
  h.append (refl [a])

/-- A new element may be joined to the last. -/
theorem joinLast {l m : List α} {a b c : α} (h : Merging Join l (m ++ [a])) (joins : Join a b c) :
    Merging Join (l ++ [b]) (m ++ [c]) := by
  generalize hk : m ++ [a] = k at h
  induction h generalizing m with
  | nil => exact absurd hk (List.append_ne_nil_of_right_ne_nil m (List.cons_ne_nil a []))
  | keep x tail ih =>
    cases m with
    | nil =>
      obtain ⟨rfl, rfl⟩ := List.cons_eq_cons.mp hk
      rw [tail.eq_nil]
      exact .join joins (refl [c])
    | cons y m =>
      obtain ⟨rfl, htail⟩ := List.cons_eq_cons.mp hk
      exact .keep y (ih htail)
  | join joins' _ ih => exact .join joins' (ih hk)

/-- What is no join was there before. -/
theorem mem_of_mem {l m : List α} {x : α} (hx : ∀ a b, ¬ Join a b x) (h : Merging Join l m) (hm : x ∈ m) :
    x ∈ l := by
  induction h with
  | nil => exact hm
  | keep a _ ih =>
    rcases List.mem_cons.mp hm with rfl | hm
    · exact List.mem_cons_self
    · exact List.mem_cons_of_mem a (ih hm)
  | join joins _ ih =>
    rcases List.mem_cons.mp (ih hm) with rfl | hm
    · exact absurd joins (hx _ _)
    · exact List.mem_cons_of_mem _ (List.mem_cons_of_mem _ hm)

/-- What holds of the elements and passes to a join holds of the merged elements. -/
theorem forall_mem {P : α → Prop} (hP : ∀ a b c, Join a b c → P a → P b → P c) {l m : List α}
    (h : Merging Join l m) (hl : ∀ x ∈ l, P x) : ∀ x ∈ m, P x := by
  induction h with
  | nil => exact hl
  | keep a _ ih =>
    obtain ⟨ha, hl⟩ := List.forall_mem_cons.mp hl
    exact List.forall_mem_cons.mpr ⟨ha, ih hl⟩
  | join joins _ ih =>
    obtain ⟨ha, hl⟩ := List.forall_mem_cons.mp hl
    obtain ⟨hb, hl⟩ := List.forall_mem_cons.mp hl
    exact ih (List.forall_mem_cons.mpr ⟨hP _ _ _ joins ha hb, hl⟩)

/-- What is read off the elements one after the other, when a join reads as its two
parts do, is the same on both sides. -/
theorem flatMap_eq {f : α → List β} (hf : ∀ a b c, Join a b c → f c = f a ++ f b) {l m : List α}
    (h : Merging Join l m) : l.flatMap f = m.flatMap f := by
  induction h with
  | nil => rfl
  | keep a _ ih => rw [List.flatMap_cons, List.flatMap_cons, ih]
  | join joins _ ih =>
    rw [List.flatMap_cons, hf _ _ _ joins] at ih
    rw [List.flatMap_cons, List.flatMap_cons, ← ih, List.append_assoc]

end Merging

end WsNet.Data
