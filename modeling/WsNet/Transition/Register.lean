import WsNet.Transition.Machine

/-! A register that is edited under a lock which not every writer takes.

Editors exclude each other: one takes the lock, reads the register, compares it with
what it has read and replaces it. Other writers take no lock and write when they like,
also between an editor's comparison and its replacement. The history keeps every
change, so what an edit overwrites can be told from what it had read
(`Register.recorded_of_reached`): beyond its own reading, only foreign writes of that
gap. Without any, the edits form one chain (`Register.chained_of_reached`). -/
namespace WsNet.Transition

/-- One change of the register. -/
inductive Change (V E : Type*) where
  /-- By a writer without the lock, in the gap of the editor given. -/
  | foreign (value : V) (gap : Option E)
  | edit (editor : E) (expected next : V)
  deriving DecidableEq, Repr

namespace Change
variable {V E : Type*}

/-- What the register holds after the change. -/
def value : Change V E → V
  | foreign value _ => value
  | edit _ _ next => next

/-- A foreign write in the gap of an editor. -/
def InGap (e : E) (c : Change V E) : Prop := ∃ v, c = .foreign v (some e)

/-- What the register holds after a history, the latest change first. -/
def latest (start : V) : List (Change V E) → V
  | [] => start
  | change :: _ => change.value

/-- Each edit replaces what its editor had read. -/
def Chained (start : V) : List (Change V E) → Prop
  | [] => True
  | .foreign _ _ :: rest => Chained start rest
  | .edit _ expected _ :: rest => expected = latest start rest ∧ Chained start rest

/-- What came before a chain's end is a chain. -/
theorem Chained.suffix {start : V} {later earlier : List (Change V E)}
    (h : Chained start (later ++ earlier)) : Chained start earlier := by
  induction later with
  | nil => exact h
  | cons change rest ih =>
    cases change with
    | foreign => exact ih h
    | edit => exact ih h.2

/-- Where no change was made in a gap, grounded edits form a chain. -/
theorem chained_of_calm {start : V} {history : List (Change V E)}
    (hcalm : ∀ c ∈ history, ∀ e, ¬ c.InGap e)
    (hedits : ∀ e expected next earlier, .edit e expected next :: earlier <:+ history →
      ∃ writes rest, earlier = writes ++ rest ∧ (∀ c ∈ writes, c.InGap e) ∧
        latest start rest = expected) : Chained start history := by
  induction history with
  | nil => trivial
  | cons change rest ih =>
    have hrest : Chained start rest := by
      refine ih (fun c hc => hcalm c (List.mem_cons_of_mem _ hc)) ?_
      intro e expected next earlier hs
      exact hedits e expected next earlier (hs.trans (List.suffix_cons _ _))
    cases change with
    | foreign v gap => exact hrest
    | edit e expected next =>
      obtain ⟨writes, earlier, hsplit, hgap, hlatest⟩ := hedits e expected next rest (List.suffix_refl _)
      have hnil : writes = [] := by
        cases writes with
        | nil => rfl
        | cons c more =>
          have hc : c ∈ rest := by
            rw [hsplit]
            exact List.mem_cons_self
          exact absurd (hgap c List.mem_cons_self) (hcalm c (List.mem_cons_of_mem _ hc) e)
      rw [hnil, List.nil_append] at hsplit
      refine ⟨?_, hrest⟩
      rw [hsplit]
      exact hlatest.symm

end Change

/-- The lock's holder, as far as it has come. -/
inductive Holding (V E : Type*) where
  | free
  | taken (editor : E)
  | read (editor : E) (snapshot : V)
  | compared (editor : E) (snapshot : V)
  deriving DecidableEq, Repr

structure Register (V E : Type*) where
  start : V
  value : V
  lock : Holding V E
  history : List (Change V E)

namespace Holding
variable {V E : Type*}

/-- The editor between its comparison and its replacement. -/
def gap : Holding V E → Option E
  | .compared editor _ => some editor
  | _ => none

def editor : Holding V E → Option E
  | .free => none
  | .taken editor | .read editor _ | .compared editor _ => some editor

end Holding

inductive RegisterOp (V E : Type*) where
  | foreign (value : V)
  | take (editor : E)
  | read
  | compare
  | replace (next : V)
  | release

namespace Register
variable {V E : Type*}

/-- A step of the holder is enabled when it has come that far; a comparison that fails
leads nowhere but to the release. -/
def step [DecidableEq V] : RegisterOp V E → Register V E → Option (Register V E)
  | .foreign value, r => some { r with value, history := .foreign value r.lock.gap :: r.history }
  | .take editor, r =>
    match r.lock with
    | .free => some { r with lock := .taken editor }
    | _ => none
  | .read, r =>
    match r.lock with
    | .taken editor => some { r with lock := .read editor r.value }
    | _ => none
  | .compare, r =>
    match r.lock with
    | .read editor snapshot =>
      if r.value = snapshot then some { r with lock := .compared editor snapshot } else none
    | _ => none
  | .replace next, r =>
    match r.lock with
    | .compared editor snapshot =>
      some { r with
        value := next, lock := .taken editor, history := .edit editor snapshot next :: r.history }
    | _ => none
  | .release, r =>
    match r.lock with
    | .free => none
    | _ => some { r with lock := .free }

def machine (V E : Type*) [DecidableEq V] : Machine (Register V E) (RegisterOp V E) where
  Initial := fun r => r.value = r.start ∧ r.lock = .free ∧ r.history = []
  step := step

/-- What the history says of the value, of the holder's reading and of every edit. -/
structure Recorded (r : Register V E) : Prop where
  value : r.value = Change.latest r.start r.history
  /-- Since the comparison there were only foreign writes, each in the holder's gap. -/
  compared : ∀ e snapshot, r.lock = .compared e snapshot → ∃ writes earlier,
    r.history = writes ++ earlier ∧ (∀ c ∈ writes, c.InGap e) ∧
      Change.latest r.start earlier = snapshot
  edits : ∀ e expected next earlier, .edit e expected next :: earlier <:+ r.history →
    ∃ writes rest, earlier = writes ++ rest ∧ (∀ c ∈ writes, c.InGap e) ∧
      Change.latest r.start rest = expected

variable {r t : Register V E} {op : RegisterOp V E}

/-- The history changes with the value, and only then. -/
theorem recorded_lock {lock : Holding V E} (h : r.Recorded)
    (hlock : ∀ e snapshot, lock = .compared e snapshot → r.value = snapshot) :
    { r with lock := lock }.Recorded where
  value := h.value
  compared := by
    intro e snapshot hl
    refine ⟨[], r.history, rfl, ?_, ?_⟩
    · intro c hc
      cases hc
    · exact h.value.symm.trans (hlock e snapshot hl)
  edits := h.edits

theorem recorded_foreign {value : V} (h : r.Recorded) :
    { r with value, history := .foreign value r.lock.gap :: r.history }.Recorded where
  value := rfl
  compared := by
    intro e snapshot hl
    obtain ⟨writes, earlier, hsplit, hgap, hlatest⟩ := h.compared e snapshot hl
    have hown : r.lock.gap = some e := by
      rw [show r.lock = .compared e snapshot from hl]
      rfl
    refine ⟨.foreign value r.lock.gap :: writes, earlier, ?_, ?_, hlatest⟩
    · exact congrArg (List.cons _) hsplit
    · rw [hown]
      exact List.forall_mem_cons.mpr ⟨⟨value, rfl⟩, hgap⟩
  edits := by
    intro e expected next earlier hs
    rcases List.suffix_cons_iff.mp hs with heq | hs
    · cases heq
    · exact h.edits e expected next earlier hs

theorem recorded_replace {e : E} {snapshot next : V} (h : r.Recorded)
    (hl : r.lock = .compared e snapshot) :
    { r with value := next, lock := .taken e, history := .edit e snapshot next :: r.history }.Recorded where
  value := rfl
  compared := by
    intro e' snapshot' hl'
    cases hl'
  edits := by
    intro e' expected' next' earlier hs
    rcases List.suffix_cons_iff.mp hs with heq | hs
    · cases heq
      exact h.compared e snapshot hl
    · exact h.edits e' expected' next' earlier hs

section Steps
variable [DecidableEq V]

theorem recorded_step (h : r.Recorded) (hs : step op r = some t) : t.Recorded := by
  cases op with
  | foreign value =>
    cases hs
    exact recorded_foreign h
  | take editor =>
    simp only [step] at hs
    split at hs <;> cases hs
    exact recorded_lock h fun e snapshot hl => by cases hl
  | read =>
    simp only [step] at hs
    split at hs <;> cases hs
    exact recorded_lock h fun e snapshot hl => by cases hl
  | compare =>
    simp only [step] at hs
    split at hs
    · split at hs <;> cases hs
      rename_i hvalue
      refine recorded_lock h fun e snapshot hl => ?_
      cases hl
      exact hvalue
    · cases hs
  | replace next =>
    simp only [step] at hs
    split at hs <;> cases hs
    rename_i hl
    exact recorded_replace h hl
  | release =>
    simp only [step] at hs
    split at hs <;> cases hs
    exact recorded_lock h fun e snapshot hl => by cases hl

theorem recorded_initial (h : (machine V E).Initial r) : r.Recorded := by
  obtain ⟨hvalue, hlock, hhistory⟩ := h
  refine ⟨?_, ?_, ?_⟩
  · rw [hhistory]
    exact hvalue
  · intro e snapshot hl
    rw [hlock] at hl
    cases hl
  · intro e expected next earlier hs
    rw [hhistory] at hs
    cases List.suffix_nil.mp hs

/-- **Every reachable register is recorded.** Beyond its own reading, an edit overwrites
only foreign writes that were made in its gap. -/
theorem recorded_of_reached {Rule : RegisterOp V E → Register V E → Prop}
    (h : (machine V E).ReachableUnder Rule r) : r.Recorded :=
  h.invariant (P := Recorded) (fun _ hi => recorded_initial hi) fun _ _ _ _ hr _ hs => recorded_step hr hs

/-! ### Without foreign writes in a gap -/

/-- Nobody writes between the holder's comparison and its replacement. -/
def Undisturbed : RegisterOp V E → Register V E → Prop
  | .foreign _, r => r.lock.gap = none
  | _, _ => True

/-- No change was made in a gap. -/
def Calm (r : Register V E) : Prop := ∀ c ∈ r.history, ∀ e, ¬ c.InGap e

theorem calm_step (h : r.Calm) (hr : Undisturbed op r) (hs : step op r = some t) : t.Calm := by
  cases op with
  | foreign value =>
    cases hs
    refine List.forall_mem_cons.mpr ⟨?_, h⟩
    intro e hgap
    obtain ⟨v, hv⟩ := hgap
    have hnone : r.lock.gap = none := hr
    rw [hnone] at hv
    cases hv
  | replace next =>
    simp only [step] at hs
    split at hs <;> cases hs
    refine List.forall_mem_cons.mpr ⟨?_, h⟩
    intro e hgap
    obtain ⟨v, hv⟩ := hgap
    cases hv
  | take editor | read | compare | release =>
    simp only [step] at hs
    split at hs <;> grind [Calm]

/-- **Undisturbed edits form one chain.** -/
theorem chained_of_reached (h : (machine V E).ReachableUnder Undisturbed r) :
    Change.Chained r.start r.history := by
  have hcalm : r.Calm := by
    refine h.invariant (P := Calm) ?_ fun _ _ _ _ hc hr hs => calm_step hc hr hs
    intro r hi c hc
    rw [hi.2.2] at hc
    cases hc
  exact Change.chained_of_calm hcalm (recorded_of_reached h).edits

/-! ### Giving up -/

/-- Whatever is held can be released. -/
theorem released (r : Register V E) :
    (machine V E).StepsUnder Undisturbed r { r with lock := .free } := by
  cases hlock : r.lock with
  | free =>
    have hsame : { r with lock := .free } = r := by rw [← hlock]
    rw [hsame]
    exact .refl r
  | _ =>
    refine .single (i := .release) trivial ?_
    simp only [machine, step, hlock]

/-- An editor that gives up an edit may start over. -/
theorem restarted (r : Register V E) (e : E) :
    (machine V E).StepsUnder Undisturbed r { r with lock := .taken e } :=
  .tail (i := .take e) (released r) trivial rfl

end Steps

end Register

end WsNet.Transition
