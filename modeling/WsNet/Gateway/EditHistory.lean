import WsNet.Gateway.EditConfig

/-! What the calls of `add_user` make of the configuration file.

The file is a register that the calls edit under a lock (`registerOf`), so its history
says what each call overwrote. A call reports a token exactly when its edit is in that
history, and a temporary file outlives its call only where the call could not remove it. -/
namespace WsNet.Gateway
open Transition

/-- The users that a call has saved, with their tokens. -/
def savedBy (k : Nat) (history : List ConfigChange) : List (String × String) :=
  history.filterMap fun change =>
    match change with
    | .foreign _ _ => none
    | .commit call edit => if call = k then some (edit.name, edit.token) else none

theorem savedBy_commit (k : Nat) (edit : Edit) (history : List ConfigChange) :
    savedBy k (.commit k edit :: history) = (edit.name, edit.token) :: savedBy k history := by
  simp [savedBy]

/-- What belongs to a phase: the call's temporary file, and the users it has saved. -/
def EditPhase.Belongs : EditPhase → Option Bytes → List (String × String) → Prop
  | .replacing _ .create, temporary, saved => temporary = none ∧ saved = []
  | .replacing _ .write, temporary, saved => temporary = some [] ∧ saved = []
  | .replacing edit .syncDirectory, temporary, saved => temporary = none ∧ saved = [(edit.name, edit.token)]
  | .replacing edit _, temporary, saved => temporary = some edit.updated ∧ saved = []
  | .cleaning name (.ok token), temporary, saved => temporary = none ∧ saved = [(name, token)]
  | .cleaning _ (.error _), _, saved => saved = []
  | .returned name (.ok token), temporary, saved => temporary = none ∧ saved = [(name, token)]
  | .returned _ (.error _), _, saved => saved = []
  | .crashed, _, saved => saved.length ≤ 1
  | _, temporary, saved => temporary = none ∧ saved = []

namespace EditPhase
variable {phase : EditPhase} {temporary : Option Bytes} {saved : List (String × String)}

theorem belongs_preparing (h : phase.preparing = true) :
    phase.Belongs temporary saved ↔ temporary = none ∧ saved = [] := by
  cases phase with
  | replacing | cleaning | returned | crashed => cases h
  | _ => exact Iff.rfl

/-- A call saves one user at most. -/
theorem Belongs.length (h : phase.Belongs temporary saved) : saved.length ≤ 1 := by
  unfold Belongs at h
  split at h <;> grind

end EditPhase

/-- The name has been checked, and the edit, if there is one, worked out from what was read. -/
def EditPhase.Valid [NetLiterals] [Toml] : EditPhase → Prop
  | .named name | .opened name | .locked name | .read name _ | .loaded name _ _ =>
    validateUsername name = .ok ()
  | .drafted edit | .replacing edit _ => edit.Valid
  | _ => True

namespace EditState

@[simp] theorem goto_calls (k : Nat) (phase : EditPhase) (s : EditState) :
    (s.goto k phase).calls k = phase :=
  Function.update_self ..

@[simp] theorem finish_calls (k : Nat) (name : String) (result : Except Error String) (s : EditState) :
    (s.finish k name result).calls k = .returned name result :=
  Function.update_self ..

@[simp] theorem unlock_calls (k : Nat) (s : EditState) : (s.unlock k).calls = s.calls := rfl

@[simp] theorem setTemporary_calls (k : Nat) (content : Option Bytes) (s : EditState) :
    (s.setTemporary k content).calls = s.calls := rfl

@[simp] theorem setTemporary_temporaries (k : Nat) (content : Option Bytes) (s : EditState) :
    (s.setTemporary k content).temporaries k = content :=
  Function.update_self ..

theorem unlock_holder (k j : Nat) (s : EditState) :
    (s.unlock k).holder = some j ↔ s.holder = some j ∧ j ≠ k := by
  simp [unlock, Option.filter_eq_some_iff]

section Moves
variable [NetLiterals] [Toml] {k : Nat} {s t : EditState}

/-- A call leaves the others alone. -/
theorem Move.frame (h : Move k s t) {j : Nat} (hj : j ≠ k) :
    t.calls j = s.calls j ∧ t.temporaries j = s.temporaries j ∧
      (t.holder = some j ↔ s.holder = some j) ∧ savedBy j t.history = savedBy j s.history := by
  have hcalls : ∀ (phase : EditPhase) (u : EditState), (u.goto k phase).calls j = u.calls j :=
    fun _ _ => Function.update_of_ne hj _ _
  have htemporary : ∀ (content : Option Bytes) (u : EditState),
      (u.setTemporary k content).temporaries j = u.temporaries j :=
    fun _ _ => Function.update_of_ne hj _ _
  have hunlock : ∀ u : EditState, (u.unlock k).holder = some j ↔ u.holder = some j :=
    fun u => (unlock_holder k j u).trans (and_iff_left hj)
  cases h with
  | locked from_ free =>
    refine ⟨hcalls _ _, rfl, ?_, rfl⟩
    show some k = some j ↔ s.holder = some j
    rw [free]
    simp [Ne.symm hj]
  | gaveUp from_ | left from_ => exact ⟨hcalls _ _, rfl, hunlock _, rfl⟩
  | removed from_ => exact ⟨hcalls _ _, htemporary _ _, hunlock _, rfl⟩
  | crashed running => exact ⟨hcalls _ _, rfl, hunlock _, rfl⟩
  | created from_ | written from_ | cutShort from_ => exact ⟨hcalls _ _, htemporary _ _, Iff.rfl, rfl⟩
  | renamed from_ temporary =>
    refine ⟨hcalls _ _, htemporary _ _, Iff.rfl, ?_⟩
    exact List.filterMap_cons_none (if_neg (Ne.symm hj))
  | _ => exact ⟨hcalls _ _, rfl, Iff.rfl, rfl⟩

/-- The lock goes with the phase. -/
theorem Move.lock (h : Move k s t) (hs : s.holder = some k ↔ (s.calls k).critical = true) :
    t.holder = some k ↔ (t.calls k).critical = true := by
  have hunlock : ∀ u : EditState, ¬ (u.unlock k).holder = some k :=
    fun u => (unlock_holder k k u).not.mpr fun hk => hk.2 rfl
  cases h with
  | locked from_ free => simp [EditPhase.critical, goto]
  | gaveUp from_ | left from_ | removed from_ =>
    rw [finish_calls]
    exact iff_of_false (hunlock _) Bool.false_ne_true
  | crashed running =>
    rw [unlock_calls, goto_calls]
    exact iff_of_false (hunlock _) Bool.false_ne_true
  | _ from_ =>
    rw [from_] at hs
    rw [goto_calls]
    exact hs

/-- What belongs to the phase stays with it. -/
theorem Move.belongs (h : Move k s t)
    (hs : (s.calls k).Belongs (s.temporaries k) (savedBy k s.history)) :
    (t.calls k).Belongs (t.temporaries k) (savedBy k t.history) := by
  cases h with
  | gaveUp from_ =>
    rw [finish_calls]
    exact ((EditPhase.belongs_preparing from_).mp hs).2
  | crashed running =>
    rw [unlock_calls, goto_calls]
    exact hs.length
  | @left name result from_ =>
    rw [from_] at hs
    rw [finish_calls]
    cases result <;> exact hs
  | @removed name result from_ =>
    rw [from_] at hs
    rw [finish_calls]
    cases result with
    | error error => exact hs
    | ok token => exact ⟨setTemporary_temporaries .., hs.2⟩
  | renamed from_ temporary =>
    rw [from_] at hs
    have hsaved : savedBy k s.history = [] := hs.2
    rw [goto_calls]
    refine ⟨setTemporary_temporaries .., ?_⟩
    show savedBy k (.commit k _ :: s.history) = _
    rw [savedBy_commit, hsaved]
  | followed from_ follows =>
    rw [from_] at hs
    rw [goto_calls]
    cases follows <;> exact hs
  | @failed edit op error from_ uncommitted =>
    rw [from_] at hs
    rw [goto_calls]
    cases op with
    | syncDirectory => exact absurd rfl uncommitted
    | _ => exact hs.2
  | created from_ | written from_ =>
    rw [from_] at hs
    rw [goto_calls]
    exact ⟨setTemporary_temporaries .., hs.2⟩
  | cutShort from_ =>
    rw [from_] at hs
    rw [goto_calls]
    exact hs.2
  | _ from_ =>
    rw [from_] at hs
    rw [goto_calls]
    exact hs

/-- A valid call goes on to a valid phase. -/
theorem Move.valid (h : Move k s t) (hs : (s.calls k).Valid) : (t.calls k).Valid := by
  cases h with
  | named from_ valid =>
    rw [goto_calls]
    exact valid
  | drafted from_ absent fresh token_valid updates =>
    rw [from_] at hs
    rw [goto_calls]
    exact ⟨hs, token_valid, updates⟩
  | gaveUp | left | removed =>
    rw [finish_calls]
    trivial
  | crashed =>
    rw [unlock_calls, goto_calls]
    trivial
  | saved | failed | cutShort =>
    rw [goto_calls]
    trivial
  | _ from_ =>
    rw [from_] at hs
    rw [goto_calls]
    exact hs

/-- A rename puts a valid edit into the history, with the content worked out for it. -/
theorem Move.history (h : Move k s t) (hs : (s.calls k).Valid)
    (hb : (s.calls k).Belongs (s.temporaries k) (savedBy k s.history)) :
    t.history = s.history ∧ t.file = s.file ∨
      ∃ edit, edit.Valid ∧ s.calls k = .replacing edit .rename ∧
        t.history = .commit k edit :: s.history ∧ t.file = edit.updated := by
  cases h with
  | @renamed edit content from_ temporary =>
    rw [from_] at hs hb
    have hcontent : some content = some edit.updated := temporary.symm.trans hb.1
    cases hcontent
    exact .inr ⟨edit, hs, from_, rfl, rfl⟩
  | _ => exact .inl ⟨rfl, rfl⟩

end Moves

/-! ### The invariant -/

section Invariant
variable [NetLiterals] [Toml]

structure Edited (s : EditState) : Prop where
  /-- The lock is held by the one call that is past taking it and has not returned. -/
  lock : ∀ k, s.holder = some k ↔ (s.calls k).critical = true
  belongs : ∀ k, (s.calls k).Belongs (s.temporaries k) (savedBy k s.history)
  valid : ∀ k, (s.calls k).Valid
  commits : ∀ k edit, .commit k edit ∈ s.history → edit.Valid

theorem edited_act {k : Nat} {op : CallOp} {s t : EditState} (h : s.Edited) (hs : s.act k op = some t) :
    t.Edited := by
  have move := move_act hs
  refine ⟨?_, ?_, ?_, ?_⟩
  · intro j
    by_cases hj : j = k
    · subst hj
      exact move.lock (h.lock j)
    · obtain ⟨hcalls, -, hlock, -⟩ := move.frame hj
      rw [hlock, hcalls]
      exact h.lock j
  · intro j
    by_cases hj : j = k
    · subst hj
      exact move.belongs (h.belongs j)
    · obtain ⟨hcalls, htemporary, -, hsaved⟩ := move.frame hj
      rw [hcalls, htemporary, hsaved]
      exact h.belongs j
  · intro j
    by_cases hj : j = k
    · subst hj
      exact move.valid (h.valid j)
    · rw [(move.frame hj).1]
      exact h.valid j
  · intro j edit hmem
    rcases move.history (h.valid k) (h.belongs k) with ⟨hhistory, -⟩ | ⟨new, hnew, -, hhistory, -⟩
    · rw [hhistory] at hmem
      exact h.commits j edit hmem
    · rw [hhistory] at hmem
      rcases List.mem_cons.mp hmem with heq | hmem
      · cases heq
        exact hnew
      · exact h.commits j edit hmem

theorem edited_foreign {content : Bytes} {s : EditState} (h : s.Edited) : (s.foreign content).Edited where
  lock := h.lock
  belongs := h.belongs
  valid := h.valid
  commits := by
    intro k edit hmem
    rcases List.mem_cons.mp hmem with heq | hmem
    · cases heq
    · exact h.commits k edit hmem

theorem edited_initial {s : EditState} (h : editing.Initial s) : s.Edited := by
  obtain ⟨-, hholder, hcalls, htemporaries, hhistory⟩ := h
  refine ⟨?_, ?_, ?_, ?_⟩
  · intro k
    rw [hholder, hcalls]
    simp [EditPhase.critical]
  · intro k
    rw [hcalls, htemporaries, hhistory]
    exact ⟨rfl, rfl⟩
  · intro k
    rw [hcalls]
    trivial
  · intro k edit hmem
    rw [hhistory] at hmem
    cases hmem

theorem edited_step {op : EditOp} {s t : EditState} (h : s.Edited) (hs : editing.step op s = some t) :
    t.Edited := by
  cases op with
  | foreign content =>
    cases hs
    exact edited_foreign h
  | act k op => exact edited_act h hs

theorem edited_of_reached {Rule : EditOp → EditState → Prop} {s : EditState}
    (h : editing.ReachableUnder Rule s) : s.Edited :=
  h.invariant (P := Edited) (fun _ hi => edited_initial hi) fun _ _ _ _ hs _ hstep => edited_step hs hstep

end Invariant

/-! ### The file is a register -/

end EditState

def ConfigChange.change : ConfigChange → Change Bytes Nat
  | .foreign content gap => .foreign content gap
  | .commit k edit => .edit k edit.original edit.updated

/-- How far the holder of the lock has come with the register. -/
def EditPhase.holding (k : Nat) : EditPhase → Holding Bytes Nat
  | .locked _ | .replacing _ .syncDirectory | .cleaning _ _ => .taken k
  | .read _ original | .loaded _ original _ => .read k original
  | .replacing edit .rename => .compared k edit.original
  | .drafted edit | .replacing edit _ => .read k edit.original
  | .idle | .named _ | .opened _ | .returned _ _ | .crashed => .free

theorem EditPhase.gap_holding (k : Nat) (phase : EditPhase) :
    (phase.holding k).gap = if phase.inGap then some k else none := by
  cases phase with
  | replacing edit next => cases next <;> rfl
  | _ => rfl

namespace EditState

def holding (s : EditState) : Holding Bytes Nat :=
  match s.holder with
  | none => .free
  | some k => (s.calls k).holding k

def registerOf (s : EditState) : Register Bytes Nat where
  start := s.start
  value := s.file
  lock := s.holding
  history := s.history.map ConfigChange.change

theorem holding_of_holder {k : Nat} {s : EditState} (h : s.holder = some k) :
    s.holding = (s.calls k).holding k := by
  unfold holding
  rw [h]

theorem gap_eq (s : EditState) : s.gap = s.holding.gap := by
  unfold gap holding
  cases s.holder with
  | none => rfl
  | some k =>
    dsimp only
    rw [Option.filter_some, EditPhase.gap_holding]

theorem registerOf_foreign (content : Bytes) (s : EditState) :
    Register.step (.foreign content) s.registerOf = some (s.foreign content).registerOf := by
  show some _ = some _
  congr 1
  simp only [registerOf, foreign, List.map_cons, ConfigChange.change, gap_eq]
  rfl

/-- The holder goes on. -/
theorem registerOf_goto {k : Nat} {s : EditState} (h : s.holder = some k) (phase : EditPhase) :
    (s.goto k phase).registerOf = { s.registerOf with lock := phase.holding k } := by
  have hlock : (s.goto k phase).holding = phase.holding k := by
    rw [holding_of_holder (s := s.goto k phase) h, goto_calls]
  simp only [registerOf, hlock]
  rfl

/-- A call that does not hold the lock goes on. -/
theorem registerOf_goto_other {k : Nat} {s : EditState} (h : s.holder ≠ some k) (phase : EditPhase) :
    (s.goto k phase).registerOf = s.registerOf := by
  have hlock : (s.goto k phase).holding = s.holding := by
    unfold holding goto
    cases hholder : s.holder with
    | none => rfl
    | some j =>
      have hj : j ≠ k := by
        rintro rfl
        exact h hholder
      dsimp only
      rw [Function.update_of_ne hj]
  simp only [registerOf, hlock]
  rfl

theorem registerOf_unlock {k : Nat} {s : EditState} (h : s.holder = some k) :
    (s.unlock k).registerOf = { s.registerOf with lock := .free } := by
  have hlock : (s.unlock k).holding = .free := by
    simp only [holding, unlock, h, Option.filter_some, ne_eq, not_true_eq_false, decide_false,
      Bool.false_eq_true, if_false]
  simp only [registerOf, hlock]
  rfl

theorem unlock_other {k : Nat} {s : EditState} (h : s.holder ≠ some k) : s.unlock k = s := by
  have hholder : s.holder.filter (· ≠ k) = s.holder := by
    cases hj : s.holder with
    | none => rfl
    | some j =>
      rw [hj] at h
      have hjk : j ≠ k := fun hjk => h (congrArg some hjk)
      simp only [Option.filter_some, hjk, ne_eq, not_false_eq_true, decide_true, if_true]
  simp only [unlock, hholder]

theorem registerOf_goto_same {k : Nat} {s : EditState} (h : s.holder = some k) {phase : EditPhase}
    (hlock : s.holding = phase.holding k) : (s.goto k phase).registerOf = s.registerOf := by
  rw [registerOf_goto h, ← hlock]
  rfl

/-- A call that returns or crashes releases the register at most. -/
theorem registerOf_leave (k : Nat) (phase : EditPhase) (s : EditState) :
    (Register.machine Bytes Nat).StepsUnder Register.Undisturbed s.registerOf
      ((s.goto k phase).unlock k).registerOf := by
  by_cases hk : s.holder = some k
  · rw [registerOf_unlock (s := s.goto k phase) hk, registerOf_goto hk]
    exact Register.released _
  · rw [unlock_other (s := s.goto k phase) hk, registerOf_goto_other hk]
    exact .refl _

section Refinement
variable [NetLiterals] [Toml] {k : Nat} {s t : EditState}

/-- **The calls refine the register**: each of their steps is steps of its editors. -/
theorem Move.matched (h : Move k s t) (hs : s.Edited) :
    (Register.machine Bytes Nat).StepsUnder Register.Undisturbed s.registerOf t.registerOf := by
  have hother : (s.calls k).critical = false → s.holder ≠ some k := by
    intro hc hk
    rw [(hs.lock k).mp hk] at hc
    cases hc
  have hheld : ∀ phase, s.calls k = phase → phase.critical = true → s.holder = some k := by
    intro phase hphase hc
    exact (hs.lock k).mpr (by rw [hphase]; exact hc)
  have hlock : ∀ phase, s.calls k = phase → phase.critical = true → s.holding = phase.holding k := by
    intro phase hphase hc
    rw [holding_of_holder (hheld phase hphase hc), hphase]
  cases h with
  | named from_ | opened from_ =>
    rw [registerOf_goto_other (hother (by rw [from_]; rfl))]
    exact .refl _
  | locked from_ free =>
    rw [registerOf_goto (s := { s with holder := some k }) rfl]
    refine .single (i := .take k) trivial ?_
    simp only [Register.machine, Register.step, registerOf, holding, free]
    rfl
  | read from_ =>
    rw [registerOf_goto (hheld _ from_ rfl)]
    refine .single (i := .read) trivial ?_
    simp only [Register.machine, Register.step, registerOf, hlock _ from_ rfl, EditPhase.holding]
  | compared from_ unchanged =>
    rw [registerOf_goto (hheld _ from_ rfl)]
    refine .single (i := .compare) trivial ?_
    simp only [Register.machine, Register.step, registerOf, hlock _ from_ rfl, EditPhase.holding, unchanged,
      if_true]
  | @renamed edit content from_ temporary =>
    rw [registerOf_goto (s := EditState.setTemporary k none { s with
      file := content, history := .commit k { edit with updated := content } :: s.history })
      (hheld _ from_ rfl)]
    refine .single (i := .replace content) trivial ?_
    simp only [Register.machine, Register.step, registerOf, hlock _ from_ rfl, EditPhase.holding]
    rfl
  | failed from_ uncommitted =>
    rw [registerOf_goto (hheld _ from_ rfl)]
    exact Register.restarted _ k
  | cutShort from_ =>
    rw [registerOf_goto (s := s.setTemporary k _) (hheld _ from_ rfl)]
    exact Register.restarted _ k
  | created from_ | written from_ =>
    have hsame := hlock _ from_ rfl
    rw [registerOf_goto_same (s := s.setTemporary k _) (hheld _ from_ rfl)]
    · exact .refl _
    · exact hsame
  | followed from_ follows =>
    have hsame := hlock _ from_ rfl
    rw [registerOf_goto_same (hheld _ from_ rfl)]
    · exact .refl _
    · cases follows <;> exact hsame
  | gaveUp from_ | left from_ | crashed running => exact registerOf_leave k _ _
  | removed from_ => exact registerOf_leave k _ (s.setTemporary k none)
  | _ from_ =>
    have hsame := hlock _ from_ rfl
    rw [registerOf_goto_same (hheld _ from_ rfl)]
    · exact .refl _
    · exact hsame

/-- Foreign writes do not fall between a call's comparison and its rename. -/
def Undisturbed : EditOp → EditState → Prop
  | .foreign _, s => s.gap = none
  | .act _ _, _ => True

theorem registerOf_initial (h : editing.Initial s) : (Register.machine Bytes Nat).Initial s.registerOf := by
  obtain ⟨hfile, hholder, -, -, hhistory⟩ := h
  refine ⟨hfile, ?_, ?_⟩
  · simp only [registerOf, holding, hholder]
  · simp only [registerOf, hhistory, List.map_nil]

/-- **The refinement**: a run of the calls is a run of the register, under any rule that
asks of foreign writes alone. -/
theorem register_of_reached {Rule : EditOp → EditState → Prop}
    {Rule' : RegisterOp Bytes Nat → Register Bytes Nat → Prop}
    (others : ∀ op r, Register.Undisturbed op r → Rule' op r)
    (foreign : ∀ content s, Rule (.foreign content) s → Rule' (.foreign content) s.registerOf)
    (h : editing.ReachableUnder Rule s) : (Register.machine Bytes Nat).ReachableUnder Rule' s.registerOf := by
  refine h.simulation registerOf (fun s hi => registerOf_initial hi) ?_
  intro op s t hs hr hstep
  cases op with
  | foreign content =>
    cases hstep
    exact .single (i := .foreign content) (foreign content s hr) (registerOf_foreign content s)
  | act k op => exact ((move_act hstep).matched (edited_of_reached hs)).mono others

end Refinement

/-! ### What a call overwrites -/

/-- The content of the file after a history. -/
def fileAfter (start : Bytes) : List ConfigChange → Bytes
  | [] => start
  | .foreign content _ :: _ => content
  | .commit _ edit :: _ => edit.updated

theorem latest_map_change (start : Bytes) (history : List ConfigChange) :
    Change.latest start (history.map ConfigChange.change) = fileAfter start history := by
  cases history with
  | nil => rfl
  | cons change rest => cases change <;> rfl

theorem inGap_change {k : Nat} {change : ConfigChange} :
    change.change.InGap k ↔ ∃ content, change = .foreign content (some k) := by
  constructor
  · rintro ⟨content, h⟩
    cases change with
    | foreign content' gap =>
      cases h
      exact ⟨content, rfl⟩
    | commit => cases h
  · rintro ⟨content, rfl⟩
    exact ⟨content, rfl⟩

section Overwritten
variable [NetLiterals] [Toml]

/-- **Nothing is overwritten unread, but in the gap.** In every run the file is what its
history says, each saved content has been worked out from a content the file had, read
back and validated, and between the two there were only foreign writes made after the
call's comparison. -/
theorem saved_over {s : EditState} (h : editing.Reachable s) :
    s.file = fileAfter s.start s.history ∧
      ∀ later k edit earlier, s.history = later ++ .commit k edit :: earlier →
        edit.Valid ∧ ∃ writes rest, earlier = writes ++ rest ∧
          (∀ change ∈ writes, ∃ content, change = .foreign content (some k)) ∧
            fileAfter s.start rest = edit.original := by
  have hregister : (Register.machine Bytes Nat).Reachable s.registerOf :=
    register_of_reached (fun _ _ _ => trivial) (fun _ _ _ => trivial) h
  have hrecorded := Register.recorded_of_reached hregister
  refine ⟨?_, ?_⟩
  · rw [← latest_map_change]
    exact hrecorded.value
  · intro later k edit earlier hsplit
    refine ⟨(edited_of_reached h).commits k edit ?_, ?_⟩
    · rw [hsplit]
      exact List.mem_append_right _ List.mem_cons_self
    · have hsuffix : Change.edit k edit.original edit.updated :: earlier.map ConfigChange.change <:+
          s.registerOf.history := by
        refine ⟨later.map ConfigChange.change, ?_⟩
        show _ = s.history.map ConfigChange.change
        rw [hsplit, List.map_append]
        rfl
      obtain ⟨_, _, hearlier, hgap, hlatest⟩ := hrecorded.edits k _ _ _ hsuffix
      obtain ⟨writes, rest, rfl, rfl, rfl⟩ := List.map_eq_append_iff.mp hearlier
      refine ⟨writes, rest, rfl, ?_, ?_⟩
      · intro change hc
        exact inGap_change.mp (hgap _ (List.mem_map_of_mem hc))
      · rw [← latest_map_change]
        exact hlatest

end Overwritten

end EditState

namespace OneUser
open EditState

attribute [local instance] NetLiterals.dottedQuad toml

def start : EditState :=
  ⟨bytesOf content, bytesOf content, none, fun _ => .idle, fun _ => none, []⟩

def edit : Edit := ⟨"zhang", hex seed, bytesOf content, bytesOf added⟩

theorem run_start : editing.run (toRename 0 "zhang" seed) start = some (start.beforeRename 0 edit) :=
  run_toRename (fun _ _ _ => trivial) rfl rfl rfl load_content (checkAbsent_eq_ok.mpr (by simp [config]))
    fresh_seed update_content

theorem reached_start : editing.Reachable start := .initial ⟨rfl, rfl, rfl, rfl, rfl⟩

/-- A line is added by hand after the call has compared and before it renames. -/
def disturbed : EditState :=
  { start with file := bytesOf "# by hand", history := [.foreign (bytesOf "# by hand") (some 0)] }

theorem run_disturbed :
    editing.run (toRename 0 "zhang" seed ++ .foreign (bytesOf "# by hand") :: fromRename 0) start =
      some (disturbed.afterCall 0 edit) := by
  have hforeign : editing.step (.foreign (bytesOf "# by hand")) (start.beforeRename 0 edit) =
      some (disturbed.beforeRename 0 edit) := rfl
  refine Machine.runUnder_then run_start ?_
  rw [Machine.runUnder_cons trivial hforeign]
  exact run_fromRename fun _ _ _ => trivial

/-- The line is lost, and the history tells. -/
theorem saved_over_disturbed :
    (disturbed.afterCall 0 edit).file = bytesOf added ∧
      ∃ writes rest, [.foreign (bytesOf "# by hand") (some 0)] = writes ++ rest ∧
        (∀ change ∈ writes, ∃ content, change = .foreign content (some 0)) ∧
          fileAfter (bytesOf content) rest = bytesOf content := by
  have hreached := reached_start.steps (Machine.stepsUnder_of_run _ _ _ run_disturbed)
  have hover := saved_over hreached
  exact ⟨hover.1, (hover.2 [] 0 edit _ rfl).2⟩

end OneUser

namespace EditState

/-! ### What a call reports -/

section Reports
variable [NetLiterals] [Toml]

/-- **A call reports what it has saved.** One that has returned reports a token exactly when
its edit replaced the file, and reports that one; a call that crashed saved one edit at
most. The lock is held by the one call that is past taking it, and by none that has
returned or crashed; a call that succeeds leaves no temporary file. -/
theorem reports_what_it_saved {s : EditState} (h : editing.Reachable s) (k : Nat) :
    (s.holder = some k ↔ (s.calls k).critical = true) ∧ (savedBy k s.history).length ≤ 1 ∧
      ∀ name result, s.calls k = .returned name result →
        (∀ token, result = .ok token ↔ (name, token) ∈ savedBy k s.history) ∧
          (savedBy k s.history ≠ [] → s.temporaries k = none) := by
  have hs := edited_of_reached h
  refine ⟨hs.lock k, (hs.belongs k).length, ?_⟩
  intro name result hreturned
  have hbelongs := hs.belongs k
  rw [hreturned] at hbelongs
  cases result with
  | error error =>
    have hsaved : savedBy k s.history = [] := hbelongs
    rw [hsaved]
    simp
  | ok token =>
    obtain ⟨htemporary, hsaved⟩ := hbelongs
    rw [hsaved]
    refine ⟨fun token' => ?_, fun _ => htemporary⟩
    rw [List.mem_singleton, Except.ok.injEq, Prod.mk.injEq, eq_comm]
    exact (and_iff_right rfl).symm

end Reports

end EditState

namespace OneUser
open EditState

attribute [local instance] NetLiterals.dottedQuad toml

theorem run_undisturbed :
    editing.run (toRename 0 "zhang" seed ++ fromRename 0) start = some (start.afterCall 0 edit) :=
  Machine.runUnder_then run_start (run_fromRename fun _ _ _ => trivial)

theorem reports_what_it_saved_zhang :
    ("zhang", hex seed) ∈ savedBy 0 (start.afterCall 0 edit).history := by
  have hreached := reached_start.steps (Machine.stepsUnder_of_run _ _ _ run_undisturbed)
  exact (((reports_what_it_saved hreached 0).2.2 "zhang" (.ok (hex seed)) rfl).1 (hex seed)).mp rfl

end OneUser

end WsNet.Gateway
