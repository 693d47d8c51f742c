import WsNet.Transition.Machine

/-! Watching the access's configuration file.

The process loads the file and starts; then a task polls the modification time and loads
again when it has changed. The file is written by others, at any time, under a new
modification time each time. At a reload the time is read first and the content after
it, so a write in between is seen twice. At the start it is the other way around: the
content is read first, and the time when the watcher starts. A write in between is then
never loaded. -/
namespace WsNet.Access
open Transition

inductive WatchPhase where
  | starting
  | loaded
  | bound
  | connected
  /-- The watcher waits for its next tick. -/
  | waiting
  /-- A change was seen, and the debounce has not passed. -/
  | debouncing
  /-- The file is read, and the reload not through. -/
  | applying
  | exited
  deriving DecidableEq, Repr

/-- Before the watcher has started. -/
def WatchPhase.early : WatchPhase → Bool
  | .starting | .loaded | .bound | .connected | .exited => true
  | .waiting | .debouncing | .applying => false

/-- The file, the process, and what has been written when. -/
structure WatchState (C T : Type) where
  content : C
  modified : T
  /-- All modification times so far. -/
  stamps : List T
  phase : WatchPhase := .starting
  /-- What was last loaded, or tried to be. -/
  loaded : Option C := none
  lastModified : Option T := none
  /-- Whether the file was written after the load of the start. -/
  writtenSinceLoad : Bool := false
  /-- Whether the file was written after the latest tick read its time, if that tick did. -/
  writtenSinceTick : Option Bool := none

inductive WatchOp (C T : Type) where
  | write (content : C) (modified : T)
  /-- The load of the start, and what follows it. Where one fails the process exits. -/
  | load (ok : Bool)
  | bind (ok : Bool)
  | connect (ok : Bool)
  /-- The watcher starts, and reads the modification time if it can. -/
  | watch (readable : Bool)
  | tick (readable : Bool)
  /-- `reload_access_config` reads the file, whatever it makes of it. -/
  | reload
  | reloaded

namespace WatchState
variable {C T : Type}

def write [DecidableEq T] (content : C) (modified : T) (s : WatchState C T) : Option (WatchState C T) :=
  if modified ∈ s.stamps then none
  else some { s with
    content, modified, stamps := modified :: s.stamps, writtenSinceLoad := true
    writtenSinceTick := s.writtenSinceTick.map fun _ => true }

def load (ok : Bool) (s : WatchState C T) : Option (WatchState C T) :=
  if s.phase = .starting then
    some { s with
      loaded := some s.content, writtenSinceLoad := false, phase := if ok then .loaded else .exited }
  else none

/-- From one phase of the start to the next. -/
def advance (before after : WatchPhase) (ok : Bool) (s : WatchState C T) : Option (WatchState C T) :=
  if s.phase = before then some { s with phase := if ok then after else .exited } else none

def watch (readable : Bool) (s : WatchState C T) : Option (WatchState C T) :=
  if s.phase = .connected then
    some { s with lastModified := if readable then some s.modified else none, phase := .waiting }
  else none

def tick [DecidableEq T] (readable : Bool) (s : WatchState C T) : Option (WatchState C T) :=
  if s.phase = .waiting then
    if readable then
      if s.lastModified = some s.modified then some { s with writtenSinceTick := some false }
      else some { s with
        lastModified := some s.modified, writtenSinceTick := some false, phase := .debouncing }
    else some { s with writtenSinceTick := none }
  else none

def reload (s : WatchState C T) : Option (WatchState C T) :=
  if s.phase = .debouncing then some { s with loaded := some s.content, phase := .applying } else none

def reloaded (s : WatchState C T) : Option (WatchState C T) :=
  if s.phase = .applying then some { s with phase := .waiting } else none

end WatchState

section Watching
variable {C T : Type}

def watching (C T : Type) [DecidableEq T] : Machine (WatchState C T) (WatchOp C T) where
  Initial := fun s => ∃ content modified, s = { content, modified, stamps := [modified] }
  step
    | .write content modified, s => s.write content modified
    | .load ok, s => s.load ok
    | .bind ok, s => s.advance .loaded .bound ok
    | .connect ok, s => s.advance .bound .connected ok
    | .watch readable, s => s.watch readable
    | .tick readable, s => s.tick readable
    | .reload, s => s.reload
    | .reloaded, s => s.reloaded

/-- What is asked of a watcher between two ticks: if the file was not written since the
latest tick read its time, what was last loaded is what it holds. -/
def UpToDate (s : WatchState C T) : Prop :=
  s.phase = .waiting → s.writtenSinceTick = some false → s.loaded = some s.content

/-- The condition: where the watcher reads the modification time as it starts, the file
was not written since the load of the start. -/
def Careful : WatchOp C T → WatchState C T → Prop
  | .watch true, s => s.writtenSinceLoad = false
  | _, _ => True

instance (op : WatchOp C T) (s : WatchState C T) : Decidable (Careful op s) := by
  unfold Careful
  split <;> infer_instance

/-! ### The invariant -/

/-- What a careful run keeps. The time that the watcher remembers is of a content that was
loaded after it, or is about to be. -/
structure Watched (s : WatchState C T) : Prop where
  modified : s.modified ∈ s.stamps
  lastModified : ∀ m ∈ s.lastModified, m ∈ s.stamps
  early : s.phase.early = true → s.writtenSinceTick = none
  started : s.phase.early = true → s.phase ≠ .starting → s.writtenSinceLoad = false →
    s.loaded = some s.content
  current : s.phase = .waiting ∨ s.phase = .applying → s.lastModified = some s.modified →
    s.loaded = some s.content
  ticked : s.writtenSinceTick = some false → s.lastModified = some s.modified

theorem Watched.upToDate {s : WatchState C T} (h : Watched s) : UpToDate s :=
  fun hphase htick => h.current (.inl hphase) (h.ticked htick)

/-- A write is under a time that the watcher does not remember. -/
theorem watched_write [DecidableEq T] {s s' : WatchState C T} {content : C} {modified : T} (h : Watched s)
    (hs : s.write content modified = some s') : Watched s' := by
  obtain ⟨hnew, hs⟩ := Option.ite_none_left_eq_some.mp hs
  cases hs
  have hforgotten : s.lastModified ≠ some modified := fun hlast => hnew (h.lastModified modified hlast)
  refine ⟨List.mem_cons_self, fun m hm => List.mem_cons_of_mem _ (h.lastModified m hm), ?_, ?_, ?_, ?_⟩
  · intro hearly
    rw [h.early hearly]
    rfl
  · intro _ _ hwritten
    cases hwritten
  · exact fun _ hlast => absurd hlast hforgotten
  · intro hticked
    obtain ⟨_, _, hfalse⟩ := Option.map_eq_some_iff.mp hticked
    cases hfalse

theorem watched_load {s s' : WatchState C T} {ok : Bool} (h : Watched s) (hs : s.load ok = some s') :
    Watched s' := by
  obtain ⟨hphase, hs⟩ := Option.ite_none_right_eq_some.mp hs
  cases hs
  have hnone := h.early (by rw [hphase]; rfl)
  refine ⟨h.modified, h.lastModified, fun _ => hnone, fun _ _ _ => rfl, fun _ _ => rfl, h.ticked⟩

theorem watched_advance {s s' : WatchState C T} {before after : WatchPhase} {ok : Bool} (h : Watched s)
    (hbefore : before.early = true) (hstarted : before ≠ .starting) (hafter : after.early = true)
    (hs : s.advance before after ok = some s') : Watched s' := by
  obtain ⟨hphase, hs⟩ := Option.ite_none_right_eq_some.mp hs
  cases hs
  have hearly : s.phase.early = true := by rw [hphase]; exact hbefore
  have hnew : (if ok then after else WatchPhase.exited).early = true := by
    cases ok
    · rfl
    · exact hafter
  refine ⟨h.modified, h.lastModified, fun _ => h.early hearly, ?_, ?_, h.ticked⟩
  · exact fun _ _ => h.started hearly (by rw [hphase]; exact hstarted)
  · rintro (hwaiting | hwaiting) _
    · dsimp only at hwaiting
      rw [hwaiting] at hnew
      cases hnew
    · dsimp only at hwaiting
      rw [hwaiting] at hnew
      cases hnew

/-- The watcher remembers the time of what was loaded, or none. -/
theorem watched_watch {s s' : WatchState C T} {readable : Bool} (h : Watched s)
    (hcareful : Careful (.watch readable) s) (hs : s.watch readable = some s') : Watched s' := by
  obtain ⟨hphase, hs⟩ := Option.ite_none_right_eq_some.mp hs
  cases hs
  have hnone := h.early (by rw [hphase]; rfl)
  have hlast : ∀ m ∈ (if readable then some s.modified else none), m ∈ s.stamps := by
    intro m hm
    cases readable
    · cases hm
    · cases hm
      exact h.modified
  refine ⟨h.modified, hlast, fun hearly => (by cases hearly), fun hearly => (by cases hearly), ?_, ?_⟩
  · intro _ hremembered
    cases readable
    · cases hremembered
    · exact h.started (by rw [hphase]; rfl) (by rw [hphase]; decide) hcareful
  · intro hticked
    rw [hnone] at hticked
    cases hticked

theorem watched_tick [DecidableEq T] {s s' : WatchState C T} {readable : Bool} (h : Watched s)
    (hs : s.tick readable = some s') : Watched s' := by
  obtain ⟨hphase, hs⟩ := Option.ite_none_right_eq_some.mp hs
  cases readable with
  | false =>
    cases hs
    refine ⟨h.modified, h.lastModified, fun _ => rfl, ?_, h.current, fun hticked => (by cases hticked)⟩
    intro hearly
    dsimp only at hearly
    rw [hphase] at hearly
    cases hearly
  | true =>
    rw [if_pos rfl] at hs
    split at hs
    · rename_i hsame
      cases hs
      refine ⟨h.modified, h.lastModified, ?_, ?_, h.current, fun _ => hsame⟩
      · intro hearly
        dsimp only at hearly
        rw [hphase] at hearly
        cases hearly
      · intro hearly
        dsimp only at hearly
        rw [hphase] at hearly
        cases hearly
    · cases hs
      refine ⟨h.modified, ?_, fun hearly => (by cases hearly), fun hearly => (by cases hearly), ?_,
        fun _ => rfl⟩
      · intro m hm
        cases hm
        exact h.modified
      · rintro (hwaiting | hwaiting) _ <;> cases hwaiting

theorem watched_reload {s s' : WatchState C T} (h : Watched s) (hs : s.reload = some s') : Watched s' := by
  obtain ⟨hphase, hs⟩ := Option.ite_none_right_eq_some.mp hs
  cases hs
  exact ⟨h.modified, h.lastModified, fun hearly => (by cases hearly), fun hearly => (by cases hearly),
    fun _ _ => rfl, h.ticked⟩

theorem watched_reloaded {s s' : WatchState C T} (h : Watched s) (hs : s.reloaded = some s') :
    Watched s' := by
  obtain ⟨hphase, hs⟩ := Option.ite_none_right_eq_some.mp hs
  cases hs
  exact ⟨h.modified, h.lastModified, fun hearly => (by cases hearly), fun hearly => (by cases hearly),
    fun _ => h.current (.inr hphase), h.ticked⟩

variable [DecidableEq T]

theorem watched_step {op : WatchOp C T} {s s' : WatchState C T} (h : Watched s) (hcareful : Careful op s)
    (hs : (watching C T).step op s = some s') : Watched s' := by
  cases op with
  | write content modified => exact watched_write h hs
  | load ok => exact watched_load h hs
  | bind ok => exact watched_advance h rfl (by decide) rfl hs
  | connect ok => exact watched_advance h rfl (by decide) rfl hs
  | watch readable => exact watched_watch h hcareful hs
  | tick readable => exact watched_tick h hs
  | reload => exact watched_reload h hs
  | reloaded => exact watched_reloaded h hs

theorem watched_of_reachable {s : WatchState C T} (hr : (watching C T).ReachableUnder Careful s) :
    Watched s := by
  refine hr.invariant (P := Watched) ?_ fun op s s' _ h hcareful hs => watched_step h hcareful hs
  rintro s ⟨content, modified, rfl⟩
  refine ⟨List.mem_cons_self, fun m hm => (by cases hm), fun _ => rfl, fun _ hne => absurd rfl hne, ?_,
    ?_⟩
  · rintro (hwaiting | hwaiting) _ <;> cases hwaiting
  · intro hticked
    cases hticked

/-! ### Updates -/

/-- The watcher that starts on a file which is not what was loaded remembers its time, and
the next tick finds nothing to do. -/
theorem update_lost {s : WatchState C T} (hphase : s.phase = .connected) (hstale : s.loaded ≠ some s.content) :
    ∃ t, (watching C T).run [.watch true, .tick true] s = some t ∧ ¬ UpToDate t := by
  refine ⟨{ s with
    lastModified := some s.modified, phase := .waiting, writtenSinceTick := some false }, ?_, ?_⟩
  · simp [Machine.run, Machine.runUnder, Machine.anyStep, watching, WatchState.watch, WatchState.tick, hphase]
  · exact fun hup => hstale (hup rfl rfl)

/-- **No update is lost** in a run that is careful when the watcher starts; and in any run,
a watcher that starts on a file other than the one loaded loses it. -/
theorem updates_of_careful :
    (∀ s, (watching C T).ReachableUnder Careful s → UpToDate s) ∧
    ∀ s, (watching C T).Reachable s → s.phase = .connected → s.loaded ≠ some s.content →
      ∃ t, (watching C T).run [.watch true, .tick true] s = some t ∧ ¬ UpToDate t :=
  ⟨fun _ hr => (watched_of_reachable hr).upToDate, fun _ _ hphase hstale => update_lost hphase hstale⟩

end Watching

section Example

/-- Two configurations; the second is written while the first one is applied. -/
def lateWrite : List (WatchOp String Nat) :=
  [.load true, .write "second" 2, .bind true, .connect true, .watch true, .tick true]

def firstFile : WatchState String Nat := { content := "first", modified := 1, stamps := [1] }

/-- The tick completes, and the second configuration is not loaded. -/
theorem not_upToDate : ¬ ∀ s : WatchState String Nat, (watching String Nat).Reachable s → UpToDate s := by
  intro h
  have hr : (watching String Nat).Reachable (((watching String Nat).run lateWrite firstFile).getD firstFile) :=
    Machine.reachable_getD ⟨_, _, rfl⟩ rfl
  have hup := h _ hr (by decide) (by decide)
  exact absurd hup (by decide)

/-- Written while the watcher runs, also between its reads of the time and of the content,
the second configuration is loaded. -/
def watchedWrite : List (WatchOp String Nat) :=
  [.load true, .bind true, .connect true, .watch true, .write "second" 2, .tick true,
    .write "third" 3, .reload, .reloaded, .tick true, .reload, .reloaded]

theorem updates_of_careful_third :
    (((watching String Nat).runUnder Careful watchedWrite firstFile).getD firstFile).loaded = some "third" := by
  have hr : (watching String Nat).ReachableUnder Careful
      (((watching String Nat).runUnder Careful watchedWrite firstFile).getD firstFile) :=
    Machine.reachable_getD ⟨_, _, rfl⟩ rfl
  exact updates_of_careful.1 _ hr (by decide) (by decide)

end Example

end WsNet.Access
