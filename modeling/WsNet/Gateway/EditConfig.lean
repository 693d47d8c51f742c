import Mathlib.Logic.Function.Basic
import WsNet.Transition.Register
import WsNet.Gateway.AddUser

/-! Editing the configuration file while others may write it.

Each call of `add_user` runs in a process of its own. It takes the edit lock without
waiting, reads the file, works the next content out, writes that to a temporary file and
renames it over the configuration, after it has found the configuration unchanged. Any
operation on the file system can fail, a process can end at any point, and programs that
know nothing of the lock write the file whenever they like. -/
namespace WsNet.Gateway
open Transition

/-- An edit that has been worked out. -/
structure Edit where
  name : String
  token : String
  original : Bytes
  updated : Bytes
  deriving DecidableEq, Repr

/-- What `replace_config` does with the file system, in this order. -/
inductive FileOp where
  | create
  | write
  | sync
  | metadata
  | chown
  | permissions
  | compare
  | rename
  | syncDirectory
  deriving DecidableEq, Repr

inductive EditPhase where
  | idle
  | named (name : String)
  | opened (name : String)
  | locked (name : String)
  | read (name : String) (original : Bytes)
  | loaded (name : String) (original : Bytes) (config : GatewayConfig)
  | drafted (edit : Edit)
  /-- In `replace_config`, before the operation. -/
  | replacing (edit : Edit) (next : FileOp)
  /-- The temporary file is removed, if it is there. -/
  | cleaning (name : String) (result : Except Error String)
  | returned (name : String) (result : Except Error String)
  /-- The process ended during the call. -/
  | crashed

/-- A new content of the file. -/
inductive ConfigChange where
  /-- By another program, during the gap of the call given. -/
  | foreign (content : Bytes) (gap : Option Nat)
  | commit (call : Nat) (edit : Edit)
  deriving DecidableEq, Repr

structure EditState where
  start : Bytes
  file : Bytes
  /-- The call that holds the edit lock. -/
  holder : Option Nat
  calls : Nat → EditPhase
  temporaries : Nat → Option Bytes
  history : List ConfigChange

/-- What a call does next, with what the system answers. -/
inductive CallOp where
  | call (name : String)
  | openLock (failure : Option Error)
  | tryLock (failed : Bool)
  | read (failure : Option Error)
  | load (failure : Option Error)
  | draft (draws : List (Option Seed))
  | nameTemporary (draw : Option Seed)
  | perform
  /-- The operation fails. A write may have got some bytes out. -/
  | fail (error : Error) (written : Nat)
  | clean (removed : Bool)
  | crash

inductive EditOp where
  | foreign (content : Bytes)
  | act (call : Nat) (op : CallOp)

namespace EditPhase

/-- Between the comparison and the rename. -/
def inGap : EditPhase → Bool
  | .replacing _ .rename => true
  | _ => false

/-- The call holds the lock. -/
def critical : EditPhase → Bool
  | .locked _ | .read _ _ | .loaded _ _ _ | .drafted _ | .replacing _ _ | .cleaning _ _ => true
  | .idle | .named _ | .opened _ | .returned _ _ | .crashed => false

def ended : EditPhase → Bool
  | .idle | .returned _ _ | .crashed => true
  | _ => false

end EditPhase

namespace EditState

/-- The call whose gap it is. -/
def gap (s : EditState) : Option Nat := s.holder.filter fun k => (s.calls k).inGap

def foreign (content : Bytes) (s : EditState) : EditState :=
  { s with file := content, history := .foreign content s.gap :: s.history }

/-- The call goes on to a phase. -/
def goto (k : Nat) (phase : EditPhase) (s : EditState) : EditState :=
  { s with calls := Function.update s.calls k phase }

/-- The lock file is closed: the lock is free, if the call had it. -/
def unlock (k : Nat) (s : EditState) : EditState :=
  { s with holder := s.holder.filter (· ≠ k) }

def finish (k : Nat) (name : String) (result : Except Error String) (s : EditState) : EditState :=
  (s.goto k (.returned name result)).unlock k

def setTemporary (k : Nat) (content : Option Bytes) (s : EditState) : EditState :=
  { s with temporaries := Function.update s.temporaries k content }

/-- An operation that succeeds, and the one after it. -/
def perform (k : Nat) (edit : Edit) (s : EditState) : FileOp → Option EditState
  | .create => some ((s.setTemporary k (some [])).goto k (.replacing edit .write))
  | .write => some ((s.setTemporary k (some edit.updated)).goto k (.replacing edit .sync))
  | .sync => some (s.goto k (.replacing edit .metadata))
  | .metadata => some (s.goto k (.replacing edit .chown))
  | .chown => some (s.goto k (.replacing edit .permissions))
  | .permissions => some (s.goto k (.replacing edit .compare))
  | .compare =>
    if s.file = edit.original then some (s.goto k (.replacing edit .rename))
    else some (s.goto k (.cleaning edit.name (.error (.other "配置文件已被其他程序修改，未覆盖，请重试"))))
  | .rename => do
    let content ← s.temporaries k
    some (({ s with
      file := content, history := .commit k { edit with updated := content } :: s.history }.setTemporary k
        none).goto k (.replacing edit .syncDirectory))
  | .syncDirectory => some (s.goto k (.cleaning edit.name (.ok edit.token)))

/-- An operation that fails. Once the file is replaced the call does not. -/
def fail (k : Nat) (edit : Edit) (error : Error) (written : Nat) (s : EditState) : FileOp → EditState
  | .syncDirectory => s.goto k (.cleaning edit.name (.ok edit.token))
  | .write =>
    (s.setTemporary k (some (edit.updated.take written))).goto k (.cleaning edit.name (.error error))
  | _ => s.goto k (.cleaning edit.name (.error error))

section Act
variable [NetLiterals] [Toml]

/-- From the loaded configuration to the edit: the name, the token, the next content. -/
def draft (k : Nat) (name : String) (original : Bytes) (config : GatewayConfig)
    (draws : List (Option Seed)) (s : EditState) : Option EditState :=
  match checkAbsent config name with
  | .error error => some (s.finish k name (.error error))
  | .ok () =>
    match freshToken config draws with
    | none => none
    | some (.error error) => some (s.finish k name (.error error))
    | some (.ok token) =>
      match updateConfig original name token with
      | .error error => some (s.finish k name (.error error))
      | .ok updated => some (s.goto k (.drafted { name, token, original, updated }))

def act (k : Nat) (op : CallOp) (s : EditState) : Option EditState :=
  match op, s.calls k with
  | .call name, .idle =>
    match validateUsername name with
    | .error error => some (s.finish k name (.error error))
    | .ok () => some (s.goto k (.named name))
  | .openLock failure, .named name =>
    match failure with
    | some error => some (s.finish k name (.error error))
    | none => some (s.goto k (.opened name))
  | .tryLock failed, .opened name =>
    if failed ∨ s.holder ≠ none then
      some (s.finish k name (.error (.other "配置正在被其他管理命令修改，请稍后重试")))
    else some ({ s with holder := some k }.goto k (.locked name))
  | .read failure, .locked name =>
    match failure with
    | some error => some (s.finish k name (.error error))
    | none => some (s.goto k (.read name s.file))
  | .load failure, .read name original =>
    match failure with
    | some error => some (s.finish k name (.error error))
    | none =>
      match GatewayConfig.load s.file with
      | .error error => some (s.finish k name (.error error))
      | .ok config => some (s.goto k (.loaded name original config))
  | .draft draws, .loaded name original config => s.draft k name original config draws
  | .nameTemporary draw, .drafted edit =>
    match randomId draw with
    | .error error => some (s.finish k edit.name (.error error))
    | .ok _ => some (s.goto k (.replacing edit .create))
  | .perform, .replacing edit next => s.perform k edit next
  | .fail error written, .replacing edit next => some (s.fail k edit error written next)
  | .clean removed, .cleaning name result =>
    some ((if removed then s.setTemporary k none else s).finish k name result)
  | .crash, phase => if phase.ended then none else some ((s.goto k .crashed).unlock k)
  | _, _ => none

end Act

end EditState

section Editing
variable [NetLiterals] [Toml]

/-- Any number of calls, each made once, and the other writers of the file. -/
def editing : Machine EditState EditOp where
  Initial := fun s =>
    s.file = s.start ∧ s.holder = none ∧ s.calls = (fun _ => .idle) ∧ s.temporaries = (fun _ => none) ∧
      s.history = []
  step
    | .foreign content, s => some (s.foreign content)
    | .act k op, s => s.act k op

/-! ### What a call does -/

namespace EditPhase

/-- Before `replace_config`. -/
def preparing : EditPhase → Bool
  | .idle | .named _ | .opened _ | .locked _ | .read _ _ | .loaded _ _ _ | .drafted _ => true
  | .replacing _ _ | .cleaning _ _ | .returned _ _ | .crashed => false

end EditPhase

/-- What is written has been worked out from what was read. -/
structure Edit.Valid (edit : Edit) : Prop where
  name : validateUsername edit.name = .ok ()
  token : validId edit.token = true
  updated : updateConfig edit.original edit.name edit.token = .ok edit.updated

/-- From an operation that changes nothing on success to the one after it. -/
inductive FileOp.Follows : FileOp → FileOp → Prop where
  | sync : Follows .sync .metadata
  | metadata : Follows .metadata .chown
  | chown : Follows .chown .permissions
  | permissions : Follows .permissions .compare

namespace EditState

/-- The steps of a call, with what each one has checked. -/
inductive Move (k : Nat) (s : EditState) : EditState → Prop where
  | named {name : String} (from_ : s.calls k = .idle) (valid : validateUsername name = .ok ()) :
      Move k s (s.goto k (.named name))
  | opened {name : String} (from_ : s.calls k = .named name) : Move k s (s.goto k (.opened name))
  | locked {name : String} (from_ : s.calls k = .opened name) (free : s.holder = none) :
      Move k s ({ s with holder := some k }.goto k (.locked name))
  | read {name : String} (from_ : s.calls k = .locked name) : Move k s (s.goto k (.read name s.file))
  | loaded {name : String} {original : Bytes} {config : GatewayConfig}
      (from_ : s.calls k = .read name original) (loads : GatewayConfig.load s.file = .ok config) :
      Move k s (s.goto k (.loaded name original config))
  | drafted {name token : String} {original updated : Bytes} {config : GatewayConfig}
      (from_ : s.calls k = .loaded name original config)
      (absent : ∀ user ∈ config.users, user.name ≠ name) (fresh : ¬ Taken config token)
      (token_valid : validId token = true)
      (updates : updateConfig original name token = .ok updated) :
      Move k s (s.goto k (.drafted { name, token, original, updated }))
  | nameTemporary {edit : Edit} (from_ : s.calls k = .drafted edit) :
      Move k s (s.goto k (.replacing edit .create))
  | gaveUp {name : String} {error : Error} (from_ : (s.calls k).preparing = true) :
      Move k s (s.finish k name (.error error))
  | created {edit : Edit} (from_ : s.calls k = .replacing edit .create) :
      Move k s ((s.setTemporary k (some [])).goto k (.replacing edit .write))
  | written {edit : Edit} (from_ : s.calls k = .replacing edit .write) :
      Move k s ((s.setTemporary k (some edit.updated)).goto k (.replacing edit .sync))
  | followed {edit : Edit} {op next : FileOp} (from_ : s.calls k = .replacing edit op)
      (follows : op.Follows next) : Move k s (s.goto k (.replacing edit next))
  | compared {edit : Edit} (from_ : s.calls k = .replacing edit .compare)
      (unchanged : s.file = edit.original) : Move k s (s.goto k (.replacing edit .rename))
  | renamed {edit : Edit} {content : Bytes} (from_ : s.calls k = .replacing edit .rename)
      (temporary : s.temporaries k = some content) :
      Move k s (({ s with
        file := content
        history := .commit k { edit with updated := content } :: s.history }.setTemporary k none).goto k
          (.replacing edit .syncDirectory))
  | saved {edit : Edit} (from_ : s.calls k = .replacing edit .syncDirectory) :
      Move k s (s.goto k (.cleaning edit.name (.ok edit.token)))
  | failed {edit : Edit} {op : FileOp} {error : Error} (from_ : s.calls k = .replacing edit op)
      (uncommitted : op ≠ .syncDirectory) : Move k s (s.goto k (.cleaning edit.name (.error error)))
  | cutShort {edit : Edit} {error : Error} {content : Bytes}
      (from_ : s.calls k = .replacing edit .write) :
      Move k s ((s.setTemporary k (some content)).goto k (.cleaning edit.name (.error error)))
  | left {name : String} {result : Except Error String} (from_ : s.calls k = .cleaning name result) :
      Move k s (s.finish k name result)
  | removed {name : String} {result : Except Error String} (from_ : s.calls k = .cleaning name result) :
      Move k s ((s.setTemporary k none).finish k name result)
  | crashed (running : (s.calls k).ended = false) : Move k s ((s.goto k .crashed).unlock k)

theorem move_perform {k : Nat} {edit : Edit} {next : FileOp} {s t : EditState}
    (from_ : s.calls k = .replacing edit next) (h : s.perform k edit next = some t) : Move k s t := by
  cases next with
  | create =>
    cases h
    exact .created from_
  | write =>
    cases h
    exact .written from_
  | sync =>
    cases h
    exact .followed from_ .sync
  | metadata =>
    cases h
    exact .followed from_ .metadata
  | chown =>
    cases h
    exact .followed from_ .chown
  | permissions =>
    cases h
    exact .followed from_ .permissions
  | compare =>
    simp only [perform] at h
    split at h <;> cases h
    · rename_i heq
      exact .compared from_ heq
    · refine .failed from_ ?_
      intro hop
      cases hop
  | rename =>
    obtain ⟨content, hcontent, ht⟩ := Option.bind_eq_some_iff.mp h
    cases ht
    exact .renamed from_ hcontent
  | syncDirectory =>
    cases h
    exact .saved from_

theorem move_fail {k : Nat} {edit : Edit} {next : FileOp} {error : Error} {written : Nat} {s : EditState}
    (from_ : s.calls k = .replacing edit next) : Move k s (s.fail k edit error written next) := by
  cases next with
  | write => exact .cutShort from_
  | syncDirectory => exact .saved from_
  | _ =>
    refine .failed from_ ?_
    intro hop
    cases hop

theorem move_draft {k : Nat} {name : String} {original : Bytes} {config : GatewayConfig}
    {draws : List (Option Seed)} {s t : EditState} (from_ : s.calls k = .loaded name original config)
    (h : s.draft k name original config draws = some t) : Move k s t := by
  have hgaveUp : ∀ error, Move k s (s.finish k name (.error error)) := by
    intro error
    refine .gaveUp ?_
    rw [from_]
    rfl
  unfold draft at h
  split at h
  · cases h
    exact hgaveUp _
  · rename_i habsent
    split at h
    · cases h
    · cases h
      exact hgaveUp _
    · rename_i token hfresh
      split at h <;> cases h
      · exact hgaveUp _
      · rename_i updated hupdated
        obtain ⟨hnew, hvalid⟩ := freshToken_eq_ok hfresh
        exact .drafted from_ (checkAbsent_eq_ok.mp habsent) hnew hvalid hupdated

/-- **A call does nothing else.** -/
theorem move_act {k : Nat} {op : CallOp} {s t : EditState} (h : s.act k op = some t) : Move k s t := by
  have hgaveUp : (s.calls k).preparing = true → ∀ name error, Move k s (s.finish k name (.error error)) :=
    fun hp _ _ => .gaveUp hp
  unfold act at h
  split at h
  · rename_i hphase
    split at h <;> cases h
    · exact hgaveUp (by rw [hphase]; rfl) _ _
    · rename_i hvalid
      exact .named hphase hvalid
  · rename_i hphase
    split at h <;> cases h
    · exact hgaveUp (by rw [hphase]; rfl) _ _
    · exact .opened hphase
  · rename_i hphase
    split at h <;> cases h
    · exact hgaveUp (by rw [hphase]; rfl) _ _
    · rename_i hfree
      rw [not_or, not_not] at hfree
      exact .locked hphase hfree.2
  · rename_i hphase
    split at h <;> cases h
    · exact hgaveUp (by rw [hphase]; rfl) _ _
    · exact .read hphase
  · rename_i hphase
    split at h
    · cases h
      exact hgaveUp (by rw [hphase]; rfl) _ _
    · split at h <;> cases h
      · exact hgaveUp (by rw [hphase]; rfl) _ _
      · rename_i hloads
        exact .loaded hphase hloads
  · rename_i hphase
    exact move_draft hphase h
  · rename_i hphase
    split at h <;> cases h
    · exact hgaveUp (by rw [hphase]; rfl) _ _
    · exact .nameTemporary hphase
  · rename_i hphase
    exact move_perform hphase h
  · rename_i hphase
    cases h
    exact move_fail hphase
  · rename_i removed name result hphase
    cases removed <;> cases h
    · exact .left hphase
    · exact .removed hphase
  · split at h <;> cases h
    rename_i hrunning
    rw [Bool.not_eq_true] at hrunning
    exact .crashed hrunning
  · cases h

/-! ### A call that nothing disturbs -/

/-- The steps of a call up to its rename, where nothing fails and the first token drawn is new. -/
def toRename (k : Nat) (name : String) (seed : Seed) : List EditOp :=
  let ops : List CallOp := [.call name, .openLock none, .tryLock false, .read none, .load none,
    .draft [some seed], .nameTemporary (some seed), .perform, .perform, .perform, .perform, .perform,
    .perform, .perform]
  ops.map (.act k)

def fromRename (k : Nat) : List EditOp :=
  let ops : List CallOp := [.perform, .perform, .clean true]
  ops.map (.act k)

/-- The call holds the lock, in a phase, with a temporary file or none. -/
def held (k : Nat) (phase : EditPhase) (temporary : Option Bytes) (s : EditState) : EditState :=
  { s with
    holder := some k
    calls := Function.update s.calls k phase
    temporaries := Function.update s.temporaries k temporary }

/-- A call that has compared. -/
def beforeRename (k : Nat) (edit : Edit) (s : EditState) : EditState :=
  s.held k (.replacing edit .rename) (some edit.updated)

/-- The edit is saved and reported. -/
def afterCall (k : Nat) (edit : Edit) (s : EditState) : EditState :=
  { s with
    file := edit.updated
    holder := none
    calls := Function.update s.calls k (.returned edit.name (.ok edit.token))
    temporaries := Function.update s.temporaries k none
    history := .commit k edit :: s.history }

section Held
variable {k : Nat} {phase next : EditPhase} {temporary content : Option Bytes} {s : EditState}

omit [NetLiterals] [Toml] in
theorem held_calls : (s.held k phase temporary).calls k = phase := Function.update_self ..

omit [NetLiterals] [Toml] in
theorem held_file : (s.held k phase temporary).file = s.file := rfl

omit [NetLiterals] [Toml] in
theorem held_goto : (s.held k phase temporary).goto k next = s.held k next temporary := by
  simp [held, goto]

omit [NetLiterals] [Toml] in
theorem held_setTemporary : (s.held k phase temporary).setTemporary k content = s.held k phase content := by
  simp [held, setTemporary]

variable {edit : Edit}

omit [NetLiterals] [Toml] in
theorem held_create : (s.held k (.replacing edit .create) temporary).perform k edit .create =
    some (s.held k (.replacing edit .write) (some [])) := by
  rw [perform, held_setTemporary, held_goto]

omit [NetLiterals] [Toml] in
theorem held_write : (s.held k (.replacing edit .write) temporary).perform k edit .write =
    some (s.held k (.replacing edit .sync) (some edit.updated)) := by
  rw [perform, held_setTemporary, held_goto]

omit [NetLiterals] [Toml] in
theorem held_follows {op after : FileOp} (follows : op.Follows after) :
    (s.held k (.replacing edit op) temporary).perform k edit op =
      some (s.held k (.replacing edit after) temporary) := by
  cases follows <;> rw [perform, held_goto]

omit [NetLiterals] [Toml] in
theorem held_compare (unchanged : s.file = edit.original) :
    (s.held k (.replacing edit .compare) temporary).perform k edit .compare =
      some (s.held k (.replacing edit .rename) temporary) := by
  rw [perform, held_file, if_pos unchanged, held_goto]

end Held

section Runs
variable {Rule : EditOp → EditState → Prop} [∀ op s, Decidable (Rule op s)]

/-- The rules considered here ask nothing of a call. -/
theorem run_act (acts : ∀ k op s, Rule (.act k op) s) {k : Nat} {op : CallOp} {rest : List CallOp}
    {s t : EditState} (h : s.act k op = some t) :
    editing.runUnder Rule ((op :: rest).map (.act k)) s = editing.runUnder Rule (rest.map (.act k)) t :=
  Machine.runUnder_cons (acts k op s) h

theorem run_toLocked (acts : ∀ k op s, Rule (.act k op) s) {k : Nat} {name : String} {rest : List CallOp}
    {s : EditState} (idle : s.calls k = .idle) (free : s.holder = none) (valid : validateUsername name = .ok ()) :
    editing.runUnder Rule ((.call name :: .openLock none :: .tryLock false :: rest).map (.act k)) s =
      editing.runUnder Rule (rest.map (.act k)) (s.held k (.locked name) (s.temporaries k)) := by
  have hcall : s.act k (.call name) = some (s.goto k (.named name)) := by
    simp only [act, idle, valid]
  have hopen : (s.goto k (.named name)).act k (.openLock none) = some (s.goto k (.opened name)) := by
    simp only [act, goto, Function.update_self, Function.update_idem]
  have hlock : (s.goto k (.opened name)).act k (.tryLock false) =
      some (s.held k (.locked name) (s.temporaries k)) := by
    simp [act, goto, held, free]
  rw [run_act acts hcall, run_act acts hopen, run_act acts hlock]

theorem run_toDrafted (acts : ∀ k op s, Rule (.act k op) s) {k : Nat} {name : String} {seed : Seed}
    {s : EditState} {temporary : Option Bytes} {config : GatewayConfig} {updated : Bytes} {rest : List CallOp}
    (loads : GatewayConfig.load s.file = .ok config) (absent : checkAbsent config name = .ok ())
    (fresh : ¬ Taken config (hex seed)) (updates : updateConfig s.file name (hex seed) = .ok updated) :
    editing.runUnder Rule ((.read none :: .load none :: .draft [some seed] :: .nameTemporary (some seed) ::
        rest).map (.act k)) (s.held k (.locked name) temporary) =
      editing.runUnder Rule (rest.map (.act k)) (s.held k (.replacing
        { name, token := hex seed, original := s.file, updated } .create) temporary) := by
  have hread : (s.held k (.locked name) temporary).act k (.read none) =
      some (s.held k (.read name s.file) temporary) := by
    simp only [act, held_calls, held_goto, held_file]
  have hload : (s.held k (.read name s.file) temporary).act k (.load none) =
      some (s.held k (.loaded name s.file config) temporary) := by
    simp only [act, held_calls, held_goto, held_file, loads]
  have hdraft : (s.held k (.loaded name s.file config) temporary).act k (.draft [some seed]) =
      some (s.held k (.drafted { name, token := hex seed, original := s.file, updated }) temporary) := by
    simp only [act, held_calls, draft, absent, freshToken, randomId, if_neg fresh, updates, held_goto]
  have hname : (s.held k (.drafted { name, token := hex seed, original := s.file, updated }) temporary).act k
      (.nameTemporary (some seed)) = some (s.held k (.replacing
        { name, token := hex seed, original := s.file, updated } .create) temporary) := by
    simp only [act, held_calls, randomId, held_goto]
  rw [run_act acts hread, run_act acts hload, run_act acts hdraft, run_act acts hname]

theorem run_perform (acts : ∀ k op s, Rule (.act k op) s) {k : Nat} {edit : Edit} {op : FileOp}
    {temporary : Option Bytes} {rest : List CallOp} {s t : EditState}
    (h : (s.held k (.replacing edit op) temporary).perform k edit op = some t) :
    editing.runUnder Rule ((.perform :: rest).map (.act k)) (s.held k (.replacing edit op) temporary) =
      editing.runUnder Rule (rest.map (.act k)) t := by
  refine run_act acts ?_
  simp only [act, held_calls, h]

theorem run_toRename (acts : ∀ k op s, Rule (.act k op) s) {k : Nat} {name : String} {seed : Seed}
    {s : EditState} {config : GatewayConfig} {updated : Bytes} (idle : s.calls k = .idle)
    (free : s.holder = none) (valid : validateUsername name = .ok ())
    (loads : GatewayConfig.load s.file = .ok config) (absent : checkAbsent config name = .ok ())
    (fresh : ¬ Taken config (hex seed)) (updates : updateConfig s.file name (hex seed) = .ok updated) :
    editing.runUnder Rule (toRename k name seed) s =
      some (s.beforeRename k { name, token := hex seed, original := s.file, updated }) := by
  rw [toRename, run_toLocked acts idle free valid, run_toDrafted acts loads absent fresh updates]
  rw [run_perform acts held_create, run_perform acts held_write, run_perform acts (held_follows .sync),
    run_perform acts (held_follows .metadata), run_perform acts (held_follows .chown),
    run_perform acts (held_follows .permissions), run_perform acts (held_compare rfl)]
  rfl

theorem run_fromRename (acts : ∀ k op s, Rule (.act k op) s) {k : Nat} {edit : Edit} {s : EditState} :
    editing.runUnder Rule (fromRename k) (s.beforeRename k edit) = some (s.afterCall k edit) := by
  simp [fromRename, Machine.runUnder, acts, editing, act, goto, setTemporary, perform, finish, unlock,
    beforeRename, held, afterCall]

end Runs

end EditState

end Editing

end WsNet.Gateway
