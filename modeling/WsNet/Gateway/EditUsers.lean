import WsNet.Gateway.EditHistory

/-! The users in the configuration file.

While the other writers keep away during calls, what a call saves is the configuration
it has read with one more user, so the file loads as the history of its users says. -/
namespace WsNet.Gateway
open Transition

namespace EditState

/-- The other writers keep away while the lock is held. -/
def Quiet : EditOp → EditState → Prop
  | .foreign _, s => s.holder = none
  | .act _ _, _ => True

instance (op : EditOp) (s : EditState) : Decidable (Quiet op s) := by
  unfold Quiet
  split <;> infer_instance

end EditState

section Users
variable [NetLiterals] [Toml]

/-- The edit adds a new name and a new token to what it has read. -/
def Edit.New (edit : Edit) : Prop :=
  ∃ config, GatewayConfig.load edit.original = .ok config ∧
    (∀ user ∈ config.users, user.name ≠ edit.name) ∧ ¬ Taken config edit.token

/-- What the call has read is what the file holds. -/
def EditPhase.Current (file : Bytes) : EditPhase → Prop
  | .read _ original => original = file
  | .loaded _ original config => original = file ∧ GatewayConfig.load file = .ok config
  | .replacing _ .syncDirectory => True
  | .drafted edit | .replacing edit _ => edit.original = file ∧ edit.New
  | _ => True

namespace EditState

theorem EditPhase.current_of_not_critical {phase : EditPhase} (h : phase.critical = false) (file : Bytes) :
    phase.Current file := by
  cases phase with
  | read | loaded | drafted | replacing => cases h
  | _ => trivial

structure QuietlyEdited (s : EditState) : Prop where
  current : ∀ k, (s.calls k).Current s.file
  new : ∀ k edit, .commit k edit ∈ s.history → edit.New

variable {k : Nat} {s t : EditState}

theorem Move.current (h : Move k s t) (hs : (s.calls k).Current s.file) : (t.calls k).Current t.file := by
  cases h with
  | read from_ =>
    rw [goto_calls]
    rfl
  | loaded from_ loads =>
    rw [from_] at hs
    rw [goto_calls]
    exact ⟨hs, loads⟩
  | drafted from_ absent fresh token_valid updates =>
    rw [from_] at hs
    rw [goto_calls]
    obtain ⟨rfl, hload⟩ := hs
    exact ⟨rfl, _, hload, absent, fresh⟩
  | followed from_ follows =>
    rw [from_] at hs
    rw [goto_calls]
    cases follows <;> exact hs
  | gaveUp | left | removed =>
    rw [finish_calls]
    trivial
  | crashed =>
    rw [unlock_calls, goto_calls]
    trivial
  | named | opened | locked | renamed | saved | failed | cutShort =>
    rw [goto_calls]
    trivial
  | _ from_ =>
    rw [from_] at hs
    rw [goto_calls]
    exact hs

theorem quietlyEdited_act {op : CallOp} (h : s.QuietlyEdited) (he : s.Edited) (hs : s.act k op = some t) :
    t.QuietlyEdited := by
  have move := move_act hs
  have hhistory := move.history (he.valid k) (he.belongs k)
  refine ⟨?_, ?_⟩
  · intro j
    by_cases hj : j = k
    · subst hj
      exact move.current (h.current j)
    · rw [(move.frame hj).1]
      rcases hhistory with ⟨-, hfile⟩ | ⟨edit, -, hphase, -, -⟩
      · rw [hfile]
        exact h.current j
      · -- the call that renames holds the lock, so the other one has nothing read
        have hk : s.holder = some k := (he.lock k).mpr (by rw [hphase]; rfl)
        have hfree : (s.calls j).critical = false := by
          rw [← Bool.not_eq_true, ← he.lock j, hk]
          exact fun heq => hj (Option.some.inj heq).symm
        exact EditPhase.current_of_not_critical hfree t.file
  · intro j edit hmem
    rcases hhistory with ⟨hsame, -⟩ | ⟨new, -, hphase, hnew, -⟩
    · rw [hsame] at hmem
      exact h.new j edit hmem
    · rw [hnew] at hmem
      rcases List.mem_cons.mp hmem with heq | hmem
      · cases heq
        have hcurrent := h.current k
        rw [hphase] at hcurrent
        exact hcurrent.2
      · exact h.new j edit hmem

theorem quietlyEdited_foreign {content : Bytes} (h : s.QuietlyEdited) (he : s.Edited)
    (hquiet : s.holder = none) : (s.foreign content).QuietlyEdited where
  current := by
    intro k
    have hfree : (s.calls k).critical = false := by
      rw [← Bool.not_eq_true, ← he.lock k, hquiet]
      exact fun heq => by cases heq
    exact EditPhase.current_of_not_critical hfree content
  new := by
    intro k edit hmem
    rcases List.mem_cons.mp hmem with heq | hmem
    · cases heq
    · exact h.new k edit hmem

theorem quietlyEdited_of_reached (h : editing.ReachableUnder Quiet s) : s.QuietlyEdited := by
  refine h.invariant (P := QuietlyEdited) ?_ ?_
  · intro s hi
    obtain ⟨-, -, hcalls, -, hhistory⟩ := hi
    refine ⟨?_, ?_⟩
    · intro k
      rw [hcalls]
      trivial
    · intro k edit hmem
      rw [hhistory] at hmem
      cases hmem
  · intro op s t hreached hs hr hstep
    cases op with
    | foreign content =>
      cases hstep
      exact quietlyEdited_foreign hs (edited_of_reached hreached) hr
    | act k op => exact quietlyEdited_act hs (edited_of_reached hreached) hstep

/-- The configuration after a history: a foreign content is loaded, a saved edit adds its
user to the configuration before it. -/
def configAfter (start : Bytes) : List ConfigChange → Except Error GatewayConfig
  | [] => GatewayConfig.load start
  | .foreign content _ :: _ => GatewayConfig.load content
  | .commit _ edit :: rest => (configAfter start rest).map fun config => withUser config edit.name edit.token

theorem chained_of_quiet (h : editing.ReachableUnder Quiet s) :
    Change.Chained s.start (s.history.map ConfigChange.change) := by
  refine Register.chained_of_reached (register_of_reached (fun _ _ hop => hop) ?_ h)
  intro content s hquiet
  have hnone : s.holder = none := hquiet
  show s.holding.gap = none
  rw [← gap_eq, gap, hnone]
  rfl

theorem load_fileAfter (lawful : Toml.Lawful) {start : Bytes} {history : List ConfigChange}
    (hchain : Change.Chained start (history.map ConfigChange.change))
    (hedits : ∀ k edit, .commit k edit ∈ history → edit.Valid ∧ edit.New) :
    GatewayConfig.load (fileAfter start history) = configAfter start history := by
  induction history with
  | nil => rfl
  | cons change rest ih =>
    cases change with
    | foreign content gap => rfl
    | commit k edit =>
      obtain ⟨hbefore, hrest⟩ := hchain
      rw [latest_map_change] at hbefore
      obtain ⟨hvalid, config, hload, -, -⟩ := hedits k edit List.mem_cons_self
      have hih := ih hrest fun j e he => hedits j e (List.mem_cons_of_mem _ he)
      rw [← hbefore, hload] at hih
      show GatewayConfig.load edit.updated = (configAfter start rest).map _
      rw [← hih, load_withUser lawful hvalid.name hvalid.token hload hvalid.updated]
      rfl

/-- **The users are those that were added.** While the other writers keep away during
calls, the file loads as its first or its last foreign content with the saved users
after it, in the order they were saved; each had a new name and a new token, other than
the gateway's. -/
theorem users_are_added (lawful : Toml.Lawful) (h : editing.ReachableUnder Quiet s) :
    GatewayConfig.load s.file = configAfter s.start s.history ∧
      ∀ later k edit earlier, s.history = later ++ .commit k edit :: earlier →
        ∃ config, configAfter s.start earlier = .ok config ∧
          (∀ user ∈ config.users, user.name ≠ edit.name) ∧ ¬ Taken config edit.token := by
  have hregister : (Register.machine Bytes Nat).Reachable s.registerOf :=
    register_of_reached (fun _ _ _ => trivial) (fun _ _ _ => trivial) h
  have hedits : ∀ k edit, .commit k edit ∈ s.history → edit.Valid ∧ edit.New := fun k edit hmem =>
    ⟨(edited_of_reached h).commits k edit hmem, (quietlyEdited_of_reached h).new k edit hmem⟩
  have hchain := chained_of_quiet h
  have hfile : s.file = fileAfter s.start s.history := by
    rw [← latest_map_change]
    exact (Register.recorded_of_reached hregister).value
  refine ⟨?_, ?_⟩
  · rw [hfile]
    exact load_fileAfter lawful hchain hedits
  · intro later k edit earlier hsplit
    have hmem : .commit k edit ∈ s.history := by
      rw [hsplit]
      exact List.mem_append_right _ List.mem_cons_self
    obtain ⟨-, config, hload, habsent, hfresh⟩ := hedits k edit hmem
    have hearlier : Change.Chained s.start ((.commit k edit :: earlier).map ConfigChange.change) := by
      rw [hsplit, List.map_append] at hchain
      exact hchain.suffix
    refine ⟨config, ?_, habsent, hfresh⟩
    have hrest := load_fileAfter lawful hearlier.2 fun j e he => hedits j e (by
      rw [hsplit]
      exact List.mem_append_right _ (List.mem_cons_of_mem _ he))
    rw [← hrest, ← latest_map_change, ← hearlier.1]
    exact hload

end EditState

end Users

namespace OneUser
open EditState

attribute [local instance] NetLiterals.dottedQuad toml

theorem reached_quietly : editing.ReachableUnder EditState.Quiet (start.afterCall 0 edit) := by
  have acts : ∀ k op s, EditState.Quiet (.act k op) s := fun _ _ _ => trivial
  have hto : editing.runUnder EditState.Quiet (toRename 0 "zhang" seed) start = some (start.beforeRename 0 edit) :=
    run_toRename acts rfl rfl rfl load_content (checkAbsent_eq_ok.mpr (by simp [config])) fresh_seed
      update_content
  exact Machine.reachableUnder_of_run ⟨rfl, rfl, rfl, rfl, rfl⟩ (Machine.runUnder_then hto (run_fromRename acts))

theorem users_are_added_zhang :
    GatewayConfig.load (bytesOf added) = .ok (withUser config "zhang" (hex seed)) ∧
      ∃ before, configAfter (bytesOf content) [] = .ok before ∧
        (∀ user ∈ before.users, user.name ≠ "zhang") ∧ ¬ Taken before (hex seed) := by
  have husers := users_are_added (Toml.plain_lawful content config) reached_quietly
  refine ⟨husers.1.trans ?_, husers.2 [] 0 edit [] rfl⟩
  show (GatewayConfig.load (bytesOf content)).map _ = _
  rw [load_content]
  rfl

end OneUser

/-! ### Without other writers -/

namespace EditState

/-- Only the calls write the file. -/
def OwnOnly : EditOp → EditState → Prop
  | .foreign _, _ => False
  | .act _ _, _ => True

instance (op : EditOp) (s : EditState) : Decidable (OwnOnly op s) := by
  unfold OwnOnly
  split <;> infer_instance

section Own
variable [NetLiterals] [Toml] {k : Nat} {s t : EditState}

/-- A call that has returned stays so. -/
theorem returned_step {op : EditOp} {name : String} {result : Except Error String}
    (h : editing.step op s = some t) (hr : s.calls k = .returned name result) :
    t.calls k = .returned name result := by
  cases op with
  | foreign content =>
    cases h
    exact hr
  | act j op =>
    by_cases hj : k = j
    · subst hj
      have hact : s.act k op = some t := h
      cases op <;> simp [act, hr, EditPhase.ended] at hact
    · rw [((move_act h).frame hj).1]
      exact hr

/-- The users in the file, where it loads. -/
def users (s : EditState) : List GatewayUser :=
  match GatewayConfig.load s.file with
  | .ok config => config.users
  | .error _ => []

theorem users_of_load {config : GatewayConfig} (h : GatewayConfig.load s.file = .ok config) :
    s.users = config.users := by
  rw [users, h]

/-- A step of a call leaves the users as they are or adds the one it saves. -/
theorem users_act (lawful : Toml.Lawful) {op : CallOp} (hq : s.QuietlyEdited) (he : s.Edited)
    (h : s.act k op = some t) :
    t.users = s.users ∧ t.history = s.history ∨
      ∃ edit, t.history = .commit k edit :: s.history ∧
        t.users = s.users ++ [⟨edit.name, edit.token, none, []⟩] := by
  rcases (move_act h).history (he.valid k) (he.belongs k) with
    ⟨hhistory, hfile⟩ | ⟨edit, hvalid, hphase, hhistory, hfile⟩
  · refine .inl ⟨?_, hhistory⟩
    rw [users, users, hfile]
  · have hcurrent := hq.current k
    rw [hphase] at hcurrent
    obtain ⟨hfresh, config, hload, -, -⟩ := hcurrent
    have hafter := load_withUser lawful hvalid.name hvalid.token hload hvalid.updated
    refine .inr ⟨edit, hhistory, ?_⟩
    rw [← hfile] at hafter
    rw [hfresh] at hload
    rw [users_of_load hafter, users_of_load hload]
    rfl

/-- A call that returned a token has saved its user. -/
theorem commit_of_returned {name token : String} (he : s.Edited) (h : s.calls k = .returned name (.ok token)) :
    ∃ edit, .commit k edit ∈ s.history ∧ edit.name = name ∧ edit.token = token := by
  have hbelongs := he.belongs k
  rw [h] at hbelongs
  have hsaved : savedBy k s.history = [(name, token)] := hbelongs.2
  have hmem : (name, token) ∈ savedBy k s.history := by
    rw [hsaved]
    exact List.mem_singleton_self _
  obtain ⟨change, hchange, hpair⟩ := List.mem_filterMap.mp hmem
  cases change with
  | foreign => cases hpair
  | commit call edit =>
    simp only [Option.ite_none_right_eq_some, Option.some.injEq, Prod.mk.injEq] at hpair
    obtain ⟨rfl, hname, htoken⟩ := hpair
    exact ⟨edit, hchange, hname, htoken⟩

/-- Whom a call has saved, the file has. -/
def Kept (s : EditState) : Prop :=
  ∀ k edit, .commit k edit ∈ s.history → ⟨edit.name, edit.token, none, []⟩ ∈ s.users

theorem quiet_of_own (h : editing.ReachableUnder OwnOnly s) : editing.ReachableUnder Quiet s :=
  h.imp fun _ hs => ⟨hs.1, hs.2.mono fun op _ hown => by cases op <;> trivial⟩

theorem kept_of_reached (lawful : Toml.Lawful) (h : editing.ReachableUnder OwnOnly s) : s.Kept := by
  refine h.invariant (P := Kept) ?_ ?_
  · intro s hi k edit hmem
    rw [hi.2.2.2.2] at hmem
    cases hmem
  · intro op s t hreached hs hr hstep
    cases op with
    | foreign content => cases hr
    | act k op =>
      intro j edit hmem
      rcases users_act lawful (quietlyEdited_of_reached (quiet_of_own hreached)) (edited_of_reached hreached) hstep with
        ⟨husers, hhistory⟩ | ⟨new, hhistory, husers⟩
      · rw [hhistory] at hmem
        rw [husers]
        exact hs j edit hmem
      · rw [hhistory] at hmem
        rw [husers]
        rcases List.mem_cons.mp hmem with heq | hmem
        · cases heq
          exact List.mem_append_right _ (List.mem_singleton_self _)
        · exact List.mem_append_left _ (hs j edit hmem)

end Own

end EditState

section Success
variable [NetLiterals] [Toml]

namespace EditState

/-- **An undisturbed call succeeds.** With the lock free, a file that loads and can be
edited, a new name and a token that is nobody's, the call returns the token, and the file
then loads with the user; the other calls are where they were. -/
theorem undisturbed_call (lawful : Toml.Lawful) {k : Nat} {s : EditState} {name content : String}
    {d : Toml.Document} {config : GatewayConfig} {seed : Seed} (idle : s.calls k = .idle) (free : s.holder = none)
    (hload : GatewayConfig.load s.file = .ok config) (htext : textOf s.file = some content)
    (hparse : Toml.parse content = some d)
    (htables : (Toml.users (withTables d)).any TomlItem.isArrayOfTables = true)
    (hname : validateUsername name = .ok ()) (habsent : ∀ user ∈ config.users, user.name ≠ name)
    (hfresh : ¬ Taken config (hex seed)) :
    ∃ t, editing.run (toRename k name seed ++ fromRename k) s = some t ∧
      t.calls k = .returned name (.ok (hex seed)) ∧
      GatewayConfig.load t.file = .ok (withUser config name (hex seed)) ∧
      t.holder = none ∧ t.temporaries k = none ∧ ∀ j, j ≠ k → t.calls j = s.calls j := by
  obtain ⟨updated, hupdated, hafter⟩ := updateConfig_succeeds lawful hload htext hparse htables hname
    (validId_hex seed.2) habsent hfresh
  have hto : editing.run (toRename k name seed) s = _ :=
    run_toRename (fun _ _ _ => trivial) idle free hname hload (checkAbsent_eq_ok.mpr habsent) hfresh hupdated
  refine ⟨_, Machine.runUnder_then hto (run_fromRename fun _ _ _ => trivial), ?_, hafter, rfl, ?_, ?_⟩
  · exact Function.update_self ..
  · exact Function.update_self ..
  · exact fun j hj => Function.update_of_ne hj ..

end EditState

end Success

namespace OneUser
open EditState

attribute [local instance] NetLiterals.dottedQuad toml

theorem undisturbed_call_zhang :
    ∃ t, editing.run (toRename 0 "zhang" seed ++ fromRename 0) start = some t ∧
      t.calls 0 = .returned "zhang" (.ok (hex seed)) ∧
      GatewayConfig.load t.file = .ok (withUser config "zhang" (hex seed)) ∧
      t.holder = none ∧ t.temporaries 0 = none ∧ ∀ j, j ≠ 0 → t.calls j = start.calls j :=
  undisturbed_call (Toml.plain_lawful content config) (d := (false, content)) rfl rfl load_content
    (textOf_bytesOf content) parse_content rfl rfl (by simp [config]) fresh_seed

end OneUser

end WsNet.Gateway
