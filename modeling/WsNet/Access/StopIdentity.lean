import WsNet.Access.Identity

/-! A blocked identity stays closed.

The error is set and the connections are opened behind one lock, so no connection
opens once the error is there, and nothing clears it. The connections that were open
before are in the identity's list, which the call that set the error goes through.
A step is said by what it leaves the other connections with (`Ordinary`); the
invariant asks something of a task only where it holds the lock, goes through the
list or has ended (`PhaseInv`). -/
namespace WsNet.Access
open Transition

namespace Client

/-! ### What a step leaves to the others -/

/-- A step of the task of `c`, as the others see it. -/
structure Ordinary (c : Nat) (s t : Client) : Prop where
  created : t.created = s.created
  lists : ∀ k, (t.identities k).connections = (s.identities k).connections
  identity : ∀ d, (t.connections d).identity = (s.connections d).identity
  dropped : ∀ d, (t.connections d).dropped = (s.connections d).dropped
  phase : ∀ d, d ≠ c → t.phase d = s.phase d
  blocked : ∀ k, (s.identities k).blocked.isSome = true → (t.identities k).blocked.isSome = true
  closed : ∀ d, (t.connections d).closed = false →
    (s.connections d).closed = false ∨ (d = c ∧ (s.identityOf d).blocked = none)
  held : ∀ d, d ≠ c → (s.identityOf d).holder = some d →
    (t.identityOf d).holder = some d ∧ (t.identityOf d).blocked = (s.identityOf d).blocked

namespace Ordinary
variable {c : Nat} {s t u : Client}

theorem refl (c : Nat) (s : Client) : Ordinary c s s :=
  ⟨rfl, fun _ => rfl, fun _ => rfl, fun _ => rfl, fun _ _ => rfl, fun _ h => h, fun _ h => .inl h,
    fun _ _ h => ⟨h, rfl⟩⟩

theorem trans (h : Ordinary c s t) (h' : Ordinary c t u) : Ordinary c s u where
  created := h'.created.trans h.created
  lists k := (h'.lists k).trans (h.lists k)
  identity d := (h'.identity d).trans (h.identity d)
  dropped d := (h'.dropped d).trans (h.dropped d)
  phase d hd := (h'.phase d hd).trans (h.phase d hd)
  blocked k hk := h'.blocked k (h.blocked k hk)
  closed d hd := by
    rcases h'.closed d hd with hopen | ⟨hown, hnone⟩
    · exact h.closed d hopen
    · -- without an error later, without an error before
      refine .inr ⟨hown, ?_⟩
      by_contra hsome
      have hlater := h.blocked _ (Option.isSome_iff_ne_none.mpr hsome)
      simp only [identityOf, h.identity d] at hnone
      rw [hnone] at hlater
      exact Bool.false_ne_true hlater
  held d hd hheld := by
    obtain ⟨hholder, hblocked⟩ := h.held d hd hheld
    obtain ⟨hholder', hblocked'⟩ := h'.held d hd hholder
    exact ⟨hholder', hblocked'.trans hblocked⟩

/-- One connection's record changes, but not its identity, `closed` and `dropped`. -/
theorem setConnection {x : ClientConnection} (d : Nat) (hid : x.identity = (s.connections d).identity)
    (hdropped : x.dropped = (s.connections d).dropped)
    (hclosed : x.closed = false →
      (s.connections d).closed = false ∨ (d = c ∧ (s.identityOf d).blocked = none))
    (hphase : d ≠ c → x.phase = s.phase d) : Ordinary c s (s.setConnection d x) := by
  have hcases : ∀ e, (s.setConnection d x).connections e = if e = d then x else s.connections e := by
    intro e
    exact Function.update_apply _ _ _ _
  have hsame : ∀ e, ((s.setConnection d x).connections e).identity = (s.connections e).identity := by
    intro e
    rw [hcases]
    split
    · rename_i he
      rw [he, hid]
    · rfl
  refine ⟨rfl, fun _ => rfl, hsame, ?_, ?_, fun _ h => h, ?_, ?_⟩
  · intro e
    rw [hcases]
    split
    · rename_i he
      rw [he, hdropped]
    · rfl
  · intro e he
    simp only [Client.phase, hcases]
    split
    · rename_i hed
      subst hed
      exact hphase he
    · rfl
  · intro e he
    rw [hcases] at he
    split at he
    · rename_i hed
      rw [hed]
      exact hclosed he
    · exact .inl he
  · intro e _ hheld
    have hidentity : (s.setConnection d x).identityOf e = s.identityOf e := by
      simp only [identityOf, hsame]
      rfl
    rw [hidentity]
    exact ⟨hheld, rfl⟩

theorem setPhase (p : RunPhase) : Ordinary c s (s.setPhase c p) :=
  .setConnection c rfl rfl .inl (fun h => absurd rfl h)

theorem setReconnect (d : Nat) (requested : Bool) : Ordinary c s (s.setReconnect d requested) :=
  .setConnection d rfl rfl .inl fun _ => rfl

theorem setStopped (d : Nat) : Ordinary c s (s.setStopped d) :=
  .setConnection d rfl rfl .inl fun _ => rfl

theorem setClosed (d : Nat) : Ordinary c s (s.setClosed d true) :=
  .setConnection d rfl rfl (fun h => nomatch h) fun _ => rfl

/-- A connection opens where its identity has no error. -/
theorem setOpen (h : (s.identityOf c).blocked = none) : Ordinary c s (s.setClosed c false) :=
  .setConnection c rfl rfl (fun _ => .inr ⟨rfl, h⟩) fun _ => rfl

/-- The identity's record changes while no other task holds its lock. -/
theorem setIdentity {i : AccessIdentity}
    (hlists : i.connections = (s.identityOf c).connections)
    (hblocked : (s.identityOf c).blocked.isSome = true → i.blocked.isSome = true)
    (hheld : ∀ d, d ≠ c → (s.identityOf c).holder ≠ some d) :
    Ordinary c s (s.setIdentity (s.connections c).identity i) := by
  have hcases : ∀ k, (s.setIdentity (s.connections c).identity i).identities k =
      if k = (s.connections c).identity then i else s.identities k := by
    intro k
    exact Function.update_apply _ _ _ _
  refine ⟨rfl, ?_, fun _ => rfl, fun _ => rfl, fun _ _ => rfl, ?_, fun _ h => .inl h, ?_⟩
  · intro k
    rw [hcases]
    split
    · rename_i hk
      rw [hlists, hk]
      rfl
    · rfl
  · intro k hk
    rw [hcases]
    split
    · rename_i heq
      rw [heq] at hk
      exact hblocked hk
    · exact hk
  · intro d hd hholder
    have hother : (s.connections d).identity ≠ (s.connections c).identity := by
      intro heq
      apply hheld d hd
      rw [← hholder, identityOf, identityOf, heq]
    have hidentity : (s.setIdentity (s.connections c).identity i).identityOf d = s.identityOf d := by
      rw [identityOf, hcases]
      exact if_neg hother
    rw [hidentity]
    exact ⟨hholder, rfl⟩

theorem setHolder {holder : Option Nat} (hheld : ∀ d, d ≠ c → (s.identityOf c).holder ≠ some d) :
    Ordinary c s (s.setHolder c holder) :=
  .setIdentity rfl id hheld

end Ordinary

/-! ### The invariant -/

/-- The connections of the identity of `c` that may be open are among those listed. -/
structure Pending (s : Client) (c : Nat) (rest : List Nat) : Prop where
  open_mem : ∀ d, d < s.created → (s.connections d).identity = (s.connections c).identity →
    (s.connections d).closed = false → d ∈ rest
  own : ∀ d ∈ rest, d < s.created ∧ (s.connections d).identity = (s.connections c).identity

/-- What holds where the task of `c` stands. -/
def PhaseInv (s : Client) (c : Nat) : RunPhase → Prop
  | .guarded | .opening => (s.identityOf c).holder = some c ∧ (s.identityOf c).blocked = none
  | .opened => (s.identityOf c).holder = some c
  | .stopping _ _ .snapshot => (s.identityOf c).blocked.isSome = true
  | .stopping _ _ (.next rest) => (s.identityOf c).blocked.isSome = true ∧ Pending s c rest
  | .stopping _ _ (.marked d rest) => (s.identityOf c).blocked.isSome = true ∧ Pending s c (d :: rest)
  | .gone => (s.connections c).closed = true
  | _ => True

structure Inv (s : Client) : Prop where
  fresh : ∀ d, s.created ≤ d → s.phase d = .gone
  listed : ∀ k d, d ∈ (s.identities k).connections → d < s.created ∧ (s.connections d).identity = k
  alive : ∀ d, d < s.created → (s.connections d).dropped = false →
    d ∈ (s.identityOf d).connections
  dropped : ∀ d, (s.connections d).dropped = true → s.phase d = .gone
  phase : ∀ d, PhaseInv s d (s.phase d)

theorem Ordinary.identityOf_blocked {c d : Nat} {s t : Client} (h : Ordinary c s t)
    (hd : (s.identityOf d).blocked.isSome = true) : (t.identityOf d).blocked.isSome = true := by
  rw [identityOf, h.identity d]
  exact h.blocked _ hd

theorem Pending.ordinary {s t : Client} {c d : Nat} {rest : List Nat} (h : Pending s d rest)
    (hb : (s.identityOf d).blocked.isSome = true) (ho : Ordinary c s t) : Pending t d rest := by
  constructor
  · intro e he hid hopen
    rw [ho.identity, ho.identity] at hid
    rw [ho.created] at he
    rcases ho.closed e hopen with hopen | ⟨_, hnone⟩
    · exact h.open_mem e he hid hopen
    · rw [identityOf, hid] at hnone
      rw [identityOf, hnone] at hb
      nomatch hb
  · intro e he
    rw [ho.identity, ho.identity, ho.created]
    exact h.own e he

/-- What a phase reads of a state: whose the lock is, whether there is an error, what may be
open, and whether its own connection is closed. -/
theorem PhaseInv.transfer {s t : Client} {c : Nat} {p : RunPhase} (h : PhaseInv s c p)
    (hheld : (s.identityOf c).holder = some c → (t.identityOf c).holder = some c ∧
      (t.identityOf c).blocked = (s.identityOf c).blocked)
    (hblocked : (s.identityOf c).blocked.isSome = true → (t.identityOf c).blocked.isSome = true)
    (hpending : ∀ {rest}, (s.identityOf c).blocked.isSome = true → Pending s c rest → Pending t c rest)
    (hclosed : (s.connections c).closed = true → (t.connections c).closed = true) : PhaseInv t c p := by
  cases p with
  | guarded | opening =>
    obtain ⟨hholder, hsame⟩ := hheld h.1
    exact ⟨hholder, hsame.trans h.2⟩
  | opened => exact (hheld h).1
  | stopping error inSession stage =>
    cases stage with
    | snapshot => exact hblocked h
    | next rest => exact ⟨hblocked h.1, hpending h.1 h.2⟩
    | marked e rest => exact ⟨hblocked h.1, hpending h.1 h.2⟩
  | gone => exact hclosed h
  | _ => trivial

/-- A step of another task keeps what holds where a task stands. -/
theorem PhaseInv.ordinary {s t : Client} {c d : Nat} {p : RunPhase} (h : PhaseInv s d p) (hd : d ≠ c)
    (ho : Ordinary c s t) : PhaseInv t d p := by
  refine h.transfer (ho.held d hd) ho.identityOf_blocked (fun hb hp => hp.ordinary hb ho) fun hclosed => ?_
  by_contra hopen
  rcases ho.closed d (Bool.eq_false_iff.mpr hopen) with hopen | ⟨hown, _⟩
  · rw [hclosed] at hopen
    nomatch hopen
  · exact hd hown

/-! ### Steps of a task -/

section Steps
variable {c : Nat} {s t u : Client}

@[simp] theorem setPhase_phase (p : RunPhase) (s : Client) : (s.setPhase c p).phase c = p := by
  simp [phase, setPhase, setConnection]

theorem setPhase_connections (p : RunPhase) (s : Client) (d : Nat) :
    ((s.setPhase c p).connections d).identity = (s.connections d).identity ∧
      ((s.setPhase c p).connections d).closed = (s.connections d).closed := by
  by_cases hd : d = c
  · subst hd
    simp [setPhase, setConnection]
  · simp [setPhase, setConnection, hd]

/-- `PhaseInv` reads the identities, and which connections are closed. -/
theorem PhaseInv.congr {p : RunPhase} (h : PhaseInv s c p) (hi : t.identities = s.identities)
    (hn : t.created = s.created) (hd : ∀ d, (t.connections d).identity = (s.connections d).identity ∧
      (t.connections d).closed = (s.connections d).closed) : PhaseInv t c p := by
  have hpending : ∀ {rest}, Pending s c rest → Pending t c rest := by
    intro rest h
    refine ⟨fun d hlt hid hopen => h.open_mem d (hn ▸ hlt) ?_ ?_, fun d hmem => ?_⟩
    · rw [← (hd d).1, ← (hd c).1]
      exact hid
    · rw [← (hd d).2]
      exact hopen
    · rw [hn, (hd d).1, (hd c).1]
      exact h.own d hmem
  have hidentity : t.identityOf c = s.identityOf c := by
    rw [identityOf, identityOf, hi, (hd c).1]
  refine h.transfer (fun hholder => ?_) (fun hb => ?_) (fun _ => hpending) (hd c).2.trans
  · rw [hidentity]
    exact ⟨hholder, rfl⟩
  · rw [hidentity]
    exact hb

/-- A step that leaves the others alone keeps the invariant, if it leaves its own task
where something holds. -/
theorem Inv.ordinary (h : Inv s) (ho : Ordinary c s t) (hphase : s.phase c ≠ .gone)
    (hc : PhaseInv t c (t.phase c)) : Inv t := by
  refine ⟨?_, ?_, ?_, ?_, ?_⟩
  · intro d hd
    rw [ho.created] at hd
    have hgone := h.fresh d hd
    by_cases hdc : d = c
    · exact absurd (hdc ▸ hgone) hphase
    · rw [ho.phase d hdc, hgone]
  · intro k d hd
    rw [ho.lists] at hd
    rw [ho.created, ho.identity]
    exact h.listed k d hd
  · intro d hd halive
    rw [ho.created] at hd
    rw [ho.dropped] at halive
    rw [identityOf, ho.identity, ho.lists]
    exact h.alive d hd halive
  · intro d hd
    rw [ho.dropped] at hd
    have hgone := h.dropped d hd
    by_cases hdc : d = c
    · exact absurd (hdc ▸ hgone) hphase
    · rw [ho.phase d hdc, hgone]
  · intro d
    by_cases hdc : d = c
    · subst hdc
      exact hc
    · rw [ho.phase d hdc]
      exact (h.phase d).ordinary hdc ho

/-- A step that is no task's keeps the invariant. -/
theorem Inv.undisturbed (h : Inv s) (ho : ∀ c, Ordinary c s t) : Inv t := by
  have hphase : ∀ d, t.phase d = s.phase d := fun d => (ho (d + 1)).phase d (by omega)
  refine ⟨?_, ?_, ?_, ?_, ?_⟩
  · intro d hd
    rw [(ho d).created] at hd
    rw [hphase, h.fresh d hd]
  · intro k d hd
    rw [(ho d).lists] at hd
    rw [(ho d).created, (ho d).identity]
    exact h.listed k d hd
  · intro d hd halive
    rw [(ho d).created] at hd
    rw [(ho d).dropped] at halive
    rw [identityOf, (ho d).identity, (ho d).lists]
    exact h.alive d hd halive
  · intro d hd
    rw [(ho d).dropped] at hd
    rw [hphase, h.dropped d hd]
  · intro d
    rw [hphase]
    exact (h.phase d).ordinary (by omega) (ho (d + 1))

/-- A task that goes on from `u` to a phase where something holds there. -/
theorem Inv.move (h : Inv s) (ho : Ordinary c s u) (hphase : s.phase c ≠ .gone) {p : RunPhase}
    (hc : PhaseInv u c p) : Inv (u.setPhase c p) ∧ Ordinary c s (u.setPhase c p) := by
  have hall : Ordinary c s (u.setPhase c p) := ho.trans (.setPhase p)
  refine ⟨h.ordinary hall hphase ?_, hall⟩
  rw [setPhase_phase]
  exact hc.congr rfl rfl (setPhase_connections p u)

/-- A phase that asks for nothing. -/
theorem Inv.pass (h : Inv s) (hphase : s.phase c ≠ .gone) {p : RunPhase} (hc : PhaseInv s c p) :
    Inv (s.setPhase c p) ∧ Ordinary c s (s.setPhase c p) :=
  h.move (.refl c s) hphase hc

theorem phaseInv_afterStop (error : GatewayError) (inSession : Bool) :
    PhaseInv s c (afterStop error inSession) := by
  cases inSession <;> trivial

theorem ne_gone_of_inSession {p : RunPhase} (h : inSession p = true) : p ≠ .gone := by
  intro hp
  rw [hp] at h
  nomatch h

theorem ne_gone_of_stopCall {p : RunPhase} {call : GatewayError × Bool} (h : stopCall p = some call) :
    p ≠ .gone := by
  intro hp
  rw [hp] at h
  nomatch h

/-! The steps that change no more than where the task stands. -/

theorem inv_check (h : Inv s) (hs : s.check c = some t) : Inv t ∧ Ordinary c s t := by
  unfold check at hs
  split at hs
  · rename_i hphase
    cases hs
    refine h.pass (by simp [hphase]) ?_
    split <;> trivial
  · nomatch hs

theorem inv_readError (h : Inv s) (hs : s.readError c = some t) : Inv t ∧ Ordinary c s t := by
  unfold readError at hs
  split at hs
  · rename_i hphase _
    cases hs
    refine h.pass (by simp [hphase]) ?_
    split <;> trivial
  · nomatch hs

theorem inv_cancelled (h : Inv s) (hs : s.cancelled c = some t) : Inv t ∧ Ordinary c s t := by
  unfold cancelled at hs
  split at hs
  · rename_i hphase _ _
    cases hs
    exact h.pass (ne_gone_of_inSession hphase) trivial
  · nomatch hs

theorem inv_observeStopped (h : Inv s) (hs : s.observeStopped c = some t) :
    Inv t ∧ Ordinary c s t := by
  unfold observeStopped at hs
  split at hs
  · rename_i hphase
    cases hs
    exact h.pass (ne_gone_of_inSession hphase.1) trivial
  · nomatch hs

theorem inv_endSession {result : Except Error Unit} (h : Inv s) (hs : s.endSession c result = some t) :
    Inv t ∧ Ordinary c s t := by
  unfold endSession at hs
  split at hs
  · rename_i hphase
    cases hs
    exact h.pass (ne_gone_of_inSession hphase) trivial
  · nomatch hs

theorem inv_kick {error : GatewayError} (h : Inv s) (hs : s.kick c error = some t) :
    Inv t ∧ Ordinary c s t := by
  unfold kick at hs
  split at hs
  · rename_i hphase
    cases hs
    exact h.pass (by simp [hphase.1]) trivial
  · nomatch hs

theorem inv_settle (h : Inv s) (hs : s.settle c = some t) : Inv t ∧ Ordinary c s t := by
  unfold settle at hs
  split at hs
  · rename_i hphase
    split at hs
    · cases hs
      exact h.pass (by simp [hphase]) trivial
    · nomatch hs
  · nomatch hs

theorem inv_recheck (h : Inv s) (hs : s.recheck c = some t) : Inv t ∧ Ordinary c s t := by
  unfold recheck at hs
  split at hs
  · rename_i hphase
    cases hs
    refine h.pass (by simp [hphase]) ?_
    split <;> trivial
  · nomatch hs

theorem inv_reread (h : Inv s) (hs : s.reread c = some t) : Inv t ∧ Ordinary c s t := by
  unfold reread at hs
  split at hs
  · rename_i hphase _
    cases hs
    refine h.pass (by simp [hphase]) ?_
    split <;> trivial
  · nomatch hs

theorem inv_swap (h : Inv s) (hs : s.swap c = some t) : Inv t ∧ Ordinary c s t := by
  unfold swap at hs
  split at hs
  · rename_i hphase
    cases hs
    refine h.move (.setReconnect c false) (by simp [hphase]) ?_
    split <;> trivial
  · nomatch hs

theorem inv_wake (h : Inv s) (hs : s.wake c = some t) : Inv t ∧ Ordinary c s t := by
  unfold wake at hs
  split at hs
  · rename_i hphase
    cases hs
    exact h.pass (by simp [hphase]) trivial
  · nomatch hs

theorem inv_notified (h : Inv s) (hs : s.notified c = some t) : Inv t ∧ Ordinary c s t := by
  unfold notified at hs
  split at hs
  · rename_i hphase
    cases hs
    exact h.move (.setReconnect c false) (by simp [hphase]) trivial
  · nomatch hs

theorem inv_giveUp (h : Inv s) (hs : s.giveUp c = some t) : Inv t ∧ Ordinary c s t := by
  unfold giveUp at hs
  split at hs
  · rename_i hphase _ _
    cases hs
    exact h.pass (by simp [hphase]) trivial
  · nomatch hs

theorem inv_stopReturn (h : Inv s) (hs : s.stopReturn c = some t) : Inv t ∧ Ordinary c s t := by
  unfold stopReturn at hs
  split at hs
  · rename_i hphase
    cases hs
    exact h.pass (by simp [hphase]) (phaseInv_afterStop _ _)
  · nomatch hs

/-! The open transition. -/

@[simp] theorem setHolder_identityOf (holder : Option Nat) (s : Client) :
    (s.setHolder c holder).identityOf c = { s.identityOf c with holder } := by
  simp [setHolder, setIdentity, identityOf]

theorem inv_enter (h : Inv s) (hs : s.enter c = some t) : Inv t ∧ Ordinary c s t := by
  unfold enter at hs
  split at hs
  · rename_i hphase hfree
    split at hs
    · cases hs
      exact h.pass (by simp [hphase]) trivial
    · rename_i hblocked
      cases hs
      have ho : Ordinary c s (s.setHolder c (some c)) := .setHolder fun d _ => by simp [hfree]
      exact h.move ho (by simp [hphase]) ⟨by simp, by simpa using hblocked⟩
  · nomatch hs

theorem inv_loadStopped (h : Inv s) (hs : s.loadStopped c = some t) : Inv t ∧ Ordinary c s t := by
  unfold loadStopped at hs
  split at hs
  · rename_i hphase
    have hguarded := h.phase c
    rw [hphase] at hguarded
    split at hs
    · cases hs
      have ho : Ordinary c s (s.setHolder c none) := by
        refine .setHolder fun d hd => ?_
        rw [hguarded.1]
        exact fun heq => hd (Option.some.inj heq).symm
      exact h.move ho (by simp [hphase]) trivial
    · cases hs
      exact h.pass (by simp [hphase]) hguarded
  · nomatch hs

theorem setConnection_identityOf {x : ClientConnection} (d : Nat)
    (hid : x.identity = (s.connections d).identity) (e : Nat) :
    (s.setConnection d x).identityOf e = s.identityOf e := by
  by_cases hed : e = d
  · subst hed
    simp [identityOf, setConnection, hid]
  · simp [identityOf, setConnection, hed]

@[simp] theorem setClosed_identityOf (d : Nat) (closed : Bool) (s : Client) (e : Nat) :
    (s.setClosed d closed).identityOf e = s.identityOf e := by
  unfold setClosed
  exact setConnection_identityOf d (by rfl) e

@[simp] theorem setReconnect_identityOf (d : Nat) (requested : Bool) (s : Client) (e : Nat) :
    (s.setReconnect d requested).identityOf e = s.identityOf e := by
  unfold setReconnect
  exact setConnection_identityOf d (by rfl) e

theorem inv_storeOpen (h : Inv s) (hs : s.storeOpen c = some t) : Inv t ∧ Ordinary c s t := by
  unfold storeOpen at hs
  split at hs
  · rename_i hphase
    have hopening := h.phase c
    rw [hphase] at hopening
    cases hs
    refine h.move (.setOpen hopening.2) (by simp [hphase]) ?_
    show ((s.setClosed c false).identityOf c).holder = some c
    rw [setClosed_identityOf]
    exact hopening.1
  · nomatch hs

theorem inv_release (h : Inv s) (hs : s.release c = some t) : Inv t ∧ Ordinary c s t := by
  unfold release at hs
  split at hs
  · rename_i hphase
    have hopened := h.phase c
    rw [hphase] at hopened
    cases hs
    have ho : Ordinary c (s.setReconnect c false) ((s.setReconnect c false).setHolder c none) := by
      refine .setHolder fun d hd => ?_
      rw [setReconnect_identityOf, show (s.identityOf c).holder = some c from hopened]
      exact fun heq => hd (Option.some.inj heq).symm
    exact h.move (.trans (.setReconnect c false) ho) (by simp [hphase]) trivial
  · nomatch hs

/-! A terminal error. -/

theorem inv_block (h : Inv s) (hs : s.block c = some t) : Inv t ∧ Ordinary c s t := by
  unfold block at hs
  split at hs
  · rename_i hcall hfree
    split at hs
    · cases hs
      exact h.pass (ne_gone_of_stopCall hcall) (phaseInv_afterStop _ _)
    · rename_i error inSession _
      cases hs
      have ho : Ordinary c s (s.setIdentity (s.connections c).identity
          { s.identityOf c with blocked := some error }) :=
        .setIdentity rfl (fun _ => rfl) fun d _ => by simp [hfree]
      refine h.move ho (ne_gone_of_stopCall hcall) ?_
      simp [PhaseInv, setIdentity, identityOf]
  · nomatch hs

/-- Behind the error, what may be open is in the list. -/
theorem inv_snapshot (h : Inv s) (hs : s.snapshot c = some t) : Inv t ∧ Ordinary c s t := by
  unfold snapshot at hs
  split at hs
  · rename_i hphase
    have hblocked := h.phase c
    rw [hphase] at hblocked
    cases hs
    refine h.pass (by simp [hphase]) ⟨hblocked, ?_, ?_⟩
    · intro d hd hid hopen
      have halive : (s.connections d).dropped = false := by
        by_contra hdropped
        have hgone := h.phase d
        rw [h.dropped d (Bool.not_eq_false _ ▸ hdropped)] at hgone
        rw [show (s.connections d).closed = true from hgone] at hopen
        nomatch hopen
      have hlisted := h.alive d hd halive
      rw [identityOf, hid] at hlisted
      exact List.mem_filter.mpr ⟨hlisted, by simp [halive]⟩
    · intro d hd
      exact h.listed _ d (List.mem_of_mem_filter hd)
  · nomatch hs

theorem inv_mark (h : Inv s) (hs : s.mark c = some t) : Inv t ∧ Ordinary c s t := by
  unfold mark at hs
  split at hs
  · rename_i d rest hphase
    have hnext := h.phase c
    rw [hphase] at hnext
    cases hs
    have ho : Ordinary (c + 1) s (s.setStopped d) := .setStopped d
    refine h.move (.setStopped d) (by simp [hphase]) ⟨?_, hnext.2.ordinary hnext.1 ho⟩
    exact ho.identityOf_blocked hnext.1
  · nomatch hs

theorem inv_shut (h : Inv s) (hs : s.shut c = some t) : Inv t ∧ Ordinary c s t := by
  unfold shut at hs
  split at hs
  · rename_i d rest hphase
    have hmarked := h.phase c
    rw [hphase] at hmarked
    cases hs
    have ho : Ordinary (c + 1) s (s.setClosed d true) := .setClosed d
    have hpending := hmarked.2.ordinary hmarked.1 ho
    refine h.move (.setClosed d) (by simp [hphase]) ⟨ho.identityOf_blocked hmarked.1, ?_, ?_⟩
    · intro e he hid hopen
      rcases List.mem_cons.mp (hpending.open_mem e he hid hopen) with rfl | hrest
      · -- it has just been closed
        simp [setClosed, setConnection] at hopen
      · exact hrest
    · exact fun e he => hpending.own e (List.mem_cons_of_mem _ he)
  · nomatch hs

/-! The ends. -/

theorem inv_close (h : Inv s) (hs : s.close c = some t) : Inv t ∧ Ordinary c s t := by
  unfold close at hs
  split at hs
  · rename_i hphase
    cases hs
    exact h.move (.setClosed c) (by simp [hphase]) trivial
  · nomatch hs

theorem inv_leave (h : Inv s) (hs : s.leave c = some t) : Inv t ∧ Ordinary c s t := by
  unfold leave at hs
  split at hs
  · rename_i hphase
    cases hs
    refine h.move (.setClosed c) (by simp [hphase]) ?_
    simp [PhaseInv, setClosed, setConnection]
  · nomatch hs

/-- Every step of a task, but for the drop of its connection. -/
theorem inv_run {op : RunOp} (h : Inv s) (hop : op ≠ .drop) (hs : run c op s = some t) :
    Inv t ∧ Ordinary c s t := by
  cases op with
  | check => exact inv_check h hs
  | readError => exact inv_readError h hs
  | cancelled => exact inv_cancelled h hs
  | observeStopped => exact inv_observeStopped h hs
  | endSession result => exact inv_endSession h hs
  | enter => exact inv_enter h hs
  | loadStopped => exact inv_loadStopped h hs
  | storeOpen => exact inv_storeOpen h hs
  | release => exact inv_release h hs
  | kick error => exact inv_kick h hs
  | block => exact inv_block h hs
  | snapshot => exact inv_snapshot h hs
  | mark => exact inv_mark h hs
  | shut => exact inv_shut h hs
  | stopReturn => exact inv_stopReturn h hs
  | settle => exact inv_settle h hs
  | close => exact inv_close h hs
  | recheck => exact inv_recheck h hs
  | reread => exact inv_reread h hs
  | swap => exact inv_swap h hs
  | wake => exact inv_wake h hs
  | notified => exact inv_notified h hs
  | giveUp => exact inv_giveUp h hs
  | leave => exact inv_leave h hs
  | drop => exact absurd rfl hop

theorem inv_drop (h : Inv s) (hs : s.drop c = some t) :
    Inv t ∧ t.identities = s.identities ∧ ∀ d, (t.connections d).identity = (s.connections d).identity ∧
      (t.connections d).closed = (s.connections d).closed := by
  unfold drop at hs
  split at hs
  · rename_i hgone
    cases hs
    have hcases : ∀ d, (s.setConnection c { s.connections c with dropped := true }).connections d =
        if d = c then { s.connections c with dropped := true } else s.connections d :=
      fun d => Function.update_apply _ _ _ _
    have hsame : ∀ d, ((s.setConnection c { s.connections c with dropped := true }).connections d).identity =
          (s.connections d).identity ∧
        ((s.setConnection c { s.connections c with dropped := true }).connections d).closed =
          (s.connections d).closed := by
      intro d
      rw [hcases]
      split
      · rename_i hd
        rw [hd]
        exact ⟨rfl, rfl⟩
      · exact ⟨rfl, rfl⟩
    have hphase : ∀ d, (s.setConnection c { s.connections c with dropped := true }).phase d = s.phase d := by
      intro d
      simp only [phase, hcases]
      split
      · rename_i hd
        rw [hd]
      · rfl
    refine ⟨⟨?_, ?_, ?_, ?_, ?_⟩, rfl, hsame⟩
    · exact fun d hd => (hphase d).trans (h.fresh d hd)
    · intro k d hd
      rw [(hsame d).1]
      exact h.listed k d hd
    · intro d hd halive
      rw [hcases] at halive
      split at halive
      · nomatch halive
      · rw [identityOf, (hsame d).1]
        exact h.alive d hd halive
    · intro d hd
      rw [hphase]
      rw [hcases] at hd
      split at hd
      · rename_i hdc
        rw [hdc, hgone]
      · exact h.dropped d hd
    · intro d
      rw [hphase]
      exact (h.phase d).congr rfl rfl hsame
  · nomatch hs

end Steps

/-! ### A new connection -/

/-- What a new connection leaves as it was; it is closed. -/
structure Started (s t : Client) : Prop where
  created : t.created = s.created + 1
  others : ∀ d, d ≠ s.created → t.connections d = s.connections d
  closed : (t.connections s.created).closed = true
  head : t.phase s.created = .head
  alive : (t.connections s.created).dropped = false
  blocked : ∀ k, (t.identities k).blocked = (s.identities k).blocked
  holder : ∀ k, (t.identities k).holder = (s.identities k).holder
  mem : ∀ k d, d ∈ (t.identities k).connections ↔
    (d ∈ (s.identities k).connections ∧
        (k = (t.connections s.created).identity → (s.connections d).dropped = false)) ∨
      (d = s.created ∧ k = (t.connections s.created).identity)

theorem start_started [Ring] [UrlParser] {serverUrl token : String} {userToken : Option String}
    {s t : Client} (hs : s.start serverUrl token userToken = some t) : Started s t := by
  unfold start at hs
  split at hs
  · nomatch hs
  · rename_i key _
    cases hs
    refine ⟨rfl, fun d hd => ?_, ?_, ?_, ?_, fun k => ?_, fun k => ?_, fun k d => ?_⟩
    · simp [setConnection, hd]
    · simp [setConnection]
    · simp [phase, setConnection]
    · simp [setConnection]
    · by_cases hk : k = key
      · simp [hk]
      · simp [hk]
    · by_cases hk : k = key
      · simp [hk]
      · simp [hk]
    · by_cases hk : k = key
      · subst hk
        simp [setConnection]
      · simp [setConnection, hk]

/-- The new connection is not among those that may be open. -/
theorem Started.pending {s t : Client} (hs : Started s t) {d : Nat} {rest : List Nat} (hd : d ≠ s.created)
    (hp : Pending s d rest) : Pending t d rest := by
  constructor
  · intro e he hid hopen
    by_cases hec : e = s.created
    · rw [hec, hs.closed] at hopen
      nomatch hopen
    · rw [hs.others e hec, hs.others d hd] at hid
      rw [hs.others e hec] at hopen
      rw [hs.created] at he
      exact hp.open_mem e (by omega) hid hopen
  · intro e he
    obtain ⟨hlt, hid⟩ := hp.own e he
    rw [hs.others e (by omega), hs.others d hd, hs.created]
    exact ⟨by omega, hid⟩

theorem inv_started {s t : Client} (h : Inv s) (hs : Started s t) : Inv t := by
  have hidentity : ∀ d, d ≠ s.created → t.identityOf d = t.identities (s.connections d).identity := by
    intro d hd
    rw [identityOf, hs.others d hd]
  have hphase : ∀ d, d ≠ s.created → t.phase d = s.phase d := by
    intro d hd
    rw [phase, phase, hs.others d hd]
  refine ⟨?_, ?_, ?_, ?_, ?_⟩
  · intro d hd
    rw [hs.created] at hd
    rw [hphase d (by omega), h.fresh d (by omega)]
  · intro k d hd
    rw [hs.created]
    rcases (hs.mem k d).mp hd with ⟨hold, _⟩ | ⟨rfl, hk⟩
    · obtain ⟨hlt, hid⟩ := h.listed k d hold
      rw [hs.others d (by omega)]
      exact ⟨by omega, hid⟩
    · exact ⟨by omega, hk.symm⟩
  · intro d hd halive
    rw [hs.created] at hd
    by_cases hdc : d = s.created
    · rw [hdc]
      exact (hs.mem _ _).mpr (.inr ⟨rfl, rfl⟩)
    · rw [hs.others d hdc] at halive
      rw [hidentity d hdc]
      exact (hs.mem _ _).mpr (.inl ⟨h.alive d (by omega) halive, fun _ => halive⟩)
  · intro d hd
    by_cases hdc : d = s.created
    · rw [hdc, hs.alive] at hd
      nomatch hd
    · rw [hs.others d hdc] at hd
      rw [hphase d hdc, h.dropped d hd]
  · intro d
    by_cases hdc : d = s.created
    · rw [hdc, hs.head]
      trivial
    · rw [hphase d hdc]
      have hblocked : (t.identityOf d).blocked = (s.identityOf d).blocked := by
        rw [hidentity d hdc, hs.blocked]
        rfl
      have hholder : (t.identityOf d).holder = (s.identityOf d).holder := by
        rw [hidentity d hdc, hs.holder]
        rfl
      refine (h.phase d).transfer (fun hd => ⟨hholder.trans hd, hblocked⟩) (fun hd => ?_) (fun _ hp => ?_)
        fun hd => ?_
      · rw [hblocked]
        exact hd
      · exact hs.pending hdc hp
      · rw [hs.others d hdc]
        exact hd

end Client

/-! ### Runs -/

section Runs
variable [Ring] [UrlParser]
open Client

/-- What a step is: of a task, of nobody's task, or a new connection. -/
theorem client_cases {op : ClientOp} {s t : Client} (h : Inv s) (hs : client.step op s = some t) :
    Inv t ∧ ((∃ c, Ordinary c s t) ∨ Started s t ∨ (t.identities = s.identities ∧
      ∀ d, (t.connections d).identity = (s.connections d).identity ∧
        (t.connections d).closed = (s.connections d).closed)) := by
  cases op with
  | start serverUrl token userToken =>
    have hstarted := start_started hs
    exact ⟨inv_started h hstarted, .inr (.inl hstarted)⟩
  | run c op =>
    by_cases hop : op = .drop
    · subst hop
      obtain ⟨hi, hidentities, hsame⟩ := inv_drop h hs
      exact ⟨hi, .inr (.inr ⟨hidentities, hsame⟩)⟩
    · obtain ⟨hi, ho⟩ := inv_run h hop hs
      exact ⟨hi, .inl ⟨c, ho⟩⟩
  | reloadStop d =>
    simp only [client, reloadStop] at hs
    split at hs
    · cases hs
      have ho : ∀ c, Ordinary c s (s.setStopped d) := fun c => .setStopped d
      exact ⟨h.undisturbed ho, .inl ⟨d, ho d⟩⟩
    · nomatch hs
  | reloadClose d =>
    simp only [client, reloadClose] at hs
    split at hs
    · cases hs
      have ho : ∀ c, Ordinary c s (s.setClosed d true) := fun c => .setClosed d
      exact ⟨h.undisturbed ho, .inl ⟨d, ho d⟩⟩
    · nomatch hs
  | requestReconnect d =>
    simp only [client, requestReconnect] at hs
    split at hs
    · cases hs
      have ho : ∀ c, Ordinary c s (s.setReconnect d true) := fun c => .setReconnect d true
      exact ⟨h.undisturbed ho, .inl ⟨d, ho d⟩⟩
    · nomatch hs

theorem inv_reachable {s : Client} (h : client.Reachable s) : Inv s := by
  apply Machine.ReachableUnder.invariant _ _ h
  · intro s hs
    subst hs
    exact ⟨fun _ _ => rfl, nofun, nofun, fun _ _ => rfl, fun _ => rfl⟩
  · exact fun _ _ _ _ hi _ hs => (client_cases hi hs).1

/-- The identity is blocked and has no open connection. -/
def Gone (k : IdentityKey) (s : Client) : Prop :=
  (s.identities k).blocked.isSome = true ∧
    ∀ d, (s.connections d).identity = k → (s.connections d).closed = true

theorem gone_step {k : IdentityKey} {op : ClientOp} {s t : Client} (h : Inv s) (hg : Gone k s)
    (hs : client.step op s = some t) : Gone k t := by
  rcases (client_cases h hs).2 with ⟨c, ho⟩ | hstarted | ⟨hidentities, hsame⟩
  · refine ⟨ho.blocked k hg.1, fun d hd => ?_⟩
    rw [ho.identity] at hd
    by_contra hopen
    rcases ho.closed d (Bool.eq_false_iff.mpr hopen) with hopen | ⟨_, hnone⟩
    · rw [hg.2 d hd] at hopen
      nomatch hopen
    · have hblocked := hg.1
      rw [← hd] at hblocked
      rw [identityOf] at hnone
      rw [hnone] at hblocked
      nomatch hblocked
  · refine ⟨by rw [hstarted.blocked]; exact hg.1, fun d hd => ?_⟩
    by_cases hdc : d = s.created
    · rw [hdc, hstarted.closed]
    · rw [hstarted.others d hdc] at hd ⊢
      exact hg.2 d hd
  · refine ⟨by rw [hidentities]; exact hg.1, fun d hd => ?_⟩
    rw [(hsame d).1] at hd
    rw [(hsame d).2]
    exact hg.2 d hd

/-- The steps of `stop_identity`. -/
def RunOp.stops : RunOp → Bool
  | .block | .snapshot | .mark | .shut | .stopReturn => true
  | _ => false

omit [Ring] [UrlParser] in
/-- `stop_identity` touches its own identity and that identity's connections. -/
theorem stop_frame {c : Nat} {op : RunOp} {s t : Client} (h : Inv s) (hop : op.stops = true)
    (hs : Client.run c op s = some t) :
    (∀ k, k ≠ (s.connections c).identity → t.identities k = s.identities k) ∧
    ∀ d, (s.connections d).identity ≠ (s.connections c).identity → t.connections d = s.connections d := by
  have hown : ∀ {d}, (s.connections d).identity ≠ (s.connections c).identity → d ≠ c :=
    fun hd hdc => hd (by rw [hdc])
  have hinv := h.phase c
  cases op with
  | block =>
    simp only [Client.run, Client.block] at hs
    split at hs
    · split at hs
      · cases hs
        exact ⟨fun _ _ => rfl, fun d hd => Function.update_of_ne (hown hd) _ _⟩
      · cases hs
        exact ⟨fun k hk => Function.update_of_ne hk _ _, fun d hd => Function.update_of_ne (hown hd) _ _⟩
    · nomatch hs
  | snapshot =>
    simp only [Client.run, Client.snapshot] at hs
    split at hs
    · cases hs
      exact ⟨fun _ _ => rfl, fun d hd => Function.update_of_ne (hown hd) _ _⟩
    · nomatch hs
  | mark =>
    simp only [Client.run, Client.mark] at hs
    split at hs
    · rename_i e rest hphase
      rw [hphase] at hinv
      cases hs
      refine ⟨fun _ _ => rfl, fun d hd => ?_⟩
      have hde : d ≠ e := fun hde => hd (hde ▸ (hinv.2.own e List.mem_cons_self).2)
      exact (Function.update_of_ne (hown hd) _ _).trans (Function.update_of_ne hde _ _)
    · nomatch hs
  | shut =>
    simp only [Client.run, Client.shut] at hs
    split at hs
    · rename_i e rest hphase
      rw [hphase] at hinv
      cases hs
      refine ⟨fun _ _ => rfl, fun d hd => ?_⟩
      have hde : d ≠ e := fun hde => hd (hde ▸ (hinv.2.own e List.mem_cons_self).2)
      exact (Function.update_of_ne (hown hd) _ _).trans (Function.update_of_ne hde _ _)
    · nomatch hs
  | stopReturn =>
    simp only [Client.run, Client.stopReturn] at hs
    split at hs
    · cases hs
      exact ⟨fun _ _ => rfl, fun d hd => Function.update_of_ne (hown hd) _ _⟩
    · nomatch hs
  | _ => nomatch hop

/-- **A blocked identity stays closed.** Once a `stop_identity` that set the error has
returned, no connection of its identity, there already or created later, is open in
any later state; and no step of a `stop_identity` changes another identity or a
connection of one. -/
theorem stop_identity_final {s : Client} (h : client.Reachable s) (c : Nat) :
    (∀ t u, client.step (.run c .stopReturn) s = some t → client.Steps t u →
      ∀ d, (u.connections d).identity = (s.connections c).identity →
        (u.connections d).closed = true) ∧
    ∀ op t, RunOp.stops op = true → client.step (.run c op) s = some t →
      (∀ k, k ≠ (s.connections c).identity → t.identities k = s.identities k) ∧
      ∀ d, (s.connections d).identity ≠ (s.connections c).identity →
        t.connections d = s.connections d := by
  have hi := inv_reachable h
  refine ⟨fun t u hreturn hsteps => ?_, fun op t hop hs => stop_frame hi hop hs⟩
  have hgone : Gone (s.connections c).identity s := by
    have hphase := hi.phase c
    simp only [client, Client.run, Client.stopReturn] at hreturn
    split at hreturn
    · rename_i heq
      rw [heq] at hphase
      refine ⟨hphase.1, fun d hd => ?_⟩
      by_contra hopen
      have hlt : d < s.created := by
        by_contra hge
        have hclosed := hi.phase d
        rw [hi.fresh d (Nat.le_of_not_lt hge)] at hclosed
        exact hopen hclosed
      exact List.not_mem_nil (hphase.2.open_mem d hlt hd (Bool.eq_false_iff.mpr hopen))
    · nomatch hreturn
  have hkept : Inv u ∧ Gone (s.connections c).identity u := by
    apply hsteps.preserves (P := fun v => Inv v ∧ Gone (s.connections c).identity v)
    · exact fun op v w hv _ hs => ⟨(client_cases hv.1 hs).1, gone_step hv.1 hv.2 hs⟩
    · exact ⟨(client_cases hi hreturn).1, gone_step hi hgone hreturn⟩
  exact hkept.2.2

end Runs

/-! ### Two connections, kicked out -/

section Example

local instance clientRing : Ring := .free
local instance clientUrls : UrlParser := .plain

/-- Both connections open; the first is told of a takeover and stops both. -/
def kickedOut : List ClientOp :=
  [.start "ws://gateway/tunnel" "token" none, .start "ws://gateway/tunnel" "token" none] ++
  ([0, 1].flatMap fun c =>
    [RunOp.check, .readError, .enter, .loadStopped, .storeOpen, .release].map (.run c)) ++
  [RunOp.kick .replaced, .block, .snapshot, .mark, .shut, .mark, .shut].map (.run 0)

def kickedClient : Client := (client.run kickedOut {}).getD {}

/-- After the return, a reload starts a third connection. -/
def restarted : Client :=
  (client.run [.run 0 .stopReturn, .start "ws://gateway/tunnel" "token" none, .run 2 .check,
    .run 2 .readError] kickedClient).getD kickedClient

theorem stop_identity_final_restarted :
    (kickedClient.connections 1).closed = true ∧ (restarted.connections 2).closed = true := by
  have hreach : client.Reachable kickedClient := Machine.reachable_getD rfl (by decide +kernel)
  have hrun : (client.run [.run 0 .stopReturn, .start "ws://gateway/tunnel" "token" none, .run 2 .check,
    .run 2 .readError] kickedClient).isSome = true := by decide +kernel
  have hidentity : (restarted.connections 2).identity = (kickedClient.connections 0).identity := by
    decide +kernel
  obtain ⟨u, hu⟩ := Option.isSome_iff_exists.mp hrun
  have hlast : restarted = u := by
    rw [restarted, hu, Option.getD_some]
  rw [Machine.run, Machine.runUnder, if_pos (show Machine.anyStep _ _ from trivial)] at hu
  obtain ⟨t, ht, hrest⟩ := Option.bind_eq_some_iff.mp hu
  refine ⟨by decide +kernel, ?_⟩
  rw [hlast] at hidentity ⊢
  exact (stop_identity_final hreach 0).1 t u ht (Machine.stepsUnder_of_run _ _ _ hrest) 2 hidentity

end Example

end WsNet.Access
