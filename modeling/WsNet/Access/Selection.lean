import Mathlib.Data.List.Rotate
import WsNet.Access.Routing

/-! The choice of a connection.

The loop goes once around the pool and keeps the best connection so far. What it
keeps is the best of what it has seen, the earliest among equals (`Leads`); a
round keeps that (`Chosen.consider`), and so does the loop. -/
namespace WsNet.Access

/-- Not closed, and its queue has a receiver. -/
def ConnectionView.IsOpen (v : ConnectionView) : Prop :=
  v.connection.closed = false ∧ v.outboundClosed = false

instance (v : ConnectionView) : Decidable v.IsOpen := inferInstanceAs (Decidable (_ ∧ _))

def ConnectionView.load (v : ConnectionView) : Nat := connectionLoad v.connection

/-- Less load, or as much and more room. -/
def ConnectionView.Better (v w : ConnectionView) : Prop :=
  v.load < w.load ∨ v.load = w.load ∧ w.capacity < v.capacity

namespace ConnectionView

theorem Better.trans {u v w : ConnectionView} (h : u.Better v) (h' : v.Better w) : u.Better w := by
  unfold Better at *
  omega

theorem Better.of_not_better {u v w : ConnectionView} (h : u.Better v) (h' : ¬ w.Better v) :
    u.Better w := by
  unfold Better at *
  omega

theorem Better.asymm {v w : ConnectionView} (h : v.Better w) : ¬ w.Better v := by
  unfold Better at *
  omega

theorem not_better {v w : ConnectionView} :
    ¬ w.Better v ↔ v.load ≤ w.load ∧ (w.load = v.load → w.capacity ≤ v.capacity) := by
  unfold Better
  omega

end ConnectionView

section Loop
variable {κ : Type} (view : κ → ConnectionView)

/-- An open connection of the list that none of the list betters, and that betters
the open ones in front of it. -/
def Leads (c : κ) (seen : List κ) : Prop :=
  (view c).IsOpen ∧ ∃ before after, seen = before ++ c :: after ∧
    (∀ d ∈ before, (view d).IsOpen → (view c).Better (view d)) ∧
    ∀ d ∈ after, (view d).IsOpen → ¬ (view d).Better (view c)

/-- What the loop has after the connections that it has seen. -/
structure Chosen (seen : List κ) (b : Best κ) : Prop where
  none_open : b.best = none → ∀ c ∈ seen, ¬ (view c).IsOpen
  leads : ∀ c, b.best = some c →
    Leads view c seen ∧ b.load = (view c).load ∧ b.capacity = (view c).capacity

variable {view}

/-- The one that leads stays in front of a connection that does not better it. -/
theorem Leads.stays {c d : κ} {seen : List κ} (h : Leads view c seen)
    (hd : (view d).IsOpen → ¬ (view d).Better (view c)) : Leads view c (seen ++ [d]) := by
  obtain ⟨hopen, before, after, rfl, hbefore, hafter⟩ := h
  refine ⟨hopen, before, after ++ [d], by simp, hbefore, ?_⟩
  intro e he
  rcases List.mem_append.mp he with he | he
  · exact hafter e he
  · rw [List.mem_singleton.mp he]
    exact hd

/-- A connection that betters the one that leads betters all. -/
theorem Leads.overtaken {c d : κ} {seen : List κ} (h : Leads view c seen) (hopen : (view d).IsOpen)
    (hd : (view d).Better (view c)) : Leads view d (seen ++ [d]) := by
  obtain ⟨_, before, after, rfl, hbefore, hafter⟩ := h
  refine ⟨hopen, before ++ c :: after, [], rfl, ?_, by simp⟩
  intro e he heopen
  rcases List.mem_append.mp he with he | he
  · exact hd.trans (hbefore e he heopen)
  rcases List.mem_cons.mp he with rfl | he
  · exact hd
  · exact hd.of_not_better (hafter e he heopen)

theorem Leads.first {d : κ} {seen : List κ} (hopen : (view d).IsOpen)
    (hnone : ∀ c ∈ seen, ¬ (view c).IsOpen) : Leads view d (seen ++ [d]) :=
  ⟨hopen, seen, [], rfl, fun c hc h => absurd h (hnone c hc), by simp⟩

theorem consider_closed {b : Best κ} {d : κ} (h : ¬ (view d).IsOpen) : b.consider view d = b := if_neg h

theorem consider_takes {b : Best κ} {d : κ} (hopen : (view d).IsOpen)
    (h : b.best.isNone = true ∨ (view d).load < b.load ∨
      (view d).load = b.load ∧ b.capacity < (view d).capacity) :
    b.consider view d = ⟨some d, (view d).load, (view d).capacity⟩ :=
  (if_pos hopen).trans (if_pos h)

theorem consider_keeps {b : Best κ} {d : κ} (hopen : (view d).IsOpen)
    (h : ¬ (b.best.isNone = true ∨ (view d).load < b.load ∨
      (view d).load = b.load ∧ b.capacity < (view d).capacity)) : b.consider view d = b :=
  (if_pos hopen).trans (if_neg h)

/-- **A round.** The connection is taken when it is open and nothing was chosen, or
when it is open and betters what was. -/
theorem Chosen.consider {seen : List κ} {b : Best κ} (h : Chosen view seen b) (d : κ) :
    Chosen view (seen ++ [d]) (b.consider view d) := by
  by_cases hopen : (view d).IsOpen
  · cases hbest : b.best with
    | none =>
      rw [consider_takes hopen (.inl (by rw [hbest]; rfl))]
      refine ⟨by simp, ?_⟩
      intro c hc
      cases hc
      exact ⟨Leads.first hopen (h.none_open hbest), rfl, rfl⟩
    | some c =>
      obtain ⟨hleads, hload, hcapacity⟩ := h.leads c hbest
      by_cases hbetter : (view d).Better (view c)
      · rw [consider_takes hopen (by rw [hload, hcapacity]; exact .inr hbetter)]
        refine ⟨by simp, ?_⟩
        intro e he
        cases he
        exact ⟨hleads.overtaken hopen hbetter, rfl, rfl⟩
      · have hnot : ¬ (b.best.isNone = true ∨ (view d).load < b.load ∨
            (view d).load = b.load ∧ b.capacity < (view d).capacity) := by
          rw [hbest, hload, hcapacity]
          rintro (hnone | hless)
          · cases hnone
          · exact hbetter hless
        rw [consider_keeps hopen hnot]
        refine ⟨by simp [hbest], ?_⟩
        intro e he
        rw [hbest] at he
        cases he
        exact ⟨hleads.stays fun _ => hbetter, hload, hcapacity⟩
  · rw [consider_closed hopen]
    refine ⟨?_, ?_⟩
    · intro hnone c hc
      rcases List.mem_append.mp hc with hc | hc
      · exact h.none_open hnone c hc
      · rw [List.mem_singleton.mp hc]
        exact hopen
    · intro c hc
      obtain ⟨hleads, hrest⟩ := h.leads c hc
      exact ⟨hleads.stays fun hd => absurd hd hopen, hrest⟩

theorem Chosen.foldl {seen : List κ} {b : Best κ} (h : Chosen view seen b) (rounds : List κ) :
    Chosen view (seen ++ rounds) (rounds.foldl (Best.consider view) b) := by
  induction rounds generalizing seen b with
  | nil => simpa using h
  | cons d rounds ih =>
    have hstep := ih (h.consider d)
    rwa [List.append_assoc, List.singleton_append] at hstep

theorem Chosen.start : Chosen view [] ({} : Best κ) :=
  ⟨fun _ _ hc => (by cases hc), fun _ hc => (by cases hc)⟩

end Loop

namespace GatewayConnectionPool

variable {κ : Type} {view : κ → ConnectionView} {pool : GatewayConnectionPool κ}

/-- The connections in the order in which the loop reads them. -/
def examined (pool : GatewayConnectionPool κ) : List κ :=
  (List.range pool.connections.length).map fun offset =>
    pool.connectionAt ((pool.next + offset) % usizeValues)

/-- As long as the counter does not wrap inside the loop, it goes around the pool. -/
theorem examined_eq_rotate (h : pool.next + pool.connections.length < usizeValues) :
    pool.examined = pool.connections.rotate pool.next := by
  apply List.ext_getElem
  · simp [examined]
  · intro offset hoffset _
    have hlt : offset < pool.connections.length := by simpa [examined] using hoffset
    rw [List.getElem_rotate]
    simp only [examined, List.getElem_map, List.getElem_range, connectionAt, List.get_eq_getElem]
    have hindex : (pool.next + offset) % usizeValues = offset + pool.next := by
      rw [Nat.mod_eq_of_lt (by omega), Nat.add_comm]
    simp only [hindex]

theorem nextConnection_chosen (view : κ → ConnectionView) (pool : GatewayConnectionPool κ) :
    ∃ b, Chosen view pool.examined b ∧
      (pool.nextConnection view).1 = b.best.getD (pool.connectionAt pool.next) :=
  ⟨_, Chosen.start.foldl pool.examined, rfl⟩

/-- **The choice.** Every connection is examined once, in the order of the rotation.
An open one is returned when there is one: none has less load, none of its load has
more room, and the ones in front of it that are open are worse. -/
theorem nextConnection_best (view : κ → ConnectionView) (pool : GatewayConnectionPool κ)
    (hstart : pool.next + pool.connections.length ≤ usizeValues - 1) :
    pool.examined = pool.connections.rotate pool.next ∧ pool.examined.Perm pool.connections ∧
    ((∃ c ∈ pool.connections, (view c).IsOpen) →
      ∃ before after, pool.examined = before ++ (pool.nextConnection view).1 :: after ∧
        (view (pool.nextConnection view).1).IsOpen ∧
        (∀ d ∈ pool.connections, (view d).IsOpen →
          (view (pool.nextConnection view).1).load ≤ (view d).load ∧
          ((view d).load = (view (pool.nextConnection view).1).load →
            (view d).capacity ≤ (view (pool.nextConnection view).1).capacity)) ∧
        ∀ d ∈ before, (view d).IsOpen →
          ¬ ((view d).load = (view (pool.nextConnection view).1).load ∧
            (view d).capacity = (view (pool.nextConnection view).1).capacity)) ∧
    ((∀ c ∈ pool.connections, ¬ (view c).IsOpen) →
      (pool.nextConnection view).1 = pool.connectionAt pool.next) := by
  have hrotate : pool.examined = pool.connections.rotate pool.next :=
    examined_eq_rotate (by unfold usizeValues at *; omega)
  have hperm : pool.examined.Perm pool.connections := by
    rw [hrotate]
    exact List.rotate_perm _ _
  obtain ⟨b, hchosen, hresult⟩ := nextConnection_chosen view pool
  refine ⟨hrotate, hperm, ?_, ?_⟩
  · rintro ⟨c, hc, hopen⟩
    cases hbest : b.best with
    | none => exact absurd hopen (hchosen.none_open hbest c (hperm.mem_iff.mpr hc))
    | some best =>
      rw [hbest, Option.getD_some] at hresult
      obtain ⟨⟨hbestOpen, before, after, hsplit, hbefore, hafter⟩, _⟩ := hchosen.leads best hbest
      rw [hresult]
      refine ⟨before, after, hsplit, hbestOpen, ?_, ?_⟩
      · intro d hd hdopen
        have hmem : d ∈ before ++ best :: after := hsplit ▸ hperm.mem_iff.mpr hd
        apply ConnectionView.not_better.mp
        rcases List.mem_append.mp hmem with hd | hd
        · exact (hbefore d hd hdopen).asymm
        rcases List.mem_cons.mp hd with rfl | hd
        · unfold ConnectionView.Better
          omega
        · exact hafter d hd hdopen
      · rintro d hd hdopen ⟨hload, hcapacity⟩
        have hbetter := hbefore d hd hdopen
        unfold ConnectionView.Better at hbetter
        omega
  · intro hnone
    cases hbest : b.best with
    | none => rw [hresult, hbest, Option.getD_none]
    | some best =>
      obtain ⟨⟨hopen, before, after, hsplit, _⟩, _⟩ := hchosen.leads best hbest
      have hmem : best ∈ pool.examined := by
        rw [hsplit]
        exact List.mem_append_right _ List.mem_cons_self
      exact absurd hopen (hnone best (hperm.mem_iff.mp hmem))

/-- Of two idle connections with the same room, the one after the closed one. -/
def threeConnections : GatewayConnectionPool (Fin 3) :=
  { gatewayName := "main", serverUrl := "wss://gateway", connections := [0, 1, 2], next := 4,
    nonempty := by simp }

def threeViews (i : Fin 3) : ConnectionView :=
  { connection := { closed := i = 1 }, outboundClosed := false, capacity := 256 }

theorem nextConnection_best_three :
    threeConnections.examined = [1, 2, 0] ∧ (threeConnections.nextConnection threeViews).1 = 2 := by
  have h := nextConnection_best threeViews threeConnections (by decide)
  exact ⟨h.1, by decide⟩

end GatewayConnectionPool

end WsNet.Access
