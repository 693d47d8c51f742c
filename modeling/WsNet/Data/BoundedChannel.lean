import Mathlib.Data.List.Nodup

/-! Bounded channels.

A channel has a permit for each item it can hold. A sender takes a permit and
then puts its item under it; the item keeps the permit until it is received. A
sender that finds no permit waits, and a permit that becomes free goes to the
sender that has waited longest. So senders wait only while every permit is taken:
that, and the bound, are part of the channel. -/
namespace WsNet.Data

@[ext]
structure BoundedChannel (capacity : Nat) (α ω : Type*) where
  items : List α
  /-- Senders with a permit that have not put their item. -/
  granted : List ω
  /-- Senders without a permit, the longest wait first. -/
  waiting : List ω
  bounded : items.length + granted.length ≤ capacity
  taken : waiting ≠ [] → items.length + granted.length = capacity
  deriving DecidableEq

namespace BoundedChannel
variable {capacity : Nat} {α ω : Type*}

def empty : BoundedChannel capacity α ω where
  items := []
  granted := []
  waiting := []
  bounded := Nat.zero_le _
  taken h := absurd rfl h

/-- Every permit is taken. -/
def Full (c : BoundedChannel capacity α ω) : Prop := c.items.length + c.granted.length = capacity

instance (c : BoundedChannel capacity α ω) : Decidable c.Full := inferInstanceAs (Decidable (_ = _))

theorem lt_of_not_full {c : BoundedChannel capacity α ω} (h : ¬ c.Full) :
    c.items.length + c.granted.length < capacity := by
  have hb := c.bounded
  unfold Full at h
  omega

theorem waiting_of_not_full {c : BoundedChannel capacity α ω} (h : ¬ c.Full) : c.waiting = [] := by
  by_contra hw
  exact h (c.taken hw)

/-- A sender asks for a permit: it gets one, or waits. -/
def request (w : ω) (c : BoundedChannel capacity α ω) : BoundedChannel capacity α ω :=
  if h : c.Full then
    { c with waiting := c.waiting ++ [w], taken := fun _ => h }
  else
    { c with
      granted := c.granted ++ [w]
      bounded := by
        have hlt := lt_of_not_full h
        rw [List.length_append, List.length_singleton]
        omega
      taken := fun hw => absurd (waiting_of_not_full h) hw }

/-- A sender that holds a permit puts its item. -/
def put [DecidableEq ω] (w : ω) (a : α) (c : BoundedChannel capacity α ω) :
    Option (BoundedChannel capacity α ω) :=
  if h : w ∈ c.granted then
    have hlen : (c.items ++ [a]).length + (c.granted.erase w).length =
        c.items.length + c.granted.length := by
      have hpos := List.length_pos_of_mem h
      rw [List.length_append, List.length_singleton, List.length_erase_of_mem h]
      omega
    some { c with
      items := c.items ++ [a]
      granted := c.granted.erase w
      bounded := hlen ▸ c.bounded
      taken := fun hw => hlen ▸ c.taken hw }
  else none

/-- A sender that does not wait: without a permit the item is not sent. -/
def trySend (a : α) (c : BoundedChannel capacity α ω) : Option (BoundedChannel capacity α ω) :=
  if h : c.Full then none
  else
    some { c with
      items := c.items ++ [a]
      bounded := by
        have hlt := lt_of_not_full h
        rw [List.length_append, List.length_singleton]
        omega
      taken := fun hw => absurd (waiting_of_not_full h) hw }

/-- A permit is free again: the longest wait ends. -/
def free (items : List α) (granted : List ω) (waiting : List ω)
    (bounded : items.length + granted.length + 1 ≤ capacity)
    (taken : waiting ≠ [] → items.length + granted.length + 1 = capacity) :
    BoundedChannel capacity α ω :=
  match waiting, taken with
  | [], _ => ⟨items, granted, [], by omega, fun h => absurd rfl h⟩
  | w :: waiting, taken =>
    have hlen : items.length + (granted ++ [w]).length = capacity := by
      have h := taken (List.cons_ne_nil _ _)
      rw [List.length_append, List.length_singleton]
      omega
    ⟨items, granted ++ [w], waiting, by omega, fun _ => hlen⟩

/-- The next item, with the channel after it. -/
def recv (c : BoundedChannel capacity α ω) : Option (α × BoundedChannel capacity α ω) :=
  match h : c.items with
  | [] => none
  | a :: items =>
    some (a, free items c.granted c.waiting
      (by
        have hb := c.bounded
        rw [h, List.length_cons] at hb
        omega)
      (by
        intro hw
        have ht := c.taken hw
        rw [h, List.length_cons] at ht
        omega))

/-- A sender gives up: its wait ends, or its permit is free again. -/
def withdraw [DecidableEq ω] (w : ω) (c : BoundedChannel capacity α ω) : BoundedChannel capacity α ω :=
  if h : w ∈ c.granted then
    have hlen : (c.granted.erase w).length + 1 = c.granted.length := by
      have hpos := List.length_pos_of_mem h
      rw [List.length_erase_of_mem h]
      omega
    free c.items (c.granted.erase w) c.waiting
      (by
        have hb := c.bounded
        omega)
      (by
        intro hw
        have ht := c.taken hw
        omega)
  else
    { c with
      waiting := c.waiting.erase w
      taken := fun hw => c.taken (fun hnil => hw (by rw [hnil, List.erase_nil])) }

/-! ### What each operation does -/

theorem request_of_full {w : ω} {c : BoundedChannel capacity α ω} (h : c.Full) :
    (c.request w).items = c.items ∧ (c.request w).granted = c.granted ∧
      (c.request w).waiting = c.waiting ++ [w] := by
  unfold request
  rw [dif_pos h]
  exact ⟨rfl, rfl, rfl⟩

theorem request_of_not_full {w : ω} {c : BoundedChannel capacity α ω} (h : ¬ c.Full) :
    (c.request w).items = c.items ∧ (c.request w).granted = c.granted ++ [w] ∧
      (c.request w).waiting = c.waiting := by
  unfold request
  rw [dif_neg h]
  exact ⟨rfl, rfl, rfl⟩

@[simp] theorem request_items (w : ω) (c : BoundedChannel capacity α ω) :
    (c.request w).items = c.items := by
  unfold request
  split <;> rfl

theorem put_eq_some [DecidableEq ω] {w : ω} {a : α} {c d : BoundedChannel capacity α ω}
    (h : c.put w a = some d) :
    w ∈ c.granted ∧ d.items = c.items ++ [a] ∧ d.granted = c.granted.erase w ∧
      d.waiting = c.waiting := by
  unfold put at h
  split at h
  · rename_i hw
    cases h
    exact ⟨hw, rfl, rfl, rfl⟩
  · cases h

theorem put_isSome [DecidableEq ω] {w : ω} {a : α} {c : BoundedChannel capacity α ω}
    (h : w ∈ c.granted) : ∃ d, c.put w a = some d := by
  unfold put
  rw [dif_pos h]
  exact ⟨_, rfl⟩

theorem trySend_eq_some {a : α} {c d : BoundedChannel capacity α ω} (h : c.trySend a = some d) :
    ¬ c.Full ∧ d.items = c.items ++ [a] ∧ d.granted = c.granted ∧ d.waiting = c.waiting := by
  unfold trySend at h
  split at h
  · cases h
  · rename_i hf
    cases h
    exact ⟨hf, rfl, rfl, rfl⟩

theorem trySend_eq_none {a : α} {c : BoundedChannel capacity α ω} :
    c.trySend a = none ↔ c.Full := by
  unfold trySend
  split
  · rename_i h
    exact ⟨fun _ => h, fun _ => rfl⟩
  · rename_i h
    exact ⟨nofun, fun hf => absurd hf h⟩

theorem free_items (items : List α) (granted waiting : List ω) (hb) (ht) :
    (free items granted waiting hb ht : BoundedChannel capacity α ω).items = items := by
  unfold free
  split <;> rfl

/-- The freed permit goes to the first that waits. -/
theorem free_queue (items : List α) (granted waiting : List ω) (hb) (ht) :
    (free items granted waiting hb ht : BoundedChannel capacity α ω).granted =
        granted ++ waiting.take 1 ∧
      (free items granted waiting hb ht : BoundedChannel capacity α ω).waiting = waiting.drop 1 := by
  unfold free
  split
  · exact ⟨by rw [List.take_nil, List.append_nil], rfl⟩
  · exact ⟨rfl, rfl⟩

theorem recv_eq_some {a : α} {c d : BoundedChannel capacity α ω} (h : c.recv = some (a, d)) :
    c.items = a :: d.items ∧ d.granted = c.granted ++ c.waiting.take 1 ∧
      d.waiting = c.waiting.drop 1 := by
  unfold recv at h
  split at h
  · cases h
  · rename_i b items hi
    cases h
    rw [free_items]
    exact ⟨hi, free_queue ..⟩

theorem recv_eq_none {c : BoundedChannel capacity α ω} : c.recv = none ↔ c.items = [] := by
  unfold recv
  split
  · rename_i h
    exact ⟨fun _ => h, fun _ => rfl⟩
  · rename_i h
    exact ⟨nofun, fun hi => nomatch h.symm.trans hi⟩

@[simp] theorem withdraw_items [DecidableEq ω] (w : ω) (c : BoundedChannel capacity α ω) :
    (c.withdraw w).items = c.items := by
  unfold withdraw
  split
  · exact free_items ..
  · rfl

/-- Without a permit, giving up changes who waits and nothing else. -/
theorem withdraw_of_not_granted [DecidableEq ω] {w : ω} {c : BoundedChannel capacity α ω}
    (h : w ∉ c.granted) :
    (c.withdraw w).granted = c.granted ∧ (c.withdraw w).waiting = c.waiting.erase w := by
  unfold withdraw
  rw [dif_neg h]
  exact ⟨rfl, rfl⟩

theorem withdraw_of_granted [DecidableEq ω] {w : ω} {c : BoundedChannel capacity α ω}
    (h : w ∈ c.granted) :
    (c.withdraw w).granted = c.granted.erase w ++ c.waiting.take 1 ∧
      (c.withdraw w).waiting = c.waiting.drop 1 := by
  unfold withdraw
  rw [dif_pos h]
  exact free_queue ..

/-- Giving up takes no permit. -/
theorem not_full_withdraw [DecidableEq ω] {w : ω} {c : BoundedChannel capacity α ω} (h : ¬ c.Full) :
    ¬ (c.withdraw w).Full := by
  have hlt := lt_of_not_full h
  have hwaiting := waiting_of_not_full h
  unfold Full
  rw [withdraw_items]
  by_cases hg : w ∈ c.granted
  · rw [(withdraw_of_granted hg).1, hwaiting, List.take_nil, List.append_nil, List.length_erase_of_mem hg]
    omega
  · rw [(withdraw_of_not_granted hg).1]
    omega

/-! ### Who is sending -/

/-- The senders that have asked and not put, in the order of their requests. -/
def senders (c : BoundedChannel capacity α ω) : List ω := c.granted ++ c.waiting

theorem mem_senders {w : ω} {c : BoundedChannel capacity α ω} :
    w ∈ c.senders ↔ w ∈ c.granted ∨ w ∈ c.waiting := List.mem_append

@[simp] theorem senders_empty : (empty : BoundedChannel capacity α ω).senders = [] := rfl

@[simp] theorem senders_request (w : ω) (c : BoundedChannel capacity α ω) :
    (c.request w).senders = c.senders ++ [w] := by
  unfold senders
  by_cases h : c.Full
  · obtain ⟨_, hg, hw⟩ := request_of_full (w := w) h
    rw [hg, hw, List.append_assoc]
  · obtain ⟨_, hg, hw⟩ := request_of_not_full (w := w) h
    rw [hg, hw, waiting_of_not_full h, List.append_nil, List.append_nil]

theorem senders_trySend {a : α} {c d : BoundedChannel capacity α ω} (h : c.trySend a = some d) :
    d.senders = c.senders := by
  obtain ⟨_, _, hg, hw⟩ := trySend_eq_some h
  rw [senders, hg, hw, senders]

theorem senders_recv {a : α} {c d : BoundedChannel capacity α ω} (h : c.recv = some (a, d)) :
    d.senders = c.senders := by
  obtain ⟨_, hg, hw⟩ := recv_eq_some h
  rw [senders, hg, hw, List.append_assoc, List.take_append_drop, senders]

/-- A sender that waits alone waits for a full channel: what is received next gives it
the permit. -/
theorem recv_of_alone {w : ω} {c : BoundedChannel capacity α ω} (hcapacity : 0 < capacity)
    (hsenders : c.senders = [w]) (hw : w ∈ c.waiting) :
    ∃ a d, c.recv = some (a, d) ∧ w ∈ d.granted := by
  have hne := List.ne_nil_of_mem hw
  have hgranted : c.granted = [] :=
    ((List.append_eq_singleton_iff.mp hsenders).resolve_right fun h => hne h.2).1
  have hwaiting : c.waiting = [w] := by
    rw [senders, hgranted, List.nil_append] at hsenders
    exact hsenders
  have hfull := c.taken hne
  rw [hgranted, List.length_nil, Nat.add_zero] at hfull
  cases hrecv : c.recv with
  | none =>
    rw [recv_eq_none.mp hrecv, List.length_nil] at hfull
    omega
  | some r =>
    obtain ⟨a, d⟩ := r
    refine ⟨a, d, rfl, ?_⟩
    rw [(recv_eq_some hrecv).2.1, hwaiting]
    exact List.mem_append_right _ (List.mem_singleton_self w)

section Withdrawal
variable [DecidableEq ω]

theorem senders_put {w : ω} {a : α} {c d : BoundedChannel capacity α ω} (h : c.put w a = some d) :
    d.senders = c.senders.erase w := by
  obtain ⟨hmem, _, hg, hw⟩ := put_eq_some h
  rw [senders, hg, hw, senders, List.erase_append_left _ hmem]

@[simp] theorem senders_withdraw (w : ω) (c : BoundedChannel capacity α ω) :
    (c.withdraw w).senders = c.senders.erase w := by
  unfold senders
  by_cases h : w ∈ c.granted
  · obtain ⟨hg, hw⟩ := withdraw_of_granted h
    rw [hg, hw, List.append_assoc, List.take_append_drop, List.erase_append_left _ h]
  · obtain ⟨hg, hw⟩ := withdraw_of_not_granted h
    rw [hg, hw, List.erase_append_right _ h]

/-! ### What one sender can do -/

/-- From one channel to another by what one sender does; it asks only when it has not
asked yet. -/
inductive Acts (w : ω) : BoundedChannel capacity α ω → BoundedChannel capacity α ω → Prop where
  | refl (c : BoundedChannel capacity α ω) : Acts w c c
  | trySend {c d e : BoundedChannel capacity α ω} {a : α} :
      Acts w c d → d.trySend a = some e → Acts w c e
  | request {c d : BoundedChannel capacity α ω} : Acts w c d → w ∉ d.senders → Acts w c (d.request w)
  | put {c d e : BoundedChannel capacity α ω} {a : α} : Acts w c d → d.put w a = some e → Acts w c e
  | withdraw {c d : BoundedChannel capacity α ω} : Acts w c d → Acts w c (d.withdraw w)

variable {w : ω} {c d e : BoundedChannel capacity α ω}

theorem Acts.trans (h : Acts w c d) (h' : Acts w d e) : Acts w c e := by
  induction h' with
  | refl => exact h
  | trySend _ hs ih => exact .trySend ih hs
  | request _ hw ih => exact .request ih hw
  | put _ hs ih => exact .put ih hs
  | withdraw _ ih => exact .withdraw ih

/-- The other senders stay. -/
theorem Acts.mem_senders_of_ne (h : Acts w c d) {v : ω} (hv : v ≠ w) :
    v ∈ d.senders ↔ v ∈ c.senders := by
  induction h with
  | refl => exact Iff.rfl
  | trySend _ hs ih => rw [senders_trySend hs, ih]
  | request _ _ ih => simp [ih, hv]
  | put _ hs ih => rw [senders_put hs, List.mem_erase_of_ne hv, ih]
  | withdraw _ ih => rw [senders_withdraw, List.mem_erase_of_ne hv, ih]

theorem Acts.nodup (h : Acts w c d) (hc : c.senders.Nodup) : d.senders.Nodup := by
  induction h with
  | refl => exact hc
  | trySend _ hs ih => exact senders_trySend hs ▸ ih
  | request _ hw ih =>
    rw [senders_request, List.nodup_append]
    refine ⟨ih, List.nodup_singleton _, fun a ha b hb hab => hw ?_⟩
    rw [List.mem_singleton] at hb
    exact hb ▸ hab ▸ ha
  | put _ hs ih => exact senders_put hs ▸ ih.erase _
  | withdraw _ ih =>
    rw [senders_withdraw]
    exact ih.erase _

/-- No other sender starts to wait. -/
theorem Acts.mem_waiting_of_ne (h : Acts w c d) {v : ω} (hv : v ≠ w) (hd : v ∈ d.waiting) :
    v ∈ c.waiting := by
  induction h with
  | refl => exact hd
  | trySend _ hs ih => exact ih ((trySend_eq_some hs).2.2.2 ▸ hd)
  | @request d _ _ ih =>
    by_cases hf : d.Full
    · rw [(request_of_full hf).2.2, List.mem_append, List.mem_singleton] at hd
      exact ih (hd.resolve_right hv)
    · exact ih ((request_of_not_full (w := w) hf).2.2 ▸ hd)
  | put _ hs ih => exact ih ((put_eq_some hs).2.2.2 ▸ hd)
  | @withdraw d _ ih =>
    by_cases hg : w ∈ d.granted
    · rw [(withdraw_of_granted hg).2] at hd
      exact ih (List.mem_of_mem_drop hd)
    · rw [(withdraw_of_not_granted hg).2] at hd
      exact ih (List.mem_of_mem_erase hd)

/-- **Waiting does not help.** With every permit under an item, no sender can get one:
only a receiver frees a permit. -/
theorem Acts.stuck (h : Acts w c d) (hf : c.Full) (hg : c.granted = []) :
    d.Full ∧ d.granted = [] := by
  induction h with
  | refl => exact ⟨hf, hg⟩
  | trySend _ hs ih => exact absurd ih.1 (trySend_eq_some hs).1
  | request _ _ ih =>
    obtain ⟨hi, hgr, _⟩ := request_of_full (w := w) ih.1
    refine ⟨?_, hgr.trans ih.2⟩
    rw [Full, hi, hgr]
    exact ih.1
  | put _ hs ih =>
    have hmem := (put_eq_some hs).1
    rw [ih.2] at hmem
    cases hmem
  | @withdraw d _ ih =>
    have hn : w ∉ d.granted := by
      rw [ih.2]
      exact List.not_mem_nil
    refine ⟨?_, (withdraw_of_not_granted hn).1.trans ih.2⟩
    rw [Full, withdraw_items, (withdraw_of_not_granted hn).1]
    exact ih.1

end Withdrawal

end BoundedChannel

end WsNet.Data
