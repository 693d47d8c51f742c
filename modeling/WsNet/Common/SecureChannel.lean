import WsNet.Common.TunnelCrypto
import WsNet.Transition.Machine
import Mathlib.Data.List.Infix

/-! Two ends of a tunnel over a network that does as it pleases.

Each end has a cipher of the same keys. An end encrypts what it likes; an end is
given any bytes at all to decrypt, which covers a network that drops, replays,
reorders, cuts, extends, alters or reflects what it sees. Seals under other keys
are anybody's.

`received_in_order`: what an end accepts is the beginning of what the other end
sent, and no bytes keep it from accepting the next frame when that arrives. -/
namespace WsNet.SecureChannel
open Crypto Transition

/-! ### The machine -/

inductive End where
  | access
  | gateway
  deriving DecidableEq, Repr

/-- What has happened in one direction. -/
structure Trace where
  sent : List (TunnelFrameKind × Bytes)
  frames : List Bytes
  accepted : List (TunnelFrameKind × Bytes)

namespace Trace

def empty : Trace := ⟨[], [], []⟩

def send (m : TunnelFrameKind × Bytes) (frame : Bytes) (t : Trace) : Trace :=
  { t with sent := t.sent ++ [m], frames := t.frames ++ [frame] }

def accept (result : Except Error (TunnelFrameKind × Bytes)) (t : Trace) : Trace :=
  match result with
  | .ok m => { t with accepted := t.accepted ++ [m] }
  | .error _ => t

end Trace

structure State where
  access : TunnelCipher
  gateway : TunnelCipher
  log : SealLog
  /-- From the access to the gateway. -/
  up : Trace
  down : Trace

inductive Op where
  | encrypt (sender : End) (kind : TunnelFrameKind) (payload : Bytes)
  | decrypt (receiver : End) (frame : Bytes)
  /-- A seal under a key that the ciphers do not use. -/
  | foreign (r : Sealed)

section Machine
variable [Aead]

namespace State

def encryptFromAccess (kind : TunnelFrameKind) (payload : Bytes) (s : State) : State :=
  match s.access.encryptFromAccess kind payload with
  | .ok (frame, access) =>
    let c := s.access.accessToGateway
    { s with
      access
      log := c.sealedAt c.nextSendSequence kind payload accessToGateway :: s.log
      up := s.up.send (kind, payload) frame }
  | .error _ => s

def encryptFromGateway (kind : TunnelFrameKind) (payload : Bytes) (s : State) : State :=
  match s.gateway.encryptFromGateway kind payload with
  | .ok (frame, gateway) =>
    let c := s.gateway.gatewayToAccess
    { s with
      gateway
      log := c.sealedAt c.nextSendSequence kind payload gatewayToAccess :: s.log
      down := s.down.send (kind, payload) frame }
  | .error _ => s

def decryptFromAccess (frame : Bytes) (s : State) : State :=
  let (result, gateway) := s.gateway.decryptFromAccess s.log frame
  { s with gateway, up := s.up.accept result }

def decryptFromGateway (frame : Bytes) (s : State) : State :=
  let (result, access) := s.access.decryptFromGateway s.log frame
  { s with access, down := s.down.accept result }

end State

def channel : Machine State Op where
  Initial := fun s => (∃ accessKey gatewayKey, s.access = .ofKeys accessKey gatewayKey ∧
    s.gateway = .ofKeys accessKey gatewayKey) ∧ s.log = [] ∧ s.up = .empty ∧ s.down = .empty
  step
    | .encrypt .access kind payload, s => some (s.encryptFromAccess kind payload)
    | .encrypt .gateway kind payload, s => some (s.encryptFromGateway kind payload)
    | .decrypt .gateway frame, s => some (s.decryptFromAccess frame)
    | .decrypt .access frame, s => some (s.decryptFromGateway frame)
    | .foreign r, s =>
      if r.key = s.access.accessToGateway.key ∨ r.key = s.access.gatewayToAccess.key then none
      else some { s with log := r :: s.log }

/-! ### One direction -/

/-- The counters, the log and the trace of a direction agree. -/
structure LaneInv (log : SealLog) (aad : Bytes) (sender receiver : DirectionCipher) (t : Trace) :
    Prop where
  key : receiver.key = sender.key
  noncePrefix : receiver.noncePrefix = sender.noncePrefix
  sending : sender.nextSendSequence = t.sent.length
  bounded : t.sent.length < 2 ^ 64
  receiving : receiver.nextReceiveSequence = t.accepted.length
  accepted : t.accepted <+: t.sent
  payload : ∀ m ∈ t.sent, m.2.length ≤ maxPayloadLen
  frames : t.frames = t.sent.mapIdx fun i m =>
    DirectionCipher.frameOf i (sender.sealedAt i m.1 m.2 aad)
  /-- The seals under the direction's key are its sends. -/
  log : ∀ r : Sealed, r.key = sender.key → r.aad = aad →
    (r ∈ log ↔ ∃ i m, t.sent[i]? = some m ∧ r = sender.sealedAt i m.1 m.2 aad)

theorem laneInv_new (key noncePrefix aad : Bytes) :
    LaneInv [] aad (.new key noncePrefix) (.new key noncePrefix) .empty := by
  refine ⟨rfl, rfl, rfl, by decide, rfl, List.prefix_refl _, ?_, rfl, ?_⟩
  · intro m hm
    cases hm
  · intro r _ _
    simp [Trace.empty]

variable {log : SealLog} {aad : Bytes} {sender receiver : DirectionCipher} {t : Trace}

/-- A seal of another key or of the other direction is none of this one's. -/
theorem LaneInv.cons_other (h : LaneInv log aad sender receiver t) {r : Sealed}
    (hr : r.key = sender.key → r.aad ≠ aad) : LaneInv (r :: log) aad sender receiver t := by
  refine ⟨h.key, h.noncePrefix, h.sending, h.bounded, h.receiving, h.accepted, h.payload, h.frames, ?_⟩
  intro r' hkey haad
  have hne : r' ≠ r := by
    intro heq
    subst heq
    exact hr hkey haad
  rw [List.mem_cons, or_iff_right hne]
  exact h.log r' hkey haad

theorem LaneInv.encrypt (h : LaneInv log aad sender receiver t) {kind : TunnelFrameKind}
    {payload frame : Bytes} {sender' : DirectionCipher}
    (hs : sender.encrypt kind payload aad = .ok (frame, sender')) :
    LaneInv (sender.sealedAt sender.nextSendSequence kind payload aad :: log) aad sender' receiver
      (t.send (kind, payload) frame) := by
  obtain ⟨hlen, hlt, rfl, rfl⟩ := DirectionCipher.encrypt_eq_ok.mp hs
  rw [h.sending] at hlt ⊢
  refine ⟨h.key, h.noncePrefix, ?_, ?_, h.receiving, ?_, ?_, ?_, ?_⟩
  · simp [Trace.send]
  · simpa [Trace.send] using hlt
  · exact h.accepted.trans (List.prefix_append _ _)
  · intro m hm
    rcases List.mem_append.mp hm with hm | hm
    · exact h.payload m hm
    · rw [List.mem_singleton.mp hm]
      exact hlen
  · simp only [Trace.send, h.frames, List.mapIdx_concat]
    rfl
  · intro r hkey haad
    rw [List.mem_cons, h.log r hkey haad]
    constructor
    · intro hrecord
      rcases hrecord with rfl | ⟨i, m, hi, rfl⟩
      · exact ⟨t.sent.length, (kind, payload), List.getElem?_concat_length, rfl⟩
      · have hlt := (List.getElem?_eq_some_iff.mp hi).1
        exact ⟨i, m, by rw [Trace.send, List.getElem?_append_left hlt, hi], rfl⟩
    · intro hsent
      obtain ⟨i, m, hi, rfl⟩ := hsent
      simp only [Trace.send, List.getElem?_append] at hi
      split at hi
      · exact .inr ⟨i, m, hi, rfl⟩
      · rename_i hge
        obtain ⟨hone, hm⟩ := List.getElem?_eq_some_iff.mp hi
        have hzero : i = t.sent.length := by
          rw [List.length_singleton] at hone
          omega
        subst hzero
        simp only [Nat.sub_self, List.getElem_cons_zero] at hm
        subst hm
        exact .inl rfl

/-- What a receiver accepts is the next thing that was sent. -/
theorem LaneInv.next (h : LaneInv log aad sender receiver t) {frame payload : Bytes}
    {kind : TunnelFrameKind} {receiver' : DirectionCipher}
    (hs : receiver.decrypt log frame aad = (.ok (kind, payload), receiver')) :
    t.sent[t.accepted.length]? = some (kind, payload) := by
  obtain ⟨hmem, _, _⟩ := DirectionCipher.decrypt_ok hs
  obtain ⟨i, ⟨k, p⟩, hi, hr⟩ := (h.log _ h.key rfl).mp hmem
  have hilt := (List.getElem?_eq_some_iff.mp hi).1
  have hle := h.accepted.length_le
  have hbound := h.bounded
  simp only [DirectionCipher.sealedAt, Sealed.mk.injEq, h.noncePrefix, List.cons.injEq, true_and] at hr
  obtain ⟨_, hnonce, hkind, rfl⟩ := hr
  rw [h.receiving] at hnonce
  have hindex := sequenceNonce_inj (by omega) (by omega) hnonce
  rw [hindex, hi, TunnelFrameKind.byte_inj hkind]

/-- A call of decryption, whatever it is given. -/
theorem LaneInv.decrypt (h : LaneInv log aad sender receiver t) (frame : Bytes) :
    LaneInv log aad sender (receiver.decrypt log frame aad).2
        (t.accept (receiver.decrypt log frame aad).1) ∧
      ∀ e, (receiver.decrypt log frame aad).1 = .error e →
        (receiver.decrypt log frame aad).2 = receiver := by
  generalize hs : receiver.decrypt log frame aad = out
  obtain ⟨result, receiver'⟩ := out
  cases result with
  | ok m =>
    obtain ⟨kind, payload⟩ := m
    have hnext := h.next hs
    obtain ⟨_, _, rfl⟩ := DirectionCipher.decrypt_ok hs
    refine ⟨⟨h.key, h.noncePrefix, h.sending, h.bounded, ?_, ?_, h.payload, h.frames, h.log⟩, ?_⟩
    · simp [Trace.accept, h.receiving]
    · obtain ⟨hlt, hget⟩ := List.getElem?_eq_some_iff.mp hnext
      show t.accepted ++ [(kind, payload)] <+: t.sent
      rw [← hget]
      exact List.concat_get_prefix h.accepted hlt
    · intro e he
      cases he
  | error e =>
    have hkinds : ∀ r ∈ log, r.key = receiver.key → r.aad = aad → ∃ kind payload,
        r.plaintext = TunnelFrameKind.byte kind :: payload := by
      intro r hr hkey haad
      obtain ⟨i, m, _, rfl⟩ := (h.log r (hkey.trans h.key) haad).mp hr
      exact ⟨m.1, m.2, rfl⟩
    have hsame := DirectionCipher.decrypt_error hkinds hs
    exact ⟨hsame ▸ h, fun _ _ => hsame⟩

/-- The next frame that was sent is accepted. -/
theorem LaneInv.accepts (h : LaneInv log aad sender receiver t) {m : TunnelFrameKind × Bytes}
    {frame : Bytes} (hm : t.sent[t.accepted.length]? = some m)
    (hf : t.frames[t.accepted.length]? = some frame) :
    (receiver.decrypt log frame aad).1 = .ok m := by
  obtain ⟨hlt, hget⟩ := List.getElem?_eq_some_iff.mp hm
  have hbound := h.bounded
  have hframe : frame = DirectionCipher.frameOf receiver.nextReceiveSequence
      (receiver.sealedAt receiver.nextReceiveSequence m.1 m.2 aad) := by
    rw [h.frames, List.getElem?_mapIdx, hm] at hf
    rw [h.receiving, ← Option.some.inj hf]
    simp only [DirectionCipher.sealedAt, h.key, h.noncePrefix]
  have hmem : receiver.sealedAt receiver.nextReceiveSequence m.1 m.2 aad ∈ log := by
    refine (h.log _ h.key rfl).mpr ⟨t.accepted.length, m, hm, ?_⟩
    simp only [DirectionCipher.sealedAt, h.key, h.noncePrefix, h.receiving]
  rw [hframe, DirectionCipher.decrypt_frameOf hmem (h.payload m (hget ▸ List.getElem_mem hlt))
    (by rw [h.receiving]; omega)]

/-! ### Both directions -/

structure ChannelInv (s : State) : Prop where
  up : LaneInv s.log accessToGateway s.access.accessToGateway s.gateway.accessToGateway s.up
  down : LaneInv s.log gatewayToAccess s.gateway.gatewayToAccess s.access.gatewayToAccess s.down

theorem channelInv_initial {s : State} (h : channel.Initial s) : ChannelInv s := by
  obtain ⟨⟨accessKey, gatewayKey, haccess, hgateway⟩, hlog, hup, hdown⟩ := h
  constructor
  · rw [haccess, hgateway, hlog, hup]
    exact laneInv_new _ _ _
  · rw [haccess, hgateway, hlog, hdown]
    exact laneInv_new _ _ _

theorem channelInv_encryptFromAccess {kind : TunnelFrameKind} {payload : Bytes} {s : State}
    (h : ChannelInv s) : ChannelInv (s.encryptFromAccess kind payload) := by
  unfold State.encryptFromAccess
  split
  · rename_i frame access hs
    obtain ⟨⟨frame', direction⟩, hdirection, hs⟩ := bind_eq_ok.mp hs
    have hpair := pure_eq_ok.mp hs
    cases hpair
    exact ⟨h.up.encrypt hdirection, h.down.cons_other fun _ => directions_ne⟩
  · exact h

theorem channelInv_encryptFromGateway {kind : TunnelFrameKind} {payload : Bytes} {s : State}
    (h : ChannelInv s) : ChannelInv (s.encryptFromGateway kind payload) := by
  unfold State.encryptFromGateway
  split
  · rename_i frame gateway hs
    obtain ⟨⟨frame', direction⟩, hdirection, hs⟩ := bind_eq_ok.mp hs
    have hpair := pure_eq_ok.mp hs
    cases hpair
    exact ⟨h.up.cons_other fun _ => directions_ne.symm, h.down.encrypt hdirection⟩
  · exact h

theorem channelInv_step {op : Op} {s s' : State} (h : ChannelInv s) (hs : channel.step op s = some s') :
    ChannelInv s' := by
  cases op with
  | encrypt sender kind payload =>
    cases sender <;> cases hs
    · exact channelInv_encryptFromAccess h
    · exact channelInv_encryptFromGateway h
  | decrypt receiver frame =>
    cases receiver <;> cases hs
    · exact ⟨h.up, (h.down.decrypt frame).1⟩
    · exact ⟨(h.up.decrypt frame).1, h.down⟩
  | foreign r =>
    simp only [channel] at hs
    split at hs
    · cases hs
    · rename_i hother
      cases hs
      obtain ⟨hup, hdown⟩ := not_or.mp hother
      refine ⟨h.up.cons_other fun he => absurd he hup, h.down.cons_other fun he => absurd ?_ hdown⟩
      rw [he, h.down.key]

theorem channelInv_reachable {s : State} (h : channel.Reachable s) : ChannelInv s := by
  apply Machine.ReachableUnder.invariant _ _ h
  · exact fun _ hi => channelInv_initial hi
  · exact fun _ _ _ _ hinv _ hs => channelInv_step hinv hs

/-! ### What a call leaves in the traces -/

namespace State
variable {s : State} {kind : TunnelFrameKind} {payload frame : Bytes} {m : TunnelFrameKind × Bytes}

theorem encryptFromAccess_ok {r : Bytes × TunnelCipher} (h : s.access.encryptFromAccess kind payload = .ok r) :
    (s.encryptFromAccess kind payload).up.sent = s.up.sent ++ [(kind, payload)] ∧
      (s.encryptFromAccess kind payload).up.accepted = s.up.accepted ∧
      (s.encryptFromAccess kind payload).down = s.down := by
  unfold encryptFromAccess
  rw [h]
  exact ⟨rfl, rfl, rfl⟩

theorem encryptFromGateway_ok {r : Bytes × TunnelCipher} (h : s.gateway.encryptFromGateway kind payload = .ok r) :
    (s.encryptFromGateway kind payload).down.sent = s.down.sent ++ [(kind, payload)] ∧
      (s.encryptFromGateway kind payload).down.accepted = s.down.accepted ∧
      (s.encryptFromGateway kind payload).up = s.up := by
  unfold encryptFromGateway
  rw [h]
  exact ⟨rfl, rfl, rfl⟩

theorem encryptFromGateway_error {e : Error} (h : s.gateway.encryptFromGateway kind payload = .error e) :
    s.encryptFromGateway kind payload = s := by
  unfold encryptFromGateway
  rw [h]

theorem decryptFromAccess_ok (h : (s.gateway.decryptFromAccess s.log frame).1 = .ok m) :
    (s.decryptFromAccess frame).up.accepted = s.up.accepted ++ [m] ∧
      (s.decryptFromAccess frame).up.sent = s.up.sent ∧ (s.decryptFromAccess frame).down = s.down := by
  simp only [decryptFromAccess, h, Trace.accept, and_self]

theorem decryptFromGateway_ok (h : (s.access.decryptFromGateway s.log frame).1 = .ok m) :
    (s.decryptFromGateway frame).down.accepted = s.down.accepted ++ [m] ∧
      (s.decryptFromGateway frame).down.sent = s.down.sent ∧ (s.decryptFromGateway frame).up = s.up := by
  simp only [decryptFromGateway, h, Trace.accept, and_self]

end State

/-- **Received in order, whatever the network does.** What either end has accepted is
a prefix of what the other end's cipher accepted to send; a failed decryption leaves
the cipher as it was; and the next frame sent is accepted. -/
theorem received_in_order {s : State} (h : channel.Reachable s) :
    (s.up.accepted <+: s.up.sent ∧ s.down.accepted <+: s.down.sent) ∧
    (∀ frame e, (s.gateway.decryptFromAccess s.log frame).1 = .error e →
      (s.gateway.decryptFromAccess s.log frame).2 = s.gateway) ∧
    (∀ frame e, (s.access.decryptFromGateway s.log frame).1 = .error e →
      (s.access.decryptFromGateway s.log frame).2 = s.access) ∧
    (∀ m frame, s.up.sent[s.up.accepted.length]? = some m →
      s.up.frames[s.up.accepted.length]? = some frame →
      (s.gateway.decryptFromAccess s.log frame).1 = .ok m) ∧
    (∀ m frame, s.down.sent[s.down.accepted.length]? = some m →
      s.down.frames[s.down.accepted.length]? = some frame →
      (s.access.decryptFromGateway s.log frame).1 = .ok m) := by
  have hinv := channelInv_reachable h
  refine ⟨⟨hinv.up.accepted, hinv.down.accepted⟩, ?_, ?_, ?_, ?_⟩
  · intro frame e he
    have hsame := (hinv.up.decrypt frame).2 e he
    simp only [TunnelCipher.decryptFromAccess, hsame]
  · intro frame e he
    have hsame := (hinv.down.decrypt frame).2 e he
    simp only [TunnelCipher.decryptFromGateway, hsame]
  · intro m frame hm hf
    exact hinv.up.accepts hm hf
  · intro m frame hm hf
    exact hinv.down.accepts hm hf

end Machine

/-! ### A replayed and a reflected frame -/

section Example

local instance : Aead := .transparent

def exampleStart : State := ⟨.ofKeys [1] [2], .ofKeys [1] [2], [], .empty, .empty⟩

def exampleFrame (sequence : Nat) (kind : TunnelFrameKind) (payload : Bytes) : Bytes :=
  DirectionCipher.frameOf sequence
    (exampleStart.access.accessToGateway.sealedAt sequence kind payload accessToGateway)

/-- Two frames are sent; the first arrives with a byte added, as it is, a second time,
and at the end that sent it. -/
def exampleOps : List Op :=
  [.encrypt .access .text [104, 105], .encrypt .access .binary [7],
    .decrypt .gateway (exampleFrame 0 .text [104, 105] ++ [0]),
    .decrypt .gateway (exampleFrame 0 .text [104, 105]),
    .decrypt .gateway (exampleFrame 0 .text [104, 105]),
    .decrypt .access (exampleFrame 0 .text [104, 105])]

def exampleState : State := (channel.run exampleOps exampleStart).getD exampleStart

theorem exampleState_reachable : channel.Reachable exampleState := by
  have hstart : channel.Initial exampleStart := ⟨⟨[1], [2], rfl, rfl⟩, rfl, rfl, rfl⟩
  exact Machine.reachable_getD hstart (by decide +kernel)

theorem received_in_order_exampleState :
    exampleState.up.accepted = [(.text, [104, 105])] ∧ exampleState.down.accepted = [] ∧
      (exampleState.gateway.decryptFromAccess exampleState.log
        (exampleFrame 1 .binary [7])).1 = .ok (.binary, [7]) := by
  obtain ⟨⟨_, hdown⟩, _, _, hnext, _⟩ := received_in_order exampleState_reachable
  have hsent : exampleState.down.sent = [] := by decide +kernel
  exact ⟨by decide +kernel, List.prefix_nil.mp (hsent ▸ hdown),
    hnext (.binary, [7]) (exampleFrame 1 .binary [7]) (by decide +kernel) (by decide +kernel)⟩

end Example

end WsNet.SecureChannel
