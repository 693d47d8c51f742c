import WsNet.Common.Text

/-! Ideal authenticated encryption.

Sealing is a function of the key, the nonce, the associated data and the
plaintext. What an ideal scheme adds is that nothing opens that was not sealed:
the seals made so far are a log, and opening is looking up the log. Who made a
seal, and which keys a party can seal under, is for the machine that keeps the
log to say. -/
namespace WsNet.Crypto

/-- The length of a Poly1305 or GCM tag. -/
def tagLen : Nat := 16

/-- An encryption whose ciphertexts are a tag longer than their plaintexts and
determine them. -/
class Aead where
  encrypt : (key nonce aad plaintext : Bytes) → Bytes
  length_encrypt : ∀ key nonce aad plaintext,
    (encrypt key nonce aad plaintext).length = plaintext.length + tagLen
  encrypt_inj : ∀ key nonce aad plaintext plaintext',
    encrypt key nonce aad plaintext = encrypt key nonce aad plaintext' → plaintext = plaintext'

/-- The instance that hides nothing. -/
@[reducible] def Aead.transparent : Aead where
  encrypt _ _ _ plaintext := plaintext ++ List.replicate tagLen 0
  length_encrypt _ _ _ _ := by simp
  encrypt_inj _ _ _ _ _ h := List.append_cancel_right h

/-- What a seal was given. -/
structure Sealed where
  key : Bytes
  nonce : Bytes
  aad : Bytes
  plaintext : Bytes
  deriving DecidableEq, Repr

def Sealed.ciphertext [Aead] (r : Sealed) : Bytes := Aead.encrypt r.key r.nonce r.aad r.plaintext

/-- The seals made so far. -/
abbrev SealLog := List Sealed

/-- Opening under a log: the plaintext that was sealed to this ciphertext under
this key, nonce and associated data. -/
def SealLog.open [Aead] (log : SealLog) (key nonce aad ciphertext : Bytes) : Option Bytes :=
  (log.find? fun r => r.key == key && r.nonce == nonce && r.aad == aad &&
    r.ciphertext == ciphertext).map Sealed.plaintext

/-- **Ideal opening.** A ciphertext opens exactly when it was sealed under the same
key, nonce and associated data, and to what was sealed. -/
theorem SealLog.open_eq_some [Aead] {log : SealLog} {key nonce aad ciphertext plaintext : Bytes} :
    log.open key nonce aad ciphertext = some plaintext ↔
      (⟨key, nonce, aad, plaintext⟩ : Sealed) ∈ log ∧
        Aead.encrypt key nonce aad plaintext = ciphertext := by
  unfold SealLog.open
  constructor
  · intro h
    obtain ⟨⟨k, n, a, p⟩, hfind, hp⟩ := Option.map_eq_some_iff.mp h
    have hmatch := List.find?_some hfind
    simp only [Bool.and_eq_true, beq_iff_eq, Sealed.ciphertext] at hmatch
    obtain ⟨⟨⟨rfl, rfl⟩, rfl⟩, hc⟩ := hmatch
    have hplain : p = plaintext := hp
    subst hplain
    exact ⟨List.mem_of_find?_eq_some hfind, hc⟩
  · intro hfound
    obtain ⟨hmem, hc⟩ := hfound
    have hsome : (log.find? fun r => r.key == key && r.nonce == nonce && r.aad == aad &&
        r.ciphertext == ciphertext).isSome = true := by
      rw [List.find?_isSome]
      exact ⟨_, hmem, by simp [Sealed.ciphertext, hc]⟩
    obtain ⟨⟨k, n, a, p⟩, hfind⟩ := Option.isSome_iff_exists.mp hsome
    have hmatch := List.find?_some hfind
    simp only [Bool.and_eq_true, beq_iff_eq, Sealed.ciphertext] at hmatch
    obtain ⟨⟨⟨rfl, rfl⟩, rfl⟩, hc'⟩ := hmatch
    have hp : p = plaintext := Aead.encrypt_inj k n a p plaintext (hc'.trans hc.symm)
    rw [hfind, hp]
    rfl

end WsNet.Crypto
