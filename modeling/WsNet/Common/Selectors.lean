import WsNet.Common.TunnelCrypto

/-! The public selectors of tokens and pairs of tokens.

Three kinds of text are hashed: a token, a pair that names an identity, and a pair
that makes a secret. Each starts with its own domain, and a pair carries the length
of its first token. What is hashed is a function of byte strings; that tokens are
texts is used nowhere. -/
namespace WsNet
open Data

/-! ### What is hashed -/

def credentialDomain : Bytes := bytesOf "ws-net/credential/v3\x00"
def identityDomain : Bytes := bytesOf "ws-net/identity/v4\x00"
def bootstrapSecretDomain : Bytes := bytesOf "ws-net/bootstrap-secret/v4\x00"

/-- The length of the first token tells where the second one starts. -/
def pairInput (domain gatewayToken userToken : Bytes) : Bytes :=
  domain ++ toLeBytes gatewayToken.length ++ gatewayToken ++ userToken

/-- What an access's selector hashes. -/
def selectorInput (gatewayToken : Bytes) : Option Bytes → Bytes
  | some userToken => pairInput identityDomain gatewayToken userToken
  | none => credentialDomain ++ gatewayToken

/-- The number of characters that all three domains share. -/
def sharedLen : Nat := 7

/-- The domains part at the character after `ws-net/`. -/
theorem domains_part :
    identityDomain[sharedLen]? = some 105 ∧ bootstrapSecretDomain[sharedLen]? = some 98 ∧
      credentialDomain[sharedLen]? = some 99 := by
  decide +kernel

theorem length_toLeBytes (n : Nat) : (toLeBytes n).length = 8 := by simp [toLeBytes]

/-- **A pair is read off what is hashed**, whatever the tokens contain. -/
theorem pairInput_inj {domain g u g' u' : Bytes} (hg : g.length < 2 ^ 64) (hg' : g'.length < 2 ^ 64)
    (h : pairInput domain g u = pairInput domain g' u') : g = g' ∧ u = u' := by
  unfold pairInput at h
  rw [List.append_assoc, List.append_assoc, List.append_assoc, List.append_assoc] at h
  have hrest := List.append_cancel_left h
  obtain ⟨hlength, htokens⟩ := List.append_inj hrest (by rw [length_toLeBytes, length_toLeBytes])
  exact List.append_inj htokens (toLeBytes_inj hg hg' hlength)

/-- The byte at an index of the domain is the byte there of what is hashed. -/
theorem getElem?_append_domain {domain : Bytes} {b : UInt8} {i : Nat} (h : domain[i]? = some b)
    (rest : Bytes) : (domain ++ rest)[i]? = some b := by
  have hlt : i < domain.length := by
    obtain ⟨hlt, _⟩ := List.getElem?_eq_some_iff.mp h
    exact hlt
  rw [List.getElem?_append_left hlt, h]

theorem getElem?_pairInput {domain : Bytes} {b : UInt8} {i : Nat} (h : domain[i]? = some b)
    (gatewayToken userToken : Bytes) : (pairInput domain gatewayToken userToken)[i]? = some b := by
  unfold pairInput
  rw [List.append_assoc, List.append_assoc]
  exact getElem?_append_domain h _

/-- What starts with different domains differs. -/
theorem pairInput_ne_identity (g u g' u' : Bytes) :
    pairInput identityDomain g u ≠ pairInput bootstrapSecretDomain g' u' := by
  intro h
  have hbyte := getElem?_pairInput domains_part.1 g u
  rw [h, getElem?_pairInput domains_part.2.1 g' u'] at hbyte
  exact absurd hbyte (by decide)

theorem pairInput_ne_credential (g u token : Bytes) :
    pairInput identityDomain g u ≠ credentialDomain ++ token := by
  intro h
  have hbyte := getElem?_pairInput domains_part.1 g u
  rw [h, getElem?_append_domain domains_part.2.2 token] at hbyte
  exact absurd hbyte (by decide)

/-- **The selector's input determines the tokens**, and whether there is a user's. -/
theorem selectorInput_inj {g g' : Bytes} {u u' : Option Bytes} (hg : g.length < 2 ^ 64)
    (hg' : g'.length < 2 ^ 64) (h : selectorInput g u = selectorInput g' u') : g = g' ∧ u = u' := by
  cases u with
  | none =>
    cases u' with
    | none => exact ⟨List.append_cancel_left h, rfl⟩
    | some u' => exact absurd h.symm (pairInput_ne_credential g' u' g)
  | some u =>
    cases u' with
    | none => exact absurd h (pairInput_ne_credential g u g')
    | some u' =>
      obtain ⟨rfl, rfl⟩ := pairInput_inj hg hg' h
      exact ⟨rfl, rfl⟩

/-! ### The selectors -/

section Hash
variable [Ring]

theorem accessCredentialId_eq (gatewayToken : String) (userToken : Option String) :
    accessCredentialId gatewayToken userToken =
      hex (Ring.sha256 (selectorInput (bytesOf gatewayToken) (userToken.map bytesOf))) := by
  cases userToken <;> rfl

/-- Digests are equal when what they are of is. -/
theorem digest_inj (hsha : Function.Injective Ring.sha256) {a b : Bytes}
    (h : hex (Ring.sha256 a) = hex (Ring.sha256 b)) : a = b := hsha (hex_inj h)

/-- **Selectors do not collide.** Under a hash without collisions, over byte strings
and over texts: a selector determines the gateway's token and the user's, and no
identity is a bootstrap secret or the credential of any token. -/
theorem accessCredentialId_injective (hsha : Function.Injective Ring.sha256) :
    (∀ g g' : Bytes, ∀ u u' : Option Bytes, g.length < 2 ^ 64 → g'.length < 2 ^ 64 →
      hex (Ring.sha256 (selectorInput g u)) = hex (Ring.sha256 (selectorInput g' u')) →
        g = g' ∧ u = u') ∧
    (∀ g g' : String, ∀ u u' : Option String,
      (bytesOf g).length < 2 ^ 64 → (bytesOf g').length < 2 ^ 64 →
        accessCredentialId g u = accessCredentialId g' u' → g = g' ∧ u = u') ∧
    (∀ g u g' u' : String, tokenPairHash identityDomain g u ≠ bootstrapSecret g' u') ∧
    ∀ g u token : String, tokenPairHash identityDomain g u ≠ credentialId token := by
  refine ⟨?_, ?_, ?_, ?_⟩
  · intro g g' u u' hg hg' h
    exact selectorInput_inj hg hg' (digest_inj hsha h)
  · intro g g' u u' hg hg' h
    rw [accessCredentialId_eq, accessCredentialId_eq] at h
    obtain ⟨hgateway, huser⟩ := selectorInput_inj hg hg' (digest_inj hsha h)
    exact ⟨bytesOf_inj hgateway, Option.map_injective (fun _ _ => bytesOf_inj) huser⟩
  · intro g u g' u' h
    exact pairInput_ne_identity _ _ _ _ (digest_inj hsha h)
  · intro g u token h
    exact pairInput_ne_credential _ _ _ (digest_inj hsha h)

end Hash

section Example

local instance selectorRing : Ring := .free

/-- A user's token that looks like the rest of the gateway's does not shift the pair. -/
theorem accessCredentialId_injective_shifted :
    accessCredentialId "ab" (some "c") ≠ accessCredentialId "a" (some "bc") := by
  intro h
  have hpair := (accessCredentialId_injective fun _ _ heq => heq).2.1 "ab" "a" (some "c") (some "bc")
    (by decide +kernel) (by decide +kernel) h
  exact absurd hpair.1 (by decide)

end Example

end WsNet
