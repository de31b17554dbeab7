import KmsIntegrations.Kmscng.BufferQuery
import KmsIntegrations.Kmscng.CheckOrder

/-!
# Writes through the caller's pointers

The bridge writes through five of the caller's pointers:
- `*phProvider` when `OpenProvider` creates a provider;
- `*phKey` when `OpenKey` opens a key;
- `*pcbResult` with the size a property read or `SignHash` needs;
- the output buffer a property is copied to;
- the signature buffer `SignDigest` fills.

Each is behind its own check: a null test returning `NTE_INVALID_PARAMETER` for the first three, and
the `if (!pbOutput)` or `if (!pbSignature)` early return, then a size check, for the buffers. The
pointers the bridge only reads (names, the input and the digest) cannot be read when null in the
model, whose calls bind their values from `requireNonNull`.

* `getProperty_writes`, `signHash_writes`, `openProvider_writes`, `openKey_writes`: the writes of
  each entry point, whatever the host answers.
* `outPointers_spec`: for every host and every call of an entry point, each write goes through a
  pointer that is not null, and a property is copied only into a buffer declared large enough.
-/

namespace Kmscng

open Common

/-- Whether effect `e` of call `c` writes through a pointer of the call that is not null, and, for a
property's copy, within the `cbOutput` bytes the caller declared. An effect that writes through no
pointer of the call passes. -/
def Call.writesSafely : Call → Effect → Bool
  | .openProvider phProvider _ _, .newProvider => phProvider.isSome
  | .openKey _ phKey _ _ _, .newKey _ _ => phKey.isSome
  | .getProviderProperty _ _ _ _ pcbResult _, .writeResult _
  | .getKeyProperty _ _ _ _ _ pcbResult _, .writeResult _
  | .signHash _ _ _ _ _ _ _ pcbResult _, .writeResult _ => pcbResult.isSome
  | .getProviderProperty _ _ pbOutput cbOutput _ _, .copyOutput v
  | .getKeyProperty _ _ _ pbOutput cbOutput _ _, .copyOutput v =>
    pbOutput.isSome && decide (v.length ≤ cbOutput.toNat)
  | .signHash _ _ _ _ _ pbSignature _ _ _, .signDigest _ _ _ => pbSignature.isSome
  | _, _ => true

section
variable {P O : Type} (host : Host P O)

/-- The property reads write `*pcbResult` only when it is not null, and copy a value only into a
buffer that is not null and declared large enough for it. -/
theorem getProperty_writes (lookup : String → Except Status Bytes) (pszProperty : Option String)
    (pbOutput : Option Bytes) (cbOutput : Dword) (pcbResult : Option Dword) (dwFlags : Dword) :
    ∀ e ∈ (getProperty lookup pszProperty pbOutput cbOutput pcbResult dwFlags).outcome.2,
      pcbResult.isSome ∧ ∀ v, e = .copyOutput v → pbOutput.isSome ∧ v.length ≤ cbOutput.toNat := by
  rcases pszProperty with _ | property
  · simp [BridgeM.outcome, getProperty, requireNonNull]
  rcases pcbResult with _ | cell
  · simp [BridgeM.outcome, getProperty, requireNonNull]
  cases hf : validateFlags dwFlags with
  | error s => simp [BridgeM.outcome, getProperty, requireNonNull, hf]
  | ok u =>
    cases hv : lookup property with
    | error s => simp [BridgeM.outcome, getProperty, requireNonNull, hf, hv]
    | ok v =>
      rw [getProperty_outcome hf hv]
      rcases pbOutput with _ | buf
      · simp
      · split_ifs with hc
        · simp
        · simp [Nat.le_of_not_lt hc]

/-- `SignHash` writes `*pcbResult` only when it is not null, and has `SignDigest` fill a signature
buffer only when that is not null. -/
theorem signHash_writes (hProvider : NcryptProvHandle) (hKey : NcryptKeyHandle)
    (pPaddingInfo pbHashValue : Option Bytes) (cbHashValue : Dword) (pbSignature : Option Bytes)
    (cbSignature : Dword) (pcbResult : Option Dword) (dwFlags : Dword) :
    ∀ e ∈ (signHash host hProvider hKey pPaddingInfo pbHashValue cbHashValue pbSignature cbSignature
        pcbResult dwFlags).outcome.2,
      pcbResult.isSome ∧ ∀ h d n, e = .signDigest h d n → pbSignature.isSome := by
  cases hk : host.validateKeyHandle hProvider hKey with
  | error s => simp [BridgeM.outcome, signHash, hk]
  | ok object =>
    rcases pPaddingInfo with _ | padding
    swap
    · simp [BridgeM.outcome, signHash, hk, checkPaddingInfo]
    rcases pbHashValue with _ | hash
    · simp [BridgeM.outcome, signHash, hk, checkPaddingInfo, requireNonNull]
    rcases pcbResult with _ | cell
    · simp [BridgeM.outcome, signHash, hk, checkPaddingInfo, requireNonNull]
    cases hf : validateFlags dwFlags with
    | error s => simp [BridgeM.outcome, signHash, hk, checkPaddingInfo, requireNonNull, hf]
    | ok u =>
      cases hpre : host.validateKeyPreconditions object with
      | error s => simp [BridgeM.outcome, signHash, hk, checkPaddingInfo, requireNonNull, hf, hpre]
      | ok u' =>
        cases hL : host.signatureLength object with
        | error s =>
          simp [BridgeM.outcome, signHash, hk, checkPaddingInfo, requireNonNull, hf, hpre, hL]
        | ok L =>
          rw [signHash_outcome hk hf hpre hL]
          rcases pbSignature with _ | buf
          · simp
          · split_ifs <;> simp

/-- `OpenProvider` does anything only with `phProvider` not null. -/
theorem openProvider_writes (phProvider : Option NcryptProvHandle) (pszProviderName : Option String)
    (dwFlags : Dword) :
    ∀ e ∈ (openProvider host phProvider pszProviderName dwFlags).outcome.2, phProvider.isSome := by
  rcases phProvider with _ | ph
  · simp [BridgeM.outcome, openProvider, requireNonNull]
  · simp

/-- `OpenKey` does anything only with `phKey` not null. -/
theorem openKey_writes (hProvider : NcryptProvHandle) (phKey : Option NcryptKeyHandle)
    (pszKeyName : Option String) (dwLegacyKeySpec dwFlags : Dword) :
    ∀ e ∈ (openKey host hProvider phKey pszKeyName dwLegacyKeySpec dwFlags).outcome.2,
      phKey.isSome := by
  rcases phKey with _ | ph
  · cases hc : checkProviderHandle hProvider <;>
      simp [BridgeM.outcome, openKey, requireNonNull, hc]
  · simp

end

/-- Memory safety of the bridge's writes. For every host and every call of an entry point with any
arguments, every write through one of the caller's pointers goes through a pointer that is not
null: `*phProvider`, `*phKey`, `*pcbResult`, the output buffer and the signature buffer. A property
is copied only into a buffer whose declared size `cbOutput` holds it. -/
theorem outPointers_spec {P O : Type} (host : Host P O) (c : Call) :
    ∀ e ∈ (c.run host).outcome.2, c.writesSafely e = true := by
  intro e he
  cases c with
  | openProvider phProvider _ _ =>
    cases e <;> simp [Call.writesSafely, openProvider_writes host _ _ _ _ he]
  | openKey _ phKey _ _ _ =>
    cases e <;> simp [Call.writesSafely, openKey_writes host _ _ _ _ _ _ he]
  | getProviderProperty hProvider _ _ _ _ _ =>
    cases hp : host.validateProviderHandle hProvider with
    | error s => simp [Call.run, BridgeM.outcome, getProviderProperty, hp] at he
    | ok prov =>
      rw [Call.run, getProviderProperty_outcome hp] at he
      obtain ⟨hres, hcopy⟩ := getProperty_writes _ _ _ _ _ _ _ he
      cases e <;> simp_all [Call.writesSafely]
  | getKeyProperty hProvider hKey _ _ _ _ _ =>
    cases hk : host.validateKeyHandle hProvider hKey with
    | error s => simp [Call.run, BridgeM.outcome, getKeyProperty, hk] at he
    | ok object =>
      rw [Call.run, getKeyProperty_outcome hk] at he
      obtain ⟨hres, hcopy⟩ := getProperty_writes _ _ _ _ _ _ _ he
      cases e <;> simp_all [Call.writesSafely]
  | signHash =>
    rw [Call.run] at he
    obtain ⟨hres, hsign⟩ := signHash_writes host _ _ _ _ _ _ _ _ _ _ he
    cases e <;> simp_all [Call.writesSafely]
  | _ => cases e <;> rfl

/-- A two-byte property read into a three-byte buffer: both writes are safe. -/
theorem outPointers_spec_copy :
    let host : Host Unit Unit :=
      { providerName := "p", validateProviderHandle := fun _ => .ok (),
        providerGetProperty := fun _ _ => .ok [1, 2], providerSetProperty := fun _ _ _ => .ok (),
        objectNew := fun _ _ => .ok (), validateKeyHandle := fun _ _ => .ok (),
        objectGetProperty := fun _ _ => .ok [], validateKeyPreconditions := fun _ => .ok (),
        signatureLength := fun _ => .ok 0, signDigest := fun _ _ _ => .ok () }
    let c := Call.getProviderProperty 1 (some "name") (some [0, 0, 0]) 3 (some 0) 0
    (c.run host).outcome.2 = [.writeResult 2, .copyOutput [1, 2]] ∧
      ∀ e ∈ (c.run host).outcome.2, c.writesSafely e = true := by
  intro host c
  exact ⟨rfl, outPointers_spec host c⟩

end Kmscng
