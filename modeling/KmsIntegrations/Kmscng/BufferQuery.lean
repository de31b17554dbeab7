import KmsIntegrations.Kmscng.Bridge

/-!
# The buffer-query convention

A property read and a signature follow one convention: the call writes the size it needs to
`*pcbResult`, then stops with success on a null buffer, fails out of range on a buffer declared
too small, and otherwise fills the buffer. `BufferQuery` states it over a call's status and
effects, for a size `n` and what filling the buffer does.

* `getProperty_bufferQuery`: the body `GetProviderProperty` and `GetKeyProperty` share keeps the
  convention for the property's size, when that size fits a `DWORD`.
* `signHash_bufferQuery`: `SignHash` keeps it for the signature length, filling by `SignDigest`
  on the caller's whole buffer, when the length fits a `DWORD`: its buffer check reads the size
  back through `*pcbResult`.
* `BufferQuery.round_trip`: a size query, then a call with a buffer of the size reported, returns
  the value.
* `bufferQuery_spec` gathers them for the three entry points.
-/

namespace Kmscng

open Common

/-- The caller's `*pcbResult` and output buffer after a call's effects. -/
def replay (effects : List Effect) (memory : Option Dword × Option Bytes) :
    Option Dword × Option Bytes :=
  effects.foldl (fun m e => e.apply m) memory

/-- The buffer-query convention for a required size `n`, on the status and effects `o` of a call
that passed its checks, with output buffer `pbOutput` of declared size `cbOutput`: `*pcbResult`
is set to `n` first; a null buffer ends the call with success; a buffer declared too small fails
it out of range; a large enough one is filled by `fill`, and the call returns `filled`. -/
structure BufferQuery (n : Nat) (fill : Effect) (filled : Except Status Unit)
    (pbOutput : Option Bytes) (cbOutput : Dword) (o : Except Status Unit × List Effect) : Prop where
  sized : o.2.head? = some (.writeResult (UInt32.ofNat n))
  query : pbOutput = none → o = (.ok (), [.writeResult (UInt32.ofNat n)])
  tooSmall : pbOutput.isSome → cbOutput.toNat < n →
    (∃ message, o.1 = .error (.outOfRange message)) ∧ o.2 = [.writeResult (UInt32.ofNat n)]
  fits : pbOutput.isSome → n ≤ cbOutput.toNat → o = (filled, [.writeResult (UInt32.ofNat n), fill])

/-- A copy of `v` to a buffer puts `v` at its start and leaves the rest. -/
theorem replay_copyOutput (n cell : Dword) (v buf : Bytes) :
    replay [.writeResult n, .copyOutput v] (some cell, some buf) =
      (some n, some (v ++ buf.drop v.length)) := rfl

/-- A size query, then a call with a buffer of the size it reported, returns the value: `*pcbResult`
holds the size and the buffer holds `v`. -/
theorem BufferQuery.round_trip {v : Bytes} {cell : Dword} {buf : Bytes}
    {o : Except Status Unit × List Effect} (hn : v.length < 2 ^ 32) (hbuf : buf.length = v.length)
    (h : BufferQuery v.length (.copyOutput v) (.ok ()) (some buf) (UInt32.ofNat v.length) o) :
    o.1 = .ok () ∧ replay o.2 (some cell, some buf) = (some (UInt32.ofNat v.length), some v) := by
  rw [h.fits rfl (UInt32.toNat_ofNat_of_lt hn).ge, replay_copyOutput, ← hbuf, List.drop_length,
    List.append_nil]
  exact ⟨rfl, rfl⟩

section
variable {P O : Type} {host : Host P O} {dwFlags cell cbOutput : Dword}

/-- The outcome of the shared body of the property reads once its checks pass. -/
theorem getProperty_outcome {lookup : String → Except Status Bytes} {property : String}
    {v : Bytes} {pbOutput : Option Bytes} (hf : validateFlags dwFlags = .ok ())
    (hv : lookup property = .ok v) :
    (getProperty lookup (some property) pbOutput cbOutput (some cell) dwFlags).outcome =
      match pbOutput with
      | none => (.ok (), [.writeResult (UInt32.ofNat v.length)])
      | some _ =>
        if cbOutput.toNat < v.length then
          (.error (.outOfRange ("cbOutput size=" ++ toString cbOutput.toNat ++
            " not large enough to fit property value of size " ++ toString v.length)),
            [.writeResult (UInt32.ofNat v.length)])
        else (.ok (), [.writeResult (UInt32.ofNat v.length), .copyOutput v]) := by
  cases pbOutput with
  | none => simp [BridgeM.outcome, getProperty, requireNonNull, hf, hv]
  | some buf =>
    by_cases hc : cbOutput.toNat < v.length <;>
      simp [BridgeM.outcome, getProperty, requireNonNull, checkOutputSize, hf, hv, hc]

/-- The shared body of the property reads keeps the buffer-query convention for the property. -/
theorem getProperty_bufferQuery {lookup : String → Except Status Bytes} {property : String}
    {v : Bytes} {pbOutput : Option Bytes} (hf : validateFlags dwFlags = .ok ())
    (hv : lookup property = .ok v) :
    BufferQuery v.length (.copyOutput v) (.ok ()) pbOutput cbOutput
      (getProperty lookup (some property) pbOutput cbOutput (some cell) dwFlags).outcome := by
  rw [getProperty_outcome hf hv]
  cases pbOutput with
  | none => exact ⟨rfl, fun _ => rfl, nofun, nofun⟩
  | some buf =>
    by_cases hc : cbOutput.toNat < v.length
    · simp only [if_pos hc]
      exact ⟨rfl, nofun, fun _ _ => ⟨⟨_, rfl⟩, rfl⟩, fun _ h => absurd hc (Nat.not_lt.2 h)⟩
    · simp only [if_neg hc]
      exact ⟨rfl, nofun, fun _ h => absurd h hc, fun _ _ => rfl⟩

/-- The outcome of `SignHash` once its checks pass. -/
theorem signHash_outcome {hProvider : NcryptProvHandle} {hKey : NcryptKeyHandle} {object : O}
    {hash : Bytes} {cbHashValue cbSignature : Dword} {pbSignature : Option Bytes} {L : Nat}
    (hk : host.validateKeyHandle hProvider hKey = .ok object) (hf : validateFlags dwFlags = .ok ())
    (hpre : host.validateKeyPreconditions object = .ok ()) (hL : host.signatureLength object = .ok L) :
    (signHash host hProvider hKey none (some hash) cbHashValue pbSignature cbSignature (some cell)
        dwFlags).outcome =
      match pbSignature with
      | none => (.ok (), [.writeResult (UInt32.ofNat L)])
      | some _ =>
        if cbSignature < UInt32.ofNat L then
          (.error (.outOfRange ("cbSignature size=" ++ toString cbSignature.toNat ++
            " not large enough to fit property value of size " ++ toString (UInt32.ofNat L).toNat)),
            [.writeResult (UInt32.ofNat L)])
        else (host.signDigest object (hash.take cbHashValue.toNat) cbSignature,
          [.writeResult (UInt32.ofNat L), .signDigest hKey (hash.take cbHashValue.toNat) cbSignature]) := by
  cases pbSignature with
  | none => simp [BridgeM.outcome, signHash, requireNonNull, checkPaddingInfo, hk, hf, hpre, hL]
  | some buf =>
    by_cases hc : cbSignature < UInt32.ofNat L <;>
      simp [BridgeM.outcome, signHash, requireNonNull, checkPaddingInfo, checkSignatureSize, hk, hf, hpre,
        hL, hc]

/-- `SignHash` keeps the buffer-query convention for the signature length, when that length fits
a `DWORD`, filling by `SignDigest` on the caller's whole buffer. -/
theorem signHash_bufferQuery {hProvider : NcryptProvHandle} {hKey : NcryptKeyHandle} {object : O}
    {hash : Bytes} {cbHashValue cbSignature : Dword} {pbSignature : Option Bytes} {L : Nat}
    (hk : host.validateKeyHandle hProvider hKey = .ok object) (hf : validateFlags dwFlags = .ok ())
    (hpre : host.validateKeyPreconditions object = .ok ()) (hL : host.signatureLength object = .ok L)
    (hn : L < 2 ^ 32) :
    BufferQuery L (.signDigest hKey (hash.take cbHashValue.toNat) cbSignature)
      (host.signDigest object (hash.take cbHashValue.toNat) cbSignature) pbSignature cbSignature
      (signHash host hProvider hKey none (some hash) cbHashValue pbSignature cbSignature (some cell)
        dwFlags).outcome := by
  rw [signHash_outcome hk hf hpre hL]
  have hlt : cbSignature < UInt32.ofNat L ↔ cbSignature.toNat < L := by
    show cbSignature.toNat < (UInt32.ofNat L).toNat ↔ _
    rw [UInt32.toNat_ofNat_of_lt hn]
  cases pbSignature with
  | none => exact ⟨rfl, fun _ => rfl, nofun, nofun⟩
  | some buf =>
    by_cases hc : cbSignature.toNat < L
    · simp only [if_pos (hlt.2 hc)]
      exact ⟨rfl, nofun, fun _ _ => ⟨⟨_, rfl⟩, rfl⟩, fun _ h => absurd hc (Nat.not_lt.2 h)⟩
    · simp only [if_neg (mt hlt.1 hc)]
      exact ⟨rfl, nofun, fun _ h => absurd h hc, fun _ _ => rfl⟩

theorem getProviderProperty_outcome {hProvider : NcryptProvHandle} {prov : P}
    {pszProperty : Option String} {pbOutput : Option Bytes} {pcbResult : Option Dword}
    (h : host.validateProviderHandle hProvider = .ok prov) :
    (getProviderProperty host hProvider pszProperty pbOutput cbOutput pcbResult dwFlags).outcome =
      (getProperty (host.providerGetProperty prov) pszProperty pbOutput cbOutput pcbResult
        dwFlags).outcome := by
  simp only [BridgeM.outcome, getProviderProperty, h, run_liftExcept_ok_bind]

theorem getKeyProperty_outcome {hProvider : NcryptProvHandle} {hKey : NcryptKeyHandle} {object : O}
    {pszProperty : Option String} {pbOutput : Option Bytes} {pcbResult : Option Dword}
    (h : host.validateKeyHandle hProvider hKey = .ok object) :
    (getKeyProperty host hProvider hKey pszProperty pbOutput cbOutput pcbResult dwFlags).outcome =
      (getProperty (host.objectGetProperty object) pszProperty pbOutput cbOutput pcbResult
        dwFlags).outcome := by
  simp only [BridgeM.outcome, getKeyProperty, h, run_liftExcept_ok_bind]

/-- `SetProviderProperty` stores the first `cbInput` bytes of its input. -/
theorem setProperty_mem_setProviderProperty {hProvider h : NcryptProvHandle}
    {pszProperty : Option String} {pbInput : Option Bytes} {cbInput : Dword} {name : String}
    {value : Bytes}
    (he : Effect.setProperty h name value ∈
      (setProviderProperty host hProvider pszProperty pbInput cbInput dwFlags).outcome.2) :
    ∃ input, pbInput = some input ∧ value = input.take cbInput.toNat := by
  cases hv : host.validateProviderHandle hProvider <;> cases pszProperty <;> cases pbInput <;>
    cases hf : validateFlags dwFlags <;>
    simp_all [BridgeM.outcome, setProviderProperty, requireNonNull]

end

/-- The spec of the buffer-query convention on the bridge. A `GetProviderProperty` or
`GetKeyProperty` call that passes its handle, name, `pcbResult` and flag checks, for a property `v`
of fewer than `2 ^ 32` bytes, sets `*pcbResult` to `|v|` and keeps the convention for `v`, for
every output buffer and declared size; and a size query, then a call with a buffer of the size
reported, returns `v`. `SignHash` keeps the same convention for a signature length `L` below
`2 ^ 32`, calling `SignDigest` with the caller's whole buffer. Every value `SetProviderProperty`
stores is shorter than `2 ^ 32` bytes. -/
theorem bufferQuery_spec {P O : Type} (host : Host P O) :
    (∀ hProvider prov property v pbOutput cbOutput cell dwFlags,
      host.validateProviderHandle hProvider = .ok prov → validateFlags dwFlags = .ok () →
      host.providerGetProperty prov property = .ok v → v.length < 2 ^ 32 →
      (UInt32.ofNat v.length).toNat = v.length ∧
      BufferQuery v.length (.copyOutput v) (.ok ()) pbOutput cbOutput
        (getProviderProperty host hProvider (some property) pbOutput cbOutput (some cell)
          dwFlags).outcome ∧
      ∀ buf : Bytes, buf.length = v.length →
        (getProviderProperty host hProvider (some property) (some buf) (UInt32.ofNat v.length)
          (some cell) dwFlags).outcome.1 = .ok () ∧
        replay (getProviderProperty host hProvider (some property) (some buf)
          (UInt32.ofNat v.length) (some cell) dwFlags).outcome.2 (some cell, some buf) =
          (some (UInt32.ofNat v.length), some v)) ∧
    (∀ hProvider hKey object property v pbOutput cbOutput cell dwFlags,
      host.validateKeyHandle hProvider hKey = .ok object → validateFlags dwFlags = .ok () →
      host.objectGetProperty object property = .ok v → v.length < 2 ^ 32 →
      (UInt32.ofNat v.length).toNat = v.length ∧
      BufferQuery v.length (.copyOutput v) (.ok ()) pbOutput cbOutput
        (getKeyProperty host hProvider hKey (some property) pbOutput cbOutput (some cell)
          dwFlags).outcome ∧
      ∀ buf : Bytes, buf.length = v.length →
        (getKeyProperty host hProvider hKey (some property) (some buf) (UInt32.ofNat v.length)
          (some cell) dwFlags).outcome.1 = .ok () ∧
        replay (getKeyProperty host hProvider hKey (some property) (some buf)
          (UInt32.ofNat v.length) (some cell) dwFlags).outcome.2 (some cell, some buf) =
          (some (UInt32.ofNat v.length), some v)) ∧
    (∀ hProvider hKey object hash cbHashValue L pbSignature cbSignature cell dwFlags,
      host.validateKeyHandle hProvider hKey = .ok object → validateFlags dwFlags = .ok () →
      host.validateKeyPreconditions object = .ok () → host.signatureLength object = .ok L →
      L < 2 ^ 32 →
      (UInt32.ofNat L).toNat = L ∧
      BufferQuery L (.signDigest hKey (hash.take cbHashValue.toNat) cbSignature)
        (host.signDigest object (hash.take cbHashValue.toNat) cbSignature) pbSignature cbSignature
        (signHash host hProvider hKey none (some hash) cbHashValue pbSignature cbSignature
          (some cell) dwFlags).outcome) ∧
    ∀ hProvider pszProperty pbInput cbInput dwFlags h name value,
      Effect.setProperty h name value ∈
        (setProviderProperty host hProvider pszProperty pbInput cbInput dwFlags).outcome.2 →
      value.length < 2 ^ 32 := by
  refine ⟨fun hProvider prov property v pbOutput cbOutput cell dwFlags hh hf hv hn => ?_,
    fun hProvider hKey object property v pbOutput cbOutput cell dwFlags hh hf hv hn => ?_,
    fun _ _ _ _ _ _ _ _ _ _ hk hf hpre hL hn =>
      ⟨UInt32.toNat_ofNat_of_lt hn, signHash_bufferQuery hk hf hpre hL hn⟩,
    fun _ _ _ cbInput _ _ _ _ he => ?_⟩
  · simp only [getProviderProperty_outcome hh]
    exact ⟨UInt32.toNat_ofNat_of_lt hn, getProperty_bufferQuery hf hv, fun buf hbuf =>
      (getProperty_bufferQuery hf hv).round_trip hn hbuf⟩
  · simp only [getKeyProperty_outcome hh]
    exact ⟨UInt32.toNat_ofNat_of_lt hn, getProperty_bufferQuery hf hv, fun buf hbuf =>
      (getProperty_bufferQuery hf hv).round_trip hn hbuf⟩
  · obtain ⟨input, -, rfl⟩ := setProperty_mem_setProviderProperty he
    exact (List.length_take_le _ _).trans_lt (UInt32.toNat_lt_size cbInput)

/-- A provider whose property is three bytes: a buffer of the size reported gets them. -/
theorem bufferQuery_spec_three_bytes :
    let host : Host Unit Unit :=
      { providerName := "p", validateProviderHandle := fun _ => .ok (),
        providerGetProperty := fun _ _ => .ok [7, 8, 9], providerSetProperty := fun _ _ _ => .ok (),
        objectNew := fun _ _ => .ok (), validateKeyHandle := fun _ _ => .ok (),
        objectGetProperty := fun _ _ => .ok [7, 8, 9], validateKeyPreconditions := fun _ => .ok (),
        signatureLength := fun _ => .ok 64, signDigest := fun _ _ _ => .ok () }
    (getProviderProperty host 1 (some "p") (some [0, 0, 0]) 3 (some 0) 0).outcome.1 = .ok () ∧
      replay (getProviderProperty host 1 (some "p") (some [0, 0, 0]) 3 (some 0) 0).outcome.2
        (some 0, some [0, 0, 0]) = (some 3, some [7, 8, 9]) :=
  ((bufferQuery_spec _).1 1 () "p" [7, 8, 9] none 0 0 0 rfl rfl rfl (by decide)).2.2 [0, 0, 0] rfl

end Kmscng
