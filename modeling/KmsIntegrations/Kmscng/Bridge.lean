import KmsIntegrations.Common.Status

/-!
# The CNG provider bridge

`kmscng/main/bridge.cc` is what Windows calls through `NCrypt*`: each entry point checks its
handles, pointers and flags, then opens or frees a provider or a key, reads or writes a property,
or signs a digest. Provider and key objects, the validation of their handles, their properties and
the signing live in sources not given here; `Host` stands for them, and any of its calls may fail
with any status.

A call of the model returns its status and the `Effect`s it performed, in order: each write
through an out-pointer and each call that changes the host. `Effect.apply` replays the writes on
the caller's `*pcbResult` and output buffer. `getProperty` is the body `GetProviderProperty` and
`GetKeyProperty` share once their handle is validated; `SignHash` keeps its own, since it reads
the size back through `*pcbResult`.
-/

namespace Kmscng

open Common

/-- `DWORD`. -/
abbrev Dword := UInt32

/-- `SECURITY_STATUS`, as its bit pattern. -/
abbrev SecurityStatus := UInt32

/-- `NCRYPT_PROV_HANDLE`, a `ULONG_PTR` on 64-bit Windows. -/
abbrev NcryptProvHandle := UInt64

/-- `NCRYPT_KEY_HANDLE`, a `ULONG_PTR` on 64-bit Windows. -/
abbrev NcryptKeyHandle := UInt64

/-- A byte buffer. -/
abbrev Bytes := List UInt8

/-- `NTE_BAD_FLAGS` (`winerror.h`). -/
def NTE_BAD_FLAGS : SecurityStatus := 0x80090009

/-- `NTE_INVALID_HANDLE` (`winerror.h`). -/
def NTE_INVALID_HANDLE : SecurityStatus := 0x80090026

/-- `NTE_INVALID_PARAMETER` (`winerror.h`). -/
def NTE_INVALID_PARAMETER : SecurityStatus := 0x80090027

/-- `NCRYPT_SILENT_FLAG` (`ncrypt.h`). -/
def NCRYPT_SILENT_FLAG : Dword := 0x40

/-- `NCRYPT_MACHINE_KEY_FLAG` (`ncrypt.h`). -/
def NCRYPT_MACHINE_KEY_FLAG : Dword := 0x20

/-- `AT_KEYEXCHANGE` (`wincrypt.h`). -/
def AT_KEYEXCHANGE : Dword := 1

/-- `AT_SIGNATURE` (`wincrypt.h`). -/
def AT_SIGNATURE : Dword := 2

/-- A non-OK `absl::Status` of the bridge: a code, a message and the `SECURITY_STATUS` the host
sees. `NewOutOfRangeError` is defined in `kmscng/util/errors.h`, which is not among the sources:
its status is kept as its message. -/
inductive Status
  | error (code : StatusCode) (message : String) (securityStatus : SecurityStatus)
  | outOfRange (message : String)
  deriving DecidableEq, Repr

/-- `NewInvalidArgumentError`. -/
def newInvalidArgumentError (message : String) (securityStatus : SecurityStatus) : Status :=
  .error .invalidArgument message securityStatus

/-- What a call does besides returning its status: a write through an out-pointer or a call that
changes the host. -/
inductive Effect
  /-- `*phProvider = new Provider()`. -/
  | newProvider
  /-- `delete prov`. -/
  | deleteProvider (hProvider : NcryptProvHandle)
  /-- `prov->SetProperty(name, value)`. -/
  | setProperty (hProvider : NcryptProvHandle) (name : String) (value : Bytes)
  /-- `Object::New(hProvider, name)` succeeded, and `*phKey` is the object. -/
  | newKey (hProvider : NcryptProvHandle) (keyName : String)
  /-- `delete obj`. -/
  | deleteKey (hProvider : NcryptProvHandle) (hKey : NcryptKeyHandle)
  /-- `*pcbResult = n`. -/
  | writeResult (n : Dword)
  /-- `value.copy(pbOutput, value.size())`. -/
  | copyOutput (value : Bytes)
  /-- `SignDigest(object, digest, signature)`, the signature span of `cbSignature` bytes. -/
  | signDigest (hKey : NcryptKeyHandle) (digest : Bytes) (cbSignature : Dword)
  deriving DecidableEq, Repr

/-- A write replayed on the caller's `*pcbResult` (`none` when the pointer is null) and output
buffer (`none` when null). The other effects leave both alone. -/
def Effect.apply : Effect → Option Dword × Option Bytes → Option Dword × Option Bytes
  | .writeResult n, (result, output) => (result.map fun _ => n, output)
  | .copyOutput value, (result, output) => (result, output.map fun buf => value ++ buf.drop value.length)
  | _, memory => memory

/-- The collaborators of the bridge in sources not given: `kProviderName`, the handle validation of
`kmscng/util/status_utils.h`, the properties of `Provider` and `Object`, `Object::New`, and
`ValidateKeyPreconditions`, `SignatureLength` and `SignDigest` of `kmscng/operation/sign_utils.h`.
`P` and `O` stand for `Provider` and `Object`. -/
structure Host (P O : Type) where
  providerName : String
  validateProviderHandle : NcryptProvHandle → Except Status P
  providerGetProperty : P → String → Except Status Bytes
  providerSetProperty : P → String → Bytes → Except Status Unit
  objectNew : NcryptProvHandle → String → Except Status O
  validateKeyHandle : NcryptProvHandle → NcryptKeyHandle → Except Status O
  objectGetProperty : O → String → Except Status Bytes
  validateKeyPreconditions : O → Except Status Unit
  signatureLength : O → Except Status Nat
  signDigest : O → Bytes → Dword → Except Status Unit

/-- A bridge call: its status, with the effects performed so far. -/
abbrev BridgeM := ExceptT Status (StateM (List Effect))

/-- Perform an effect. -/
def perform (e : Effect) : BridgeM Unit :=
  modify (· ++ [e])

/-- The status and the effects of a call. -/
def BridgeM.outcome {α : Type} (x : BridgeM α) : Except Status α × List Effect :=
  x.run.run []

section Run
variable {α β : Type} (es : List Effect)

@[simp] theorem run_liftExcept (e : Except Status α) :
    (liftExcept e : BridgeM α).run.run es = (e, es) := by
  cases e <;> rfl

@[simp] theorem run_liftExcept_ok_bind (a : α) (f : α → BridgeM β) :
    (liftExcept (Except.ok a : Except Status α) >>= f).run.run es = (f a).run.run es := rfl

@[simp] theorem run_liftExcept_error_bind (e : Status) (f : α → BridgeM β) :
    (liftExcept (Except.error e : Except Status α) >>= f).run.run es = (.error e, es) := rfl

@[simp] theorem run_throw (e : Status) : (throw e : BridgeM α).run.run es = (.error e, es) := rfl

@[simp] theorem run_throw_bind (e : Status) (f : α → BridgeM β) :
    (throw e >>= f : BridgeM β).run.run es = (.error e, es) := rfl

@[simp] theorem run_pure (a : α) : (pure a : BridgeM α).run.run es = (.ok a, es) := rfl

@[simp] theorem run_pure_bind (a : α) (f : α → BridgeM β) :
    (pure a >>= f : BridgeM β).run.run es = (f a).run.run es := rfl

@[simp] theorem run_perform (e : Effect) : (perform e).run.run es = (.ok (), es ++ [e]) := rfl

@[simp] theorem run_perform_bind (e : Effect) (f : Unit → BridgeM β) :
    (perform e >>= f).run.run es = (f ()).run.run (es ++ [e]) := rfl

end Run

/-! ## The entry points -/

section
variable {P O : Type} (host : Host P O)

/-- `ValidateFlags`. -/
def validateFlags (flags : Dword) : Except Status Unit :=
  if flags ≠ 0 ∧ flags ≠ NCRYPT_SILENT_FLAG then
    .error (newInvalidArgumentError ("unsupported flag specified: " ++ toString flags.toNat)
      NTE_BAD_FLAGS)
  else .ok ()

/-- `if (!p) return NewInvalidArgumentError(message, NTE_INVALID_PARAMETER, ...)`. -/
def requireNonNull {α : Type} (p : Option α) (message : String) : Except Status α :=
  match p with
  | some x => .ok x
  | none => .error (newInvalidArgumentError message NTE_INVALID_PARAMETER)

/-- The provider-name check of `OpenProvider`: `kProviderName`, null excluded. -/
def checkProviderName (pszProviderName : Option String) : Except Status Unit :=
  if pszProviderName ≠ some host.providerName then
    .error (newInvalidArgumentError "unexpected provider name" NTE_INVALID_PARAMETER)
  else .ok ()

/-- `OpenProvider`. -/
def openProvider (phProvider : Option NcryptProvHandle) (pszProviderName : Option String)
    (dwFlags : Dword) : BridgeM Unit := do
  let _ ← liftExcept (requireNonNull phProvider "the provider handle cannot be null")
  liftExcept (checkProviderName host pszProviderName)
  liftExcept (validateFlags dwFlags)
  perform .newProvider

/-- `FreeProvider`. -/
def freeProvider (hProvider : NcryptProvHandle) : BridgeM Unit := do
  let _ ← liftExcept (host.validateProviderHandle hProvider)
  perform (.deleteProvider hProvider)

/-- The buffer check of the property reads: `cbOutput < property_value.size()`, where the
`DWORD` is widened to `size_t`. -/
def checkOutputSize (cbOutput : Dword) (propertyValue : Bytes) : Except Status Unit :=
  if cbOutput.toNat < propertyValue.length then
    .error (.outOfRange ("cbOutput size=" ++ toString cbOutput.toNat ++
      " not large enough to fit property value of size " ++ toString propertyValue.length))
  else .ok ()

/-- The body `GetProviderProperty` and `GetKeyProperty` share after the handle: the pointer and
flag checks, the lookup of the property, and the buffer-query convention. `*pcbResult` is a
`DWORD`, so the size is narrowed there, while the buffer check compares with the full size. -/
def getProperty (lookup : String → Except Status Bytes) (pszProperty : Option String)
    (pbOutput : Option Bytes) (cbOutput : Dword) (pcbResult : Option Dword) (dwFlags : Dword) :
    BridgeM Unit := do
  let property ← liftExcept (requireNonNull pszProperty "pszProperty cannot be null")
  let _ ← liftExcept (requireNonNull pcbResult "pcbResult cannot be null")
  liftExcept (validateFlags dwFlags)
  let propertyValue ← liftExcept (lookup property)
  perform (.writeResult (UInt32.ofNat propertyValue.length))
  if pbOutput.isNone then
    return
  liftExcept (checkOutputSize cbOutput propertyValue)
  perform (.copyOutput propertyValue)

/-- `GetProviderProperty`. -/
def getProviderProperty (hProvider : NcryptProvHandle) (pszProperty : Option String)
    (pbOutput : Option Bytes) (cbOutput : Dword) (pcbResult : Option Dword) (dwFlags : Dword) :
    BridgeM Unit := do
  let prov ← liftExcept (host.validateProviderHandle hProvider)
  getProperty (host.providerGetProperty prov) pszProperty pbOutput cbOutput pcbResult dwFlags

/-- `SetProviderProperty`: the value is the first `cbInput` bytes at `pbInput`. -/
def setProviderProperty (hProvider : NcryptProvHandle) (pszProperty : Option String)
    (pbInput : Option Bytes) (cbInput : Dword) (dwFlags : Dword) : BridgeM Unit := do
  let prov ← liftExcept (host.validateProviderHandle hProvider)
  let property ← liftExcept (requireNonNull pszProperty "pszProperty cannot be null")
  let input ← liftExcept (requireNonNull pbInput "pbInput cannot be null")
  liftExcept (validateFlags dwFlags)
  perform (.setProperty hProvider property (input.take cbInput.toNat))
  liftExcept (host.providerSetProperty prov property (input.take cbInput.toNat))

/-- The null-handle check of `OpenKey`. -/
def checkProviderHandle (hProvider : NcryptProvHandle) : Except Status Unit :=
  if hProvider = 0 then
    .error (newInvalidArgumentError "The provider handle cannot be null" NTE_INVALID_HANDLE)
  else .ok ()

/-- The legacy key spec check of `OpenKey`: `AT_KEYEXCHANGE` or `AT_SIGNATURE`. -/
def checkLegacyKeySpec (dwLegacyKeySpec : Dword) : Except Status Unit :=
  if dwLegacyKeySpec ≠ AT_KEYEXCHANGE ∧ dwLegacyKeySpec ≠ AT_SIGNATURE then
    .error (newInvalidArgumentError
      ("unsupported legacy key spec specified: " ++ toString dwLegacyKeySpec.toNat)
      NTE_INVALID_PARAMETER)
  else .ok ()

/-- The flags `OpenKey` validates: `dwFlags` without `NCRYPT_SILENT_FLAG` and
`NCRYPT_MACHINE_KEY_FLAG`. -/
def openKeyFlags (dwFlags : Dword) : Dword :=
  dwFlags &&& ~~~NCRYPT_SILENT_FLAG &&& ~~~NCRYPT_MACHINE_KEY_FLAG

/-- The flag check of `OpenKey`, on what is left of the flags. -/
def checkOpenKeyFlags (dwFlags : Dword) : Except Status Unit :=
  if openKeyFlags dwFlags ≠ 0 then
    .error (newInvalidArgumentError
      ("unsupported flag specified: " ++ toString (openKeyFlags dwFlags).toNat) NTE_BAD_FLAGS)
  else .ok ()

/-- `OpenKey`. -/
def openKey (hProvider : NcryptProvHandle) (phKey : Option NcryptKeyHandle)
    (pszKeyName : Option String) (dwLegacyKeySpec dwFlags : Dword) : BridgeM Unit := do
  liftExcept (checkProviderHandle hProvider)
  let _ ← liftExcept (requireNonNull phKey "the key handle cannot be null")
  let keyName ← liftExcept (requireNonNull pszKeyName "the key name cannot be null")
  liftExcept (checkLegacyKeySpec dwLegacyKeySpec)
  liftExcept (checkOpenKeyFlags dwFlags)
  let _ ← liftExcept (host.objectNew hProvider keyName)
  perform (.newKey hProvider keyName)

/-- `FreeKey`. -/
def freeKey (hProvider : NcryptProvHandle) (hKey : NcryptKeyHandle) : BridgeM Unit := do
  let _ ← liftExcept (host.validateKeyHandle hProvider hKey)
  perform (.deleteKey hProvider hKey)

/-- `GetKeyProperty`. -/
def getKeyProperty (hProvider : NcryptProvHandle) (hKey : NcryptKeyHandle)
    (pszProperty : Option String) (pbOutput : Option Bytes) (cbOutput : Dword)
    (pcbResult : Option Dword) (dwFlags : Dword) : BridgeM Unit := do
  let object ← liftExcept (host.validateKeyHandle hProvider hKey)
  getProperty (host.objectGetProperty object) pszProperty pbOutput cbOutput pcbResult dwFlags

/-- The padding check of `SignHash`: no padding is supported. -/
def checkPaddingInfo (pPaddingInfo : Option Bytes) : Except Status Unit :=
  if pPaddingInfo.isSome then
    .error (newInvalidArgumentError "unsupported pPaddingInfo" NTE_INVALID_PARAMETER)
  else .ok ()

/-- The buffer check of `SignHash`: `cbSignature < *pcbResult`, both `DWORD`s. -/
def checkSignatureSize (cbSignature result : Dword) : Except Status Unit :=
  if cbSignature < result then
    .error (.outOfRange ("cbSignature size=" ++ toString cbSignature.toNat ++
      " not large enough to fit property value of size " ++ toString result.toNat))
  else .ok ()

/-- `SignHash`. The signature length is narrowed to a `DWORD` into `*pcbResult`, and the buffer
check reads it back from there; the digest is the first `cbHashValue` bytes at `pbHashValue`, and
`SignDigest` gets the caller's whole signature buffer. -/
def signHash (hProvider : NcryptProvHandle) (hKey : NcryptKeyHandle)
    (pPaddingInfo : Option Bytes) (pbHashValue : Option Bytes) (cbHashValue : Dword)
    (pbSignature : Option Bytes) (cbSignature : Dword) (pcbResult : Option Dword)
    (dwFlags : Dword) : BridgeM Unit := do
  let object ← liftExcept (host.validateKeyHandle hProvider hKey)
  liftExcept (checkPaddingInfo pPaddingInfo)
  let hashValue ← liftExcept (requireNonNull pbHashValue "pbHashValue cannot be null")
  let _ ← liftExcept (requireNonNull pcbResult "pcbResult cannot be null")
  liftExcept (validateFlags dwFlags)
  liftExcept (host.validateKeyPreconditions object)
  let signatureLength ← liftExcept (host.signatureLength object)
  let result : Dword := UInt32.ofNat signatureLength
  perform (.writeResult result)
  if pbSignature.isNone then
    return
  liftExcept (checkSignatureSize cbSignature result)
  perform (.signDigest hKey (hashValue.take cbHashValue.toNat) cbSignature)
  liftExcept (host.signDigest object (hashValue.take cbHashValue.toNat) cbSignature)

end

end Kmscng
