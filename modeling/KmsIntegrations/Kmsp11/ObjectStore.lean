import KmsIntegrations.Kmsp11.Basic

/-!
# The object store snapshot and its builder

The messages of `kms_v1` and of `object_store_state.proto` that `token.cc` reads and writes, the
helpers it calls from sources that are not given (`Externals`), and `ObjectStoreBuilder`, which
turns key versions into snapshot entries, giving each object a handle by `NewHandle`.

The loader of `token.cc` runs in `LoaderM`: its state is the builder, the values `RandomHandle`
will return, and the requests sent to KMS; an `absl::Status` returns early and keeps what the
steps before it changed, as `ASSIGN_OR_RETURN` does; `none` is a retry loop that has not found a
handle before the draws end. `Runs` reads a computation as a relation between start and end, and
each building block gets one lemma in its terms.
-/

namespace Kmsp11

/-- The contents of a protobuf `bytes` field. -/
abbrev Bytes := List UInt8

/-- `kms_v1::ProtectionLevel`: an open protobuf enum, so any `int32` value. -/
abbrev ProtectionLevel := Int

/-- `kms_v1::ProtectionLevel::HSM`. -/
def HSM : ProtectionLevel := 2

/-- `kms_v1::CryptoKey::CryptoKeyPurpose`. -/
abbrev CryptoKeyPurpose := Int

/-- `kms_v1::CryptoKey::ASYMMETRIC_SIGN`. -/
def ASYMMETRIC_SIGN : CryptoKeyPurpose := 5

/-- `kms_v1::CryptoKey::ASYMMETRIC_DECRYPT`. -/
def ASYMMETRIC_DECRYPT : CryptoKeyPurpose := 6

/-- `kms_v1::CryptoKeyVersion::CryptoKeyVersionState`. -/
abbrev CryptoKeyVersionState := Int

/-- `kms_v1::CryptoKeyVersion_CryptoKeyVersionState_ENABLED`. -/
def ENABLED : CryptoKeyVersionState := 1

/-- `kms_v1::CryptoKeyVersion::CryptoKeyVersionAlgorithm`. -/
abbrev CryptoKeyVersionAlgorithm := Int

/-- `kms_v1::CryptoKeyVersionTemplate`, the field of it `LoadState` reads. -/
structure CryptoKeyVersionTemplate where
  protectionLevel : ProtectionLevel
  deriving DecidableEq, Repr

/-- `kms_v1::CryptoKey`, the fields of it `LoadState` reads. -/
structure CryptoKey where
  name : String
  purpose : CryptoKeyPurpose
  versionTemplate : CryptoKeyVersionTemplate
  deriving DecidableEq, Repr

/-- `kms_v1::CryptoKeyVersion`, the fields of it `LoadVersions` reads. -/
structure CryptoKeyVersion where
  name : String
  state : CryptoKeyVersionState
  algorithm : CryptoKeyVersionAlgorithm
  deriving DecidableEq, Repr

/-- `kms_v1::PublicKey`, the field of it `AddAsymmetricKey` reads. -/
structure PublicKey where
  pem : String
  deriving DecidableEq, Repr

/-- `AsymmetricKey.Certificate` of `object_store_state.proto`. -/
structure Certificate where
  x509Der : Bytes
  handle : CkUlong
  deriving DecidableEq, Repr

/-- `AsymmetricKey` of `object_store_state.proto`; `certificate` is `none` when the message has
no certificate. -/
structure AsymmetricKey where
  cryptoKeyVersion : CryptoKeyVersion
  publicKeyHandle : CkUlong
  privateKeyHandle : CkUlong
  publicKeyDer : Bytes
  certificate : Option Certificate
  deriving DecidableEq, Repr

/-- `ObjectStoreState` of `object_store_state.proto`. -/
structure ObjectStoreState where
  asymmetricKeys : List AsymmetricKey
  deriving DecidableEq, Repr

/-- The handles an entry records, in the order `LoadObjects` binds them. -/
def AsymmetricKey.handles (k : AsymmetricKey) : List CkUlong :=
  [k.publicKeyHandle, k.privateKeyHandle] ++ (k.certificate.map (·.handle)).toList

/-- The handles a snapshot records. -/
def ObjectStoreState.handles (s : ObjectStoreState) : List CkUlong :=
  s.asymmetricKeys.flatMap AsymmetricKey.handles

/-- `CK_OBJECT_CLASS`. -/
abbrev CkObjectClass := CkUlong

/-- `kmsp11::Object`, what `Token::FindObjects` reads of it. -/
structure Object where
  kmsKeyName : String
  objectClass : CkObjectClass
  deriving DecidableEq, Repr

/-- `CKO_CERTIFICATE` (`pkcs11t.h`). -/
def CKO_CERTIFICATE : CkObjectClass := 1

/-- `CKO_PUBLIC_KEY` (`pkcs11t.h`). -/
def CKO_PUBLIC_KEY : CkObjectClass := 2

/-- `CKO_PRIVATE_KEY` (`pkcs11t.h`). -/
def CKO_PRIVATE_KEY : CkObjectClass := 3

/-- `kmsp11::KeyPair`. -/
structure KeyPair where
  publicKey : Object
  privateKey : Object
  deriving DecidableEq, Repr

/-- The code `token.cc` calls from sources that are not given: whether `GetDetails` of
`algorithm_details.h` knows an algorithm, the parsers and marshallers of `crypto_utils.h`,
`CertAuthority`, and the constructors of `Object`. Each may fail with any status; `PKey`,
`X509` and `CA` stand for `EVP_PKEY`, `X509` and `CertAuthority`. -/
structure Externals (PKey X509 CA : Type) where
  getDetailsOk : CryptoKeyVersionAlgorithm → Bool
  certAuthorityNew : Except Status CA
  parseX509PublicKeyPem : String → Except Status PKey
  marshalX509PublicKeyDer : PKey → Except Status Bytes
  generateCert : CA → CryptoKeyVersion → PKey → Except Status X509
  marshalX509CertificateDer : X509 → Except Status Bytes
  parseX509PublicKeyDer : Bytes → Except Status PKey
  parseX509CertificateDer : Bytes → Except Status X509
  newKeyPair : CryptoKeyVersion → PKey → Except Status KeyPair
  newCertificate : CryptoKeyVersion → X509 → Except Status Object

/-- Collaborators under which every call succeeds: keys and certificates are their own bytes, and
objects are named after the version with the class `Object::NewKeyPair` and
`Object::NewCertificate` give them. -/
def Externals.succeeding : Externals Bytes Bytes Unit where
  getDetailsOk _ := true
  certAuthorityNew := .ok ()
  parseX509PublicKeyPem pem := .ok pem.toUTF8.toList
  marshalX509PublicKeyDer pub := .ok pub
  generateCert _ _ pub := .ok pub
  marshalX509CertificateDer x509 := .ok x509
  parseX509PublicKeyDer der := .ok der
  parseX509CertificateDer der := .ok der
  newKeyPair ckv _ := .ok ⟨⟨ckv.name, CKO_PUBLIC_KEY⟩, ⟨ckv.name, CKO_PRIVATE_KEY⟩⟩
  newCertificate ckv _ := .ok ⟨ckv.name, CKO_CERTIFICATE⟩

/-- `ObjectStoreBuilder`: the snapshot so far, the certificate authority when certificates are
generated, and the `flat_hash_set` of handles handed out. -/
structure ObjectStoreBuilder (CA : Type) where
  state : ObjectStoreState
  certAuthority : Option CA
  allocatedHandles : List CkUlong

/-- A request `token.cc` sends to KMS. -/
inductive KmsRequest
  | listCryptoKeys (parent : String)
  | listCryptoKeyVersions (parent : String)
  | getPublicKey (name : String)
  deriving DecidableEq, Repr

/-- The loader's state: the builder, what `RandomHandle` returns from here on, and the requests
sent so far. -/
structure Loader (CA : Type) where
  builder : ObjectStoreBuilder CA
  draws : List CkUlong
  requests : List KmsRequest

/-- The loader's computations. -/
abbrev LoaderM (CA α : Type) := ExceptT Status (StateT (Loader CA) Option) α

end Kmsp11
