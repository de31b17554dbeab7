import KmsIntegrations.Kmsp11.Builder

/-!
# `LoadState`

`LoadState` lists the keys of a key ring and, for each HSM-protected key for asymmetric signing
or decryption, `LoadVersions` lists its versions and adds each enabled version whose algorithm
`GetDetails` knows, after fetching its public key. Any error in a listing, in `GetPublicKey` or
in `AddAsymmetricKey` ends the load; a skipped key or version is only logged.

The spec of each loop says which requests it sends (`versionRequests`, `keyRequests`), when it
succeeds (`VersionsOk`, `KeysOk`), and which versions it adds (`retainedVersions`,
`loadedVersions`), over the whole listing; `runs_loadVersionsLoop` and `runs_loadStateLoop`
prove them by induction over the range, each iteration cited from the spec of the call it makes.
-/

namespace Kmsp11

variable {PKey X509 CA : Type}

/-- `KmsClient` as `token.cc` uses it, which is not among the sources: the answer to each request.
A listing is a range whose every element is a `StatusOr`. -/
structure KmsClient where
  listCryptoKeys : String → List (Except Status CryptoKey)
  listCryptoKeyVersions : String → List (Except Status CryptoKeyVersion)
  getPublicKey : String → Except Status PublicKey

/-- Send a request to KMS. -/
def send (req : KmsRequest) : LoaderM CA Unit :=
  modify fun s => { s with requests := s.requests ++ [req] }

/-- The loop of `LoadVersions` over what is left of the range. -/
def loadVersionsLoop (ex : Externals PKey X509 CA) (client : KmsClient) :
    List (Except Status CryptoKeyVersion) → LoaderM CA Unit
  | [] => pure ()
  | it :: rest => do
    let ckv ← liftExcept it
    if ckv.state ≠ ENABLED then
      loadVersionsLoop ex client rest
    else if !ex.getDetailsOk ckv.algorithm then
      loadVersionsLoop ex client rest
    else
      send (.getPublicKey ckv.name)
      let pub ← liftExcept (client.getPublicKey ckv.name)
      addAsymmetricKey ex ckv pub
      loadVersionsLoop ex client rest

/-- `LoadVersions`. -/
def loadVersions (ex : Externals PKey X509 CA) (client : KmsClient) (key : CryptoKey) :
    LoaderM CA Unit := do
  send (.listCryptoKeyVersions key.name)
  loadVersionsLoop ex client (client.listCryptoKeyVersions key.name)

/-- The loop of `LoadState` over what is left of the range. -/
def loadStateLoop (ex : Externals PKey X509 CA) (client : KmsClient) :
    List (Except Status CryptoKey) → LoaderM CA Unit
  | [] => pure ()
  | it :: rest => do
    let key ← liftExcept it
    if key.versionTemplate.protectionLevel ≠ HSM then
      loadStateLoop ex client rest
    else if key.purpose = ASYMMETRIC_DECRYPT ∨ key.purpose = ASYMMETRIC_SIGN then
      loadVersions ex client key
      loadStateLoop ex client rest
    else
      loadStateLoop ex client rest

/-- `ObjectStoreBuilder::New`. -/
def ObjectStoreBuilder.new (ex : Externals PKey X509 CA) (generateCerts : Bool) :
    Except Status (ObjectStoreBuilder CA) :=
  if generateCerts then ex.certAuthorityNew.map fun ca => ⟨⟨[]⟩, some ca, []⟩
  else .ok ⟨⟨[]⟩, none, []⟩

/-- `LoadState`: the builder is its local, so the loader's builder is replaced. -/
def loadState (ex : Externals PKey X509 CA) (client : KmsClient) (keyRingName : String)
    (generateCerts : Bool) : LoaderM CA ObjectStoreState := do
  let builder ← liftExcept (ObjectStoreBuilder.new ex generateCerts)
  modify fun s => { s with builder }
  send (.listCryptoKeys keyRingName)
  loadStateLoop ex client (client.listCryptoKeys keyRingName)
  return (← get).builder.state

/-! ## What the loops are for -/

/-- The versions `LoadVersions` adds: enabled, with an algorithm `GetDetails` knows. -/
def versionRetained (ex : Externals PKey X509 CA) (ckv : CryptoKeyVersion) : Bool :=
  decide (ckv.state = ENABLED) && ex.getDetailsOk ckv.algorithm

/-- The keys `LoadState` lists the versions of: HSM-protected, for asymmetric signing or
decryption. -/
def keyRetained (key : CryptoKey) : Bool :=
  decide (key.versionTemplate.protectionLevel = HSM) &&
    decide (key.purpose = ASYMMETRIC_DECRYPT ∨ key.purpose = ASYMMETRIC_SIGN)

/-- The versions of a range that `LoadVersions` adds. -/
def retainedVersions (ex : Externals PKey X509 CA) :
    List (Except Status CryptoKeyVersion) → List CryptoKeyVersion
  | [] => []
  | .error _ :: _ => []
  | .ok ckv :: rest => (if versionRetained ex ckv then [ckv] else []) ++ retainedVersions ex rest

/-- The requests `LoadVersions` sends for a range, up to an error in it. -/
def versionRequests (ex : Externals PKey X509 CA) :
    List (Except Status CryptoKeyVersion) → List KmsRequest
  | [] => []
  | .error _ :: _ => []
  | .ok ckv :: rest =>
    (if versionRetained ex ckv then [.getPublicKey ckv.name] else []) ++ versionRequests ex rest

/-- Every element of the range is a version, and for each one kept `GetPublicKey` and
`AddAsymmetricKey` succeed. -/
def VersionsOk (ex : Externals PKey X509 CA) (client : KmsClient) (ca : Option CA)
    (vs : List (Except Status CryptoKeyVersion)) : Prop :=
  ∀ v ∈ vs, ∃ ckv, v = .ok ckv ∧ (versionRetained ex ckv = true →
    ∃ pk, client.getPublicKey ckv.name = .ok pk ∧ addAsymmetricKeyStatus ex ca ckv pk = .ok ())

/-- The versions a key range adds, key by key. -/
def loadedVersions (ex : Externals PKey X509 CA) (client : KmsClient) :
    List (Except Status CryptoKey) → List CryptoKeyVersion
  | [] => []
  | .error _ :: _ => []
  | .ok key :: rest =>
    (if keyRetained key then retainedVersions ex (client.listCryptoKeyVersions key.name) else []) ++
      loadedVersions ex client rest

/-- The requests `LoadState` sends for a key range, up to an error in it. -/
def keyRequests (ex : Externals PKey X509 CA) (client : KmsClient) :
    List (Except Status CryptoKey) → List KmsRequest
  | [] => []
  | .error _ :: _ => []
  | .ok key :: rest =>
    (if keyRetained key then
      .listCryptoKeyVersions key.name :: versionRequests ex (client.listCryptoKeyVersions key.name)
    else []) ++ keyRequests ex client rest

/-- Every element of the key range is a key, and the versions of each one kept load. -/
def KeysOk (ex : Externals PKey X509 CA) (client : KmsClient) (ca : Option CA)
    (keys : List (Except Status CryptoKey)) : Prop :=
  ∀ k ∈ keys, ∃ key, k = .ok key ∧
    (keyRetained key = true → VersionsOk ex client ca (client.listCryptoKeyVersions key.name))

/-- The versions a listing with no error adds, as the loops' purpose reads: of the keys kept,
in listing order, the versions kept. -/
def keptVersions (ex : Externals PKey X509 CA) (client : KmsClient)
    (keys : List (Except Status CryptoKey)) : List CryptoKeyVersion :=
  ((keys.filterMap Except.toOption).filter keyRetained).flatMap fun key =>
    ((client.listCryptoKeyVersions key.name).filterMap Except.toOption).filter (versionRetained ex)

theorem retainedVersions_eq_filter {ex : Externals PKey X509 CA}
    {vs : List (Except Status CryptoKeyVersion)} (hvs : ∀ v ∈ vs, ∃ ckv, v = .ok ckv) :
    retainedVersions ex vs = (vs.filterMap Except.toOption).filter (versionRetained ex) := by
  induction vs with
  | nil => rfl
  | cons v rest ih =>
    obtain ⟨ckv, rfl⟩ := hvs v (List.mem_cons_self _ _)
    rw [retainedVersions, ih fun v hv => hvs v (List.mem_cons_of_mem _ hv)]
    cases h : versionRetained ex ckv <;> simp [Except.toOption, List.filter_cons, h]

/-- When the key range loads, `loadedVersions` is what the loops are for. -/
theorem loadedVersions_eq_keptVersions {ex : Externals PKey X509 CA} {client : KmsClient}
    {ca : Option CA} {keys : List (Except Status CryptoKey)} (hk : KeysOk ex client ca keys) :
    loadedVersions ex client keys = keptVersions ex client keys := by
  induction keys with
  | nil => rfl
  | cons k rest ih =>
    obtain ⟨key, rfl, hvs⟩ := hk k (List.mem_cons_self _ _)
    rw [loadedVersions, ih fun k hk' => hk k (List.mem_cons_of_mem _ hk')]
    cases h : keyRetained key with
    | false => simp [keptVersions, Except.toOption, List.filter_cons, h]
    | true =>
      rw [retainedVersions_eq_filter fun v hv => (hvs h v hv).imp fun _ => And.left]
      simp [keptVersions, Except.toOption, List.filter_cons, h]

/-! ## Runs of the loops -/

/-- An iteration of `LoadVersions` on a version: the two `continue`s are the versions not kept. -/
theorem loadVersionsLoop_ok_cons {ex : Externals PKey X509 CA} {client : KmsClient}
    {ckv : CryptoKeyVersion} {rest : List (Except Status CryptoKeyVersion)} :
    loadVersionsLoop ex client (.ok ckv :: rest) =
      if versionRetained ex ckv then do
        send (.getPublicKey ckv.name)
        let pub ← liftExcept (client.getPublicKey ckv.name)
        addAsymmetricKey ex ckv pub
        loadVersionsLoop ex client rest
      else loadVersionsLoop ex client rest := by
  rw [loadVersionsLoop]
  simp only [liftExcept, pure_bind, versionRetained]
  split_ifs <;> simp_all

/-- An iteration of `LoadState` on a key: the two `continue`s are the keys not kept. -/
theorem loadStateLoop_ok_cons {ex : Externals PKey X509 CA} {client : KmsClient}
    {key : CryptoKey} {rest : List (Except Status CryptoKey)} :
    loadStateLoop ex client (.ok key :: rest) =
      if keyRetained key then do
        loadVersions ex client key
        loadStateLoop ex client rest
      else loadStateLoop ex client rest := by
  rw [loadStateLoop]
  simp only [liftExcept, pure_bind, keyRetained]
  split_ifs <;> simp_all


/-- `s'` extends `s` by requests and snapshot entries, with more handles allocated and the same
certificate authority. -/
structure Extends (s s' : Loader CA) (reqs : List KmsRequest) (keys : List AsymmetricKey) :
    Prop where
  certAuthority : s'.builder.certAuthority = s.builder.certAuthority
  allocated : s.builder.allocatedHandles ⊆ s'.builder.allocatedHandles
  requests : s'.requests = s.requests ++ reqs
  keys : s'.builder.state.asymmetricKeys = s.builder.state.asymmetricKeys ++ keys

variable {s s' : Loader CA}

theorem Extends.refl (s : Loader CA) : Extends s s [] [] :=
  ⟨rfl, fun _ => id, (List.append_nil _).symm, (List.append_nil _).symm⟩

theorem Extends.trans {s₁ s₂ s₃ : Loader CA} {r₁ r₂ : List KmsRequest}
    {k₁ k₂ : List AsymmetricKey} (h₁ : Extends s₁ s₂ r₁ k₁) (h₂ : Extends s₂ s₃ r₂ k₂) :
    Extends s₁ s₃ (r₁ ++ r₂) (k₁ ++ k₂) :=
  ⟨h₂.certAuthority.trans h₁.certAuthority, h₁.allocated.trans h₂.allocated,
    by rw [h₂.requests, h₁.requests, List.append_assoc],
    by rw [h₂.keys, h₁.keys, List.append_assoc]⟩

theorem runs_send {req : KmsRequest} {r : Except Status Unit} (h : Runs (send req : LoaderM CA Unit) s r s') :
    r = .ok () ∧ Extends s s' [req] [] := by
  obtain ⟨rfl, rfl⟩ := runs_modify h
  exact ⟨rfl, rfl, fun _ => id, rfl, (List.append_nil _).symm⟩

theorem KeyAdded.extends_error {ex : Externals PKey X509 CA} {ckv : CryptoKeyVersion}
    {pk : PublicKey} {e : Status} (hk : KeyAdded ex ckv pk s (.error e) s') : Extends s s' [] [] :=
  ⟨hk.certAuthority, hk.allocated, by rw [hk.requests, List.append_nil], by
    rcases hk.outcome with ⟨-, -, hst⟩ | ⟨⟨⟩, -⟩
    rw [hst, List.append_nil]⟩

theorem KeyAdded.extends_ok {ex : Externals PKey X509 CA} {ckv : CryptoKeyVersion}
    {pk : PublicKey} (hk : KeyAdded ex ckv pk s (.ok ()) s') :
    ∃ key : AsymmetricKey, key.cryptoKeyVersion = ckv ∧ Extends s s' [] [key] := by
  rcases hk.outcome with ⟨_, ⟨⟩, -⟩ | ⟨-, key, hkeys, hv, -⟩
  exact ⟨key, hv, hk.certAuthority, hk.allocated, by rw [hk.requests, List.append_nil], hkeys⟩

theorem versionsOk_cons {ex : Externals PKey X509 CA} {client : KmsClient} {ca : Option CA}
    {ckv : CryptoKeyVersion} {rest : List (Except Status CryptoKeyVersion)} :
    VersionsOk ex client ca (.ok ckv :: rest) ↔ (versionRetained ex ckv = true →
      ∃ pk, client.getPublicKey ckv.name = .ok pk ∧ addAsymmetricKeyStatus ex ca ckv pk = .ok ()) ∧
      VersionsOk ex client ca rest := by
  simp [VersionsOk]

theorem not_versionsOk_error {ex : Externals PKey X509 CA} {client : KmsClient} {ca : Option CA}
    {e : Status} {rest : List (Except Status CryptoKeyVersion)} :
    ¬ VersionsOk ex client ca (.error e :: rest) := by
  simp [VersionsOk]

/-- The spec of the loop of `LoadVersions` over a range: the requests it sends are those of the
range up to where it stops, it succeeds exactly when every element is a version and every
version kept is added, and then it has sent every request and added the versions kept, in
order. -/
theorem runs_loadVersionsLoop {ex : Externals PKey X509 CA} {client : KmsClient} :
    ∀ {vs : List (Except Status CryptoKeyVersion)} {s s' : Loader CA} {r : Except Status Unit},
    Runs (loadVersionsLoop ex client vs) s r s' →
    ∃ reqs keys, Extends s s' reqs keys ∧ reqs <+: versionRequests ex vs ∧
      (r = .ok () ↔ VersionsOk ex client s.builder.certAuthority vs) ∧
      (r = .ok () → reqs = versionRequests ex vs ∧
        keys.map (·.cryptoKeyVersion) = retainedVersions ex vs)
  | [], s, _, _, h => by
    obtain ⟨rfl, rfl⟩ := runs_pure h
    exact ⟨[], [], .refl s, List.nil_prefix, iff_of_true rfl (by simp [VersionsOk]),
      fun _ => ⟨rfl, rfl⟩⟩
  | .error e :: rest, s, s', r, h => by
    obtain ⟨⟩ : (Except.error e, s) = (r, s') := Option.some.inj h
    exact ⟨[], [], .refl s, List.nil_prefix, ⟨nofun, fun h => (not_versionsOk_error h).elim⟩, nofun⟩
  | .ok ckv :: rest, s, s', r, h => by
    rw [loadVersionsLoop_ok_cons] at h
    cases hv : versionRetained ex ckv with
    | false =>
      rw [hv, if_neg Bool.false_ne_true] at h
      obtain ⟨reqs, keys, hx, hp, hok, hfin⟩ := runs_loadVersionsLoop h
      refine ⟨reqs, keys, hx, by simpa [versionRequests, hv] using hp, ?_, ?_⟩
      · rw [hok, versionsOk_cons]; simp [hv]
      · simpa [versionRequests, retainedVersions, hv] using hfin
    | true =>
      rw [hv, if_pos rfl] at h
      rcases Runs.bind h with ⟨e, -, he⟩ | ⟨u, s₂, h₂, k₂⟩
      · cases (runs_send he).1
      obtain ⟨-, x₂⟩ := runs_send h₂
      rcases Runs.bind k₂ with ⟨e, rfl, he⟩ | ⟨pk, s₃, h₃, k₃⟩
      · obtain ⟨hpk, rfl⟩ := runs_liftExcept he
        refine ⟨_, _, x₂, by simp [versionRequests, hv], ⟨nofun, fun hvs => ?_⟩, nofun⟩
        obtain ⟨pk, hpk', -⟩ := (versionsOk_cons.1 hvs).1 hv
        rw [hpk'] at hpk; cases hpk
      obtain ⟨hpk, rfl⟩ := runs_liftExcept h₃
      have hca : s₂.builder.certAuthority = s.builder.certAuthority := x₂.certAuthority
      rcases Runs.bind k₃ with ⟨e, rfl, he⟩ | ⟨u, s₄, h₄, k₄⟩
      · have ka := addAsymmetricKey_runs he
        refine ⟨_, _, x₂.trans ka.extends_error, by simp [versionRequests, hv],
          ⟨nofun, fun hvs => ?_⟩, nofun⟩
        obtain ⟨pk', hpk', hst⟩ := (versionsOk_cons.1 hvs).1 hv
        rw [hpk'] at hpk; cases hpk
        rw [← hca, ← ka.status] at hst; cases hst
      have ka := addAsymmetricKey_runs h₄
      obtain ⟨key, hkey, x₄⟩ := ka.extends_ok
      obtain ⟨reqs, keys, hx, hp, hok, hfin⟩ := runs_loadVersionsLoop k₄
      refine ⟨_, _, (x₂.trans x₄).trans hx, by simpa [versionRequests, hv] using hp, ?_, ?_⟩
      · rw [hok, versionsOk_cons, x₄.certAuthority, hca]
        simp only [hv, true_implies, iff_and_self]
        exact fun _ => ⟨pk, hpk.symm, by rw [← hca, ← ka.status]⟩
      · intro hr
        obtain ⟨h1, h2⟩ := hfin hr
        simp [versionRequests, retainedVersions, hv, h1, h2, hkey]

/-- The spec of `LoadVersions`: the listing request, then the loop over the listing. -/
theorem runs_loadVersions {ex : Externals PKey X509 CA} {client : KmsClient} {key : CryptoKey}
    {r : Except Status Unit} (h : Runs (loadVersions ex client key) s r s') :
    let vs := client.listCryptoKeyVersions key.name
    ∃ reqs keys, Extends s s' (.listCryptoKeyVersions key.name :: reqs) keys ∧
      reqs <+: versionRequests ex vs ∧
      (r = .ok () ↔ VersionsOk ex client s.builder.certAuthority vs) ∧
      (r = .ok () → reqs = versionRequests ex vs ∧
        keys.map (·.cryptoKeyVersion) = retainedVersions ex vs) := by
  rcases Runs.bind h with ⟨e, -, he⟩ | ⟨u, s₁, h₁, k₁⟩
  · cases (runs_send he).1
  obtain ⟨-, x₁⟩ := runs_send h₁
  obtain ⟨reqs, keys, hx, hp, hok, hfin⟩ := runs_loadVersionsLoop k₁
  exact ⟨reqs, keys, x₁.trans hx, hp, by rw [hok, x₁.certAuthority], hfin⟩

theorem keysOk_cons {ex : Externals PKey X509 CA} {client : KmsClient} {ca : Option CA}
    {key : CryptoKey} {rest : List (Except Status CryptoKey)} :
    KeysOk ex client ca (.ok key :: rest) ↔ (keyRetained key = true →
      VersionsOk ex client ca (client.listCryptoKeyVersions key.name)) ∧
      KeysOk ex client ca rest := by
  simp [KeysOk]

theorem not_keysOk_error {ex : Externals PKey X509 CA} {client : KmsClient} {ca : Option CA}
    {e : Status} {rest : List (Except Status CryptoKey)} :
    ¬ KeysOk ex client ca (.error e :: rest) := by
  simp [KeysOk]

/-- The spec of the loop of `LoadState` over a key range: the requests it sends are those of the
range up to where it stops, it succeeds exactly when every element is a key and the versions of
every key kept load, and then it has sent every request and added the versions kept, key by
key. -/
theorem runs_loadStateLoop {ex : Externals PKey X509 CA} {client : KmsClient} :
    ∀ {keys : List (Except Status CryptoKey)} {s s' : Loader CA} {r : Except Status Unit},
    Runs (loadStateLoop ex client keys) s r s' →
    ∃ reqs ks, Extends s s' reqs ks ∧ reqs <+: keyRequests ex client keys ∧
      (r = .ok () ↔ KeysOk ex client s.builder.certAuthority keys) ∧
      (r = .ok () → reqs = keyRequests ex client keys ∧
        ks.map (·.cryptoKeyVersion) = loadedVersions ex client keys)
  | [], s, _, _, h => by
    obtain ⟨rfl, rfl⟩ := runs_pure h
    exact ⟨[], [], .refl s, List.nil_prefix, iff_of_true rfl (by simp [KeysOk]),
      fun _ => ⟨rfl, rfl⟩⟩
  | .error e :: rest, s, s', r, h => by
    obtain ⟨⟩ : (Except.error e, s) = (r, s') := Option.some.inj h
    exact ⟨[], [], .refl s, List.nil_prefix, ⟨nofun, fun h => (not_keysOk_error h).elim⟩, nofun⟩
  | .ok key :: rest, s, s', r, h => by
    rw [loadStateLoop_ok_cons] at h
    cases hk : keyRetained key with
    | false =>
      rw [hk, if_neg Bool.false_ne_true] at h
      obtain ⟨reqs, ks, hx, hp, hok, hfin⟩ := runs_loadStateLoop h
      refine ⟨reqs, ks, hx, by simpa [keyRequests, hk] using hp, ?_, ?_⟩
      · rw [hok, keysOk_cons]; simp [hk]
      · simpa [keyRequests, loadedVersions, hk] using hfin
    | true =>
      rw [hk, if_pos rfl] at h
      rcases Runs.bind h with ⟨e, rfl, he⟩ | ⟨u, s₂, h₂, k₂⟩
      · obtain ⟨reqs, ks, hx, hp, hok, -⟩ := runs_loadVersions he
        have hp' := ((List.prefix_cons_inj (KmsRequest.listCryptoKeyVersions key.name)).2 hp).trans
          (List.prefix_append _ (keyRequests ex client rest))
        refine ⟨_, ks, hx, by simpa [keyRequests, hk] using hp', ⟨nofun, fun hks => ?_⟩, nofun⟩
        exact absurd (hok.2 ((keysOk_cons.1 hks).1 hk)) nofun
      obtain ⟨reqs, ks, hx, hp, hok, hfin⟩ := runs_loadVersions h₂
      obtain ⟨hreqs, hks⟩ := hfin rfl
      obtain ⟨reqs', ks', hx', hp', hok', hfin'⟩ := runs_loadStateLoop k₂
      refine ⟨_, _, hx.trans hx', by simpa [keyRequests, hk, hreqs] using hp', ?_, ?_⟩
      · rw [hok', keysOk_cons, hx.certAuthority]
        simp only [hk, true_implies, iff_and_self]
        exact fun _ => hok.1 rfl
      · intro hr
        obtain ⟨h1, h2⟩ := hfin' hr
        simp [keyRequests, loadedVersions, hk, hreqs, hks, h1, h2]

/-! ## `LoadState` -/

/-- Every step of the load that can fail succeeds: `CertAuthority::New` when certificates are
generated, and the key range, loaded with the certificate authority `CertAuthority::New` made. -/
def LoadSucceeds (ex : Externals PKey X509 CA) (client : KmsClient) (keyRingName : String)
    (generateCerts : Bool) : Prop :=
  (generateCerts = true → ∃ ca, ex.certAuthorityNew = .ok ca) ∧
    KeysOk ex client (if generateCerts then ex.certAuthorityNew.toOption else none)
      (client.listCryptoKeys keyRingName)

/-- The requests a load sends when nothing fails. -/
def loadRequests (ex : Externals PKey X509 CA) (client : KmsClient) (keyRingName : String) :
    List KmsRequest :=
  .listCryptoKeys keyRingName :: keyRequests ex client (client.listCryptoKeys keyRingName)

/-- `ObjectStoreBuilder::New` succeeds exactly when `CertAuthority::New` does, if certificates are
generated, and its builder is empty and holds the certificate authority made then. -/
theorem ObjectStoreBuilder.new_eq_ok_iff {ex : Externals PKey X509 CA} {generateCerts : Bool}
    {b : ObjectStoreBuilder CA} :
    ObjectStoreBuilder.new ex generateCerts = .ok b ↔
      (generateCerts = true → ∃ ca, ex.certAuthorityNew = .ok ca) ∧
        b = ⟨⟨[]⟩, if generateCerts then ex.certAuthorityNew.toOption else none, []⟩ := by
  unfold ObjectStoreBuilder.new
  cases generateCerts <;> cases ex.certAuthorityNew <;>
    simp [Except.map, Except.toOption, eq_comm]

theorem ObjectStoreBuilder.new_empty {ex : Externals PKey X509 CA} {generateCerts : Bool}
    {b : ObjectStoreBuilder CA} (h : ObjectStoreBuilder.new ex generateCerts = .ok b) :
    b.state.asymmetricKeys = [] ∧ b.allocatedHandles = [] := by
  unfold ObjectStoreBuilder.new at h
  split at h
  · cases hc : ex.certAuthorityNew <;> simp [hc, Except.map] at h; subst h; exact ⟨rfl, rfl⟩
  · cases h; exact ⟨rfl, rfl⟩

/-- The spec of `LoadState`, whatever `RandomHandle` returns: it succeeds exactly when every step
that can fail succeeds; its snapshot then holds the versions kept, key by key, in listing order;
and the requests it sends are those of `loadRequests` up to where it stops, all of them when it
succeeds. -/
theorem runs_loadState {ex : Externals PKey X509 CA} {client : KmsClient} {keyRingName : String}
    {generateCerts : Bool} {r : Except Status ObjectStoreState}
    (h : Runs (loadState ex client keyRingName generateCerts) s r s') :
    ((∃ st, r = .ok st) ↔ LoadSucceeds ex client keyRingName generateCerts) ∧
    (∀ st, r = .ok st → st.asymmetricKeys.map (·.cryptoKeyVersion) =
      loadedVersions ex client (client.listCryptoKeys keyRingName)) ∧
    ∃ reqs, s'.requests = s.requests ++ reqs ∧ reqs <+: loadRequests ex client keyRingName ∧
      ∀ st, r = .ok st → reqs = loadRequests ex client keyRingName := by
  rcases Runs.bind h with ⟨e, rfl, he⟩ | ⟨b, s₁, h₁, k₁⟩
  · obtain ⟨hb, rfl⟩ := runs_liftExcept he
    refine ⟨⟨fun ⟨_, h⟩ => (nomatch h), fun ⟨hca, _⟩ => ?_⟩, nofun,
      [], (List.append_nil _).symm, List.nil_prefix, nofun⟩
    rw [ObjectStoreBuilder.new_eq_ok_iff.2 ⟨hca, rfl⟩] at hb; cases hb
  obtain ⟨hb, rfl⟩ := runs_liftExcept h₁
  obtain ⟨hkeys, -⟩ := ObjectStoreBuilder.new_empty hb.symm
  rcases Runs.bind k₁ with ⟨e, -, he⟩ | ⟨u, s₂, h₂, k₂⟩
  · cases (runs_modify he).1
  obtain ⟨-, rfl⟩ := runs_modify h₂
  rcases Runs.bind k₂ with ⟨e, -, he⟩ | ⟨u, s₃, h₃, k₃⟩
  · cases (runs_send he).1
  obtain ⟨-, x₃⟩ := runs_send h₃
  have hsucc : LoadSucceeds ex client keyRingName generateCerts ↔
      KeysOk ex client b.certAuthority (client.listCryptoKeys keyRingName) := by
    obtain ⟨hca, rfl⟩ := ObjectStoreBuilder.new_eq_ok_iff.1 hb.symm
    exact ⟨And.right, fun hk => ⟨hca, hk⟩⟩
  rcases Runs.bind k₃ with ⟨e, rfl, he⟩ | ⟨u, s₄, h₄, k₄⟩
  · obtain ⟨reqs, ks, hx, hp, hok, -⟩ := runs_loadStateLoop he
    refine ⟨⟨fun ⟨_, h⟩ => (nomatch h), fun hl => ?_⟩, nofun, _,
      by rw [hx.requests, x₃.requests, List.append_assoc], by simpa [loadRequests] using hp,
      nofun⟩
    rw [x₃.certAuthority] at hok
    exact absurd (hok.2 (hsucc.1 hl)) nofun
  obtain ⟨reqs, ks, hx, hp, hok, hfin⟩ := runs_loadStateLoop h₄
  obtain ⟨hreqs, hks⟩ := hfin rfl
  rcases Runs.bind k₄ with ⟨e, -, he⟩ | ⟨s₅, s₅', h₅, k₅⟩
  · cases (runs_get he).1
  obtain ⟨⟨⟩, rfl⟩ := runs_get h₅
  obtain ⟨rfl, rfl⟩ := runs_pure k₅
  refine ⟨iff_of_true ⟨_, rfl⟩ (hsucc.2 (by rw [← x₃.certAuthority]; exact hok.1 rfl)),
    fun st hst => ?_, _, by rw [hx.requests, x₃.requests, List.append_assoc],
    by simp [loadRequests, hreqs], fun _ _ => by simp [loadRequests, hreqs]⟩
  cases hst
  rw [hx.keys, x₃.keys]
  simpa [hkeys] using hks

end Kmsp11
