import KmsIntegrations.Kmsp11.ObjectStore

/-!
# `ObjectStoreBuilder::AddAsymmetricKey`

`NewHandle` draws until a handle is not in `allocated_handles_` and records it there;
`AddAsymmetricKey` parses the public key, takes a private and a public handle, marshals the key,
and, when the builder has a certificate authority, generates, marshals and takes a handle for a
certificate, then appends the entry. Any step can fail after handles were taken.

`addAsymmetricKey_runs` is the one spec lemma of the call: it appends one entry whose handles are
distinct and new to the builder, or it fails and leaves the snapshot as it was; in both cases the
allocated set only grows. `KeyAdded.handlesOk` derives from it that a call keeps the snapshot's
handles distinct and allocated, so every builder reached by any sequence of calls, under any
values of `RandomHandle`, records pairwise distinct handles that it has allocated
(`reachable_addAsymmetricKey`, in `Returns.lean` beside the termination of the call).
-/

namespace Kmsp11

open Common

variable {PKey X509 CA α β : Type}

/-! ## Runs of the loader -/

/-- `x`, run from `s`, returns `r` in state `s'`. -/
def Runs (x : LoaderM CA α) (s : Loader CA) (r : Except Status α) (s' : Loader CA) : Prop :=
  x.run.run s = some (r, s')

variable {s s' : Loader CA}

theorem Runs.bind {x : LoaderM CA α} {f : α → LoaderM CA β} {r : Except Status β}
    (h : Runs (x >>= f) s r s') :
    (∃ e, r = .error e ∧ Runs x s (.error e) s') ∨
      ∃ a s₁, Runs x s (.ok a) s₁ ∧ Runs (f a) s₁ r s' := by
  simp only [Runs, ExceptT.run_bind, StateT.run_bind] at h ⊢
  obtain ⟨⟨r₁, s₁⟩, h₁, h₂⟩ := Option.bind_eq_some.1 h
  cases r₁ with
  | error e =>
    obtain ⟨⟩ : (Except.error e, s₁) = (r, s') := Option.some.inj h₂
    exact .inl ⟨e, rfl, h₁⟩
  | ok a => exact .inr ⟨a, s₁, h₁, h₂⟩

theorem runs_liftExcept {e : Except Status α} {r : Except Status α}
    (h : Runs (liftExcept e : LoaderM CA α) s r s') : r = e ∧ s = s' := by
  cases e <;> obtain ⟨⟩ := Option.some.inj h <;> exact ⟨rfl, rfl⟩

theorem runs_pure {a : α} {r : Except Status α} (h : Runs (pure a : LoaderM CA α) s r s') :
    r = .ok a ∧ s = s' := by
  obtain ⟨⟩ := Option.some.inj h; exact ⟨rfl, rfl⟩

theorem runs_modify {f : Loader CA → Loader CA} {r : Except Status PUnit}
    (h : Runs (modify f : LoaderM CA PUnit) s r s') : r = .ok ⟨⟩ ∧ s' = f s := by
  obtain ⟨⟩ := Option.some.inj h; exact ⟨rfl, rfl⟩

theorem runs_get {r : Except Status (Loader CA)} (h : Runs (get : LoaderM CA (Loader CA)) s r s') :
    r = .ok s ∧ s = s' := by
  obtain ⟨⟩ : (Except.ok s, s) = (r, s') := Option.some.inj h
  exact ⟨rfl, rfl⟩

/-- `s'` is `s` with more handles allocated, and nothing else changed that the loader reads. -/
structure Grows (s s' : Loader CA) : Prop where
  state : s'.builder.state = s.builder.state
  certAuthority : s'.builder.certAuthority = s.builder.certAuthority
  requests : s'.requests = s.requests
  allocated : s.builder.allocatedHandles ⊆ s'.builder.allocatedHandles

theorem Grows.refl (s : Loader CA) : Grows s s := ⟨rfl, rfl, rfl, fun _ => id⟩

theorem Grows.trans {s₁ s₂ s₃ : Loader CA} (h₁ : Grows s₁ s₂) (h₂ : Grows s₂ s₃) : Grows s₁ s₃ :=
  ⟨h₂.state.trans h₁.state, h₂.certAuthority.trans h₁.certAuthority,
    h₂.requests.trans h₁.requests, h₁.allocated.trans h₂.allocated⟩

/-! ## `NewHandle` and `AddAsymmetricKey` -/

/-- `ObjectStoreBuilder::NewHandle`: draw until a handle is not in `allocated_handles_`, insert it
there, and return it. -/
def newHandle : LoaderM CA CkUlong :=
  ExceptT.mk fun s =>
    (drawUnused (fun h => decide (h ∈ s.builder.allocatedHandles)) s.draws).map
      fun (handle, draws) =>
        let builder := { s.builder with
          allocatedHandles := s.builder.allocatedHandles.insert handle }
        (.ok handle, { s with draws, builder })

/-- The `if (cert_authority_)` block of `AddAsymmetricKey`: with a certificate authority,
generate and marshal a certificate for the version, and give it a handle. -/
def generateCertificate (ex : Externals PKey X509 CA) (certAuthority : Option CA)
    (ckv : CryptoKeyVersion) (pub : PKey) : LoaderM CA (Option Certificate) :=
  match certAuthority with
  | none => pure none
  | some ca => do
    let x509 ← liftExcept (ex.generateCert ca ckv pub)
    let x509Der ← liftExcept (ex.marshalX509CertificateDer x509)
    let handle ← newHandle
    pure (some { x509Der, handle })

/-- `ObjectStoreBuilder::AddAsymmetricKey`. -/
def addAsymmetricKey (ex : Externals PKey X509 CA) (ckv : CryptoKeyVersion)
    (publicKey : PublicKey) : LoaderM CA Unit := do
  let pub ← liftExcept (ex.parseX509PublicKeyPem publicKey.pem)
  let privateKeyHandle ← newHandle
  let publicKeyHandle ← newHandle
  let publicKeyDer ← liftExcept (ex.marshalX509PublicKeyDer pub)
  let certificate ← generateCertificate ex (← get).builder.certAuthority ckv pub
  modify fun s => { s with builder := { s.builder with
    state := ⟨s.builder.state.asymmetricKeys ++
      [{ cryptoKeyVersion := ckv, publicKeyHandle, privateKeyHandle, publicKeyDer,
         certificate }]⟩ } }

/-- The status of the certificate block, which the handle drawn does not change. -/
def generateCertificateStatus (ex : Externals PKey X509 CA) (certAuthority : Option CA)
    (ckv : CryptoKeyVersion) (pub : PKey) : Except Status Unit :=
  match certAuthority with
  | none => pure ()
  | some ca => do
    let x509 ← ex.generateCert ca ckv pub
    let _ ← ex.marshalX509CertificateDer x509
    pure ()

/-- The status of `AddAsymmetricKey`, which the handles drawn do not change. -/
def addAsymmetricKeyStatus (ex : Externals PKey X509 CA) (certAuthority : Option CA)
    (ckv : CryptoKeyVersion) (pk : PublicKey) : Except Status Unit := do
  let pub ← ex.parseX509PublicKeyPem pk.pem
  let _ ← ex.marshalX509PublicKeyDer pub
  generateCertificateStatus ex certAuthority ckv pub

/-- `NewHandle` returns a handle that was not allocated and allocates it. -/
theorem runs_newHandle {r : Except Status CkUlong} (h : Runs (newHandle : LoaderM CA CkUlong) s r s') :
    ∃ handle, r = .ok handle ∧ Grows s s' ∧ handle ∉ s.builder.allocatedHandles ∧
      handle ∈ s'.builder.allocatedHandles := by
  simp only [Runs, newHandle, ExceptT.run_mk, StateT.run, Option.map_eq_some', Prod.mk.injEq] at h
  obtain ⟨⟨handle, draws⟩, hd, rfl, rfl⟩ := h
  have hfree : handle ∉ s.builder.allocatedHandles := by simpa using (drawUnused_eq_some hd).1
  refine ⟨handle, rfl, ⟨rfl, rfl, rfl, fun x hx => List.mem_insert_of_mem hx⟩, hfree, ?_⟩
  exact List.mem_insert_self _ _

/-- The certificate block allocates only the certificate's handle, and makes a certificate
exactly when there is a certificate authority. -/
theorem runs_generateCertificate {ex : Externals PKey X509 CA} {ca : Option CA}
    {ckv : CryptoKeyVersion} {pub : PKey} {r : Except Status (Option Certificate)}
    (h : Runs (generateCertificate ex ca ckv pub) s r s') :
    Grows s s' ∧ (fun _ => ()) <$> r = generateCertificateStatus ex ca ckv pub ∧
      ∀ c, r = .ok c → (c.isSome ↔ ca.isSome) ∧
        ∀ cert ∈ c, cert.handle ∉ s.builder.allocatedHandles ∧
          cert.handle ∈ s'.builder.allocatedHandles := by
  cases ca with
  | none =>
    obtain ⟨rfl, rfl⟩ := runs_pure h
    exact ⟨Grows.refl s, rfl, fun c hc => by cases hc; simp⟩
  | some ca =>
  rcases Runs.bind h with ⟨e, rfl, he⟩ | ⟨x509, s₁, h₁, k₁⟩
  · obtain ⟨hx, rfl⟩ := runs_liftExcept he
    exact ⟨Grows.refl s, by simp only [generateCertificateStatus, ← hx, except_error_bind]; rfl, nofun⟩
  obtain ⟨hx, rfl⟩ := runs_liftExcept h₁
  rcases Runs.bind k₁ with ⟨e, rfl, he⟩ | ⟨der, s₂, h₂, k₂⟩
  · obtain ⟨hd, rfl⟩ := runs_liftExcept he
    exact ⟨Grows.refl s, by simp only [generateCertificateStatus, ← hx, ← hd, except_ok_bind, except_error_bind]; rfl, nofun⟩
  obtain ⟨hd, rfl⟩ := runs_liftExcept h₂
  rcases Runs.bind k₂ with ⟨e, -, he⟩ | ⟨handle, s₃, h₃, k₃⟩
  · obtain ⟨_, ⟨⟩, -⟩ := runs_newHandle he
  obtain ⟨_, ⟨⟩, g, hfree, hmem⟩ := runs_newHandle h₃
  obtain ⟨rfl, rfl⟩ := runs_pure k₃
  exact ⟨g, by simp only [generateCertificateStatus, ← hx, ← hd, except_ok_bind, except_error_bind]; rfl,
    fun c hc => by cases hc; simpa using ⟨hfree, hmem⟩⟩

/-- What one `AddAsymmetricKey` call may do, from `s` to `s'` returning `r`: allocate handles,
and either fail with the snapshot unchanged, or append one entry for `ckv`, with a certificate
exactly when the builder has a certificate authority, whose handles are distinct and new. -/
structure KeyAdded (ex : Externals PKey X509 CA) (ckv : CryptoKeyVersion) (pk : PublicKey)
    (s : Loader CA) (r : Except Status Unit) (s' : Loader CA) : Prop where
  status : r = addAsymmetricKeyStatus ex s.builder.certAuthority ckv pk
  certAuthority : s'.builder.certAuthority = s.builder.certAuthority
  requests : s'.requests = s.requests
  allocated : s.builder.allocatedHandles ⊆ s'.builder.allocatedHandles
  outcome : (∃ e, r = .error e ∧ s'.builder.state = s.builder.state) ∨
    (r = .ok () ∧ ∃ key : AsymmetricKey,
      s'.builder.state.asymmetricKeys = s.builder.state.asymmetricKeys ++ [key] ∧
      key.cryptoKeyVersion = ckv ∧ (key.certificate.isSome ↔ s.builder.certAuthority.isSome) ∧
      key.handles.Nodup ∧ ∀ h ∈ key.handles,
        h ∉ s.builder.allocatedHandles ∧ h ∈ s'.builder.allocatedHandles)

theorem KeyAdded.of_grows {ex : Externals PKey X509 CA} {ckv : CryptoKeyVersion}
    {pk : PublicKey} {e : Status} (g : Grows s s')
    (he : Except.error e = addAsymmetricKeyStatus ex s.builder.certAuthority ckv pk) :
    KeyAdded ex ckv pk s (.error e) s' :=
  ⟨he, g.certAuthority, g.requests, g.allocated, .inl ⟨e, rfl, g.state⟩⟩

/-- The spec of `AddAsymmetricKey`. -/
theorem addAsymmetricKey_runs {ex : Externals PKey X509 CA} {ckv : CryptoKeyVersion}
    {pk : PublicKey} {r : Except Status Unit} (h : Runs (addAsymmetricKey ex ckv pk) s r s') :
    KeyAdded ex ckv pk s r s' := by
  unfold addAsymmetricKey at h
  rcases Runs.bind h with ⟨e, rfl, he⟩ | ⟨pub, s₁, h₁, k₁⟩
  · obtain ⟨hp, rfl⟩ := runs_liftExcept he
    exact .of_grows (Grows.refl s) (by simp only [addAsymmetricKeyStatus, ← hp, except_error_bind])
  obtain ⟨hp, rfl⟩ := runs_liftExcept h₁
  rcases Runs.bind k₁ with ⟨e, -, he⟩ | ⟨priv, s₂, h₂, k₂⟩
  · obtain ⟨_, ⟨⟩, -⟩ := runs_newHandle he
  obtain ⟨_, ⟨⟩, g₂, hpriv, hpriv'⟩ := runs_newHandle h₂
  rcases Runs.bind k₂ with ⟨e, -, he⟩ | ⟨pubH, s₃, h₃, k₃⟩
  · obtain ⟨_, ⟨⟩, -⟩ := runs_newHandle he
  obtain ⟨_, ⟨⟩, g₃, hpub, hpub'⟩ := runs_newHandle h₃
  rcases Runs.bind k₃ with ⟨e, rfl, he⟩ | ⟨der, s₄, h₄, k₄⟩
  · obtain ⟨hm, rfl⟩ := runs_liftExcept he
    exact .of_grows (g₂.trans g₃) (by simp only [addAsymmetricKeyStatus, ← hp, ← hm, except_ok_bind, except_error_bind])
  obtain ⟨hm, rfl⟩ := runs_liftExcept h₄
  rcases Runs.bind k₄ with ⟨e, -, he⟩ | ⟨s₅, s₅', h₅, k₅⟩
  · cases (runs_get he).1
  obtain ⟨⟨⟩, rfl⟩ := runs_get h₅
  have hca : s₃.builder.certAuthority = s.builder.certAuthority :=
    g₃.certAuthority.trans g₂.certAuthority
  rcases Runs.bind k₅ with ⟨e, rfl, he⟩ | ⟨cert, s₆, h₆, k₆⟩
  · obtain ⟨g₆, hst, -⟩ := runs_generateCertificate he
    exact .of_grows ((g₂.trans g₃).trans g₆) (by
      simp only [addAsymmetricKeyStatus, ← hp, ← hm, except_ok_bind, ← hca, ← hst]; rfl)
  obtain ⟨g₆, hst, hcert⟩ := runs_generateCertificate h₆
  obtain ⟨hsome, hc⟩ := hcert cert rfl
  obtain ⟨rfl, rfl⟩ := runs_modify k₆
  have g := (g₂.trans g₃).trans g₆
  refine ⟨by simp only [addAsymmetricKeyStatus, ← hp, ← hm, except_ok_bind, ← hca, ← hst]; rfl, g.certAuthority,
    g.requests, g.allocated, .inr ⟨rfl, ⟨ckv, pubH, priv, der, cert⟩,
    by simp [g.state], rfl, by rw [hsome, hca], ?_, ?_⟩⟩
  · have hne : pubH ≠ priv := fun e => hpub (e ▸ hpriv')
    cases cert with
    | none => simp [AsymmetricKey.handles, hne]
    | some c =>
      have hc₃ := (hc c rfl).1
      have h₁ : pubH ≠ c.handle := fun e => hc₃ (e ▸ hpub')
      have h₂ : priv ≠ c.handle := fun e => hc₃ (e ▸ g₃.allocated hpriv')
      simp [AsymmetricKey.handles, hne, h₁, h₂]
  · have hcert : ∀ x ∈ (cert.map (·.handle)).toList,
        x ∉ s.builder.allocatedHandles ∧ x ∈ s₆.builder.allocatedHandles := by
      cases cert with
      | none => nofun
      | some c =>
        simp only [Option.map_some', Option.toList_some, List.mem_singleton, forall_eq]
        exact ⟨fun h => (hc c rfl).1 (g₃.allocated (g₂.allocated h)), (hc c rfl).2⟩
    intro x hx
    rcases List.mem_append.1 hx with hx | hx
    · rcases List.mem_pair.1 hx with rfl | rfl
      · exact ⟨fun h => hpub (g₂.allocated h), g₆.allocated hpub'⟩
      · exact ⟨hpriv, g₆.allocated (g₃.allocated hpriv')⟩
    · exact hcert x hx

/-! ## Every reachable builder -/

/-- The builders reached from `ObjectStoreBuilder::New`, with or without a certificate authority,
by any sequence of `AddAsymmetricKey` calls, failing or not, each under any values of
`RandomHandle`. -/
inductive Reachable (ex : Externals PKey X509 CA) : ObjectStoreBuilder CA → Prop
  | new (certAuthority : Option CA) : Reachable ex ⟨⟨[]⟩, certAuthority, []⟩
  | addAsymmetricKey {b : ObjectStoreBuilder CA} {s' : Loader CA} {r : Except Status Unit}
      (ckv : CryptoKeyVersion) (pk : PublicKey) (draws : List CkUlong) (requests : List KmsRequest) :
      Reachable ex b → Runs (addAsymmetricKey ex ckv pk) ⟨b, draws, requests⟩ r s' →
      Reachable ex s'.builder

/-- The handles the snapshot records are pairwise distinct, and all allocated. -/
def HandlesOk (b : ObjectStoreBuilder CA) : Prop :=
  b.state.handles.Nodup ∧ ∀ h ∈ b.state.handles, h ∈ b.allocatedHandles

/-- `AddAsymmetricKey` keeps the snapshot's handles distinct and allocated. -/
theorem KeyAdded.handlesOk {ex : Externals PKey X509 CA} {ckv : CryptoKeyVersion}
    {pk : PublicKey} {r : Except Status Unit} (hk : KeyAdded ex ckv pk s r s') (hi : HandlesOk s.builder) : HandlesOk s'.builder := by
  rcases hk.outcome with ⟨-, -, hst⟩ | ⟨-, key, hkeys, -, -, hnd, hfresh⟩
  · rw [HandlesOk, hst]
    exact ⟨hi.1, fun h hh => hk.allocated (hi.2 h hh)⟩
  · have hh : s'.builder.state.handles = s.builder.state.handles ++ key.handles := by
      simp [ObjectStoreState.handles, hkeys]
    rw [HandlesOk, hh, List.nodup_append]
    refine ⟨⟨hi.1, hnd, fun x hx hy => (hfresh x hy).1 (hi.2 x hx)⟩, fun x hx => ?_⟩
    rcases List.mem_append.1 hx with hx | hx
    · exact hk.allocated (hi.2 x hx)
    · exact (hfresh x hx).2

end Kmsp11