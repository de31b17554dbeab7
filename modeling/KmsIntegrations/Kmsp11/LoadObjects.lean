import Mathlib.Data.List.Duplicate
import KmsIntegrations.Kmsp11.HandleMap
import KmsIntegrations.Kmsp11.ObjectStore

/-!
# `LoadObjects`

`LoadObjects` rebuilds the token's objects from a snapshot without contacting KMS: for each entry
it parses the public key, builds the key pair, and `AddDirect`s the public and the private key
under the entry's handles, then parses, builds and adds the certificate when there is one. The
first failing step, a parse, a constructor or an `AddDirect` at a handle in use, ends it.

* `addDirectAll_of_nodup` and `addDirectAll_of_not_nodup` say what a run of `AddDirect`s does:
  it succeeds exactly when its handles are distinct and unbound, and then binds each to its
  item and changes no other binding; otherwise it fails at a handle bound or repeated.
* `loadKey_eq_addDirectAll`: when an entry's keys parse and its objects build, its iteration is
  the run of `AddDirect`s over `AsymmetricKey.objects`, and the loop is one run over the
  snapshot's.
* `loadObjects_spec` reads the two together on the snapshot's handles.
-/

namespace Kmsp11

open Common

variable {PKey X509 CA T : Type}

/-- `RETURN_IF_ERROR(objects->AddDirect(handle, item))`: the map after the call, or its error. -/
def addDirectOrReturn (objects : HandleMap T) (handle : CkUlong) (item : T) :
    Except Status (HandleMap T) :=
  match objects.addDirect handle item with
  | (.ok (), objects) => .ok objects
  | (.error e, _) => .error e

/-- The body of the loop of `LoadObjects`, for one entry. -/
def loadKey (ex : Externals PKey X509 CA) (objects : HandleMap Object) (key : AsymmetricKey) :
    Except Status (HandleMap Object) := do
  let pub ← ex.parseX509PublicKeyDer key.publicKeyDer
  let keyPair ← ex.newKeyPair key.cryptoKeyVersion pub
  let objects ← addDirectOrReturn objects key.publicKeyHandle keyPair.publicKey
  let objects ← addDirectOrReturn objects key.privateKeyHandle keyPair.privateKey
  match key.certificate with
  | none => pure objects
  | some certificate => do
    let x509 ← ex.parseX509CertificateDer certificate.x509Der
    let cert ← ex.newCertificate key.cryptoKeyVersion x509
    addDirectOrReturn objects certificate.handle cert

/-- `LoadObjects`: the loop over the entries, from a map with `CKR_OBJECT_HANDLE_INVALID`. -/
def loadObjects (ex : Externals PKey X509 CA) (state : ObjectStoreState) :
    Except Status (HandleMap Object) :=
  state.asymmetricKeys.foldlM (loadKey ex) (HandleMap.new CKR_OBJECT_HANDLE_INVALID)

/-! ## Runs of `AddDirect` -/

/-- A run of `AddDirect`s, each under `RETURN_IF_ERROR`. -/
def addDirectAll (objects : HandleMap T) (bindings : List (CkUlong × T)) :
    Except Status (HandleMap T) :=
  bindings.foldlM (fun objects b => addDirectOrReturn objects b.1 b.2) objects

section
variable {m m' : HandleMap T} {h : CkUlong} {x : T}

theorem addDirectOrReturn_of_lookup_eq_none (x : T) (hh : m.lookup h = none) :
    ∃ m', addDirectOrReturn m h x = .ok m' ∧ m'.lookup = Function.update m.lookup h (some x) ∧
      m'.notFoundRv = m.notFoundRv := by
  obtain ⟨hst, hl, hrv⟩ := HandleMap.addDirect_of_lookup_eq_none x hh
  refine ⟨_, ?_, hl, hrv⟩
  rw [addDirectOrReturn, ← Prod.mk.eta (p := m.addDirect h x), hst]

theorem addDirectOrReturn_of_lookup_ne_none (hh : m.lookup h ≠ none) :
    addDirectOrReturn m h x = .error (HandleMap.alreadyInUse h) := by
  rw [addDirectOrReturn, HandleMap.addDirect_of_lookup_ne_none hh]

/-- A run of `AddDirect`s at distinct unbound handles binds each to its item, changes no other
binding, and keeps the not-found value. -/
theorem addDirectAll_of_nodup :
    ∀ {bs : List (CkUlong × T)} {m : HandleMap T}, (bs.map Prod.fst).Nodup →
      (∀ b ∈ bs, m.lookup b.1 = none) →
      ∃ m', addDirectAll m bs = .ok m' ∧ (∀ b ∈ bs, m'.lookup b.1 = some b.2) ∧
        (∀ h ∉ bs.map Prod.fst, m'.lookup h = m.lookup h) ∧ m'.notFoundRv = m.notFoundRv
  | [], m, _, _ => ⟨m, rfl, nofun, fun _ _ => rfl, rfl⟩
  | b :: bs, m, hn, hf => by
    obtain ⟨hb, hn⟩ := List.nodup_cons.1 hn
    obtain ⟨m₁, h₁, hl₁, hrv₁⟩ :=
      addDirectOrReturn_of_lookup_eq_none b.2 (hf b (List.mem_cons_self _ _))
    have hf₁ : ∀ b' ∈ bs, m₁.lookup b'.1 = none := fun b' hb' => by
      have hne : b'.1 ≠ b.1 := fun he => hb (he ▸ List.mem_map_of_mem _ hb')
      rw [hl₁, Function.update_noteq hne]
      exact hf b' (List.mem_cons_of_mem _ hb')
    obtain ⟨m', h', hin, hout, hrv'⟩ := addDirectAll_of_nodup hn hf₁
    refine ⟨m', by simp [addDirectAll, h₁, ← h'], ?_, fun h hh => ?_, hrv'.trans hrv₁⟩
    · rintro b' (_ | ⟨_, hb'⟩)
      · rw [hout _ hb, hl₁, Function.update_same]
      · exact hin b' hb'
    · rw [List.map_cons, List.mem_cons, not_or] at hh
      rw [hout h hh.2, hl₁, Function.update_noteq hh.1]

/-- A run of `AddDirect`s whose handles are not distinct and unbound fails with the 'already in
use' status, at a handle that was bound before the run or that the run repeats. -/
theorem addDirectAll_of_not_nodup :
    ∀ {bs : List (CkUlong × T)} {m : HandleMap T},
      ¬ ((bs.map Prod.fst).Nodup ∧ ∀ b ∈ bs, m.lookup b.1 = none) →
      ∃ h, addDirectAll m bs = .error (HandleMap.alreadyInUse h) ∧
        ((h ∈ bs.map Prod.fst ∧ m.lookup h ≠ none) ∨ List.Duplicate h (bs.map Prod.fst))
  | [], _, hbad => absurd ⟨List.nodup_nil, nofun⟩ hbad
  | b :: bs, m, hbad => by
    by_cases hb : m.lookup b.1 = none
    · obtain ⟨m₁, h₁, hl₁, -⟩ := addDirectOrReturn_of_lookup_eq_none b.2 hb
      have hbad₁ : ¬ ((bs.map Prod.fst).Nodup ∧ ∀ b' ∈ bs, m₁.lookup b'.1 = none) := by
        rintro ⟨hn, hf₁⟩
        have hf : ∀ b' ∈ bs, b'.1 ≠ b.1 ∧ m.lookup b'.1 = none := fun b' hb' => by
          have := hf₁ b' hb'
          rw [hl₁, Function.update_apply] at this
          split at this
          · cases this
          · exact ⟨‹_›, this⟩
        refine hbad ⟨List.nodup_cons.2 ⟨fun hm => ?_, hn⟩, ?_⟩
        · obtain ⟨b', hb', he⟩ := List.mem_map.1 hm
          exact (hf b' hb').1 he
        · rintro b' (_ | ⟨_, hb'⟩)
          exacts [hb, (hf b' hb').2]
      obtain ⟨h, h', hdup⟩ := addDirectAll_of_not_nodup hbad₁
      refine ⟨h, by simp [addDirectAll, h₁, ← h'], ?_⟩
      rw [List.map_cons, List.duplicate_cons_iff, List.mem_cons]
      rcases hdup with ⟨hm, hl⟩ | hdup
      · by_cases hhb : h = b.1
        · exact .inr (.inl ⟨hhb.symm, hm⟩)
        · rw [hl₁, Function.update_noteq hhb] at hl
          exact .inl ⟨.inr hm, hl⟩
      · exact .inr (.inr hdup)
    · refine ⟨b.1, ?_, .inl ⟨List.mem_cons_self _ _, hb⟩⟩
      simp [addDirectAll, addDirectOrReturn_of_lookup_ne_none hb]

end

/-! ## An entry's objects -/

/-- The certificate object of an entry under its handle, as `LoadObjects` builds it. -/
def AsymmetricKey.certificateObject (ex : Externals PKey X509 CA) (key : AsymmetricKey) :
    Except Status (List (CkUlong × Object)) :=
  match key.certificate with
  | none => pure []
  | some certificate => do
    let x509 ← ex.parseX509CertificateDer certificate.x509Der
    let cert ← ex.newCertificate key.cryptoKeyVersion x509
    pure [(certificate.handle, cert)]

/-- The objects of an entry under their handles, as `LoadObjects` builds them:
`Object::NewKeyPair`'s public and private key, then the certificate object. -/
def AsymmetricKey.objects (ex : Externals PKey X509 CA) (key : AsymmetricKey) :
    Except Status (List (CkUlong × Object)) := do
  let pub ← ex.parseX509PublicKeyDer key.publicKeyDer
  let keyPair ← ex.newKeyPair key.cryptoKeyVersion pub
  let certificate ← key.certificateObject ex
  pure ((key.publicKeyHandle, keyPair.publicKey) :: (key.privateKeyHandle, keyPair.privateKey) ::
    certificate)

section
variable {ex : Externals PKey X509 CA} {key : AsymmetricKey} {os : List (CkUlong × Object)}

theorem AsymmetricKey.objects_eq_ok (h : key.objects ex = .ok os) :
    ∃ pub keyPair cs, ex.parseX509PublicKeyDer key.publicKeyDer = .ok pub ∧
      ex.newKeyPair key.cryptoKeyVersion pub = .ok keyPair ∧ key.certificateObject ex = .ok cs ∧
      os = (key.publicKeyHandle, keyPair.publicKey) ::
        (key.privateKeyHandle, keyPair.privateKey) :: cs := by
  simp only [AsymmetricKey.objects, except_bind_eq_ok] at h
  obtain ⟨pub, hp, kp, hk, cs, hc, hos⟩ := h
  exact ⟨pub, kp, cs, hp, hk, hc, (Except.ok.inj hos).symm⟩

/-- The certificate object sits under the certificate's handle, and there is one exactly when
the entry has a certificate. -/
theorem AsymmetricKey.map_fst_certificateObject {cs : List (CkUlong × Object)}
    (h : key.certificateObject ex = .ok cs) :
    cs.map Prod.fst = (key.certificate.map Certificate.handle).toList := by
  unfold AsymmetricKey.certificateObject at h
  split at h
  · cases h; simp [*]
  · simp only [except_bind_eq_ok] at h
    obtain ⟨_, -, _, -, h⟩ := h
    cases h; simp [*]

/-- The objects of an entry sit under the entry's handles, in order. -/
theorem AsymmetricKey.map_fst_objects (h : key.objects ex = .ok os) :
    os.map Prod.fst = key.handles := by
  obtain ⟨pub, kp, cs, -, -, hc, rfl⟩ := AsymmetricKey.objects_eq_ok h
  simp [AsymmetricKey.handles, AsymmetricKey.map_fst_certificateObject hc]

/-- When an entry's keys parse and its objects build, its iteration of `LoadObjects` is the run
of `AddDirect`s over its objects. -/
theorem loadKey_eq_addDirectAll (h : key.objects ex = .ok os) (m : HandleMap Object) :
    loadKey ex m key = addDirectAll m os := by
  obtain ⟨pub, kp, cs, hp, hk, hc, rfl⟩ := AsymmetricKey.objects_eq_ok h
  simp only [loadKey, addDirectAll, hp, hk, except_ok_bind, List.foldlM_cons]
  congr; funext m₁; congr; funext m₂
  unfold AsymmetricKey.certificateObject at hc
  split at hc
  · cases hc; rfl
  · simp only [except_bind_eq_ok] at hc
    obtain ⟨x, hx, o, ho, hcs⟩ := hc
    cases hcs; simp [hx, ho]

/-- When every entry's keys parse and objects build, the loop of `LoadObjects` from any map is
one run of `AddDirect`s over the snapshot's objects, under the snapshot's handles. -/
theorem foldlM_loadKey_eq_addDirectAll :
    ∀ {keys : List AsymmetricKey}, (∀ key ∈ keys, ∃ os, key.objects ex = .ok os) →
      ∃ os : List (CkUlong × Object), os.map Prod.fst = keys.flatMap AsymmetricKey.handles ∧
        (∀ key ∈ keys, ∀ os', key.objects ex = .ok os' → ∀ b ∈ os', b ∈ os) ∧
        ∀ m, keys.foldlM (loadKey ex) m = addDirectAll m os
  | [], _ => ⟨[], rfl, nofun, fun _ => rfl⟩
  | key :: rest, hb => by
    obtain ⟨os₁, h₁⟩ := hb key (List.mem_cons_self _ _)
    obtain ⟨os₂, hh₂, hin₂, h₂⟩ :=
      foldlM_loadKey_eq_addDirectAll fun k hk => hb k (List.mem_cons_of_mem _ hk)
    refine ⟨os₁ ++ os₂, by simp [AsymmetricKey.map_fst_objects h₁, hh₂], ?_, fun m => ?_⟩
    · rintro k (_ | ⟨_, hk⟩) os' h' b hb'
      · rw [h₁] at h'; cases h'; exact List.mem_append_left _ hb'
      · exact List.mem_append_right _ (hin₂ k hk os' h' b hb')
    · simp only [List.foldlM_cons, loadKey_eq_addDirectAll h₁, h₂, addDirectAll,
        List.foldlM_append]

end

/-! ## `LoadObjects` -/

/-- Every key and certificate of the snapshot parses, and every object of it builds. -/
def Builds (ex : Externals PKey X509 CA) (state : ObjectStoreState) : Prop :=
  ∀ key ∈ state.asymmetricKeys,
    (∃ pub keyPair, ex.parseX509PublicKeyDer key.publicKeyDer = .ok pub ∧
      ex.newKeyPair key.cryptoKeyVersion pub = .ok keyPair) ∧
    ∀ certificate, key.certificate = some certificate →
      ∃ x509 cert, ex.parseX509CertificateDer certificate.x509Der = .ok x509 ∧
        ex.newCertificate key.cryptoKeyVersion x509 = .ok cert

/-- Every entry's public and private key handles are bound to the key pair built from the entry,
and its certificate handle to the certificate built from it. -/
def HoldsObjects (ex : Externals PKey X509 CA) (state : ObjectStoreState)
    (objects : HandleMap Object) : Prop :=
  ∀ key ∈ state.asymmetricKeys, ∀ pub keyPair,
    ex.parseX509PublicKeyDer key.publicKeyDer = .ok pub →
    ex.newKeyPair key.cryptoKeyVersion pub = .ok keyPair →
    objects.lookup key.publicKeyHandle = some keyPair.publicKey ∧
    objects.lookup key.privateKeyHandle = some keyPair.privateKey ∧
    ∀ certificate x509 cert, key.certificate = some certificate →
      ex.parseX509CertificateDer certificate.x509Der = .ok x509 →
      ex.newCertificate key.cryptoKeyVersion x509 = .ok cert →
      objects.lookup certificate.handle = some cert

section
variable {ex : Externals PKey X509 CA} {state : ObjectStoreState}

theorem Builds.objects (hb : Builds ex state) :
    ∀ key ∈ state.asymmetricKeys, ∃ os, key.objects ex = .ok os := fun key hk => by
  obtain ⟨⟨pub, kp, hp, hkp⟩, hc⟩ := hb key hk
  cases hcert : key.certificate with
  | none => simp [AsymmetricKey.objects, AsymmetricKey.certificateObject, hp, hkp, hcert]
  | some c =>
    obtain ⟨x, o, hx, ho⟩ := hc c hcert
    simp [AsymmetricKey.objects, AsymmetricKey.certificateObject, hp, hkp, hcert, hx, ho]

/-- When the snapshot's keys parse and objects build, a map that binds every object of every
entry holds the snapshot's objects. -/
theorem Builds.holdsObjects {objects : HandleMap Object} (hb : Builds ex state)
    (h : ∀ key ∈ state.asymmetricKeys, ∀ os, key.objects ex = .ok os →
      ∀ b ∈ os, objects.lookup b.1 = some b.2) :
    HoldsObjects ex state objects := by
  intro key hk pub kp hp hkp
  cases hcert : key.certificate with
  | none =>
    have hos := h key hk [(key.publicKeyHandle, kp.publicKey),
      (key.privateKeyHandle, kp.privateKey)] (by simp [AsymmetricKey.objects, AsymmetricKey.certificateObject, hp, hkp, hcert])
    exact ⟨hos _ (.head _), hos _ (.tail _ (.head _)), nofun⟩
  | some c =>
    obtain ⟨x, o, hx, ho⟩ := (hb key hk).2 c hcert
    have hos := h key hk [(key.publicKeyHandle, kp.publicKey),
      (key.privateKeyHandle, kp.privateKey), (c.handle, o)]
      (by simp [AsymmetricKey.objects, AsymmetricKey.certificateObject, hp, hkp, hcert, hx, ho])
    refine ⟨hos _ (.head _), hos _ (.tail _ (.head _)), fun c' x' o' hc' hx' ho' => ?_⟩
    obtain rfl := Option.some.inj hc'
    rw [hx] at hx'; cases hx'; rw [ho] at ho'; cases ho'
    exact hos _ (.tail _ (.tail _ (.head _)))

/-- On a snapshot whose keys parse, whose objects build and whose handles are distinct,
`LoadObjects` binds exactly the snapshot's handles, each to the object built from its own entry. -/
theorem loadObjects_of_nodup (hb : Builds ex state) (hn : state.handles.Nodup) :
    ∃ objects, loadObjects ex state = .ok objects ∧
      objects.notFoundRv = CKR_OBJECT_HANDLE_INVALID ∧
      (∀ h, objects.lookup h ≠ none ↔ h ∈ state.handles) ∧ HoldsObjects ex state objects := by
  obtain ⟨os, hos, hin, hrun⟩ := foldlM_loadKey_eq_addDirectAll hb.objects
  replace hos : os.map Prod.fst = state.handles := hos
  obtain ⟨m, hm, hbind, hout, hrv⟩ :=
    addDirectAll_of_nodup (m := HandleMap.new CKR_OBJECT_HANDLE_INVALID) (hos ▸ hn) fun _ _ => rfl
  refine ⟨m, (hrun _).trans hm, hrv, fun h => ⟨fun hne => ?_, fun hh => ?_⟩,
    hb.holdsObjects fun key hk os' h' b hb' => hbind b (hin key hk os' h' b hb')⟩
  · by_contra hh
    exact hne (hout h (hos ▸ hh))
  · obtain ⟨b, hb, rfl⟩ := List.mem_map.1 (hos ▸ hh)
    rw [hbind b hb]
    exact Option.some_ne_none _

/-- An entry whose iteration of `LoadObjects` succeeds parses and builds. -/
theorem loadKey_eq_ok {m m' : HandleMap Object} {key : AsymmetricKey}
    (h : loadKey ex m key = .ok m') :
    (∃ pub keyPair, ex.parseX509PublicKeyDer key.publicKeyDer = .ok pub ∧
      ex.newKeyPair key.cryptoKeyVersion pub = .ok keyPair) ∧
    ∀ certificate, key.certificate = some certificate →
      ∃ x509 cert, ex.parseX509CertificateDer certificate.x509Der = .ok x509 ∧
        ex.newCertificate key.cryptoKeyVersion x509 = .ok cert := by
  simp only [loadKey, except_bind_eq_ok] at h
  obtain ⟨pub, hp, kp, hk, _, -, _, -, hc⟩ := h
  refine ⟨⟨pub, kp, hp, hk⟩, fun c hcert => ?_⟩
  rw [hcert] at hc
  simp only [except_bind_eq_ok] at hc
  obtain ⟨x, hx, o, ho, -⟩ := hc
  exact ⟨x, o, hx, ho⟩

/-- A snapshot that `LoadObjects` loads parses and builds. -/
theorem Builds.of_loadObjects {objects : HandleMap Object}
    (h : loadObjects ex state = .ok objects) : Builds ex state := by
  suffices ∀ (keys : List AsymmetricKey) (m : HandleMap Object),
      keys.foldlM (loadKey ex) m = .ok objects → Builds ex ⟨keys⟩ from this _ _ h
  intro keys
  induction keys with
  | nil => exact fun _ _ => nofun
  | cons key rest ih =>
    intro m hf
    simp only [List.foldlM_cons, except_bind_eq_ok] at hf
    obtain ⟨m₁, h₁, h₂⟩ := hf
    rintro k (_ | ⟨_, hk⟩)
    exacts [loadKey_eq_ok h₁, ih m₁ h₂ k hk]

/-- The spec of `LoadObjects` on a snapshot whose keys parse and objects build. It fails with
`AddDirect`'s 'already in use' status exactly when two of the snapshot's handles are equal, and
then at a handle the snapshot records twice. Otherwise its map binds exactly the snapshot's
handles, each to the object built from its own entry, and reports `CKR_OBJECT_HANDLE_INVALID`
for any other. -/
theorem loadObjects_spec (hb : Builds ex state) :
    ((∃ h, loadObjects ex state = .error (HandleMap.alreadyInUse h)) ↔ ¬ state.handles.Nodup) ∧
    (¬ state.handles.Nodup → ∃ h, loadObjects ex state = .error (HandleMap.alreadyInUse h) ∧
      List.Duplicate h state.handles) ∧
    (state.handles.Nodup → ∃ objects, loadObjects ex state = .ok objects ∧
      objects.notFoundRv = CKR_OBJECT_HANDLE_INVALID ∧
      (∀ h, objects.lookup h ≠ none ↔ h ∈ state.handles) ∧ HoldsObjects ex state objects) := by
  obtain ⟨os, hos, -, hrun⟩ := foldlM_loadKey_eq_addDirectAll hb.objects
  replace hos : os.map Prod.fst = state.handles := hos
  have hrun : loadObjects ex state = addDirectAll (HandleMap.new CKR_OBJECT_HANDLE_INVALID) os :=
    hrun _
  have hok := loadObjects_of_nodup hb
  have herr : ¬ state.handles.Nodup → ∃ h, loadObjects ex state =
      .error (HandleMap.alreadyInUse h) ∧ List.Duplicate h state.handles := by
    intro hn
    have hbad : ¬ ((os.map Prod.fst).Nodup ∧ ∀ b ∈ os,
        (HandleMap.new CKR_OBJECT_HANDLE_INVALID : HandleMap Object).lookup b.1 = none) :=
      fun ⟨hn', _⟩ => hn (hos ▸ hn')
    obtain ⟨h, he, hdup⟩ := addDirectAll_of_not_nodup hbad
    refine ⟨h, hrun.trans he, ?_⟩
    rcases hdup with ⟨-, hne⟩ | hdup
    · exact absurd rfl hne
    · exact hos ▸ hdup
  refine ⟨⟨fun ⟨h, he⟩ hn => ?_, fun hn => (herr hn).imp fun _ => And.left⟩, herr, hok⟩
  obtain ⟨m, hm, -⟩ := hok hn
  rw [hm] at he
  cases he

end

/-- Two entries that share handle 2: the load stops at the second `AddDirect` there. -/
theorem loadObjects_spec_collision :
    let state : ObjectStoreState :=
      ⟨[⟨⟨"v1", ENABLED, 12⟩, 1, 2, [], none⟩, ⟨⟨"v2", ENABLED, 12⟩, 2, 3, [], none⟩]⟩
    ∃ h, loadObjects Externals.succeeding state = .error (HandleMap.alreadyInUse h) ∧
      List.Duplicate h state.handles :=
  (loadObjects_spec (by simp [Builds, Externals.succeeding])).2.1 (by decide)

end Kmsp11
