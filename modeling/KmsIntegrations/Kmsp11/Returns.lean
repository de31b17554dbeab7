import KmsIntegrations.Kmsp11.LoadState

/-!
# `LoadState` returns

The model consumes `RandomHandle` as a list, so a run of the loader exists only while the list
lasts, and `NewHandle` draws again after a value it has already allocated. The lemmas of
`LoadState.lean` hold of every run; this module shows that a run exists when the values left
are new and there are enough of them.

* `Fresh` says no value left repeats and none is allocated; then `NewHandle` takes exactly one.
* `Returns n x s` says that from `s`, if the values left are fresh and at least `n`, `x`
  returns, takes at most `n` of them, and leaves the rest fresh. `Returns.bind` composes it.
* `returns_addAsymmetricKey` takes at most three values, and the loops three per version kept.
* `reachable_addAsymmetricKey`: every reachable builder records distinct, allocated handles; a
  call from it returns with three fresh values left, and either fails with the snapshot unchanged
  or appends one entry for its version, with a certificate exactly when there is a certificate
  authority.
* `loadState_spec` is the spec of `LoadState`: it returns from every state with enough
  distinct values left, and every run succeeds exactly when each step that can fail succeeds
  (`LoadSucceeds`: `CertAuthority::New` itself when certificates are generated, then the key
  range loaded with the authority it made), adds the versions kept in listing order, and sends no
  request for a key or version skipped.
-/

namespace Kmsp11

variable {PKey X509 CA α β : Type} {s : Loader CA}

theorem Runs.bind_ok {x : LoaderM CA α} {f : α → LoaderM CA β} {a : α} {s₁ s' : Loader CA}
    {r : Except Status β} (h₁ : Runs x s (.ok a) s₁) (h₂ : Runs (f a) s₁ r s') :
    Runs (x >>= f) s r s' := by
  simp only [Runs, ExceptT.run_bind, StateT.run_bind] at h₁ h₂ ⊢
  rw [h₁]; exact h₂

theorem Runs.bind_error {x : LoaderM CA α} {f : α → LoaderM CA β} {e : Status}
    {s₁ : Loader CA} (h₁ : Runs x s (.error e) s₁) : Runs (x >>= f) s (.error e) s₁ := by
  simp only [Runs, ExceptT.run_bind, StateT.run_bind] at h₁ ⊢
  rw [h₁]; rfl

theorem runs_liftExcept_self (e : Except Status α) : Runs (liftExcept e : LoaderM CA α) s e s := by
  cases e <;> rfl

/-! ## Fresh values and `Returns` -/

/-- No value `RandomHandle` has left to return repeats, and none is allocated. -/
structure Fresh (s : Loader CA) : Prop where
  nodup : s.draws.Nodup
  not_mem : ∀ h ∈ s.draws, h ∉ s.builder.allocatedHandles

/-- From `s`, if the values left are fresh and at least `n`, `x` returns, takes at most `n` of
them, and leaves the rest fresh. -/
def Returns (n : Nat) (x : LoaderM CA α) (s : Loader CA) : Prop :=
  Fresh s → n ≤ s.draws.length →
    ∃ r s', Runs x s r s' ∧ Fresh s' ∧ s.draws.length ≤ s'.draws.length + n

theorem Returns.mono {n n' : Nat} {x : LoaderM CA α} (h : Returns n x s) (hn : n ≤ n') :
    Returns n' x s := fun hf hl =>
  let ⟨r, s', hr, hf', hl'⟩ := h hf (by omega)
  ⟨r, s', hr, hf', by omega⟩

/-- The values a bind takes are those of its two parts; the second part need only return
after a run of the first that succeeds. -/
theorem Returns.bind {n m : Nat} {x : LoaderM CA α} {f : α → LoaderM CA β} (hx : Returns n x s)
    (hf : ∀ a s₁, Runs x s (.ok a) s₁ → Returns m (f a) s₁) : Returns (n + m) (x >>= f) s := by
  intro F hl
  obtain ⟨r, s₁, h₁, F₁, l₁⟩ := hx F (by omega)
  cases r with
  | error e => exact ⟨_, _, h₁.bind_error, F₁, by omega⟩
  | ok a =>
    obtain ⟨r, s', h₂, F₂, l₂⟩ := hf a s₁ h₁ F₁ (by omega)
    exact ⟨r, s', h₁.bind_ok h₂, F₂, by omega⟩

/-- A step that takes no value and allocates nothing returns. -/
theorem returns_of_runs {x : LoaderM CA α} {r : Except Status α} {s' : Loader CA}
    (h : Runs x s r s') (hd : s'.draws = s.draws)
    (ha : s'.builder.allocatedHandles = s.builder.allocatedHandles) : Returns 0 x s :=
  fun F _ => ⟨r, s', h, ⟨hd ▸ F.nodup, by rw [hd, ha]; exact F.not_mem⟩, by rw [hd]; omega⟩

theorem returns_pure {a : α} : Returns 0 (pure a : LoaderM CA α) s := returns_of_runs rfl rfl rfl

theorem returns_liftExcept {e : Except Status α} : Returns 0 (liftExcept e : LoaderM CA α) s :=
  returns_of_runs (runs_liftExcept_self e) rfl rfl

theorem returns_get : Returns 0 (get : LoaderM CA (Loader CA)) s := returns_of_runs rfl rfl rfl

theorem returns_send {req : KmsRequest} : Returns 0 (send req : LoaderM CA Unit) s :=
  returns_of_runs rfl rfl rfl

/-- With fresh values, `NewHandle` takes exactly the first: it is not allocated, so the draw
loop stops there. -/
theorem returns_newHandle : Returns 1 (newHandle : LoaderM CA CkUlong) s := by
  rintro ⟨hnd, hnm⟩ hl
  obtain ⟨h, rest, hd⟩ := List.exists_cons_of_length_pos (by omega : 0 < s.draws.length)
  rw [hd] at hnd hnm
  have hfree := hnm h (List.mem_cons_self _ _)
  refine ⟨.ok h, { s with draws := rest, builder := { s.builder with
    allocatedHandles := s.builder.allocatedHandles.insert h } }, ?_,
    ⟨(List.nodup_cons.1 hnd).2, fun x hx => ?_⟩, by simp [hd]⟩
  · simp [Runs, newHandle, StateT.run, hd, drawUnused, hfree]
  · rw [List.mem_insert_iff, not_or]
    exact ⟨fun hxh => (List.nodup_cons.1 hnd).1 (hxh ▸ hx), hnm x (List.mem_cons_of_mem _ hx)⟩

/-! ## `AddAsymmetricKey` and the loops -/

section
variable {ex : Externals PKey X509 CA} {client : KmsClient}

theorem returns_generateCertificate {ca : Option CA} {ckv : CryptoKeyVersion} {pub : PKey} :
    Returns 1 (generateCertificate ex ca ckv pub) s := by
  cases ca with
  | none => exact returns_pure.mono (Nat.zero_le _)
  | some ca =>
    exact returns_liftExcept.bind fun _ _ _ => returns_liftExcept.bind fun _ _ _ =>
      returns_newHandle.bind fun _ _ _ => returns_pure

/-- `AddAsymmetricKey` takes at most three values: two key handles and a certificate handle. -/
theorem returns_addAsymmetricKey {ckv : CryptoKeyVersion} {pk : PublicKey} :
    Returns 3 (addAsymmetricKey ex ckv pk) s := by
  unfold addAsymmetricKey
  refine returns_liftExcept.bind (m := 3) fun _ _ _ => ?_
  refine returns_newHandle.bind (m := 2) fun _ _ _ => ?_
  refine returns_newHandle.bind (m := 1) fun _ _ _ => ?_
  refine returns_liftExcept.bind (m := 1) fun _ _ _ => ?_
  refine returns_get.bind (m := 1) fun _ _ _ => ?_
  refine returns_generateCertificate.bind (m := 0) fun _ _ _ => ?_
  exact returns_of_runs rfl rfl rfl

/-- Every builder reached by any sequence of `AddAsymmetricKey` calls records pairwise distinct,
allocated handles. From it, a call returns whenever `RandomHandle` has three distinct values left
that are not allocated, drawing again past any it allocated; and a call either fails and leaves the
snapshot as it was, or appends one entry for the given version that has a certificate exactly when
the builder has a certificate authority. -/
theorem reachable_addAsymmetricKey {b : ObjectStoreBuilder CA} (hb : Reachable ex b) :
    HandlesOk b ∧
    (∀ (ckv : CryptoKeyVersion) (pk : PublicKey) (draws : List CkUlong)
      (requests : List KmsRequest), draws.Nodup → (∀ h ∈ draws, h ∉ b.allocatedHandles) →
      3 ≤ draws.length → ∃ r s', Runs (addAsymmetricKey ex ckv pk) ⟨b, draws, requests⟩ r s') ∧
    ∀ (ckv : CryptoKeyVersion) (pk : PublicKey) (draws : List CkUlong)
      (requests : List KmsRequest) (r : Except Status Unit) (s' : Loader CA),
      Runs (addAsymmetricKey ex ckv pk) ⟨b, draws, requests⟩ r s' →
      (∃ e, r = .error e ∧ s'.builder.state = b.state) ∨
      (r = .ok () ∧ ∃ key : AsymmetricKey,
        s'.builder.state.asymmetricKeys = b.state.asymmetricKeys ++ [key] ∧
        key.cryptoKeyVersion = ckv ∧ (key.certificate.isSome ↔ b.certAuthority.isSome)) := by
  refine ⟨?_, fun ckv pk draws requests hnd hfree hl => ?_, fun ckv pk draws requests r s' h => ?_⟩
  · induction hb with
    | new => exact ⟨List.nodup_nil, nofun⟩
    | addAsymmetricKey _ _ _ _ _ h ih => exact (addAsymmetricKey_runs h).handlesOk ih
  · exact (returns_addAsymmetricKey (s := ⟨b, draws, requests⟩) ⟨hnd, hfree⟩ hl).imp
      fun _ => .imp fun _ h => h.1
  · exact (addAsymmetricKey_runs h).outcome.imp_right
      fun ⟨hr, key, hk, hv, hc, _⟩ => ⟨hr, key, hk, hv, hc⟩

/-- A builder without a certificate authority, after one call that drew 5 twice: the second 5
was allocated already, so the loop drew again and the public key got 6. The builder reached
records distinct handles, and a next call with three new values returns. -/
theorem reachable_addAsymmetricKey_retry :
    let b : ObjectStoreBuilder Unit :=
      ⟨⟨[⟨⟨"v", ENABLED, 12⟩, 6, 5, "pem".toUTF8.toList, none⟩]⟩, none, [6, 5]⟩
    Runs (addAsymmetricKey Externals.succeeding ⟨"v", ENABLED, 12⟩ ⟨"pem"⟩)
        ⟨⟨⟨[]⟩, none, []⟩, [5, 5, 6], []⟩ (.ok ()) ⟨b, [], []⟩ ∧
      HandlesOk b ∧ ∃ r s', Runs (addAsymmetricKey Externals.succeeding ⟨"w", ENABLED, 12⟩ ⟨"pem"⟩)
        ⟨b, [7, 8, 9], []⟩ r s' := by
  intro b
  have h : Runs (addAsymmetricKey Externals.succeeding ⟨"v", ENABLED, 12⟩ ⟨"pem"⟩)
      ⟨⟨⟨[]⟩, none, []⟩, [5, 5, 6], []⟩ (.ok ()) ⟨b, [], []⟩ := rfl
  have hb : Reachable Externals.succeeding b := .addAsymmetricKey _ _ _ _ (.new none) h
  exact ⟨h, (reachable_addAsymmetricKey hb).1,
    (reachable_addAsymmetricKey hb).2.1 _ _ _ [] (by decide) (by decide) (by decide)⟩

theorem returns_loadVersionsLoop :
    ∀ (vs : List (Except Status CryptoKeyVersion)) {s : Loader CA},
      Returns (3 * (retainedVersions ex vs).length) (loadVersionsLoop ex client vs) s
  | [], _ => returns_pure
  | .error e :: _, _ => returns_of_runs (r := .error e) rfl rfl rfl
  | .ok ckv :: rest, _ => by
    rw [loadVersionsLoop_ok_cons]
    cases hv : versionRetained ex ckv with
    | false =>
      rw [if_neg Bool.false_ne_true]
      exact (returns_loadVersionsLoop rest).mono (by simp [retainedVersions, hv])
    | true =>
      rw [if_pos rfl]
      refine (returns_send.bind fun _ _ _ => returns_liftExcept.bind fun _ _ _ =>
        returns_addAsymmetricKey.bind fun _ _ _ => returns_loadVersionsLoop rest).mono ?_
      simp [retainedVersions, hv]; omega

theorem returns_loadStateLoop :
    ∀ (keys : List (Except Status CryptoKey)) {s : Loader CA},
      Returns (3 * (loadedVersions ex client keys).length) (loadStateLoop ex client keys) s
  | [], _ => returns_pure
  | .error e :: _, _ => returns_of_runs (r := .error e) rfl rfl rfl
  | .ok key :: rest, _ => by
    rw [loadStateLoop_ok_cons]
    cases hk : keyRetained key with
    | false =>
      rw [if_neg Bool.false_ne_true]
      exact (returns_loadStateLoop rest).mono (by simp [loadedVersions, hk])
    | true =>
      rw [if_pos rfl]
      refine ((returns_send.bind fun _ _ _ => returns_loadVersionsLoop _).bind fun _ _ _ =>
        returns_loadStateLoop rest).mono ?_
      simp [loadedVersions, hk]; omega

/-- `LoadState` returns from every state whose values left are distinct and three for each
version it adds: the builder it starts has allocated nothing. -/
theorem loadState_returns {keyRingName : String} {generateCerts : Bool} (hd : s.draws.Nodup)
    (hl : 3 * (loadedVersions ex client (client.listCryptoKeys keyRingName)).length ≤
      s.draws.length) :
    ∃ r s', Runs (loadState ex client keyRingName generateCerts) s r s' := by
  have hb := runs_liftExcept_self (s := s) (ObjectStoreBuilder.new ex generateCerts)
  cases hn : ObjectStoreBuilder.new ex generateCerts with
  | error e => exact ⟨.error e, s, Runs.bind_error (hn ▸ hb)⟩
  | ok b =>
    have F : Fresh { s with builder := b } :=
      ⟨hd, by simp [(ObjectStoreBuilder.new_empty hn).2]⟩
    obtain ⟨r, s', h, -⟩ := (returns_send.bind fun _ _ _ =>
      (returns_loadStateLoop _).bind fun _ _ _ => returns_get.bind fun _ _ _ => returns_pure) F
        (by simpa using hl)
    exact ⟨r, s', Runs.bind_ok (hn ▸ hb) (Runs.bind_ok rfl h)⟩

/-- The spec of `LoadState`, over every key-ring listing and every `generate_certs`. It returns
from every state whose values left for `RandomHandle` are distinct and three for each version it
adds. Every run succeeds exactly when `CertAuthority::New`, each listing, `GetPublicKey` and
`AddAsymmetricKey` succeed; it then returns the versions kept of the keys kept, in listing
order; and the requests it sends are those of `loadRequests` up to where it stops, all of them
when it succeeds. -/
theorem loadState_spec {keyRingName : String} {generateCerts : Bool} :
    (∀ s : Loader CA, s.draws.Nodup →
      3 * (loadedVersions ex client (client.listCryptoKeys keyRingName)).length ≤
        s.draws.length →
      ∃ r s', Runs (loadState ex client keyRingName generateCerts) s r s') ∧
    ∀ s r s', Runs (loadState ex client keyRingName generateCerts) s r s' →
      ((∃ st, r = .ok st) ↔ LoadSucceeds ex client keyRingName generateCerts) ∧
      (∀ st, r = .ok st → st.asymmetricKeys.map (·.cryptoKeyVersion) =
        keptVersions ex client (client.listCryptoKeys keyRingName)) ∧
      ∃ reqs, s'.requests = s.requests ++ reqs ∧ reqs <+: loadRequests ex client keyRingName ∧
        ∀ st, r = .ok st → reqs = loadRequests ex client keyRingName := by
  refine ⟨fun _ hd hl => loadState_returns hd hl, fun s r s' h => ?_⟩
  obtain ⟨hok, hvs, hreqs⟩ := runs_loadState h
  refine ⟨hok, fun st hst => ?_, hreqs⟩
  obtain ⟨-, hk⟩ := hok.1 ⟨st, hst⟩
  rw [hvs st hst, loadedVersions_eq_keptVersions hk]

end

/-- A ring with an HSM signing key of an enabled and a disabled version, and a software key:
three distinct values are enough for the load to return; and when `CertAuthority::New` fails,
no load that generates certificates succeeds. -/
theorem loadState_spec_ring :
    let client : KmsClient :=
      { listCryptoKeys := fun _ =>
          [.ok ⟨"k1", ASYMMETRIC_SIGN, ⟨HSM⟩⟩, .ok ⟨"k2", ASYMMETRIC_SIGN, ⟨1⟩⟩]
        listCryptoKeyVersions := fun _ => [.ok ⟨"k1/v1", ENABLED, 12⟩, .ok ⟨"k1/v2", 2, 12⟩]
        getPublicKey := fun _ => .ok ⟨"pem"⟩ }
    (∃ r s', Runs (loadState Externals.succeeding client "ring" false)
      ⟨⟨⟨[]⟩, none, []⟩, [1, 2, 3], []⟩ r s') ∧
    ∀ r s', Runs (loadState { Externals.succeeding with certAuthorityNew := .error (.internal "ca") }
        client "ring" true) ⟨⟨⟨[]⟩, none, []⟩, [1, 2, 3], []⟩ r s' → ∀ st, r ≠ .ok st := by
  intro client
  refine ⟨loadState_spec.1 _ (by decide) (by decide), fun r s' h st hst => ?_⟩
  obtain ⟨ca, hca⟩ := ((loadState_spec.2 _ r s' h).1.1 ⟨st, hst⟩).1 rfl
  cases hca

end Kmsp11
