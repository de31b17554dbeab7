import KmsIntegrations.Kmsp11.Returns
import KmsIntegrations.Kmsp11.LoadObjects
import KmsIntegrations.Kmsp11.Token

/-!
# `Token::New`

`Token::New` fills the slot and token information, loads the key ring's snapshot with
`LoadState`, rebuilds the objects from it with `LoadObjects`, and returns a token that no one is
logged in to. The information is filled by `CryptokiStrCopy`, in sources not given, so the model
keeps only the status of `NewSlotInfo` and of `NewTokenInfo` for a label.

The two halves meet at the handles: `LoadObjects` fails at a handle the snapshot records twice,
and the builder of `LoadState` never records one twice.

* `Keeps I x` says every run of `x` from a state where `I` holds ends in one where it holds;
  `Keeps.bind` composes it, and the loops keep `HandlesOk` (`keeps_loadStateLoop`), each
  iteration cited from `KeyAdded.handlesOk`.
* `loadState_handles_nodup`: every snapshot `LoadState` returns, under any values of
  `RandomHandle`, records pairwise distinct handles.
* `token_new_spec`: `Token::New` returns from every state with enough distinct values left; a
  run succeeds exactly when the information, `LoadState` and every parse and constructor of
  `LoadObjects` succeed, so never fails at a handle in use; and the token it returns is logged
  out and binds exactly the handles of the snapshot, each to the object built from its entry.
* `token_findObjects_spec`: at any point of the life of such a token, `FindObjects` returns
  exactly the snapshot's handles whose objects the predicate accepts, once each, in key order.
-/

namespace Kmsp11

open Common

variable {PKey X509 CA α β : Type}

/-! ## Invariants of the loader -/

/-- `x` keeps `I`: every run of it from a state where `I` holds ends in one where it holds. -/
def Keeps (I : Loader CA → Prop) (x : LoaderM CA α) : Prop :=
  ∀ ⦃s r s'⦄, Runs x s r s' → I s → I s'

section
variable {I : Loader CA → Prop}

theorem Keeps.bind {x : LoaderM CA α} {f : α → LoaderM CA β} (hx : Keeps I x)
    (hf : ∀ a, Keeps I (f a)) : Keeps I (x >>= f) := fun _ _ _ h hi => by
  rcases Runs.bind h with ⟨e, -, he⟩ | ⟨a, s₁, h₁, h₂⟩
  exacts [hx he hi, hf a h₂ (hx h₁ hi)]

theorem keeps_liftExcept (e : Except Status α) : Keeps I (liftExcept e : LoaderM CA α) :=
  fun _ _ _ h hi => (runs_liftExcept h).2 ▸ hi

theorem keeps_pure (a : α) : Keeps I (pure a : LoaderM CA α) :=
  fun _ _ _ h hi => (runs_pure h).2 ▸ hi

end

/-- The loader is deterministic. -/
theorem Runs.unique {x : LoaderM CA α} {s s₁ s₂ : Loader CA} {r₁ r₂ : Except Status α}
    (h₁ : Runs x s r₁ s₁) (h₂ : Runs x s r₂ s₂) : r₁ = r₂ ∧ s₁ = s₂ :=
  Prod.mk.inj (Option.some.inj (h₁.symm.trans h₂))

/-- A bind has a run when its first part has one, and its second part has one after each run of
the first that succeeds. -/
theorem Runs.exists_bind {x : LoaderM CA α} {f : α → LoaderM CA β} {s s₁ : Loader CA}
    {r : Except Status α} (h : Runs x s r s₁)
    (hf : ∀ a s₂, Runs x s (.ok a) s₂ → ∃ r' s', Runs (f a) s₂ r' s') :
    ∃ r' s', Runs (x >>= f) s r' s' := by
  cases r with
  | error e => exact ⟨_, _, h.bind_error⟩
  | ok a =>
    obtain ⟨r', s', h'⟩ := hf a s₁ h
    exact ⟨r', s', h.bind_ok h'⟩

/-- The loader's snapshot records pairwise distinct handles, all allocated. -/
def LoaderHandlesOk (s : Loader CA) : Prop := HandlesOk s.builder

section
variable {ex : Externals PKey X509 CA} {client : KmsClient}

theorem keeps_send (req : KmsRequest) : Keeps LoaderHandlesOk (send req : LoaderM CA Unit) :=
  fun _ _ _ h hi => by obtain ⟨-, rfl⟩ := runs_modify h; exact hi

theorem keeps_addAsymmetricKey (ckv : CryptoKeyVersion) (pk : PublicKey) :
    Keeps LoaderHandlesOk (addAsymmetricKey ex ckv pk) :=
  fun _ _ _ h hi => (addAsymmetricKey_runs h).handlesOk hi

theorem keeps_loadVersionsLoop :
    ∀ vs : List (Except Status CryptoKeyVersion),
      Keeps LoaderHandlesOk (loadVersionsLoop ex client vs)
  | [] => keeps_pure ()
  | it :: rest => by
    unfold loadVersionsLoop
    refine (keeps_liftExcept it).bind fun ckv => ?_
    split_ifs
    · exact keeps_loadVersionsLoop rest
    · exact keeps_loadVersionsLoop rest
    · exact (keeps_send _).bind fun _ => (keeps_liftExcept _).bind fun pk =>
        (keeps_addAsymmetricKey ckv pk).bind fun _ => keeps_loadVersionsLoop rest

theorem keeps_loadStateLoop :
    ∀ keys : List (Except Status CryptoKey), Keeps LoaderHandlesOk (loadStateLoop ex client keys)
  | [] => keeps_pure ()
  | it :: rest => by
    unfold loadStateLoop
    refine (keeps_liftExcept it).bind fun key => ?_
    split_ifs
    · exact keeps_loadStateLoop rest
    · exact ((keeps_send _).bind fun _ => keeps_loadVersionsLoop _).bind fun _ =>
        keeps_loadStateLoop rest
    · exact keeps_loadStateLoop rest

/-- Every snapshot `LoadState` returns, under any values of `RandomHandle`, records pairwise
distinct handles: its builder starts empty, and the loops keep `HandlesOk`. -/
theorem loadState_handles_nodup {keyRingName : String} {generateCerts : Bool} {s s' : Loader CA}
    {st : ObjectStoreState} (h : Runs (loadState ex client keyRingName generateCerts) s (.ok st) s') :
    st.handles.Nodup := by
  rcases Runs.bind h with ⟨e, he, -⟩ | ⟨b, s₁, h₁, k₁⟩
  · cases he
  obtain ⟨hb, rfl⟩ := runs_liftExcept h₁
  rcases Runs.bind k₁ with ⟨e, he, -⟩ | ⟨u, s₂, h₂, k₂⟩
  · cases he
  obtain ⟨-, rfl⟩ := runs_modify h₂
  have hi : LoaderHandlesOk { s with builder := b } := by
    simp [LoaderHandlesOk, HandlesOk, ObjectStoreState.handles,
      (ObjectStoreBuilder.new_empty hb.symm).1]
  rcases Runs.bind k₂ with ⟨e, he, -⟩ | ⟨u, s₃, h₃, k₃⟩
  · cases he
  rcases Runs.bind k₃ with ⟨e, he, -⟩ | ⟨u, s₄, h₄, k₄⟩
  · cases he
  have hi₄ : LoaderHandlesOk s₄ := keeps_loadStateLoop _ h₄ (keeps_send _ h₃ hi)
  rcases Runs.bind k₄ with ⟨e, he, -⟩ | ⟨s₅, s₅', h₅, k₅⟩
  · cases he
  obtain ⟨⟨⟩, rfl⟩ := runs_get h₅
  obtain ⟨hst, rfl⟩ := runs_pure k₅
  cases hst
  exact hi₄.1

end

/-! ## `Token::New` -/

/-- `TokenConfig`: the label and the key ring of a token. -/
structure TokenConfig where
  label : String
  keyRing : String

/-- `Token::New`, where `newSlotInfo` and `newTokenInfo` are the statuses of `NewSlotInfo` and
of `NewTokenInfo` for a label. -/
def Token.new (ex : Externals PKey X509 CA) (client : KmsClient)
    (newSlotInfo : Except Status Unit) (newTokenInfo : String → Except Status Unit)
    (tokenConfig : TokenConfig) (generateCerts : Bool) : LoaderM CA Token := do
  liftExcept newSlotInfo
  liftExcept (newTokenInfo tokenConfig.label)
  let state ← loadState ex client tokenConfig.keyRing generateCerts
  let objects ← liftExcept (loadObjects ex state)
  pure ⟨objects, false⟩

section
variable {ex : Externals PKey X509 CA} {client : KmsClient} {newSlotInfo : Except Status Unit}
  {newTokenInfo : String → Except Status Unit} {tokenConfig : TokenConfig} {generateCerts : Bool}
  {s s' : Loader CA}

/-- A run of `Token::New`: both statuses of the information are OK, `LoadState` runs from the
same state, and `LoadObjects` gives the result on its snapshot; or the run stops before. -/
theorem runs_token_new {r : Except Status Token}
    (h : Runs (Token.new ex client newSlotInfo newTokenInfo tokenConfig generateCerts) s r s') :
    (∃ e, r = .error e ∧ (newSlotInfo = .error e ∨ newTokenInfo tokenConfig.label = .error e ∨
      Runs (loadState ex client tokenConfig.keyRing generateCerts) s (.error e) s')) ∨
    newSlotInfo = .ok () ∧ newTokenInfo tokenConfig.label = .ok () ∧ ∃ st,
      Runs (loadState ex client tokenConfig.keyRing generateCerts) s (.ok st) s' ∧
      r = (loadObjects ex st).map fun objects => ⟨objects, false⟩ := by
  rcases Runs.bind h with ⟨e, rfl, he⟩ | ⟨u, s₁, h₁, k₁⟩
  · obtain ⟨hi, -⟩ := runs_liftExcept he
    exact .inl ⟨e, rfl, .inl hi.symm⟩
  obtain ⟨hi, rfl⟩ := runs_liftExcept h₁
  rcases Runs.bind k₁ with ⟨e, rfl, he⟩ | ⟨u', s₂, h₂, k₂⟩
  · obtain ⟨ht, -⟩ := runs_liftExcept he
    exact .inl ⟨e, rfl, .inr (.inl ht.symm)⟩
  obtain ⟨ht, rfl⟩ := runs_liftExcept h₂
  rcases Runs.bind k₂ with ⟨e, rfl, he⟩ | ⟨st, s₃, h₃, k₃⟩
  · exact .inl ⟨e, rfl, .inr (.inr he)⟩
  refine .inr ⟨hi.symm, ht.symm, st, ?_⟩
  rcases Runs.bind k₃ with ⟨e, rfl, he⟩ | ⟨objects, s₄, h₄, k₄⟩
  · obtain ⟨hl, rfl⟩ := runs_liftExcept he
    exact ⟨h₃, by rw [← hl]; rfl⟩
  obtain ⟨hl, rfl⟩ := runs_liftExcept h₄
  obtain ⟨rfl, rfl⟩ := runs_pure k₄
  exact ⟨h₃, by rw [← hl]; rfl⟩

/-- The spec of `Token::New`, whatever `RandomHandle` returns. It returns from every state whose
values left are distinct and three for each version it adds. A run succeeds exactly when
`NewSlotInfo`, `NewTokenInfo`, `LoadState`, and every parse and constructor `LoadObjects` calls
on the snapshot succeed: no `AddDirect` ever finds its handle in use. The token it returns is
logged out, and binds exactly the snapshot's handles, which are distinct, each to the object
built from its own entry, reporting `CKR_OBJECT_HANDLE_INVALID` for any other. -/
theorem token_new_spec :
    (∀ s : Loader CA, s.draws.Nodup →
      3 * (loadedVersions ex client (client.listCryptoKeys tokenConfig.keyRing)).length ≤
        s.draws.length →
      ∃ r s', Runs (Token.new ex client newSlotInfo newTokenInfo tokenConfig generateCerts) s r s') ∧
    ∀ s r s', Runs (Token.new ex client newSlotInfo newTokenInfo tokenConfig generateCerts) s r s' →
      ((∃ token, r = .ok token) ↔ newSlotInfo = .ok () ∧ newTokenInfo tokenConfig.label = .ok () ∧
        ∃ st, Runs (loadState ex client tokenConfig.keyRing generateCerts) s (.ok st) s' ∧
          Builds ex st) ∧
      ∀ token, r = .ok token → token.isLoggedIn = false ∧ ∃ st,
        Runs (loadState ex client tokenConfig.keyRing generateCerts) s (.ok st) s' ∧
        st.handles.Nodup ∧ token.objects.notFoundRv = CKR_OBJECT_HANDLE_INVALID ∧
        (∀ h, token.objects.lookup h ≠ none ↔ h ∈ st.handles) ∧
        HoldsObjects ex st token.objects := by
  refine ⟨fun s hd hl => ?_, fun s r s' h => ?_⟩
  · obtain ⟨r, s', hr⟩ : ∃ r s', Runs (loadState ex client tokenConfig.keyRing generateCerts) s r s' :=
      loadState_returns hd hl
    refine Runs.exists_bind (runs_liftExcept_self _) fun _ _ h₁ => ?_
    obtain ⟨-, rfl⟩ := runs_liftExcept h₁
    refine Runs.exists_bind (runs_liftExcept_self _) fun _ _ h₂ => ?_
    obtain ⟨-, rfl⟩ := runs_liftExcept h₂
    exact Runs.exists_bind hr fun _ _ _ =>
      Runs.exists_bind (runs_liftExcept_self _) fun _ _ _ => ⟨_, _, rfl⟩
  rcases runs_token_new h with ⟨e, rfl, he⟩ | ⟨hi, ht, st, hst, rfl⟩
  · refine ⟨⟨nofun, fun ⟨hi, ht, st, hst, _⟩ => ?_⟩, nofun⟩
    rcases he with he | he | he
    · rw [hi] at he; cases he
    · rw [ht] at he; cases he
    · cases (hst.unique he).1
  have hn := loadState_handles_nodup hst
  cases hl : loadObjects ex st with
  | error e =>
    refine ⟨⟨nofun, fun ⟨_, _, st', hst', hb⟩ => ?_⟩, nofun⟩
    obtain ⟨⟨⟩, -⟩ := hst.unique hst'
    obtain ⟨_, hl', -⟩ := loadObjects_of_nodup hb hn
    rw [hl] at hl'; cases hl'
  | ok objects =>
    have hb := Builds.of_loadObjects hl
    obtain ⟨objects', hl', hrv, hmem, hhold⟩ := loadObjects_of_nodup hb hn
    rw [hl] at hl'; cases hl'
    exact ⟨iff_of_true ⟨_, rfl⟩ ⟨hi, ht, st, hst, hb⟩,
      fun _ htok => by cases htok; exact ⟨rfl, st, hst, hn, hrv, hmem, hhold⟩⟩

/-- What a client finds on a token, at any point of its life: for a token `Token::New` returned,
after any sequence of calls, `FindObjects` returns each handle of the loaded snapshot whose
object the predicate accepts, once, and no other, in order of `(kms_key_name, object_class)`; and
each handle is bound to the object built from its own entry. -/
theorem token_findObjects_spec {token t : Token} {sort : StdSort CkUlong}
    {tr : List (TokenCall × TokenReply)}
    (h : Runs (Token.new ex client newSlotInfo newTokenInfo tokenConfig generateCerts) s (.ok token) s')
    (hr : Token.Reachable sort token.objects t tr) (p : Object → Bool) :
    ∃ st, Runs (loadState ex client tokenConfig.keyRing generateCerts) s (.ok st) s' ∧
      HoldsObjects ex st t.objects ∧ (t.findObjects sort p).Nodup ∧
      (∀ hd, hd ∈ t.findObjects sort p ↔
        hd ∈ st.handles ∧ ∃ o, t.objects.lookup hd = some o ∧ p o = true) ∧
      (t.findObjects sort p).Pairwise fun h1 h2 => ∀ o1 o2,
        t.objects.lookup h1 = some o1 → t.objects.lookup h2 = some o2 →
        objectKey o1 ≤ objectKey o2 := by
  rcases runs_token_new h with ⟨e, he, -⟩ | ⟨-, -, st, hst, htok⟩
  · cases he
  cases hl : loadObjects ex st with
  | error e => rw [hl] at htok; cases htok
  | ok objects =>
    rw [hl] at htok; cases htok
    obtain ⟨ho, -, -⟩ := Token.session_reachable hr
    obtain ⟨_, hl', -, hmem, hhold⟩ :=
      loadObjects_of_nodup (Builds.of_loadObjects hl) (loadState_handles_nodup hst)
    rw [hl] at hl'; cases hl'
    have hfind : (t.findObjects sort p).Nodup ∧
        ∀ hd, hd ∈ t.findObjects sort p ↔ ∃ o, t.objects.lookup hd = some o ∧ p o = true :=
      HandleMap.find_spec isStrictWeakOrder_findObjectsCompare
    refine ⟨st, hst, ho ▸ hhold, hfind.1, fun hd => ?_, findObjects_sorted⟩
    rw [hfind.2]
    have ho' : objects = t.objects := ho.symm
    exact ⟨fun ⟨o, hlo, hp⟩ => ⟨(hmem hd).1 (by rw [ho', hlo]; exact Option.some_ne_none o), o, hlo,
      hp⟩, fun ⟨_, hx⟩ => hx⟩

end

/-- A ring with one HSM signing key of one enabled version, loaded with the values 1, 2 and 3: the
private key gets 1 and the public key 2. After a `CKU_USER` login, `FindObjects` of every object
returns the public key before the private key of the same version. -/
theorem token_findObjects_spec_login :
    let client : KmsClient :=
      { listCryptoKeys := fun _ => [.ok ⟨"k1", ASYMMETRIC_SIGN, ⟨HSM⟩⟩]
        listCryptoKeyVersions := fun _ => [.ok ⟨"k1/v1", ENABLED, 12⟩]
        getPublicKey := fun _ => .ok ⟨"pem"⟩ }
    let token : Token := ⟨⟨CKR_OBJECT_HANDLE_INVALID, ((∅ : AList fun _ : CkUlong => Object).insert 2
      ⟨"k1/v1", CKO_PUBLIC_KEY⟩).insert 1 ⟨"k1/v1", CKO_PRIVATE_KEY⟩⟩, false⟩
    let t := (token.step insertionStdSort (.login CKU_USER)).2
    ∃ s', Runs (Token.new Externals.succeeding client (.ok ()) (fun _ => .ok ()) ⟨"token", "ring"⟩
        false) ⟨⟨⟨[]⟩, none, []⟩, [1, 2, 3], []⟩ (.ok token) s' ∧
      Token.Reachable insertionStdSort token.objects t [(.login CKU_USER, .status (.ok ()))] ∧
      t.isLoggedIn = true ∧ t.findObjects insertionStdSort (fun _ => true) = [2, 1] ∧
      ∃ st, Runs (loadState Externals.succeeding client "ring" false) ⟨⟨⟨[]⟩, none, []⟩, [1, 2, 3], []⟩
          (.ok st) s' ∧
        HoldsObjects Externals.succeeding st t.objects ∧
        (t.findObjects insertionStdSort fun _ => true).Nodup ∧
        (∀ hd, hd ∈ t.findObjects insertionStdSort (fun _ => true) ↔
          hd ∈ st.handles ∧ ∃ o, t.objects.lookup hd = some o ∧ (fun _ => true) o = true) ∧
        (t.findObjects insertionStdSort fun _ => true).Pairwise fun h1 h2 => ∀ o1 o2,
          t.objects.lookup h1 = some o1 → t.objects.lookup h2 = some o2 →
          objectKey o1 ≤ objectKey o2 := by
  intro client token t
  obtain ⟨s', h⟩ : ∃ s', Runs (Token.new Externals.succeeding client (.ok ()) (fun _ => .ok ())
      ⟨"token", "ring"⟩ false) ⟨⟨⟨[]⟩, none, []⟩, [1, 2, 3], []⟩ (.ok token) s' := ⟨_, rfl⟩
  have hr : Token.Reachable insertionStdSort token.objects t [(.login CKU_USER, .status (.ok ()))] :=
    .step (.login CKU_USER) .new
  exact ⟨s', h, hr, rfl, rfl, token_findObjects_spec h hr _⟩

/-- A ring with one HSM signing key of one enabled version: three distinct values are enough for
`Token::New` to return. -/
theorem token_new_spec_ring :
    ∃ r s', Runs (Token.new Externals.succeeding
      { listCryptoKeys := fun _ => [.ok ⟨"k1", ASYMMETRIC_SIGN, ⟨HSM⟩⟩]
        listCryptoKeyVersions := fun _ => [.ok ⟨"k1/v1", ENABLED, 12⟩]
        getPublicKey := fun _ => .ok ⟨"pem"⟩ } (.ok ()) (fun _ => .ok ()) ⟨"token", "ring"⟩ false)
      ⟨⟨⟨[]⟩, none, []⟩, [1, 2, 3], []⟩ r s' :=
  token_new_spec.1 _ (by decide) (by decide)

end Kmsp11
