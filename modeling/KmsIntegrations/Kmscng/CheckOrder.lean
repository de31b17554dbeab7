import Mathlib.Data.List.Sort
import KmsIntegrations.Kmscng.Bridge

/-!
# The order of the bridge's checks

Every entry point checks, in this order, its handles, its pointers and padding, the legacy key
spec, the flags, then the lookup of the property or the key's preconditions, then the buffer
size; and it performs each effect only after every check before it has passed.

`Stage` lists what an entry point does in the order its code does it: a check of some kind with
its outcome, an effect, an early successful return, or a last call whose status the entry point
returns. `Stage.run` is what such a list returns and does; `Call.stages` gives the list of each
entry point, whose checks are evaluated on the call's arguments whether the code reaches them or
not, and `Call.outcome_eq_run` shows the code does exactly what its list does.

* `Stage.mem_run_effects`: an effect is performed only when every step before it goes on.
* `Stage.run_eq_error`: a call that fails returns the status of its first failing check, or that
  of its last call after every check passed.
* `Call.ordered`: each entry point's checks come in the order above and its last call ends it, so
  a failing call's first failing check is one of least kind (`Stage.Ordered.run_eq_error`).
* `validateFlags_eq_ok_iff` and `checkOpenKeyFlags_eq_ok_iff` say which flag words pass.
* `checkOrder_spec` gathers them for every entry point.
* `failedCall_spec`: each entry point performs what it is for last (`Stage.Ordered.resultsLast`),
  so a call that fails has created, deleted and copied nothing
  (`Stage.isResult_eq_false_of_run_error`).
-/

namespace Kmscng

open Common

/-- The kinds of checks of the bridge. -/
inductive CheckKind
  | handle | pointer | keySpec | flags | lookup | bufferSize
  deriving DecidableEq, Repr

/-- The order the entry points check the kinds in. -/
def CheckKind.rank : CheckKind → Nat
  | .handle => 0
  | .pointer => 1
  | .keySpec => 2
  | .flags => 3
  | .lookup => 4
  | .bufferSize => 5

/-- Whether an effect is what a call is for: a provider or key created or deleted, or the output
copied. The others are `*pcbResult` and the last host call, whose status the call returns. -/
def Effect.isResult : Effect → Bool
  | .newProvider | .deleteProvider _ | .newKey _ _ | .deleteKey _ _ | .copyOutput _ => true
  | .writeResult _ | .setProperty _ _ _ | .signDigest _ _ _ => false

theorem Effect.isResult_eq_false_iff {e : Effect} :
    e.isResult = false ↔ (∃ n, e = .writeResult n) ∨
      (∃ hProvider name value, e = .setProperty hProvider name value) ∨
      ∃ hKey digest cbSignature, e = .signDigest hKey digest cbSignature := by
  cases e <;> simp [Effect.isResult]

/-- A step of an entry point. -/
inductive Stage
  /-- A check of a kind and its outcome on the call's arguments. -/
  | check (kind : CheckKind) (result : Except Status Unit)
  /-- An effect. -/
  | perform (e : Effect)
  /-- `if (cond) return absl::OkStatus();`. -/
  | returnIf (cond : Bool)
  /-- `return` of the status of a last call. -/
  | finish (result : Except Status Unit)

namespace Stage

/-- What running the steps returns, with the effects performed. -/
def run : List Stage → Except Status Unit × List Effect
  | [] => (.ok (), [])
  | check _ (.error e) :: _ => (.error e, [])
  | check _ (.ok ()) :: rest => run rest
  | perform e :: rest => ((run rest).1, e :: (run rest).2)
  | returnIf c :: rest => if c then (.ok (), []) else run rest
  | finish r :: _ => (r, [])

/-- A step after which the run goes on: a check that passes, an effect, or an early return not
taken. -/
def Continues : Stage → Prop
  | check _ r => r = .ok ()
  | perform _ => True
  | returnIf c => c = false
  | finish _ => False

/-- The kinds of the checks among the steps, in order. -/
def kinds (st : List Stage) : List CheckKind :=
  st.filterMap fun
    | check k _ => some k
    | _ => none

theorem continues_cons {s : Stage} {pre : List Stage} (hs : s.Continues)
    (hpre : ∀ t ∈ pre, t.Continues) : ∀ t ∈ s :: pre, t.Continues := by
  rintro t (_ | ⟨_, ht⟩)
  exacts [hs, hpre t ht]

/-- An effect is performed only when every step before it goes on: every check before it has
passed and no early return was taken. -/
theorem mem_run_effects {e : Effect} : ∀ {st : List Stage}, e ∈ (run st).2 →
    ∃ pre rest, st = pre ++ perform e :: rest ∧ ∀ t ∈ pre, t.Continues
  | [], h => by simp [run] at h
  | check _ (.error _) :: _, h => by simp [run] at h
  | check k (.ok ()) :: rest, h => by
    obtain ⟨pre, rest', rfl, hc⟩ := mem_run_effects (show e ∈ (run rest).2 from h)
    exact ⟨check k (.ok ()) :: pre, rest', rfl, continues_cons rfl hc⟩
  | perform e' :: rest, h => by
    rcases List.mem_cons.1 h with rfl | h
    · exact ⟨[], rest, rfl, List.forall_mem_nil _⟩
    · obtain ⟨pre, rest', rfl, hc⟩ := mem_run_effects h
      exact ⟨perform e' :: pre, rest', rfl, continues_cons trivial hc⟩
  | returnIf true :: _, h => by simp [run] at h
  | returnIf false :: rest, h => by
    obtain ⟨pre, rest', rfl, hc⟩ := mem_run_effects (show e ∈ (run rest).2 from h)
    exact ⟨returnIf false :: pre, rest', rfl, continues_cons rfl hc⟩
  | finish _ :: _, h => by simp [run] at h

/-- A run that fails returns the status of a failing check, or of a last call, after steps that
all went on: its first failing check, or its last call when no check failed before it. -/
theorem run_eq_error {s : Status} : ∀ {st : List Stage}, (run st).1 = .error s →
    (∃ pre k rest, st = pre ++ check k (.error s) :: rest ∧ ∀ t ∈ pre, t.Continues) ∨
      ∃ pre rest, st = pre ++ finish (.error s) :: rest ∧ ∀ t ∈ pre, t.Continues
  | [], h => by simp [run] at h
  | check k (.error e) :: rest, h => by
    simp only [run, Except.error.injEq] at h
    exact .inl ⟨[], k, rest, by rw [h]; rfl, List.forall_mem_nil _⟩
  | check k (.ok ()) :: rest, h => by
    rcases run_eq_error (show (run rest).1 = .error s from h) with ⟨pre, k', rest', rfl, hc⟩ | ⟨pre, rest', rfl, hc⟩
    · exact .inl ⟨check k (.ok ()) :: pre, k', rest', rfl, continues_cons rfl hc⟩
    · exact .inr ⟨check k (.ok ()) :: pre, rest', rfl, continues_cons rfl hc⟩
  | perform e :: rest, h => by
    rcases run_eq_error (show (run rest).1 = .error s from h) with ⟨pre, k', rest', rfl, hc⟩ | ⟨pre, rest', rfl, hc⟩
    · exact .inl ⟨perform e :: pre, k', rest', rfl, continues_cons trivial hc⟩
    · exact .inr ⟨perform e :: pre, rest', rfl, continues_cons trivial hc⟩
  | returnIf true :: _, h => by simp [run] at h
  | returnIf false :: rest, h => by
    rcases run_eq_error (show (run rest).1 = .error s from h) with ⟨pre, k', rest', rfl, hc⟩ | ⟨pre, rest', rfl, hc⟩
    · exact .inl ⟨returnIf false :: pre, k', rest', rfl, continues_cons rfl hc⟩
    · exact .inr ⟨returnIf false :: pre, rest', rfl, continues_cons rfl hc⟩
  | finish r :: rest, h => by
    simp only [run] at h
    exact .inr ⟨[], rest, by rw [← h]; rfl, List.forall_mem_nil _⟩

section
variable {st : List Stage}

@[simp] theorem kinds_nil : kinds [] = [] := rfl
@[simp] theorem kinds_check {k : CheckKind} {r : Except Status Unit} :
    kinds (check k r :: st) = k :: kinds st := rfl
@[simp] theorem kinds_perform {e : Effect} : kinds (perform e :: st) = kinds st := rfl
@[simp] theorem kinds_returnIf {c : Bool} : kinds (returnIf c :: st) = kinds st := rfl
@[simp] theorem kinds_finish {r : Except Status Unit} : kinds (finish r :: st) = kinds st := rfl

end

@[simp] theorem kinds_append (pre rest : List Stage) :
    kinds (pre ++ rest) = kinds pre ++ kinds rest :=
  List.filterMap_append _ _ _

theorem mem_kinds {k : CheckKind} {r : Except Status Unit} {st : List Stage}
    (h : check k r ∈ st) : k ∈ kinds st :=
  List.mem_filterMap.2 ⟨_, h, rfl⟩

/-- When the checks come in the order of their kinds, every check of a kind less than a check's
comes before it. -/
theorem rank_lt_of_sorted {pre rest : List Stage} {k k' : CheckKind} {r r' : Except Status Unit}
    (hs : (kinds (pre ++ check k r :: rest)).Sorted fun a b => a.rank ≤ b.rank)
    (hm : check k' r' ∈ pre ++ check k r :: rest) (hlt : k'.rank < k.rank) : check k' r' ∈ pre := by
  rw [kinds_append, List.Sorted, List.pairwise_append] at hs
  rcases List.mem_append.1 hm with hm | hm
  · exact hm
  rcases List.mem_cons.1 hm with he | hm
  · cases he; exact absurd hlt (lt_irrefl _)
  · have hk : k ∈ kinds (check k r :: rest) := mem_kinds (List.mem_cons_self _ _)
    have hrest : kinds (check k r :: rest) = k :: kinds rest := rfl
    rw [hrest, List.pairwise_cons] at hs
    exact absurd (hs.2.1.1 k' (mem_kinds hm)) (Nat.not_le.2 hlt)

/-- Whether a last call, if any, is the last step. -/
def endsAtFinish : List Stage → Bool
  | [] => true
  | finish _ :: rest => rest.isEmpty
  | check _ _ :: rest | perform _ :: rest | returnIf _ :: rest => endsAtFinish rest

theorem eq_nil_of_endsAtFinish {r : Except Status Unit} {pre rest : List Stage}
    (h : endsAtFinish (pre ++ finish r :: rest) = true) : rest = [] := by
  induction pre with
  | nil => exact List.isEmpty_iff.1 h
  | cons t pre ih =>
    cases t with
    | finish => simp [endsAtFinish] at h
    | _ => exact ih h

/-- Whether every effect that is a call's result (`Effect.isResult`) is the last step. -/
def resultsLast : List Stage → Bool
  | [] => true
  | perform e :: rest => (!e.isResult || rest.isEmpty) && resultsLast rest
  | check _ _ :: rest | returnIf _ :: rest | finish _ :: rest => resultsLast rest

/-- When result effects come last, a run that fails performs none. -/
theorem isResult_eq_false_of_run_error {s : Status} {e : Effect} {st : List Stage}
    (hl : resultsLast st = true) (h : (run st).1 = .error s) (he : e ∈ (run st).2) :
    e.isResult = false := by
  induction st with
  | nil => simp [run] at h
  | cons t rest ih =>
    cases t with
    | check k r =>
      rcases r with _ | ⟨⟩
      · simp [run] at he
      · exact ih hl h he
    | perform e' =>
      simp only [resultsLast, Bool.and_eq_true, Bool.or_eq_true, Bool.not_eq_true'] at hl
      rcases List.mem_cons.1 he with rfl | he
      · rcases hl.1 with hr | hr
        · exact hr
        · rw [List.isEmpty_iff.1 hr] at h; simp [run] at h
      · exact ih hl.2 h he
    | returnIf c =>
      cases c
      · exact ih hl h he
      · simp [run] at h
    | finish r => simp [run] at he

/-- What the steps of every entry point keep: the checks come in the order of their kinds, a last
call ends the steps, and so does an effect that is the call's result. -/
structure Ordered (st : List Stage) : Prop where
  sorted : (kinds st).Sorted fun a b => a.rank ≤ b.rank
  endsAtFinish : endsAtFinish st = true
  resultsLast : resultsLast st = true

/-- A run of ordered steps that fails returns the status of a failing check after steps that all
went on, and every check of a lesser kind passed; or it returns the status of its last call, after
every check passed. -/
theorem Ordered.run_eq_error {st : List Stage} {s : Status} (ho : Ordered st)
    (h : (run st).1 = .error s) :
    (∃ pre k rest, st = pre ++ check k (.error s) :: rest ∧ (∀ t ∈ pre, t.Continues) ∧
      ∀ k' r', check k' r' ∈ st → k'.rank < k.rank → r' = .ok ()) ∨
      ∃ pre, st = pre ++ [finish (.error s)] ∧ ∀ t ∈ pre, t.Continues := by
  rcases Stage.run_eq_error h with ⟨pre, k, rest, rfl, hc⟩ | ⟨pre, rest, rfl, hc⟩
  · exact .inl ⟨pre, k, rest, rfl, hc, fun k' r' hm hlt => hc _ (rank_lt_of_sorted ho.sorted hm hlt)⟩
  · exact .inr ⟨pre, by rw [eq_nil_of_endsAtFinish ho.endsAtFinish], hc⟩

end Stage

/-! ## The steps of each entry point -/

/-- Whether a step that yields a value passed. -/
def passed {α : Type} (r : Except Status α) : Except Status Unit :=
  r.map fun _ => ()

@[simp] theorem passed_ok {α : Type} (a : α) : passed (.ok a : Except Status α) = .ok () := rfl

@[simp] theorem passed_error {α : Type} (e : Status) :
    passed (.error e : Except Status α) = .error e := rfl

section
variable {P O : Type} (host : Host P O)

/-- The steps of `OpenProvider`. -/
def openProviderStages (phProvider : Option NcryptProvHandle) (pszProviderName : Option String)
    (dwFlags : Dword) : List Stage :=
  [.check .pointer (passed (requireNonNull phProvider "the provider handle cannot be null")),
    .check .pointer (checkProviderName host pszProviderName),
    .check .flags (validateFlags dwFlags),
    .perform .newProvider]

/-- The steps of `FreeProvider`. -/
def freeProviderStages (hProvider : NcryptProvHandle) : List Stage :=
  [.check .handle (passed (host.validateProviderHandle hProvider)),
    .perform (.deleteProvider hProvider)]

/-- The steps of the property reads, whose handle check yields `handle`. -/
def propertyStages {X : Type} (handle : Except Status X) (lookup : X → String → Except Status Bytes)
    (pszProperty : Option String) (pbOutput : Option Bytes) (cbOutput : Dword)
    (pcbResult : Option Dword) (dwFlags : Dword) : List Stage :=
  [.check .handle (passed handle),
    .check .pointer (passed (requireNonNull pszProperty "pszProperty cannot be null")),
    .check .pointer (passed (requireNonNull pcbResult "pcbResult cannot be null")),
    .check .flags (validateFlags dwFlags)] ++
  match handle, pszProperty with
  | .ok x, some property =>
    .check .lookup (passed (lookup x property)) ::
      match lookup x property with
      | .ok v =>
        [.perform (.writeResult (UInt32.ofNat v.length)), .returnIf pbOutput.isNone,
          .check .bufferSize (checkOutputSize cbOutput v), .perform (.copyOutput v)]
      | .error _ => []
  | _, _ => []

/-- The steps of `SetProviderProperty`. -/
def setProviderPropertyStages (hProvider : NcryptProvHandle) (pszProperty : Option String)
    (pbInput : Option Bytes) (cbInput : Dword) (dwFlags : Dword) : List Stage :=
  [.check .handle (passed (host.validateProviderHandle hProvider)),
    .check .pointer (passed (requireNonNull pszProperty "pszProperty cannot be null")),
    .check .pointer (passed (requireNonNull pbInput "pbInput cannot be null")),
    .check .flags (validateFlags dwFlags)] ++
  match host.validateProviderHandle hProvider, pszProperty, pbInput with
  | .ok prov, some property, some input =>
    [.perform (.setProperty hProvider property (input.take cbInput.toNat)),
      .finish (host.providerSetProperty prov property (input.take cbInput.toNat))]
  | _, _, _ => []

/-- The steps of `OpenKey`: `Object::New` is the lookup of the key. -/
def openKeyStages (hProvider : NcryptProvHandle) (phKey : Option NcryptKeyHandle)
    (pszKeyName : Option String) (dwLegacyKeySpec dwFlags : Dword) : List Stage :=
  [.check .handle (checkProviderHandle hProvider),
    .check .pointer (passed (requireNonNull phKey "the key handle cannot be null")),
    .check .pointer (passed (requireNonNull pszKeyName "the key name cannot be null")),
    .check .keySpec (checkLegacyKeySpec dwLegacyKeySpec),
    .check .flags (checkOpenKeyFlags dwFlags)] ++
  match pszKeyName with
  | some keyName =>
    [.check .lookup (passed (host.objectNew hProvider keyName)), .perform (.newKey hProvider keyName)]
  | none => []

/-- The steps of `FreeKey`. -/
def freeKeyStages (hProvider : NcryptProvHandle) (hKey : NcryptKeyHandle) : List Stage :=
  [.check .handle (passed (host.validateKeyHandle hProvider hKey)),
    .perform (.deleteKey hProvider hKey)]

/-- The steps of `SignHash`: `ValidateKeyPreconditions` and `SignatureLength` are the key's
preconditions. -/
def signHashStages (hProvider : NcryptProvHandle) (hKey : NcryptKeyHandle)
    (pPaddingInfo : Option Bytes) (pbHashValue : Option Bytes) (cbHashValue : Dword)
    (pbSignature : Option Bytes) (cbSignature : Dword) (pcbResult : Option Dword)
    (dwFlags : Dword) : List Stage :=
  [.check .handle (passed (host.validateKeyHandle hProvider hKey)),
    .check .pointer (checkPaddingInfo pPaddingInfo),
    .check .pointer (passed (requireNonNull pbHashValue "pbHashValue cannot be null")),
    .check .pointer (passed (requireNonNull pcbResult "pcbResult cannot be null")),
    .check .flags (validateFlags dwFlags)] ++
  match host.validateKeyHandle hProvider hKey, pbHashValue with
  | .ok object, some hashValue =>
    .check .lookup (host.validateKeyPreconditions object) ::
      .check .lookup (passed (host.signatureLength object)) ::
      match host.signatureLength object with
      | .ok signatureLength =>
        [.perform (.writeResult (UInt32.ofNat signatureLength)), .returnIf pbSignature.isNone,
          .check .bufferSize (checkSignatureSize cbSignature (UInt32.ofNat signatureLength)),
          .perform (.signDigest hKey (hashValue.take cbHashValue.toNat) cbSignature),
          .finish (host.signDigest object (hashValue.take cbHashValue.toNat) cbSignature)]
      | .error _ => []
  | _, _ => []

/-! ## The code does what its steps do

Each proof follows the code: a failing check ends both sides, a passing one is peeled off. -/

theorem openProvider_eq_run (phProvider : Option NcryptProvHandle)
    (pszProviderName : Option String) (dwFlags : Dword) :
    (openProvider host phProvider pszProviderName dwFlags).outcome =
      Stage.run (openProviderStages host phProvider pszProviderName dwFlags) := by
  unfold openProvider openProviderStages
  cases phProvider <;> cases checkProviderName host pszProviderName <;>
    cases validateFlags dwFlags <;> rfl

theorem freeProvider_eq_run (hProvider : NcryptProvHandle) :
    (freeProvider host hProvider).outcome = Stage.run (freeProviderStages host hProvider) := by
  unfold freeProvider freeProviderStages
  cases host.validateProviderHandle hProvider <;> rfl

/-- `GetProviderProperty` and `GetKeyProperty`: a handle check that yields `x`, then the shared
body on the lookup of `x`. -/
theorem propertyRead_eq_run {X : Type} (handle : Except Status X)
    (lookup : X → String → Except Status Bytes) (pszProperty : Option String)
    (pbOutput : Option Bytes) (cbOutput : Dword) (pcbResult : Option Dword) (dwFlags : Dword) :
    (liftExcept handle >>= fun x =>
        getProperty (lookup x) pszProperty pbOutput cbOutput pcbResult dwFlags : BridgeM Unit).outcome =
      Stage.run (propertyStages handle lookup pszProperty pbOutput cbOutput pcbResult dwFlags) := by
  unfold getProperty propertyStages
  rcases handle with _ | x; · rfl
  rcases pszProperty with _ | property; · rfl
  rcases pcbResult with _ | cell; · rfl
  cases validateFlags dwFlags; · rfl
  simp only [BridgeM.outcome, requireNonNull, run_liftExcept_ok_bind]
  rcases lookup x property with _ | v; · rfl
  cases pbOutput; · rfl
  simp only [run_liftExcept_ok_bind]
  cases checkOutputSize cbOutput v <;> rfl

theorem setProviderProperty_eq_run (hProvider : NcryptProvHandle) (pszProperty : Option String)
    (pbInput : Option Bytes) (cbInput : Dword) (dwFlags : Dword) :
    (setProviderProperty host hProvider pszProperty pbInput cbInput dwFlags).outcome =
      Stage.run (setProviderPropertyStages host hProvider pszProperty pbInput cbInput dwFlags) := by
  unfold setProviderProperty setProviderPropertyStages
  rcases host.validateProviderHandle hProvider with _ | prov; · rfl
  rcases pszProperty with _ | property; · rfl
  rcases pbInput with _ | input; · rfl
  cases validateFlags dwFlags; · rfl
  simp only [BridgeM.outcome, requireNonNull, run_liftExcept_ok_bind]
  cases host.providerSetProperty prov property (input.take cbInput.toNat) <;> rfl

theorem openKey_eq_run (hProvider : NcryptProvHandle) (phKey : Option NcryptKeyHandle)
    (pszKeyName : Option String) (dwLegacyKeySpec dwFlags : Dword) :
    (openKey host hProvider phKey pszKeyName dwLegacyKeySpec dwFlags).outcome =
      Stage.run (openKeyStages host hProvider phKey pszKeyName dwLegacyKeySpec dwFlags) := by
  unfold openKey openKeyStages
  cases checkProviderHandle hProvider; · rfl
  cases phKey; · rfl
  rcases pszKeyName with _ | keyName; · rfl
  cases checkLegacyKeySpec dwLegacyKeySpec; · rfl
  cases checkOpenKeyFlags dwFlags; · rfl
  simp only [BridgeM.outcome, requireNonNull, run_liftExcept_ok_bind]
  cases host.objectNew hProvider keyName <;> rfl

theorem freeKey_eq_run (hProvider : NcryptProvHandle) (hKey : NcryptKeyHandle) :
    (freeKey host hProvider hKey).outcome = Stage.run (freeKeyStages host hProvider hKey) := by
  unfold freeKey freeKeyStages
  cases host.validateKeyHandle hProvider hKey <;> rfl

theorem signHash_eq_run (hProvider : NcryptProvHandle) (hKey : NcryptKeyHandle)
    (pPaddingInfo : Option Bytes) (pbHashValue : Option Bytes) (cbHashValue : Dword)
    (pbSignature : Option Bytes) (cbSignature : Dword) (pcbResult : Option Dword)
    (dwFlags : Dword) :
    (signHash host hProvider hKey pPaddingInfo pbHashValue cbHashValue pbSignature cbSignature
        pcbResult dwFlags).outcome =
      Stage.run (signHashStages host hProvider hKey pPaddingInfo pbHashValue cbHashValue
        pbSignature cbSignature pcbResult dwFlags) := by
  unfold signHash signHashStages
  rcases host.validateKeyHandle hProvider hKey with _ | object; · rfl
  cases checkPaddingInfo pPaddingInfo; · rfl
  rcases pbHashValue with _ | hashValue; · rfl
  cases pcbResult; · rfl
  cases validateFlags dwFlags; · rfl
  simp only [BridgeM.outcome, requireNonNull, run_liftExcept_ok_bind]
  cases host.validateKeyPreconditions object; · rfl
  rcases host.signatureLength object with _ | signatureLength; · rfl
  cases pbSignature; · rfl
  simp only [run_liftExcept_ok_bind]
  cases checkSignatureSize cbSignature (UInt32.ofNat signatureLength); · rfl
  cases host.signDigest object (hashValue.take cbHashValue.toNat) cbSignature <;> rfl

end

/-! ## Every entry point -/

/-- A call of an entry point of the bridge, with its arguments. -/
inductive Call
  | openProvider (phProvider : Option NcryptProvHandle) (pszProviderName : Option String)
      (dwFlags : Dword)
  | freeProvider (hProvider : NcryptProvHandle)
  | getProviderProperty (hProvider : NcryptProvHandle) (pszProperty : Option String)
      (pbOutput : Option Bytes) (cbOutput : Dword) (pcbResult : Option Dword) (dwFlags : Dword)
  | setProviderProperty (hProvider : NcryptProvHandle) (pszProperty : Option String)
      (pbInput : Option Bytes) (cbInput : Dword) (dwFlags : Dword)
  | openKey (hProvider : NcryptProvHandle) (phKey : Option NcryptKeyHandle)
      (pszKeyName : Option String) (dwLegacyKeySpec dwFlags : Dword)
  | freeKey (hProvider : NcryptProvHandle) (hKey : NcryptKeyHandle)
  | getKeyProperty (hProvider : NcryptProvHandle) (hKey : NcryptKeyHandle)
      (pszProperty : Option String) (pbOutput : Option Bytes) (cbOutput : Dword)
      (pcbResult : Option Dword) (dwFlags : Dword)
  | signHash (hProvider : NcryptProvHandle) (hKey : NcryptKeyHandle)
      (pPaddingInfo : Option Bytes) (pbHashValue : Option Bytes) (cbHashValue : Dword)
      (pbSignature : Option Bytes) (cbSignature : Dword) (pcbResult : Option Dword)
      (dwFlags : Dword)

namespace Call

section
variable {P O : Type} (host : Host P O)

/-- The entry point the call names. -/
def run : Call → BridgeM Unit
  | openProvider a b c => Kmscng.openProvider host a b c
  | freeProvider a => Kmscng.freeProvider host a
  | getProviderProperty a b c d e f => Kmscng.getProviderProperty host a b c d e f
  | setProviderProperty a b c d e => Kmscng.setProviderProperty host a b c d e
  | openKey a b c d e => Kmscng.openKey host a b c d e
  | freeKey a b => Kmscng.freeKey host a b
  | getKeyProperty a b c d e f g => Kmscng.getKeyProperty host a b c d e f g
  | signHash a b c d e f g h i => Kmscng.signHash host a b c d e f g h i

/-- The steps of the entry point the call names. -/
def stages : Call → List Stage
  | openProvider a b c => openProviderStages host a b c
  | freeProvider a => freeProviderStages host a
  | getProviderProperty a b c d e f =>
    propertyStages (host.validateProviderHandle a) host.providerGetProperty b c d e f
  | setProviderProperty a b c d e => setProviderPropertyStages host a b c d e
  | openKey a b c d e => openKeyStages host a b c d e
  | freeKey a b => freeKeyStages host a b
  | getKeyProperty a b c d e f g =>
    propertyStages (host.validateKeyHandle a b) host.objectGetProperty c d e f g
  | signHash a b c d e f g h i => signHashStages host a b c d e f g h i

/-- Every entry point does what its steps do. -/
theorem outcome_eq_run : ∀ c : Call, (c.run host).outcome = Stage.run (c.stages host)
  | openProvider .. => openProvider_eq_run ..
  | freeProvider .. => freeProvider_eq_run ..
  | getProviderProperty .. | getKeyProperty .. => propertyRead_eq_run ..
  | setProviderProperty .. => setProviderProperty_eq_run ..
  | openKey .. => openKey_eq_run ..
  | freeKey .. => freeKey_eq_run ..
  | signHash .. => signHash_eq_run ..

/-- Every entry point's checks come in the order of their kinds, and its last call or its result
effect, if any, ends it. -/
theorem ordered (c : Call) : Stage.Ordered (c.stages host) := by
  cases c <;> simp only [stages, openProviderStages, freeProviderStages, propertyStages,
    setProviderPropertyStages, openKeyStages, freeKeyStages, signHashStages] <;>
    repeat' split
  all_goals
    refine ⟨?_, rfl, rfl⟩
    simp only [Stage.kinds_append, Stage.kinds_check, Stage.kinds_perform, Stage.kinds_returnIf,
      Stage.kinds_finish, Stage.kinds_nil, List.cons_append, List.nil_append]
    decide

end

end Call

/-! ## The flags -/

section
variable (f : Dword)

/-- `ValidateFlags` accepts exactly `0` and `NCRYPT_SILENT_FLAG`. -/
theorem validateFlags_eq_ok_iff : validateFlags f = .ok () ↔ f = 0 ∨ f = NCRYPT_SILENT_FLAG := by
  unfold validateFlags
  split_ifs with h <;> simp only [reduceCtorEq, false_iff, true_iff] <;> tauto

/-- Clearing the two flags one after the other clears their union. -/
theorem openKeyFlags_eq :
    openKeyFlags f = f &&& ~~~(NCRYPT_SILENT_FLAG ||| NCRYPT_MACHINE_KEY_FLAG) :=
  congrArg UInt32.mk <| BitVec.eq_of_getLsbD_eq fun i => by
    show ((f.toBitVec &&& ~~~NCRYPT_SILENT_FLAG.toBitVec) &&&
        ~~~NCRYPT_MACHINE_KEY_FLAG.toBitVec).getLsbD i =
      (f.toBitVec &&& ~~~(NCRYPT_SILENT_FLAG.toBitVec ||| NCRYPT_MACHINE_KEY_FLAG.toBitVec)).getLsbD i
    simp only [BitVec.getLsbD_and, BitVec.getLsbD_not, BitVec.getLsbD_or, Bool.not_or,
      Bool.and_assoc, i.isLt, decide_True, Bool.true_and]

/-- `OpenKey` accepts exactly the flag words with no bit outside
`NCRYPT_SILENT_FLAG | NCRYPT_MACHINE_KEY_FLAG`. -/
theorem checkOpenKeyFlags_eq_ok_iff :
    checkOpenKeyFlags f = .ok () ↔ f &&& ~~~(NCRYPT_SILENT_FLAG ||| NCRYPT_MACHINE_KEY_FLAG) = 0 := by
  rw [checkOpenKeyFlags, ← openKeyFlags_eq]
  split_ifs with h <;> simp_all

example : checkOpenKeyFlags (NCRYPT_SILENT_FLAG ||| NCRYPT_MACHINE_KEY_FLAG) = .ok () := rfl

end

/-- The spec of the order of the bridge's checks. For every host and every call of an entry point
with any arguments, the call does what its steps do, whose checks come in the order of their kinds:
handle, pointers and padding, legacy key spec, flags, lookup and key preconditions, buffer size. It
performs an effect only after every step before it went on: every check before it passed and no
early return was taken. A call that fails returns the status of a check after checks that all
passed, every check of a lesser kind having passed too; or the status of its last call, after every
check passed. `ValidateFlags` accepts exactly `0` and `NCRYPT_SILENT_FLAG`, and `OpenKey` exactly the
flag words with no bit outside `NCRYPT_SILENT_FLAG | NCRYPT_MACHINE_KEY_FLAG`. -/
theorem checkOrder_spec {P O : Type} (host : Host P O) :
    (∀ c : Call,
      (c.run host).outcome = Stage.run (c.stages host) ∧
      (Stage.kinds (c.stages host)).Sorted (fun a b => a.rank ≤ b.rank) ∧
      (∀ e ∈ (c.run host).outcome.2, ∃ pre rest,
        c.stages host = pre ++ .perform e :: rest ∧ ∀ t ∈ pre, t.Continues) ∧
      ∀ s, (c.run host).outcome.1 = .error s →
        (∃ pre k rest, c.stages host = pre ++ .check k (.error s) :: rest ∧
          (∀ t ∈ pre, t.Continues) ∧
          ∀ k' r', .check k' r' ∈ c.stages host → k'.rank < k.rank → r' = .ok ()) ∨
        ∃ pre, c.stages host = pre ++ [.finish (.error s)] ∧ ∀ t ∈ pre, t.Continues) ∧
    (∀ f, validateFlags f = .ok () ↔ f = 0 ∨ f = NCRYPT_SILENT_FLAG) ∧
    ∀ f, checkOpenKeyFlags f = .ok () ↔
      f &&& ~~~(NCRYPT_SILENT_FLAG ||| NCRYPT_MACHINE_KEY_FLAG) = 0 := by
  refine ⟨fun c => ?_, validateFlags_eq_ok_iff, checkOpenKeyFlags_eq_ok_iff⟩
  rw [c.outcome_eq_run host]
  exact ⟨rfl, (c.ordered host).sorted, fun _ => Stage.mem_run_effects,
    fun _ => (c.ordered host).run_eq_error⟩

/-- A null input with an unsupported flag: `SetProviderProperty` returns the pointer's status and
does nothing. -/
theorem checkOrder_spec_input_null :
    let host : Host Unit Unit :=
      { providerName := "p", validateProviderHandle := fun _ => .ok (),
        providerGetProperty := fun _ _ => .ok [], providerSetProperty := fun _ _ _ => .ok (),
        objectNew := fun _ _ => .ok (), validateKeyHandle := fun _ _ => .ok (),
        objectGetProperty := fun _ _ => .ok [], validateKeyPreconditions := fun _ => .ok (),
        signatureLength := fun _ => .ok 64, signDigest := fun _ _ _ => .ok () }
    ((Call.setProviderProperty 1 (some "p") none 4 0x80).run host).outcome =
        (.error (newInvalidArgumentError "pbInput cannot be null" NTE_INVALID_PARAMETER), []) ∧
      validateFlags 0x80 ≠ .ok () := by
  intro host
  exact ⟨((checkOrder_spec host).1 _).1, ((checkOrder_spec host).2.1 0x80).not.2 (by decide)⟩

/-- A call of any entry point that fails creates or deletes no provider or key and copies nothing
to the output buffer: the only effects it may have had are writing `*pcbResult` and the last host
call whose status it returns, `Provider::SetProperty` or `SignDigest`. -/
theorem failedCall_spec {P O : Type} (host : Host P O) (c : Call) {s : Status}
    (h : (c.run host).outcome.1 = .error s) :
    ∀ e ∈ (c.run host).outcome.2, (∃ n, e = .writeResult n) ∨
      (∃ hProvider name value, e = .setProperty hProvider name value) ∨
      ∃ hKey digest cbSignature, e = .signDigest hKey digest cbSignature := by
  rw [c.outcome_eq_run host] at h ⊢
  exact fun e he =>
    Effect.isResult_eq_false_iff.1
      (Stage.isResult_eq_false_of_run_error (c.ordered host).resultsLast h he)

/-- `SignHash` with a buffer too small for a 64-byte signature: it fails having written only
`*pcbResult`. -/
theorem failedCall_spec_small_buffer :
    let host : Host Unit Unit :=
      { providerName := "p", validateProviderHandle := fun _ => .ok (),
        providerGetProperty := fun _ _ => .ok [], providerSetProperty := fun _ _ _ => .ok (),
        objectNew := fun _ _ => .ok (), validateKeyHandle := fun _ _ => .ok (),
        objectGetProperty := fun _ _ => .ok [], validateKeyPreconditions := fun _ => .ok (),
        signatureLength := fun _ => .ok 64, signDigest := fun _ _ _ => .ok () }
    let c := Call.signHash 1 2 none (some [1]) 1 (some []) 0 (some 0) 0
    (∃ s, (c.run host).outcome = (.error s, [.writeResult 64])) ∧
      ∀ e ∈ (c.run host).outcome.2, (∃ n, e = .writeResult n) ∨
        (∃ hProvider name value, e = .setProperty hProvider name value) ∨
        ∃ hKey digest cbSignature, e = .signDigest hKey digest cbSignature := by
  intro host c
  exact ⟨⟨_, rfl⟩, failedCall_spec host c rfl⟩

end Kmscng
