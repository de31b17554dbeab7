import Mathlib.Data.List.AList
import KmsIntegrations.Common.Status

/-!
# Values, statuses and the random-handle loop of the PKCS #11 library

The `kmsp11` library names every object by a `CK_ULONG` handle and reports a failure as an
`absl::Status` that carries the PKCS #11 return value the caller receives. This module fixes the
model of both, the `try_emplace` of `absl::flat_hash_map` (the maps are Mathlib's `AList`, whose
entry order stands for the hash map's unspecified iteration order), and the loop by which
`HandleMap::Add` and `ObjectStoreBuilder::NewHandle` draw from `RandomHandle` until a handle is not
in use (`drawUnused`).

`RandomHandle` is a stream of values the model does not choose. A call consumes a prefix of it, so
the stream is a list: a loop that reaches its end has not returned yet, and
`drawUnused_isSome_iff` says when it returns.
-/

namespace Kmsp11

open Common

/-- `CK_ULONG`, an `unsigned long` on the LP64 platforms the library is built for. -/
abbrev CkUlong := UInt64

/-- `CK_RV`, the return value of a PKCS #11 function. -/
abbrev CkRv := CkUlong

/-- `CKR_OBJECT_HANDLE_INVALID` (`pkcs11t.h`). -/
def CKR_OBJECT_HANDLE_INVALID : CkRv := 0x82

/-- A non-OK `absl::Status` of the library. `NewError` and its named forms (`NewInvalidArgumentError`,
`FailedPreconditionError`) give a code, a message and the `CK_RV` the caller sees. `NewInternalError`
and `HandleNotFoundError` are defined in `kmsp11/util/errors.h`, which is not among the sources: their
statuses are kept as the arguments they are built from. -/
inductive Status
  | error (code : StatusCode) (message : String) (rv : CkRv)
  | internal (message : String)
  | handleNotFound (handle : CkUlong) (rv : CkRv)
  deriving DecidableEq, Repr

/-! ## `absl::flat_hash_map` -/

/-- `flat_hash_map::try_emplace`: insert unless the key is present. -/
def tryEmplace {α : Type} {β : α → Type} [DecidableEq α] (a : α) (b : β a) (s : AList β) :
    AList β :=
  if a ∈ s then s else s.insert a b

theorem tryEmplace_of_not_mem {α : Type} {β : α → Type} [DecidableEq α] {a : α} {b : β a}
    {s : AList β} (h : a ∉ s) : tryEmplace a b s = s.insert a b :=
  if_neg h

/-! ## The random-handle loop -/

/-- The `do { handle = RandomHandle(); } while (inUse(handle))` loop of `HandleMap::Add` and
`ObjectStoreBuilder::NewHandle`. `draws` is what `RandomHandle` returns from here on; the loop
returns the handle and the draws left after it, or `none` when `draws` ends first. -/
def drawUnused (inUse : CkUlong → Bool) : List CkUlong → Option (CkUlong × List CkUlong)
  | [] => none
  | h :: draws => if inUse h then drawUnused inUse draws else some (h, draws)

variable {inUse : CkUlong → Bool} {draws rest : List CkUlong} {h : CkUlong}

/-- The loop returns a handle not in use, drawn after handles that all were. -/
theorem drawUnused_eq_some (hd : drawUnused inUse draws = some (h, rest)) :
    inUse h = false ∧ ∃ pre, draws = pre ++ h :: rest ∧ ∀ x ∈ pre, inUse x = true := by
  induction draws with
  | nil => cases hd
  | cons x draws ih =>
    simp only [drawUnused] at hd
    split at hd
    next hx =>
      obtain ⟨hh, pre, rfl, hpre⟩ := ih hd
      exact ⟨hh, x :: pre, rfl, by simpa [hx] using hpre⟩
    next hx =>
      cases hd
      exact ⟨by simpa using hx, [], rfl, by simp⟩

/-- The loop returns exactly when `RandomHandle` yields a handle not in use. -/
theorem drawUnused_isSome_iff : (drawUnused inUse draws).isSome ↔ ∃ h ∈ draws, inUse h = false := by
  induction draws with
  | nil => simp [drawUnused]
  | cons x draws ih =>
    by_cases hx : inUse x <;> simp [drawUnused, hx, ih]

end Kmsp11
