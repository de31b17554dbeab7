import Mathlib.Data.Nat.Digits

/-!
# Statuses shared by the two libraries

`common/status_macros.h` gives both `kmsp11` and `kmscng` their error propagation:
`ASSIGN_OR_RETURN` and `RETURN_IF_ERROR` continue with an OK value and return an error as it is,
which on `Except` is its bind (`except_ok_bind`, `except_error_bind`, `except_bind_eq_ok`). Both
libraries build statuses from the codes of `absl::StatusCode` and format numbers into their
messages with `absl::StrFormat`.
-/

namespace Common

/-- The codes of `absl::StatusCode` other than `kOk`. -/
inductive StatusCode
  | cancelled | unknown | invalidArgument | deadlineExceeded | notFound | alreadyExists
  | permissionDenied | resourceExhausted | failedPrecondition | aborted | outOfRange
  | unimplemented | internal | unavailable | dataLoss | unauthenticated
  deriving DecidableEq, Repr

/-- `absl::StrFormat("%#x", n)`: lower-case hexadecimal with a `0x` prefix, except for zero. -/
def formatHexAlt (n : Nat) : String :=
  if n = 0 then "0" else "0x" ++ String.mk (Nat.toDigits 16 n)

example : formatHexAlt 0x82 = "0x82" := by decide

/-- `ASSIGN_OR_RETURN` on an OK value continues with it. -/
@[simp] theorem except_ok_bind {ε α β : Type} (a : α) (f : α → Except ε β) :
    (Except.ok a >>= f) = f a := rfl

/-- `ASSIGN_OR_RETURN` on an error returns it. -/
@[simp] theorem except_error_bind {ε α β : Type} (e : ε) (f : α → Except ε β) :
    (Except.error e >>= f) = Except.error e := rfl

/-- A chain of `ASSIGN_OR_RETURN`s succeeds exactly when each step does. -/
theorem except_bind_eq_ok {ε α β : Type} {x : Except ε α} {f : α → Except ε β} {b : β} :
    (x >>= f) = .ok b ↔ ∃ a, x = .ok a ∧ f a = .ok b := by
  cases x <;> simp

end Common
