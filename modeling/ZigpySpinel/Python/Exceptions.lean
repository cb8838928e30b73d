import ZigpySpinel.Lib.Bytes

/-!
# Exceptions of the Python package

A call that can raise returns an `Except`. The texts of the exceptions are kept where the
package writes them itself.
-/

namespace ZigpySpinel.Python
open Lib

/-- The exceptions that the modelled code raises. -/
inductive PyException where
  | assertionError
  | attributeError
  | typeError
  | valueError (message : String)
  | indexError
  | overflowError
  /-- `asyncio.InvalidStateError` -/
  | invalidStateError
  /-- `asyncio.TimeoutError` -/
  | timeoutError
  /-- `asyncio.CancelledError` -/
  | cancelledError
  /-- `DecryptionFailure` (`zigbee_types.py:11-12`) -/
  | decryptionFailure (message : String)
  deriving DecidableEq, Repr

/-- The value, or the exception that its absence raises. -/
def orRaise {α : Type} (o : Option α) (exception : PyException) : Except PyException α :=
  match o with
  | some a => .ok a
  | none => .error exception

/-- A sequence of two calls returns only if both do. -/
theorem except_bind_eq_ok {ε α β : Type} {x : Except ε α} {f : α → Except ε β} {b : β} :
    (x >>= f) = .ok b ↔ ∃ a, x = .ok a ∧ f a = .ok b := by
  cases x with
  | error e => simp [bind, Except.bind]
  | ok a => simp [bind, Except.bind]

theorem orRaise_eq_ok {α : Type} {o : Option α} {exception : PyException} {a : α} :
    orRaise o exception = .ok a ↔ o = some a := by
  cases o with
  | none => simp [orRaise]
  | some b => simp [orRaise]

/-- `n.to_bytes(length, "big")`. -/
def toBytesBig (n length : Nat) : Except PyException (List UInt8) :=
  if n < 256 ^ length then .ok (beBytes length n) else .error .overflowError

theorem toBytesBig_of_lt {n length : Nat} (h : n < 256 ^ length) :
    toBytesBig n length = .ok (beBytes length n) := if_pos h

/-- `n.to_bytes(length, "little")`. -/
def toBytesLittle (n length : Nat) : Except PyException (List UInt8) :=
  if n < 256 ^ length then .ok (leBytes length n) else .error .overflowError

theorem toBytesLittle_of_lt {n length : Nat} (h : n < 256 ^ length) :
    toBytesLittle n length = .ok (leBytes length n) := if_pos h

/-! ## Exceptions that a handler expects -/

/-- A call that raises nothing but `ValueError`. -/
def OnlyValueError {α : Type} (x : Except PyException α) : Prop :=
  ∀ e, x = .error e → ∃ message, e = .valueError message

theorem onlyValueError_ok {α : Type} (a : α) : OnlyValueError (.ok a) := by
  intro e h
  cases h

theorem onlyValueError_valueError {α : Type} (message : String) :
    OnlyValueError (.error (.valueError message) : Except PyException α) := by
  intro e h
  cases h
  exact ⟨message, rfl⟩

theorem OnlyValueError.bind {α β : Type} {x : Except PyException α} {f : α → Except PyException β}
    (hx : OnlyValueError x) (hf : ∀ a, OnlyValueError (f a)) : OnlyValueError (x >>= f) := by
  intro e h
  cases x with
  | error e' =>
    cases h
    exact hx e rfl
  | ok a => exact hf a e h

end ZigpySpinel.Python
