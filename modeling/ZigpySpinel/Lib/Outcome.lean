import Mathlib.Data.List.Forall2
import Mathlib.Logic.Basic

/-!
# Outcomes of a call

A call of a fallible function ends in one of three ways: it returns a value, it
returns an error of type `ε`, or it panics. Keeping the panic apart from the
error lets a statement say "never panics" or "for every input on which it does
not panic". The message of a panic is kept for the reader; no result depends on
its text.
-/

namespace ZigpySpinel.Lib

/-- How a call with result type `Result α ε` ends. -/
inductive Outcome (ε α : Type) where
  | ok (value : α)
  | err (error : ε)
  | panic (message : String)
  deriving DecidableEq, Repr

namespace Outcome

variable {ε α β : Type}

/-- The `?` operator: errors and panics end the caller too. -/
def bind (x : Outcome ε α) (f : α → Outcome ε β) : Outcome ε β :=
  match x with
  | ok a => f a
  | err e => err e
  | panic m => panic m

instance : Monad (Outcome ε) where
  pure := ok
  bind := bind

@[simp] theorem pure_eq (a : α) : (pure a : Outcome ε α) = ok a := rfl
@[simp] theorem ok_bind (a : α) (f : α → Outcome ε β) : (ok a >>= f) = f a := rfl
@[simp] theorem err_bind (e : ε) (f : α → Outcome ε β) : (err e >>= f) = err e := rfl
@[simp] theorem panic_bind (m : String) (f : α → Outcome ε β) :
    (panic m >>= f) = panic m := rfl

instance : LawfulMonad (Outcome ε) :=
  LawfulMonad.mk' (Outcome ε)
    (fun x => by cases x <;> rfl)
    (fun _ _ => rfl)
    (fun x _ _ => by cases x <;> rfl)

/-- A sequence of two calls returns only if both do. -/
theorem bind_eq_ok {x : Outcome ε α} {f : α → Outcome ε β} {b : β} :
    (x >>= f) = ok b ↔ ∃ a, x = ok a ∧ f a = ok b := by
  cases x with
  | ok a => simp
  | err e => simp
  | panic m => simp

/-- The call returns a value. -/
def Returns (x : Outcome ε α) : Prop := ∃ a, x = ok a

instance (x : Outcome ε α) : Decidable x.Returns :=
  match x with
  | ok a => isTrue ⟨a, rfl⟩
  | err _ => isFalse (by rintro ⟨a, ⟨⟩⟩)
  | panic _ => isFalse (by rintro ⟨a, ⟨⟩⟩)

theorem returns_ok (a : α) : (ok a : Outcome ε α).Returns := ⟨a, rfl⟩

theorem Returns.bind {x : Outcome ε α} {f : α → Outcome ε β} (hx : x.Returns)
    (hf : ∀ a, (f a).Returns) : (x >>= f).Returns := by
  obtain ⟨a, rfl⟩ := hx
  exact hf a

/-- The rule for a `for` loop whose body can return early: `inv done s` holds of the items
    that the loop is done with and the state it is in. -/
theorem foldlM_inv {f : β → α → Outcome ε β} (inv : List α → β → Prop)
    (hstep : ∀ done x s s', inv done s → f s x = ok s' → inv (done ++ [x]) s')
    {xs : List α} {s t : β} (hs : inv [] s) (h : xs.foldlM f s = ok t) : inv xs t := by
  have hrun : ∀ todo done s, inv done s → todo.foldlM f s = ok t → inv (done ++ todo) t := by
    intro todo
    induction todo with
    | nil =>
      intro done s hs h
      rw [List.foldlM_nil, pure_eq, ok.injEq] at h
      subst h
      rwa [List.append_nil]
    | cons x todo ih =>
      intro done s hs h
      rw [List.foldlM_cons, bind_eq_ok] at h
      obtain ⟨s', hx, hrest⟩ := h
      have hnext := ih _ _ (hstep done x s s' hs hx) hrest
      rwa [List.append_assoc, List.singleton_append] at hnext
  exact hrun xs [] s hs h

/-- All items are mapped exactly if each of them is. -/
theorem mapM_eq_ok {f : α → Outcome ε β} {xs : List α} {ys : List β} :
    xs.mapM f = ok ys ↔ List.Forall₂ (fun x y => f x = ok y) xs ys := by
  induction xs generalizing ys with
  | nil =>
    rw [List.mapM_nil, pure_eq, ok.injEq, List.forall₂_nil_left_iff, eq_comm]
  | cons x xs ih =>
    rw [List.mapM_cons, bind_eq_ok, List.forall₂_cons_left_iff]
    constructor
    · rintro ⟨y, hy, h⟩
      obtain ⟨rest, hrest, h⟩ := bind_eq_ok.mp h
      cases h
      exact ⟨y, rest, hy, ih.mp hrest, rfl⟩
    · rintro ⟨y, rest, hy, hrest, rfl⟩
      exact ⟨y, hy, bind_eq_ok.mpr ⟨rest, ih.mpr hrest, rfl⟩⟩

theorem mapM_returns_iff {f : α → Outcome ε β} {xs : List α} :
    (xs.mapM f).Returns ↔ ∀ x ∈ xs, (f x).Returns := by
  induction xs with
  | nil => exact iff_of_true (returns_ok []) (by rintro x ⟨⟩)
  | cons x xs ih =>
    rw [List.forall_mem_cons, ← ih, List.mapM_cons]
    constructor
    · rintro ⟨ys, h⟩
      obtain ⟨y, hy, h⟩ := bind_eq_ok.mp h
      obtain ⟨rest, hrest, -⟩ := bind_eq_ok.mp h
      exact ⟨⟨y, hy⟩, rest, hrest⟩
    · rintro ⟨⟨y, hy⟩, rest, hrest⟩
      exact ⟨y :: rest, bind_eq_ok.mpr ⟨y, hy, bind_eq_ok.mpr ⟨rest, hrest, rfl⟩⟩⟩

/-- A call without errors returns or panics. -/
theorem panics_iff {x : Outcome Empty α} : (∃ message, x = panic message) ↔ ¬ x.Returns := by
  cases x with
  | ok a => exact iff_of_false (by rintro ⟨message, ⟨⟩⟩) (not_not.mpr (returns_ok a))
  | err e => exact e.elim
  | panic message => exact iff_of_true ⟨message, rfl⟩ (by rintro ⟨a, ⟨⟩⟩)

/-! ## Between error types -/

/-- `map_err`: the error of the callee as the caller returns it. -/
def mapErr {ε' : Type} (f : ε → ε') : Outcome ε α → Outcome ε' α
  | ok a => ok a
  | err e => err (f e)
  | panic m => panic m

/-- `unwrap`: an error is a panic. -/
def unwrap {ε' : Type} : Outcome ε α → Outcome ε' α
  | ok a => ok a
  | err _ => panic "called `Result::unwrap()` on an `Err` value"
  | panic m => panic m

/-- `expect`: an error is a panic with a text of the caller. -/
def expect {ε' : Type} (text : String) : Outcome ε α → Outcome ε' α
  | ok a => ok a
  | err _ => panic text
  | panic m => panic m

/-- A call that cannot panic. -/
def ofExcept : Except ε α → Outcome ε α
  | .ok a => ok a
  | .error e => err e

theorem mapErr_eq_ok {ε' : Type} {f : ε → ε'} {x : Outcome ε α} {a : α} :
    x.mapErr f = ok a ↔ x = ok a := by
  cases x with
  | ok b => simp [mapErr]
  | err e => simp [mapErr]
  | panic m => simp [mapErr]

theorem unwrap_eq_ok {ε' : Type} {x : Outcome ε α} {a : α} :
    (x.unwrap : Outcome ε' α) = ok a ↔ x = ok a := by
  cases x with
  | ok b => simp [unwrap]
  | err e => simp [unwrap]
  | panic m => simp [unwrap]

theorem ofExcept_bind (x : Except ε α) (f : α → Except ε β) :
    ofExcept (x >>= f) = ofExcept x >>= fun a => ofExcept (f a) := by
  cases x <;> rfl

theorem ofExcept_eq_ok {x : Except ε α} {a : α} : ofExcept x = ok a ↔ x = .ok a := by
  cases x with
  | ok b => simp [ofExcept]
  | error e => simp [ofExcept]

/-- The call does not panic. -/
def NoPanic (x : Outcome ε α) : Prop := ∀ m, x ≠ panic m

theorem noPanic_ok (a : α) : (ok a : Outcome ε α).NoPanic := by
  rintro m ⟨⟩

theorem noPanic_err (e : ε) : (err e : Outcome ε α).NoPanic := by
  rintro m ⟨⟩

/-- A sequence panics where its first call does, or the second after a value of the first. -/
theorem noPanic_bind_iff {x : Outcome ε α} {f : α → Outcome ε β} :
    (x >>= f).NoPanic ↔ x.NoPanic ∧ ∀ a, x = ok a → (f a).NoPanic := by
  cases x with
  | ok a => simp [noPanic_ok]
  | err e => simp [noPanic_err]
  | panic m => simp [NoPanic]

theorem noPanic_mapErr_iff {ε' : Type} {f : ε → ε'} {x : Outcome ε α} :
    (x.mapErr f).NoPanic ↔ x.NoPanic := by
  cases x with
  | ok a => simp [mapErr, noPanic_ok]
  | err e => simp [mapErr, noPanic_err]
  | panic m => simp [mapErr, NoPanic]

theorem noPanic_ofExcept (x : Except ε α) : (ofExcept x).NoPanic := by
  cases x with
  | ok a => exact noPanic_ok a
  | error e => exact noPanic_err e

/-- To unwrap is not to panic exactly where a value is returned. -/
theorem noPanic_unwrap_iff {ε' : Type} {x : Outcome ε α} :
    (x.unwrap : Outcome ε' α).NoPanic ↔ x.Returns := by
  cases x with
  | ok a => simp [unwrap, noPanic_ok, returns_ok]
  | err e => simp [unwrap, NoPanic, Returns]
  | panic m => simp [unwrap, NoPanic, Returns]

theorem Returns.noPanic {x : Outcome ε α} (h : x.Returns) : x.NoPanic := by
  obtain ⟨a, rfl⟩ := h
  exact noPanic_ok a

instance (x : Outcome ε α) : Decidable x.NoPanic :=
  match x with
  | ok a => isTrue (noPanic_ok a)
  | err e => isTrue (noPanic_err e)
  | panic m => isFalse (fun h => h m rfl)

end Outcome

end ZigpySpinel.Lib
