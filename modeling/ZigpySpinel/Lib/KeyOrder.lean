import Mathlib.Order.Lattice

/-!
# Orders by a key

Values are compared by a key alone, while their equality may look at more of them. Such an order
is total for two values exactly if their keys tell them apart.
-/

namespace ZigpySpinel.Lib

/-- One of three statements is true, and no other of them. -/
def ExactlyOne (p q r : Prop) : Prop :=
  (p ∧ ¬q ∧ ¬r) ∨ (¬p ∧ q ∧ ¬r) ∨ (¬p ∧ ¬q ∧ r)

section KeyOrder

variable {α κ : Type*} (key : α → κ)

/-- Two values that have the same key are the same. -/
def KeyDecides (a b : α) : Prop := key a = key b → a = b

variable [LinearOrder κ]

/-- The order by a key is trichotomous for two values exactly if the key decides them. -/
theorem exactlyOne_iff_keyDecides (a b : α) :
    ExactlyOne (key a < key b) (a = b) (key b < key a) ↔ KeyDecides key a b := by
  rcases lt_trichotomy (key a) (key b) with hlt | heq | hgt
  · have hne : a ≠ b := fun h => hlt.ne (congrArg key h)
    exact iff_of_true (.inl ⟨hlt, hne, hlt.asymm⟩) (fun h => absurd h hlt.ne)
  · -- neither is below the other, so equality has to hold
    have hnot : ¬ key a < key b := heq.not_lt
    have hnot' : ¬ key b < key a := heq.not_gt
    constructor
    · rintro (⟨h, -⟩ | ⟨-, h, -⟩ | ⟨-, -, h⟩)
      · exact absurd h hnot
      · exact fun _ => h
      · exact absurd h hnot'
    · exact fun h => .inr (.inl ⟨hnot, h heq, hnot'⟩)
  · have hne : a ≠ b := fun h => hgt.ne' (congrArg key h)
    exact iff_of_true (.inr (.inr ⟨hgt.asymm, hne, hgt⟩)) (fun h => absurd h hgt.ne')

/-- "Not below and not equal" is "above" for two values exactly if the key decides them. -/
theorem not_lt_and_ne_iff_keyDecides (a b : α) :
    ((¬ key a < key b ∧ a ≠ b) ↔ key b < key a) ↔ KeyDecides key a b := by
  constructor
  · intro h heq
    by_contra hne
    exact heq.not_gt (h.mp ⟨heq.not_lt, hne⟩)
  · intro h
    constructor
    · rintro ⟨hnot, hne⟩
      exact lt_of_le_of_ne (not_lt.mp hnot) (fun heq => hne (h heq.symm))
    · intro hgt
      exact ⟨hgt.asymm, fun heq => hgt.ne' (congrArg key heq)⟩

end KeyOrder

end ZigpySpinel.Lib
