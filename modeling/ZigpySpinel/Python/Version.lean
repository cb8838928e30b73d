import Mathlib.Data.List.Lex
import Mathlib.Data.Nat.Digits.Defs
import ZigpySpinel.Python.Exceptions

/-!
# Versions (`common.py:230-283`)

A version string is cut at its separators, which stay in as pieces of their own. Pieces of
digits become numbers. Equality compares all pieces, `<` only the numbers.
-/

namespace ZigpySpinel.Python
open Lib

/-- A `str` that has ASCII characters only. -/
structure AsciiString where
  chars : List Char
  ascii : chars.all (fun c => c.toNat < 128) = true
  deriving DecidableEq, Repr

/-! ## Pieces -/

/-- `Version._SEPARATORS`. A set, so the pattern may try them in another order, but no two of them
    start with the same character. -/
def SEPARATORS : List (List Char) :=
  [['.'], ['-'], ['/'], ['_'], [' ', 'b', 'u', 'i', 'l', 'd', ' ']]

/-- The separator that a text starts with. -/
def separatorAt (separators : List (List Char)) (text : List Char) : Option (List Char) :=
  separators.find? (fun separator => separator.isPrefixOf text)

/-- `_SEPARATORS_REGEX.split` inside a text: `skip` characters of the last separator are still
    to be passed, and `piece` is what has been read since. The separators are in a group of the
    pattern, so they are returned as well. -/
def splitFrom (skip : Nat) (piece : List Char) : List Char → List (List Char)
  | [] => [piece]
  | c :: rest =>
    match skip with
    | skip + 1 => splitFrom skip piece rest
    | 0 =>
      match separatorAt SEPARATORS (c :: rest) with
      | some separator => piece :: separator :: splitFrom (separator.length - 1) [] rest
      | none => splitFrom 0 (piece ++ [c]) rest

/-- `_SEPARATORS_REGEX.split(version)`. -/
def split (version : AsciiString) : List (List Char) := splitFrom 0 [] version.chars

/-- `str.isdigit`, of ASCII text. -/
def isdigit (text : List Char) : Bool := !text.isEmpty && text.all Char.isDigit

/-- The value of a decimal digit. -/
def digitValue (c : Char) : Nat := c.toNat - '0'.toNat

/-- `int` of a text of digits. The interpreter refuses texts longer than its limit
    (`sys.get_int_max_str_digits`), if it has one: `0` stands for none. -/
def int (maxStrDigits : Nat) (text : List Char) : Except PyException Nat :=
  if maxStrDigits ≠ 0 ∧ maxStrDigits < text.length then .error (.valueError "")
  else .ok (Nat.ofDigits 10 (text.reverse.map digitValue))

/-! ## Components -/

/-- `data` of a component: `str` or `int`. -/
inductive ComponentData where
  | str (text : List Char)
  | int (n : Nat)
  deriving DecidableEq, Repr

def ComponentData.isInt : ComponentData → Bool
  | .str _ => false
  | .int _ => true

/-- `VersionComponent`, as versions have them: the comparable ones are those with a number. -/
structure VersionComponent where
  comparable : Bool
  data : ComponentData
  comparable_eq : comparable = data.isInt
  deriving DecidableEq, Repr

/-- `VersionComponent(comparable=False, data=text)`. -/
def VersionComponent.ofText (text : List Char) : VersionComponent where
  comparable := false
  data := .str text
  comparable_eq := rfl

/-- `VersionComponent(comparable=True, data=n)`. -/
def VersionComponent.ofNumber (n : Nat) : VersionComponent where
  comparable := true
  data := .int n
  comparable_eq := rfl

/-- `<` of two values, which Python has for values of one type only. -/
def ComponentData.lt : ComponentData → ComponentData → Except PyException Bool
  | .str s, .str t => .ok (decide (s < t))
  | .int m, .int n => .ok (decide (m < n))
  | .str _, .int _ => .error .typeError
  | .int _, .str _ => .error .typeError

/-- The `__lt__` of the dataclass compares `(comparable, data)`: by the first of the two fields
    that differ. -/
def VersionComponent.lt (a b : VersionComponent) : Except PyException Bool :=
  if a.comparable ≠ b.comparable then .ok (decide (a.comparable < b.comparable))
  else if a.data ≠ b.data then a.data.lt b.data
  else .ok false

/-- `<` of two tuples of components: at the first place where they differ, and else by their
    lengths. -/
def tupleLt : List VersionComponent → List VersionComponent → Except PyException Bool
  | a :: as, b :: bs => if a = b then tupleLt as bs else a.lt b
  | as, bs => .ok (decide (as.length < bs.length))

/-! ## Versions -/

/-- `Version`. -/
structure Version where
  components : List VersionComponent
  deriving DecidableEq, Repr

namespace Version

/-- One round of the loop in `__init__`. -/
def component (maxStrDigits : Nat) (piece : List Char) : Except PyException VersionComponent :=
  if isdigit piece then do
    let n ← int maxStrDigits piece
    return .ofNumber n
  else .ok (.ofText piece)

/-- The loop in `__init__`. -/
def componentsOf (maxStrDigits : Nat) :
    List (List Char) → Except PyException (List VersionComponent)
  | [] => .ok []
  | piece :: pieces => do
    let component ← component maxStrDigits piece
    let components ← componentsOf maxStrDigits pieces
    return component :: components

/-- `Version(version)` (`common.py:243-258`). -/
def ofString (maxStrDigits : Nat) (version : AsciiString) : Except PyException Version := do
  let components ← componentsOf maxStrDigits (split version)
  return { components := components }

/-- `comparable_components` (`common.py:260-261`). -/
def comparableComponents (v : Version) : List VersionComponent :=
  v.components.filter (·.comparable)

/-- `__eq__` (`common.py:270-274`). -/
def eq (v other : Version) : Bool := v.components == other.components

/-- `__lt__` (`common.py:276-283`). -/
def lt (v other : Version) : Except PyException Bool :=
  tupleLt v.comparableComponents other.comparableComponents

/-- `__gt__`, which `functools.total_ordering` derives from `__lt__` and `__eq__`. -/
def gt (v other : Version) : Except PyException Bool := do
  let below ← v.lt other
  return !below && !v.eq other

end Version

end ZigpySpinel.Python
