import Mathlib.Data.List.Forall2
import Mathlib.Data.List.TakeWhile
import Mathlib.Data.Nat.Digits.Lemmas
import ZigpySpinel.Lib.KeyOrder
import ZigpySpinel.Python.Version

/-!
# The order of versions

`<` compares the numbers of two versions, as lists in lexicographic order, and never raises.
Equality compares the text pieces as well, so the order is total for two versions exactly if
they do not differ in their text pieces alone.
-/

namespace ZigpySpinel.Python
open Lib

/-! ## Numbers -/

/-- The number that digits are read as. -/
def value (text : List Char) : Nat := Nat.ofDigits 10 (text.reverse.map digitValue)

theorem int_eq_ok {maxStrDigits n : Nat} {text : List Char} (h : int maxStrDigits text = .ok n) :
    n = value text := by
  rw [int] at h
  split at h
  · cases h
  · exact (Except.ok.inj h).symm

/-- A number without its leading zeros. -/
def dropZeros (text : List Char) : List Char := text.dropWhile (· == '0')

theorem toNat_of_isDigit {c : Char} (h : c.isDigit = true) : 48 ≤ c.toNat ∧ c.toNat ≤ 57 := by
  simpa [Char.isDigit, UInt32.le_iff_toNat_le] using h

theorem digitValue_lt {c : Char} (h : c.isDigit = true) : digitValue c < 10 := by
  have hbounds := toNat_of_isDigit h
  change c.toNat - 48 < 10
  omega

/-- The digit with a value. -/
def digitOf (n : Nat) : Char := Char.ofNat (n + '0'.toNat)

theorem digitOf_digitValue {c : Char} (h : c.isDigit = true) : digitOf (digitValue c) = c := by
  have hsame : digitValue c + '0'.toNat = c.toNat := Nat.sub_add_cancel (toNat_of_isDigit h).1
  rw [digitOf, hsame, Char.ofNat_toNat]

/-- Leading zeros do not count. -/
theorem value_dropZeros (text : List Char) : value (dropZeros text) = value text := by
  have hzeros : text.takeWhile (· == '0') =
      List.replicate (text.takeWhile (· == '0')).length '0' :=
    List.eq_replicate_of_mem fun c hc => by simpa using List.mem_takeWhile_imp hc
  have hvalue : value text =
      Nat.ofDigits 10 ((dropZeros text).reverse.map digitValue ++
        List.replicate (text.takeWhile (· == '0')).length 0) := by
    conv_lhs => rw [value, ← List.takeWhile_append_dropWhile (p := (· == '0')) (l := text), hzeros]
    rw [List.reverse_append, List.map_append, List.reverse_replicate, List.map_replicate]
    rfl
  rw [hvalue, Nat.ofDigits_append_replicate_zero, value]

theorem head_dropZeros {text : List Char} (h : dropZeros text ≠ []) :
    (dropZeros text).head h ≠ '0' := by
  have hhead := List.head_dropWhile_not (· == '0') h
  exact fun hzero => absurd (beq_iff_eq.mpr hzero) (Bool.eq_false_iff.mp hhead)

theorem isDigit_of_mem_dropZeros {text : List Char} (h : ∀ c ∈ text, c.isDigit = true) :
    ∀ c ∈ dropZeros text, c.isDigit = true :=
  fun c hc => h c ((List.dropWhile_sublist _).subset hc)

/-- The digits of a number are those that it was read from, without leading zeros. -/
theorem digits_value {text : List Char} (h : ∀ c ∈ text, c.isDigit = true) :
    Nat.digits 10 (value text) = (dropZeros text).reverse.map digitValue := by
  have hdigits := isDigit_of_mem_dropZeros h
  rw [← value_dropZeros, value]
  apply Nat.digits_ofDigits 10 (by decide)
  · intro digit hdigit
    obtain ⟨c, hc, rfl⟩ := List.mem_map.mp hdigit
    exact digitValue_lt (hdigits c (List.mem_reverse.mp hc))
  · intro hne
    have hleft : dropZeros text ≠ [] := by simpa using hne
    rw [List.getLast_map, List.getLast_reverse]
    intro hzero
    have hdigit := digitOf_digitValue (hdigits _ (List.head_mem hleft))
    rw [hzero] at hdigit
    -- the first character that is left would be a zero
    exact head_dropZeros hleft hdigit.symm

theorem map_digitOf_dropZeros {text : List Char} (h : ∀ c ∈ text, c.isDigit = true) :
    ((dropZeros text).map digitValue).map digitOf = dropZeros text := by
  rw [List.map_map]
  have hback : ∀ c ∈ dropZeros text, (digitOf ∘ digitValue) c = id c :=
    fun c hc => digitOf_digitValue (isDigit_of_mem_dropZeros h c hc)
  exact (List.map_congr_left hback).trans (List.map_id _)

/-- Two numbers are the same exactly if their digits are, up to leading zeros. -/
theorem value_eq_iff {p q : List Char} (hp : ∀ c ∈ p, c.isDigit = true)
    (hq : ∀ c ∈ q, c.isDigit = true) : value p = value q ↔ dropZeros p = dropZeros q := by
  constructor
  · intro h
    have hdigits : (dropZeros p).reverse.map digitValue = (dropZeros q).reverse.map digitValue := by
      rw [← digits_value hp, h, digits_value hq]
    rw [List.map_reverse, List.map_reverse, List.reverse_inj] at hdigits
    rw [← map_digitOf_dropZeros hp, hdigits, map_digitOf_dropZeros hq]
  · intro h
    rw [← value_dropZeros p, h, value_dropZeros q]

/-! ## Components -/

/-- Two pieces are the same, or are numbers that are the same up to leading zeros. -/
def SamePiece (p q : List Char) : Prop :=
  p = q ∨ isdigit p = true ∧ isdigit q = true ∧ dropZeros p = dropZeros q

instance (p q : List Char) : Decidable (SamePiece p q) := inferInstanceAs (Decidable (_ ∨ _))

theorem isDigit_of_isdigit {text : List Char} (h : isdigit text = true) :
    ∀ c ∈ text, c.isDigit = true := by
  rw [isdigit, Bool.and_eq_true, List.all_eq_true] at h
  exact h.2

@[simp] theorem VersionComponent.ofNumber_inj {m n : Nat} : ofNumber m = ofNumber n ↔ m = n :=
  ⟨fun h => ComponentData.int.inj (congrArg data h), congrArg ofNumber⟩

theorem VersionComponent.ofText_inj {p q : List Char} : ofText p = ofText q ↔ p = q :=
  ⟨fun h => ComponentData.str.inj (congrArg data h), congrArg ofText⟩

/-- Different numbers are compared by the second field. -/
theorem VersionComponent.ofNumber_lt {m n : Nat} (h : m ≠ n) :
    (ofNumber m).lt (ofNumber n) = .ok (decide (m < n)) := by
  have hdata : (ofNumber m).data ≠ (ofNumber n).data := fun heq => h (ComponentData.int.inj heq)
  have hcomparable : ¬ (ofNumber m).comparable ≠ (ofNumber n).comparable := not_not.mpr rfl
  rw [lt, if_neg hcomparable, if_pos hdata]
  rfl

theorem VersionComponent.ofNumber_ne_ofText (n : Nat) (text : List Char) :
    ofNumber n ≠ ofText text := fun h => Bool.noConfusion (congrArg comparable h)

namespace Version

/-- What a component is made of a piece. -/
theorem component_eq_ok {maxStrDigits : Nat} {piece : List Char} {c : VersionComponent}
    (h : component maxStrDigits piece = .ok c) :
    c = if isdigit piece then .ofNumber (value piece) else .ofText piece := by
  rw [component] at h
  split at h
  · next hdigit =>
    obtain ⟨n, hn, h⟩ := except_bind_eq_ok.mp h
    cases h
    rw [if_pos hdigit, int_eq_ok hn]
  · next hdigit =>
    cases h
    rw [if_neg hdigit]

theorem comparable_of_component {maxStrDigits : Nat} {piece : List Char} {c : VersionComponent}
    (h : component maxStrDigits piece = .ok c) : c.comparable = isdigit piece := by
  rw [component_eq_ok h]
  cases isdigit piece with
  | true => rfl
  | false => rfl

/-- The components of two pieces are equal exactly if the pieces are the same. -/
theorem component_eq_iff {m n : Nat} {p q : List Char} {c d : VersionComponent}
    (hc : component m p = .ok c) (hd : component n q = .ok d) : c = d ↔ SamePiece p q := by
  rw [component_eq_ok hc, component_eq_ok hd, SamePiece]
  cases hp : isdigit p with
  | true =>
    cases hq : isdigit q with
    | true =>
      rw [if_pos rfl, if_pos rfl, VersionComponent.ofNumber_inj,
        value_eq_iff (isDigit_of_isdigit hp) (isDigit_of_isdigit hq)]
      exact ⟨fun h => .inr ⟨rfl, rfl, h⟩, fun h => h.elim (congrArg dropZeros) (·.2.2)⟩
    | false =>
      have hne : p ≠ q := ne_of_apply_ne isdigit (by simp [hp, hq])
      refine iff_of_false (VersionComponent.ofNumber_ne_ofText _ _) ?_
      simp [hne]
  | false =>
    cases hq : isdigit q with
    | true =>
      have hne : p ≠ q := ne_of_apply_ne isdigit (by simp [hp, hq])
      refine iff_of_false (VersionComponent.ofNumber_ne_ofText _ _).symm ?_
      simp [hne]
    | false => simp [VersionComponent.ofText_inj]

/-- Components are made of pieces, one of each. -/
abbrev MadeOf (maxStrDigits : Nat) : List (List Char) → List VersionComponent → Prop :=
  List.Forall₂ fun piece c => component maxStrDigits piece = .ok c

theorem madeOf_componentsOf {maxStrDigits : Nat} {pieces : List (List Char)}
    {components : List VersionComponent} (h : componentsOf maxStrDigits pieces = .ok components) :
    MadeOf maxStrDigits pieces components := by
  induction pieces generalizing components with
  | nil =>
    cases h
    exact .nil
  | cons piece pieces ih =>
    obtain ⟨c, hc, h⟩ := except_bind_eq_ok.mp h
    obtain ⟨rest, hrest, h⟩ := except_bind_eq_ok.mp h
    cases h
    exact .cons hc (ih hrest)

/-- The comparable components are those that are made of numeric pieces. -/
theorem MadeOf.comparable {maxStrDigits : Nat} {pieces : List (List Char)}
    {components : List VersionComponent} (h : MadeOf maxStrDigits pieces components) :
    MadeOf maxStrDigits (pieces.filter isdigit) (components.filter (·.comparable)) := by
  induction h with
  | nil => exact .nil
  | cons hc _ ih =>
    rw [List.filter_cons, List.filter_cons, comparable_of_component hc]
    split
    · exact .cons hc ih
    · exact ih

/-- Components are equal exactly if the pieces that they are made of are the same. -/
theorem MadeOf.eq_iff {m n : Nat} {ps qs : List (List Char)} {cs ds : List VersionComponent}
    (hcs : MadeOf m ps cs) (hds : MadeOf n qs ds) : cs = ds ↔ List.Forall₂ SamePiece ps qs := by
  induction hcs generalizing qs ds with
  | nil =>
    cases hds with
    | nil => exact iff_of_true rfl .nil
    | cons => exact iff_of_false (List.cons_ne_nil _ _).symm nofun
  | cons hc _ ih =>
    cases hds with
    | nil => exact iff_of_false (List.cons_ne_nil _ _) nofun
    | cons hd hds => rw [List.cons.injEq, List.forall₂_cons, component_eq_iff hc hd, ih hds]

/-! ## Numbers of a version -/

/-- The numbers of a version. -/
def numbers (v : Version) : List Nat :=
  v.components.filterMap fun c =>
    match c.data with
    | .str _ => none
    | .int n => some n

/-- The comparable components are the numbers. -/
theorem comparableComponents_eq (v : Version) :
    v.comparableComponents = v.numbers.map .ofNumber := by
  rw [comparableComponents, numbers]
  induction v.components with
  | nil => rfl
  | cons c cs ih =>
    obtain ⟨comparable, data, rfl⟩ := c
    cases data with
    | str text => exact ih
    | int n => exact congrArg (VersionComponent.ofNumber n :: ·) ih

/-- Tuples of numbers are compared as lists of them, and nothing is raised. -/
theorem tupleLt_ofNumber (ms ns : List Nat) :
    tupleLt (ms.map .ofNumber) (ns.map .ofNumber) = .ok (decide (ms < ns)) := by
  induction ms generalizing ns with
  | nil =>
    cases ns with
    | nil => rfl
    | cons n ns => simp [tupleLt]
  | cons m ms ih =>
    cases ns with
    | nil => simp [tupleLt]
    | cons n ns =>
      rw [List.map_cons, List.map_cons, tupleLt]
      by_cases heq : m = n
      · rw [if_pos (VersionComponent.ofNumber_inj.mpr heq), ih, heq]
        simp
      · rw [if_neg (mt VersionComponent.ofNumber_inj.mp heq), VersionComponent.ofNumber_lt heq]
        simp [List.cons_lt_cons_iff, heq]

theorem lt_eq (a b : Version) : a.lt b = .ok (decide (a.numbers < b.numbers)) := by
  rw [lt, comparableComponents_eq, comparableComponents_eq, tupleLt_ofNumber]

theorem lt_iff {a b : Version} : a.lt b = .ok true ↔ a.numbers < b.numbers := by
  rw [lt_eq, Except.ok.injEq, decide_eq_true_iff]

theorem eq_iff {a b : Version} : a.eq b = true ↔ a = b := by
  rw [eq, beq_iff_eq]
  exact ⟨fun h => congrArg Version.mk h, congrArg components⟩

theorem gt_iff {a b : Version} :
    a.gt b = .ok true ↔ ¬ a.numbers < b.numbers ∧ a ≠ b := by
  have hgt : a.gt b = .ok (!decide (a.numbers < b.numbers) && !a.eq b) := by
    rw [gt, lt_eq]
    rfl
  rw [hgt, Except.ok.injEq, Bool.and_eq_true, Bool.not_eq_true', Bool.not_eq_true',
    decide_eq_false_iff_not, ← Bool.not_eq_true, eq_iff]

theorem lt_trans {a b c : Version} (hab : a.lt b = .ok true) (hbc : b.lt c = .ok true) :
    a.lt c = .ok true :=
  lt_iff.mpr ((lt_iff.mp hab).trans (lt_iff.mp hbc))

/-! ## The order -/

theorem madeOf_ofString {maxStrDigits : Nat} {version : AsciiString} {v : Version}
    (h : ofString maxStrDigits version = .ok v) : MadeOf maxStrDigits (split version) v.components := by
  obtain ⟨components, hcomponents, h⟩ := except_bind_eq_ok.mp h
  cases h
  exact madeOf_componentsOf hcomponents

/-- Versions are equal exactly if their strings have the same pieces. -/
theorem eq_iff_samePieces {m n : Nat} {s t : AsciiString} {a b : Version}
    (ha : ofString m s = .ok a) (hb : ofString n t = .ok b) :
    a = b ↔ List.Forall₂ SamePiece (split s) (split t) := by
  rw [← (madeOf_ofString ha).eq_iff (madeOf_ofString hb)]
  exact ⟨congrArg components, congrArg Version.mk⟩

/-- The numeric pieces of a version string. -/
def numericPieces (version : AsciiString) : List (List Char) := (split version).filter isdigit

/-- Versions have equal numbers exactly if their strings have the same numeric pieces. -/
theorem numbers_eq_iff_samePieces {m n : Nat} {s t : AsciiString} {a b : Version}
    (ha : ofString m s = .ok a) (hb : ofString n t = .ok b) :
    a.numbers = b.numbers ↔ List.Forall₂ SamePiece (numericPieces s) (numericPieces t) := by
  have hcomparable : a.numbers = b.numbers ↔ a.comparableComponents = b.comparableComponents := by
    rw [comparableComponents_eq, comparableComponents_eq]
    exact (List.map_inj_right fun _ _ => VersionComponent.ofNumber_inj.mp).symm
  rw [hcomparable]
  exact (madeOf_ofString ha).comparable.eq_iff (madeOf_ofString hb).comparable

/-- Two strings that have the same numeric pieces have the same pieces altogether. -/
def NumbersDecide (s t : AsciiString) : Prop :=
  List.Forall₂ SamePiece (numericPieces s) (numericPieces t) →
    List.Forall₂ SamePiece (split s) (split t)

instance (s t : AsciiString) : Decidable (NumbersDecide s t) :=
  inferInstanceAs (Decidable (_ → _))

/-- The laws of a strict total order at two versions. -/
structure Ordered (a b : Version) : Prop where
  exactlyOne : ExactlyOne (a.lt b = .ok true) (a.eq b = true) (b.lt a = .ok true)
  gt_iff_lt : a.gt b = .ok true ↔ b.lt a = .ok true
  trans : ∀ c, a.lt b = .ok true → b.lt c = .ok true → a.lt c = .ok true

/-- Versions are ordered by their numbers. -/
theorem ordered_iff_keyDecides {a b : Version} : a.Ordered b ↔ KeyDecides numbers a b := by
  have hone : ExactlyOne (a.lt b = .ok true) (a.eq b = true) (b.lt a = .ok true) ↔
      KeyDecides numbers a b := by
    rw [lt_iff, eq_iff, lt_iff]
    exact exactlyOne_iff_keyDecides numbers a b
  have hgt : (a.gt b = .ok true ↔ b.lt a = .ok true) ↔ KeyDecides numbers a b := by
    rw [gt_iff, lt_iff]
    exact not_lt_and_ne_iff_keyDecides numbers a b
  exact ⟨fun h => hone.mp h.exactlyOne,
    fun h => ⟨hone.mpr h, hgt.mpr h, fun _ => lt_trans⟩⟩

/-- The laws hold of two versions exactly if their strings do not have the same numbers with other
    pieces around them. -/
theorem ordered_iff {m n : Nat} {s t : AsciiString} {a b : Version}
    (ha : ofString m s = .ok a) (hb : ofString n t = .ok b) :
    a.Ordered b ↔ NumbersDecide s t := by
  rw [ordered_iff_keyDecides, KeyDecides, numbers_eq_iff_samePieces ha hb,
    eq_iff_samePieces ha hb, NumbersDecide]

/-- `4.2.2` -/
def plainString : AsciiString := ⟨['4', '.', '2', '.', '2'], rfl⟩

def plainVersion : Version :=
  ⟨[.ofNumber 4, .ofText ['.'], .ofNumber 2, .ofText ['.'], .ofNumber 2]⟩

/-- `4.2 build 19` -/
def buildString : AsciiString :=
  ⟨['4', '.', '2', ' ', 'b', 'u', 'i', 'l', 'd', ' ', '1', '9'], rfl⟩

def buildVersion : Version :=
  ⟨[.ofNumber 4, .ofText ['.'], .ofNumber 2, .ofText [' ', 'b', 'u', 'i', 'l', 'd', ' '],
    .ofNumber 19]⟩

theorem ordered_iff_build :
    plainVersion.Ordered buildVersion ∧ NumbersDecide plainString buildString := by
  have hplain : ofString 4300 plainString = .ok plainVersion := by decide +kernel
  have hbuild : ofString 4300 buildString = .ok buildVersion := by decide +kernel
  have hdecide : NumbersDecide plainString buildString := by decide +kernel
  exact ⟨(ordered_iff hplain hbuild).mpr hdecide, hdecide⟩

/-- `2.2.0_GitHub-91fa`, and another build of it. -/
def firstBuild : AsciiString :=
  ⟨['2', '.', '2', '.', '0', '_', 'G', 'i', 't', 'H', 'u', 'b', '-', '9', '1', 'f', 'a'],
    rfl⟩

def secondBuild : AsciiString :=
  ⟨['2', '.', '2', '.', '0', '_', 'G', 'i', 't', 'H', 'u', 'b', '-', '7', '0', '7', 'a'],
    rfl⟩

/-- Neither of the two is below the other, they are not equal, and each is above the other. -/
theorem builds_unordered :
    ∃ first second, ofString 4300 firstBuild = .ok first ∧ ofString 4300 secondBuild = .ok second ∧
      first.lt second = .ok false ∧ first.eq second = false ∧ second.lt first = .ok false ∧
      first.gt second = .ok true ∧ second.gt first = .ok true := by
  refine ⟨_, _, rfl, rfl, ?_, ?_, ?_, ?_, ?_⟩
  all_goals decide +kernel

end Version

end ZigpySpinel.Python
