import Mathlib.Data.List.Basic

/-!
# Streams cut by a delimiter

`segments d xs` cuts a list at every delimiter `d`: the complete segments, each of
which was followed by a delimiter, and the rest that is still waiting for one. What
a reader of a delimited stream may rely on, whatever the pieces in which the stream
arrives, is `segments_append`: the rest of the first piece is put in front of the
second, and nothing else is remembered.
-/

namespace ZigpySpinel.Lib

variable {α : Type} [DecidableEq α] {d : α}

/-- The segments of `xs` that a delimiter ended, and what comes after the last
    delimiter. -/
def segments (d : α) : List α → List (List α) × List α
  | [] => ([], [])
  | x :: xs =>
    let (complete, rest) := segments d xs
    if x = d then ([] :: complete, rest)
    else
      match complete with
      | [] => ([], x :: rest)
      | s :: complete => ((x :: s) :: complete, rest)

@[simp] theorem segments_nil : segments d ([] : List α) = ([], []) := rfl

@[simp] theorem segments_delimiter (xs : List α) :
    segments d (d :: xs) = ([] :: (segments d xs).1, (segments d xs).2) := by
  simp [segments]

/-- The first delimiter is behind the first segment. -/
theorem findIdx?_delimiter {xs : List α} (h : d ∉ xs) (ys : List α) :
    (xs ++ d :: ys).findIdx? (· == d) = some xs.length := by
  induction xs with
  | nil => simp [List.findIdx?_cons]
  | cons x xs ih =>
    obtain ⟨hx, hxs⟩ := (by simpa using h : ¬d = x ∧ d ∉ xs)
    simp [List.findIdx?_cons, Ne.symm hx, ih hxs]

theorem findIdx?_of_notMem {xs : List α} (h : d ∉ xs) : xs.findIdx? (· == d) = none := by
  rw [List.findIdx?_eq_none_iff]
  intro x hx
  rw [beq_eq_false_iff_ne]
  rintro rfl
  exact h hx

omit [DecidableEq α] in
theorem take_delimiter (xs ys : List α) : (xs ++ d :: ys).take xs.length = xs := List.take_left' rfl

omit [DecidableEq α] in
theorem drop_delimiter (xs ys : List α) : (xs ++ d :: ys).drop (xs.length + 1) = ys := by
  rw [← List.drop_drop, List.drop_left' rfl, List.drop_one, List.tail_cons]

/-- A list without delimiters is one incomplete segment. -/
theorem segments_of_notMem {xs : List α} (h : d ∉ xs) : segments d xs = ([], xs) := by
  induction xs with
  | nil => rfl
  | cons x xs ih =>
    obtain ⟨hx, hxs⟩ := (by simpa using h : ¬d = x ∧ d ∉ xs)
    simp [segments, ih hxs, Ne.symm hx]

/-- The first delimiter ends the first segment. -/
theorem segments_cut {xs : List α} (h : d ∉ xs) (ys : List α) :
    segments d (xs ++ d :: ys) = (xs :: (segments d ys).1, (segments d ys).2) := by
  induction xs with
  | nil => simp
  | cons x xs ih =>
    obtain ⟨hx, hxs⟩ := (by simpa using h : ¬d = x ∧ d ∉ xs)
    simp [segments, ih hxs, Ne.symm hx]

theorem notMem_segments_snd (xs : List α) : d ∉ (segments d xs).2 := by
  induction xs with
  | nil => simp
  | cons x xs ih =>
    by_cases hx : x = d
    · subst hx
      simpa using ih
    · rw [segments]
      cases hc : (segments d xs).1 with
      | nil => simpa [hx, hc] using ⟨Ne.symm hx, ih⟩
      | cons s complete => simpa [hx, hc] using ih

/-- A stream may be cut anywhere: of the first piece only its incomplete segment
    matters for the second. -/
theorem segments_append (xs ys : List α) :
    segments d (xs ++ ys) =
      ((segments d xs).1 ++ (segments d ((segments d xs).2 ++ ys)).1,
        (segments d ((segments d xs).2 ++ ys)).2) := by
  induction hn : xs.length using Nat.strongRecOn generalizing xs with
  | ind n ih =>
    by_cases h : d ∈ xs
    · obtain ⟨head, tail, rfl, hhead⟩ := List.eq_append_cons_of_mem h
      have htail := ih tail.length (by simp at hn; omega) tail rfl
      rw [List.append_assoc, List.cons_append, segments_cut hhead, segments_cut hhead, htail]
      rfl
    · simp [segments_of_notMem h]

/-! ## What the segments decode to -/

section Decoded

variable {β : Type} (f : List α → Option β)

/-- What the complete segments of `xs` decode to, one after the other. -/
def decoded (d : α) (xs : List α) : List β := (segments d xs).1.filterMap f

theorem decoded_cut {xs : List α} (h : d ∉ xs) (ys : List α) :
    decoded f d (xs ++ d :: ys) = (f xs).toList ++ decoded f d ys := by
  rw [decoded, segments_cut h, List.filterMap_cons, decoded]
  cases f xs with
  | none => rfl
  | some b => rfl

theorem decoded_of_notMem {xs : List α} (h : d ∉ xs) : decoded f d xs = [] := by
  rw [decoded, segments_of_notMem h, List.filterMap_nil]

theorem decoded_append (xs ys : List α) :
    decoded f d (xs ++ ys) = decoded f d xs ++ decoded f d ((segments d xs).2 ++ ys) := by
  rw [decoded, segments_append, List.filterMap_append]
  rfl

end Decoded

end ZigpySpinel.Lib
