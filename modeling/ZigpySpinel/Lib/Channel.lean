import Mathlib.Data.List.Basic

/-!
# Bounded channels

A queue that never holds more than its capacity. A sender that does not wait loses what finds
no room, and its receiver takes the values out in the order in which they came. What has been
taken out together with what is in the queue is then, in order, a part of what was sent; it is
all of it as long as every value found room.
-/

namespace ZigpySpinel.Lib

variable {α : Type} {capacity : Nat}

/-- The queue of a channel. -/
structure BoundedChannel (α : Type) (capacity : Nat) where
  queue : List α
  bounded : queue.length ≤ capacity

namespace BoundedChannel

/-- A new channel. -/
def empty : BoundedChannel α capacity := ⟨[], Nat.zero_le capacity⟩

/-- There is room for one more value. -/
def HasRoom (c : BoundedChannel α capacity) : Prop := c.queue.length < capacity

instance (c : BoundedChannel α capacity) : Decidable c.HasRoom :=
  inferInstanceAs (Decidable (_ < _))

/-- The value is put behind the others, unless the channel is full. -/
def trySend (c : BoundedChannel α capacity) (x : α) : Option (BoundedChannel α capacity) :=
  if h : c.HasRoom then
    some ⟨c.queue ++ [x], by rw [List.length_append]; exact h⟩
  else none

/-- A sender that drops the value where the channel is full. -/
def send (c : BoundedChannel α capacity) (x : α) : BoundedChannel α capacity :=
  (c.trySend x).getD c

/-- The receiver takes the first value out, if there is one. -/
def recv (c : BoundedChannel α capacity) : Option (α × BoundedChannel α capacity) :=
  match h : c.queue with
  | [] => none
  | x :: rest => some (x, ⟨rest, by have := c.bounded; simp only [h, List.length_cons] at this; omega⟩)

theorem send_of_hasRoom {c : BoundedChannel α capacity} (h : c.HasRoom) (x : α) :
    (c.send x).queue = c.queue ++ [x] := by
  simp only [send, trySend, h, dite_true, Option.getD_some]

theorem send_of_full {c : BoundedChannel α capacity} (h : ¬ c.HasRoom) (x : α) : c.send x = c := by
  simp only [send, trySend, h, dite_false, Option.getD_none]

theorem recv_eq_some {c c' : BoundedChannel α capacity} {x : α} (h : c.recv = some (x, c')) :
    c.queue = x :: c'.queue := by
  unfold recv at h
  split at h
  · cases h
  · cases h
    assumption

end BoundedChannel

end ZigpySpinel.Lib
