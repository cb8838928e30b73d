import Mathlib.Data.List.Perm.Basic
import ZigpySpinel.Lib.Outcome

/-!
# Searches that move what they find to the front

A loop calls a fallible function on the items of a vector until one call returns, and swaps
this item with the first one, so that the next search begins with it. The items stay the same
ones, so what a later search finds does not depend on the searches before it; only the order in
which items are tried does. A call that panics ends the search.
-/

namespace ZigpySpinel.Lib

variable {ε δ α β : Type}

/-- `slice::swap`. -/
def swap (items : List α) (i j : Nat) : Outcome ε (List α) :=
  match items[i]?, items[j]? with
  | some a, some b => .ok ((items.set i b).set j a)
  | _, _ => .panic "index out of bounds"

/-- The first item on which the call returns: its index and what is returned. -/
def firstOk (call : α → Outcome ε β) : List α → Outcome δ (Option (Nat × β))
  | [] => .ok none
  | a :: items =>
    match call a with
    | .ok b => .ok (some (0, b))
    | .err _ => do
      let found ← firstOk call items
      .ok (found.map fun (index, b) => (index + 1, b))
    | .panic m => .panic m

/-- The search: what the first call that returns does return, and the items with this one in
    front. -/
def searchSwap (call : α → Outcome ε β) (items : List α) : Outcome δ (Option β × List α) := do
  let found ← firstOk call items
  match found with
  | none => .ok (none, items)
  | some (index, b) => do
    let items ← swap items 0 index
    .ok (some b, items)

/-! ## Swapping -/

theorem swap_perm {items items' : List α} {i j : Nat}
    (h : swap (ε := ε) items i j = .ok items') : items'.Perm items := by
  rw [swap] at h
  split at h
  next a b ha hb =>
    obtain ⟨hi, rfl⟩ := List.getElem?_eq_some_iff.mp ha
    obtain ⟨hj, rfl⟩ := List.getElem?_eq_some_iff.mp hb
    cases h
    exact List.set_set_perm hi hj
  next => cases h

/-- The first item is exchanged for one that is there. -/
theorem swap_zero {items : List α} {index : Nat} {a : α} (h : items[index]? = some a) :
    ∃ items', swap (ε := ε) items 0 index = .ok items' ∧ items'.head? = some a := by
  cases items with
  | nil => cases h
  | cons first items =>
    refine ⟨_, by rw [swap, h]; rfl, ?_⟩
    cases index with
    | zero =>
      cases h
      rfl
    | succ index => rfl

/-! ## Searching -/

variable {call : α → Outcome ε β} {items : List α}

/-- What is found is at its index, and the calls in front of it are errors. -/
theorem of_firstOk {found : Option (Nat × β)} (h : firstOk (δ := δ) call items = .ok found) :
    (found = none → ∀ a ∈ items, ¬ (call a).Returns) ∧
      ∀ index b, found = some (index, b) → ∃ a, items[index]? = some a ∧ call a = .ok b := by
  induction items generalizing found with
  | nil =>
    cases h
    exact ⟨fun _ a hmem => absurd hmem List.not_mem_nil, by rintro _ _ ⟨⟩⟩
  | cons a items ih =>
    rw [firstOk] at h
    cases hcall : call a with
    | panic m =>
      rw [hcall] at h
      cases h
    | ok b =>
      rw [hcall] at h
      cases h
      refine ⟨by rintro ⟨⟩, ?_⟩
      rintro _ _ ⟨⟩
      exact ⟨a, rfl, hcall⟩
    | err e =>
      rw [hcall] at h
      obtain ⟨rest, hrest, h⟩ := Outcome.bind_eq_ok.mp h
      cases h
      obtain ⟨hnone, hsome⟩ := ih hrest
      constructor
      · intro hmap x hmem hreturns
        rcases List.mem_cons.mp hmem with rfl | hmem
        · obtain ⟨b, hb⟩ := hreturns
          rw [hcall] at hb
          cases hb
        · exact hnone (Option.map_eq_none_iff.mp hmap) x hmem hreturns
      · intro index b hmap
        obtain ⟨⟨index, b⟩, rfl, hpair⟩ := Option.map_eq_some_iff.mp hmap
        cases hpair
        exact hsome index b rfl

/-- Where no call panics, the search does not. -/
theorem firstOk_returns (h : ∀ a ∈ items, (call a).NoPanic) :
    ∃ found, firstOk (δ := δ) call items = .ok found := by
  induction items with
  | nil => exact ⟨none, rfl⟩
  | cons a items ih =>
    obtain ⟨rest, hrest⟩ := ih fun x hmem => h x (List.mem_cons_of_mem a hmem)
    rw [firstOk]
    cases hcall : call a with
    | panic m => exact absurd hcall (h a List.mem_cons_self m)
    | ok b => exact ⟨_, rfl⟩
    | err e => exact ⟨_, by rw [hrest]; rfl⟩

/-- A search returns the items in some order, and something exactly if a call on one of them
    returns; this one is then the first. -/
theorem of_searchSwap {found : Option β} {items' : List α}
    (h : searchSwap (δ := δ) call items = .ok (found, items')) :
    items'.Perm items ∧ (found.isSome ↔ ∃ a ∈ items, (call a).Returns) ∧
      ∀ b, found = some b → ∃ a, items'.head? = some a ∧ call a = .ok b := by
  obtain ⟨result, hfirst, h⟩ := Outcome.bind_eq_ok.mp h
  obtain ⟨hnone, hsome⟩ := of_firstOk hfirst
  cases result with
  | none =>
    cases h
    refine ⟨List.Perm.refl items, iff_of_false Bool.false_ne_true ?_, by rintro _ ⟨⟩⟩
    rintro ⟨a, hmem, hreturns⟩
    exact hnone rfl a hmem hreturns
  | some result =>
    obtain ⟨index, b⟩ := result
    obtain ⟨a, ha, hcall⟩ := hsome index b rfl
    obtain ⟨swapped, hswap, hhead⟩ := swap_zero (ε := δ) ha
    obtain ⟨swapped', hswap', h⟩ := Outcome.bind_eq_ok.mp h
    rw [hswap] at hswap'
    cases hswap'
    cases h
    refine ⟨swap_perm hswap, iff_of_true rfl ⟨a, List.mem_of_getElem? ha, b, hcall⟩, ?_⟩
    rintro _ ⟨⟩
    exact ⟨a, hhead, hcall⟩

theorem searchSwap_returns (h : ∀ a ∈ items, (call a).NoPanic) :
    ∃ result, searchSwap (δ := δ) call items = .ok result := by
  obtain ⟨found, hfound⟩ := firstOk_returns (δ := δ) h
  rw [searchSwap, hfound, Outcome.ok_bind]
  cases found with
  | none => exact ⟨_, rfl⟩
  | some found =>
    obtain ⟨index, b⟩ := found
    obtain ⟨a, ha, -⟩ := (of_firstOk hfound).2 index b rfl
    obtain ⟨items', hswap, -⟩ := swap_zero (ε := δ) ha
    refine ⟨(some b, items'), ?_⟩
    dsimp only
    rw [hswap]
    rfl

/-- A search that returns has made a call that does not panic, if there are items. -/
theorem noPanic_of_searchSwap {result : Option β × List α}
    (h : searchSwap (δ := δ) call items = .ok result) (hitems : items ≠ []) :
    ∃ a ∈ items, (call a).NoPanic := by
  cases items with
  | nil => exact absurd rfl hitems
  | cons a items =>
    refine ⟨a, List.mem_cons_self, fun m hpanic => ?_⟩
    rw [searchSwap, firstOk, hpanic] at h
    cases h

end ZigpySpinel.Lib
