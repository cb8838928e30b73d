import Mathlib.Data.List.Induction
import Mathlib.Logic.Basic

/-!
# Runs of a transition system

`Run step s labels t` says that the steps with these labels lead from `s` to `t`.
A property of whole runs comes from `Run.inv`: what holds at the start and is kept
by every step holds in every state that is reached. A run all of whose steps meet a
condition is a run of the system restricted to it, `guarded`.
-/

namespace ZigpySpinel.Lib

variable {σ ℓ : Type} {step : σ → ℓ → σ → Prop}

/-- The steps with these labels, one after the other. -/
inductive Run (step : σ → ℓ → σ → Prop) : σ → List ℓ → σ → Prop
  | nil (s : σ) : Run step s [] s
  | snoc {s t u : σ} {labels : List ℓ} {label : ℓ} :
      Run step s labels t → step t label u → Run step s (labels ++ [label]) u

/-- The steps that meet a condition on the state before them. -/
def guarded (guard : σ → ℓ → Prop) (step : σ → ℓ → σ → Prop) (s : σ) (label : ℓ) (t : σ) : Prop :=
  guard s label ∧ step s label t

namespace Run

/-- The invariant rule. -/
theorem inv (inv : σ → Prop) (hstep : ∀ s label t, inv s → step s label t → inv t)
    {s t : σ} {labels : List ℓ} (h : Run step s labels t) (hs : inv s) : inv t := by
  induction h with
  | nil => exact hs
  | snoc _ hlast ih => exact hstep _ _ _ ih hlast

/-- The invariant rule for what holds of the labels as well. -/
theorem inv_labels (inv : List ℓ → σ → Prop)
    (hstep : ∀ labels s label t, inv labels s → step s label t → inv (labels ++ [label]) t)
    {s t : σ} {labels : List ℓ} (h : Run step s labels t) (hs : inv [] s) : inv labels t := by
  induction h with
  | nil => exact hs
  | snoc _ hlast ih => exact hstep _ _ _ _ ih hlast

/-- A run of a smaller system is a run of a larger one. -/
theorem mono {step' : σ → ℓ → σ → Prop} (hstep : ∀ s label t, step s label t → step' s label t)
    {s t : σ} {labels : List ℓ} (h : Run step s labels t) : Run step' s labels t := by
  induction h with
  | nil => exact .nil _
  | snoc _ hlast ih => exact .snoc ih (hstep _ _ _ hlast)

theorem single {s t : σ} {label : ℓ} (h : step s label t) : Run step s [label] t :=
  .snoc (.nil s) h

theorem append {s t u : σ} {labels labels' : List ℓ} (h : Run step s labels t)
    (h' : Run step t labels' u) : Run step s (labels ++ labels') u := by
  induction h' with
  | nil => rwa [List.append_nil]
  | snoc _ hlast ih =>
    rw [← List.append_assoc]
    exact .snoc ih hlast

/-- A run starts with its first step. -/
theorem cons {s t u : σ} {label : ℓ} {labels : List ℓ} (h : step s label t)
    (h' : Run step t labels u) : Run step s (label :: labels) u :=
  (single h).append h'

theorem nil_iff {s t : σ} : Run step s [] t ↔ t = s := by
  constructor
  · intro h
    generalize hlabels : ([] : List ℓ) = labels at h
    cases h with
    | nil => rfl
    | snoc => simp at hlabels
  · rintro rfl
    exact .nil _

theorem snoc_iff {s u : σ} {labels : List ℓ} {label : ℓ} :
    Run step s (labels ++ [label]) u ↔ ∃ t, Run step s labels t ∧ step t label u := by
  constructor
  · intro h
    generalize hlabels : labels ++ [label] = all at h
    cases h with
    | nil => simp at hlabels
    | snoc hrun hlast =>
      obtain ⟨rfl, hlabel⟩ := List.append_inj' hlabels rfl
      obtain rfl := List.singleton_inj.mp hlabel
      exact ⟨_, hrun, hlast⟩
  · rintro ⟨t, hrun, hlast⟩
    exact .snoc hrun hlast

/-- A run can be cut anywhere. -/
theorem append_iff {s u : σ} {labels labels' : List ℓ} :
    Run step s (labels ++ labels') u ↔ ∃ t, Run step s labels t ∧ Run step t labels' u := by
  constructor
  · intro h
    induction labels' using List.reverseRecOn generalizing u with
    | nil =>
      rw [List.append_nil] at h
      exact ⟨u, h, .nil u⟩
    | append_singleton labels' label ih =>
      rw [← List.append_assoc, snoc_iff] at h
      obtain ⟨t, hrun, hlast⟩ := h
      obtain ⟨m, hfirst, hsecond⟩ := ih hrun
      exact ⟨m, hfirst, .snoc hsecond hlast⟩
  · rintro ⟨t, hfirst, hsecond⟩
    exact hfirst.append hsecond

theorem cons_iff {s u : σ} {label : ℓ} {labels : List ℓ} :
    Run step s (label :: labels) u ↔ ∃ t, step s label t ∧ Run step t labels u := by
  constructor
  · intro h
    rw [← List.singleton_append, append_iff] at h
    obtain ⟨t, hfirst, hrest⟩ := h
    rw [← List.nil_append [label], snoc_iff] at hfirst
    obtain ⟨m, hm, hstep⟩ := hfirst
    rw [nil_iff.mp hm] at hstep
    exact ⟨t, hstep, hrest⟩
  · rintro ⟨t, hstep, hrest⟩
    exact .cons hstep hrest

/-- Where a step leads to one state, so does a run. -/
theorem det (hstep : ∀ s label t t', step s label t → step s label t' → t = t')
    {s t t' : σ} {labels : List ℓ} (h : Run step s labels t) (h' : Run step s labels t') : t = t' := by
  induction h generalizing t' with
  | nil => exact (nil_iff.mp h').symm
  | snoc _ hlast ih =>
    obtain ⟨m, hrun, hlast'⟩ := snoc_iff.mp h'
    rw [ih hrun] at hlast
    exact hstep _ _ _ _ hlast hlast'

/-- A run of guarded steps goes on with the steps that meet the guard. -/
theorem guarded_snoc_iff {guard : σ → ℓ → Prop}
    (hdet : ∀ s label t t', step s label t → step s label t' → t = t')
    {s t u : σ} {labels : List ℓ} {label : ℓ} (h : Run step s labels t) (hlast : step t label u) :
    Run (guarded guard step) s (labels ++ [label]) u ↔
      Run (guarded guard step) s labels t ∧ guard t label := by
  rw [snoc_iff]
  constructor
  · rintro ⟨t', hrun, hguard, -⟩
    obtain rfl := det hdet h (hrun.mono fun _ _ _ hstep => hstep.2)
    exact ⟨hrun, hguard⟩
  · rintro ⟨hrun, hguard⟩
    exact ⟨t, hrun, hguard, hlast⟩

/-- If an invariant of the guarded steps makes a property of steps and the guard the same, then
    the runs all of whose steps have the property are the runs of guarded steps. -/
theorem guarded_iff {guard : σ → ℓ → Prop} {property : σ → ℓ → σ → Prop} (inv : σ → Prop)
    (hkeep : ∀ s label t, inv s → guard s label → step s label t → inv t)
    (hiff : ∀ s label t, inv s → step s label t → (property s label t ↔ guard s label))
    {s t : σ} {labels : List ℓ} (hs : inv s) :
    Run (fun s label t => step s label t ∧ property s label t) s labels t ↔
      Run (guarded guard step) s labels t := by
  have hinv : ∀ {labels t}, Run (guarded guard step) s labels t → inv t := by
    intro labels t h
    exact h.inv inv (fun s label t hs hstep => hkeep s label t hs hstep.1 hstep.2) hs
  constructor
  · intro h
    induction h with
    | nil => exact .nil s
    | snoc _ hlast ih =>
      exact .snoc ih ⟨(hiff _ _ _ (hinv ih) hlast.1).mp hlast.2, hlast.1⟩
  · intro h
    induction h with
    | nil => exact .nil s
    | snoc hrun hlast ih =>
      exact .snoc ih ⟨hlast.2, (hiff _ _ _ (hinv hrun) hlast.2).mpr hlast.1⟩

/-- The steps of a partial function, one after the other as far as they can be taken. -/
theorem of_foldlM {f : σ → ℓ → Option σ} {s t : σ} {labels : List ℓ}
    (h : labels.foldlM f s = some t) : Run (fun s label t => f s label = some t) s labels t := by
  induction labels generalizing s with
  | nil =>
    cases h
    exact .nil _
  | cons label labels ih =>
    rw [List.foldlM_cons] at h
    cases hstep : f s label with
    | none =>
      rw [hstep] at h
      cases h
    | some mid =>
      rw [hstep] at h
      exact .cons hstep (ih h)

end Run

end ZigpySpinel.Lib
