import Mathlib.Logic.Basic

/-!
# Loops that are left by `break`

`loop { body }` with a body that either breaks or changes the state: `body s` is
`none` where the body breaks in state `s`. `Runs body k s t` is the meaning of the
loop: from `s`, after `k` passes, it breaks in state `t`. When a measure decreases
in every pass, `exec` computes that final state, within as many passes as the
measure says.
-/

namespace ZigpySpinel.Lib.Loop

variable {σ : Type} {body : σ → Option σ} {measure : σ → Nat}

/-- From the first state the loop breaks in the second, after that many passes. -/
inductive Runs (body : σ → Option σ) : Nat → σ → σ → Prop
  | stop {s : σ} : body s = none → Runs body 0 s s
  | pass {k : Nat} {s s' t : σ} : body s = some s' → Runs body k s' t → Runs body (k + 1) s t

/-- At most `n` passes of the loop. -/
def execFor (body : σ → Option σ) : Nat → σ → σ
  | 0, s => s
  | n + 1, s =>
    match body s with
    | none => s
    | some s' => execFor body n s'

/-- The state in which a loop breaks, if the measure decreases in every pass. -/
def exec (body : σ → Option σ) (measure : σ → Nat) (s : σ) : σ := execFor body (measure s) s

/-- The measure bounds the passes. -/
def Decreasing (body : σ → Option σ) (measure : σ → Nat) : Prop :=
  ∀ s s', body s = some s' → measure s' < measure s

theorem execFor_runs (h : Decreasing body measure) :
    ∀ n s, measure s ≤ n → ∃ k ≤ n, Runs body k s (execFor body n s) := by
  intro n
  induction n with
  | zero =>
    intro s hs
    refine ⟨0, Nat.le_refl _, .stop ?_⟩
    cases hb : body s with
    | none => rfl
    | some s' => exact absurd (h s s' hb) (by omega)
  | succ n ih =>
    intro s hs
    cases hb : body s with
    | none =>
      rw [execFor, hb]
      exact ⟨0, Nat.zero_le _, .stop hb⟩
    | some s' =>
      obtain ⟨k, hk, hrun⟩ := ih s' (by have := h s s' hb; omega)
      rw [execFor, hb]
      exact ⟨k + 1, by omega, .pass hb hrun⟩

/-- Every loop with a decreasing measure terminates, and `exec` is its final state. -/
theorem exec_runs (h : Decreasing body measure) (s : σ) :
    ∃ k ≤ measure s, Runs body k s (exec body measure s) :=
  execFor_runs h (measure s) s (Nat.le_refl _)

/-- A loop breaks in one state only. -/
theorem Runs.det {k k' : Nat} {s t t' : σ} (h : Runs body k s t) (h' : Runs body k' s t') :
    t = t' := by
  induction h generalizing k' with
  | stop hb =>
    cases h' with
    | stop _ => rfl
    | pass hb' _ => rw [hb] at hb'; cases hb'
  | pass hb _ ih =>
    cases h' with
    | stop hb' => rw [hb] at hb'; cases hb'
    | pass hb' hrun' =>
      rw [hb, Option.some.injEq] at hb'
      subst hb'
      exact ih hrun'

/-- The loop rule: what each pass keeps holds where the loop breaks, together with
    the reason for the break. -/
theorem Runs.inv (inv : σ → Prop) (hpass : ∀ s s', inv s → body s = some s' → inv s')
    {k : Nat} {s t : σ} (h : Runs body k s t) (hs : inv s) : inv t ∧ body t = none := by
  induction h with
  | stop hb => exact ⟨hs, hb⟩
  | pass hb _ ih => exact ih (hpass _ _ hs hb)

end ZigpySpinel.Lib.Loop
