import Micro6502.Proofs.Timing
import Micro6502.Proofs.Traffic

/-!
# Running for a number of cycles

A run takes whole steps until its budget is spent, so it may go over. As no step is free, it ends,
and as no step is long, it goes over by little. A run that is stopped early and gone on with stops
where the whole run does, wherever the stop was.

## Contents

- `Processor.steps`, some steps in a row
- `Processor.Stops`, the way of a run from step to step, with `Stops.runs`, `Stops.steps_eq` and
  `Stops.split`
- `Cpu.runs_iff`, that no run goes on for ever or ends early
- `Cpu.exists_stops`, a run on a host that refuses nothing, and the bounds of its length
- `Cpu.run_stops`
-/

namespace Micro6502

namespace Processor

variable {A : Architecture} {β : Type} [HostBus β]

/-- Takes some steps and gives the cycles of all. -/
def steps : Nat → Call (Processor A β) Int
  | 0 => return 0
  | k + 1 => do
    let cycles ← step
    let rest ← steps k
    return cycles + rest

/-- From one processor to the other there are so many steps with so many cycles, and only the last
of them spends the budget. -/
inductive Stops : (budget : Int) → Processor A β → (k : Nat) → (elapsed : Int) → Processor A β →
    List Notice → Prop where
  | spent {budget p} : budget ≤ 0 → Stops budget p 0 0 p []
  | step {budget p q r k cycles elapsed told told'} : 0 < budget →
      step p = ⟨.ok cycles, q, told⟩ → Stops (budget - cycles) q k elapsed r told' →
      Stops budget p (k + 1) (cycles + elapsed) r (told ++ told')

namespace Stops

variable {budget elapsed : Int} {p q : Processor A β} {k : Nat} {told : List Notice}

theorem steps_eq (h : Stops budget p k elapsed q told) : steps k p = ⟨.ok elapsed, q, told⟩ := by
  induction h with
  | spent _ => rfl
  | step _ hstep _ ih =>
    rw [steps, Call.bind_apply, hstep]
    simp only [Call.bind_apply, ih, pure, Call.pure, Outcome.after, List.append_nil]

/-- Fewer steps do not spend the budget. -/
theorem lt_of_lt (h : Stops budget p k elapsed q told) {j : Nat} (hj : j < k) :
    ∃ e r told', steps j p = ⟨.ok e, r, told'⟩ ∧ e < budget := by
  induction h generalizing j with
  | spent _ => exact absurd hj (Nat.not_lt_zero j)
  | @step budget p q r k cycles elapsed told told' hbudget hstep _ ih =>
    -- No step at all spends nothing of the budget, of which there is some.
    cases j with
    | zero => exact ⟨0, p, [], rfl, hbudget⟩
    | succ j =>
      obtain ⟨e, r', told'', hsteps, he⟩ := ih (Nat.lt_of_succ_lt_succ hj)
      refine ⟨cycles + e, r', told ++ told'', ?_, by omega⟩
      rw [steps, Call.bind_apply, hstep]
      simp only [Call.bind_apply, hsteps, pure, Call.pure, Outcome.after, List.append_nil]

theorem budget_le (h : Stops budget p k elapsed q told) : budget ≤ elapsed := by
  induction h with
  | spent hbudget => exact hbudget
  | step _ _ _ ih => omega

/-- A run takes these steps. -/
theorem runs {total start : Int} (h : Stops budget p k elapsed q told)
    (htotal : total = start + budget) : Runs total start p ⟨.ok (start + elapsed), q, told⟩ := by
  -- The cycles of the first step go from the budget that is left to those that have passed.
  induction h generalizing start with
  | spent hbudget =>
    rw [Int.add_zero]
    exact .spent (by omega)
  | @step budget p q r k cycles elapsed told told' hbudget hstep _ ih =>
    have htotal' : total = (start + cycles) + (budget - cycles) := by omega
    have hrest := ih htotal'
    rw [Int.add_assoc] at hrest
    exact .step (by omega) hstep hrest

/-- On the way to a budget every smaller one is spent, and what comes then is a run for the rest. -/
theorem split {m : Int} (h : Stops budget p k elapsed q told) (hm : m ≤ budget) :
    ∃ k₁ e₁ r told₁ k₂ e₂ told₂, Stops m p k₁ e₁ r told₁ ∧ Stops (budget - e₁) r k₂ e₂ q told₂ ∧
      e₁ + e₂ = elapsed ∧ told₁ ++ told₂ = told := by
  induction h generalizing m with
  | @spent budget p hbudget =>
    exact ⟨0, 0, p, [], 0, 0, [], .spent (by omega), .spent (by omega), rfl, rfl⟩
  | @step budget p q r k cycles elapsed told told' hbudget hstep hrest ih =>
    by_cases hm' : m ≤ 0
    · -- The smaller budget is spent at once, and the whole run is left.
      refine ⟨0, 0, p, [], k + 1, cycles + elapsed, told ++ told', .spent hm', ?_, by omega, rfl⟩
      rw [Int.sub_zero]
      exact .step hbudget hstep hrest
    · -- The first step belongs to the smaller run, and what is left of it is spent on the way too.
      obtain ⟨k₁, e₁, s, told₁, k₂, e₂, told₂, hfirst, hsecond, rfl, rfl⟩ :=
        ih (m := m - cycles) (by omega)
      refine ⟨k₁ + 1, cycles + e₁, s, told ++ told₁, k₂, e₂, told₂,
        .step (by omega) hstep hfirst, ?_, by omega, List.append_assoc ..⟩
      rwa [← Int.sub_sub]

end Stops

end Processor

/-! ## The processors of the family -/

namespace Cpu

open Processor (Stops)

variable {variant : Variant} {β : Type} [HostBus β] {inv : β → Prop} {budget elapsed : Int}
  {p q : Cpu variant β} {k : Nat} {told : List Notice}

/-- No instruction and no interrupt is free. -/
theorem everyStepCosts : Processor.EveryStepCosts (mos variant) β := by
  intro p q cycles told hstep
  have hcycles := (timed_of_step hstep).two_le
  omega

/-- What a processor does in a run is the run. -/
theorem runs_iff {o : Outcome (Cpu variant β) Int} :
    Processor.Runs budget 0 p o ↔ run budget p = o := by
  have hruns : Processor.Runs budget 0 p (run budget p) :=
    Processor.runs_runFor everyStepCosts p (by omega)
  refine ⟨fun h => hruns.unique h, ?_⟩
  rintro rfl
  exact hruns

/-- A step on a host that refuses nothing. -/
theorem exists_step_timed (h : Guards inv fun _ _ _ => False) (hp : inv p.bus) :
    ∃ cycles r told', Processor.step p = ⟨.ok cycles, r, told'⟩ ∧ inv r.bus ∧
      2 ≤ cycles ∧ cycles ≤ 7 := by
  have hstep := (guarded_step h p hp).mono (fun _ _ hr => hr) fun _ _ ⟨_, _, hnever⟩ => hnever
  obtain ⟨cycles, r, told', hstep, hr⟩ := hstep.exists_ok
  have htimed := timed_of_step hstep
  exact ⟨cycles, r, told', hstep, hr, htimed.two_le, htimed.le_seven⟩

/-- On a host that refuses nothing, a run ends. -/
theorem exists_stops (h : Guards inv fun _ _ _ => False) (hp : inv p.bus) (budget : Int) :
    ∃ k elapsed q told, Stops budget p k elapsed q told := by
  -- Every step takes a positive number of cycles off the budget.
  induction hn : budget.toNat using Nat.strongRecOn generalizing budget p with
  | ind n ih =>
    by_cases hbudget : budget ≤ 0
    · exact ⟨0, 0, p, [], .spent hbudget⟩
    · -- Nothing is refused, so there is a next step.
      obtain ⟨cycles, r, told, hstep, hr, hcycles, -⟩ := exists_step_timed h hp
      obtain ⟨k, elapsed, q, told', hrest⟩ := ih _ (by omega) hr (budget - cycles) rfl
      exact ⟨k + 1, cycles + elapsed, q, told ++ told', .step (by omega) hstep hrest⟩

end Cpu

namespace Processor.Stops

variable {variant : Variant} {β : Type} [HostBus β] {budget elapsed : Int} {p q : Cpu variant β}
  {k : Nat} {told : List Notice}

/-- Every step takes two cycles at least. -/
theorem steps_le (h : Stops budget p k elapsed q told) : k ≤ ((budget + 1) / 2).toNat := by
  induction h with
  | spent _ => exact Nat.zero_le _
  | step hbudget hstep _ ih =>
    have hcycles := (Cpu.timed_of_step hstep).two_le
    omega

/-- The last step takes seven cycles at most, and one of them was still in the budget. -/
theorem elapsed_le (h : Stops budget p k elapsed q told) (hbudget : 0 < budget) :
    elapsed ≤ budget + 6 := by
  induction h with
  | spent hspent => omega
  | @step budget p q r k cycles elapsed told told' hbudget hstep hrest ih =>
    have hcycles := (Cpu.timed_of_step hstep).le_seven
    -- While some of the budget is left there is another step, so the last one leaves none.
    by_cases hleft : 0 < budget - cycles
    · have hrest := ih hleft
      omega
    · cases hrest with
      | spent _ => omega
      | step hmore _ _ => exact absurd hmore hleft

theorem run_eq (h : Stops budget p k elapsed q told) :
    Cpu.run budget p = ⟨.ok elapsed, q, told⟩ := by
  have hruns := h.runs (Int.zero_add budget).symm
  rw [Int.zero_add] at hruns
  exact Cpu.runs_iff.mp hruns

end Processor.Stops

/-- A run takes the least number of steps that spends its budget.

On a host that refuses nothing, a run ends, for any budget. Its steps are the fewest whose cycles
come up to the budget, and there is at most one step for every two cycles of the budget. It takes at
most six cycles more than the budget, if there is one. And a run for less, followed by a run for
what it has left over, is the same as the run. -/
theorem Cpu.run_stops {variant : Variant} {β : Type} [HostBus β] {inv : β → Prop}
    (h : Guards inv fun _ _ _ => False) {p : Cpu variant β} (hp : inv p.bus) (n : Int) :
    ∃ k elapsed q told, run n p = ⟨.ok elapsed, q, told⟩ ∧
      Processor.steps k p = ⟨.ok elapsed, q, told⟩ ∧ k ≤ ((n + 1) / 2).toNat ∧ n ≤ elapsed ∧
      (∀ j < k, ∃ e r told', Processor.steps j p = ⟨.ok e, r, told'⟩ ∧ e < n) ∧
      (0 < n → elapsed ≤ n + 6) ∧
      ∀ m ≤ n, ∃ e₁ r told₁ e₂ told₂, run m p = ⟨.ok e₁, r, told₁⟩ ∧
        run (n - e₁) r = ⟨.ok e₂, q, told₂⟩ ∧ e₁ + e₂ = elapsed ∧
        told₁ ++ told₂ = told := by
  obtain ⟨k, elapsed, q, told, hstops⟩ := exists_stops h hp n
  refine ⟨k, elapsed, q, told, hstops.run_eq, hstops.steps_eq, hstops.steps_le, hstops.budget_le,
    fun j hj => hstops.lt_of_lt hj, hstops.elapsed_le, fun m hm => ?_⟩
  -- Both parts are runs of their own.
  obtain ⟨_, e₁, r, told₁, _, e₂, told₂, hfirst, hsecond, hsum, htold⟩ := hstops.split hm
  exact ⟨e₁, r, told₁, e₂, told₂, hfirst.run_eq, hsecond.run_eq, hsum, htold⟩

/-- A run for ten cycles on RAM full of breaks takes fourteen, whether it is stopped after three of
them or not. -/
theorem Cpu.run_stops_ram :
    let p := Cpu.new .nmos Bus.ram
    Guards Bus.Complete (fun _ _ _ => False) ∧ p.bus.Complete ∧
      ∃ q told, run 10 p = ⟨.ok 14, q, told⟩ ∧
        ∃ e₁ r told₁ e₂ told₂, run 3 p = ⟨.ok e₁, r, told₁⟩ ∧
          run (10 - e₁) r = ⟨.ok e₂, q, told₂⟩ ∧ e₁ + e₂ = 14 := by
  intro p
  have hresult : (run 10 p).result.toOption = some 14 := by decide +kernel
  obtain ⟨_, elapsed, q, told, hrun, -, -, -, -, -, hsplit⟩ :=
    Cpu.run_stops (p := p) Bus.guards_complete Bus.complete_ram 10
  obtain ⟨e₁, r, told₁, e₂, told₂, hfirst, hsecond, hsum, -⟩ := hsplit 3 (by decide)
  rw [hrun] at hresult
  obtain rfl : elapsed = 14 := Option.some.inj hresult
  exact ⟨Bus.guards_complete, Bus.complete_ram, q, told, hrun, e₁, r, told₁, e₂, told₂, hfirst,
    hsecond, hsum⟩

end Micro6502
