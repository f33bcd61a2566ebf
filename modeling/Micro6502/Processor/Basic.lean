import Micro6502.Clock
import Micro6502.Processor.Architecture

/-!
# Processors

A processor of some architecture on a host bus, with its clock and the last operation that it
completed. A call that is refused counts no cycles and leaves the last operation as it was; the
state and the bus stay as the refusal found them.

## Contents

- `Processor`, with `Processor.new`
- `step` and `trace`
- `Runs`, what a run gives, and `runFor`, which takes a number of steps at most; where no operation
  is free these agree (`runs_runFor`)
- `reset` and `restore`
-/

namespace Micro6502

/-! ## Processors -/

/-- A processor on a bus. -/
structure Processor (A : Architecture) (β : Type) where
  bus : β
  state : A.State
  clock : Clock
  /-- The last operation that was completed. -/
  last : Option A.Operation

/-- One step, as it is written down. -/
structure Trace (A : Architecture) where
  operation : A.Operation
  /-- All cycles up to here. -/
  total : Int
  /-- The accesses of the step, oldest first. -/
  activity : List Activity
  /-- The state after the step. -/
  state : A.State

namespace Processor

variable {A : Architecture} {β : Type}

/-- A processor at power-up. -/
def new (A : Architecture) (bus : β) : Processor A β := ⟨bus, A.initial, {}, none⟩

/-- Changes the processor. -/
def modify (f : Processor A β → Processor A β) : Call (Processor A β) Unit := fun p =>
  ⟨.ok (), f p, []⟩

/-- Lets the processor act on its bus. -/
def perform [HostBus β] (action : Action A.State α) : Call (Processor A β) α := fun p =>
  ((action p.state).run p.bus).mapMachine fun (bus, state) => { p with bus := bus, state := state }

/-- Lets the host act on the bus. -/
def onBus (call : Call β α) : Call (Processor A β) α := fun p =>
  (call p.bus).mapMachine fun bus => { p with bus := bus }

/-- Takes the accesses on record from the bus. -/
def takeActivity [HostBus β] : Call (Processor A β) (List Activity) := fun p =>
  let (activity, bus) := HostBus.takeActivity p.bus
  ⟨.ok activity, { p with bus := bus }, []⟩

/-! ## Running -/

/-- Counts a completed operation. -/
def complete (operation : A.Operation) (isInstruction : Bool) (p : Processor A β) :
    Processor A β :=
  { p with
    clock := p.clock.charge (A.cycles operation) isInstruction
    last := some operation }

/-- Takes an interrupt or executes an instruction, and gives the completed operation. The record of
the bus starts afresh. -/
def advance [HostBus β] : Call (Processor A β) A.Operation := do
  let _ ← takeActivity
  let (operation, isInstruction) ← perform A.turn
  -- A refused turn does not come here: it is neither counted nor kept.
  modify (complete operation isInstruction)
  return operation

/-- Takes an interrupt or executes an instruction, and gives its cycles. -/
def step [HostBus β] : Call (Processor A β) Int := do
  let operation ← advance
  return A.cycles operation

/-- To advance is to hold the dialogue of one turn with the bus, whose record starts afresh. -/
theorem advance_eq [HostBus β] (p : Processor A β) :
    advance p =
      match (A.turn p.state).run (HostBus.takeActivity p.bus).2 with
      | ⟨.ok (operation, isInstruction), (bus, state), told⟩ =>
        ⟨.ok operation, complete operation isInstruction { p with bus := bus, state := state }, told⟩
      | ⟨.error fault, (bus, state), told⟩ =>
        ⟨.error fault, { p with bus := bus, state := state }, told⟩ := by
  simp only [advance, Call.bind_apply, takeActivity, perform, modify, Outcome.mapMachine]
  generalize (A.turn p.state).run (HostBus.takeActivity p.bus).2 = o
  obtain ⟨_ | ⟨operation, isInstruction⟩, ⟨bus, state⟩, told⟩ := o
  · rfl
  · simp [Outcome.after, pure, Call.pure]

theorem step_eq [HostBus β] (p : Processor A β) :
    step p =
      match (A.turn p.state).run (HostBus.takeActivity p.bus).2 with
      | ⟨.ok (operation, isInstruction), (bus, state), told⟩ =>
        ⟨.ok (A.cycles operation),
          complete operation isInstruction { p with bus := bus, state := state }, told⟩
      | ⟨.error fault, (bus, state), told⟩ =>
        ⟨.error fault, { p with bus := bus, state := state }, told⟩ := by
  rw [step, Call.bind_apply, advance_eq]
  generalize (A.turn p.state).run (HostBus.takeActivity p.bus).2 = o
  obtain ⟨_ | ⟨operation, isInstruction⟩, ⟨bus, state⟩, told⟩ := o
  · rfl
  · simp [Outcome.after, pure, Call.pure]

/-- A step that succeeds is a turn that has been completed. -/
theorem step_ok [HostBus β] {p p' : Processor A β} {cycles : Int} {told : List Notice}
    (h : step p = ⟨.ok cycles, p', told⟩) :
    ∃ operation isInstruction,
      (A.turn p.state).run (HostBus.takeActivity p.bus).2 =
        ⟨.ok (operation, isInstruction), (p'.bus, p'.state), told⟩ ∧
      cycles = A.cycles operation ∧
      p' = complete operation isInstruction { p with bus := p'.bus, state := p'.state } := by
  rw [step_eq] at h
  generalize (A.turn p.state).run (HostBus.takeActivity p.bus).2 = o at h
  obtain ⟨_ | ⟨operation, isInstruction⟩, ⟨bus, state⟩, _⟩ := o
  · exact nomatch congrArg Outcome.result h
  · obtain ⟨hcycles, hp', rfl⟩ := Outcome.mk.inj h
    subst hp'
    exact ⟨operation, isInstruction, rfl, (Except.ok.inj hcycles).symm, rfl⟩

/-- What a run gives from where `elapsed` cycles have passed: it takes steps until at least `budget`
have, or until one is refused. If operations are free it may go on for ever, and then it gives
nothing. -/
inductive Runs [HostBus β] (budget : Int) :
    (elapsed : Int) → Processor A β → Outcome (Processor A β) Int → Prop where
  | spent {elapsed p} : ¬ elapsed < budget → Runs budget elapsed p ⟨.ok elapsed, p, []⟩
  | step {elapsed p cycles q told o} : elapsed < budget → step p = ⟨.ok cycles, q, told⟩ →
      Runs budget (elapsed + cycles) q o → Runs budget elapsed p (o.after told)
  | refused {elapsed p fault q told} : elapsed < budget → step p = ⟨.error fault, q, told⟩ →
      Runs budget elapsed p ⟨.error fault, q, told⟩

/-- A run gives one outcome at most. -/
theorem Runs.unique [HostBus β] {budget elapsed : Int} {p : Processor A β}
    {o o' : Outcome (Processor A β) Int} (h : Runs budget elapsed p o)
    (h' : Runs budget elapsed p o') : o = o' := by
  induction h generalizing o' with
  | spent hspent =>
    cases h' with
    | spent _ => rfl
    | step hleft _ _ => exact absurd hleft hspent
    | refused hleft _ => exact absurd hleft hspent
  | step hleft hstep _ ih =>
    cases h' with
    | spent hspent => exact absurd hleft hspent
    | step _ hstep' hrest =>
      obtain ⟨hcycles, rfl, rfl⟩ := Outcome.mk.inj (hstep.symm.trans hstep')
      obtain rfl := Except.ok.inj hcycles
      rw [ih hrest]
    | refused _ hstep' => exact nomatch (Outcome.mk.inj (hstep.symm.trans hstep')).1
  | refused hleft hstep =>
    cases h' with
    | spent hspent => exact absurd hleft hspent
    | step _ hstep' _ => exact nomatch (Outcome.mk.inj (hstep.symm.trans hstep')).1
    | refused _ hstep' => exact hstep.symm.trans hstep'

/-- Steps until the budget is spent, `limit` times at most. -/
def runFor [HostBus β] (budget : Int) : (limit : Nat) → (elapsed : Int) → Call (Processor A β) Int
  | 0, elapsed => return elapsed
  | limit + 1, elapsed => do
    if elapsed < budget then
      let cycles ← step
      runFor budget limit (elapsed + cycles)
    else
      return elapsed

/-- No operation is free: every step that is completed takes a cycle at least. -/
def EveryStepCosts (A : Architecture) (β : Type) [HostBus β] : Prop :=
  ∀ {p q : Processor A β} {cycles : Int} {told : List Notice},
    step p = ⟨.ok cycles, q, told⟩ → 0 < cycles

/-- If no operation is free, a run needs no more steps than there are cycles left. -/
theorem runs_runFor [HostBus β] (hcosts : EveryStepCosts A β) {budget elapsed : Int} {limit : Nat}
    (p : Processor A β) (hlimit : budget - elapsed ≤ limit) :
    Runs budget elapsed p (runFor budget limit elapsed p) := by
  induction limit generalizing elapsed p with
  | zero => exact .spent (by omega)
  | succ limit ih =>
    unfold runFor
    split
    · next hleft =>
      rw [Call.bind_apply]
      rcases hstep : step p with ⟨fault | cycles, q, told⟩
      · exact .refused hleft hstep
      · -- The step takes a cycle at least, so one step less is enough for the rest.
        have hcycles := hcosts hstep
        exact .step hleft hstep (ih q (by omega))
    · next hspent => exact .spent hspent

/-- Takes one step and writes it down. The record of the bus goes into the trace. -/
def trace [HostBus β] : Call (Processor A β) (Trace A) := do
  let operation ← advance
  let activity ← takeActivity
  let p ← Call.get
  return ⟨operation, p.clock.total, activity, p.state⟩

/-- To trace is to step, to write the operation down, and to take the record of the bus. -/
theorem trace_eq [HostBus β] (p : Processor A β) :
    (∃ operation q told, step p = ⟨.ok (A.cycles operation), q, told⟩ ∧ q.last = some operation ∧
      trace p = ⟨.ok ⟨operation, q.clock.total, (HostBus.takeActivity q.bus).1, q.state⟩,
        { q with bus := (HostBus.takeActivity q.bus).2 }, told⟩) ∨
    ∃ fault q told, step p = ⟨.error fault, q, told⟩ ∧ trace p = ⟨.error fault, q, told⟩ := by
  rw [step_eq, trace, Call.bind_apply, advance_eq]
  generalize (A.turn p.state).run (HostBus.takeActivity p.bus).2 = o
  obtain ⟨fault | ⟨operation, isInstruction⟩, ⟨bus, state⟩, told⟩ := o
  · exact .inr ⟨fault, _, told, rfl, rfl⟩
  · refine .inl ⟨operation, _, told, rfl, rfl, ?_⟩
    simp [Call.bind_apply, Outcome.after, pure, Call.pure, takeActivity, Call.get]

/-! ## Setting the state -/

/-- Puts the state of a reset in place. There is no access, and no cycles pass. -/
def reset : Call (Processor A β) Unit :=
  modify fun p => { p with state := A.resetState p.state }

/-- Puts a state in place. -/
def restore (state : A.State) : Call (Processor A β) Unit :=
  modify fun p => { p with state := A.restoreState p.state state }

end Processor

end Micro6502
