import Micro6502.Proofs.Turn

/-!
# Hosts that keep an invariant

A processor makes proper accesses only. So if a host keeps an invariant under these, and refuses
them in a known way only, then every call of the processor keeps the invariant, or is refused in
this way.

## Contents

- `Upholds`, hosts that keep an invariant
- `Upholds.advance_of_always`, `Upholds.step_reached` and `Upholds.advance`, which also say what has
  been completed
- `Guards`, the case of an invariant of the bus alone, and `Cpu.Guarded`, the calls that keep it
-/

namespace Micro6502

/-! ## One step -/

/-- Under proper accesses the host keeps an invariant, which may depend on the exchanges so far.
If it refuses an access, then in a `bad` way. -/
structure Upholds [HostBus β] (inv : List Exchange → β → Prop) (bad : Access → Fault → β → Prop) :
    Prop where
  read : ∀ past a, (Access.read a).Proper →
    Call.Meets (inv past) (HostBus.read a) (fun b => inv (.read a b :: past)) (bad (.read a))
  write : ∀ past a data, (Access.write a data).Proper →
    Call.Meets (inv past) (HostBus.write a data) (fun _ => inv (.write a data :: past))
      (bad (.write a data))

namespace Upholds

variable {variant : Variant} {β : Type} [HostBus β] {inv : List Exchange → β → Prop}
  {bad : Access → Fault → β → Prop}

/-- A refused call has left the bus after a proper access, and it has counted nothing. -/
def Refused (bad : Access → Fault → β → Prop) (p : Cpu variant β) (fault : Fault)
    (q : Cpu variant β) : Prop :=
  (∃ x, x.Proper ∧ bad x fault q.bus) ∧ q.clock = p.clock ∧ q.last = p.last

theorem perform (h : Upholds inv bad) {action : Action Registers α} (p : Cpu variant β)
    (hp : inv [] p.bus) {goal : List Exchange → Registers → α → Prop}
    (haction : (action p.state).Always (fun _ _ x => x.Proper) goal []) :
    (Processor.perform action p).Satisfies
      (fun a q => ∃ past, inv past q.bus ∧ goal past q.state a ∧
        q.clock = p.clock ∧ q.last = p.last)
      (Refused bad p) := by
  have hread (past : List Exchange) (_ : Registers) (a : Int) (hx : (Access.read a).Proper) :
      Call.Meets (inv past) (HostBus.read a) (fun b => inv (.read a b :: past))
        (fun fault b => ∃ x, x.Proper ∧ bad x fault b) :=
    (h.read past a hx).mono (fun _ _ hm => hm) fun _ _ hm => ⟨_, hx, hm⟩
  have hwrite (past : List Exchange) (_ : Registers) (a data : Int)
      (hx : (Access.write a data).Proper) :
      Call.Meets (inv past) (HostBus.write a data) (fun _ => inv (.write a data :: past))
        (fun fault b => ∃ x, x.Proper ∧ bad x fault b) :=
    (h.write past a data hx).mono (fun _ _ hm => hm) fun _ _ hm => ⟨_, hx, hm⟩
  -- In either case the refused access is one that was allowed, so it was proper.
  have hrun := haction.run hread hwrite hp
  -- A dialogue acts on the bus and on the registers; the clock is not its business.
  refine (Outcome.satisfies_mapMachine _ _).mpr (hrun.mono ?_ ?_)
  · intro a m h
    obtain ⟨past, hb, hs⟩ := h
    exact ⟨past, hb, hs, rfl, rfl⟩
  · intro fault m hb
    exact ⟨hb, rfl, rfl⟩

/-- A completed step has reached a goal of its turn, has been counted and is kept as the last
operation. -/
theorem advance_of_always (h : Upholds inv bad) (p : Cpu variant β)
    (hp : inv [] (HostBus.takeActivity p.bus).2)
    {goal : List Exchange → Registers → Operation × Bool → Prop}
    (hturn : ((mos variant).turn p.state).Always (fun _ _ x => x.Proper) goal []) :
    (Processor.advance p).Satisfies
      (fun operation q => ∃ past isInstruction, inv past q.bus ∧
        goal past q.state (operation, isInstruction) ∧
        q.clock = p.clock.charge operation.cycles isInstruction ∧ q.last = some operation)
      (Refused bad p) := by
  unfold Processor.advance
  have htake : (Processor.takeActivity p : Outcome (Cpu variant β) _).Satisfies
      (fun _ q => q = { p with bus := (HostBus.takeActivity p.bus).2 }) (Refused bad p) := rfl
  -- Taking the record asks nothing of the host.
  refine htake.bind ?_
  intro _ q hq
  subst hq
  refine (h.perform { p with bus := (HostBus.takeActivity p.bus).2 } hp hturn).bind ?_
  intro completed q h
  obtain ⟨operation, isInstruction⟩ := completed
  obtain ⟨past, hq, hgoal, hclock, -⟩ := h
  have hcharge : q.clock.charge operation.cycles isInstruction =
      p.clock.charge operation.cycles isInstruction := by rw [hclock]
  exact ⟨past, isInstruction, hq, hgoal, hcharge, rfl⟩

/-- A step that has succeeded has reached what its turn always reaches. -/
theorem step_reached (h : Upholds inv bad) {p q : Cpu variant β} {cycles : Int}
    {told : List Notice} (hp : inv [] (HostBus.takeActivity p.bus).2)
    {goal : List Exchange → Registers → Operation × Bool → Prop}
    (hturn : ((mos variant).turn p.state).Always (fun _ _ _ => True) goal [])
    (hstep : Processor.step p = ⟨.ok cycles, q, told⟩) :
    ∃ operation isInstruction past, q.last = some operation ∧ cycles = operation.cycles ∧
      q.clock = p.clock.charge operation.cycles isInstruction ∧ inv past q.bus ∧
      goal past q.state (operation, isInstruction) := by
  -- The accesses of a turn are proper anyway, so nothing is asked of the goal's own rule for them.
  have hproper := ((always_turn variant p.state []).and hturn).mono (fun _ _ _ h => h.1)
    fun _ _ _ h => h.2
  have hsatisfies : (Processor.step p).Satisfies
      (fun cycles q => ∃ operation isInstruction past, q.last = some operation ∧
        cycles = operation.cycles ∧ q.clock = p.clock.charge operation.cycles isInstruction ∧
        inv past q.bus ∧ goal past q.state (operation, isInstruction))
      (Refused bad p) := by
    refine (h.advance_of_always p hp hproper).bind ?_
    intro operation q h
    obtain ⟨past, isInstruction, hq, hgoal, hclock, hlast⟩ := h
    exact ⟨operation, isInstruction, past, hlast, rfl, hclock, hq, hgoal⟩
  rw [hstep] at hsatisfies
  exact hsatisfies

/-- What a completed step has done, if the record of the bus is of no matter. -/
theorem advance (h : Upholds inv bad) (p : Cpu variant β)
    (hp : inv [] (HostBus.takeActivity p.bus).2) :
    (Processor.advance p).Satisfies
      (fun operation q => ∃ past isInstruction, inv past q.bus ∧
        Turned p.state past q.state (operation, isInstruction) ∧
        q.clock = p.clock.charge operation.cycles isInstruction ∧ q.last = some operation)
      (Refused bad p) :=
  h.advance_of_always p hp (always_turn variant _ [])

end Upholds

/-! ## All calls -/

/-- Under proper accesses the host keeps an invariant. If it refuses an access, then in a `bad`
way. -/
structure Guards [HostBus β] (inv : β → Prop) (bad : Access → Fault → β → Prop) : Prop where
  accesses : Upholds (fun _ => inv) bad
  takeActivity : ∀ b, inv b → inv (HostBus.takeActivity b).2

theorem Guards.mono [HostBus β] {inv : β → Prop} {bad bad' : Access → Fault → β → Prop}
    (h : Guards inv bad) (hbad : ∀ x fault b, bad x fault b → bad' x fault b) :
    Guards inv bad' where
  accesses :=
    { read := fun past a hx =>
        (h.accesses.read past a hx).mono (fun _ _ hb => hb) fun fault b => hbad _ fault b
      write := fun past a data hx =>
        (h.accesses.write past a data hx).mono (fun _ _ hb => hb) fun fault b => hbad _ fault b }
  takeActivity := h.takeActivity

/-- The invariant that says nothing is kept by any host. -/
theorem guards_nothing [HostBus β] : Guards (fun _ : β => True) fun _ _ _ => True where
  accesses :=
    { read := fun _ a _ b _ => by
        generalize HostBus.read a b = o
        obtain ⟨_ | v, c, told⟩ := o <;> trivial
      write := fun _ a data _ b _ => by
        generalize HostBus.write a data b = o
        obtain ⟨_ | v, c, told⟩ := o <;> trivial }
  takeActivity _ _ := trivial

namespace Cpu

variable {variant : Variant} {β : Type} {inv : β → Prop} {bad : Access → Fault → β → Prop}

/-- The call keeps the invariant of the bus, or it has been refused after a proper access. -/
def Guarded (inv : β → Prop) (bad : Access → Fault → β → Prop) (call : Call (Cpu variant β) α) :
    Prop :=
  Call.Meets (fun p => inv p.bus) call (fun _ q => inv q.bus)
    fun fault q => ∃ x, x.Proper ∧ bad x fault q.bus

theorem Guarded.pure (a : α) : Guarded inv bad (Pure.pure a : Call (Cpu variant β) α) :=
  Call.meets_pure a fun _ h => h

theorem Guarded.bind {x : Call (Cpu variant β) α} {next : α → Call (Cpu variant β) δ}
    (hx : Guarded inv bad x) (hnext : ∀ a, Guarded inv bad (next a)) :
    Guarded inv bad (x >>= next) :=
  Call.Meets.bind hx hnext

theorem Guarded.modify {f : Cpu variant β → Cpu variant β} (hf : ∀ p, (f p).bus = p.bus) :
    Guarded inv bad (Processor.modify f) := by
  intro p hp
  show inv (f p).bus
  rwa [hf p]

variable [HostBus β] (h : Guards inv bad)

include h

theorem guarded_advance : Guarded inv bad (Processor.advance : Call (Cpu variant β) Operation) := by
  intro p hp
  have hadvance := h.accesses.advance p (h.takeActivity _ hp)
  exact hadvance.mono (fun _ _ ⟨_, _, hq, _⟩ => hq) fun _ _ hq => hq.1

theorem guarded_step : Guarded inv bad (Processor.step : Call (Cpu variant β) Int) :=
  .bind (guarded_advance h) fun _ => .pure _

theorem guarded_runFor (budget : Int) (limit : Nat) (elapsed : Int) :
    Guarded inv bad (Processor.runFor budget limit elapsed : Call (Cpu variant β) Int) := by
  -- Each step keeps the invariant for the next, whatever the cycles were.
  induction limit generalizing elapsed with
  | zero => exact .pure elapsed
  | succ limit ih =>
    unfold Processor.runFor
    split
    · exact .bind (guarded_step h) fun cycles => ih (elapsed + cycles)
    · exact .pure elapsed

theorem guarded_run (budget : Int) :
    Guarded inv bad (run budget : Call (Cpu variant β) Int) :=
  guarded_runFor h budget budget.toNat 0

theorem guarded_trace :
    Guarded inv bad (Processor.trace : Call (Cpu variant β) (Trace (mos variant))) :=
  .bind (guarded_advance h) fun _ => .bind (fun p hp => h.takeActivity p.bus hp) fun _ =>
    .bind (fun _ hp => hp) fun _ => .pure _

theorem guarded_reset : Guarded inv bad (reset : Call (Cpu variant β) Unit) := by
  have hvector : Guarded inv bad
      (Processor.perform Interrupts.reset : Call (Cpu variant β) Unit) := by
    intro p hp
    -- The vector is read by proper accesses; the rest of a reset leaves the bus alone.
    have hperform := h.accesses.perform p hp (always_reset p.state [])
    exact hperform.mono (fun _ _ ⟨_, hq, _⟩ => hq) fun _ _ hq => hq.1
  exact .bind (.modify fun _ => rfl) fun _ => .bind hvector fun _ => .modify fun _ => rfl

end Cpu

end Micro6502
