import Micro6502.Bus.Flat
import Micro6502.Proofs.Monitor

/-!
# Interrupts and history

Which step takes an interrupt follows from what happened before, without a look at the latches: a
request waits from when it was made until something serves it or drops it.

## Contents

- `Event`, and `Arrives`, the processors that a history leads to
- `Waiting`, with `NmiWaiting` and `IrqWaiting`: what waits after a history
- `Cpu.step_always` and `Cpu.step_turned`, what a completed step has done, with
  `Cpu.reached_of_last` and `Cpu.turned_of_last` for a step whose operation is known, and
  `Cpu.upheld_step` for its host
- `Arrives.latched`: the latches hold what waits
- `Arrives.step_lawful`
-/

namespace Micro6502

/-! ## Histories -/

/-- What happened to a processor. -/
inductive Event where
  | request (source : Interrupt)
  | withdraw
  | reset
  | step (operation : Operation)
  /-- The host did something to the bus. -/
  | host
  deriving DecidableEq, Repr

/-- The processors to which events lead, the latest event in front. Each call has succeeded. -/
inductive Arrives {variant : Variant} [HostBus β] (start : Cpu variant β) :
    List Event → Cpu variant β → Prop where
  | start : Arrives start [] start
  | request {history p} (source : Interrupt) : Arrives start history p →
      Arrives start (.request source :: history) (Cpu.request source p).machine
  | withdraw {history p} : Arrives start history p →
      Arrives start (.withdraw :: history) (Cpu.withdraw p).machine
  | reset {history p q told} : Arrives start history p → Cpu.reset p = ⟨.ok (), q, told⟩ →
      Arrives start (.reset :: history) q
  | step {history p q cycles told operation} : Arrives start history p →
      Processor.step p = ⟨.ok cycles, q, told⟩ → q.last = some operation →
      Arrives start (.step operation :: history) q
  | host {history p} (bus : β) : Arrives start history p →
      Arrives start (.host :: history) { p with bus := bus }

/-! ## What waits -/

/-- There was a request, and nothing after it has ended the wait. -/
def Waiting (request : Event) (ends : Event → Prop) (history : List Event) : Prop :=
  ∃ recent earlier, history = recent ++ request :: earlier ∧ ∀ event ∈ recent, ¬ ends event

theorem not_waiting_nil {request : Event} {ends : Event → Prop} : ¬ Waiting request ends [] := by
  intro h
  obtain ⟨recent, earlier, hsplit, -⟩ := h
  simp at hsplit

/-- With one more event: it is a request, or there is one that it has not ended. -/
theorem waiting_cons {request event : Event} {ends : Event → Prop} {history : List Event} :
    Waiting request ends (event :: history) ↔
      event = request ∨ (¬ ends event ∧ Waiting request ends history) := by
  constructor
  · intro h
    -- Either nothing has come after the request, or the event is the latest that has.
    obtain ⟨_ | ⟨first, recent⟩, earlier, hsplit, hrecent⟩ := h
    · rw [List.nil_append, List.cons.injEq] at hsplit
      exact Or.inl hsplit.1
    · rw [List.cons_append, List.cons.injEq] at hsplit
      obtain ⟨rfl, rfl⟩ := hsplit
      obtain ⟨hevent, hrest⟩ := List.forall_mem_cons.mp hrecent
      exact Or.inr ⟨hevent, recent, earlier, rfl, hrest⟩
  · intro h
    rcases h with rfl | ⟨hevent, recent, earlier, rfl, hrecent⟩
    · exact ⟨[], history, rfl, List.forall_mem_nil _⟩
    · exact ⟨event :: recent, earlier, rfl, List.forall_mem_cons.mpr ⟨hevent, hrecent⟩⟩

/-- A non-maskable interrupt was requested since the latest step or reset. -/
def NmiWaiting : List Event → Prop :=
  Waiting (.request .nmi) fun event => event = .reset ∨ ∃ operation, event = .step operation

/-- A maskable interrupt was requested, and since then it was not withdrawn, entered or dropped by
a reset. -/
def IrqWaiting : List Event → Prop :=
  Waiting (.request .irq) fun event =>
    event = .withdraw ∨ event = .step (.interrupt .irq) ∨ event = .reset

theorem nmiWaiting_cons (event : Event) (history : List Event) :
    NmiWaiting (event :: history) ↔
      match event with
      | .request source => source = .nmi ∨ NmiWaiting history
      | .withdraw | .host => NmiWaiting history
      | .reset | .step _ => False := by
  cases event <;> simp [NmiWaiting, waiting_cons]

theorem irqWaiting_cons (event : Event) (history : List Event) :
    IrqWaiting (event :: history) ↔
      match event with
      | .request source => source = .irq ∨ IrqWaiting history
      | .host => IrqWaiting history
      | .withdraw | .reset => False
      | .step operation => operation ≠ .interrupt .irq ∧ IrqWaiting history := by
  cases event <;> simp [IrqWaiting, waiting_cons]

/-! ## Completed steps -/

namespace Cpu

variable {variant : Variant} {β : Type} [HostBus β]

/-- The accesses of a step with their answers, the latest in front. -/
def stepExchanges (p : Cpu variant β) : List Exchange :=
  (Processor.step p.watched).machine.bus.exchanges

/-- A completed step has reached what its turn always reaches, has been counted and is kept as the
last operation. What the host keeps up along the exchanges holds of those of the step. -/
theorem step_upheld {inv : List Exchange → β → Prop} {bad : Access → Fault → β → Prop}
    (hinv : Upholds inv bad) {p q : Cpu variant β} (hp : inv [] (HostBus.takeActivity p.bus).2)
    {cycles : Int} {told : List Notice} {goal : List Exchange → Registers → Operation × Bool → Prop}
    (hturn : ((mos variant).turn p.state).Always (fun _ _ _ => True) goal [])
    (h : Processor.step p = ⟨.ok cycles, q, told⟩) :
    ∃ operation isInstruction, q.last = some operation ∧ cycles = operation.cycles ∧
      q.clock = p.clock.charge operation.cycles isInstruction ∧ inv p.stepExchanges q.bus ∧
      goal p.stepExchanges q.state (operation, isInstruction) := by
  -- The step is the watched one, whose monitor knows the exchanges.
  obtain ⟨r, hwatched, rfl⟩ := exists_watched_step h
  have hreached := hinv.monitored.step_reached (p := p.watched)
    ⟨hp, rfl, List.forall_mem_nil _⟩ hturn hwatched
  obtain ⟨operation, isInstruction, past, hlast, hcycles, hclock, ⟨hhost, hpast, -⟩, hgoal⟩ :=
    hreached
  obtain rfl : p.stepExchanges = past := by rw [stepExchanges, hwatched, hpast]
  exact ⟨operation, isInstruction, hlast, hcycles, hclock, hhost, hgoal⟩

theorem step_always {p q : Cpu variant β} {cycles : Int} {told : List Notice}
    {goal : List Exchange → Registers → Operation × Bool → Prop}
    (hturn : ((mos variant).turn p.state).Always (fun _ _ _ => True) goal [])
    (h : Processor.step p = ⟨.ok cycles, q, told⟩) :
    ∃ operation isInstruction, q.last = some operation ∧ cycles = operation.cycles ∧
      q.clock = p.clock.charge operation.cycles isInstruction ∧
      goal p.stepExchanges q.state (operation, isInstruction) := by
  obtain ⟨operation, isInstruction, hlast, hcycles, hclock, -, hgoal⟩ :=
    step_upheld guards_nothing.accesses trivial hturn h
  exact ⟨operation, isInstruction, hlast, hcycles, hclock, hgoal⟩

/-- What the host keeps up along the exchanges holds of those of a completed step. -/
theorem upheld_step {inv : List Exchange → β → Prop} {bad : Access → Fault → β → Prop}
    (hinv : Upholds inv bad) {p q : Cpu variant β} (hp : inv [] (HostBus.takeActivity p.bus).2)
    {cycles : Int} {told : List Notice} (h : Processor.step p = ⟨.ok cycles, q, told⟩) :
    inv p.stepExchanges q.bus := by
  have hturn : ((mos variant).turn p.state).Always (fun _ _ _ => True) (fun _ _ _ => True) [] :=
    Dialogue.always_of_forall (fun _ _ _ => trivial) _ []
  obtain ⟨_, _, -, -, -, hheld, -⟩ := step_upheld hinv hp hturn h
  exact hheld

/-- What a completed step has done: one turn, which is counted and kept as the last operation. -/
theorem step_turned {p q : Cpu variant β} {cycles : Int} {told : List Notice}
    (h : Processor.step p = ⟨.ok cycles, q, told⟩) :
    ∃ operation isInstruction, q.last = some operation ∧ cycles = operation.cycles ∧
      q.clock = p.clock.charge operation.cycles isInstruction ∧
      Turned p.state p.stepExchanges q.state (operation, isInstruction) := by
  have hturn := (always_turn variant p.state []).mono (fun _ _ _ _ => trivial) fun _ _ _ h => h
  exact step_always hturn h

/-- A step whose operation is known has reached what its turn always reaches. -/
theorem reached_of_last {p q : Cpu variant β} {cycles : Int} {told : List Notice}
    {goal : List Exchange → Registers → Operation × Bool → Prop} {operation : Operation}
    (hturn : ((mos variant).turn p.state).Always (fun _ _ _ => True) goal [])
    (h : Processor.step p = ⟨.ok cycles, q, told⟩) (hlast : q.last = some operation) :
    ∃ isInstruction, goal p.stepExchanges q.state (operation, isInstruction) := by
  obtain ⟨operation', isInstruction, hlast', -, -, hgoal⟩ := step_always hturn h
  obtain rfl := Option.some.inj (hlast.symm.trans hlast')
  exact ⟨isInstruction, hgoal⟩

theorem turned_of_last {p q : Cpu variant β} {cycles : Int} {told : List Notice}
    {operation : Operation} (h : Processor.step p = ⟨.ok cycles, q, told⟩)
    (hlast : q.last = some operation) :
    ∃ isInstruction, Turned p.state p.stepExchanges q.state (operation, isInstruction) := by
  have hturn := (always_turn variant p.state []).mono (fun _ _ _ _ => trivial) fun _ _ _ h => h
  exact reached_of_last hturn h hlast

/-- After a reset all is as at power-up, but for the program counter. -/
theorem state_reset {p q : Cpu variant β} {told : List Notice}
    (h : reset p = ⟨.ok (), q, told⟩) :
    q.state = { Registers.initial with pc := q.state.pc } := by
  have hreset : (reset p).Satisfies
      (fun _ q => q.state = { Registers.initial with pc := q.state.pc }) (fun _ _ => True) := by
    -- The registers are as at power-up before the vector is read, and it gives the program counter
    -- alone.
    have hstart : (Processor.reset p : Outcome (Cpu variant β) Unit).Satisfies
        (fun _ q => q.state = Registers.initial) (fun _ _ => True) := rfl
    refine hstart.bind fun _ r _ => ?_
    have hperform := guards_nothing.accesses.perform r trivial (always_reset r.state [])
    refine (hperform.mono (fun _ _ h => h) fun _ _ _ => trivial).bind ?_
    intro _ s h
    obtain ⟨past, -, ⟨-, hs⟩, -⟩ := h
    exact hs
  rw [h] at hreset
  exact hreset

/-- A reset drops all requests. -/
theorem latches_reset {p q : Cpu variant β} {told : List Notice}
    (h : reset p = ⟨.ok (), q, told⟩) : q.state.latches = (false, false) := by
  rw [state_reset h]
  rfl

end Cpu

/-! ## Latches and history -/

/-- In the latches is what waits. -/
structure Latched (r : Registers) (history : List Event) : Prop where
  nmi : r.nmi = true ↔ NmiWaiting history
  irq : r.irq = true ↔ IrqWaiting history

namespace Turned

variable {r s : Registers} {past : List Exchange} {operation : Operation} {isInstruction : Bool}

theorem interrupt_iff (h : Turned r past s (operation, isInstruction)) (source : Interrupt) :
    operation = .interrupt source ↔ Interrupts.due? r = some source := by
  cases operation with
  | interrupt source' => simp [h.2.1, eq_comm]
  | instruction i cycles => simp [h.2.1]

/-- After a turn no non-maskable request is left. -/
theorem nmi_eq_false (h : Turned r past s (operation, isInstruction)) : s.nmi = false := by
  cases operation with
  | interrupt source =>
    obtain ⟨-, hdue, -, hlatches, -⟩ := h
    cases source with
    | nmi => exact congrArg Prod.snd hlatches
    | irq =>
      -- The maskable one comes second, so there was no other request to leave behind.
      exact (congrArg Prod.snd hlatches).trans (Interrupts.due?_eq_irq.mp hdue).1
  | instruction i cycles =>
    obtain ⟨-, hdue, hlatches, -⟩ := h
    have hnmi : ¬ r.nmi = true := fun h => by simp [Interrupts.due?_eq_nmi.mpr h] at hdue
    exact (congrArg Prod.snd hlatches).trans (Bool.eq_false_iff.mpr hnmi)

/-- After a turn a maskable request is left unless it was taken. -/
theorem irq_iff (h : Turned r past s (operation, isInstruction)) :
    s.irq = true ↔ operation ≠ .interrupt .irq ∧ r.irq = true := by
  cases operation with
  | interrupt source =>
    obtain ⟨-, -, -, hlatches, -⟩ := h
    have hirq := congrArg Prod.fst hlatches
    cases source <;> simp_all [Registers.latches, Interrupts.acknowledge]
  | instruction i cycles =>
    obtain ⟨-, -, hlatches, -⟩ := h
    have hirq : s.irq = r.irq := congrArg Prod.fst hlatches
    simp [hirq]

end Turned

namespace Latched

variable {r s : Registers} {history : List Event}

theorem requestNmi (h : Latched r history) :
    Latched { r with nmi := true } (.request .nmi :: history) :=
  ⟨by simp [nmiWaiting_cons], by simpa [irqWaiting_cons] using h.irq⟩

theorem requestIrq (h : Latched r history) :
    Latched { r with irq := true } (.request .irq :: history) :=
  ⟨by simpa [nmiWaiting_cons] using h.nmi, by simp [irqWaiting_cons]⟩

theorem withdraw (h : Latched r history) : Latched { r with irq := false } (.withdraw :: history) :=
  ⟨by simpa [nmiWaiting_cons] using h.nmi, by simp [irqWaiting_cons]⟩

theorem host (h : Latched r history) : Latched r (.host :: history) :=
  ⟨by simpa [nmiWaiting_cons] using h.nmi, by simpa [irqWaiting_cons] using h.irq⟩

theorem reset (hs : s.latches = (false, false)) : Latched s (.reset :: history) := by
  obtain ⟨hirq, hnmi⟩ := Prod.mk.inj hs
  exact ⟨by simp [nmiWaiting_cons, hnmi], by simp [irqWaiting_cons, hirq]⟩

theorem step (h : Latched r history) {past : List Exchange} {operation : Operation}
    {isInstruction : Bool} (hturned : Turned r past s (operation, isInstruction)) :
    Latched s (.step operation :: history) :=
  ⟨by simp [nmiWaiting_cons, hturned.nmi_eq_false],
    by rw [irqWaiting_cons, hturned.irq_iff, h.irq]⟩

end Latched

namespace Arrives

variable {variant : Variant} {β : Type} [HostBus β] {start p : Cpu variant β}
  {history : List Event}

/-- After every history the latches hold what waits, if they did at the start. -/
theorem latched (hstart : Latched start.state []) (h : Arrives start history p) :
    Latched p.state history := by
  -- On the events. The one that is not plain bookkeeping is the step, and it is a turn.
  induction h with
  | start => exact hstart
  | request source _ ih =>
    cases source with
    | nmi => exact ih.requestNmi
    | irq => exact ih.requestIrq
  | withdraw _ ih => exact ih.withdraw
  | reset _ hreset _ => exact .reset (Cpu.latches_reset hreset)
  | step _ hstep hlast ih =>
    obtain ⟨_, hturned⟩ := Cpu.turned_of_last hstep hlast
    exact ih.step hturned
  | host bus _ ih => exact ih.host

theorem latched_new {bus : β} (h : Arrives (Cpu.new variant bus) history p) :
    Latched p.state history :=
  h.latched ⟨iff_of_false Bool.false_ne_true not_waiting_nil,
    iff_of_false Bool.false_ne_true not_waiting_nil⟩

end Arrives

/-! ## The law of the next step -/

/-- How a completed step follows from the history before it. -/
structure Cpu.StepLaw {variant : Variant} {β : Type} [HostBus β] (history : List Event)
    (p : Cpu variant β) (operation : Operation) (q : Cpu variant β) : Prop where
  /-- A non-maskable interrupt is taken if and only if one waits. -/
  nmi : operation = .interrupt .nmi ↔ NmiWaiting history
  /-- Otherwise a maskable one is taken if and only if one waits and is not masked. -/
  irq : operation = .interrupt .irq ↔
    ¬ NmiWaiting history ∧ p.state.status.interrupt = false ∧ IrqWaiting history
  /-- The handler is that in the vector of the interrupt. No instruction is executed. -/
  interrupt : ∀ source, operation = .interrupt source →
    Vectored (match source with | .nmi => 0xFFFA | .irq => 0xFFFE) p.stepExchanges q.state ∧
      q.clock.instructions = p.clock.instructions
  /-- Otherwise one instruction is executed. It leaves the latches alone, and a break goes to the
  vector of maskable interrupts. -/
  instruction : ∀ i cycles, operation = .instruction i cycles →
    q.clock.instructions = p.clock.instructions + 1 ∧ q.state.latches = p.state.latches ∧
      (i.descriptor.mnemonic = .brk → Vectored 0xFFFE p.stepExchanges q.state)
  /-- A non-maskable request does not outlast the step. -/
  served : q.state.nmi = false
  /-- A maskable request outlasts every step but the one that takes it. -/
  kept : q.state.irq = true ↔ operation ≠ .interrupt .irq ∧ p.state.irq = true

/-- What the next step does follows from the history since power-up. -/
theorem Arrives.step_lawful {variant : Variant} {β : Type} [HostBus β] {bus : β}
    {history : List Event} {p q : Cpu variant β} {cycles : Int} {told : List Notice}
    (h : Arrives (Cpu.new variant bus) history p)
    (hstep : Processor.step p = ⟨.ok cycles, q, told⟩) :
    Latched p.state history ∧
      ∃ operation, q.last = some operation ∧ Cpu.StepLaw history p operation q := by
  -- The turn looks at the latches, and by the invariant these are what the history says.
  have hlatched := h.latched_new
  obtain ⟨operation, isInstruction, hlast, -, hclock, hturned⟩ := Cpu.step_turned hstep
  refine ⟨hlatched, operation, hlast, ?_⟩
  constructor
  case nmi => rw [hturned.interrupt_iff, Interrupts.due?_eq_nmi, hlatched.nmi]
  case irq =>
    rw [hturned.interrupt_iff, Interrupts.due?_eq_irq, hlatched.irq, ← hlatched.nmi,
      Bool.not_eq_true]
  case interrupt =>
    intro source h
    subst h
    obtain ⟨rfl, -, hvectored, -⟩ := hturned
    refine ⟨?_, by rw [hclock]; rfl⟩
    cases source <;> exact hvectored
  case instruction =>
    intro i cycles h
    subst h
    obtain ⟨rfl, -, hlatches, -, hbreak⟩ := hturned
    exact ⟨by rw [hclock]; rfl, hlatches, hbreak⟩
  case served => exact hturned.nmi_eq_false
  case kept => exact hturned.irq_iff

/-- A request before the first step. -/
theorem step_lawful_request :
    let p := (Cpu.request .nmi (Cpu.new .nmos FlatBus.zeroed)).machine
    ∃ operation, Arrives (Cpu.new .nmos FlatBus.zeroed) [.request .nmi] p ∧
      (Processor.step p).machine.last = some operation ∧ operation = .interrupt .nmi := by
  intro p
  have h : Arrives (Cpu.new .nmos FlatBus.zeroed) [.request .nmi] p := .request .nmi .start
  have hstep : Processor.step p =
      ⟨.ok 7, (Processor.step p).machine, (Processor.step p).notices⟩ := rfl
  obtain ⟨-, operation, hlast, hlaw⟩ := h.step_lawful hstep
  exact ⟨operation, h, hlast, hlaw.nmi.mpr ⟨[], [], rfl, List.forall_mem_nil _⟩⟩

end Micro6502
