import Micro6502.Bus.Flat
import Micro6502.Proofs.Cells
import Micro6502.Processor.Adder
import Micro6502.Proofs.Conduct
import Micro6502.Proofs.Running

/-!
# The accounts of a processor

A processor counts its cycles and its instructions, and keeps its last operation. Whatever its
architecture does, and wherever calls are refused, the counts are the sums of what the completed
steps gave, and nothing that was refused is in them. A part of an architecture that gives up halfway
is one that asks for an access which its host refuses, so hosts that refuse at will are all failures
that there can be.

## Contents

- `Completed` and `Entry`, and `Processor.Completes`, a step and what it has completed
- `Processor.Row`, steps in a row, as in a run
- `Processor.Books`, the calls of a processor and what they enter into the books
- `Processor.Serves` and `Processor.Leads`, what a host may ask, and where that leads
- `Processor.Balanced`, counts that agree with the books, with `Priced`, what a reset costs
- `Processor.books_balance`
-/

namespace Micro6502

/-! ## Books -/

/-- A completed step: what it has completed, the cycles that it gave, and whether it executed an
instruction rather than enter an interrupt. -/
structure Completed (A : Architecture) where
  operation : A.Operation
  cycles : Int
  isInstruction : Bool

/-- What is entered into the books. -/
inductive Entry (A : Architecture) where
  | step (completed : Completed A)
  | reset

namespace Entry

variable {A : Architecture}

/-- The cycles of an entry, where a reset has a price. -/
def cycles (price : Int) : Entry A → Int
  | step completed => completed.cycles
  | reset => price

def isInstruction : Entry A → Bool
  | step completed => completed.isInstruction
  | reset => false

def operation? : Entry A → Option A.Operation
  | step completed => some completed.operation
  | reset => none

/-- The cycles of all entries. -/
def total (price : Int) : List (Entry A) → Int
  | [] => 0
  | entry :: book => entry.cycles price + total price book

theorem total_append (price : Int) (later earlier : List (Entry A)) :
    total price (later ++ earlier) = total price later + total price earlier := by
  induction later with
  | nil => simp [total]
  | cons entry later ih =>
    rw [List.cons_append, total, total, ih]
    omega

end Entry

namespace Processor

variable {A : Architecture} {β : Type}

/-- The counts of a processor since the start agree with the books. -/
structure Balanced (price : Int) (start : Processor A β) (book : List (Entry A))
    (p : Processor A β) : Prop where
  total : p.clock.total = start.clock.total + Entry.total price book
  instructions : p.clock.instructions =
    start.clock.instructions + book.countP Entry.isInstruction
  /-- The last operation is that of the latest completed step. -/
  last : p.last = (book.findSome? Entry.operation?).or start.last
  /-- The cycles of an operation are what its step gave. -/
  cycles : ∀ completed, .step completed ∈ book → A.cycles completed.operation = completed.cycles

namespace Balanced

variable {price : Int} {p q r : Processor A β}

protected theorem refl : Balanced price p [] p where
  total := by simp [Entry.total]
  instructions := by simp
  last := by simp
  cycles := nofun

/-- What is neither counted nor kept is not in the books. -/
theorem same {book : List (Entry A)} (h : Balanced price p book q) (hclock : r.clock = q.clock)
    (hlast : r.last = q.last) : Balanced price p book r where
  total := by rw [hclock, h.total]
  instructions := by rw [hclock, h.instructions]
  last := by rw [hlast, h.last]
  cycles := h.cycles

theorem of_charge {completed : Completed A}
    (hclock : q.clock = p.clock.charge completed.cycles completed.isInstruction)
    (hlast : q.last = some completed.operation)
    (hcycles : A.cycles completed.operation = completed.cycles) :
    Balanced price p [.step completed] q where
  total := by simp [hclock, Clock.charge, Entry.total, Entry.cycles]
  instructions := by
    cases h : completed.isInstruction <;> simp [hclock, Clock.charge, Entry.isInstruction, h]
  last := by simp [hlast, Entry.operation?]
  cycles other hother := by
    obtain rfl := Entry.step.inj (List.mem_singleton.mp hother)
    exact hcycles

theorem of_reset (hclock : q.clock = p.clock.charge price false) (hlast : q.last = p.last) :
    Balanced price p [.reset] q where
  total := by simp [hclock, Clock.charge, Entry.total, Entry.cycles]
  instructions := by simp [hclock, Clock.charge, Entry.isInstruction]
  last := by simp [hlast, Entry.operation?]
  cycles _ hother := nomatch List.mem_singleton.mp hother

/-- Books that follow each other are one book. -/
theorem trans {earlier later : List (Entry A)} (h : Balanced price p earlier q)
    (h' : Balanced price q later r) : Balanced price p (later ++ earlier) r where
  total := by
    rw [h'.total, h.total, Entry.total_append]
    omega
  instructions := by
    rw [h'.instructions, h.instructions, List.countP_append]
    omega
  last := by rw [h'.last, h.last, List.findSome?_append, Option.or_assoc]
  cycles completed hcompleted := (List.mem_append.mp hcompleted).elim (h'.cycles _) (h.cycles _)

end Balanced

/-! ## Calls -/

variable [HostBus β]

/-- The step from `p` is completed and leads to `q`. If the architecture has taken an interrupt,
then that is the operation; otherwise it is the instruction that was executed from there. -/
inductive Completes (p : Processor A β) : Completed A → Processor A β → Prop where
  | interrupt {operation m told cycles q told'}
      (service : (A.service p.state).run (HostBus.takeActivity p.bus).2 =
        ⟨.ok (some operation), m, told⟩)
      (step : step p = ⟨.ok cycles, q, told'⟩) : Completes p ⟨operation, cycles, false⟩ q
  | instruction {bus state told operation m told' cycles q told''}
      (service : (A.service p.state).run (HostBus.takeActivity p.bus).2 =
        ⟨.ok none, (bus, state), told⟩)
      (instruction : (A.instruction state).run bus = ⟨.ok operation, m, told'⟩)
      (step : step p = ⟨.ok cycles, q, told''⟩) : Completes p ⟨operation, cycles, true⟩ q

/-- Steps in a row, which start when some cycles have passed. The latest is in front. When the row
ends, all cycles are given; why it ends is left open. A refused step ends it with the fault. -/
inductive Row : Int → Processor A β → List (Completed A) → Except Fault Int → Processor A β →
    Prop where
  | ended {elapsed p} : Row elapsed p [] (.ok elapsed) p
  | step {elapsed p completed q later result r} : p.Completes completed q →
      Row (elapsed + completed.cycles) q later result r →
      Row elapsed p (later ++ [completed]) result r
  | refused {elapsed p fault q told} : Processor.step p = ⟨.error fault, q, told⟩ →
      Row elapsed p [] (.error fault) q

/-- The processors to which calls lead, and the books about them, the latest entry in front. Calls
may be refused, and then nothing is entered. Between two calls the host may put the bus and the
state as it likes. -/
inductive Books (reset : Call (Processor A β) Unit) (start : Processor A β) :
    List (Entry A) → Processor A β → Prop where
  | start : Books reset start [] start
  | step {book p completed q} : Books reset start book p → p.Completes completed q →
      Books reset start (.step completed :: book) q
  | stepRefused {book p fault q told} : Books reset start book p →
      Processor.step p = ⟨.error fault, q, told⟩ → Books reset start book q
  | trace {book p completed q written r told} : Books reset start book p →
      p.Completes completed q → Processor.trace p = ⟨.ok written, r, told⟩ →
      Books reset start (.step completed :: book) r
  | traceRefused {book p fault q told} : Books reset start book p →
      Processor.trace p = ⟨.error fault, q, told⟩ → Books reset start book q
  | run {book p row result q} : Books reset start book p → Row 0 p row result q →
      Books reset start (row.map .step ++ book) q
  | reset {book p q told} : Books reset start book p → reset p = ⟨.ok (), q, told⟩ →
      Books reset start (.reset :: book) q
  | resetRefused {book p fault q told} : Books reset start book p →
      reset p = ⟨.error fault, q, told⟩ → Books reset start book q
  | restore {book p} (state : A.State) : Books reset start book p →
      Books reset start book (Processor.restore state p).machine
  | outside {book p} (bus : β) (state : A.State) : Books reset start book p →
      Books reset start book { p with bus := bus, state := state }

/-- What a host asks of a processor: a call, or to put the bus and the state as it likes. -/
inductive Request (A : Architecture) (β : Type) where
  | step
  | trace
  | run (budget : Int)
  | reset
  | restore (state : A.State)
  | outside (bus : β) (state : A.State)

/-- The processor when a request has been answered, also if it has been refused. A run that goes on
for ever is never answered. -/
def Serves (reset : Call (Processor A β) Unit) (p : Processor A β) :
    Request A β → Processor A β → Prop
  | .step, q => q = (step p).machine
  | .trace, q => q = (trace p).machine
  | .run budget, q => ∃ result told, Runs budget 0 p ⟨result, q, told⟩
  | .reset, q => q = (reset p).machine
  | .restore state, q => q = (restore state p).machine
  | .outside bus state, q => q = { p with bus := bus, state := state }

/-- Where requests lead, each answered before the next is made. -/
inductive Leads (reset : Call (Processor A β) Unit) :
    Processor A β → List (Request A β) → Processor A β → Prop where
  | nothing {p} : Leads reset p [] p
  | ask {p request q rest r} : Serves reset p request q → Leads reset q rest r →
      Leads reset p (request :: rest) r

theorem exists_serves (hcosts : EveryStepCosts A β) (reset : Call (Processor A β) Unit)
    (p : Processor A β) (request : Request A β) : ∃ q, Serves reset p request q := by
  cases request with
  | run budget =>
    -- The run alone may go on for ever, and here every step takes one off the budget.
    have hlimit : budget - 0 ≤ budget.toNat := by omega
    exact ⟨_, _, _, runs_runFor hcosts p hlimit⟩
  | _ => exact ⟨_, rfl⟩

/-- If no operation is free, all requests are answered. -/
theorem exists_leads (hcosts : EveryStepCosts A β) (reset : Call (Processor A β) Unit)
    (p : Processor A β) (requests : List (Request A β)) : ∃ q, Leads reset p requests q := by
  induction requests generalizing p with
  | nil => exact ⟨p, .nothing⟩
  | cons request rest ih =>
    obtain ⟨q, hserves⟩ := exists_serves hcosts reset p request
    obtain ⟨r, hleads⟩ := ih q
    exact ⟨r, .ask hserves hleads⟩

/-! ## Steps in a row -/

/-- A turn takes an interrupt or executes an instruction from where the service has ended. -/
theorem run_turn (s : A.State) (bus : β) :
    (A.turn s).run bus =
      match (A.service s).run bus with
      | ⟨.ok (some operation), m, told⟩ => ⟨.ok (operation, false), m, told⟩
      | ⟨.ok none, (bus, s), told⟩ =>
        match (A.instruction s).run bus with
        | ⟨.ok operation, m, told'⟩ => ⟨.ok (operation, true), m, told ++ told'⟩
        | ⟨.error fault, m, told'⟩ => ⟨.error fault, m, told ++ told'⟩
      | ⟨.error fault, m, told⟩ => ⟨.error fault, m, told⟩ := by
  show ((A.service s).andThen _).run bus = _
  rw [Dialogue.run_andThen]
  rcases (A.service s).run bus with ⟨_ | _ | operation, ⟨bus', s'⟩, told⟩
    -- The three ways in which a service ends: refused, with no interrupt due, or with one served.
  · rfl
  · show ((A.instruction s').andThen _ |>.run bus').after told = _
    rw [Dialogue.run_andThen]
    rcases hinstruction : (A.instruction s').run bus' with ⟨_ | operation, m, told'⟩ <;>
      simp [hinstruction, Outcome.after, pure, Action.pure, Dialogue.run]
  · simp [Outcome.after, pure, Action.pure, Dialogue.run]

/-- Every completed step has completed something. -/
theorem exists_completes {p q : Processor A β} {cycles : Int} {told : List Notice}
    (h : step p = ⟨.ok cycles, q, told⟩) : ∃ completed, p.Completes completed q ∧
      completed.cycles = cycles := by
  obtain ⟨operation, isInstruction, hturn, -, -⟩ := step_ok h
  rw [run_turn] at hturn
  rcases hservice : (A.service p.state).run (HostBus.takeActivity p.bus).2 with
    ⟨_ | _ | operation', ⟨bus, state⟩, told'⟩
  · -- A turn with a refused part is refused, so that its step is not completed.
    simp [hservice] at hturn
  · rcases hinstruction : (A.instruction state).run bus with ⟨_ | operation', m, told''⟩
    · simp [hservice, hinstruction] at hturn
    · -- No interrupt was due, and the instruction has been executed.
      exact ⟨_, .instruction hservice hinstruction h, rfl⟩
  · exact ⟨_, .interrupt hservice h, rfl⟩

/-- A step counts and keeps what its turn has completed. -/
theorem balanced_of_turn {price : Int} {p q : Processor A β} {operation : A.Operation}
    {isInstruction : Bool} {m : β × A.State} {cycles : Int} {told told' : List Notice}
    (hturn : (A.turn p.state).run (HostBus.takeActivity p.bus).2 =
      ⟨.ok (operation, isInstruction), m, told⟩) (hstep : step p = ⟨.ok cycles, q, told'⟩) :
    Balanced price p [.step ⟨operation, cycles, isInstruction⟩] q := by
  obtain ⟨_, _, hturn', hcycles, hq⟩ := step_ok hstep
  -- The step has made the very turn that is given.
  obtain ⟨rfl, rfl⟩ := Prod.mk.inj (Except.ok.inj (Outcome.mk.inj (hturn.symm.trans hturn')).1)
  refine .of_charge ?_ ?_ hcycles.symm
  · rw [hq, hcycles]
    rfl
  · rw [hq]
    rfl

/-- What a step has completed is counted and kept. -/
theorem Completes.balanced {price : Int} {p q : Processor A β} {completed : Completed A}
    (h : p.Completes completed q) : Balanced price p [.step completed] q := by
  cases h with
  | interrupt hservice hstep => exact balanced_of_turn (by rw [run_turn, hservice]) hstep
  | instruction hservice hinstruction hstep =>
    exact balanced_of_turn (by simp only [run_turn, hservice, hinstruction]; rfl) hstep

/-- A refused step has counted nothing and kept the last operation. -/
theorem step_refused {p q : Processor A β} {fault : Fault} {told : List Notice}
    (h : step p = ⟨.error fault, q, told⟩) : q.clock = p.clock ∧ q.last = p.last := by
  rw [step_eq] at h
  rcases hturn : (A.turn p.state).run (HostBus.takeActivity p.bus).2 with
    ⟨_ | ⟨operation, isInstruction⟩, ⟨bus, state⟩, _⟩
  · rw [hturn] at h
    obtain ⟨-, rfl, -⟩ := Outcome.mk.inj h
    exact ⟨rfl, rfl⟩
  · rw [hturn] at h
    -- A step whose turn has ended well is not refused.
    exact nomatch (Outcome.mk.inj h).1

namespace Row

variable {price elapsed : Int} {p q : Processor A β} {row : List (Completed A)}

theorem balanced {result : Except Fault Int} (h : Row elapsed p row result q) :
    Balanced price p (row.map .step) q := by
  induction h with
  | ended => exact .refl
  | step hcompletes _ ih =>
    rw [List.map_append]
    exact hcompletes.balanced.trans ih
  | refused hstep =>
    obtain ⟨hclock, hlast⟩ := step_refused hstep
    exact Balanced.refl.same hclock hlast

/-- A row that ends by itself gives the cycles that it started with and those since then. -/
theorem total_eq {n : Int} (h : Row elapsed p row (.ok n) q) :
    n - elapsed = q.clock.total - p.clock.total := by
  -- By induction on the row, in which only the last result is `n`.
  generalize hresult : (.ok n : Except Fault Int) = result at h
  induction h with
  | ended =>
    obtain rfl := Except.ok.inj hresult
    omega
  | step hcompletes _ ih =>
    have hrest := ih hresult
    -- The price of a reset does not matter, for a step resets nothing.
    have hbalanced : Balanced 0 _ _ _ := hcompletes.balanced
    have htotal := hbalanced.total
    simp only [Entry.total, Entry.cycles] at htotal
    omega
  | refused => exact nomatch hresult

/-- A run is a row of steps. -/
theorem of_runs {budget : Int} {o : Outcome (Processor A β) Int} (h : Runs budget elapsed p o) :
    ∃ row, Row elapsed p row o.result o.machine := by
  induction h with
  -- A spent budget leaves the rest of the row empty.
  | spent _ => exact ⟨[], .ended⟩
  | step _ hstep _ ih =>
    obtain ⟨completed, hcompletes, rfl⟩ := exists_completes hstep
    obtain ⟨row, hrow⟩ := ih
    exact ⟨row ++ [completed], .step hcompletes hrow⟩
  | refused _ hstep => exact ⟨[], .refused hstep⟩

end Row

/-! ## All calls -/

theorem Completes.step_eq {p q : Processor A β} {completed : Completed A}
    (h : p.Completes completed q) : ∃ told, step p = ⟨.ok completed.cycles, q, told⟩ := by
  cases h with
  | interrupt _ hstep => exact ⟨_, hstep⟩
  | instruction _ _ hstep => exact ⟨_, hstep⟩

/-- A trace is counted as its step. -/
theorem Completes.balanced_trace {price : Int} {p q r : Processor A β} {completed : Completed A}
    {written : Trace A} {told : List Notice} (h : p.Completes completed q)
    (htrace : trace p = ⟨.ok written, r, told⟩) : Balanced price p [.step completed] r := by
  obtain ⟨_, hstep⟩ := h.step_eq
  -- A trace ends as its step does, and both cannot be completed and refused.
  rcases trace_eq p with ⟨_, _, _, hstep', -, htrace'⟩ | ⟨_, _, _, hstep', -⟩
  · obtain ⟨-, rfl, -⟩ := Outcome.mk.inj (hstep.symm.trans hstep')
    obtain ⟨-, rfl, -⟩ := Outcome.mk.inj (htrace.symm.trans htrace')
    exact h.balanced.same rfl rfl
  · exact nomatch (Outcome.mk.inj (hstep.symm.trans hstep')).1

theorem trace_refused {p q : Processor A β} {fault : Fault} {told : List Notice}
    (h : trace p = ⟨.error fault, q, told⟩) : q.clock = p.clock ∧ q.last = p.last := by
  rcases trace_eq p with ⟨_, _, _, -, -, htrace⟩ | ⟨_, _, _, hstep, htrace⟩
  · exact nomatch (Outcome.mk.inj (h.symm.trans htrace)).1
  · obtain ⟨-, rfl, -⟩ := Outcome.mk.inj (h.symm.trans htrace)
    exact step_refused hstep

omit [HostBus β] in
/-- The reset of an architecture costs a price when it is completed, and nothing when it is
refused. -/
structure Priced (reset : Call (Processor A β) Unit) (price : Int) : Prop where
  completed : ∀ p q told, reset p = ⟨.ok (), q, told⟩ →
    q.clock = p.clock.charge price false ∧ q.last = p.last
  refused : ∀ p fault q told, reset p = ⟨.error fault, q, told⟩ →
    q.clock = p.clock ∧ q.last = p.last

omit [HostBus β] in
/-- The reset that all processors have in common is free. -/
theorem priced_reset : Priced (reset : Call (Processor A β) Unit) 0 where
  completed p q told h := by
    obtain ⟨-, rfl, -⟩ := Outcome.mk.inj h
    refine ⟨?_, rfl⟩
    -- To charge nothing leaves the clock as it is.
    show p.clock = p.clock.charge 0 false
    simp [Clock.charge]
  refused p fault q told h := nomatch (Outcome.mk.inj h).1

/-- The counts agree with the books after all calls. -/
theorem Books.balanced {reset : Call (Processor A β) Unit} {price : Int}
    (hreset : Priced reset price) {start q : Processor A β} {book : List (Entry A)}
    (h : Books reset start book q) : Balanced price start book q := by
  induction h with
  | start => exact .refl
  | step _ hcompletes ih => exact ih.trans hcompletes.balanced
  -- What is refused adds no entry, and the counts have not moved either.
  | stepRefused _ hstep ih =>
    obtain ⟨hclock, hlast⟩ := step_refused hstep
    exact ih.same hclock hlast
  | trace _ hcompletes htrace ih => exact ih.trans (hcompletes.balanced_trace htrace)
  | traceRefused _ htrace ih =>
    obtain ⟨hclock, hlast⟩ := trace_refused htrace
    exact ih.same hclock hlast
  | run _ hrow ih => exact ih.trans hrow.balanced
  | reset _ hcall ih =>
    obtain ⟨hclock, hlast⟩ := hreset.completed _ _ _ hcall
    exact ih.trans (.of_reset hclock hlast)
  | resetRefused _ hcall ih =>
    obtain ⟨hclock, hlast⟩ := hreset.refused _ _ _ _ hcall
    exact ih.same hclock hlast
  -- The state and the bus are not counted.
  | restore state _ ih => exact ih.same rfl rfl
  | outside bus state _ ih => exact ih.same rfl rfl

namespace Books

variable {reset : Call (Processor A β) Unit} {start p : Processor A β} {book : List (Entry A)}

/-- After every step there are books again, and likewise after the other calls. -/
theorem exists_step (h : Books reset start book p) :
    ∃ book, Books reset start book (Processor.step p).machine := by
  rcases hstep : Processor.step p with ⟨fault | cycles, q, told⟩
  · -- After a refusal the books are the old ones.
    exact ⟨book, h.stepRefused hstep⟩
  · obtain ⟨completed, hcompletes, -⟩ := exists_completes hstep
    exact ⟨_, h.step hcompletes⟩

theorem exists_trace (h : Books reset start book p) :
    ∃ book, Books reset start book (Processor.trace p).machine := by
  rcases trace_eq p with ⟨_, _, _, hstep, -, htrace⟩ | ⟨_, _, _, -, htrace⟩
  · obtain ⟨completed, hcompletes, -⟩ := exists_completes hstep
    rw [htrace]
    exact ⟨_, h.trace hcompletes htrace⟩
  · rw [htrace]
    exact ⟨book, h.traceRefused htrace⟩

theorem exists_run (h : Books reset start book p) {budget : Int}
    {o : Outcome (Processor A β) Int} (hruns : Runs budget 0 p o) :
    ∃ book, Books reset start book o.machine := by
  obtain ⟨row, hrow⟩ := Row.of_runs hruns
  exact ⟨_, h.run hrow⟩

theorem exists_reset (h : Books reset start book p) :
    ∃ book, Books reset start book (reset p).machine := by
  rcases hreset : reset p with ⟨fault | _, q, told⟩
  · exact ⟨book, h.resetRefused hreset⟩
  · exact ⟨_, h.reset hreset⟩

theorem exists_serve (h : Books reset start book p) {request : Request A β} {q : Processor A β}
    (hserves : Serves reset p request q) : ∃ book, Books reset start book q := by
  cases request with
  | step => exact hserves ▸ h.exists_step
  | trace => exact hserves ▸ h.exists_trace
  -- A run that is answered has come to its end.
  | run budget =>
    obtain ⟨result, told, hruns⟩ := hserves
    exact h.exists_run hruns
  | reset => exact hserves ▸ h.exists_reset
  | restore state => exact hserves ▸ ⟨book, h.restore state⟩
  | outside bus state => exact hserves ▸ ⟨book, h.outside bus state⟩

/-- However a host goes on, there are books about it. -/
theorem exists_of_leads (h : Books reset start book p) {requests : List (Request A β)}
    {q : Processor A β} (hleads : Leads reset p requests q) :
    ∃ book, Books reset start book q := by
  induction hleads generalizing book with
  | nothing => exact ⟨book, h⟩
  | ask hserves _ ih =>
    obtain ⟨_, hserved⟩ := h.exists_serve hserves
    exact ih hserved

end Books

end Processor

namespace Cpu

variable {variant : Variant} {β : Type} [HostBus β]

/-- A reset reads the vector, and only then are its cycles counted. -/
theorem reset_eq (p : Cpu variant β) :
    reset p =
      match (Interrupts.reset Registers.initial).run p.bus with
      | ⟨.ok (), (bus, state), told⟩ =>
        ⟨.ok (), { p with
          bus := bus, state := state, clock := p.clock.charge Interrupts.resetCycles false }, told⟩
      | ⟨.error fault, (bus, state), told⟩ =>
        ⟨.error fault, { p with bus := bus, state := state }, told⟩ := by
  simp only [reset, Call.bind_apply, Processor.reset, Processor.modify, Processor.perform,
    Outcome.mapMachine]
  -- The cycles are charged in the one case in which the vector could be read.
  rcases (Interrupts.reset Registers.initial).run p.bus with ⟨_ | _, ⟨bus, state⟩, _⟩ <;>
    simp [Outcome.after]

/-- The reset of the family costs its cycles. -/
theorem priced_reset :
    Processor.Priced (reset : Call (Cpu variant β) Unit) Interrupts.resetCycles where
  completed p q told h := by
    rw [reset_eq] at h
    rcases hrun : (Interrupts.reset Registers.initial).run p.bus with ⟨_ | _, ⟨bus, state⟩, _⟩
    · rw [hrun] at h
      exact nomatch (Outcome.mk.inj h).1
    · rw [hrun] at h
      obtain ⟨-, rfl, -⟩ := Outcome.mk.inj h
      exact ⟨rfl, rfl⟩
  refused p fault q told h := by
    rw [reset_eq] at h
    rcases hrun : (Interrupts.reset Registers.initial).run p.bus with ⟨_ | _, ⟨bus, state⟩, _⟩
    · rw [hrun] at h
      obtain ⟨-, rfl, -⟩ := Outcome.mk.inj h
      exact ⟨rfl, rfl⟩
    · rw [hrun] at h
      exact nomatch (Outcome.mk.inj h).1

end Cpu

/-- The accounts are right, whatever the architecture and wherever it is refused.

However a host asks, there are books about it: in them are the completed steps, those of runs and
traces included, with the cycles that each of them gave, and the completed resets; what was refused
or restored is not. All cycles are the sum of the entries, where a reset that all processors have is
free and that of the family costs seven. The instructions are the completed steps that did not enter
an interrupt, and the last operation is that of the latest step, with its cycles. A run is a row of
steps, and one that ends gives the cycles that it added. If no operation is free, then every run
ends, and so all requests are answered. -/
theorem Processor.books_balance :
    (∀ (A : Architecture) (β : Type) [HostBus β] reset (start q : Processor A β)
      (requests : List (Request A β)), Leads reset start requests q →
      ∃ book, Books reset start book q) ∧
    (∀ (A : Architecture) (β : Type) [HostBus β] (start q : Processor A β) book,
      Books Processor.reset start book q → Balanced 0 start book q) ∧
    (∀ (variant : Variant) (β : Type) [HostBus β] (start q : Cpu variant β) book,
      Books Cpu.reset start book q → Balanced 7 start book q) ∧
    (∀ (A : Architecture) (β : Type) [HostBus β] budget (p q : Processor A β) result told,
      Runs budget 0 p ⟨result, q, told⟩ → ∃ row, Row 0 p row result q) ∧
    (∀ (A : Architecture) (β : Type) [HostBus β] (p q : Processor A β) row n,
      Row 0 p row (.ok n) q → n = q.clock.total - p.clock.total) ∧
    (∀ (A : Architecture) (β : Type) [HostBus β], EveryStepCosts A β →
      ∀ reset (p : Processor A β) requests, ∃ q, Leads reset p requests q) := by
  refine ⟨fun A β _ reset start q requests h => Books.start.exists_of_leads h,
    fun A β _ start q book h => h.balanced priced_reset,
    fun variant β _ start q book h => h.balanced Cpu.priced_reset,
    fun A β _ budget p q result told h => Row.of_runs h, fun A β _ p q row n h => ?_,
    fun A β _ hcosts reset p requests => exists_leads hcosts reset p requests⟩
  -- A run starts its row with no cycles passed.
  have htotal := h.total_eq
  omega

/-- An adding machine that finds no memory at first, and a processor that runs two breaks. -/
theorem Processor.books_balance_refused :
    let bare : Processor adder Bus := Processor.new adder (.empty none)
    let zeroed : Cpu .nmos FlatBus := Cpu.new .nmos FlatBus.zeroed
    let requests : List (Request adder Bus) :=
      [.step, .outside Bus.ram bare.state, .reset, .run 2, .trace]
    (∃ book q, Leads Processor.reset bare requests q ∧ Books Processor.reset bare book q) ∧
    (∃ completed q, Books Processor.reset bare [.step completed, .reset] q ∧
      Balanced 0 bare [.step completed, .reset] q ∧ q.clock.total = 1) ∧
    (∃ row q, Books Cpu.reset zeroed (List.map .step row ++ [.reset]) q ∧
      Balanced 7 zeroed (List.map .step row ++ [.reset]) q ∧ q.clock.total = 21) ∧
    ∃ row q told, Runs 8 0 zeroed ⟨.ok 14, q, told⟩ ∧ Row 0 zeroed row (.ok 14) q ∧
      14 = q.clock.total - zeroed.clock.total := by
  intro bare zeroed requests
  obtain ⟨hbooks, hbase, hfamily, hrun, hrow, hanswered⟩ := books_balance
  refine ⟨?_, ?_, ?_, ?_⟩
  · -- Refused at first, then mended, reset, run and traced.
    obtain ⟨q, hleads⟩ := hanswered _ _ Adder.everyStepCosts Processor.reset bare requests
    obtain ⟨book, h⟩ := hbooks _ _ _ _ _ _ hleads
    exact ⟨book, q, hleads, h⟩
  · -- The refused step is not in the books, but the reset and the step after it are.
    let refused := (Processor.step bare).machine
    let mended : Processor adder Bus := { refused with bus := Bus.ram }
    let fresh := (Processor.reset mended).machine
    have hrefused : Processor.step bare =
        ⟨.error (.unmapped 0), refused, (Processor.step bare).notices⟩ := rfl
    have hstep : Processor.step fresh =
        ⟨.ok 1, (Processor.step fresh).machine, (Processor.step fresh).notices⟩ :=
      Outcome.eq_of_result (by decide +kernel)
    obtain ⟨completed, hcompletes, -⟩ := exists_completes hstep
    have hbooks : Books Processor.reset bare [.step completed, .reset] _ :=
      .step (.reset (.outside Bus.ram refused.state (.stepRefused .start hrefused)) rfl) hcompletes
    exact ⟨completed, _, hbooks, hbase _ _ _ _ _ hbooks, by decide +kernel⟩
  · -- Seven cycles for the reset, and seven for each of two breaks.
    let fresh := (Cpu.reset zeroed).machine
    let after := (Cpu.run 8 fresh).machine
    have hreset : Cpu.reset zeroed = ⟨.ok (), fresh, (Cpu.reset zeroed).notices⟩ := rfl
    have hafter : Cpu.run 8 fresh = ⟨.ok 14, after, (Cpu.run 8 fresh).notices⟩ :=
      Outcome.eq_of_result (by decide +kernel)
    obtain ⟨row, hrow⟩ := hrun _ _ 8 fresh after _ _ (Cpu.runs_iff.mpr hafter)
    have hbooks : Books Cpu.reset zeroed (List.map .step row ++ [.reset]) after :=
      .run (.reset .start hreset) hrow
    exact ⟨row, after, hbooks, hfamily _ _ _ _ _ hbooks, by decide +kernel⟩
  · -- The second break is begun with one cycle left, and is completed.
    have height : Cpu.run 8 zeroed =
        ⟨.ok 14, (Cpu.run 8 zeroed).machine, (Cpu.run 8 zeroed).notices⟩ :=
      Outcome.eq_of_result (by decide +kernel)
    have hruns := Cpu.runs_iff.mpr height
    obtain ⟨row, h⟩ := hrun _ _ 8 zeroed _ _ _ hruns
    exact ⟨row, _, _, hruns, h, hrow _ _ _ _ _ _ h⟩

end Micro6502
