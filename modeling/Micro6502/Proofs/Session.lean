import Micro6502.Bus.Mapped
import Micro6502.Proofs.Invariant
import Micro6502.Proofs.Simulation

/-!
# Sessions

A host calls a processor and its bus, one call after the other and in any order. A call that is
refused leaves the machine as it is then, and the next call goes on from there.

## Contents

- `Bus.Request`, what a host can call of a bus of memories, `Bus.Demand` with memories that are
  registered again, and `Access.make` for any bus
- `Command` and `Reply`, what it can call of a processor and of the bus behind it
- `Cpu.session`, the replies to a list of commands and the machine after them
- `Cpu.obey_keeps`, what a bus keeps under all commands
- `Cpu.session_relates`, sessions of two machines side by side
-/

namespace Micro6502

/-! ## Calls of the bus -/

/-- What a host can call of a bus of memories. A memory to register is a fresh one. -/
inductive Bus.Request where
  | read (a : Int)
  | look (a : Int)
  | readWord (a : Int)
  | write (a data : Int)
  | load (a data : Int)
  | loadBytes (a : Int) (bytes : List Byte)
  | register (first last : Int) (kind : MemoryKind) (size fill : Int)
  | takeActivity

/-- What a bus answers to a request. -/
inductive Bus.Answer where
  | done
  | byte (b : Byte)
  | word (w : Address)
  | activity (accesses : List Activity)

/-- Calls the bus. -/
def Bus.Request.call : Bus.Request → Call Bus Bus.Answer
  | read a => do return .byte (← Bus.read a)
  | look a => do return .byte (← Bus.look a)
  | readWord a => do return .word (← HostBus.readWord a)
  | write a data => do
    Bus.write a data
    return .done
  | load a data => do
    Bus.load a data
    return .done
  | loadBytes a bytes => do
    Bus.loadBytes a bytes
    return .done
  | register first last kind size fill =>
    match Device.makeMemory? kind size fill with
    | .ok device => do
      Bus.register first last (.fresh device)
      return .done
    | .error fault => Call.fail fault
  | takeActivity => fun bus =>
    let (accesses, bus) := HostBus.takeActivity bus
    ⟨.ok (.activity accesses), bus, []⟩

/-- What a host can call of a bus of memories if it may also register the memory of a region again,
at more addresses. -/
inductive Bus.Demand where
  | request (x : Bus.Request)
  | again (first last : Int) (region : Nat)

/-- Calls the bus. -/
def Bus.Demand.call : Bus.Demand → Call Bus Bus.Answer
  | request x => x.call
  | again first last region => do
    Bus.register first last (.again region)
    return .done

/-- Makes an access for the host, and gives the byte that was read. -/
def Access.make {β : Type} [HostBus β] : Access → Call β (Option Byte)
  | read a => do return some (← HostBus.read a)
  | write a data => do
    HostBus.write a data
    return none

/-! ## Calls of the processor -/

/-- One step, as it is shown to the host. -/
structure Snapshot where
  line : Listing
  cycles : Int
  /-- All cycles up to here. -/
  total : Int
  activity : List Activity
  state : Registers
  deriving DecidableEq, Repr

/-- What a trace shows. -/
def Trace.snapshot {variant : Variant} (t : Trace (mos variant)) : Snapshot :=
  ⟨t.operation.listing, t.operation.cycles, t.total, t.activity, t.state⟩

/-- What a host can call. The requests to the bus are in `ρ`. -/
inductive Command (ρ : Type) where
  | step
  | run (budget : Int)
  | trace
  | reset
  | request (source : Interrupt)
  | withdraw
  | restore (r : Registers)
  | bus (request : ρ)

/-- What a call gives. The answers of the bus are in `α`. -/
inductive Reply (α : Type) where
  | done
  | cycles (n : Int)
  | snapshot (s : Snapshot)
  | bus (answer : α)

namespace Cpu

variable {variant : Variant} {β ρ α : Type} [HostBus β] (ask : ρ → Call β α)

/-- Calls the processor, or asks its bus. -/
def obey : Command ρ → Call (Cpu variant β) (Reply α)
  | .step => do return .cycles (← Processor.step)
  | .run budget => do return .cycles (← run budget)
  | .trace => do return .snapshot (← Processor.trace).snapshot
  | .reset => do
    reset
    return .done
  | .request source => do
    request source
    return .done
  | .withdraw => do
    withdraw
    return .done
  | .restore r => do
    Processor.restore r
    return .done
  | .bus x => do return .bus (← Processor.onBus (ask x))

/-- Obeys one command after the other, and goes on after a refusal. -/
def session : List (Command ρ) → Cpu variant β → List (Except Fault (Reply α)) × Cpu variant β
  | [], p => ([], p)
  | command :: rest, p =>
    let o := obey ask command p
    let (replies, q) := session rest o.machine
    (o.result :: replies, q)

/-- What every command keeps, a session keeps. -/
theorem session_keeps {inv : Cpu variant β → Prop}
    (h : ∀ command p, inv p → inv (obey ask command p).machine) (commands : List (Command ρ))
    (p : Cpu variant β) (hp : inv p) : inv (session ask commands p).2 := by
  -- It does not matter whether a command was refused.
  induction commands generalizing p with
  | nil => exact hp
  | cons command rest ih => exact ih _ (h command p hp)

/-! ## What all commands keep -/

omit [HostBus β] in
theorem reply_keeps {inv : β → Prop} {call : Call (Cpu variant β) δ}
    (h : Call.Meets (fun p => inv p.bus) call (fun _ q => inv q.bus) fun _ q => inv q.bus)
    (reply : δ → Reply α) {p : Cpu variant β} (hp : inv p.bus) :
    inv ((call >>= fun a => pure (reply a)) p).machine.bus := by
  have hreply : ((call >>= fun a => pure (reply a)) p).Satisfies (fun _ q => inv q.bus)
      (fun _ q => inv q.bus) := (h p hp).bind fun _ _ hq => hq
  exact hreply.machine

/-- What the bus keeps under proper accesses, refused or not, and under what the host asks of it,
it keeps under every command. -/
theorem obey_keeps {inv : β → Prop} (hguards : Guards inv fun _ _ => inv)
    (hask : ∀ x, Call.Meets inv (ask x) (fun _ => inv) fun _ => inv) (command : Command ρ)
    {p : Cpu variant β} (hp : inv p.bus) : inv (obey ask command p).machine.bus := by
  -- Where a call of the processor is refused does not matter to what the bus keeps.
  have hguarded {δ : Type} {call : Call (Cpu variant β) δ}
      (h : Guarded inv (fun _ _ => inv) call) :
      Call.Meets (fun p => inv p.bus) call (fun _ q => inv q.bus) fun _ q => inv q.bus :=
    Call.Meets.mono h (fun _ _ hq => hq) fun _ _ ⟨_, _, hq⟩ => hq
  cases command with
  | step => exact reply_keeps (hguarded (guarded_step hguards)) _ hp
  | run budget => exact reply_keeps (hguarded (guarded_run hguards budget)) _ hp
  | trace => exact reply_keeps (hguarded (guarded_trace hguards)) _ hp
  | reset => exact reply_keeps (hguarded (guarded_reset hguards)) _ hp
  -- These do not touch the bus.
  | request source => exact hp
  | withdraw => exact hp
  | restore r => exact hp
  | bus x => exact reply_keeps (fun q hq => hask x q.bus hq) _ hp

/-- If two machines stay related under every command, with replies that correspond, then so they
do in a session. -/
theorem session_relates {variant' : Variant} {γ α' : Type} [HostBus γ] {ask' : ρ → Call γ α'}
    {R : Cpu variant β → Cpu variant' γ → Prop} {view : Reply α' → Reply α}
    (h : ∀ command, Call.Relates R (obey ask command) (obey ask' command)
      (fun a p b q => a = view b ∧ R p q) R)
    (commands : List (Command ρ)) {p : Cpu variant β} {q : Cpu variant' γ} (hpq : R p q) :
    (session ask commands p).1 = (session ask' commands q).1.map (Except.map view) ∧
      R (session ask commands p).2 (session ask' commands q).2 := by
  -- The machines change with each command, so they vary.
  induction commands generalizing p q with
  | nil => exact ⟨rfl, hpq⟩
  | cons command rest ih =>
    have hobey := h command p q hpq
    unfold session
    generalize obey ask command p = o, obey ask' command q = o' at hobey
    -- A refusal does not end the session, so both cases go on.
    cases hobey with
    | ok told hab =>
      obtain ⟨rfl, h'⟩ := hab
      obtain ⟨hreplies, hrest⟩ := ih h'
      exact ⟨congrArg (_ :: ·) hreplies, hrest⟩
    | error fault told h' =>
      obtain ⟨hreplies, hrest⟩ := ih h'
      exact ⟨congrArg (_ :: ·) hreplies, hrest⟩

end Cpu

end Micro6502
