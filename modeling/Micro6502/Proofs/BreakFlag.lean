import Micro6502.Proofs.Decoded
import Micro6502.Proofs.Effects
import Micro6502.Proofs.StackPage

/-!
# The break flag

Bit 4 of the status byte belongs to the copies on the stack, where it tells a break from a hardware
interrupt. The register itself never has it: what is pulled is arbitrary, but the two instructions
that pull a status drop the bit, and no other instruction touches it.

## Contents

- `Exchange.put?` and `puts`, the writes with their values
- `Operation.PushesStatus`, what an operation pushes for the status
- `always_turn_break`, one turn, and `Cpu.step_break`, one step
- `Cpu.Fresh`, where a history may start, and `Arrives.brk_eq_false`, a whole history
- `Bus.Stored`, with `Cpu.php_stores` and `Cpu.plp_loads`
- `Arrives.break_only_on_stack`
-/

namespace Micro6502

/-! ## What is pushed -/

theorem Status.pack_setBreak (status : Status) :
    { status with brk := true }.pack = status.pack ||| 0x10 := by
  rcases status with ⟨n, v, b, d, i, z, c⟩
  revert n v b d i z c
  decide

/-- Bit 4 is set in no status byte without the flag, and in each that is pushed with it. -/
theorem Status.getLsbD_pack_or (status : Status) : (status.pack ||| 0x10).getLsbD 4 = true := by
  rw [← status.pack_setBreak]
  exact getLsbD_pack _ .brk

/-- The address and the value of a write. -/
def Exchange.put? : Exchange → Option (Int × Int)
  | read _ _ => none
  | write a data => some (a, data)

/-- The writes with their values, the latest in front. -/
def puts (past : List Exchange) : List (Int × Int) := past.filterMap Exchange.put?

theorem puts_eq_nil {past : List Exchange} (h : written past = []) : puts past = [] := by
  refine List.filterMap_eq_nil_iff.mpr fun x hx => ?_
  have hread := List.filterMap_eq_nil_iff.mp h x hx
  cases x with
  | read a b => rfl
  | write a data => exact nomatch hread

/-- Three pushes, of which the last one is that of a status byte. -/
def EntersWith (sp status : Byte) (past : List Exchange) : Prop :=
  ∃ high low, puts past =
    [(Stack.slot (sp - 1 - 1), (status.toNat : Int)), (Stack.slot (sp - 1), low),
      (Stack.slot sp, high)]

/-- What an operation has pushed for the status. The registers are those before the operation. -/
structure Operation.PushesStatus (r : Registers) (past : List Exchange) (operation : Operation) :
    Prop where
  /-- PHP pushes the status with bit 4 set, and nothing else. -/
  php : ∀ i cycles, operation = .instruction i cycles → i.descriptor.mnemonic = .php →
    puts past = [(Stack.slot r.sp, ((r.status.pack ||| 0x10).toNat : Int))]
  /-- So does a break, behind its return address. -/
  brk : ∀ i cycles, operation = .instruction i cycles → i.descriptor.mnemonic = .brk →
    EntersWith r.sp (r.status.pack ||| 0x10) past
  /-- An interrupt pushes the status as it is. -/
  interrupt : ∀ source, operation = .interrupt source → EntersWith r.sp r.status.pack past

/-! ## Turns -/

theorem Stack.pushed_byte (b : Byte) : (b.toNat : Int) % 0x100 = b.toNat := by
  have := b.isLt
  omega

theorem Interrupts.always_enter_puts (vector target : Int) (isBreak : Bool) (r : Registers)
    {past : List Exchange} (hsilent : written past = []) :
    (enter vector target isBreak r).Always (fun _ _ _ => True)
      (fun past' _ _ => EntersWith r.sp { r.status with brk := isBreak }.pack past') past := by
  simp only [enter, Stack.pushWord, Stack.always_push, Action.always_bind, Action.always_get,
    Action.always_modify, Action.always_readWord, true_and, Stack.pushed_byte]
  intro low high
  refine ⟨target / 256 % 0x100, target % 0x100, ?_⟩
  have hputs : puts past = [] := puts_eq_nil hsilent
  simp only [puts, Exchange.put?, List.filterMap_cons] at hputs ⊢
  rw [hputs]

/-- The instructions that pull a status are those that could put the flag into the register. -/
theorem Mnemonic.break_mem_flags {m : Mnemonic} (h : .brk ∈ m.flags) : m = .plp ∨ m = .rti := by
  revert h
  cases m <;> decide

/-- What the four instructions do that have to do with a status on the stack. -/
structure Mnemonic.Breaks (m : Mnemonic) (r : Registers) (past : List Exchange) (s : Registers) :
    Prop where
  pulled : m = .plp ∨ m = .rti → s.status.brk = false
  plp : m = .plp → ∃ b earlier, past = .read (Stack.slot (r.sp + 1)) b :: earlier ∧
    written earlier = [] ∧ s.status = { Status.unpack b with brk := false }
  php : m = .php →
    puts past = [(Stack.slot r.sp, ((r.status.pack ||| 0x10).toNat : Int))] ∧ s.sp = r.sp - 1
  brk : m = .brk → EntersWith r.sp (r.status.pack ||| 0x10) past

/-- All other instructions have nothing to do with it. -/
theorem Mnemonic.Breaks.of_other {m : Mnemonic} {r s : Registers} {past : List Exchange}
    (h : m ∉ [.plp, .rti, .php, .brk]) : m.Breaks r past s := by
  simp only [List.mem_cons, List.not_mem_nil, or_false, not_or] at h
  obtain ⟨hplp, hrti, hphp, hbrk⟩ := h
  exact
    { pulled := fun hm => hm.elim (absurd · hplp) (absurd · hrti)
      plp := (absurd · hplp)
      php := (absurd · hphp)
      brk := (absurd · hbrk) }

theorem Mnemonic.always_breaks (variant : Variant) (o : Operand) (m : Mnemonic) {r : Registers}
    (hnmi : r.nmi = false) (pc : Address) {past : List Exchange} (hsilent : written past = []) :
    (m.execute variant o { r with pc := pc }).Always (fun _ _ _ => True)
      (fun past' s _ => m.Breaks r past' s) past := by
  by_cases hm : m ∈ [.plp, .rti, .php, .brk]
  -- Of the instructions that do not use a status on the stack nothing is said.
  case neg => exact Dialogue.always_of_forall (fun _ _ _ => .of_other hm) _ past
  have hputs : puts past = [] := puts_eq_nil hsilent
  simp only [List.mem_cons, List.not_mem_nil, or_false] at hm
  rcases hm with rfl | rfl | rfl | rfl
  case inl =>
    refine ⟨trivial, fun b => ⟨fun _ => rfl, fun _ => ⟨b, past, rfl, hsilent, rfl⟩, ?_, ?_⟩⟩ <;>
      simp
  case inr.inl =>
    refine ⟨trivial, fun status => ⟨trivial, fun low => ⟨trivial, fun high => ?_⟩⟩⟩
    exact ⟨fun _ => rfl, by simp, by simp, by simp⟩
  case inr.inr.inl =>
    refine ⟨trivial, by simp, by simp, fun _ => ⟨?_, rfl⟩, by simp⟩
    simp only [puts, Exchange.put?, List.filterMap_cons] at hputs ⊢
    rw [hputs, Stack.pushed_byte, Status.pack_setBreak]
  case inr.inr.inr =>
    simp only [execute, Action.always_bind]
    -- No request is pending, so a break pushes for itself.
    rw [Interrupts.softwareBreak_eq_enter (r := { r with pc := pc }) hnmi]
    refine (Interrupts.always_enter_puts _ _ true { r with pc := pc } hsilent).mono
      (fun _ _ _ h => h) ?_
    intro past' _ _ h
    rw [Status.pack_setBreak] at h
    exact ⟨by simp, by simp, by simp, fun _ => h⟩

theorem Operation.PushesStatus.of_interrupt {source : Interrupt} {r : Registers}
    {past : List Exchange} (h : EntersWith r.sp r.status.pack past) :
    (Operation.interrupt source).PushesStatus r past where
  php _ _ hinstruction := nomatch hinstruction
  brk _ _ hinstruction := nomatch hinstruction
  interrupt _ _ := h

theorem Operation.PushesStatus.of_instruction {i : Instruction} {cycles : Int} {r s : Registers}
    {past : List Exchange} (h : i.descriptor.mnemonic.Breaks r past s) :
    (Operation.instruction i cycles).PushesStatus r past where
  php _ _ hinstruction hm := by
    cases hinstruction
    exact (h.php hm).1
  brk _ _ hinstruction hm := by
    cases hinstruction
    exact h.brk hm
  interrupt _ hinterrupt := nomatch hinterrupt

theorem always_turn_breaks (variant : Variant) {r : Registers} (hdue : Interrupts.due? r = none) :
    ((mos variant).turn r).Always (fun _ _ _ => True)
      (fun past s completed => ∀ i cycles, completed.1 = .instruction i cycles →
        i.descriptor.mnemonic.Breaks r past s) [] := by
  have hnmi := Interrupts.nmi_eq_false_of_due? hdue
  exact always_turn_instruction hdue fun i _ _ hdecoded =>
    i.descriptor.mnemonic.always_breaks i.variant i.operand hnmi _ hdecoded.silent

/-- A turn leaves the flag clear, and pushes the status as it should. -/
theorem always_turn_break (variant : Variant) {r : Registers} (hclear : r.status.brk = false) :
    ((mos variant).turn r).Always (fun _ _ _ => True)
      (fun past s completed => s.status.brk = false ∧ completed.1.PushesStatus r past) [] := by
  -- An entry pushes the status; else it is the instruction that may pull one.
  cases hdue : Interrupts.due? r with
  | some source =>
    rw [turn_of_due variant hdue]
    simp only [Action.always_bind, Action.always_modify, Action.always_tell, Action.always_pure]
    have henter : Action.Leaves (fun r : Registers => r.status.brk)
        (Interrupts.enter (Interrupts.vectorOf source) r.pc.toNat false) :=
      Interrupts.leaves_enter (fun _ _ => rfl) (fun _ _ => rfl) (fun _ => rfl) _ _ _
    have hkept := henter (Interrupts.acknowledge source r) []
    have hputs := Interrupts.always_enter_puts (Interrupts.vectorOf source) r.pc.toNat false
      (Interrupts.acknowledge source r) (show written [] = [] from rfl)
    refine (hkept.and hputs).mono (fun _ _ _ _ => trivial) ?_
    intro past s _ h
    obtain ⟨hkept, hputs⟩ := h
    -- The flag is clear, so to push the status without it is to push the status.
    have hsame : { r.status with brk := false } = r.status := by rw [← hclear]
    have hstatus := Interrupts.acknowledge_status source r
    rw [Interrupts.acknowledge_sp, hstatus, hsame] at hputs
    exact ⟨hkept.trans ((congrArg Status.brk hstatus).trans hclear), .of_interrupt hputs⟩
  | none =>
    refine ((always_turn_touches variant hdue).and (always_turn_breaks variant hdue)).mono
      (fun _ _ _ _ => trivial) ?_
    intro past s completed h
    obtain ⟨⟨i, _, cycles, rfl, -, -, -, htouches⟩, hbreaks⟩ := h
    have hbreaks := hbreaks i cycles rfl
    refine ⟨?_, .of_instruction hbreaks⟩
    -- Only what pulls a status could bring the flag in.
    by_cases hflag : .brk ∈ i.descriptor.mnemonic.flags
    · exact hbreaks.pulled (Mnemonic.break_mem_flags hflag)
    · exact (htouches.same.get hflag).trans hclear

/-! ## Histories -/

/-- The processors that a history may start with: one that was just built or just reset, and one
into which registers were put whose status byte has bit 4 clear. -/
inductive Cpu.Fresh {variant : Variant} [HostBus β] : Cpu variant β → Prop where
  | new (bus : β) : Fresh (Cpu.new variant bus)
  | reset {p q told} : Cpu.reset p = ⟨.ok (), q, told⟩ → Fresh q
  | restore {p} {r : Registers} : r.status.pack.getLsbD 4 = false →
      Fresh (Processor.restore r p).machine

section Histories

variable {variant : Variant} {β : Type} [HostBus β] {start p q : Cpu variant β}

theorem Cpu.Fresh.brk_eq_false (h : p.Fresh) : p.state.status.brk = false := by
  cases h with
  | new bus => rfl
  | reset hreset =>
    rw [Cpu.state_reset hreset]
    rfl
  | restore hclear => exact (Status.getLsbD_pack _ .brk).symm.trans hclear

theorem Cpu.step_break {operation : Operation} {cycles : Int} {told : List Notice}
    (hclear : p.state.status.brk = false) (hstep : Processor.step p = ⟨.ok cycles, q, told⟩)
    (hlast : q.last = some operation) :
    q.state.status.brk = false ∧ operation.PushesStatus p.state p.stepExchanges := by
  obtain ⟨_, hreached⟩ := reached_of_last (always_turn_break variant hclear) hstep hlast
  exact hreached

/-- After every history the flag is clear. -/
theorem Arrives.brk_eq_false {history : List Event} (hstart : start.Fresh)
    (h : Arrives start history p) : p.state.status.brk = false := by
  -- Requests and the host leave the flags alone, so only steps and resets are left.
  induction h with
  | start => exact hstart.brk_eq_false
  | request source _ ih => cases source <;> exact ih
  | withdraw _ ih => exact ih
  | reset _ hreset _ => exact (Cpu.Fresh.reset hreset).brk_eq_false
  | step _ hstep hlast ih => exact (Cpu.step_break ih hstep hlast).1
  | host bus _ ih => exact ih

/-- The operation enters a handler. -/
def Operation.EntersHandler : Operation → Prop
  | .interrupt _ => True
  | .instruction i _ => i.descriptor.mnemonic = .brk

/-- Bit 4 of the pushed status tells a break from an interrupt. -/
theorem Operation.PushesStatus.tells {r : Registers} {past : List Exchange} {operation : Operation}
    (h : operation.PushesStatus r past) (hclear : r.status.brk = false)
    (henters : operation.EntersHandler) {status : Byte} (hpushed : EntersWith r.sp status past) :
    status.getLsbD 4 = true ↔ ∀ source, operation ≠ .interrupt source := by
  -- The status is the latest byte that was pushed, so there is one only.
  have hunique {other : Byte} (hother : EntersWith r.sp other past) : status = other := by
    obtain ⟨_, _, hputs⟩ := hpushed
    obtain ⟨_, _, hputs'⟩ := hother
    obtain ⟨hsame, -⟩ := List.cons.inj (hputs.symm.trans hputs')
    exact BitVec.eq_of_toNat_eq (Int.ofNat_inj.mp (Prod.mk.inj hsame).2)
  cases operation with
  | interrupt source =>
    obtain rfl := hunique (h.interrupt source rfl)
    have hbit : r.status.pack.getLsbD 4 = false := (Status.getLsbD_pack _ .brk).trans hclear
    exact iff_of_false (by rw [hbit]; exact Bool.false_ne_true) fun h => h source rfl
  | instruction i cycles =>
    obtain rfl := hunique (h.brk i cycles rfl henters)
    exact iff_of_true (Status.getLsbD_pack_or _) fun _ hinterrupt => nomatch hinterrupt

end Histories

/-! ## There and back -/

/-- What is known of a bus when nothing, or one value, has been written since it was as at the
start. The address is that of a cell of RAM there. -/
structure Bus.Stored (start : Bus) (a : Int) (past : List Exchange) (bus : Bus) : Prop where
  untouched : puts past = [] → bus.cells.cell? = start.cells.cell?
  kept : ∀ data, puts past = [(a, data)] → bus.peek a = .ok (byte data)

theorem Bus.Stored.upholds {start : Bus} {a : Int} {value : Byte}
    (h : start.cells.cell? a = some ⟨.ram, value⟩) :
    Upholds (start.Stored a) fun _ _ _ => True where
  read past c _ bus hbus := by
    refine (read_spec c bus).mono ?_ fun _ _ _ => trivial
    intro b after hread
    obtain ⟨-, rfl⟩ := hread
    exact ⟨hbus.untouched, hbus.kept⟩
  write past c data hproper bus hbus := by
    show (Bus.write c data bus).Satisfies _ _
    -- The one write that counts is the first one, if it goes to the address.
    by_cases hfirst : c = a ∧ puts past = []
    · obtain ⟨rfl, hnothing⟩ := hfirst
      rw [← hbus.untouched hnothing] at h
      obtain ⟨after, hwrite, hcells⟩ := write_ram h (isByte_iff.mpr hproper.2)
      rw [hwrite]
      refine ⟨nofun, fun data' hputs => ?_⟩
      obtain rfl : data = data' := (Prod.mk.inj (List.cons.inj hputs).1).2
      have hcell : after.cells.cell? c = some ⟨.ram, byte data⟩ := by
        rw [hcells]
        exact bus.coherent_cells.cell?_put c _
      exact peek_of_cell? hcell
    · -- After such a write there have been two, or one elsewhere.
      have hother (data' : Int) : puts (.write c data :: past) ≠ [(a, data')] := by
        intro hputs
        obtain ⟨hsame, hnothing⟩ := List.cons.inj hputs
        exact hfirst ⟨(Prod.mk.inj hsame).1, hnothing⟩
      generalize Bus.write c data bus = o
      obtain ⟨_ | _, after, told⟩ := o
      · trivial
      · exact ⟨nofun, fun data' hputs => absurd hputs (hother data')⟩

namespace Cpu

variable {variant : Variant} {p q : Cpu variant Bus} {i : Instruction} {cycles cycles' : Int}
  {told : List Notice}

theorem step_breaks (hstep : Processor.step p = ⟨.ok cycles, q, told⟩)
    (hlast : q.last = some (.instruction i cycles')) :
    i.descriptor.mnemonic.Breaks p.state p.stepExchanges q.state := by
  obtain ⟨_, -, hdue, -⟩ := turned_of_last hstep hlast
  obtain ⟨_, hbreaks⟩ := reached_of_last (always_turn_breaks variant hdue) hstep hlast
  exact hbreaks i cycles' rfl

/-- PHP puts the status with bit 4 set into RAM, below the stack pointer from then on. -/
theorem php_stores {value : Byte}
    (hcell : p.bus.cells.cell? (Stack.slot p.state.sp) = some ⟨.ram, value⟩)
    (hstep : Processor.step p = ⟨.ok cycles, q, told⟩)
    (hlast : q.last = some (.instruction i cycles')) (hm : i.descriptor.mnemonic = .php) :
    q.bus.peek (Stack.slot p.state.sp) = .ok (p.state.status.pack ||| 0x10) ∧
      q.state.sp = p.state.sp - 1 := by
  obtain ⟨hputs, hsp⟩ := (step_breaks hstep hlast).php hm
  have hstored := upheld_step (Bus.Stored.upholds hcell) ⟨fun _ => rfl, nofun⟩ hstep
  have hpeek := hstored.kept _ hputs
  rw [byte_toNat] at hpeek
  exact ⟨hpeek, hsp⟩

/-- PLP takes the status from above the stack pointer, and drops bit 4. -/
theorem plp_loads {b : Byte} (hpeek : p.bus.peek (Stack.slot (p.state.sp + 1)) = .ok b)
    (hstep : Processor.step p = ⟨.ok cycles, q, told⟩)
    (hlast : q.last = some (.instruction i cycles')) (hm : i.descriptor.mnemonic = .plp) :
    q.state.status = { Status.unpack b with brk := false } := by
  obtain ⟨b', earlier, hpast, hnothing, hstatus⟩ := (step_breaks hstep hlast).plp hm
  have htracks := upheld_step (Bus.Tracks.upholds { p.bus with recent := [] }) (.refl rfl) hstep
  rw [hpast] at htracks
  -- Nothing has been written before the read, so it finds what was there before the step.
  have hread := htracks.reads _ b' earlier (List.suffix_refl _) 
    (by rw [hnothing]; exact Bus.elsewhere_nil _ _)
  obtain rfl := Except.ok.inj (hpeek.symm.trans hread)
  exact hstatus

end Cpu

/-- The break flag exists on the stack only.

After every history since a processor was built, reset or given registers without it, bit 4 of the
status byte is clear and bit 5 is set. On from there PHP and the break push the status byte with bit
4 set and an interrupt pushes it as it is, so that bit 4 of what is on the stack tells a break from
an interrupt. And PLP, right after PHP and with RAM in between, leaves the status as it was before
both. -/
theorem Arrives.break_only_on_stack {variant : Variant} :
    (∀ (β : Type) [HostBus β] (start p : Cpu variant β) history, start.Fresh →
      Arrives start history p →
      p.state.status.pack.getLsbD 4 = false ∧ p.state.status.pack.getLsbD 5 = true ∧
      ∀ cycles q told operation, Processor.step p = ⟨.ok cycles, q, told⟩ →
        q.last = some operation →
        operation.PushesStatus p.state p.stepExchanges ∧
        (operation.EntersHandler → ∀ status, EntersWith p.state.sp status p.stepExchanges →
          (status.getLsbD 4 = true ↔ ∀ source, operation ≠ .interrupt source))) ∧
    ∀ (start p q r : Cpu variant Bus) history, start.Fresh → Arrives start history p →
      ∀ value, p.bus.cells.cell? (Stack.slot p.state.sp) = some ⟨.ram, value⟩ →
      ∀ i cycles told i' cycles' told',
        Processor.step p = ⟨.ok cycles, q, told⟩ → q.last = some (.instruction i cycles) →
        i.descriptor.mnemonic = .php →
        Processor.step q = ⟨.ok cycles', r, told'⟩ → r.last = some (.instruction i' cycles') →
        i'.descriptor.mnemonic = .plp → r.state.status = p.state.status := by
  refine ⟨fun β _ start p history hstart h => ?_, ?_⟩
  · have hclear := h.brk_eq_false hstart
    refine ⟨(Status.getLsbD_pack _ .brk).trans hclear, Status.getLsbD_pack_five _, ?_⟩
    intro cycles q told operation hstep hlast
    obtain ⟨-, hpushes⟩ := Cpu.step_break hclear hstep hlast
    exact ⟨hpushes, fun henters status hpushed => hpushes.tells hclear henters hpushed⟩
  · intro start p q r history hstart h value hcell i cycles told i' cycles' told' hphp hlast hi hplp
      hlast' hi'
    have hclear := h.brk_eq_false hstart
    obtain ⟨hpeek, hsp⟩ := Cpu.php_stores hcell hphp hlast hi
    have hback : q.state.sp + 1 = p.state.sp := by rw [hsp, BitVec.sub_add_cancel]
    rw [← hback, ← Status.pack_setBreak] at hpeek
    rw [Cpu.plp_loads hpeek hplp hlast' hi', Status.unpack_pack, ← hclear]

/-- PHP and PLP at power-up, where the status on the stack has one bit more than the register. -/
theorem Arrives.break_only_on_stack_php :
    let bytes := ((Bytes.uniform 0).set 16 0 0x08).set 16 1 0x28
    let p := Cpu.new .nmos (Bus.ramOf bytes)
    ∃ q r : Cpu .nmos Bus, p.Fresh ∧ Arrives p [] p ∧
      p.state.status.pack.getLsbD 4 = false ∧ q.bus.peek (Stack.slot p.state.sp) = .ok 0x34 ∧
      r.state.status = p.state.status ∧ r.state.sp = p.state.sp := by
  intro bytes p
  let q := (Processor.step p).machine
  let r := (Processor.step q).machine
  have hphp : Processor.step p = ⟨.ok 3, q, (Processor.step p).notices⟩ :=
    Outcome.eq_of_result (by decide +kernel)
  have hplp : Processor.step q = ⟨.ok 4, r, (Processor.step q).notices⟩ :=
    Outcome.eq_of_result (by decide +kernel)
  have hlast : q.last = some (.instruction
      ⟨0x08, .nmos, ⟨.php, .implied, 3⟩, ⟨.implied, .nowhere, false, []⟩⟩ 3) := by decide +kernel
  have hlast' : r.last = some (.instruction
      ⟨0x28, .nmos, ⟨.plp, .implied, 4⟩, ⟨.implied, .nowhere, false, []⟩⟩ 4) := by decide +kernel
  have hfresh : p.Fresh := .new _
  have hcell : p.bus.cells.cell? (Stack.slot p.state.sp) = some ⟨.ram, 0⟩ := by
    decide +kernel
  have hpeek : q.bus.peek (Stack.slot p.state.sp) = .ok 0x34 := Bus.peek_eq_ok (by decide +kernel)
  have hsp : r.state.sp = p.state.sp := by decide +kernel
  have hclear := (Arrives.break_only_on_stack.1 Bus p p [] hfresh .start).1
  have hback :=
    Arrives.break_only_on_stack.2 p p q r [] hfresh .start 0 hcell _ 3 _ _ 4 _ hphp hlast
    rfl hplp hlast' rfl
  exact ⟨q, r, hfresh, .start, hclear, hpeek, hback, hsp⟩

end Micro6502
