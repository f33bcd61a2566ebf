import Micro6502.Proofs.Decoding

/-!
# Turns, whatever the bus answers

A turn of the processor takes an interrupt or executes one instruction. Its accesses are proper:
their addresses are on the bus, and what is written is a byte. No instruction touches the latches
of the interrupt inputs.

## Contents

- `Action.Leaves`, actions that leave a view of the state as it was, with a rule for each pattern
- `Mnemonic.leaves_of_data`, what most instructions leave, with `Mnemonic.always_pc` for the program
  counter and `Mnemonic.leaves_latches` for the latches
- `Interrupts.always_enter`, and `Vectored`, how a handler is entered
- `turn_of_due` and `turn_of_not_due`, the two kinds of turns
- `always_turn` and `always_reset`
-/

namespace Micro6502

/-! ## What an action leaves as it was -/

/-- The action makes proper accesses only, and whatever the bus answers, some view of the state
is at the end what it was at the start. -/
def Action.Leaves (view : σ → τ) (x : Action σ α) : Prop :=
  ∀ s past, (x s).Always (fun _ _ x => x.Proper) (fun _ s' _ => view s' = view s) past

namespace Action.Leaves

variable {view : σ → τ}

theorem pure (a : α) : Leaves view (Pure.pure a : Action σ α) := fun _ _ => rfl

theorem bind {x : Action σ α} {next : α → Action σ β} (hx : Leaves view x)
    (hnext : ∀ a, Leaves view (next a)) : Leaves view (x >>= next) := by
  intro s past
  rw [always_bind]
  refine (hx s past).mono (fun _ _ _ h => h) ?_
  intro past s' a hs'
  refine (hnext a s' past).mono (fun _ _ _ h => h) ?_
  intro past s'' b hs''
  exact hs''.trans hs'

theorem modify {f : σ → σ} (hf : ∀ s, view (f s) = view s) : Leaves view (Action.modify f) :=
  fun s _ => hf s

theorem get : Leaves view (Action.get : Action σ σ) := fun _ _ => rfl

end Action.Leaves

namespace Arithmetic

/-- An integer that is a byte. -/
def GivesByte (result : Int) : Prop := 0 ≤ result ∧ result ≤ 0xFF

theorem givesByte_mod (n : Int) : GivesByte (n % 0x100) := by
  constructor <;> omega

theorem givesByte_shiftInLow (b : Byte) (bit : Bool) : GivesByte (shiftInLow b bit) :=
  givesByte_mod _

/-- The upper half of a byte has the top bit free, whatever is shifted in there. -/
theorem givesByte_shiftInHigh (b : Byte) (bit : Bool) : GivesByte (shiftInHigh b bit) := by
  have hb := b.isLt
  have hbit := bit.toNat_le
  unfold shiftInHigh
  constructor <;> omega

end Arithmetic

section Patterns

open Micro6502.Action (Leaves)

variable {view : Registers → τ}

theorem Operand.leaves_read {o : Operand} (ho : o.OnBus) : Leaves view o.read := by
  intro r past
  rw [Operand.always_read]
  cases hlocation : o.location with
  | nowhere => rfl
  | accumulator => rfl
  | value b => rfl
  | cell a => exact ⟨ho a hlocation, fun _ => rfl⟩

/-- Working on an operand in place leaves what neither the work nor, if the operand is there, the
accumulator can touch. The result goes onto the bus as it is, so it has to be a byte. -/
theorem Operand.leaves_update_at {o : Operand} (ho : o.OnBus)
    {work : Registers → Byte → Registers × Int} (hbyte : ∀ r b, Arithmetic.GivesByte (work r b).2)
    (hwork : ∀ r b, view (work r b).1 = view r)
    (ha : o.location = .accumulator → ∀ (r : Registers) b, view { r with a := b } = view r) :
    Leaves view (o.update work) := by
  intro r past
  unfold Operand.update
  simp only [Action.always_bind, Action.always_get, Action.always_modify]
  -- The view is kept by the read, then by the work, and then by the write if it is to the
  -- accumulator.
  have hread : Leaves view o.read := Operand.leaves_read ho
  refine (hread r past).mono (fun _ _ _ h => h) ?_
  intro past s b hs
  unfold Operand.write
  cases hlocation : o.location with
  | nowhere => exact (hwork s b).trans hs
  | accumulator => exact (ha hlocation _ _).trans ((hwork s b).trans hs)
  | value _ => exact (hwork s b).trans hs
  | cell a => exact ⟨⟨ho a hlocation, hbyte s b⟩, (hwork s b).trans hs⟩

theorem Operand.leaves_update {o : Operand} (ho : o.OnBus)
    {work : Registers → Byte → Registers × Int} (hbyte : ∀ r b, Arithmetic.GivesByte (work r b).2)
    (hwork : ∀ r b, view (work r b).1 = view r)
    (ha : ∀ (r : Registers) b, view { r with a := b } = view r) : Leaves view (o.update work) :=
  Operand.leaves_update_at ho hbyte hwork fun _ => ha

namespace Stack

variable (hsp : ∀ (r : Registers) b, view { r with sp := b } = view r)

include hsp

theorem leaves_push (value : Int) : Leaves view (push value) :=
  fun r _ => ⟨Access.proper_write_slot r.sp value, hsp r _⟩

theorem leaves_pushWord (value : Int) : Leaves view (pushWord value) :=
  .bind (leaves_push hsp _) fun _ => leaves_push hsp _

theorem leaves_pull : Leaves view pull :=
  fun _ _ => ⟨Access.proper_read_slot _, fun _ => hsp _ _⟩

theorem leaves_pullWord : Leaves view pullWord :=
  .bind (leaves_pull hsp) fun _ => .bind (leaves_pull hsp) fun _ => .pure _

end Stack

namespace Execute

theorem leaves_register {f : Registers → Registers} (hf : ∀ r, view (f r) = view r) :
    Leaves view (register f) := fun r _ => hf r

theorem leaves_load {o : Operand} (ho : o.OnBus) {f : Registers → Byte → Registers}
    (hf : ∀ r b, view (f r b) = view r) : Leaves view (load o f) :=
  .bind (Operand.leaves_read ho) fun _ => .bind (.modify fun r => hf r _) fun _ => .pure 0

theorem leaves_store {o : Operand} (ho : o.OnBus) (f : Registers → Byte) :
    Leaves view (store o f) := by
  intro r past
  unfold store
  cases hlocation : o.location with
  | nowhere => rfl
  | accumulator => rfl
  | value b => rfl
  | cell a => exact ⟨⟨ho a hlocation, Access.byte_bounds (f r)⟩, rfl⟩

theorem leaves_update {o : Operand} (ho : o.OnBus) {work : Registers → Byte → Registers × Int}
    (hbyte : ∀ r b, Arithmetic.GivesByte (work r b).2)
    (hwork : ∀ r b, view (work r b).1 = view r)
    (ha : ∀ (r : Registers) b, view { r with a := b } = view r) : Leaves view (update o work) :=
  .bind (Operand.leaves_update ho hbyte hwork ha) fun _ => .pure 0

theorem leaves_pullStatus (hsp : ∀ (r : Registers) b s,
    view { r with sp := b, status := s } = view r) : Leaves view pullStatus :=
  fun r _ => ⟨Access.proper_read_slot _, fun _ => hsp r _ _⟩

theorem leaves_jump (o : Operand) (hpc : ∀ (r : Registers) a, view { r with pc := a } = view r) :
    Leaves view (jump o) := by
  intro r past
  rw [always_jump]
  exact hpc r _

theorem leaves_branch (o : Operand) (condition : Status → Bool)
    (hpc : ∀ (r : Registers) a, view { r with pc := a } = view r) :
    Leaves view (branch o condition) := by
  intro r past
  rw [always_branch]
  split
  · exact hpc r _
  · rfl

end Execute

end Patterns

/-! ## Instructions by what they leave as it was -/

/-- The instruction is there to move the program counter. -/
def Mnemonic.isControl : Mnemonic → Bool
  | bcc | bcs | beq | bne | bmi | bpl | bvc | bvs | jmp | jsr | rts | rti | brk => true
  | _ => false

/-- All other instructions leave what neither the stack pointer nor the working registers nor the
status can touch. -/
theorem Mnemonic.leaves_of_data (view : Registers → τ)
    (hview : ∀ (r : Registers) sp a x y status,
      view { r with sp := sp, a := a, x := x, y := y, status := status } = view r)
    (variant : Variant) {o : Operand} (ho : o.OnBus) {m : Mnemonic} (hm : m.isControl = false) :
    Action.Leaves view (m.execute variant o) := by
  have hsp (r : Registers) (b : Byte) : view { r with sp := b } = view r := hview r b _ _ _ _
  have ha (r : Registers) (b : Byte) : view { r with a := b } = view r := hview r _ b _ _ _
  -- By the pattern of the instruction; what it computes does not matter.
  cases m
  case lda | ldx | ldy | and | ora | eor | bit | cmp | cpx | cpy =>
    exact Execute.leaves_load ho fun r _ => hview r _ _ _ _ _
  -- The two that know the variant, which decides between two ways of adding.
  case adc =>
    refine Execute.leaves_load ho fun r b => ?_
    unfold Variant.add
    split <;> exact hview r _ _ _ _ _
  case sbc =>
    refine Execute.leaves_load ho fun r b => ?_
    unfold Variant.subtract
    split <;> exact hview r _ _ _ _ _
  case sta | stx | sty => exact Execute.leaves_store ho _
  case tax | tay | txa | tya | tsx | txs | inx | dex | iny | dey | clc | sec | cli | sei | clv |
      cld | sed =>
    exact Execute.leaves_register fun r => hview r _ _ _ _ _
  case asl | rol =>
    exact Execute.leaves_update ho (fun _ b => Arithmetic.givesByte_shiftInLow b _)
      (fun r _ => hview r _ _ _ _ _) ha
  case lsr | ror =>
    exact Execute.leaves_update ho (fun _ b => Arithmetic.givesByte_shiftInHigh b _)
      (fun r _ => hview r _ _ _ _ _) ha
  case inc | dec =>
    exact Execute.leaves_update ho (fun _ _ => Arithmetic.givesByte_mod _)
      (fun r _ => hview r _ _ _ _ _) ha
  case pha | php => exact .bind .get fun r => .bind (Stack.leaves_push hsp _) fun _ => .pure 0
  case pla =>
    exact .bind (Stack.leaves_pull hsp) fun _ =>
      .bind (.modify fun r => hview r _ _ _ _ _) fun _ => .pure 0
  case plp =>
    exact .bind (Execute.leaves_pullStatus fun r _ _ => hview r _ _ _ _ _) fun _ => .pure 0
  case nop | skip => exact .pure 0
  all_goals exact nomatch hm

/-- Whether the instruction takes the program counter elsewhere. A branch does if it is taken. -/
def Mnemonic.jumps (status : Status) : Mnemonic → Bool
  | bcc => !status.carry
  | bcs => status.carry
  | beq => status.zero
  | bne => !status.zero
  | bmi => status.negative
  | bpl => !status.negative
  | bvc => !status.overflow
  | bvs => status.overflow
  | jmp | jsr | rts | rti | brk => true
  | _ => false

/-- The program counter stays where it is if the instruction does not take it elsewhere. -/
theorem Mnemonic.always_pc (variant : Variant) {o : Operand} (ho : o.OnBus) {m : Mnemonic}
    {r : Registers} (hm : m.jumps r.status = false) (past : List Exchange) :
    (m.execute variant o r).Always (fun _ _ x => x.Proper) (fun _ s _ => s.pc = r.pc) past := by
  -- Of the instructions that control the program counter, a branch that is not taken keeps it.
  cases hcontrol : m.isControl with
  | false => exact leaves_of_data Registers.pc (fun _ _ _ _ _ _ => rfl) _ ho hcontrol r past
  | true =>
    cases m
    case bcc | bcs | beq | bne | bmi | bpl | bvc | bvs =>
      rw [execute, Execute.always_branch]
      exact (if_neg (Bool.eq_false_iff.mp hm)).mpr rfl
    case jmp | jsr | rts | rti | brk => exact nomatch hm
    all_goals exact nomatch hcontrol

/-- The latches of the interrupt inputs. -/
def Registers.latches (r : Registers) : Bool × Bool := (r.irq, r.nmi)

/-- No instruction but a break can touch the latches. -/
theorem Mnemonic.leaves_latches (variant : Variant) {o : Operand} (ho : o.OnBus) {m : Mnemonic}
    (hm : m ≠ .brk) : Action.Leaves Registers.latches (m.execute variant o) := by
  -- Those that control the program counter use the stack and the counter, and no latch.
  cases hcontrol : m.isControl with
  | false => exact leaves_of_data _ (fun _ _ _ _ _ _ => rfl) variant ho hcontrol
  | true =>
    cases m
    case bcc | bcs | beq | bne | bmi | bpl | bvc | bvs =>
      rw [execute]
      exact Execute.leaves_branch o _ fun _ _ => rfl
    case jmp => exact .bind (Execute.leaves_jump o fun _ _ => rfl) fun _ => .pure 0
    case jsr =>
      exact .bind .get fun r => .bind (Stack.leaves_pushWord (fun _ _ => rfl) _) fun _ =>
        .bind (Execute.leaves_jump o fun _ _ => rfl) fun _ => .pure 0
    case rts =>
      exact .bind (Stack.leaves_pullWord fun _ _ => rfl) fun _ =>
        .bind (.modify fun _ => rfl) fun _ => .pure 0
    case rti =>
      exact .bind (Execute.leaves_pullStatus fun _ _ _ => rfl) fun _ =>
        .bind (Stack.leaves_pullWord fun _ _ => rfl) fun _ => .bind (.modify fun _ => rfl) fun _ =>
        .pure 0
    case brk => exact absurd rfl hm
    all_goals exact nomatch hcontrol

/-! ## Entering a handler -/

/-- The last two exchanges are the bytes of a vector, low byte first, and the program counter is
the address that they make. -/
def Vectored (vector : Int) (past : List Exchange) (r : Registers) : Prop :=
  ∃ low high earlier,
    past = .read (vector + 1) high :: .read vector low :: earlier ∧ r.pc = wordOf low high

namespace Interrupts

/-- Entering a handler ends at the address in the vector, with interrupts masked and the latches
as they were. -/
theorem always_enter {vector : Int} (hvector : 0 ≤ vector ∧ vector < 0xFFFF) (target : Int)
    (isBreak : Bool) (r : Registers) (past : List Exchange) :
    (enter vector target isBreak r).Always (fun _ _ x => x.Proper)
      (fun past s _ => Vectored vector past s ∧ s.latches = r.latches ∧
        s.status.interrupt = true) past := by
  -- The vectors are at the top of the bus, but none of them wraps.
  simp only [enter, Stack.pushWord, Stack.always_push, Action.always_bind, Action.always_get,
    Action.always_modify, Action.always_readWord_of_lt hvector, Access.proper_write_slot, true_and]
  refine ⟨⟨hvector.1, by omega⟩, fun low => ⟨⟨by omega, by omega⟩, fun high => ?_⟩⟩
  exact ⟨⟨low, high, _, rfl, rfl⟩, rfl, rfl⟩

/-- While no request waits, a break goes to the vector of interrupt requests. -/
theorem softwareBreak_eq_enter {r : Registers} (hr : r.nmi = false) :
    softwareBreak r = enter irqVector (r.pc + 1).toNat true r := by
  show (if r.nmi then _ else _ : Action Registers Unit) r = _
  rw [hr]
  rfl

/-- A break always does what entering the handler of either kind always does. A request of a
non-maskable interrupt is dropped before that. -/
theorem always_softwareBreak {allowed : List Exchange → Registers → Access → Prop}
    {goal : List Exchange → Registers → Unit → Prop} {r : Registers} {past : List Exchange}
    (h : ∀ source, (enter (vectorOf source) (r.pc + 1).toNat true { r with nmi := false }).Always
      allowed goal past) : (softwareBreak r).Always allowed goal past := by
  cases hnmi : r.nmi with
  | false =>
    have hsame : { r with nmi := false } = r := by rw [← hnmi]
    have hirq := h .irq
    rw [hsame] at hirq
    -- The latch is clear already, so to drop the request changes nothing.
    rwa [softwareBreak_eq_enter hnmi]
  | true =>
    unfold softwareBreak
    simp only [Action.always_bind, Action.always_get, hnmi, if_true]
    exact h .nmi

theorem vectorOf_bounds (source : Interrupt) : 0 ≤ vectorOf source ∧ vectorOf source < 0xFFFF := by
  cases source <;> decide

@[simp] theorem acknowledge_sp (source : Interrupt) (r : Registers) :
    (acknowledge source r).sp = r.sp := by
  cases source <;> rfl

@[simp] theorem acknowledge_status (source : Interrupt) (r : Registers) :
    (acknowledge source r).status = r.status := by
  cases source <;> rfl

theorem due?_eq_nmi {r : Registers} : due? r = some .nmi ↔ r.nmi = true := by
  unfold due?
  split
  · simp [*]
  · split <;> simp [*]

theorem nmi_eq_false_of_due? {r : Registers} (h : due? r = none) : r.nmi = false := by
  cases hnmi : r.nmi with
  | false => rfl
  | true => simp [due?_eq_nmi.mpr hnmi] at h

theorem due?_eq_irq {r : Registers} :
    due? r = some .irq ↔ r.nmi = false ∧ r.status.interrupt = false ∧ r.irq = true := by
  unfold due?
  cases r.nmi <;> cases r.irq <;> cases r.status.interrupt <;> decide

end Interrupts

/-! ## Turns -/

/-- What a turn from the registers `r` has done when it ends. An interrupt was due; it is
acknowledged and its handler entered. An instruction is executed when none is due; it leaves the
latches alone, its operand has what it asks for, and a break goes to the vector of interrupt
requests. -/
def Turned (r : Registers) (past : List Exchange) (s : Registers) : Operation × Bool → Prop
  | (.interrupt source, isInstruction) =>
    isInstruction = false ∧ Interrupts.due? r = some source ∧
      Vectored (Interrupts.vectorOf source) past s ∧
      s.latches = (Interrupts.acknowledge source r).latches ∧ s.status.interrupt = true
  | (.instruction i _, isInstruction) =>
    isInstruction = true ∧ Interrupts.due? r = none ∧ s.latches = r.latches ∧
      i.operand.Serves i.descriptor.mnemonic.need ∧
      (i.descriptor.mnemonic = .brk → Vectored Interrupts.irqVector past s)

theorem Action.get_bind (next : σ → Action σ α) (s : σ) : (Action.get >>= next) s = next s s := rfl

/-- A turn in which an interrupt is due. -/
theorem turn_of_due (variant : Variant) {r : Registers} {source : Interrupt}
    (h : Interrupts.due? r = some source) :
    (mos variant).turn r = (do
      Action.modify (Interrupts.acknowledge source)
      Action.tell (.interruptTaken source r.pc)
      Interrupts.enter (Interrupts.vectorOf source) r.pc.toNat false
      return (Operation.interrupt source, false) : Action Registers (Operation × Bool)) r := by
  simp only [Architecture.turn, Interrupts.service, bind_assoc, Action.get_bind, h, pure_bind,
    Option.map_some]

/-- A turn in which none is due. -/
theorem turn_of_not_due (variant : Variant) {r : Registers} (h : Interrupts.due? r = none) :
    (mos variant).turn r = (do
      let operation ← (mos variant).instruction
      return (operation, true) : Action Registers (Operation × Bool)) r := by
  simp only [Architecture.turn, Interrupts.service, bind_assoc, Action.get_bind, h, pure_bind,
    Option.map_none]

/-- Executing an instruction when no request waits. -/
theorem Instruction.always_execute {i : Instruction} (hi : i.operand.OnBus) {r : Registers}
    (hr : r.nmi = false) (past : List Exchange) :
    (i.execute r).Always (fun _ _ x => x.Proper)
      (fun past s _ => s.latches = r.latches ∧
        (i.descriptor.mnemonic = .brk → Vectored Interrupts.irqVector past s)) past := by
  simp only [execute, Action.always_bind, Action.always_pure]
  by_cases hm : i.descriptor.mnemonic = .brk
  · -- With no request to hijack it, a break enters its own handler.
    have hbreak : i.descriptor.mnemonic.execute i.variant i.operand r =
        (Interrupts.softwareBreak r).andThen fun s _ => .done s 0 := by
      rw [hm]
      rfl
    rw [hbreak, Dialogue.always_andThen, Interrupts.softwareBreak_eq_enter hr]
    refine (Interrupts.always_enter (by decide) _ _ r past).mono (fun _ _ _ h => h) ?_
    intro past s _ h
    obtain ⟨hvectored, hlatches, -⟩ := h
    exact ⟨hlatches, fun _ => hvectored⟩
  · refine (Mnemonic.leaves_latches _ hi hm r past).mono (fun _ _ _ h => h) ?_
    intro past s _ hs
    exact ⟨hs, fun h => absurd h hm⟩

/-- A turn makes proper accesses, whatever the bus answers, and does what it should. -/
theorem always_turn (variant : Variant) (r : Registers) (past : List Exchange) :
    ((mos variant).turn r).Always (fun _ _ x => x.Proper) (fun past s a => Turned r past s a)
      past := by
  cases hdue : Interrupts.due? r with
  | some source =>
    rw [turn_of_due variant hdue]
    simp only [Action.always_bind, Action.always_modify, Action.always_tell, Action.always_pure]
    refine (Interrupts.always_enter (Interrupts.vectorOf_bounds source) _ _ _ past).mono
      (fun _ _ _ h => h) ?_
    intro past s _ h
    obtain ⟨hvectored, hlatches, hmasked⟩ := h
    exact ⟨rfl, hdue, hvectored, hlatches, hmasked⟩
  | none =>
    -- A break looks at the latch once more, and finds what was found here.
    have hnmi := Interrupts.nmi_eq_false_of_due? hdue
    rw [turn_of_not_due variant hdue]
    simp only [Architecture.instruction, Action.always_bind, Action.always_pure, always_fetch,
      Access.proper_read, true_and]
    intro opcode
    refine (Instruction.always_decode variant opcode _ _).mono (fun _ _ _ h => h) ?_
    intro past s i h
    obtain ⟨hs, -, -, -, hserves, honBus⟩ := h
    have hnmi' : s.nmi = false := by rw [hs, ← hnmi]
    have hsame : s.latches = r.latches := by rw [hs]; rfl
    refine (Instruction.always_execute honBus hnmi' past).mono (fun _ _ _ h => h) ?_
    intro past s' _ h
    obtain ⟨hlatches, hbreak⟩ := h
    exact ⟨rfl, hdue, hlatches.trans hsame, hserves, hbreak⟩

/-- A reset makes proper accesses and ends at the address in its vector, with all else as at
power-up. -/
theorem always_reset (r : Registers) (past : List Exchange) :
    (Interrupts.reset r).Always (fun _ _ x => x.Proper)
      (fun past s _ => Vectored Interrupts.resetVector past s ∧
        s = { Registers.initial with pc := s.pc }) past := by
  simp only [Interrupts.reset, Action.always_bind, Action.always_modify, Action.always_readWord,
    Action.always_tell, Access.proper_read_mod, true_and]
  exact fun low high => ⟨⟨low, high, _, rfl, rfl⟩, trivial⟩

end Micro6502
