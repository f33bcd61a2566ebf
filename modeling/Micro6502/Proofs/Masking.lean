import Micro6502.Proofs.Effects

/-!
# Masked requests stay masked

An interrupt request is taken only while the flag I is clear, and whatever takes the processor away
from its program sets the flag. Only three instructions clear it. So between one such event and
the next entry for a request the program has run one of them, however the requests are timed.

## Contents

- `Event.Masks` and `Event.Unmasks`
- `Mnemonic.always_masked`, the instructions that set the flag
- `Cpu.mask_step` and `Arrives.mask_cons`, one step and one event
- `Arrives.masked`, a whole history
- `Arrives.irq_needs_unmask`
-/

namespace Micro6502

/-! ## Setting and clearing the mask -/

/-- The event sets the mask: it is a reset, the entry of a handler, or a break. -/
def Event.Masks : Event → Prop
  | .reset => True
  | .step (.interrupt _) => True
  | .step (.instruction i _) => i.descriptor.mnemonic = .brk
  | _ => False

/-- The event is a step that executes one of the instructions that may clear the mask. -/
def Event.Unmasks : Event → Prop
  | .step (.instruction i _) => i.descriptor.mnemonic ∈ [.cli, .plp, .rti]
  | _ => False

/-- The flag I is set. -/
def Registers.Masked (r : Registers) : Prop := r.status.interrupt = true

/-! ## One step -/

theorem Interrupts.always_softwareBreak_masked (r : Registers) (past : List Exchange) :
    (softwareBreak r).Always (fun _ _ _ => True) (fun _ s _ => s.Masked) past := by
  refine always_softwareBreak fun source => ?_
  have henter := always_enter (vectorOf_bounds source) (r.pc + 1).toNat true { r with nmi := false }
    past
  exact henter.mono (fun _ _ _ _ => trivial) fun _ _ _ h => h.2.2

/-- Two instructions set the mask. -/
theorem Mnemonic.always_masked (variant : Variant) (o : Operand) {m : Mnemonic}
    (hm : m = .sei ∨ m = .brk) (r : Registers) (past : List Exchange) :
    (m.execute variant o r).Always (fun _ _ _ => True) (fun _ s _ => s.Masked) past := by
  -- SEI sets the flag itself, and BRK enters a handler.
  rcases hm with rfl | rfl
  · rfl
  · simp only [execute, Action.always_bind, Action.always_pure]
    exact Interrupts.always_softwareBreak_masked r past

/-- A turn in which such an instruction is executed sets the mask. -/
theorem always_turn_masked (variant : Variant) {r : Registers} (hdue : Interrupts.due? r = none) :
    ((mos variant).turn r).Always (fun _ _ _ => True)
      (fun _ s completed => ∀ i cycles, completed.1 = .instruction i cycles →
        i.descriptor.mnemonic = .sei ∨ i.descriptor.mnemonic = .brk → s.Masked) [] := by
  refine always_turn_instruction hdue fun i _ past _ => ?_
  -- Of the other instructions nothing is said.
  by_cases hm : i.descriptor.mnemonic = .sei ∨ i.descriptor.mnemonic = .brk
  · exact (Mnemonic.always_masked i.variant i.operand hm _ past).mono (fun _ _ _ h => h)
      fun _ _ _ hmasked _ => hmasked
  · exact Dialogue.always_of_forall (fun _ _ _ h => absurd h hm) _ past

/-- An instruction that may touch the mask sets it, or is one of those that may clear it. -/
theorem Mnemonic.interrupt_mem_flags {m : Mnemonic} (h : .interrupt ∈ m.flags) :
    (m = .sei ∨ m = .brk) ∨ m ∈ [.cli, .plp, .rti] := by
  revert h
  cases m <;> decide

namespace Cpu

variable {variant : Variant} {β : Type} [HostBus β] {p q : Cpu variant β}

/-- What a step does to the mask. -/
theorem mask_step {operation : Operation} {cycles : Int} {told : List Notice}
    (hstep : Processor.step p = ⟨.ok cycles, q, told⟩) (hlast : q.last = some operation) :
    (Event.Masks (.step operation) → q.state.Masked) ∧
      (¬ Event.Unmasks (.step operation) → p.state.Masked → q.state.Masked) := by
  -- An entry sets the mask; if none is due, it depends on the instruction.
  cases hdue : Interrupts.due? p.state with
  | some source =>
    obtain ⟨_, hturned⟩ := turned_of_last hstep hlast
    obtain rfl := (hturned.interrupt_iff source).mpr hdue
    obtain ⟨-, -, -, -, hmasked⟩ := hturned
    exact ⟨fun _ => hmasked, fun _ _ => hmasked⟩
  | none =>
    have hturn := ((always_turn_touches variant hdue).and (always_turn_masked variant hdue)).mono
      (fun _ _ _ _ => trivial) fun _ _ _ h => h
    obtain ⟨_, ⟨i, opcode, cycles', hcompleted, -, -, -, htouches⟩, hsets⟩ :=
      reached_of_last hturn hstep hlast
    obtain ⟨rfl, -⟩ := Prod.mk.inj hcompleted
    have hset := hsets i cycles' rfl
    refine ⟨fun hbreak => hset (.inr hbreak), fun hunmasks hmasked => ?_⟩
    -- What does not touch the flag leaves it as it was.
    by_cases hflag : .interrupt ∈ i.descriptor.mnemonic.flags
    · exact (Mnemonic.interrupt_mem_flags hflag).elim hset fun h => absurd h hunmasks
    · exact (htouches.same.get hflag).trans hmasked

end Cpu

/-! ## Histories -/

namespace Arrives

variable {variant : Variant} {β : Type} [HostBus β] {start q : Cpu variant β}

/-- What the latest event has done to the mask. -/
theorem mask_cons {event : Event} {history : List Event} (h : Arrives start (event :: history) q) :
    ∃ p, Arrives start history p ∧ (event.Masks → q.state.Masked) ∧
      (¬ event.Unmasks → p.state.Masked → q.state.Masked) := by
  cases h with
  | request source h =>
    refine ⟨_, h, False.elim, fun _ hmasked => ?_⟩
    cases source <;> exact hmasked
  | withdraw h => exact ⟨_, h, False.elim, fun _ hmasked => hmasked⟩
  | reset h hreset =>
    have hmasked : q.state.Masked := by
      rw [Cpu.state_reset hreset]
      rfl
    exact ⟨_, h, fun _ => hmasked, fun _ _ => hmasked⟩
  | step h hstep hlast => exact ⟨_, h, Cpu.mask_step hstep hlast⟩
  | host bus h => exact ⟨_, h, False.elim, fun _ hmasked => hmasked⟩

/-- The mask stays set until one of the three instructions is executed. -/
theorem masked {masking : Event} {recent earlier : List Event}
    (h : Arrives start (recent ++ masking :: earlier) q) (hmasking : masking.Masks)
    (hrecent : ∀ event ∈ recent, ¬ event.Unmasks) : q.state.Masked := by
  -- The latest event is in front, so the induction goes back to the one that has set the mask.
  induction recent generalizing q with
  | nil =>
    obtain ⟨-, -, hset, -⟩ := h.mask_cons
    exact hset hmasking
  | cons event recent ih =>
    obtain ⟨hevent, hrest⟩ := List.forall_mem_cons.mp hrecent
    obtain ⟨p, hp, -, hkeep⟩ := h.mask_cons
    exact hkeep hevent (ih hp hrest)

/-- A history has been arrived at by way of what came first in it. -/
theorem of_append {later history : List Event} (h : Arrives start (later ++ history) q) :
    ∃ p, Arrives start history p := by
  induction later generalizing q with
  | nil => exact ⟨q, h⟩
  | cons event later ih =>
    obtain ⟨p, hp, -⟩ := h.mask_cons
    exact ih hp

end Arrives

/-- No request is entered twice without an explicit unmask.

The mask goes from set to clear only in a step that executes one of CLI, PLP and RTI. And if a
handler of a request is entered some time after a reset, after the entry of a handler, or after a
break, then a step strictly between the two has executed one of these. -/
theorem Arrives.irq_needs_unmask {variant : Variant} {β : Type} [HostBus β] :
    (∀ (p q : Cpu variant β) event, Arrives p [event] q →
      p.state.status.interrupt = true → q.state.status.interrupt = false → event.Unmasks) ∧
    ∀ (start p : Cpu variant β) earlier masking between later,
      Arrives start (later ++ .step (.interrupt .irq) :: (between ++ masking :: earlier)) p →
      masking.Masks → ∃ event ∈ between, event.Unmasks := by
  refine ⟨fun p q event h hset hclear => ?_,
    fun start p earlier masking between later h hmasking => ?_⟩
  · refine Classical.byContradiction fun hunmasks => ?_
    -- Had the event kept the mask, it would still be set.
    obtain ⟨p', hp', -, hkeep⟩ := h.mask_cons
    cases hp'
    exact Bool.false_ne_true (hclear.symm.trans (hkeep hunmasks hset))
  · refine Classical.byContradiction fun hnone => ?_
    have hbetween : ∀ event ∈ between, ¬ event.Unmasks :=
      fun event hmem h => hnone ⟨event, hmem, h⟩
    obtain ⟨q, hq⟩ := h.of_append
    cases hq with
    | step hp hstep hlast =>
      obtain ⟨_, hturned⟩ := Cpu.turned_of_last hstep hlast
      -- The request is taken, so the mask was clear; but nothing has cleared it.
      have hdue := (hturned.interrupt_iff .irq).mp rfl
      obtain ⟨-, hclear, -⟩ := Interrupts.due?_eq_irq.mp hdue
      exact Bool.false_ne_true (hclear.symm.trans (hp.masked hmasking hbetween))

/-- Two entries, of which the second has to wait for a CLI in the handler. -/
theorem Arrives.irq_needs_unmask_cli :
    let start : Cpu .nmos FlatBus :=
      { Cpu.new .nmos (FlatBus.zeroed.store 0 0x58) with
        state := { Registers.initial with status := {}, irq := true } }
    let entry : Event := .step (.interrupt .irq)
    let cli : Event :=
      .step (.instruction ⟨0x58, .nmos, ⟨.cli, .implied, 2⟩, ⟨.implied, .nowhere, false, []⟩⟩ 2)
    ∃ p q r, Arrives start [.request .irq, entry] p ∧ p.state.status.interrupt = true ∧
      Arrives p [cli] q ∧ q.state.status.interrupt = false ∧ cli.Unmasks ∧
      Arrives start [entry, cli, .request .irq, entry] r ∧
      ∃ event ∈ [cli, .request .irq], event.Unmasks := by
  intro start entry cli
  let handling := (Processor.step start).machine
  let p := (Cpu.request .irq handling).machine
  let q := (Processor.step p).machine
  have hentry : Processor.step start = ⟨.ok 7, handling, (Processor.step start).notices⟩ :=
    Outcome.eq_of_result (by decide +kernel)
  have hcli : Processor.step p = ⟨.ok 2, q, (Processor.step p).notices⟩ :=
    Outcome.eq_of_result (by decide +kernel)
  have hagain : Processor.step q =
      ⟨.ok 7, (Processor.step q).machine, (Processor.step q).notices⟩ :=
    Outcome.eq_of_result (by decide +kernel)
  have hset : p.state.status.interrupt = true := by decide +kernel
  have hclear : q.state.status.interrupt = false := by decide +kernel
  have hp : Arrives start [.request .irq, entry] p :=
    .request .irq (.step .start hentry (by decide +kernel))
  have hlast : q.last = some (.instruction
      ⟨0x58, .nmos, ⟨.cli, .implied, 2⟩, ⟨.implied, .nowhere, false, []⟩⟩ 2) := by decide +kernel
  have hq : Arrives p [cli] q := .step .start hcli hlast
  have hr : Arrives start [entry, cli, .request .irq, entry] (Processor.step q).machine :=
    .step (.step hp hcli hlast) hagain (by decide +kernel)
  exact ⟨p, q, _, hp, hset, hq, hclear, Arrives.irq_needs_unmask.1 p q cli hq hset hclear, hr,
    Arrives.irq_needs_unmask.2 start _ [] entry [cli, .request .irq] [] hr trivial⟩

end Micro6502
