import Micro6502.Proofs.Cells
import Micro6502.Proofs.Invariant

/-!
# Rewinding

The record of a step has all its accesses, and each write has the byte that it replaced. So a run
that was traced can be taken back: the replaced bytes are loaded again, the last one first, and the
registers are restored. From there the same run can be made once more.

## Contents

- `Cpu.record`, a run that is traced, and `Cpu.rewind`
- `CellBus.Undoes`, accesses that lead back from one bus to another
- `Bus.upholds_undoes`: the accesses on record lead back to the bus before them
- `Cpu.record_undoes` for whole runs, and `Cpu.relates_record`, the same run once more
- `Cpu.rewind_record`
-/

namespace Micro6502

/-! ## Recording and rewinding -/

/-- What the host can do to the interrupt inputs between two steps. -/
inductive Input where
  | request (source : Interrupt)
  | withdraw
  deriving DecidableEq, Repr

/-- Takes an access back: a byte that was replaced is loaded again. -/
def Activity.takeBack (load : (address data : Int) → Call β Unit) : Activity → Call β Unit
  | write a _ (some previous) => load a previous.toNat
  | _ => Call.pure ()

/-- What a trace shows, but for the count of all cycles. -/
def Trace.seen {variant : Variant} (t : Trace (mos variant)) :
    Operation × Registers × List Activity :=
  (t.operation, t.state, t.activity)

/-- The accesses of some steps, the latest in front. -/
def Trace.latestFirst {variant : Variant} (traces : List (Trace (mos variant))) : List Activity :=
  traces.reverse.flatMap (·.activity.reverse)

namespace Cpu

variable {variant : Variant} {β : Type}

/-- Acts on the interrupt inputs. -/
def feed : Input → Call (Cpu variant β) Unit
  | .request source => request source
  | .withdraw => withdraw

/-- For each list of inputs, acts on the inputs and then traces a step. -/
def record [HostBus β] : List (List Input) → Call (Cpu variant β) (List (Trace (mos variant)))
  | [] => return []
  | inputs :: rest => do
    Call.forEach inputs feed
    let t ← Processor.trace
    let traces ← record rest
    return t :: traces

/-- Takes all accesses of some steps back, the last one first, and restores the registers. -/
def rewind (traces : List (Trace (mos variant))) (r : Registers) : Call (Cpu variant Bus) Unit := do
  Processor.onBus (Call.forEach (Trace.latestFirst traces) (Activity.takeBack Bus.load))
  Processor.restore r

end Cpu

/-! ## Lists of calls -/

namespace Call

theorem forEach_append (xs ys : List α) (call : α → Call μ Unit) (m : μ) :
    forEach (xs ++ ys) call m = (forEach xs call >>= fun _ => forEach ys call) m := by
  -- The calls are nested to the right, and one call is taken out of the nest at a time.
  induction xs generalizing m with
  | nil => rfl
  | cons x xs ih =>
    show Call.bind (call x) (fun _ => forEach (xs ++ ys) call) m =
      Call.bind (Call.bind (call x) fun _ => forEach xs call) (fun _ => forEach ys call) m
    unfold Call.bind
    rcases call x m with ⟨_ | _, m', told⟩
    · rfl
    · simp only [ih]
      show (Call.bind (forEach xs call) (fun _ => forEach ys call) m').after told = _
      unfold Call.bind
      rcases forEach xs call m' with ⟨_ | _, m'', told'⟩ <;> simp [Outcome.after]

end Call

/-! ## Leading back -/

namespace CellBus

/-- The bus with nothing on record. -/
def unrecorded (bus : CellBus) : CellBus := { bus with recent := [] }

/-- Taking the accesses back, the first one first, leads from one bus to the other. The records do
not matter. -/
def Undoes (accesses : List Activity) (after before : CellBus) : Prop :=
  Call.forEach accesses (Activity.takeBack load) after.unrecorded = ⟨.ok (), before.unrecorded, []⟩

namespace Undoes

variable {accesses : List Activity} {after before : CellBus}

protected theorem refl (bus : CellBus) : Undoes [] bus bus := rfl

theorem congr {after' before' : CellBus} (h : Undoes accesses after before)
    (hafter : after'.unrecorded = after.unrecorded)
    (hbefore : before'.unrecorded = before.unrecorded) : Undoes accesses after' before' := by
  rwa [Undoes, hafter, hbefore]

/-- One more access to take back at first. -/
theorem cons {access : Activity} {last : CellBus}
    (haccess : access.takeBack load last.unrecorded = ⟨.ok (), after.unrecorded, []⟩)
    (h : Undoes accesses after before) : Undoes (access :: accesses) last before := by
  show Call.bind (access.takeBack load) (fun _ => Call.forEach accesses _) last.unrecorded = _
  rw [Call.bind, haccess]
  show (Call.forEach accesses (Activity.takeBack load) after.unrecorded).after [] = _
  rw [h]
  rfl

theorem append {accesses' : List Activity} {between : CellBus}
    (h : Undoes accesses after between) (h' : Undoes accesses' between before) :
    Undoes (accesses ++ accesses') after before := by
  rw [Undoes, Call.forEach_append]
  show Call.bind (Call.forEach accesses _) _ after.unrecorded = _
  rw [Call.bind, h]
  show (Call.forEach accesses' (Activity.takeBack load) between.unrecorded).after [] = _
  rw [h']
  rfl

end Undoes

/-- A byte that was replaced is put back where it was. -/
theorem load_put {bus : CellBus} (h : bus.Coherent) {a : Int} {kind : MemoryKind}
    {previous b : Byte} (hcell : bus.cell? a = some ⟨kind, previous⟩) :
    load a previous.toNat (bus.put a ⟨kind, b⟩) = ⟨.ok (), bus, []⟩ := by
  -- The second of two replacements counts, at all addresses that share the cell, and it is none.
  have hput : (bus.put a ⟨kind, b⟩).put a ⟨kind, previous⟩ = bus := by
    refine CellBus.ext rfl (funext fun c => ?_) rfl rfl
    simp only [put]
    split
    · next hsame => rw [h.cell? a c hsame, hcell]
    · rfl
  rw [load_byte (h.cell?_put a ⟨kind, b⟩), hput]

/-- What a read leaves leads back if what it found does. -/
theorem undoes_read {bus before : CellBus} (a : Int) (h : Undoes bus.recent bus before) :
    (read a bus).Satisfies (fun _ after => Undoes after.recent after before) fun _ _ => True := by
  unfold read
  -- There is nothing to take back in a read.
  split
  · exact .cons rfl h
  · exact .cons rfl h
  · trivial

/-- What a write leaves leads back if what it found does. -/
theorem undoes_write {bus before : CellBus} (hcoherent : bus.Coherent) (a data : Int)
    (h : Undoes bus.recent bus before) :
    (write a data bus).Satisfies (fun _ after => Undoes after.recent after before)
      fun _ _ => True := by
  have hunrecorded : bus.unrecorded.Coherent :=
    ⟨hcoherent.same_self, hcoherent.same_comm, hcoherent.same_trans, hcoherent.cell?⟩
  unfold write
  split
  · next previous hcell =>
    split
    · have hback : load a previous.toNat (bus.unrecorded.put a ⟨.ram, byte data⟩) =
          ⟨.ok (), bus.unrecorded, []⟩ := load_put hunrecorded hcell
      exact .cons hback h
    · trivial
  · next previous hcell =>
    -- The ROM has kept its byte, and now it is loaded once more.
    have hback : load a previous.toNat (bus.unrecorded.put a ⟨.rom, previous⟩) =
        ⟨.ok (), bus.unrecorded, []⟩ := load_put hunrecorded hcell
    rw [put_self hunrecorded (show bus.unrecorded.cell? a = _ from hcell)] at hback
    exact .cons hback h
  · exact .cons rfl h
  · trivial

end CellBus

namespace Bus

/-- The bus is one of memories, and some accesses lead back to the cells of another. -/
def Undoes (accesses : List Activity) (after before : Bus) : Prop :=
  after.AllMemory ∧ CellBus.Undoes accesses after.cells before.cells

/-- What is on record leads back to the bus on which the record was started. -/
theorem upholds_undoes (before : Bus) :
    Upholds (fun _ bus => Undoes bus.recent bus before) fun _ _ _ => True where
  read _ a _ bus hbus := by
    obtain ⟨hmemory, h⟩ := hbus
    have hall := allMemory_read hmemory a
    have hread := CellBus.undoes_read a (show CellBus.Undoes bus.cells.recent _ _ from h)
    rw [← cells_read hmemory a, Outcome.satisfies_mapMachine] at hread
    show (Bus.read a bus).Satisfies _ _
    generalize Bus.read a bus = o at hall hread
    obtain ⟨_ | b, after, told⟩ := o
    · trivial
    · exact ⟨hall, hread⟩
  write _ a data _ bus hbus := by
    obtain ⟨hmemory, h⟩ := hbus
    obtain ⟨hcells, hall⟩ := cells_write hmemory a data
    have hwrite := CellBus.undoes_write bus.coherent_cells a data
      (show CellBus.Undoes bus.cells.recent _ _ from h)
    rw [← hcells, Outcome.satisfies_mapMachine] at hwrite
    show (Bus.write a data bus).Satisfies _ _
    generalize Bus.write a data bus = o at hall hwrite
    obtain ⟨_ | _, after, told⟩ := o
    · trivial
    · exact ⟨hall, hwrite⟩

end Bus

/-! ## Whole runs lead back -/

namespace Cpu

variable {variant : Variant}

/-- The accesses of a traced step lead back to the bus before it. -/
theorem trace_undoes (p : Cpu variant Bus) (hmemory : p.bus.AllMemory) :
    (Processor.trace p).Satisfies (fun t q => q.bus.Undoes t.activity.reverse p.bus)
      fun _ _ => True := by
  have hadvance := (Bus.upholds_undoes p.bus).advance p ⟨hmemory, .refl _⟩
  refine (hadvance.mono (fun _ _ h => h) fun _ _ _ => trivial).bind ?_
  intro operation q h
  obtain ⟨-, -, ⟨hall, hback⟩, -⟩ := h
  refine ⟨hall, ?_⟩
  -- The trace shows the record oldest first.
  show CellBus.Undoes q.bus.recent.reverse.reverse _ p.bus.cells
  rw [List.reverse_reverse]
  exact hback.congr rfl rfl

theorem feed_bus (inputs : List Input) (p : Cpu variant β) :
    (Call.forEach inputs feed p).Satisfies (fun _ q => q.bus = p.bus) fun _ _ => True := by
  induction inputs generalizing p with
  | nil => rfl
  | cons input rest ih =>
    cases input with
    | request source => exact ih _
    | withdraw => exact ih _

/-- The accesses of a recorded run lead back to the bus before it. -/
theorem record_undoes (inputs : List (List Input)) (p : Cpu variant Bus)
    (hmemory : p.bus.AllMemory) :
    (record inputs p).Satisfies (fun traces q => q.bus.Undoes (Trace.latestFirst traces) p.bus)
      fun _ _ => True := by
  -- On the steps: the later ones lead back to the bus after the first, and that to the start.
  induction inputs generalizing p with
  | nil => exact ⟨hmemory, .refl _⟩
  | cons first rest ih =>
    refine (feed_bus first p).bind ?_
    intro _ q hq
    rw [← hq] at hmemory ⊢
    refine (trace_undoes q hmemory).bind ?_
    intro t q' h
    obtain ⟨hall, hback⟩ := h
    refine (ih q' hall).bind ?_
    intro traces q'' h
    obtain ⟨hall', hback'⟩ := h
    have hlatest : Trace.latestFirst (t :: traces) =
        Trace.latestFirst traces ++ t.activity.reverse := by simp [Trace.latestFirst]
    refine ⟨hall', ?_⟩
    show CellBus.Undoes (Trace.latestFirst (t :: traces)) q''.bus.cells q.bus.cells
    rw [hlatest]
    exact hback'.append hback

end Cpu

/-! ## Taking the accesses back -/

theorem CellBus.load_unrecorded (a data : Int) (bus : CellBus) :
    (load a data bus).mapMachine unrecorded = load a data bus.unrecorded := by
  have hcell : bus.unrecorded.cell? a = bus.cell? a := rfl
  rw [load, load, hcell]
  cases bus.cell? a with
  | some cell => cases isByte data <;> rfl
  | none => rfl

namespace Bus

/-- The bus is one of memories, and these are its cells, whatever is on record. -/
def Holds (bus : Bus) (view : CellBus) : Prop := bus.AllMemory ∧ bus.cells.unrecorded = view

theorem relates_takeBack (access : Activity) :
    Call.Relates Holds (access.takeBack load) (access.takeBack CellBus.load)
      (fun _ bus _ view => Holds bus view) Holds := by
  intro bus view h
  obtain ⟨hmemory, rfl⟩ := h
  unfold Activity.takeBack
  split
  · next a _ previous =>
    obtain ⟨hcells, hall⟩ := cells_load hmemory a previous.toNat
    rw [← CellBus.load_unrecorded, ← hcells]
    generalize load a previous.toNat bus = o at hall
    obtain ⟨_ | _, other, told⟩ := o
    · exact .error _ told ⟨hall, rfl⟩
    · exact .ok told ⟨hall, rfl⟩
  · exact .ok [] ⟨hmemory, rfl⟩

/-- Accesses that lead back can be taken back, and then the cells are what they were. -/
theorem takeBack_of_undoes {accesses : List Activity} {after before : Bus}
    (h : after.Undoes accesses before) :
    ∃ bus, Call.forEach accesses (Activity.takeBack load) after = ⟨.ok (), bus, []⟩ ∧
      bus.AllMemory ∧ bus.cells.unrecorded = before.cells.unrecorded := by
  obtain ⟨hmemory, hback⟩ := h
  have hpairs := Call.Relates.forEach relates_takeBack accesses after _ ⟨hmemory, rfl⟩
  rw [hback] at hpairs
  generalize Call.forEach accesses (Activity.takeBack load) after = o at hpairs
  cases hpairs with
  | ok told hbus => exact ⟨_, rfl, hbus⟩

/-- Only the cells and the open bus count for a look. -/
theorem peek_eq_of_unrecorded {bus other : Bus} (hbus : bus.AllMemory) (hother : other.AllMemory)
    (h : bus.cells.unrecorded = other.cells.unrecorded) (a : Int) : bus.peek a = other.peek a := by
  rw [cells_peek hbus, cells_peek hother]
  show bus.cells.unrecorded.peek a = other.cells.unrecorded.peek a
  rw [h]

end Bus

/-! ## The same run once more -/

namespace Cpu

variable {variant : Variant} {β γ : Type} {S S' : β → γ → Prop} {counting : Prop}

theorem follows_feed (input : Input) :
    Follows S counting (feed input : Call (Cpu variant β) Unit)
      (feed input : Call (Cpu variant γ) Unit) := by
  cases input with
  | request source => exact follows_request source
  | withdraw => exact follows_withdraw

theorem relates_feed (inputs : List Input) :
    Call.Relates (Related S counting) (Call.forEach inputs feed : Call (Cpu variant β) Unit)
      (Call.forEach inputs feed : Call (Cpu variant γ) Unit)
      (fun _ p _ q => Related S counting p q) (Related S counting) :=
  .forEach (fun input p q hpq => (follows_feed input p q hpq).mono (fun _ _ _ _ h => h.2)
    fun _ _ h => h) inputs

variable [HostBus β] [HostBus γ]

/-- The same inputs lead to runs that look the same, if the buses are indistinguishable as soon as
their records start afresh. -/
theorem relates_record (hS : Indistinguishable S) (hS' : ∀ b c, S b c → S' b c)
    (htake : ∀ b c, S' b c → S (HostBus.takeActivity b).2 (HostBus.takeActivity c).2)
    (hrecord : ∀ b c, S b c → (HostBus.takeActivity b).1 = (HostBus.takeActivity c).1)
    (inputs : List (List Input)) :
    Call.Relates (Related S' counting)
      (record inputs : Call (Cpu variant β) (List (Trace (mos variant))))
      (record inputs : Call (Cpu variant γ) (List (Trace (mos variant))))
      (fun traces p traces' q =>
        traces.map Trace.seen = traces'.map Trace.seen ∧ Related S' counting p q)
      (Related S' counting) := by
  induction inputs with
  | nil => exact fun p q hpq => .ok [] ⟨rfl, hpq⟩
  | cons first rest ih =>
    -- After a trace the records are the same too, but that is more than the next step needs.
    have hweaken {p : Cpu variant β} {q : Cpu variant γ} (h : Related S counting p q) :
        Related S' counting p q := { h with bus := hS' _ _ h.bus }
    have htrace : Call.Relates (Related S' counting)
        (Processor.trace : Call (Cpu variant β) (Trace (mos variant)))
        (Processor.trace : Call (Cpu variant γ) (Trace (mos variant)))
        (fun t p u q => t.seen = u.seen ∧ Related S' counting p q) (Related S' counting) := by
      intro p q hpq
      refine (relates_trace hS htake hrecord p q hpq).mono ?_ fun _ _ => hweaken
      intro t p u q h
      obtain ⟨h, hpq⟩ := h
      refine ⟨?_, hweaken hpq⟩
      rw [Trace.seen, Trace.seen, h.operation, h.state, h.activity]
    refine (relates_feed first).bind fun _ _ => htrace.bind fun t u => ?_
    intro p q h
    obtain ⟨htu, hpq⟩ := h
    refine Call.Relates.bind ih ?_ p q hpq
    intro traces traces' p q h
    obtain ⟨htraces, hpq⟩ := h
    refine .ok [] ⟨?_, hpq⟩
    rw [List.map_cons, List.map_cons, htu, htraces]

end Cpu

/-! ## Rewinding -/

namespace Bus

/-- Two buses of memories with the same cells and the same open bus, whatever is on record. -/
structure SameCells (bus other : Bus) : Prop where
  left : bus.AllMemory
  right : other.AllMemory
  cells : bus.cells.unrecorded = other.cells.unrecorded

/-- Where the cells are the same, a record that starts afresh is the same too. -/
theorem SameCells.looksLike {bus other : Bus} (h : bus.SameCells other) :
    LooksLike (HostBus.takeActivity bus).2 (HostBus.takeActivity other).2 :=
  ⟨h.left, h.right, h.cells⟩

theorem LooksLike.sameCells {bus other : Bus} (h : bus.LooksLike other) : bus.SameCells other :=
  ⟨h.left, h.right, congrArg CellBus.unrecorded h.cells⟩

theorem LooksLike.activity {bus other : Bus} (h : bus.LooksLike other) :
    bus.activity = other.activity :=
  congrArg (fun view : CellBus => view.recent.reverse) h.cells

end Bus

namespace Cpu

variable {variant : Variant}

/-- On buses with the same cells and in the same state, a run can be made once more. -/
theorem record_again {p q : Cpu variant Bus} (hbus : p.bus.SameCells q.bus)
    (hstate : p.state = q.state) (inputs : List (List Input))
    {traces : List (Trace (mos variant))} (hrecord : (record inputs p).result = .ok traces) :
    ∃ traces', (record inputs q).result = .ok traces' ∧
      traces'.map Trace.seen = traces.map Trace.seen := by
  have hpq : Related Bus.SameCells False p q := ⟨hbus, hstate, nofun, nofun⟩
  have hpairs := relates_record Bus.indistinguishable_looksLike (fun _ _ h => h.sameCells)
    (fun _ _ h => h.looksLike) (fun _ _ h => h.activity) inputs p q hpq
  obtain ⟨traces', hagain, h, -⟩ := hpairs.of_ok hrecord
  exact ⟨traces', hagain, h.1.symm⟩

/-- A run on memories that was traced can be taken back. The replaced bytes are loaded again, the
last one first, and the registers are restored; no load is refused, every address looks as before
the run, and the same inputs lead to the same operations, states and accesses once more. -/
theorem rewind_record (p : Cpu variant Bus) (inputs : List (List Input))
    {traces : List (Trace (mos variant))} (hmemory : p.bus.AllMemory)
    (hrecord : (record inputs p).result = .ok traces) :
    ∃ q, rewind traces p.state (record inputs p).machine = ⟨.ok (), q, []⟩ ∧
      (∀ a, q.bus.peek a = p.bus.peek a) ∧ q.state = p.state ∧
      ∃ traces', (record inputs q).result = .ok traces' ∧
        traces'.map Trace.seen = traces.map Trace.seen := by
  have hback := (record_undoes inputs p hmemory).of_ok hrecord
  obtain ⟨bus, hbus, hall, hcells⟩ := Bus.takeBack_of_undoes hback
  generalize (record inputs p).machine = after at hbus ⊢
  -- The counts go on; only the bus and the registers are taken back.
  let q : Cpu variant Bus := { after with bus := bus, state := p.state }
  have hq : rewind traces p.state after = ⟨.ok (), q, []⟩ := by
    show Call.bind (Processor.onBus _) _ after = _
    rw [Call.bind, Processor.onBus, hbus]
    rfl
  have hagain := record_again (q := q) ⟨hmemory, hall, hcells.symm⟩ rfl inputs hrecord
  exact ⟨q, hq, Bus.peek_eq_of_unrecorded hall hmemory hcells, rfl, hagain⟩

/-- Two steps, between which an interrupt is requested: a break in a RAM full of zeros, and the
interrupt. -/
theorem rewind_record_ram :
    let p := new .nmos Bus.ram
    let inputs := [[], [Input.request .nmi]]
    ∃ traces, Bus.ram.AllMemory ∧ (record inputs p).result = .ok traces ∧
      ∃ q, rewind traces p.state (record inputs p).machine = ⟨.ok (), q, []⟩ ∧
        ∀ a, q.bus.peek a = p.bus.peek a := by
  intro p inputs
  have hok : (record inputs p).result.isOk = true := by decide +kernel
  cases hrecord : (record inputs p).result with
  | error fault => simp [hrecord, Except.isOk, Except.toBool] at hok
  | ok traces =>
    obtain ⟨q, hq, hpeek, -⟩ := rewind_record p inputs Bus.allMemory_ram hrecord
    exact ⟨traces, Bus.allMemory_ram, rfl, q, hq, hpeek⟩

end Cpu

end Micro6502
