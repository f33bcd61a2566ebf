import Mathlib.Tactic.Ring
import Micro6502.Proofs.Decoding
import Micro6502.Proofs.Radix

/-!
# Shifts of numbers of many bytes

A number of many bytes is doubled from its lowest byte up and halved from its highest byte down,
with nothing but the carry between one byte and the next. On a byte in memory a shift is one read
and one write; on the accumulator it computes the same.

## Contents

- `Shift`, the four instructions, with `Shift.apply`, what they make of a status and a byte
- `Shift.Executes`, how they are executed on the accumulator and on a cell, with
  `Shift.always_decode`
- `Shift.climb` and `Shift.descend`, through a row of bytes, with `Shift.passes_climbCells` and
  `Shift.passes_descendCells` for a row in memory
- `Shift.Doubles` and `Shift.Halves`, what they do to the number
- `Shift.rows_exact`
-/

namespace Micro6502

/-! ## The instructions -/

/-- The instructions that move the bits of a byte by one place. -/
inductive Shift where
  /-- To the left; zero comes in. -/
  | asl
  /-- To the right; zero comes in. -/
  | lsr
  /-- To the left; the carry comes in. -/
  | rol
  /-- To the right; the carry comes in. -/
  | ror
  deriving DecidableEq, Repr

namespace Shift

def mnemonic : Shift → Mnemonic
  | asl => .asl
  | lsr => .lsr
  | rol => .rol
  | ror => .ror

def work : Shift → Registers → Byte → Registers × Int
  | asl => Arithmetic.shiftLeft
  | lsr => Arithmetic.shiftRight
  | rol => Arithmetic.rotateLeft
  | ror => Arithmetic.rotateRight

/-- What a shift makes of a byte and of the status. -/
def apply (shift : Shift) (status : Status) (b : Byte) : Byte × Status :=
  let (r, result) := shift.work { Registers.initial with status := status } b
  (byte result, r.status)

theorem work_status (shift : Shift) (r : Registers) (b : Byte) :
    (shift.work r b).1 = { r with status := (shift.apply r.status b).2 } := by
  cases shift <;> rfl

/-- The work gives a byte, so it does not matter that it gives it as an integer. -/
theorem work_result (shift : Shift) (r : Registers) (b : Byte) :
    (shift.work r b).2 = (shift.apply r.status b).1.toNat := by
  have hb := b.isLt
  have hc := r.status.carry.toNat_le
  show _ = ((byte _).toNat : Int)
  rw [toNat_byte]
  cases shift <;>
    simp only [work, Arithmetic.shiftLeft, Arithmetic.shiftRight, Arithmetic.rotateLeft,
      Arithmetic.rotateRight, Arithmetic.shifted, Arithmetic.shiftInLow, Arithmetic.shiftInHigh,
      Bool.toNat_false] <;> omega

/-! ## On one byte -/

/-- A doubled byte and the bit that comes in are the result and the bit that goes out. -/
theorem toNat_rol (status : Status) (b : Byte) :
    (rol.apply status b).1.toNat + 256 * (rol.apply status b).2.carry.toNat =
      2 * b.toNat + status.carry.toNat := by
  have hb := b.isLt
  have hc := status.carry.toNat_le
  have hresult : ((rol.apply status b).1.toNat : Int) =
      (2 * b.toNat + status.carry.toNat) % 0x100 % 0x100 := toNat_byte _
  have hcarry : (rol.apply status b).2.carry = decide (2 ^ (8 - 1) ≤ b.toNat) :=
    BitVec.msb_eq_decide b
  rw [hcarry]
  -- The top bit goes out: then the double is larger than a byte.
  by_cases hlarge : 2 ^ (8 - 1) ≤ b.toNat
  · rw [decide_eq_true hlarge, Bool.toNat_true]
    omega
  · rw [decide_eq_false hlarge, Bool.toNat_false]
    omega

/-- A byte with the bit that comes in on top is twice the result and the bit that goes out. -/
theorem toNat_ror (status : Status) (b : Byte) :
    2 * (ror.apply status b).1.toNat + (ror.apply status b).2.carry.toNat =
      b.toNat + 256 * status.carry.toNat := by
  have hb := b.isLt
  have hc := status.carry.toNat_le
  have hresult : ((ror.apply status b).1.toNat : Int) =
      (b.toNat / 2 + 0x80 * status.carry.toNat) % 0x100 := toNat_byte _
  -- The low bit goes out, which is the remainder of the halving.
  have hcarry : (ror.apply status b).2.carry.toNat = b.toNat % 2 := by
    show (b.getLsbD 0).toNat = _
    rw [← BitVec.testBit_toNat, Nat.testBit_zero]
    rcases Nat.mod_two_eq_zero_or_one b.toNat with h | h <;> simp [h]
  omega

/-- Zero comes in as a clear carry does. -/
theorem asl_apply (status : Status) (b : Byte) :
    asl.apply status b = rol.apply { status with carry := false } b := rfl

theorem lsr_apply (status : Status) (b : Byte) :
    lsr.apply status b = ror.apply { status with carry := false } b := rfl

/-! ## On the accumulator and in memory -/

/-- How a shift is executed on what is at a location. On the accumulator there is no access. On a
cell the byte there is read, and what the shift makes of it is written back; of the registers the
status alone changes, before the write. -/
def Executes (shift : Shift) (execute : Action Registers Int) : Location → Prop
  | .accumulator => ∀ r, execute r =
    .done { r with a := (shift.apply r.status r.a).1, status := (shift.apply r.status r.a).2 } 0
  | .cell a => ∀ r, execute r = .read r a fun b =>
    .write { r with status := (shift.apply r.status b).2 } a (shift.apply r.status b).1.toNat
      (.done { r with status := (shift.apply r.status b).2 } 0)
  | _ => False

variable (shift : Shift) {variant : Variant} {o : Operand}

theorem execute_eq_update (o : Operand) :
    shift.mnemonic.execute variant o = Execute.update o shift.work := by
  cases shift <;> rfl

theorem executes (ho : o.Serves .place) :
    shift.Executes (shift.mnemonic.execute variant o) o.location := by
  obtain ⟨mode, location, crossed, bytes⟩ := o
  rw [execute_eq_update]
  cases location with
  | accumulator =>
    intro r
    have hrun : Execute.update ⟨mode, .accumulator, crossed, bytes⟩ shift.work r =
        .done { (shift.work r r.a).1 with a := byte (shift.work r r.a).2 } 0 := rfl
    rw [hrun, work_status, work_result, byte_toNat]
  | cell a =>
    intro r
    have hrun : Execute.update ⟨mode, .cell a, crossed, bytes⟩ shift.work r =
        .read r a fun b =>
          .write (shift.work r b).1 a (shift.work r b).2 (.done (shift.work r b).1 0) := rfl
    simp only [hrun, work_status, work_result]
  | _ => simp [Operand.Serves, Operand.address?] at ho

/-- On a cell: one read and one write. -/
theorem executes_cell {a : Int} (ho : o.location = .cell a) (r : Registers) :
    shift.mnemonic.execute variant o r = .read r a fun b =>
      .write { r with status := (shift.apply r.status b).2 } a (shift.apply r.status b).1.toNat
        (.done { r with status := (shift.apply r.status b).2 } 0) := by
  -- A cell is a place, and the cell is the one at the address.
  have hserves : o.Serves .place := .inr (by simp [Operand.address?, ho])
  have hexecutes : shift.Executes (shift.mnemonic.execute variant o) o.location :=
    executes shift hserves
  rw [ho] at hexecutes
  exact hexecutes r

/-- Whatever opcode a shift is decoded from, it finds an operand that it can be executed on. -/
theorem always_decode (variant : Variant) {opcode : Byte}
    (hopcode : (Descriptor.ofOpcode opcode).mnemonic = shift.mnemonic) (r : Registers)
    (past : List Exchange) :
    (Instruction.decode variant opcode.toNat r).Always (fun _ _ x => x.Proper)
      (fun _ _ i => shift.Executes (i.descriptor.mnemonic.execute i.variant i.operand)
        i.operand.location) past := by
  refine (Instruction.always_decode variant opcode r past).mono (fun _ _ _ h => h) ?_
  rintro past s i ⟨-, -, -, hdescriptor, hserves, -⟩
  rw [hdescriptor, hopcode] at hserves ⊢
  have hneed : shift.mnemonic.need = .place := by cases shift <;> rfl
  rw [hneed] at hserves
  exact executes shift hserves

/-! ## Rows of bytes -/

/-- Shifts a row of bytes from the lowest up, the first of them with an instruction of its own.
Gives the new bytes and the status at the end. -/
def climb (first next : Shift) : Status → List Byte → List Byte × Status
  | status, [] => ([], status)
  | status, b :: rest =>
    let (b', status') := first.apply status b
    let (bytes, final) := climb next next status' rest
    (b' :: bytes, final)

/-- Shifts a row of bytes from the highest down. The lowest is in front, so it comes last. -/
def descend (first next : Shift) : Status → List Byte → List Byte × Status
  | status, [] => ([], status)
  | status, b :: rest =>
    let (bytes, status') := descend first next status rest
    let (b', final) := (if rest.isEmpty then first else next).apply status' b
    (b' :: bytes, final)

section Rows

variable (first next : Shift) (status : Status) (b : Byte) (rest bytes : List Byte)

@[simp] theorem climb_nil : climb first next status [] = ([], status) := rfl

@[simp] theorem climb_cons :
    climb first next status (b :: rest) =
      ((first.apply status b).1 :: (climb next next (first.apply status b).2 rest).1,
        (climb next next (first.apply status b).2 rest).2) := rfl

@[simp] theorem descend_nil : descend first next status [] = ([], status) := rfl

@[simp] theorem descend_cons :
    descend first next status (b :: rest) =
      (((if rest.isEmpty then first else next).apply (descend first next status rest).2 b).1 ::
          (descend first next status rest).1,
        ((if rest.isEmpty then first else next).apply (descend first next status rest).2 b).2) :=
  rfl

theorem length_climb : (climb first next status bytes).1.length = bytes.length := by
  induction bytes generalizing first status with
  | nil => rfl
  | cons b rest ih => simp [ih]

theorem length_descend : (descend first next status bytes).1.length = bytes.length := by
  induction bytes with
  | nil => rfl
  | cons b rest ih => simp [ih]

theorem climb_asl :
    climb asl rol status (b :: rest) =
      climb rol rol { status with carry := false } (b :: rest) := by
  rw [climb_cons, climb_cons, asl_apply]

theorem descend_lsr :
    descend lsr ror status (b :: rest) =
      descend ror ror { status with carry := false } (b :: rest) := by
  induction rest generalizing b with
  | nil => simp [lsr_apply]
  | cons c rest ih =>
    -- The highest byte is in the rest, so the lowest meets the same status.
    rw [descend_cons, ih c, descend_cons]
    simp

end Rows

/-! ## Rows in memory -/

/-- Executes the shifts on operands that hold a row, from the lowest up. -/
def climbCells (variant : Variant) (first next : Shift) : List Operand → Action Registers Unit
  | [] => pure ()
  | o :: rest => do
    let _ ← first.mnemonic.execute variant o
    climbCells variant next next rest

/-- Executes the shifts on operands that hold a row, from the highest down. -/
def descendCells (variant : Variant) (first next : Shift) : List Operand → Action Registers Unit
  | [] => pure ()
  | o :: rest => do
    descendCells variant first next rest
    let _ ← (if rest.isEmpty then first else next).mnemonic.execute variant o
    pure ()

/-- One read and one write for each byte of a row, those of the lowest byte in front. -/
def updates : List Int → List Byte → List Byte → List (List Exchange)
  | a :: cells, b :: bytes, b' :: bytes' =>
    [.write a b'.toNat, .read a b] :: updates cells bytes bytes'
  | _, _, _ => []

/-- The action reads a row of bytes from the cells and puts back what the pass makes of it. The
status at the end is that of the pass, and no other register changes. -/
def Passes (run : Action Registers Unit) (cells : List Int)
    (order : List (List Exchange) → List (List Exchange))
    (pass : Status → List Byte → List Byte × Status) : Prop :=
  ∀ (r : Registers) (past : List Exchange), (run r).Always (fun _ _ _ => True)
    (fun past' s _ => ∃ bytes : List Byte, bytes.length = cells.length ∧
      s = { r with status := (pass r.status bytes).2 } ∧
      past' = (order (updates cells bytes (pass r.status bytes).1)).flatten ++ past) past

theorem passes_climbCells (variant : Variant) (first next : Shift) {operands : List Operand}
    {cells : List Int} (hcells : operands.map Operand.location = cells.map Location.cell) :
    Passes (climbCells variant first next operands) cells List.reverse (climb first next) := by
  intro r past
  induction operands generalizing first cells r past with
  | nil =>
    obtain rfl : cells = [] := by simpa using hcells.symm
    exact ⟨[], rfl, rfl, rfl⟩
  | cons o rest ih =>
    cases cells with
    | nil => simp at hcells
    | cons a cells =>
      -- The first byte goes onto its own cell, and the rest finds the status that this leaves.
      obtain ⟨ho, hrest⟩ : o.location = .cell a ∧ rest.map Operand.location = cells.map .cell := by
        simpa using hcells
      simp only [climbCells, Action.always_bind]
      rw [executes_cell first ho]
      refine ⟨trivial, fun b => ⟨trivial, ?_⟩⟩
      refine (ih next hrest _ _).mono (fun _ _ _ h => h) ?_
      rintro past' s - ⟨bytes, hlength, rfl, rfl⟩
      refine ⟨b :: bytes, congrArg (· + 1) hlength, rfl, ?_⟩
      simp [updates]

theorem passes_descendCells (variant : Variant) (first next : Shift) {operands : List Operand}
    {cells : List Int} (hcells : operands.map Operand.location = cells.map Location.cell) :
    Passes (descendCells variant first next operands) cells id (descend first next) := by
  intro r past
  induction operands generalizing cells past with
  | nil =>
    obtain rfl : cells = [] := by simpa using hcells.symm
    exact ⟨[], rfl, rfl, rfl⟩
  | cons o rest ih =>
    cases cells with
    | nil => simp at hcells
    | cons a cells =>
      obtain ⟨ho, hrest⟩ : o.location = .cell a ∧ rest.map Operand.location = cells.map .cell := by
        simpa using hcells
      simp only [descendCells, Action.always_bind]
      refine (ih hrest past).mono (fun _ _ _ h => h) ?_
      rintro past' s - ⟨bytes, hlength, rfl, rfl⟩
      rw [executes_cell _ ho]
      refine ⟨trivial, fun b => ⟨trivial, b :: bytes, congrArg (· + 1) hlength, ?_⟩⟩
      -- The lowest byte is the only one exactly if its operand is.
      have hempty : bytes.isEmpty = rest.isEmpty := by
        have hrows : bytes.length = rest.length := by
          simpa [hlength] using (congrArg List.length hrest).symm
        rw [Bool.eq_iff_iff, List.isEmpty_iff_length_eq_zero, List.isEmpty_iff_length_eq_zero,
          hrows]
      rw [descend_cons, hempty]
      exact ⟨rfl, rfl⟩

/-! ## Numbers -/

/-- The result is the double of a number with the carry below it, without the bit that does not fit;
that bit is the top bit of the number and is in the carry. -/
structure Doubles (bytes : List Byte) (carry : Bool) (result : List Byte × Status) : Prop where
  length : result.1.length = bytes.length
  number : Radix.binary.number result.1 =
    (2 * Radix.binary.number bytes + carry.toNat) % 256 ^ bytes.length
  carry : result.2.carry = (Radix.binary.number bytes).testBit (8 * bytes.length - 1)

/-- The result is the half of a number with the carry above it; the low bit of the number is in the
carry. -/
structure Halves (bytes : List Byte) (carry : Bool) (result : List Byte × Status) : Prop where
  length : result.1.length = bytes.length
  number : Radix.binary.number result.1 =
    (Radix.binary.number bytes + carry.toNat * 256 ^ bytes.length) / 2
  carry : result.2.carry = (Radix.binary.number bytes).testBit 0

theorem number_lt (bytes : List Byte) : Radix.binary.number bytes < 256 ^ bytes.length :=
  Radix.number_lt fun _ _ => trivial

/-- A row rotated to the left and the carry out of it make up the double. -/
theorem number_climb (status : Status) (bytes : List Byte) :
    Radix.binary.number (climb rol rol status bytes).1 +
        256 ^ bytes.length * (climb rol rol status bytes).2.carry.toNat =
      2 * Radix.binary.number bytes + status.carry.toNat := by
  -- The carry links a byte to those above it, so the status varies along the row.
  induction bytes generalizing status with
  | nil => simp
  | cons b rest ih =>
    have hbyte := toNat_rol status b
    have hrest := ih (rol.apply status b).2
    simp only [climb_cons, Radix.number_cons, List.length_cons, pow_succ]
    show (rol.apply status b).1.toNat + 256 * Radix.binary.number _ + _ =
      2 * (b.toNat + 256 * Radix.binary.number rest) + _
    linear_combination hbyte + 256 * hrest

/-- A row with the carry above it is the double of what it is rotated to, and the carry. -/
theorem number_descend (status : Status) (bytes : List Byte) :
    2 * Radix.binary.number (descend ror ror status bytes).1 +
        (descend ror ror status bytes).2.carry.toNat =
      Radix.binary.number bytes + 256 ^ bytes.length * status.carry.toNat := by
  induction bytes with
  | nil => simp
  | cons b rest ih =>
    have hbyte := toNat_ror (descend ror ror status rest).2 b
    simp only [descend_cons, ite_self, Radix.number_cons, List.length_cons, pow_succ]
    show 2 * ((ror.apply _ b).1.toNat + 256 * Radix.binary.number _) + _ =
      b.toNat + 256 * Radix.binary.number rest + _
    linear_combination hbyte + 256 * ih

/-- The top bit is what does not fit when a number is doubled. -/
theorem testBit_top {n x carry : Nat} (hx : x < 256 ^ (n + 1)) (hcarry : carry ≤ 1) :
    x.testBit (8 * (n + 1) - 1) = decide (256 ^ (n + 1) ≤ 2 * x + carry) := by
  have hsize : 256 ^ (n + 1) = 2 * 2 ^ (8 * (n + 1) - 1) := by
    rw [← pow_succ', Nat.sub_add_cancel (by omega), pow_mul]
    rfl
  rw [hsize] at hx ⊢
  rw [Nat.testBit_eq_decide_div_mod_eq, decide_eq_decide]
  generalize 2 ^ (8 * (n + 1) - 1) = top at hx ⊢
  -- Below the top bit the double fits, with the carry or without.
  rcases Nat.lt_or_ge x top with hsmall | hlarge
  · rw [Nat.div_eq_of_lt hsmall]
    omega
  · rw [Nat.div_eq_of_lt_le (by omega) (by omega : x < (1 + 1) * top)]
    omega

theorem doubles_climb (status : Status) (b : Byte) (rest : List Byte) :
    Doubles (b :: rest) status.carry (climb rol rol status (b :: rest)) := by
  -- The exact equation gives the remainder and what does not fit.
  have hexact := number_climb status (b :: rest)
  have hlength := length_climb rol rol status (b :: rest)
  have hresult := number_lt (climb rol rol status (b :: rest)).1
  rw [hlength] at hresult
  have hcarry := status.carry.toNat_le
  have hcarry' := (climb rol rol status (b :: rest)).2.carry.toNat_le
  refine ⟨hlength, ?_, ?_⟩
  · rw [← hexact, Nat.add_mul_mod_self_left, Nat.mod_eq_of_lt hresult]
  · rw [List.length_cons, testBit_top (number_lt (b :: rest)) hcarry, ← hexact,
      ← List.length_cons (a := b)]
    -- What is left below the carry is too small to decide.
    generalize 256 ^ (b :: rest).length = size at hresult ⊢
    cases (climb rol rol status (b :: rest)).2.carry
    · simpa using hresult
    · simp

theorem halves_descend (status : Status) (b : Byte) (rest : List Byte) :
    Halves (b :: rest) status.carry (descend ror ror status (b :: rest)) := by
  -- Here it gives the half and the low bit.
  have hexact := number_descend status (b :: rest)
  have hcarry' := (descend ror ror status (b :: rest)).2.carry.toNat_le
  refine ⟨length_descend ror ror status (b :: rest), ?_, ?_⟩
  · rw [Nat.mul_comm, ← hexact]
    omega
  · -- The carry that came in has gone to the top.
    have hcarry : (descend ror ror status (b :: rest)).2.carry.toNat =
        Radix.binary.number (b :: rest) % 2 := by
      rw [List.length_cons, pow_succ, Nat.mul_right_comm] at hexact
      omega
    rw [Nat.testBit_zero, ← hcarry]
    cases (descend ror ror status (b :: rest)).2.carry <;> rfl

/-- Rotating back restores every byte and the carry. -/
theorem descend_climb (status : Status) (bytes : List Byte) :
    (descend ror ror (climb rol rol status bytes).2 (climb rol rol status bytes).1).1 = bytes ∧
      (descend ror ror (climb rol rol status bytes).2 (climb rol rol status bytes).1).2.carry =
        status.carry := by
  set up := climb rol rol status bytes with hup
  have hclimb := number_climb status bytes
  have hdescend := number_descend up.2 up.1
  rw [← hup] at hclimb
  have hlength : up.1.length = bytes.length := length_climb rol rol status bytes
  -- Both ways are exact, so the way back leads to the number that it has come from.
  rw [hlength, hclimb] at hdescend
  have hcarry := status.carry.toNat_le
  have hcarry' := (descend ror ror up.2 up.1).2.carry.toNat_le
  constructor
  · refine Radix.eq_of_number_eq (R := Radix.binary) ?_ (fun _ _ => trivial) (fun _ _ => trivial) ?_
    · rw [length_descend, hlength]
    · omega
  · have hcarries : (descend ror ror up.2 up.1).2.carry.toNat = status.carry.toNat := by omega
    rw [Bool.eq_iff_iff, ← Bool.toNat_eq_one, ← Bool.toNat_eq_one, hcarries]

/-! ## The law -/

/-- Shifts are exact on numbers of any length.

A row rotated to the left from its lowest byte up is doubled with the carry below it, and a row
rotated to the right from its highest byte down is halved with the carry above it; a shift on the
byte that comes first is a rotation with the carry clear. Rotating left and then right restores the
row and the carry. All opcodes of a shift do to their operand and to the status what it does to a
byte, on the accumulator without an access and elsewhere with one read and one write of a cell. So a
row in memory becomes what the pass makes of it. -/
theorem rows_exact (variant : Variant) (status : Status) (b : Byte) (rest : List Byte) :
    Doubles (b :: rest) status.carry (climb rol rol status (b :: rest)) ∧
    Doubles (b :: rest) false (climb asl rol status (b :: rest)) ∧
    Halves (b :: rest) status.carry (descend ror ror status (b :: rest)) ∧
    Halves (b :: rest) false (descend lsr ror status (b :: rest)) ∧
    (∀ up, up = climb rol rol status (b :: rest) →
      (descend ror ror up.2 up.1).1 = b :: rest ∧
        (descend ror ror up.2 up.1).2.carry = status.carry) ∧
    (∀ (shift : Shift) (opcode : Byte),
      (Descriptor.ofOpcode opcode).mnemonic = shift.mnemonic → ∀ r past,
        (Instruction.decode variant opcode.toNat r).Always (fun _ _ x => x.Proper)
          (fun _ _ i => shift.Executes (i.descriptor.mnemonic.execute i.variant i.operand)
            i.operand.location) past) ∧
    ∀ (operands : List Operand) (cells : List Int),
      operands.map Operand.location = cells.map Location.cell → ∀ first next : Shift,
        Passes (climbCells variant first next operands) cells List.reverse (climb first next) ∧
        Passes (descendCells variant first next operands) cells id (descend first next) := by
  -- A shift is a rotation with the carry clear.
  have hdoubles := doubles_climb { status with carry := false } b rest
  have hhalves := halves_descend { status with carry := false } b rest
  rw [← climb_asl] at hdoubles
  rw [← descend_lsr] at hhalves
  refine ⟨doubles_climb status b rest, hdoubles, halves_descend status b rest, hhalves, ?_,
    fun shift _ hopcode => always_decode shift variant hopcode, fun _ _ hcells first next =>
      ⟨passes_climbCells variant first next hcells, passes_descendCells variant first next hcells⟩⟩
  rintro _ rfl
  exact descend_climb status (b :: rest)

/-- A word in page zero is rotated to the left: `$C081` with the carry is `$8103` with a carry. -/
theorem rows_exact_word :
    let status : Status := { carry := true }
    let operands : List Operand :=
      [⟨.zeroPage, .cell 0x10, false, [0x10]⟩, ⟨.zeroPage, .cell 0x11, false, [0x11]⟩]
    (climb rol rol status [0x81, 0xC0]).1 = [0x03, 0x81] ∧
      Doubles [0x81, 0xC0] true (climb rol rol status [0x81, 0xC0]) ∧
      (Descriptor.ofOpcode 0x26).mnemonic = rol.mnemonic ∧
      (Instruction.decode .nmos 0x26 Registers.initial).Always (fun _ _ x => x.Proper)
        (fun _ _ i => rol.Executes (i.descriptor.mnemonic.execute i.variant i.operand)
          i.operand.location) [] ∧
      operands.map Operand.location = [0x10, 0x11].map Location.cell ∧
      Passes (climbCells .nmos rol rol operands) [0x10, 0x11] List.reverse (climb rol rol) := by
  intro status operands
  obtain ⟨hdoubles, -, -, -, -, hexecutes, hpasses⟩ := rows_exact .nmos status 0x81 [0xC0]
  have hopcode : (Descriptor.ofOpcode 0x26).mnemonic = rol.mnemonic := by decide
  have hcells : operands.map Operand.location = [0x10, 0x11].map Location.cell := rfl
  exact ⟨by decide, hdoubles, hopcode, hexecutes rol 0x26 hopcode Registers.initial [], hcells,
    (hpasses operands [0x10, 0x11] hcells rol rol).1⟩

end Shift

end Micro6502
