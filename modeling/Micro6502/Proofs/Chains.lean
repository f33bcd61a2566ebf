import Micro6502.Proofs.Effects
import Micro6502.Proofs.Radix

/-!
# Arithmetic on numbers of many bytes

A program adds or subtracts numbers of many bytes pair by pair, the lowest first: the byte of the
first number goes into the accumulator, that of the second is the operand, and the carry is all
that one pair leaves to the next. If every pair is worked on as its digits ask, then so are the
numbers, however long they are.

## Contents

- `Arithmetic.Works`, the work that an instruction does on the byte that it reads
- `Arithmetic.Rule`, addition and subtraction, with the exact result and the meaning of the carry
- `Arithmetic.chain`, which works through two rows of bytes
- `Arithmetic.DigitByDigit`, what a pair of bytes has to do, and `DigitByDigit.chain`, what the rows
  do then
- `Arithmetic.Worked`, rows that have been worked through, with `DigitByDigit.worked`
-/

namespace Micro6502.Arithmetic

/-! ## Rules -/

/-- The instruction does this work on the registers and the byte that its operand reads as. -/
def Works (m : Mnemonic) (variant : Variant) (work : Registers → Byte → Registers) : Prop :=
  ∀ o : Operand, o.Serves .value → ∀ (r : Registers) (past : List Exchange),
    (m.execute variant o r).Always (fun _ _ _ => True)
      (fun past' s _ => ∃ b, o.ReadAs past' r b ∧ s = work r b) past

/-- The two rules of arithmetic with a carry. -/
inductive Rule where
  | addition
  /-- A clear carry is a borrow. -/
  | subtraction
  deriving DecidableEq, Repr

namespace Rule

/-- The exact result for two numbers and a carry. -/
def exact (x y : Int) (carry : Bool) : Rule → Int
  | addition => x + y + carry.toNat
  | subtraction => x - y - (1 - carry.toNat)

/-- When an exact result sets the carry: a sum does not fit, or a difference is not negative. -/
def Carries (size z : Int) : Rule → Prop
  | addition => size ≤ z
  | subtraction => 0 ≤ z

def mnemonic : Rule → Mnemonic
  | addition => .adc
  | subtraction => .sbc

/-- What the instruction does to the registers of a chip. -/
def work (variant : Variant) : Rule → Registers → Byte → Registers
  | addition => variant.add
  | subtraction => variant.subtract

theorem works (rule : Rule) (variant : Variant) :
    Works rule.mnemonic variant (rule.work variant) := by
  intro o ho r past
  cases rule <;> exact Execute.always_load ho _ r past

/-- The lowest digit and what it carries make the exact result of the lowest digits. Then it is the
lowest digit of the exact result of the numbers, and the others are that of the rest. -/
theorem exact_cons (rule : Rule) {base b x y : Int} {carry carry' : Bool}
    (h : b + base * rule.exact 0 0 carry' = rule.exact x y carry) (xs ys : Int) :
    rule.exact (x + base * xs) (y + base * ys) carry = b + base * rule.exact xs ys carry' := by
  -- Both rules are linear, and the carry of the lowest digits is all that the rest gets.
  cases rule <;> simp only [exact] at h ⊢ <;> linear_combination -h

end Rule

/-! ## Chains -/

/-- Works through two rows of bytes from the lowest on. Each byte of the first row goes into the
accumulator, and that of the second is the operand. Gives what is in the accumulator each time, and
the registers at the end. -/
def chain (work : Registers → Byte → Registers) : Registers → List (Byte × Byte) →
    List Byte × Registers
  | r, [] => ([], r)
  | r, (x, y) :: rest =>
    let s := work { r with a := x } y
    let (bytes, t) := chain work s rest
    (s.a :: bytes, t)

@[simp] theorem chain_nil (work : Registers → Byte → Registers) (r : Registers) :
    chain work r [] = ([], r) := rfl

@[simp] theorem chain_cons (work : Registers → Byte → Registers) (r : Registers) (x y : Byte)
    (rest : List (Byte × Byte)) :
    chain work r ((x, y) :: rest) =
      ((work { r with a := x } y).a :: (chain work (work { r with a := x } y) rest).1,
        (chain work (work { r with a := x } y) rest).2) := rfl

/-- The pairs consist of digits. -/
def Digits (R : Radix) (pairs : List (Byte × Byte)) : Prop :=
  ∀ p ∈ pairs, R.IsDigit p.1 ∧ R.IsDigit p.2

/-- As long as the status allows for it, the work on two digits follows the rule: it gives a digit
and a carry that together are the exact result. -/
structure DigitByDigit (R : Radix) (rule : Rule) (allowed : Status → Prop)
    (work : Registers → Byte → Registers) : Prop where
  keeps : ∀ r m, allowed r.status → allowed (work r m).status
  isDigit : ∀ r m, allowed r.status → R.IsDigit r.a → R.IsDigit m → R.IsDigit (work r m).a
  exact : ∀ r m, allowed r.status → R.IsDigit r.a → R.IsDigit m →
    (R.digit (work r m).a : Int) + R.base * rule.exact 0 0 (work r m).status.carry =
      rule.exact (R.digit r.a) (R.digit m) r.status.carry

/-- Two rows have been worked through. The result is the exact one but for what is carried. -/
structure Worked (R : Radix) (rule : Rule) (pairs : List (Byte × Byte)) (carry : Bool)
    (bytes : List Byte) (carry' : Bool) : Prop where
  length : bytes.length = pairs.length
  isDigit : ∀ b ∈ bytes, R.IsDigit b
  number : (R.number bytes : Int) =
    rule.exact (R.number (pairs.map Prod.fst)) (R.number (pairs.map Prod.snd)) carry %
      R.base ^ pairs.length
  carry : carry' = true ↔ rule.Carries (R.base ^ pairs.length)
    (rule.exact (R.number (pairs.map Prod.fst)) (R.number (pairs.map Prod.snd)) carry)

/-- A number and what is carried out of it make up the exact result, so they are its remainder and
its quotient. -/
theorem Worked.of_exact {R : Radix} {rule : Rule} {pairs : List (Byte × Byte)} {carry carry' : Bool}
    {bytes : List Byte} (hlength : bytes.length = pairs.length) (hdigit : ∀ b ∈ bytes, R.IsDigit b)
    (hexact : (R.number bytes : Int) + R.base ^ pairs.length * rule.exact 0 0 carry' =
      rule.exact (R.number (pairs.map Prod.fst)) (R.number (pairs.map Prod.snd)) carry) :
    Worked R rule pairs carry bytes carry' := by
  have hlt : (R.number bytes : Int) < R.base ^ pairs.length := by
    have hnumber := R.number_lt hdigit
    rw [hlength] at hnumber
    exact_mod_cast hnumber
  refine ⟨hlength, hdigit, ?_, ?_⟩
  · -- Below the size nothing is left over.
    rw [← hexact, Int.add_mul_emod_self_left, Int.emod_eq_of_lt (Int.natCast_nonneg _) hlt]
  · rw [← hexact]
    -- The carry is one more size for a sum, and one size less for a difference.
    generalize (R.base : Int) ^ pairs.length = size at hlt
    cases rule <;> cases carry' <;> simp [Rule.Carries, Rule.exact] <;> omega

/-- A difference takes the number away that a sum has added. -/
theorem Worked.difference_of_sum {R : Radix} {pairs : List (Byte × Byte)}
    {sum difference : List Byte} {carry carry' : Bool} (hdigits : Digits R pairs)
    (hsum : Worked R .addition pairs false sum carry)
    (hdifference : Worked R .subtraction (sum.zip (pairs.map Prod.snd)) true difference carry') :
    difference = pairs.map Prod.fst := by
  have hlength : (sum.zip (pairs.map Prod.snd)).length = pairs.length := by
    rw [List.length_zip, hsum.length, List.length_map, Nat.min_self]
  have hfst : (sum.zip (pairs.map Prod.snd)).map Prod.fst = sum :=
    List.map_fst_zip (by rw [hsum.length, List.length_map])
  have hsnd : (sum.zip (pairs.map Prod.snd)).map Prod.snd = pairs.map Prod.snd :=
    List.map_snd_zip (by rw [hsum.length, List.length_map])
  have hfirst : ∀ b ∈ pairs.map Prod.fst, R.IsDigit b := by
    intro b hb
    obtain ⟨p, hp, rfl⟩ := List.mem_map.mp hb
    exact (hdigits p hp).1
  -- The first number is its own remainder, and the second goes away.
  have hlt : (R.number (pairs.map Prod.fst) : Int) < R.base ^ pairs.length := by
    have hnumber := R.number_lt hfirst
    rw [List.length_map] at hnumber
    exact_mod_cast hnumber
  have hnumber : (R.number difference : Int) = R.number (pairs.map Prod.fst) := by
    rw [hdifference.number, hfst, hsnd, hlength, hsum.number]
    simp only [Rule.exact, Bool.toNat_true, Bool.toNat_false, Nat.cast_zero, Nat.cast_one, add_zero,
      sub_self, sub_zero]
    rw [Int.emod_sub_emod, add_sub_cancel_right, Int.emod_eq_of_lt (Int.natCast_nonneg _) hlt]
  refine Radix.eq_of_number_eq ?_ hdifference.isDigit hfirst (by exact_mod_cast hnumber)
  rw [hdifference.length, hlength, List.length_map]

namespace DigitByDigit

variable {R : Radix} {rule : Rule} {allowed : Status → Prop} {work : Registers → Byte → Registers}

/-- Work that follows the rule on digits follows it on numbers. -/
theorem chain (h : DigitByDigit R rule allowed work) {r : Registers} {pairs : List (Byte × Byte)}
    (hallowed : allowed r.status) (hdigits : Digits R pairs) :
    (chain work r pairs).1.length = pairs.length ∧
      (∀ b ∈ (chain work r pairs).1, R.IsDigit b) ∧
      (R.number (chain work r pairs).1 : Int) +
          R.base ^ pairs.length * rule.exact 0 0 (chain work r pairs).2.status.carry =
        rule.exact (R.number (pairs.map Prod.fst)) (R.number (pairs.map Prod.snd))
          r.status.carry := by
  -- The carry links a pair to the rest, so the registers vary along the rows.
  induction pairs generalizing r with
  | nil => simp
  | cons p rest ih =>
    obtain ⟨x, y⟩ := p
    obtain ⟨⟨hx, hy⟩, hrest⟩ := List.forall_mem_cons.mp hdigits
    have hexact := h.exact { r with a := x } y hallowed hx hy
    obtain ⟨hlength, hdigit, hnumber⟩ := ih (h.keeps { r with a := x } y hallowed) hrest
    refine ⟨congrArg (· + 1) hlength, ?_, ?_⟩
    · exact List.forall_mem_cons.mpr ⟨h.isDigit { r with a := x } y hallowed hx hy, hdigit⟩
    · simp only [chain_cons, Radix.number_cons, List.map_cons, List.length_cons, pow_succ,
        Nat.cast_add, Nat.cast_mul]
      rw [rule.exact_cons hexact, ← hnumber]
      ring

theorem worked (h : DigitByDigit R rule allowed work) {r : Registers} {pairs : List (Byte × Byte)}
    (hallowed : allowed r.status) (hdigits : Digits R pairs) :
    Worked R rule pairs r.status.carry (Arithmetic.chain work r pairs).1
      (Arithmetic.chain work r pairs).2.status.carry := by
  obtain ⟨hlength, hdigit, hexact⟩ := h.chain hallowed hdigits
  exact .of_exact hlength hdigit hexact

end DigitByDigit

end Micro6502.Arithmetic
