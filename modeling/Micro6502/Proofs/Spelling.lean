import Mathlib.Data.List.Forall2
import Mathlib.Data.Nat.Digits.Defs
import Micro6502.Config.Integer

/-!
# How integers are spelled

An integer may be spelled in many ways: to base ten or, behind a mark, to base sixteen, with digits
in letters of either case, with zeros in front, and with blanks around. All spellings of an integer
are read as this integer.

## Contents

- `IsDigit` and `Spells`, digits and rows of digits to a base
- `Denotes`, the texts that stand for an integer
- `digitsOf_eq` and `trim_surrounded`, how digits are read and blanks are dropped
- `integer?_of_denotes`
-/

namespace Micro6502.Config

open Decimal (digit? digitsAfter? digitsOf dropMark magnitudeOf integerOf trimNumeral
  surroundsNumeral)

/-! ## Spellings -/

/-- The characters of the digits, by value. -/
def digitChars : List (List Char) :=
  [['0'], ['1'], ['2'], ['3'], ['4'], ['5'], ['6'], ['7'], ['8'], ['9'],
    ['a', 'A'], ['b', 'B'], ['c', 'C'], ['d', 'D'], ['e', 'E'], ['f', 'F']]

/-- The character is a digit to a base. -/
def IsDigit (base d : Nat) (c : Char) : Prop := d < base ∧ c ∈ digitChars.getD d []

/-- The characters are the digits of a number to a base, the highest in front. There is one at
least, and there may be zeros in front. -/
def Spells (base : Nat) (text : List Char) (n : Nat) : Prop :=
  ∃ digits, digits ≠ [] ∧ List.Forall₂ (IsDigit base) digits text ∧
    n = Nat.ofDigits base digits.reverse

/-- The blanks among the ASCII characters. -/
def asciiBlanks : List Char :=
  [' ', '\t', '\n', '\x0b', '\x0c', '\r', '\x1c', '\x1d', '\x1e', '\x1f']

/-- The text stands for an integer, with nothing around it. -/
inductive DenotesBare : List Char → Int → Prop where
  /-- To base sixteen, behind a mark. -/
  | hexadecimal {mark text : List Char} {n : Nat} (hmark : mark ∈ [['0', 'x'], ['0', 'X'], ['$']])
      (h : Spells 16 text n) : DenotesBare (mark ++ text) n
  /-- To base ten, in which the number of digits is limited. -/
  | decimal {text : List Char} {n : Nat} (h : Spells 10 text n)
      (hlength : text.length ≤ Decimal.maxDigits) : DenotesBare text n
  | negative {text : List Char} {n : Nat} (h : Spells 10 text n)
      (hlength : text.length ≤ Decimal.maxDigits) : DenotesBare ('-' :: text) (-n)

/-- The text stands for an integer. Blanks may be around it. -/
def Denotes (text : List Char) (n : Int) : Prop :=
  ∃ front bare back, text = front ++ bare ++ back ∧ (∀ c ∈ front ++ back, c ∈ asciiBlanks) ∧
    DenotesBare bare n

/-! ## Digits -/

/-- The characters that mean something in a numeral and are no digits. -/
def signs : List Char := ['_', '-', '+', '$', 'x', 'X']

/-- The character is no blank, neither around a value nor around a numeral. -/
def isKept (c : Char) : Bool := !Text.isBlank c && !surroundsNumeral c

section Digits

variable {base : Nat} (hbase : base = 10 ∨ base = 16)

include hbase

/-- A digit is no sign and no blank. -/
theorem IsDigit.plain {d : Nat} {c : Char} (h : IsDigit base d c) : c ∉ signs ∧ isKept c := by
  have hall : ∀ d < 16, (digitChars.getD d []).all fun c => !signs.contains c && isKept c := by
    decide
  have hd : d < 16 := by
    have := h.1
    omega
  simpa using List.all_eq_true.mp (hall d hd) c h.2

theorem IsDigit.digit?_eq {d : Nat} {c : Char} (h : IsDigit base d c) : digit? base c = some d := by
  have hdecimal : ∀ d < 10, (digitChars.getD d []).all (digit? 10 · == some d) := by decide
  have hhexadecimal : ∀ d < 16, (digitChars.getD d []).all (digit? 16 · == some d) := by decide
  rcases hbase with rfl | rfl
  · exact eq_of_beq (List.all_eq_true.mp (hdecimal d h.1) c h.2)
  · exact eq_of_beq (List.all_eq_true.mp (hhexadecimal d h.1) c h.2)

theorem digitsAfter?_eq {digits : List Nat} {text : List Char}
    (h : List.Forall₂ (IsDigit base) digits text) (start : Nat) :
    digitsAfter? base start text = some (digits.foldl (fun n d => d + base * n) start) := by
  -- From any number on, to which the digits so far have led.
  induction h generalizing start with
  | nil => rfl
  | @cons d c _ _ hdigit _ ih =>
    have hunderscore : c ≠ '_' := fun h => (hdigit.plain hbase).1 (h ▸ by decide)
    have hvalue : start * base + d = d + base * start := by rw [Nat.mul_comm, Nat.add_comm]
    unfold digitsAfter?
    simp [hunderscore, hdigit.digit?_eq hbase, ih, hvalue]

/-- A row of digits is read as the number that it spells. -/
theorem digitsOf_eq {text : List Char} {n : Nat} (h : Spells base text n) :
    digitsOf base text = .ok n := by
  obtain ⟨digits, hne, hdigits, rfl⟩ := h
  cases hdigits with
  | nil => exact absurd rfl hne
  | @cons d c _ _ hdigit hrest =>
    simp only [digitsOf, hdigit.digit?_eq hbase, Option.bind_some, digitsAfter?_eq hbase hrest,
      Nat.ofDigits_eq_foldr, List.foldr_reverse, List.foldl_cons, Nat.mul_zero, Nat.add_zero,
      Nat.cast_id]

theorem Spells.plain {text : List Char} {n : Nat} (h : Spells base text n) :
    ∀ c ∈ text, c ∉ signs ∧ isKept c := by
  obtain ⟨digits, -, hdigits, -⟩ := h
  induction hdigits with
  | nil => exact List.forall_mem_nil _
  | cons hdigit _ ih => exact List.forall_mem_cons.mpr ⟨hdigit.plain hbase, ih⟩

end Digits

/-! ## What is around a numeral -/

/-- Trimming takes away what is around, and nothing else. -/
theorem trim_surrounded {p : Char → Bool} (front back : List Char) {bare : List Char}
    (haround : ∀ c ∈ front ++ back, p c) (hbare : ∀ c ∈ bare, p c = false) :
    (((front ++ bare ++ back).dropWhile p).reverse.dropWhile p).reverse = bare := by
  have hfront (c : Char) (hc : c ∈ front) : p c := haround c (List.mem_append_left _ hc)
  have hback (c : Char) (hc : c ∈ back) : p c := haround c (List.mem_append_right _ hc)
  have hself (text : List Char) (h : ∀ c ∈ text, p c = false) : text.dropWhile p = text := by
    cases text with
    | nil => rfl
    | cons c rest => exact List.dropWhile_cons_of_neg (by simp [h c])
  rw [List.append_assoc, List.dropWhile_append_of_pos hfront]
  -- Without a first character to keep, both ends are dropped together.
  cases bare with
  | nil =>
    rw [List.nil_append, ← List.append_nil back, List.dropWhile_append_of_pos hback]
    rfl
  | cons c rest =>
    rw [List.cons_append, List.dropWhile_cons_of_neg (by simp [hbare c]), ← List.cons_append,
      List.reverse_append, List.dropWhile_append_of_pos (by simpa using hback),
      hself _ fun d hd => hbare d (List.mem_reverse.mp hd), List.reverse_reverse]

theorem strip_surrounded {front bare back : List Char}
    (haround : ∀ c ∈ front ++ back, c ∈ asciiBlanks) (hbare : ∀ c ∈ bare, isKept c) :
    Text.strip (front ++ bare ++ back) = bare := by
  have hblank : asciiBlanks.all Text.isBlank := by decide
  refine trim_surrounded front back (fun c hc => ?_) fun c hc => ?_
  · exact List.all_eq_true.mp hblank c (haround c hc)
  · exact (by simpa [isKept] using hbare c hc : _ ∧ _).1

theorem trimNumeral_eq {bare : List Char} (hbare : ∀ c ∈ bare, isKept c) :
    trimNumeral bare = bare := by
  have hkept (c : Char) (hc : c ∈ bare) : surroundsNumeral c = false :=
    (by simpa [isKept] using hbare c hc : _ ∧ _).2
  have h := trim_surrounded [] [] (List.forall_mem_nil _) hkept
  rwa [List.nil_append, List.append_nil] at h

/-! ## Numerals -/

/-- Only decimal digits can be too many. -/
theorem magnitudeOf_eq {base : Nat} {text : List Char}
    (hlength : base = 10 → text.length ≤ Decimal.maxDigits) :
    magnitudeOf base text = digitsOf base (dropMark base text) := by
  -- There are no more digits than characters, of which there are not too many.
  refine if_neg fun ⟨hten, hmany, _⟩ => ?_
  have hcount := Nat.lt_of_lt_of_le hmany
    (List.countP_le_length.trans (List.takeWhile_sublist _).length_le)
  exact absurd hcount (Nat.not_lt.mpr (hlength hten))

section Numerals

variable {base : Nat} {text : List Char} {n : Nat}

/-- A row of digits has no mark in front. -/
theorem dropMark_eq (hbase : base = 10 ∨ base = 16) (h : Spells base text n) :
    dropMark base text = text := by
  have hplain := h.plain hbase
  have hmarks : ∀ c ∈ Decimal.baseMarks base, c ∈ signs := by
    rcases hbase with rfl | rfl <;> simp [Decimal.baseMarks, signs]
  unfold dropMark
  split
  · next zero letter rest =>
    have hletter : letter ∉ Decimal.baseMarks base := fun h =>
      (hplain letter (by simp)).1 (hmarks letter h)
    simp [hletter]
  · rfl

/-- A mark is dropped. No underscore stands behind it. -/
theorem dropMark_marked {mark : Char} (hmark : mark ∈ ['x', 'X']) (h : Spells 16 text n) :
    dropMark 16 ('0' :: mark :: text) = text := by
  have hzero : Text.decimalDigit? '0' = some 0 := by decide
  have hplain := h.plain (.inr rfl)
  simp only [dropMark, hzero, Decimal.baseMarks, List.contains_iff_mem.mpr hmark, beq_self_eq_true,
    Bool.and_self, if_true]
  split
  · exact absurd (by decide) (hplain '_' (by simp)).1
  · rfl

theorem magnitudeOf_of_spells (hbase : base = 10 ∨ base = 16) (h : Spells base text n)
    (hlength : base = 10 → text.length ≤ Decimal.maxDigits) : magnitudeOf base text = .ok n := by
  rw [magnitudeOf_eq hlength, dropMark_eq hbase h, digitsOf_eq hbase h]

/-- Where there is no sign, there is none to be read. -/
theorem integerOf_unsigned (h : magnitudeOf base text = .ok n)
    (hkept : ∀ c ∈ text, isKept c) (hsign : ∀ c ∈ text.head?, c ∉ ['-', '+']) :
    integerOf base text = .ok n := by
  rw [integerOf, trimNumeral_eq hkept]
  split
  · exact absurd (by decide) (hsign '-' (by simp))
  · exact absurd (by decide) (hsign '+' (by simp))
  · rw [h]
    rfl

theorem integerOf_of_spells (hbase : base = 10 ∨ base = 16) (h : Spells base text n)
    (hlength : base = 10 → text.length ≤ Decimal.maxDigits) : integerOf base text = .ok n := by
  have hplain := h.plain hbase
  have hkept (c : Char) (hc : c ∈ text) : isKept c := (hplain c hc).2
  -- A sign is no digit, so there is none in front.
  refine integerOf_unsigned (magnitudeOf_of_spells hbase h hlength) hkept fun c hc hsign => ?_
  have hsigns : ∀ c ∈ ['-', '+'], c ∈ signs := by simp [signs]
  exact (hplain c (List.mem_of_mem_head? hc)).1 (hsigns c hsign)

theorem integerOf_marked {mark : Char} (hmark : mark ∈ ['x', 'X']) (h : Spells 16 text n) :
    integerOf 16 ('0' :: mark :: text) = .ok n := by
  have hmarks : ['x', 'X'].all isKept := by decide
  have hread : magnitudeOf 16 ('0' :: mark :: text) = .ok n := by
    rw [magnitudeOf_eq fun h => absurd h (by decide), dropMark_marked hmark h,
      digitsOf_eq (.inr rfl) h]
  refine integerOf_unsigned hread ?_ (by simp)
  refine List.forall_mem_cons.mpr ⟨by decide, List.forall_mem_cons.mpr ⟨?_, fun c hc => ?_⟩⟩
  · exact List.all_eq_true.mp hmarks mark hmark
  · exact (h.plain (.inr rfl) c hc).2

end Numerals

theorem DenotesBare.isKept {text : List Char} {n : Int} (h : DenotesBare text n) :
    ∀ c ∈ text, isKept c := by
  cases h with
  | @hexadecimal mark text n hmark h =>
    have hmarks : [['0', 'x'], ['0', 'X'], ['$']].all (·.all Config.isKept) := by decide
    intro c hc
    rcases List.mem_append.mp hc with hc | hc
    · exact List.all_eq_true.mp (List.all_eq_true.mp hmarks mark hmark) c hc
    · exact (h.plain (.inr rfl) c hc).2
  | decimal h => exact fun c hc => (h.plain (.inl rfl) c hc).2
  | negative h =>
    exact List.forall_mem_cons.mpr ⟨by decide, fun c hc => (h.plain (.inl rfl) c hc).2⟩

/-- All spellings of an integer are read as this integer. -/
theorem integer?_of_denotes {text : String} {n : Int} (h : Denotes text.toList n) :
    integer? text = some n := by
  obtain ⟨front, bare, back, htext, haround, hbare⟩ := h
  have hkept := hbare.isKept
  rw [integer?, htext, strip_surrounded haround hkept]
  cases hbare with
  | @hexadecimal mark text n hmark h =>
    simp only [List.mem_cons, List.not_mem_nil, or_false] at hmark
    -- Behind a dollar sign the digits are read alone, the other marks are read with them.
    rcases hmark with rfl | rfl | rfl
    · show (integerOf 16 ('0' :: 'x' :: text)).toOption = _
      rw [integerOf_marked (by decide) h]
      rfl
    · show (integerOf 16 ('0' :: 'X' :: text)).toOption = _
      rw [integerOf_marked (by decide) h]
      rfl
    · show (integerOf 16 text).toOption = _
      rw [integerOf_of_spells (.inr rfl) h fun h => absurd h (by decide)]
      rfl
  | @decimal text n h hlength =>
    have hplain := h.plain (.inl rfl)
    have hread := integerOf_of_spells (.inl rfl) h fun _ => hlength
    -- Without a mark the text is read to base ten.
    split
    · exact absurd (by decide) (hplain 'x' (by simp)).1
    · exact absurd (by decide) (hplain 'X' (by simp)).1
    · exact absurd (by decide) (hplain '$' (by simp)).1
    · rw [hread]
      rfl
  | @negative text n h hlength =>
    show (integerOf 10 ('-' :: text)).toOption = _
    rw [integerOf, trimNumeral_eq hkept]
    -- The sign is taken off in front of the digits.
    show ((magnitudeOf 10 text).map fun (n : Nat) => -(n : Int)).toOption = _
    rw [magnitudeOf_of_spells (.inl rfl) h fun _ => hlength]
    rfl

end Micro6502.Config
