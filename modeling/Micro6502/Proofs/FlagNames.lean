import Micro6502.Status

/-!
# The names of flags

A flag is named by its letter, capital or small. Letter case is that of the whole character
standard, and there is one more letter in it whose capital form is one of the seven: a small `ı`
without its dot names the interrupt flag. No other text names a flag.

## Contents

- `Text.eq_or_origin_of_shiftBy`, where a letter may come from when runs of letters are moved
- `Flag.letters` and `Flag.names`, the names, with `Flag.Known` for texts that are one of them
- `Flag.named?`, the flag of a name
- `Flag.upper_eq_iff`, the texts with the letter of a flag as their capitals
- `Flag.ofName?_of_mem` and `Flag.ofName?_of_unknown`, names as they are read
-/

namespace Micro6502

namespace Text

/-! ## Capitals of one letter -/

/-- The code point that the run moves to the given one. -/
def Run.origin (run : Run) (code : Nat) : Nat := (code - run.shift).toNat

/-- What is no code point would have become zero. -/
theorem toNat_ofNat_of_ne_zero {code : Nat} (h : (Char.ofNat code).toNat ≠ 0) :
    (Char.ofNat code).toNat = code := by
  -- A number that is no code point gives the character zero, which is excluded.
  by_cases hvalid : code.isValidChar
  · have hchar : Char.ofNat code = Char.ofNatAux code hvalid := dif_pos hvalid
    rw [hchar]
    rfl
  · have hzero : (Char.ofNat code).toNat = 0 := congrArg Char.toNat (dif_neg hvalid)
    exact absurd hzero h

/-- A character that is moved to another comes from one of the runs. -/
theorem eq_or_origin_of_shiftBy {runs : List Run} {c d : Char} (hd : d.toNat ≠ 0)
    (h : shiftBy runs c = d) :
    c = d ∨ ∃ run ∈ runs, run.contains c.toNat ∧ c.toNat = run.origin d.toNat := by
  unfold shiftBy at h
  split at h
  · next run hrun =>
    -- The shift can be taken back, since the result is a character of its own number.
    have hmoved : d.toNat = ((c.toNat : Int) + run.shift).toNat := by
      subst h
      exact toNat_ofNat_of_ne_zero hd
    have hcontains : run.contains c.toNat := by simpa using List.find?_some hrun
    refine .inr ⟨run, List.mem_of_find?_eq_some hrun, hcontains, ?_⟩
    unfold Run.origin
    omega
  · exact .inl h

theorem all_longCapitals :
    longCapitals.all fun entry => 2 ≤ entry.2.length := by decide +kernel

/-- A character beyond the first ones has a long capital form, or one that a run leads to. -/
theorem upperChar_cases {c : Char} (hc : ¬c.toNat < 128) :
    2 ≤ (upperChar c).length ∨ upperChar c = [shiftBy capitalRuns c] := by
  unfold upperChar
  rw [if_neg hc]
  split
  · next codes hcodes =>
    -- The entry is one of the table, all of which are long.
    obtain ⟨front, back, hentries, -⟩ := List.lookup_eq_some_iff.mp hcodes
    have hmem : (c.toNat, codes) ∈ longCapitals := by simp [hentries]
    have hlong := List.all_eq_true.mp all_longCapitals _ hmem
    rw [List.length_map]
    exact .inl (of_decide_eq_true hlong)
  · exact .inr rfl

theorem length_upperChar_pos (c : Char) : 0 < (upperChar c).length := by
  by_cases hc : c.toNat < 128
  · simp [upperChar, hc]
  · rcases upperChar_cases hc with hlong | hrun
    · omega
    · simp [hrun]

/-- Capitals of one character are those of a text of one character. -/
theorem upper_eq_singleton_iff {text : String} {d : Char} :
    upper text = String.singleton d ↔ ∃ c, text = String.singleton c ∧ upperChar c = [d] := by
  have htext (c : Char) : text = String.singleton c ↔ text.toList = [c] := by
    rw [← String.toList_inj, String.toList_singleton]
  simp only [upper, htext]
  rw [String.singleton_eq_ofList, String.ofList_inj]
  constructor
  · intro h
    match hchars : text.toList with
    | [] => simp [hchars] at h
    | [c] => exact ⟨c, rfl, by simpa [hchars] using h⟩
    -- Two characters have two capitals at least.
    | c :: c' :: rest =>
      have hlength := congrArg List.length h
      have hc := length_upperChar_pos c
      have hc' := length_upperChar_pos c'
      simp only [hchars, List.flatMap_cons, List.length_append, List.length_singleton] at hlength
      omega
  · rintro ⟨c, hchars, hupper⟩
    simpa [hchars] using hupper

end Text

namespace Flag

/-! ## Names -/

/-- The characters whose capital form is the letter of the flag. -/
def letters : Flag → List Char
  | negative => ['N', 'n']
  | overflow => ['V', 'v']
  | brk => ['B', 'b']
  | decimal => ['D', 'd']
  | interrupt => ['I', 'i', 'ı']
  | zero => ['Z', 'z']
  | carry => ['C', 'c']

/-- The names of the flag. -/
def names (flag : Flag) : List String := flag.letters.map String.singleton

/-- The text is a name of some flag. -/
def Known (name : String) : Prop := ∃ flag : Flag, name ∈ flag.names

theorem mem_all (flag : Flag) : flag ∈ all := by cases flag <;> decide

instance (name : String) : Decidable (Known name) :=
  decidable_of_iff (∃ flag ∈ all, name ∈ names flag)
    ⟨fun ⟨flag, _, h⟩ => ⟨flag, h⟩, fun ⟨flag, h⟩ => ⟨flag, mem_all flag, h⟩⟩

/-- The flag that has the name. -/
def named? (name : String) : Option Flag := all.find? fun flag => name ∈ flag.names

theorem letter_injective {flag other : Flag} (h : flag.letter = other.letter) : flag = other := by
  revert h
  cases flag <;> cases other <;> decide

/-! ## Reading a name -/

/-- Among the first characters only the letter and its small form have the letter as capital. -/
theorem toUpper_eq_letter_iff (flag : Flag) :
    ∀ n < 128, (Char.ofNat n).toUpper = flag.letter ↔ Char.ofNat n ∈ flag.letters := by
  cases flag <;> decide

/-- Beyond them only one run leads to a letter, and starts from the small `ı`. -/
theorem origin_letter (flag : Flag) : Text.capitalRuns.all fun run =>
    let code := run.origin flag.letter.toNat
    !run.contains code || code < 128 || Char.ofNat code ∈ flag.letters := by
  cases flag <;> decide +kernel

theorem upperChar_of_mem {flag : Flag} {c : Char} (h : c ∈ flag.letters) :
    Text.upperChar c = [flag.letter] := by
  have hall : flag.letters.all fun c => Text.upperChar c == [flag.letter] := by
    cases flag <;> decide
  exact eq_of_beq (List.all_eq_true.mp hall c h)

theorem upperChar_eq_iff {flag : Flag} {c : Char} :
    Text.upperChar c = [flag.letter] ↔ c ∈ flag.letters := by
  refine ⟨fun h => ?_, upperChar_of_mem⟩
  by_cases hc : c.toNat < 128
  · have hupper := (toUpper_eq_letter_iff flag c.toNat hc).mp
    rw [Char.ofNat_toNat] at hupper
    exact hupper (by simpa [Text.upperChar, hc] using h)
  · rcases Text.upperChar_cases hc with hlong | hrun
    · -- A long form is not the one letter.
      simp [h] at hlong
    · have hletter : flag.letter.toNat ≠ 0 ∧ flag.letter.toNat < 128 := by
        cases flag <;> decide
      rw [hrun, List.singleton_inj] at h
      -- Either the character is the letter itself, one of the first, or a run leads to it.
      rcases Text.eq_or_origin_of_shiftBy hletter.1 h with rfl | ⟨run, hmem, hcontains, horigin⟩
      · exact absurd hletter.2 hc
      · have hletters := List.all_eq_true.mp (origin_letter flag) run hmem
        simpa [← horigin, hcontains, hc, Char.ofNat_toNat] using hletters

/-- The texts whose capitals are the letter of a flag are its names. -/
theorem upper_eq_iff {flag : Flag} {name : String} :
    Text.upper name = String.singleton flag.letter ↔ name ∈ flag.names := by
  simp only [Text.upper_eq_singleton_iff, upperChar_eq_iff, names, List.mem_map]
  exact exists_congr fun c => and_comm.trans (and_congr_right fun _ => eq_comm)

/-- No two flags have a name in common. -/
theorem eq_of_mem_names {flag other : Flag} {name : String} (h : name ∈ flag.names)
    (h' : name ∈ other.names) : flag = other := by
  have hletter := (upper_eq_iff.mpr h).symm.trans (upper_eq_iff.mpr h')
  exact letter_injective (String.singleton_inj.mp hletter)

theorem named?_of_mem {flag : Flag} {name : String} (h : name ∈ flag.names) :
    named? name = some flag := by
  unfold named?
  cases hfind : all.find? fun flag => name ∈ flag.names with
  | some other =>
    have hother : name ∈ other.names := by simpa using List.find?_some hfind
    -- The first flag found is the only one with this name.
    rw [eq_of_mem_names hother h]
  | none =>
    have hno := List.find?_eq_none.mp hfind flag (mem_all flag)
    exact absurd (decide_eq_true h) hno

theorem named?_of_unknown {name : String} (h : ¬Known name) : named? name = none :=
  List.find?_eq_none.mpr fun flag _ hname => h ⟨flag, of_decide_eq_true hname⟩

/-- A name is read as the flag that has it. One that no flag has is told in capitals. -/
theorem ofName?_eq (name : String) : ofName? name =
    match named? name with
    | some flag => .ok flag
    | none => .error ⟨Text.upper name⟩ := by
  have hsame : (fun flag : Flag => String.singleton flag.letter == Text.upper name) =
      fun flag : Flag => decide (name ∈ flag.names) := by
    funext flag
    rw [Bool.eq_iff_iff, beq_iff_eq, decide_eq_true_iff, ← upper_eq_iff, eq_comm]
  have hfind : (all.find? fun flag => String.singleton flag.letter == Text.upper name) =
      named? name := congrArg (all.find? ·) hsame
  cases hnamed : named? name with
  | some flag => simp only [ofName?, hfind, hnamed]
  | none => simp only [ofName?, hfind, hnamed]

theorem ofName?_of_mem {flag : Flag} {name : String} (h : name ∈ flag.names) :
    ofName? name = .ok flag := by
  rw [ofName?_eq, named?_of_mem h]

theorem ofName?_of_unknown {name : String} (h : ¬Known name) :
    ofName? name = .error ⟨Text.upper name⟩ := by
  rw [ofName?_eq, named?_of_unknown h]

end Flag

end Micro6502
