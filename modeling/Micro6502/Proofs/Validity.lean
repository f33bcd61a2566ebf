import Mathlib.Data.List.Forall2
import Micro6502.Proofs.Reading

/-!
# Which documents are read, and as what

A document whose parts have the expected shapes is read exactly if it is valid: the ends of every
region are there and in order, and every integer is one. What is converted to text, the name of the
architecture, the types of regions and the names of registers, must have a text besides. Nothing of
a document that is read is lost, and one that is refused is refused for its first flaw.

## Contents

- `Checked`, what a part reads as in view of its first flaw, with the rules for sequences
- `Value.IsInt` and `Value.IsName`, what values are read as, and `FieldReads`, the same under a key
- `regionFlaw?`, `registerFlaw?` and `documentFlaw?`, the checks in their order
- `DescribesRegion`, `Merges` and `Describes`, what is read from regions, registers and documents
- `WellShaped`, `Valid` and `Writable`, with `documentFlaw?_eq_none_iff`
- `parse_exact`
-/

namespace Micro6502.Config

open Text (CodePoints)

/-! ## Checks -/

/-- Why something is refused, if it is. -/
def flawOf (x : Except Error α) : Option Error :=
  match x with
  | .ok _ => none
  | .error e => some e

/-- What a part reads as: something good, and then it has no flaw. Or it is refused for its first
flaw. -/
def Checked (flaw? : Option Error) (good : α → Prop) (x : Except Error α) : Prop :=
  match x with
  | .ok a => flaw? = none ∧ good a
  | .error e => flaw? = some e

namespace Checked

variable {flaw? flaw'? : Option Error} {good : α → Prop}

theorem of_ok {a : α} (h : good a) : Checked none good (.ok a) := ⟨rfl, h⟩

theorem of_error (e : Error) : Checked (some e) good (.error e : Except Error α) := rfl

theorem refl (x : Except Error α) : Checked (flawOf x) (x = .ok ·) x := by
  cases x with
  | error e => rfl
  | ok a => exact ⟨rfl, rfl⟩

theorem mono {good' : α → Prop} {x : Except Error α} (h : Checked flaw? good x)
    (hgood : ∀ a, good a → good' a) : Checked flaw? good' x := by
  cases x with
  | error e => exact h
  | ok a => exact ⟨h.1, hgood a h.2⟩

/-- The checks of a sequence are made in order. -/
theorem bind {mid : α → Prop} {good : β → Prop} {x : Except Error α} {next : α → Except Error β}
    (hx : Checked flaw? mid x) (hnext : ∀ a, mid a → Checked flaw'? good (next a)) :
    Checked (flaw?.or flaw'?) good (x >>= next) := by
  cases x with
  | error e =>
    -- The first flaw is that of the first part, whatever comes behind.
    obtain rfl : flaw? = some e := hx
    rfl
  | ok a =>
    obtain ⟨rfl, ha⟩ := hx
    exact hnext a ha

theorem map {good : β → Prop} {x : Except Error α} {f : α → β}
    (h : Checked flaw? (fun a => good (f a)) x) : Checked flaw? good (x.map f) := by
  cases x <;> exact h

/-- A sequence in which nothing can go wrong behind the first part. -/
theorem bind_ok {mid : α → Prop} {good : β → Prop} {x : Except Error α} {next : α → Except Error β}
    (hx : Checked flaw? mid x) (hnext : ∀ a, mid a → Checked none good (next a)) :
    Checked flaw? good (x >>= next) := by
  have h := hx.bind hnext
  rwa [Option.or_none] at h

theorem isOk_iff {x : Except Error α} (h : Checked flaw? good x) :
    (∃ a, x = .ok a) ↔ flaw? = none := by
  cases x with
  | error e => simp [show flaw? = some e from h]
  | ok a => simp [h.1]

theorem eq_error_iff {x : Except Error α} (h : Checked flaw? good x) (e : Error) :
    x = .error e ↔ flaw? = some e := by
  cases x with
  | error e' => simp [show flaw? = some e' from h]
  | ok a => simp [h.1]

end Checked

/-! ## Values -/

/-- Some integers have more digits than are written. -/
theorem exists_whole?_eq_none : ∃ n : Int, Decimal.whole? n = none := by
  -- The least integer with one digit too many.
  refine ⟨(Nat.pow 10 Decimal.maxDigits : Nat), ?_⟩
  rw [Decimal.whole?, Int.natAbs_natCast]
  exact if_neg (Nat.lt_irrefl _)

namespace Value

/-- The error about a value that cannot be used. It says what the value is, if that can be said. -/
def complaint (v : Value) (report : CodePoints → Error) : Error :=
  match v.display? with
  | some text => report text
  | none => .tooManyDigits

/-- The value is read as an integer. -/
def IsInt (v : Value) (n : Int) : Prop := parseInt v = .ok n

/-- The value is read as a text, which is changed by letter case alone. -/
def IsName (change : CodePoints → CodePoints) (v : Value) (name : CodePoints) : Prop :=
  ∃ text, v.display? = some text ∧ name = change text

/-- Why the value is no integer. -/
def intFlaw? (v : Value) : Option Error := flawOf (parseInt v)

/-- Why the value has no text. -/
def textFlaw? (v : Value) : Option Error := if v.display?.isSome then none else some .tooManyDigits

/-- The entries of a mapping. -/
def fields (v : Value) : List (Scalar × Value) :=
  match v.view with
  | .mapping fields => fields
  | _ => []

end Value

theorem Value.intFlaw?_eq_none_iff {v : Value} : v.intFlaw? = none ↔ ∃ n, v.IsInt n :=
  (Checked.refl (parseInt v)).isOk_iff.symm

theorem Value.textFlaw?_eq_none_iff {v : Value} : v.textFlaw? = none ↔ v.display?.isSome := by
  unfold textFlaw?
  split <;> simp_all

theorem textOf_checked (v : Value) :
    Checked v.textFlaw? (v.display? = some ·) (textOf v) := by
  unfold textOf Value.textFlaw?
  cases hdisplay : v.display? with
  | none => rfl
  | some text => exact ⟨rfl, rfl⟩

theorem refuseInt_eq (v : Value) : refuseInt v = .error (v.complaint .notAnInteger) := by
  unfold refuseInt textOf Value.complaint
  cases v.display? <;> rfl

theorem refuseRegion_eq (region : Value) :
    refuseRegion region = .error (region.complaint .endsMissing) := by
  unfold refuseRegion textOf Value.complaint
  cases region.display? <;> rfl

/-! ## Fields -/

/-- What is read from the value under a key, or else the default. -/
def FieldReads (entries : List (Scalar × Value)) (name : String) (default : α)
    (read : Value → α → Prop) (a : α) : Prop :=
  match lookup? entries name with
  | some v => read v a
  | none => a = default

/-- The flaw of the value under a key. Without a value there is none. -/
def fieldFlaw? (entries : List (Scalar × Value)) (name : String) (flaw? : Value → Option Error) :
    Option Error :=
  (lookup? entries name).bind flaw?

theorem fieldFlaw?_eq_none_iff {entries : List (Scalar × Value)} {name : String}
    {flaw? : Value → Option Error} :
    fieldFlaw? entries name flaw? = none ↔ ∀ v, lookup? entries name = some v → flaw? v = none := by
  simp [fieldFlaw?, Option.bind_eq_none_iff]

section Fields

variable (entries : List (Scalar × Value)) (name : String)

theorem field_checked {default : α} {flaw? : Value → Option Error} {good : Value → α → Prop}
    {read : Value → Except Error α} (hread : ∀ v, Checked (flaw? v) (good v) (read v)) :
    Checked (fieldFlaw? entries name flaw?) (FieldReads entries name default good)
      (match lookup? entries name with
        | some v => read v
        | none => .ok default) := by
  unfold fieldFlaw? FieldReads
  cases lookup? entries name with
  | none => exact .of_ok rfl
  | some v => exact hread v

theorem intField_checked (default : Int) :
    Checked (fieldFlaw? entries name Value.intFlaw?) (FieldReads entries name default Value.IsInt)
      (intField entries name default) :=
  field_checked entries name fun v => .refl (parseInt v)

theorem nameField_checked (default : String) :
    Checked (fieldFlaw? entries name Value.textFlaw?)
      (FieldReads entries name (CodePoints.upper default) (Value.IsName CodePoints.upper))
      (nameField entries name default) :=
  field_checked entries name fun v => .map ((textOf_checked v).mono fun text h => ⟨text, h, rfl⟩)

end Fields

/-! ## Regions -/

/-- Why two ends are refused that are integers. They must be on the bus and in order. -/
def rangeFlaw? (first last : Value) : Option Error :=
  match parseInt first, parseInt last with
  | .ok a, .ok b => if 0 ≤ a ∧ a ≤ b ∧ b ≤ 0xFFFF then none else some (.rangeInvalid a b)
  | _, _ => none

/-- The first flaw of a region: it lacks an end, one of its fields is not what it should be, or the
ends are out of range. -/
def regionFlaw? (region : Value) : Option Error :=
  match lookup? region.fields "start", lookup? region.fields "end" with
  | some first, some last =>
    first.intFlaw?
      |>.or last.intFlaw?
      |>.or (fieldFlaw? region.fields "type" Value.textFlaw?)
      |>.or (fieldFlaw? region.fields "initial_value" Value.intFlaw?)
      |>.or (rangeFlaw? first last)
  | _, _ => some (region.complaint .endsMissing)

/-- What is read from the fields of a region. -/
structure DescribesRegion (fields : List (Scalar × Value)) (region : RegionSpec) : Prop where
  first : ∃ v, lookup? fields "start" = some v ∧ v.IsInt region.first
  last : ∃ v, lookup? fields "end" = some v ∧ v.IsInt region.last
  type : FieldReads fields "type" (.ofString "RAM") (Value.IsName CodePoints.upper) region.type
  label : region.label = (lookup? fields "label").getD (.scalar (.ofString ""))
  fill : FieldReads fields "initial_value" 0 Value.IsInt region.fill

theorem parseRegion_eq_of_mapping {region : Value} {fields : List (Scalar × Value)}
    (hview : region.view = .mapping fields) :
    parseRegion region =
      match lookup? fields "start", lookup? fields "end" with
      | some first, some last => regionOfEntries fields first last
      | _, _ => .error (region.complaint .endsMissing) := by
  unfold parseRegion
  simp only [mentions, hview]
  cases lookup? fields "start" <;> cases lookup? fields "end" <;>
    first | rfl | exact refuseRegion_eq region

theorem regionOfEntries_checked {fields : List (Scalar × Value)} {first last : Value}
    (hfirst : lookup? fields "start" = some first) (hlast : lookup? fields "end" = some last) :
    Checked
      (first.intFlaw?
        |>.or last.intFlaw?
        |>.or (fieldFlaw? fields "type" Value.textFlaw?)
        |>.or (fieldFlaw? fields "initial_value" Value.intFlaw?)
        |>.or (rangeFlaw? first last))
      (DescribesRegion fields) (regionOfEntries fields first last) := by
  simp only [Option.or_assoc]
  -- Field by field, in the order in which they are read.
  refine (Checked.refl (parseInt first)).bind fun a ha => ?_
  refine (Checked.refl (parseInt last)).bind fun b hb => ?_
  refine (nameField_checked fields "type" "RAM").bind fun type htype => ?_
  refine (intField_checked fields "initial_value" 0).bind fun fill hfill => ?_
  simp only [rangeFlaw?, ha, hb]
  split
  · exact .of_ok ⟨⟨first, hfirst, ha⟩, ⟨last, hlast, hb⟩, htype, rfl, hfill⟩
  · exact .of_error _

theorem parseRegion_checked {region : Value} {fields : List (Scalar × Value)}
    (hview : region.view = .mapping fields) :
    Checked (regionFlaw? region) (DescribesRegion region.fields) (parseRegion region) := by
  have hfields : region.fields = fields := by rw [Value.fields, hview]
  rw [parseRegion_eq_of_mapping hview, regionFlaw?, hfields]
  cases hfirst : lookup? fields "start" <;> cases hlast : lookup? fields "end"
  case some.some first last => exact regionOfEntries_checked hfirst hlast
  all_goals exact .of_error _

/-- The first flaw of a list is that of its head, or else that of the rest. -/
theorem findSome?_cons_eq_or (flaw? : α → Option Error) (a : α) (rest : List α) :
    (a :: rest).findSome? flaw? = (flaw? a).or (rest.findSome? flaw?) := by
  rw [List.findSome?_cons]
  cases flaw? a <;> rfl

theorem parseRegions_checked {regions : List Value}
    (hregions : ∀ region ∈ regions, ∃ fields, region.view = .mapping fields) :
    Checked (regions.findSome? regionFlaw?)
      (List.Forall₂ (fun region spec => DescribesRegion region.fields spec) regions)
      (parseRegions regions) := by
  induction regions with
  | nil => exact .of_ok .nil
  | cons region rest ih =>
    obtain ⟨⟨fields, hview⟩, hrest⟩ := List.forall_mem_cons.mp hregions
    rw [findSome?_cons_eq_or]
    unfold parseRegions
    refine (parseRegion_checked hview).bind fun spec hspec => ?_
    exact (ih hrest).bind_ok fun specs hspecs => .of_ok (.cons hspec hspecs)

/-! ## Registers -/

/-- Why a register is refused. Its name comes before its value. -/
def registerFlaw? (field : Scalar × Value) : Option Error :=
  (Value.scalar field.1).textFlaw?.or field.2.intFlaw?

/-- What is read from a name and a value. -/
def DescribesRegister (field : Scalar × Value) (register : CodePoints × Int) : Prop :=
  (Value.scalar field.1).IsName CodePoints.lower register.1 ∧ field.2.IsInt register.2

/-- The registers are those that are given: every name once, in the order in which the names appear
first, with the value that is given last. -/
structure Merges (given registers : List (CodePoints × Int)) : Prop where
  names : registers.map Prod.fst = (given.map Prod.fst).eraseDups
  values : ∀ name, registers.lookup name = given.reverse.lookup name

theorem lookup_setRegister (registers : List (CodePoints × Int)) (name other : CodePoints)
    (n : Int) :
    (setRegister registers name n).lookup other =
      if other = name then some n else registers.lookup other := by
  induction registers with
  | nil => grind [Config.setRegister]
  | cons entry rest ih => grind [Config.setRegister]

theorem Merges.setRegister {given registers : List (CodePoints × Int)} (h : Merges given registers)
    (name : CodePoints) (n : Int) :
    Merges (given ++ [(name, n)]) (setRegister registers name n) where
  names := by
    have hmem : name ∈ registers.map Prod.fst ↔ name ∈ given.map Prod.fst := by
      rw [h.names, List.mem_eraseDups]
    rw [names_setRegister, List.map_append, List.eraseDups_append, ← h.names]
    -- A name that is there keeps its place, and a new one is put at the end.
    by_cases hname : name ∈ registers.map Prod.fst
    · have hgiven := hmem.mp hname
      simp [hname, hgiven, List.removeAll]
    · have hnew := mt hmem.mpr hname
      simp [hname, hnew, List.removeAll, List.eraseDups_cons]
  values other := by
    -- Looked up from the end, the last value under a name is met first.
    rw [lookup_setRegister, h.values, List.reverse_append, List.reverse_singleton,
      List.singleton_append, List.lookup_cons]
    by_cases hname : other = name
    · simp [hname]
    · rw [if_neg hname, beq_false_of_ne hname]

theorem parseRegisters_checked (fields : List (Scalar × Value))
    {given registers : List (CodePoints × Int)} (h : Merges given registers) :
    Checked (fields.findSome? registerFlaw?)
      (fun registers => ∃ more, List.Forall₂ DescribesRegister fields more ∧
        Merges (given ++ more) registers)
      (parseRegisters registers fields) := by
  induction fields generalizing given registers with
  | nil => exact .of_ok ⟨[], .nil, by rwa [List.append_nil]⟩
  | cons field rest ih =>
    rw [findSome?_cons_eq_or, registerFlaw?, Option.or_assoc]
    unfold parseRegisters
    refine (textOf_checked _).bind fun text htext => ?_
    refine (Checked.refl (parseInt field.2)).bind fun n hn => ?_
    -- What is read from the rest is merged into what this register has been put into.
    refine (ih (h.setRegister text.lower n)).mono ?_
    rintro registers ⟨more, hmore, hmerges⟩
    refine ⟨(text.lower, n) :: more, .cons ⟨⟨text, htext, rfl⟩, hn⟩ hmore, ?_⟩
    rwa [List.append_assoc] at hmerges

/-- Names that differ in a surrogate only are the names of two registers. -/
example :
    parseRegisters [] [(.text ⟨[0xD800]⟩, .scalar (.int 1)), (.text ⟨[0xD801]⟩, .scalar (.int 2))] =
      .ok [(⟨[0xD800]⟩, 1), (⟨[0xD801]⟩, 2)] := rfl

/-! ## Documents -/

/-- The regions in the list under `memory_map`. -/
def regionsOf (entries : List (Scalar × Value)) : List Value :=
  match (lookup? entries "memory_map").map Value.view with
  | some (.list regions) => regions
  | _ => []

/-- The value counts as false, or it is a mapping. -/
def Value.StandsForFields (v : Value) : Prop :=
  v.isTruthy = false ∨ ∃ fields, v.view = .mapping fields

/-- The parts of a document have the shapes that reading expects. -/
structure WellShaped (entries : List (Scalar × Value)) : Prop where
  map : ∀ v, lookup? entries "memory_map" = some v →
    ∃ regions, v.view = .list regions ∧ ∀ region ∈ regions, ∃ fields, region.view = .mapping fields
  state : ∀ v, lookup? entries "initial_state" = some v → v.StandsForFields
  registers : ∀ v, lookup? (fieldsOf entries "initial_state") "registers" = some v →
    v.StandsForFields

/-- Why the value of the open bus is refused. Nothing stands for no value. -/
def Value.openBusFlaw? (v : Value) : Option Error :=
  match v.view with
  | .scalar .null => none
  | _ => v.intFlaw?

/-- The value is read as the value of the open bus. -/
def Value.IsOpenBus (v : Value) (openBus : Option Int) : Prop :=
  match v.view with
  | .scalar .null => openBus = none
  | _ => ∃ n, v.IsInt n ∧ openBus = some n

/-- The first flaw of a document. -/
def documentFlaw? (entries : List (Scalar × Value)) : Option Error :=
  let state := fieldsOf entries "initial_state"
  fieldFlaw? entries "architecture" Value.textFlaw?
    |>.or ((regionsOf entries).findSome? regionFlaw?)
    |>.or (fieldFlaw? state "pc" Value.intFlaw?)
    |>.or (fieldFlaw? state "sp" Value.intFlaw?)
    |>.or ((fieldsOf state "registers").findSome? registerFlaw?)
    |>.or (fieldFlaw? entries "open_bus_value" Value.openBusFlaw?)

/-- What is read from the fields of the initial state. -/
structure DescribesState (fields : List (Scalar × Value)) (s : InitialState) : Prop where
  useResetVector :
    s.useResetVector = ((lookup? fields "use_reset_vector").map Value.isTruthy).getD true
  pc : FieldReads fields "pc" 0 Value.IsInt s.pc
  sp : FieldReads fields "sp" 0xFD Value.IsInt s.sp
  registers : ∃ given, List.Forall₂ DescribesRegister (fieldsOf fields "registers") given ∧
    Merges given s.registers

/-- What is read from the entries of a document. -/
structure Describes (entries : List (Scalar × Value)) (system : SystemSpec) : Prop where
  architecture :
    FieldReads entries "architecture" (.ofString "MOS6502") (Value.IsName CodePoints.upper)
      system.architecture
  regions : List.Forall₂ (fun region spec => DescribesRegion region.fields spec) (regionsOf entries)
    system.regions
  openBus : FieldReads entries "open_bus_value" none Value.IsOpenBus system.openBus
  initialState : DescribesState (fieldsOf entries "initial_state") system.initialState

theorem entriesField_eq {entries : List (Scalar × Value)} {name : String}
    (h : ∀ v, lookup? entries name = some v → v.StandsForFields) :
    entriesField entries name = .ok (fieldsOf entries name) := by
  unfold entriesField fieldsOf
  cases hfield : lookup? entries name with
  | none => rfl
  | some v =>
    cases htruthy : v.isTruthy with
    | true =>
      -- What counts as true has to be a mapping here.
      obtain ⟨fields, hview⟩ := (h v hfield).resolve_left (by simp [htruthy])
      simp [htruthy, hview]
    | false =>
      -- A mapping counts as false only if it has no entries.
      cases hview : v.view with
      | mapping fields =>
        obtain rfl : fields = [] := by simpa [Value.isTruthy, hview] using htruthy
        simp [htruthy, hview]
      | scalar | list => simp [htruthy, hview]

theorem parseMap_checked {entries : List (Scalar × Value)} (h : WellShaped entries) :
    Checked ((regionsOf entries).findSome? regionFlaw?)
      (List.Forall₂ (fun region spec => DescribesRegion region.fields spec) (regionsOf entries))
      (match lookup? entries "memory_map" with
        | some map => regionValues map >>= parseRegions
        | none => .ok []) := by
  unfold regionsOf
  cases hmap : lookup? entries "memory_map" with
  | none => exact .of_ok .nil
  | some map =>
    -- By its shape the document has a list of mappings here.
    obtain ⟨regions, hview, hregions⟩ := h.map map hmap
    simp only [Option.map_some, hview, regionValues]
    exact parseRegions_checked hregions

theorem parseInitialState_checked {fields : List (Scalar × Value)}
    (h : ∀ v, lookup? fields "registers" = some v → v.StandsForFields) :
    Checked
      (fieldFlaw? fields "pc" Value.intFlaw?
        |>.or (fieldFlaw? fields "sp" Value.intFlaw?)
        |>.or ((fieldsOf fields "registers").findSome? registerFlaw?))
      (DescribesState fields) (parseInitialState fields) := by
  rw [Option.or_assoc]
  unfold parseInitialState
  refine (intField_checked fields "pc" 0).bind fun pc hpc => ?_
  refine (intField_checked fields "sp" 0xFD).bind fun sp hsp => ?_
  rw [entriesField_eq h]
  have hempty : Merges [] [] := ⟨rfl, fun _ => rfl⟩
  refine (parseRegisters_checked _ hempty).bind_ok fun registers hregisters => ?_
  exact .of_ok ⟨rfl, hpc, hsp, hregisters⟩

theorem parseOpenBus_checked (v : Value) :
    Checked v.openBusFlaw? v.IsOpenBus (parseOpenBus v) := by
  have hint : Checked v.intFlaw? (fun openBus => ∃ n, v.IsInt n ∧ openBus = some n)
      ((parseInt v).map some) :=
    .map ((Checked.refl (parseInt v)).mono fun n hn => ⟨n, hn, rfl⟩)
  unfold Value.openBusFlaw? Value.IsOpenBus parseOpenBus
  cases v.view with
  | scalar s =>
    cases s with
    -- Nothing stands for no open bus, and only here.
    | null => exact .of_ok rfl
    | _ => exact hint
  | _ => exact hint

theorem parseEntries_checked {entries : List (Scalar × Value)} (h : WellShaped entries) :
    Checked (documentFlaw? entries) (Describes entries) (parseEntries entries) := by
  rw [parseEntries_eq]
  simp only [documentFlaw?, Option.or_assoc]
  -- The parts are checked in the order in which they are read.
  refine (nameField_checked entries "architecture" "MOS6502").bind fun architecture harch => ?_
  refine (parseMap_checked h).bind fun regions hregions => ?_
  rw [entriesField_eq h.state, ← Option.or_assoc, ← Option.or_assoc]
  refine (parseInitialState_checked h.registers).bind fun state hstate => .map ?_
  exact (field_checked entries "open_bus_value" parseOpenBus_checked).mono fun openBus hopenBus =>
    ⟨harch, hregions, hopenBus, hstate⟩

/-! ## Valid documents -/

/-- The value is an integer in one of the notations for integers. -/
def Value.Accepted (v : Value) : Prop := ∃ n, v.IsInt n

/-- A region has both ends, these are on the bus and in order, and the value of its cells is an
integer, if there is one. -/
def RegionValid (fields : List (Scalar × Value)) : Prop :=
  (∃ v w first last, lookup? fields "start" = some v ∧ lookup? fields "end" = some w ∧
    v.IsInt first ∧ w.IsInt last ∧ 0 ≤ first ∧ first ≤ last ∧ last ≤ 0xFFFF) ∧
  ∀ v, lookup? fields "initial_value" = some v → v.Accepted

/-- All regions are valid, and all integers that are there are integers. -/
structure Valid (entries : List (Scalar × Value)) : Prop where
  regions : ∀ region ∈ regionsOf entries, RegionValid region.fields
  pc : ∀ v, lookup? (fieldsOf entries "initial_state") "pc" = some v → v.Accepted
  sp : ∀ v, lookup? (fieldsOf entries "initial_state") "sp" = some v → v.Accepted
  registers : ∀ field ∈ fieldsOf (fieldsOf entries "initial_state") "registers", field.2.Accepted
  openBus : ∀ v, lookup? entries "open_bus_value" = some v → v.view = .scalar .null ∨ v.Accepted

/-- All that is converted to text has a text. -/
structure Writable (entries : List (Scalar × Value)) : Prop where
  architecture : ∀ v, lookup? entries "architecture" = some v → v.display?.isSome
  types : ∀ region ∈ regionsOf entries, ∀ v, lookup? region.fields "type" = some v →
    v.display?.isSome
  registers : ∀ field ∈ fieldsOf (fieldsOf entries "initial_state") "registers",
    field.1.display?.isSome

theorem rangeFlaw?_eq_none_iff {v w : Value} {first last : Int} (hfirst : v.IsInt first)
    (hlast : w.IsInt last) :
    rangeFlaw? v w = none ↔ 0 ≤ first ∧ first ≤ last ∧ last ≤ 0xFFFF := by
  simp only [rangeFlaw?, show parseInt v = _ from hfirst, show parseInt w = _ from hlast]
  split <;> simp_all

theorem regionFlaw?_eq_none_iff {region : Value} :
    regionFlaw? region = none ↔ RegionValid region.fields ∧
      ∀ v, lookup? region.fields "type" = some v → v.display?.isSome := by
  unfold regionFlaw? RegionValid
  cases hfirst : lookup? region.fields "start" <;> cases hlast : lookup? region.fields "end"
  case some.some v w =>
    simp only [Option.or_eq_none_iff, Value.intFlaw?_eq_none_iff, fieldFlaw?_eq_none_iff,
      Value.textFlaw?_eq_none_iff]
    constructor
    · -- Both ends are integers before their order is looked at.
      rintro ⟨⟨⟨⟨⟨first, hv⟩, last, hw⟩, htype⟩, hfill⟩, hrange⟩
      have hrange := (rangeFlaw?_eq_none_iff hv hw).mp hrange
      exact ⟨⟨⟨v, w, first, last, rfl, rfl, hv, hw, hrange⟩, hfill⟩, htype⟩
    · rintro ⟨⟨⟨_, _, first, last, ⟨⟩, ⟨⟩, hv, hw, hrange⟩, hfill⟩, htype⟩
      have hrange := (rangeFlaw?_eq_none_iff hv hw).mpr hrange
      exact ⟨⟨⟨⟨⟨first, hv⟩, last, hw⟩, htype⟩, hfill⟩, hrange⟩
  all_goals simp

theorem openBusFlaw?_eq_none_iff {v : Value} :
    v.openBusFlaw? = none ↔ v.view = .scalar .null ∨ v.Accepted := by
  unfold Value.openBusFlaw?
  split
  · next hview => simp [hview]
  · next hview => exact Value.intFlaw?_eq_none_iff.trans (or_iff_right hview).symm

theorem documentFlaw?_eq_none_iff {entries : List (Scalar × Value)} :
    documentFlaw? entries = none ↔ Valid entries ∧ Writable entries := by
  simp only [documentFlaw?, Option.or_eq_none_iff, List.findSome?_eq_none_iff,
    fieldFlaw?_eq_none_iff, Value.textFlaw?_eq_none_iff, Value.intFlaw?_eq_none_iff,
    openBusFlaw?_eq_none_iff, regionFlaw?_eq_none_iff, registerFlaw?]
  constructor
  · rintro ⟨⟨⟨⟨⟨harchitecture, hregions⟩, hpc⟩, hsp⟩, hregisters⟩, hopenBus⟩
    exact ⟨⟨fun region h => (hregions region h).1, hpc, hsp,
        fun field h => (hregisters field h).2, hopenBus⟩,
      ⟨harchitecture, fun region h => (hregions region h).2,
        fun field h => (hregisters field h).1⟩⟩
  · rintro ⟨hvalid, hwritable⟩
    exact ⟨⟨⟨⟨⟨hwritable.architecture,
      fun region h => ⟨hvalid.regions region h, hwritable.types region h⟩⟩, hvalid.pc⟩, hvalid.sp⟩,
      fun field h => ⟨hwritable.registers field h, hvalid.registers field h⟩⟩, hvalid.openBus⟩

/-! ## Exactness -/

/-- Reading is exact on documents whose parts have the expected shapes.

A document is read if and only if it is valid and all that is converted to text has a text. What is
read is what the document describes, region by region and register by register. A document that is
refused is refused for its first flaw: the name of the architecture is looked at first, then the
regions one by one, then the initial state with its registers, and then the open bus. -/
theorem parse_exact {document : Value} {entries : List (Scalar × Value)}
    (hdocument : document.view = .mapping entries) (hshape : WellShaped entries) :
    ((∃ system, parse document = .ok system) ↔ Valid entries ∧ Writable entries) ∧
    (∀ system, parse document = .ok system → Describes entries system) ∧
    ∀ e, parse document = .error e ↔ documentFlaw? entries = some e := by
  have hchecked := parseEntries_checked hshape
  have hparse : parse document = parseEntries entries := by rw [parse, hdocument]
  rw [hparse]
  refine ⟨hchecked.isOk_iff.trans documentFlaw?_eq_none_iff, fun system hsystem => ?_,
    hchecked.eq_error_iff⟩
  rw [hsystem] at hchecked
  exact hchecked.2

/-- A register named twice, in different letters, and a region whose type is in small letters. -/
theorem parse_exact_renamed :
    let region : List (Scalar × Part) :=
      [(.ofString "start", .scalar (.ofString "$C000")), (.ofString "end", .scalar (.int 0xFFFF)),
        (.ofString "type", .scalar (.ofString "rom"))]
    let registers : List (Scalar × Part) :=
      [(.ofString "X", .scalar (.int 1)), (.ofString "a", .scalar (.ofString "0x10")),
        (.ofString "x", .scalar (.int 3))]
    let state : List (Scalar × Part) := [(.ofString "registers", .mapping registers)]
    let document := Value.ofPart (.mapping
      [(.ofString "memory_map", .list [.mapping region]),
        (.ofString "initial_state", .mapping state)])
    let entries : List (Scalar × Value) :=
      [(.ofString "memory_map", .ofPart (.list [.mapping region])),
        (.ofString "initial_state", .ofPart (.mapping state))]
    let system : SystemSpec :=
      { regions := [⟨0xC000, 0xFFFF, "ROM", .scalar (.ofString ""), 0⟩]
        initialState := { registers := [("x", 3), ("a", 16)] } }
    document.view = .mapping entries ∧ WellShaped entries ∧ parse document = .ok system ∧
      Valid entries ∧ Describes entries system := by
  intro region registers state document entries system
  have hview : document.view = .mapping entries := rfl
  have hmap (v : Value) (hv : some (.ofPart (.list [.mapping region])) = some v) :
      ∃ regions, v.view = .list regions ∧
        ∀ region ∈ regions, ∃ fields, region.view = .mapping fields := by
    obtain rfl := Option.some.inj hv
    refine ⟨_, rfl, fun value hvalue => ?_⟩
    obtain rfl := List.mem_singleton.mp hvalue
    exact ⟨_, rfl⟩
  have hfields (fields : List (Scalar × Part)) (v : Value)
      (hv : some (.ofPart (.mapping fields)) = some v) : v.StandsForFields := by
    obtain rfl := Option.some.inj hv
    exact .inr ⟨_, rfl⟩
  have hshape : WellShaped entries := ⟨hmap, hfields state, hfields registers⟩
  have hparse : parse document = .ok system := rfl
  obtain ⟨hread, hdescribes, -⟩ := parse_exact hview hshape
  exact ⟨hview, hshape, hparse, (hread.mp ⟨system, hparse⟩).1, hdescribes system hparse⟩

/-- A valid document need not be read: an integer can be too long for an architecture. -/
theorem parse_unwritable :
    ¬ ∀ (document : Value) (entries : List (Scalar × Value)), document.view = .mapping entries →
      WellShaped entries → ((∃ system, parse document = .ok system) ↔ Valid entries) := by
  intro h
  obtain ⟨n, hn⟩ := exists_whole?_eq_none
  obtain ⟨entries, hentries⟩ :
      ∃ entries, entries = [(Scalar.ofString "architecture", Value.scalar (.int n))] := ⟨_, rfl⟩
  have hname : lookup? entries "architecture" = some (.scalar (.int n)) := hentries ▸ rfl
  have hmap : lookup? entries "memory_map" = none := hentries ▸ rfl
  have hstate : lookup? entries "initial_state" = none := hentries ▸ rfl
  have hbus : lookup? entries "open_bus_value" = none := hentries ▸ rfl
  have hregions : regionsOf entries = [] := by simp [regionsOf, hmap]
  have hfields : fieldsOf entries "initial_state" = [] := by simp [fieldsOf, hstate]
  have hnone (name : String) : lookup? ([] : List (Scalar × Value)) name = none := rfl
  have hregisters : fieldsOf [] "registers" = [] := rfl
  have hshape : WellShaped entries :=
    ⟨by simp [hmap], by simp [hstate], by simp [hfields, hnone]⟩
  have hvalid : Valid entries :=
    ⟨by simp [hregions], by simp [hfields, hnone], by simp [hfields, hnone],
      by simp [hfields, hregisters], by simp [hbus]⟩
  -- The document is read only if the name of the architecture has a text.
  have hread := (parseEntries_checked hshape).isOk_iff.trans documentFlaw?_eq_none_iff
  have hdocument : (Value.mk #[] (.mapping [(.ofString "architecture", .scalar (.int n))])).view =
      .mapping entries := hentries ▸ rfl
  have hparse := (h _ entries hdocument hshape).mpr hvalid
  rw [parse, hdocument] at hparse
  obtain ⟨-, hwritable⟩ := hread.mp hparse
  have hdisplay : (Value.scalar (.int n)).display? = none := by
    simp [Value.display?, Scalar.display?, Scalar.quoted?, hn]
  simpa [hdisplay] using hwritable.architecture _ hname

end Micro6502.Config
