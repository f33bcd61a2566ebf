import Micro6502.Config.Load

/-!
# What reading a description does not report

A description is put together from parts whose shapes are arbitrary. Most flaws are reported, but
reading walks through some parts and looks into others without a look at their shape first, and it
writes what it reports in decimal digits, of which there may be too many. A misfit is a part on
which it fails in this way. What is refused is reported or is a misfit, and no document with a
misfit is read.

## Contents

- `Error.isReport`
- `Reads`, what a part reads as, with the rules for sequences
- `Value.Unwritable`, `Value.NoNumber` and `Value.Misshapen`, and from them `RegionMisfit`,
  `MapMisfit`, `StateMisfit` and `Misfit`, the misfits of the parts
- `RegionSpec.InOrder` and `SystemSpec.Proper`, what is known of a description that has been read
- `parseEntries_reads`, from the lemmas for the parts, and `parse_reports`
-/

namespace Micro6502.Config

open Text (CodePoints)

/-! ## Reports -/

/-- The error is reported as one of the description. -/
def Error.isReport : Error → Bool
  | unreadable flaw => flaw == .malformed
  | rootNotMapping | endsMissing _ | notAnInteger _ | rangeInvalid .. | architectureUnsupported _
  | registerUnknown _ => true
  | tooManyDigits | mapMisshapen | stateMisshapen | refused _ => false

/-- What a part reads as: something good, and then it is no misfit. Or it is refused, and this is
reported, or it is a misfit. -/
def Reads (misfit : Error → Prop) (good : α → Prop) (x : Except Error α) : Prop :=
  match x with
  | .ok a => good a ∧ ∀ e, ¬ misfit e
  | .error e => e.isReport = true ∨ misfit e

namespace Reads

variable {misfit misfit' : Error → Prop} {good : α → Prop}

theorem of_ok {a : α} (h : good a) : Reads (fun _ => False) good (.ok a) := ⟨h, fun _ => id⟩

theorem of_report {e : Error} (h : e.isReport = true) :
    Reads (fun _ => False) good (.error e : Except Error α) := .inl h

/-- A sequence is refused where one of its parts is. -/
theorem bind {mid : α → Prop} {good : β → Prop} {x : Except Error α}
    {next : α → Except Error β} (hx : Reads misfit mid x)
    (hnext : ∀ a, mid a → Reads misfit' good (next a)) :
    Reads (fun e => misfit e ∨ misfit' e) good (x >>= next) := by
  cases x with
  | error e => exact hx.imp_right .inl
  | ok a =>
    show Reads _ good (next a)
    obtain ⟨ha, hfits⟩ := hx
    have hb := hnext a ha
    -- The first part is no misfit, since it has been read.
    generalize next a = y at hb
    cases y with
    | error e => exact hb.imp_right .inr
    | ok b => exact ⟨hb.1, fun e h => h.elim (hfits e) (hb.2 e)⟩

theorem map {good : β → Prop} {x : Except Error α} {f : α → β}
    (hx : Reads misfit (fun a => good (f a)) x) : Reads misfit good (x.map f) := by
  cases x <;> exact hx

theorem mono {good' : α → Prop} {x : Except Error α} (h : Reads misfit good x)
    (hmisfit : ∀ e, misfit e ↔ misfit' e) (hgood : ∀ a, good a → good' a) :
    Reads misfit' good' x := by
  cases x with
  | error e => exact h.imp_right (hmisfit e).mp
  | ok a => exact ⟨hgood a h.1, fun e he => h.2 e ((hmisfit e).mpr he)⟩

/-- Where no part that follows is a misfit, only the first can be one. -/
theorem bind_fits {mid : α → Prop} {good : β → Prop} {x : Except Error α}
    {next : α → Except Error β} (hx : Reads misfit mid x)
    (hnext : ∀ a, mid a → Reads (fun _ => False) good (next a)) :
    Reads misfit good (x >>= next) :=
  (hx.bind hnext).mono (fun _ => or_iff_left id) fun _ h => h

end Reads

/-! ## Fields -/

/-- The value cannot be written out, as reading tries to. -/
def Value.Unwritable (v : Value) (e : Error) : Prop := e = .tooManyDigits ∧ v.display? = none

/-- The value is not the integer that it should be, and cannot be written out. -/
def Value.NoNumber (v : Value) (e : Error) : Prop := v.Unwritable e ∧ ∀ n, v.view ≠ .scalar (.int n)

/-- There is a value under a key, and it is a misfit. -/
def InField (entries : List (Scalar × Value)) (name : String) (misfit : Value → Error → Prop)
    (e : Error) : Prop :=
  ∃ v, lookup? entries name = some v ∧ misfit v e

theorem inField_iff {entries : List (Scalar × Value)} {name : String}
    {misfit : Value → Error → Prop} {v : Value} (h : lookup? entries name = some v) (e : Error) :
    misfit v e ↔ InField entries name misfit e := by
  constructor
  · exact fun hmisfit => ⟨v, h, hmisfit⟩
  · rintro ⟨v', hv', hmisfit⟩
    -- There is one value under a key.
    obtain rfl := Option.some.inj (h.symm.trans hv')
    exact hmisfit

/-- What is under a key is read, or else a default is used. -/
theorem inField_reads {misfit : Value → Error → Prop} {good : α → Prop}
    {read : Value → Except Error α} (entries : List (Scalar × Value)) (name : String) {default : α}
    (hread : ∀ v, Reads (misfit v) good (read v)) (hdefault : good default) :
    Reads (InField entries name misfit) good
      (match lookup? entries name with
        | some v => read v
        | none => .ok default) := by
  split
  · next v hv => exact (hread v).mono (inField_iff hv) fun _ h => h
  · -- Without a value nothing can be a misfit.
    next hnone => exact ⟨hdefault, fun e ⟨v, hv, _⟩ => nomatch hnone.symm.trans hv⟩

theorem textOf_reads (v : Value) : Reads v.Unwritable (fun _ => True) (textOf v) := by
  unfold textOf
  cases hdisplay : v.display? with
  | none => exact .inr ⟨rfl, hdisplay⟩
  | some text => exact ⟨trivial, fun e h => nomatch h.2.symm.trans hdisplay⟩

theorem refuseInt_reads (v : Value) {good : Int → Prop} :
    Reads v.Unwritable good (refuseInt v) :=
  (textOf_reads v).bind_fits fun _ _ => .of_report rfl

theorem parseInt_reads (v : Value) : Reads v.NoNumber (fun _ => True) (parseInt v) := by
  have hrefuse (hview : ∀ n, v.view ≠ .scalar (.int n)) :
      Reads v.NoNumber (fun _ => True) (refuseInt v) :=
    (refuseInt_reads v).mono (fun e => (and_iff_left hview).symm) fun _ h => h
  unfold parseInt
  split
  · -- An integer is read as itself.
    next n hview => exact ⟨trivial, fun e h => h.2 n hview⟩
  · next t hview =>
    split
    · -- A text can always be written out.
      have hdisplay : v.display? = some t := by
        rw [Value.display?, hview]
        rfl
      exact ⟨trivial, fun e h => nomatch h.1.2.symm.trans hdisplay⟩
    · exact hrefuse fun n h => nomatch hview.symm.trans h
  · next hint _ => exact hrefuse hint

theorem intField_reads (entries : List (Scalar × Value)) (name : String) (default : Int) :
    Reads (InField entries name Value.NoNumber) (fun _ => True) (intField entries name default) :=
  inField_reads entries name parseInt_reads trivial

theorem nameField_reads (entries : List (Scalar × Value)) (name default : String) :
    Reads (InField entries name Value.Unwritable) (fun _ => True)
      (nameField entries name default) :=
  inField_reads entries name (fun v => .map (textOf_reads v)) trivial

/-! ## Regions -/

/-- The ends of a region are on the bus and in order. -/
def RegionSpec.InOrder (region : RegionSpec) : Prop :=
  0 ≤ region.first ∧ region.first ≤ region.last ∧ region.last ≤ 0xFFFF

/-- Both ends are mentioned in a value. -/
def Value.mentionsEnds (v : Value) : Bool :=
  mentions "start" v == some true && mentions "end" v == some true

/-- A field of a region is a misfit. -/
def RegionFieldMisfit (entries : List (Scalar × Value)) (e : Error) : Prop :=
  InField entries "start" Value.NoNumber e ∨ InField entries "end" Value.NoNumber e ∨
    InField entries "type" Value.Unwritable e ∨ InField entries "initial_value" Value.NoNumber e

/-- The value is a misfit where a region should be. A mapping is looked into, and what mentions both
ends is taken for one. -/
def RegionMisfit (region : Value) (e : Error) : Prop :=
  match region.view with
  | .mapping entries =>
    if region.mentionsEnds then RegionFieldMisfit entries e else region.Unwritable e
  | .list _ | .scalar (.text _) =>
    if region.mentionsEnds then e = .mapMisshapen else region.Unwritable e
  | .scalar _ => e = .mapMisshapen

theorem regionOfEntries_reads {entries : List (Scalar × Value)} {first last : Value}
    (hfirst : lookup? entries "start" = some first) (hlast : lookup? entries "end" = some last) :
    Reads (RegionFieldMisfit entries) RegionSpec.InOrder (regionOfEntries entries first last) := by
  refine .bind ((parseInt_reads first).mono (inField_iff hfirst) fun _ h => h) fun first _ => ?_
  refine .bind ((parseInt_reads last).mono (inField_iff hlast) fun _ h => h) fun last _ => ?_
  refine .bind (nameField_reads entries "type" "RAM") fun type _ => ?_
  refine .bind_fits (intField_reads entries "initial_value" 0) fun fill _ => ?_
  split
  · next horder => exact .of_ok horder
  · exact .of_report rfl

theorem refuseRegion_reads (region : Value) :
    Reads region.Unwritable RegionSpec.InOrder (refuseRegion region) :=
  (textOf_reads region).bind_fits fun _ _ => .of_report rfl

/-- What is no mapping has no fields, even if it mentions both ends. -/
theorem parseRegion_eq {region : Value} {start stop : Bool}
    (hstart : mentions "start" region = some start) (hstop : mentions "end" region = some stop)
    (hview : ∀ entries, region.view ≠ .mapping entries) :
    parseRegion region =
      if region.mentionsEnds then .error .mapMisshapen else refuseRegion region := by
  unfold parseRegion Value.mentionsEnds
  rw [hstart, hstop]
  -- Only if both ends are mentioned are the fields looked for, and there are none.
  cases start <;> cases stop <;> try rfl
  dsimp only
  split
  · next entries h => exact absurd h (hview entries)
  · rfl

theorem parseRegion_reads (region : Value) :
    Reads (RegionMisfit region) RegionSpec.InOrder (parseRegion region) := by
  have hrefuse := refuseRegion_reads region
  have hother {start stop : Bool} (hstart : mentions "start" region = some start)
      (hstop : mentions "end" region = some stop)
      (hview : ∀ entries, region.view ≠ .mapping entries) :
      Reads (fun e => if region.mentionsEnds then e = .mapMisshapen else region.Unwritable e)
        RegionSpec.InOrder (parseRegion region) := by
    rw [parseRegion_eq hstart hstop hview]
    -- What is no mapping fails on its fields if it mentions both ends, and is reported else.
    cases region.mentionsEnds with
    | false => exact hrefuse
    | true => exact .inr rfl
  unfold RegionMisfit
  cases hview : region.view with
  | scalar s =>
    cases s with
    | text t => exact hother (by rw [mentions, hview]) (by rw [mentions, hview]) (by simp [hview])
    -- There is nothing to look through for the ends.
    | null | bool | int | float =>
      simp only [parseRegion, mentions, hview]
      exact .inr rfl
  | list items => exact hother (by rw [mentions, hview]) (by rw [mentions, hview]) (by simp [hview])
  | mapping entries =>
    -- A mapping mentions the name of an end exactly if there is a value under it, so that the
    -- values are there once both are mentioned.
    cases hfirst : lookup? entries "start" <;> cases hlast : lookup? entries "end" <;>
      simp only [parseRegion, Value.mentionsEnds, mentions, hview, hfirst, hlast]
    case some.some first last => exact regionOfEntries_reads hfirst hlast
    all_goals exact hrefuse

theorem parseRegions_reads (values : List Value) :
    Reads (fun e => ∃ region ∈ values, RegionMisfit region e) (∀ region ∈ ·, region.InOrder)
      (parseRegions values) := by
  induction values with
  | nil => exact ⟨nofun, fun e ⟨_, hregion, _⟩ => nomatch hregion⟩
  | cons value rest ih =>
    unfold parseRegions
    -- The first region that is refused ends the list.
    refine ((parseRegion_reads value).bind fun region hregion =>
      ih.bind_fits fun regions hregions =>
        .of_ok (List.forall_mem_cons.mpr ⟨hregion, hregions⟩)).mono (fun e => ?_) fun _ h => h
    simp

/-- The value is a misfit where the list of regions should be: it cannot be walked, or what is met
on the way is a misfit for a region. -/
def MapMisfit (map : Value) (e : Error) : Prop :=
  match regionValues map with
  | .ok regions => ∃ region ∈ regions, RegionMisfit region e
  | .error misshapen => e = misshapen

/-! ## The initial state -/

/-- The value should be a mapping. It is none, and it does not count as false either. -/
def Value.Misshapen (v : Value) (e : Error) : Prop :=
  e = .stateMisshapen ∧ v.isTruthy = true ∧ ∀ fields, v.view ≠ .mapping fields

/-- The entries of the mapping under a key, if there is one. -/
def fieldsOf (entries : List (Scalar × Value)) (name : String) : List (Scalar × Value) :=
  match (lookup? entries name).map Value.view with
  | some (.mapping fields) => fields
  | _ => []

theorem entriesField_reads (entries : List (Scalar × Value)) (name : String) :
    Reads (InField entries name Value.Misshapen) (· = fieldsOf entries name)
      (entriesField entries name) := by
  unfold entriesField fieldsOf
  cases hfield : lookup? entries name with
  | none => exact ⟨rfl, fun e ⟨v, hv, _⟩ => nomatch hfield.symm.trans hv⟩
  | some v =>
    refine (?_ : Reads v.Misshapen _ _).mono (inField_iff hfield) fun _ h => h
    cases htruthy : v.isTruthy with
    | true =>
      simp only [htruthy, if_true]
      cases hview : v.view with
      | mapping fields => exact ⟨by simp [hview], fun e h => h.2.2 fields hview⟩
      -- What counts as true and is no mapping has no entries to walk.
      | scalar | list => exact .inr ⟨rfl, htruthy, by simp [hview]⟩
    | false =>
      simp only [htruthy, Bool.false_eq_true, if_false]
      refine ⟨?_, fun e h => nomatch htruthy.symm.trans h.2.1⟩
      -- A mapping counts as false only if it has no entries.
      cases hview : v.view with
      | mapping fields =>
        have hempty : fields = [] := by simpa [Value.isTruthy, hview] using htruthy
        simp [hview, hempty]
      | scalar | list => simp [hview]

/-- No name occurs twice. -/
def NamesDiffer (registers : List (CodePoints × Int)) : Prop := (registers.map Prod.fst).Nodup

theorem names_setRegister (registers : List (CodePoints × Int)) (name : CodePoints) (n : Int) :
    (setRegister registers name n).map Prod.fst =
      if name ∈ registers.map Prod.fst then registers.map Prod.fst
      else registers.map Prod.fst ++ [name] := by
  induction registers with
  | nil => rfl
  | cons entry rest ih =>
    obtain ⟨other, m⟩ := entry
    unfold setRegister
    by_cases hname : other = name
    · simp [hname]
    · simp only [beq_iff_eq, hname, if_false, List.map_cons, ih, List.mem_cons, Ne.symm hname,
        false_or]
      split <;> rfl

theorem NamesDiffer.setRegister {registers : List (CodePoints × Int)} (h : NamesDiffer registers)
    (name : CodePoints) (n : Int) : NamesDiffer (setRegister registers name n) := by
  unfold NamesDiffer
  rw [names_setRegister]
  split
  · exact h
  · -- A new name is put behind those that are there.
    next hnew => exact List.nodup_append.mpr ⟨h, by simp, by grind⟩

/-- A name of a register cannot be written out, or its value is a misfit. -/
def RegistersMisfit (fields : List (Scalar × Value)) (e : Error) : Prop :=
  ∃ field ∈ fields, (Value.scalar field.1).Unwritable e ∨ field.2.NoNumber e

theorem parseRegisters_reads (fields : List (Scalar × Value)) {registers : List (CodePoints × Int)}
    (hnames : NamesDiffer registers) :
    Reads (RegistersMisfit fields) NamesDiffer (parseRegisters registers fields) := by
  induction fields generalizing registers with
  | nil => exact ⟨hnames, fun e ⟨_, hfield, _⟩ => nomatch hfield⟩
  | cons field rest ih =>
    unfold parseRegisters
    refine ((textOf_reads _).bind fun name _ => (parseInt_reads field.2).bind fun n _ =>
      ih (hnames.setRegister name.lower n)).mono (fun e => ?_) fun _ h => h
    simp [RegistersMisfit, or_assoc]

/-- A field of the initial state is a misfit. -/
def StateMisfit (entries : List (Scalar × Value)) (e : Error) : Prop :=
  InField entries "pc" Value.NoNumber e ∨ InField entries "sp" Value.NoNumber e ∨
    InField entries "registers" Value.Misshapen e ∨
    RegistersMisfit (fieldsOf entries "registers") e

theorem parseInitialState_reads (entries : List (Scalar × Value)) :
    Reads (StateMisfit entries) (fun s => NamesDiffer s.registers) (parseInitialState entries) := by
  refine .bind (intField_reads entries "pc" 0) fun pc _ => ?_
  refine .bind (intField_reads entries "sp" 0xFD) fun sp _ => ?_
  refine .bind (entriesField_reads entries "registers") fun fields hfields => ?_
  subst hfields
  exact .map (parseRegisters_reads _ List.nodup_nil)

/-! ## Documents -/

theorem parseOpenBus_reads (v : Value) : Reads v.NoNumber (fun _ => True) (parseOpenBus v) := by
  unfold parseOpenBus
  split
  · next hview =>
    -- Nothing can always be written out.
    have hdisplay : v.display? = some ↑"None" := by
      rw [Value.display?, hview]
      rfl
    exact ⟨trivial, fun e h => nomatch h.1.2.symm.trans hdisplay⟩
  · exact .map (parseInt_reads v)

/-- A part of the document is a misfit, and reading fails on it with an error that is no report. -/
def Misfit (entries : List (Scalar × Value)) (e : Error) : Prop :=
  InField entries "architecture" Value.Unwritable e ∨ InField entries "memory_map" MapMisfit e ∨
    InField entries "initial_state" Value.Misshapen e ∨
    StateMisfit (fieldsOf entries "initial_state") e ∨
    InField entries "open_bus_value" Value.NoNumber e

/-- What is known of a description that has been read. -/
structure SystemSpec.Proper (system : SystemSpec) : Prop where
  inOrder : ∀ region ∈ system.regions, region.InOrder
  namesDiffer : NamesDiffer system.initialState.registers

theorem parseMap_reads (map : Value) :
    Reads (MapMisfit map) (∀ region ∈ ·, region.InOrder) (regionValues map >>= parseRegions) := by
  unfold MapMisfit
  cases regionValues map with
  | error e => exact .inr rfl
  | ok regions => exact parseRegions_reads regions

/-- Reading a document is reading its parts one after the other. -/
theorem parseEntries_eq (entries : List (Scalar × Value)) :
    parseEntries entries =
      nameField entries "architecture" "MOS6502" >>= fun architecture =>
      (match lookup? entries "memory_map" with
        | some map => regionValues map >>= parseRegions
        | none => .ok []) >>= fun regions =>
      entriesField entries "initial_state" >>= fun fields =>
      parseInitialState fields >>= fun initialState =>
      (match lookup? entries "open_bus_value" with
        | some v => parseOpenBus v
        | none => .ok none).map fun openBus =>
          ⟨architecture, regions, openBus, initialState⟩ := by
  unfold parseEntries
  refine bind_congr fun architecture => ?_
  -- Where a part is optional, what comes after it stands in both of its cases.
  cases lookup? entries "memory_map" with
  | none => cases lookup? entries "open_bus_value" <;> rfl
  | some map =>
    rw [bind_assoc]
    cases lookup? entries "open_bus_value" <;> rfl

theorem parseEntries_reads (entries : List (Scalar × Value)) :
    Reads (Misfit entries) SystemSpec.Proper (parseEntries entries) := by
  rw [parseEntries_eq]
  refine .bind (nameField_reads entries "architecture" "MOS6502") fun architecture _ => ?_
  refine .bind (inField_reads entries "memory_map" parseMap_reads (List.forall_mem_nil _))
    fun regions hregions => ?_
  refine .bind (entriesField_reads entries "initial_state") fun fields hfields => ?_
  subst hfields
  refine .bind (parseInitialState_reads _) fun initialState hnames => .map ?_
  exact (inField_reads entries "open_bus_value" parseOpenBus_reads trivial).mono (fun _ => Iff.rfl)
    fun openBus _ => ⟨hregions, hnames⟩

theorem proper_of_parse {document : Value} {system : SystemSpec}
    (h : parse document = .ok system) : system.Proper := by
  unfold parse at h
  split at h
  · next entries _ =>
    have hreads := parseEntries_reads entries
    rw [h] at hreads
    exact hreads.1
  · exact nomatch h

/-- A document is read only if no part of it is a misfit. If it is refused, this is reported, or the
error is the one of a misfit. -/
theorem parse_reports {document : Value} {entries : List (Scalar × Value)}
    (h : document.view = .mapping entries) :
    match parse document with
    | .ok _ => ∀ e, ¬ Misfit entries e
    | .error e => e.isReport = true ∨ Misfit entries e := by
  have hreads := parseEntries_reads entries
  unfold parse
  rw [h]
  dsimp only
  generalize parseEntries entries = x at hreads
  cases x with
  | error e => exact hreads
  | ok system => exact hreads.2

/-- A truth value is no program counter, and this is reported. -/
theorem parse_reports_truth :
    let fields : List (Scalar × Part) := [(.ofString "pc", .scalar (.bool true))]
    parse (.ofPart (.mapping [(.ofString "initial_state", .mapping fields)])) =
        .error (.notAnInteger "True") ∧
      ((Error.notAnInteger "True").isReport = true ∨
        Misfit [(.ofString "initial_state", .ofPart (.mapping fields))] (.notAnInteger "True")) := by
  intro fields
  have hparse : parse (.ofPart (.mapping [(.ofString "initial_state", .mapping fields)])) =
      .error (.notAnInteger "True") := rfl
  have hreports := parse_reports
    (show (Value.ofPart (.mapping [(.ofString "initial_state", .mapping fields)])).view = _ from rfl)
  rw [hparse] at hreports
  exact ⟨hparse, hreports⟩

/-- Not all that is refused is reported: here there is nothing where the regions should be. -/
theorem parse_unreported :
    ¬ ∀ (document : Value) (entries : List (Scalar × Value)), document.view = .mapping entries →
      (∃ system, parse document = .ok system) ∨
        ∃ e, parse document = .error e ∧ e.isReport = true := by
  intro h
  have hparse : parse (.ofPart (.mapping [(.ofString "memory_map", .scalar .null)])) =
      .error .mapMisshapen := rfl
  -- Nothing where the regions should be is neither read nor reported.
  rcases h (.ofPart (.mapping [(.ofString "memory_map", .scalar .null)])) _ rfl with
    ⟨system, hsystem⟩ | ⟨e, he, hreport⟩
  · exact nomatch hparse.symm.trans hsystem
  · obtain rfl := Except.error.inj (hparse.symm.trans he)
    exact nomatch hreport

end Micro6502.Config
