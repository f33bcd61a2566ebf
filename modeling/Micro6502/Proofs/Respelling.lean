import Micro6502.Proofs.Spelling
import Micro6502.Proofs.Validity

/-!
# Respelled documents

It does not matter how the integers of a document are spelled. Two documents that differ in nothing
else are both read, and as the same description, or both refused.

The documents may keep their parts in different pools. So values are compared by what they look
like: two values are the same if they cannot be told apart by looking into them, however deep.

## Contents

- `Value.StandsFor` and `Value.NoInteger`, what is read as an integer and what never is
- `ViewAlike`, views with related parts, and `Value.Same`
- `IntAlike`, `RegionAlike`, `StateAlike` and `DocumentAlike`, parts that differ in spelling only
- `BothRead`, with the rules for sequences and a lemma for each part
- `parseInt_spellings`
-/

namespace Micro6502.Config

open Text (CodePoints)

/-! ## Integers and other values -/

namespace Value

/-- The value is an integer, or a text that stands for one. -/
inductive StandsFor (v : Value) (n : Int) : Prop where
  | int (hview : v.view = .scalar (.int n))
  | text {t : CodePoints} (hview : v.view = .scalar (.text t)) (ht : Denotes t.toString.toList n)

/-- The value is neither an integer nor a text, or it is a text without digits. -/
def NoInteger (v : Value) : Prop :=
  match v.view with
  | .scalar (.int _) => False
  | .scalar (.text t) => t.toString ∈ ["", "0x", "$"]
  | _ => True

end Value

theorem parseInt_of_standsFor {v : Value} {n : Int} (h : v.StandsFor n) : parseInt v = .ok n := by
  unfold parseInt
  cases h with
  | int hview => rw [hview]
  | text hview ht =>
    rw [hview]
    simp only [integer?_of_denotes ht]

theorem parseInt_of_noInteger {v : Value} (h : v.NoInteger) :
    parseInt v = .error (v.complaint .notAnInteger) := by
  have hempty : ∀ text ∈ ["", "0x", "$"], integer? text = none := by decide
  unfold Value.NoInteger at h
  unfold parseInt
  split
  · next n hview => simp [hview] at h
  · next t hview =>
    rw [hview] at h
    simp only [hempty _ h, refuseInt_eq]
  · exact refuseInt_eq v

/-- Whatever has no parts can be written out, integers apart. -/
theorem exists_display? {v : Value} {s : Scalar} (hview : v.view = .scalar s)
    (hs : ∀ n, s ≠ .int n) : ∃ text, v.display? = some text := by
  rw [Value.display?, hview]
  cases s with
  | int n => exact absurd rfl (hs n)
  | _ => exact ⟨_, rfl⟩

/-! ## Values in different pools -/

/-- Entries with the same keys in the same order. Each key says how its values are related. -/
def EntriesAlike (role : Scalar → Value → Value → Prop) (entries entries' : List (Scalar × Value)) :
    Prop :=
  List.Forall₂ (fun entry entry' => entry.1 = entry'.1 ∧ role entry.1 entry.2 entry'.2) entries
    entries'

/-- Views that are equal as far as the first level goes, with related items or entries. -/
inductive ViewAlike (item : Value → Value → Prop) (role : Scalar → Value → Value → Prop) :
    View → View → Prop where
  | scalar (s : Scalar) : ViewAlike item role (.scalar s) (.scalar s)
  | list {items items' : List Value} (h : List.Forall₂ item items items') :
    ViewAlike item role (.list items) (.list items')
  | mapping {entries entries' : List (Scalar × Value)} (h : EntriesAlike role entries entries') :
    ViewAlike item role (.mapping entries) (.mapping entries')

/-- Related values look the same, and their parts are related again. -/
structure Bisimulation (R : Value → Value → Prop) : Prop where
  view : ∀ {v v'}, R v v' → ViewAlike R (fun _ => R) v.view v'.view
  display : ∀ {v v'}, R v v' → v.display? = v'.display?

/-- The values are the same, wherever they keep their parts. -/
def Value.Same (v v' : Value) : Prop := ∃ R, Bisimulation R ∧ R v v'

theorem EntriesAlike.mono {role role' : Scalar → Value → Value → Prop}
    {entries entries' : List (Scalar × Value)} (h : EntriesAlike role entries entries')
    (hrole : ∀ key v v', role key v v' → role' key v v') : EntriesAlike role' entries entries' :=
  List.Forall₂.imp (fun _ _ h => ⟨h.1, hrole _ _ _ h.2⟩) h

theorem ViewAlike.mono {item item' : Value → Value → Prop}
    {role role' : Scalar → Value → Value → Prop} {view view' : View}
    (h : ViewAlike item role view view') (hitem : ∀ v v', item v v' → item' v v')
    (hrole : ∀ key v v', role key v v' → role' key v v') : ViewAlike item' role' view view' := by
  cases h with
  | scalar s => exact .scalar s
  | list h => exact .list (h.imp hitem)
  | mapping h => exact .mapping (h.mono hrole)

theorem Value.isTruthy_eq {item : Value → Value → Prop} {role : Scalar → Value → Value → Prop}
    {v v' : Value} (h : ViewAlike item role v.view v'.view) : v.isTruthy = v'.isTruthy := by
  unfold isTruthy
  generalize v.view = view at h
  generalize v'.view = view' at h
  cases h with
  | scalar s => rfl
  | list h => cases h <;> rfl
  | mapping h => cases h <;> rfl

namespace Value.Same

variable {v v' : Value}

theorem refl (v : Value) : v.Same v := by
  -- Equality is a bisimulation.
  refine ⟨Eq, ⟨?_, ?_⟩, rfl⟩
  · rintro v _ rfl
    cases v.view with
    | scalar s => exact .scalar s
    | list items => exact .list (List.forall₂_same.mpr fun _ _ => rfl)
    | mapping entries => exact .mapping (List.forall₂_same.mpr fun _ _ => ⟨rfl, rfl⟩)
  · rintro v _ rfl
    rfl

theorem view (h : v.Same v') : ViewAlike Same (fun _ => Same) v.view v'.view := by
  obtain ⟨R, hR, hv⟩ := h
  exact (hR.view hv).mono (fun _ _ h => ⟨R, hR, h⟩) fun _ _ _ h => ⟨R, hR, h⟩

/-- Under a key there are the same values, or there is the same default. -/
theorem getD {v? v'? : Option Value} (h : Option.Rel Same v? v'?) (default : Value) :
    (v?.getD default).Same (v'?.getD default) := by
  cases h with
  | some h => exact h
  | none => exact refl default

theorem isTruthy_getD {v? v'? : Option Value} (h : Option.Rel Same v? v'?) (default : Bool) :
    (v?.map isTruthy).getD default = (v'?.map isTruthy).getD default := by
  cases h with
  | some h => exact isTruthy_eq h.view
  | none => rfl

theorem display (h : v.Same v') : v.display? = v'.display? := by
  obtain ⟨R, hR, hv⟩ := h
  exact hR.display hv

end Value.Same

/-! ## Parts that differ in spelling only -/

/-- How the values under a key are related: as the roles say, or else they are the same. -/
def roleOf (roles : List (String × (Value → Value → Prop))) (key : Scalar) :
    Value → Value → Prop :=
  ((roles.find? fun role => key.sameKey (.ofString role.1)).map Prod.snd).getD Value.Same

/-- The values are the same, or they stand for the same integer. -/
def IntAlike (v v' : Value) : Prop := v.Same v' ∨ ∃ n, v.StandsFor n ∧ v'.StandsFor n

/-- The regions differ in the spelling of their integers only. -/
def RegionAlike (v v' : Value) : Prop :=
  ViewAlike Value.Same
    (roleOf [("start", IntAlike), ("end", IntAlike), ("initial_value", IntAlike)]) v.view v'.view

def MapAlike (v v' : Value) : Prop :=
  ViewAlike RegionAlike (fun _ => Value.Same) v.view v'.view

def RegistersAlike (v v' : Value) : Prop :=
  ViewAlike Value.Same (fun _ => IntAlike) v.view v'.view

def StateAlike (v v' : Value) : Prop :=
  ViewAlike Value.Same
    (roleOf [("pc", IntAlike), ("sp", IntAlike), ("registers", RegistersAlike)]) v.view v'.view

/-- The documents differ in the spelling of their integers only. -/
def DocumentAlike (v v' : Value) : Prop :=
  ViewAlike Value.Same
    (roleOf [("memory_map", MapAlike), ("initial_state", StateAlike), ("open_bus_value", IntAlike)])
    v.view v'.view

/-- A key that is the same as a name is this name. -/
theorem Scalar.eq_of_sameKey {key : Scalar} {name : String} (h : key.sameKey (.ofString name)) :
    key = .ofString name := by
  cases key with
  | text t => exact congrArg Scalar.text (eq_of_beq h)
  | _ => simp [sameKey, ofString, integer?] at h

theorem lookup?_cons (key : Scalar) (v : Value) (rest : List (Scalar × Value)) (name : String) :
    lookup? ((key, v) :: rest) name =
      if key.sameKey (.ofString name) then some v else lookup? rest name := by
  unfold lookup?
  cases hsame : key.sameKey (.ofString name) <;> simp [hsame]

/-- Alike entries have related values under each name, or none. -/
theorem EntriesAlike.lookup {role : Scalar → Value → Value → Prop}
    {entries entries' : List (Scalar × Value)} (h : EntriesAlike role entries entries')
    (name : String) :
    Option.Rel (role (.ofString name)) (lookup? entries name) (lookup? entries' name) := by
  induction h with
  | nil => exact .none
  | @cons entry entry' rest rest' hentry _ ih =>
    obtain ⟨key, v⟩ := entry
    obtain ⟨key', v'⟩ := entry'
    -- The keys are the same, so either both entries are found here or neither is.
    obtain ⟨rfl, hv⟩ : key = key' ∧ role key v v' := hentry
    rw [lookup?_cons, lookup?_cons]
    split
    · next hsame =>
      rw [← Scalar.eq_of_sameKey hsame]
      exact .some hv
    · exact ih

/-! ## Reading -/

/-- Both are read, as things that agree, or both are refused. -/
def BothRead (agree : α → β → Prop) (x : Except Error α) (y : Except Error β) : Prop :=
  match x, y with
  | .ok a, .ok b => agree a b
  | .error _, .error _ => True
  | _, _ => False

namespace BothRead

variable {agree : α → β → Prop} {agree' : γ → δ → Prop} {x : Except Error α} {y : Except Error β}

theorem bind {next : α → Except Error γ} {next' : β → Except Error δ} (h : BothRead agree x y)
    (hnext : ∀ a b, agree a b → BothRead agree' (next a) (next' b)) :
    BothRead agree' (x >>= next) (y >>= next') := by
  cases x <;> cases y
  case ok.ok a b => exact hnext a b h
  case error.error => trivial
  all_goals exact h.elim

theorem map {f : α → γ} {g : β → δ} (h : BothRead agree x y)
    (hfg : ∀ a b, agree a b → agree' (f a) (g b)) : BothRead agree' (x.map f) (y.map g) := by
  cases x <;> cases y
  case ok.ok a b => exact hfg a b h
  case error.error => trivial
  all_goals exact h.elim

/-- What is under a key is read, or else a default is used. -/
theorem field {role : Value → Value → Prop} {read : Value → Except Error α}
    {read' : Value → Except Error β} {default : α} {default' : β} {v? v'? : Option Value}
    (hread : ∀ v v', role v v' → BothRead agree (read v) (read' v'))
    (hdefault : agree default default') :
    Option.Rel role v? v'? → BothRead agree
      (match v? with
        | some v => read v
        | none => .ok default)
      (match v'? with
        | some v => read' v
        | none => .ok default')
  | .none => hdefault
  | .some h => hread _ _ h

end BothRead

theorem parseInt_alike {v v' : Value} (h : IntAlike v v') :
    BothRead (· = ·) (parseInt v) (parseInt v') := by
  rcases h with h | ⟨n, hv, hv'⟩
  · have hview := h.view
    unfold parseInt
    simp only [refuseInt_eq]
    generalize v.view = view at hview
    generalize v'.view = view' at hview
    cases hview with
    | scalar s =>
      cases s with
      | int n => exact rfl
      | text t => cases hread : integer? t.toString <;> simp only [hread] <;> first | rfl | trivial
      | _ => trivial
    | list | mapping => trivial
  · rw [parseInt_of_standsFor hv, parseInt_of_standsFor hv']
    exact rfl

theorem textOf_same {v v' : Value} (h : v.Same v') : BothRead (· = ·) (textOf v) (textOf v') := by
  unfold textOf
  rw [h.display]
  cases v'.display? with
  | none => trivial
  | some text => exact rfl

section Fields

variable {entries entries' : List (Scalar × Value)} {name : String}

theorem intField_alike
    (h : Option.Rel IntAlike (lookup? entries name) (lookup? entries' name)) (default : Int) :
    BothRead (· = ·) (intField entries name default) (intField entries' name default) :=
  .field (fun _ _ => parseInt_alike) rfl h

theorem nameField_same
    (h : Option.Rel Value.Same (lookup? entries name) (lookup? entries' name)) (default : String) :
    BothRead (· = ·) (nameField entries name default) (nameField entries' name default) :=
  .field (fun _ _ h => (textOf_same h).map fun _ _ => congrArg CodePoints.upper) rfl h

/-- Fields are read where there are alike fields, or where something counts as false. -/
theorem entriesField_alike {item : Value → Value → Prop} {role : Scalar → Value → Value → Prop}
    (h : Option.Rel (fun v v' => ViewAlike item role v.view v'.view) (lookup? entries name)
      (lookup? entries' name)) :
    BothRead (EntriesAlike role) (entriesField entries name) (entriesField entries' name) := by
  unfold entriesField
  generalize lookup? entries name = v? at h
  generalize lookup? entries' name = v'? at h
  cases h with
  | none => exact List.Forall₂.nil
  | @some v v' hview =>
    simp only [Value.isTruthy_eq hview]
    cases v'.isTruthy with
    | false => exact List.Forall₂.nil
    | true =>
      generalize v.view = view at hview
      generalize v'.view = view' at hview
      cases hview with
      | mapping h => exact h
      | scalar | list => trivial

end Fields

/-! ## Regions -/

/-- The regions are the same, with labels that may be kept in different pools. -/
structure RegionsAgree (region region' : RegionSpec) : Prop where
  first : region.first = region'.first
  last : region.last = region'.last
  type : region.type = region'.type
  label : region.label.Same region'.label
  fill : region.fill = region'.fill

theorem regionOfEntries_alike {fields fields' : List (Scalar × Value)}
    {first first' last last' : Value} (h : EntriesAlike
      (roleOf [("start", IntAlike), ("end", IntAlike), ("initial_value", IntAlike)]) fields fields')
    (hfirst : IntAlike first first') (hlast : IntAlike last last') :
    BothRead RegionsAgree (regionOfEntries fields first last)
      (regionOfEntries fields' first' last') := by
  unfold regionOfEntries
  refine (parseInt_alike hfirst).bind ?_
  rintro a _ rfl
  refine (parseInt_alike hlast).bind ?_
  rintro b _ rfl
  -- Only the two ends and the initial value may be spelled differently.
  refine (nameField_same (h.lookup "type") "RAM").bind ?_
  rintro type _ rfl
  refine (intField_alike (h.lookup "initial_value") 0).bind ?_
  rintro fill _ rfl
  split
  · exact ⟨rfl, rfl, rfl, Value.Same.getD (h.lookup "label") _, rfl⟩
  · trivial

/-- What is no mapping is no region. -/
theorem parseRegion_eq_error {region : Value} (hview : ∀ fields, region.view ≠ .mapping fields) :
    ∃ e, parseRegion region = .error e := by
  unfold parseRegion
  split
  · split
    · next fields h => exact absurd h (hview fields)
    · exact ⟨_, rfl⟩
  · exact ⟨_, refuseRegion_eq region⟩
  · exact ⟨_, rfl⟩

theorem RegionAlike.scalar (s : Scalar) : RegionAlike (.scalar s) (.scalar s) := ViewAlike.scalar s

theorem parseRegion_alike {region region' : Value} (h : RegionAlike region region') :
    BothRead RegionsAgree (parseRegion region) (parseRegion region') := by
  unfold RegionAlike at h
  generalize hview : region.view = view at h
  generalize hview' : region'.view = view' at h
  cases h with
  | @mapping fields fields' h =>
    rw [parseRegion_eq_of_mapping hview, parseRegion_eq_of_mapping hview']
    have hfirst := h.lookup "start"
    have hlast := h.lookup "end"
    generalize lookup? fields "start" = first at hfirst ⊢
    generalize lookup? fields' "start" = first' at hfirst ⊢
    generalize lookup? fields "end" = last at hlast ⊢
    generalize lookup? fields' "end" = last' at hlast ⊢
    -- An end that is missing is missing in both.
    cases hfirst <;> cases hlast
    case some.some hfirst _ _ hlast => exact regionOfEntries_alike h hfirst hlast
    all_goals trivial
  | scalar | list =>
    -- Neither is a region, and both are refused.
    obtain ⟨e, he⟩ := parseRegion_eq_error fun fields h => nomatch hview.symm.trans h
    obtain ⟨e', he'⟩ := parseRegion_eq_error fun fields h => nomatch hview'.symm.trans h
    rw [he, he']
    trivial

theorem parseRegions_alike {regions regions' : List Value}
    (h : List.Forall₂ RegionAlike regions regions') :
    BothRead (List.Forall₂ RegionsAgree) (parseRegions regions) (parseRegions regions') := by
  induction h with
  | nil => exact .nil
  | cons hregion _ ih =>
    unfold parseRegions
    refine (parseRegion_alike hregion).bind fun spec spec' hspec => ?_
    exact ih.bind fun specs specs' hspecs => .cons hspec hspecs

theorem regionValues_alike {map map' : Value} (h : MapAlike map map') :
    BothRead (List.Forall₂ RegionAlike) (regionValues map) (regionValues map') := by
  unfold MapAlike at h
  unfold regionValues
  generalize map.view = view at h
  generalize map'.view = view' at h
  cases h with
  | list h => exact h
  | mapping h =>
    -- What is met on the way are the keys.
    refine List.forall₂_map_left_iff.mpr (List.forall₂_map_right_iff.mpr (h.imp ?_))
    rintro ⟨key, v⟩ ⟨key', v'⟩ ⟨hkey, -⟩
    obtain rfl : key = key' := hkey
    exact .scalar key
  | scalar s =>
    cases s with
    | text t =>
      refine List.forall₂_map_left_iff.mpr (List.forall₂_map_right_iff.mpr ?_)
      exact List.forall₂_same.mpr fun code _ => .scalar _
    | _ => trivial

/-! ## The initial state -/

theorem parseRegisters_alike {fields fields' : List (Scalar × Value)}
    (h : EntriesAlike (fun _ => IntAlike) fields fields') (registers : List (CodePoints × Int)) :
    BothRead (· = ·) (parseRegisters registers fields) (parseRegisters registers fields') := by
  induction h generalizing registers with
  | nil => exact rfl
  | @cons field field' _ _ hfield _ ih =>
    obtain ⟨hkey, hvalue⟩ := hfield
    unfold parseRegisters
    -- Names are not respelled, so that both sides put the integer under one name.
    rw [hkey]
    refine (textOf_same (.refl _)).bind ?_
    rintro name _ rfl
    refine (parseInt_alike hvalue).bind ?_
    rintro n _ rfl
    exact ih _

theorem parseInitialState_alike {fields fields' : List (Scalar × Value)}
    (h : EntriesAlike
      (roleOf [("pc", IntAlike), ("sp", IntAlike), ("registers", RegistersAlike)]) fields fields') :
    BothRead (· = ·) (parseInitialState fields) (parseInitialState fields') := by
  unfold parseInitialState
  refine (intField_alike (h.lookup "pc") 0).bind ?_
  rintro pc _ rfl
  refine (intField_alike (h.lookup "sp") 0xFD).bind ?_
  rintro sp _ rfl
  refine (entriesField_alike (h.lookup "registers")).bind fun entries entries' hentries => ?_
  refine (parseRegisters_alike hentries []).bind ?_
  rintro registers _ rfl
  exact congrArg (InitialState.mk · pc sp registers)
    (Value.Same.isTruthy_getD (h.lookup "use_reset_vector") true)

/-! ## Documents -/

/-- The descriptions are the same, with labels that may be kept in different pools. -/
structure SystemsAgree (system system' : SystemSpec) : Prop where
  architecture : system.architecture = system'.architecture
  regions : List.Forall₂ RegionsAgree system.regions system'.regions
  openBus : system.openBus = system'.openBus
  initialState : system.initialState = system'.initialState

theorem parseOpenBus_of_standsFor {v : Value} {n : Int} (h : v.StandsFor n) :
    parseOpenBus v = .ok (some n) := by
  have hread := parseInt_of_standsFor h
  unfold parseOpenBus
  cases h with
  | int hview | text hview =>
    rw [hview, hread]
    rfl

theorem parseOpenBus_alike {v v' : Value} (h : IntAlike v v') :
    BothRead (· = ·) (parseOpenBus v) (parseOpenBus v') := by
  have hint : BothRead (· = ·) ((parseInt v).map some) ((parseInt v').map some) :=
    (parseInt_alike h).map fun _ _ => congrArg some
  rcases h with h | ⟨n, hv, hv'⟩
  · have hview := h.view
    unfold parseOpenBus
    generalize v.view = view at hview
    generalize v'.view = view' at hview
    cases hview with
    | scalar s =>
      cases s with
      | null => exact rfl
      | _ => exact hint
    | list | mapping => exact hint
  · rw [parseOpenBus_of_standsFor hv, parseOpenBus_of_standsFor hv']
    exact rfl

theorem parseEntries_alike {entries entries' : List (Scalar × Value)}
    (h : EntriesAlike (roleOf [("memory_map", MapAlike), ("initial_state", StateAlike),
      ("open_bus_value", IntAlike)]) entries entries') :
    BothRead SystemsAgree (parseEntries entries) (parseEntries entries') := by
  rw [parseEntries_eq, parseEntries_eq]
  refine (nameField_same (h.lookup "architecture") "MOS6502").bind ?_
  rintro architecture _ rfl
  -- Without a list of regions there are none.
  have hempty : List.Forall₂ RegionsAgree [] [] := .nil
  refine .bind (.field (fun map map' hmap => ?_) hempty (h.lookup "memory_map"))
    fun regions regions' hregions => ?_
  · exact (regionValues_alike hmap).bind fun _ _ => parseRegions_alike
  refine (entriesField_alike (h.lookup "initial_state")).bind fun fields fields' hfields => ?_
  refine (parseInitialState_alike hfields).bind ?_
  rintro state _ rfl
  refine .map (.field (fun _ _ => parseOpenBus_alike) rfl (h.lookup "open_bus_value")) ?_
  rintro openBus _ rfl
  exact ⟨rfl, hregions, rfl, rfl⟩

theorem parse_alike {document document' : Value} (h : DocumentAlike document document') :
    BothRead SystemsAgree (parse document) (parse document') := by
  unfold DocumentAlike at h
  unfold parse
  generalize document.view = view at h
  generalize document'.view = view' at h
  cases h with
  | mapping h => exact parseEntries_alike h
  | scalar | list => trivial

/-! ## Spellings -/

/-- Integers are read however they are spelled.

A value that stands for an integer is read as this integer. A truth value, nothing, a number with a
point, a list, a mapping, and a text without digits are refused, and this is reported, except for a
list or a mapping with an integer in it that has too many digits to be written out. Two documents
that differ only in how their integers are spelled are both read, as the same description, or both
refused. -/
theorem parseInt_spellings (v document document' : Value) :
    (∀ n, v.StandsFor n → parseInt v = .ok n) ∧
    (v.NoInteger →
      (∀ text, v.display? = some text → parseInt v = .error (.notAnInteger text)) ∧
      (v.display? = none → parseInt v = .error .tooManyDigits) ∧
      ∀ s, v.view = .scalar s → ∃ text, parseInt v = .error (.notAnInteger text)) ∧
    (DocumentAlike document document' →
      BothRead SystemsAgree (parse document) (parse document')) := by
  refine ⟨fun _ => parseInt_of_standsFor, fun h => ?_, parse_alike⟩
  have hrefused {text : CodePoints} (htext : v.display? = some text) :
      parseInt v = .error (.notAnInteger text) := by
    rw [parseInt_of_noInteger h, Value.complaint, htext]
  refine ⟨fun _ => hrefused, fun hnone => ?_, fun s hview => ?_⟩
  · rw [parseInt_of_noInteger h, Value.complaint, hnone]
  · have hint (n : Int) : s ≠ .int n := by
      rintro rfl
      simp [Value.NoInteger, hview] at h
    -- A value without parts is written out, since it is no integer.
    obtain ⟨text, htext⟩ := exists_display? hview hint
    exact ⟨text, hrefused htext⟩

/-- One integer, spelled in two ways. -/
theorem parseInt_spellings_hexadecimal :
    let spelled := Value.scalar (.ofString " 0X0fF\n")
    let truth := Value.scalar (.bool true)
    let document (pc : Scalar) := Value.ofPart
      (.mapping [(.ofString "initial_state", .mapping [(.ofString "pc", .scalar pc)])])
    spelled.StandsFor 255 ∧ parseInt spelled = .ok 255 ∧
      truth.NoInteger ∧ parseInt truth = .error (.notAnInteger "True") ∧
      DocumentAlike (document (.ofString " 0X0fF\n")) (document (.int 255)) ∧
      BothRead SystemsAgree (parse (document (.ofString " 0X0fF\n")))
        (parse (document (.int 255))) := by
  intro spelled truth document
  -- A zero in front, and digits in letters of either case.
  have hspells : Spells 16 ['0', 'f', 'F'] 255 :=
    ⟨[0, 15, 15], by decide, .cons ⟨by decide, by decide⟩ (.cons ⟨by decide, by decide⟩
      (.cons ⟨by decide, by decide⟩ .nil)), by decide⟩
  have hspelled : spelled.StandsFor 255 :=
    .text rfl ⟨[' '], ['0', 'X'] ++ ['0', 'f', 'F'], ['\n'], by decide, by simp [asciiBlanks],
      .hexadecimal (by decide) hspells⟩
  have hint : (Value.scalar (.int 255)).StandsFor 255 := .int rfl
  have halike : DocumentAlike (document (.ofString " 0X0fF\n")) (document (.int 255)) :=
    .mapping (.cons ⟨rfl, .mapping (.cons ⟨rfl, .inr ⟨255, hspelled, hint⟩⟩ .nil)⟩ .nil)
  obtain ⟨hread, -, hdocuments⟩ := parseInt_spellings spelled _ _
  have hrefused := (parseInt_spellings truth truth truth).2.1 trivial
  exact ⟨hspelled, hread 255 hspelled, trivial, hrefused.1 "True" rfl, halike, hdocuments halike⟩

/-- Not every list is refused with a report: an integer in it can be too long to be written out. -/
theorem parseInt_unreported :
    ¬ ∀ (v : Value) (items : List Value), v.view = .list items →
      ∃ text, parseInt v = .error (.notAnInteger text) := by
  intro h
  obtain ⟨n, hn⟩ := exists_whole?_eq_none
  -- A list with one integer that is too long.
  let v := Value.ofPart (.list [.scalar (.int n)])
  have hdisplay : v.display? = none := by
    simp [v, Value.display?, Value.ofPart, Value.view, Part.quoted?, Part.quotedItems?,
      Scalar.quoted?, hn]
  have hrefused : parseInt v = .error .tooManyDigits := by
    rw [parseInt_of_noInteger (show v.NoInteger from trivial), Value.complaint, hdisplay]
  obtain ⟨text, hreported⟩ := h v _ rfl
  cases hrefused.symm.trans hreported

end Micro6502.Config
