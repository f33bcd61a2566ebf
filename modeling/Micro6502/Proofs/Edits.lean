import Micro6502.Proofs.FlagNames
import Micro6502.Proofs.Masks
import Micro6502.Registers.Edit

/-!
# The registers hold what they were given last

Edits of the registers follow one another in any number. Afterwards a word is the integer that was
assigned to it last, reduced to its width, and a flag has the value that it was given last, whether
alone, by its name or with the whole byte. So the status byte, although it is written as a whole
each time, is a record of seven independent values.

## Contents

- `latest`, what was told last, with `view_foldl`, for what is seen after many steps
- `Setting`, what is given to the flags, on a status and on its byte
- `Edit.assigned?`, `Edit.latched?` and `Edit.settings`, what an edit gives
- `Registers.read_edit`, `Registers.pending_edit` and `Registers.status_edit`, one edit
- `Registers.Holds` and `Registers.Refuses`, what holds after all edits
- `Registers.flags_independent`
-/

namespace Micro6502

/-! ## What was told last -/

section Latest

variable {α β σ : Type}

/-- What is told by the last of the events that tell something. -/
def latest (told : α → Option β) (events : List α) : Option β := events.reverse.findSome? told

theorem latest_cons (told : α → Option β) (event : α) (rest : List α) :
    latest told (event :: rest) = (latest told rest).or (told event) := by
  simp [latest, List.findSome?_append]

/-- If what is seen of a state changes to what an event tells, and stays if the event tells nothing,
then it is in the end what was told last. -/
theorem view_foldl (view : σ → β) {step : σ → α → σ} {told : α → Option β}
    (h : ∀ s event, view (step s event) = (told event).getD (view s)) (s : σ) (events : List α) :
    view (events.foldl step s) = (latest told events).getD (view s) := by
  induction events generalizing s with
  | nil => rfl
  | cons event rest ih =>
    rw [List.foldl_cons, ih, h, latest_cons]
    cases latest told rest <;> rfl

end Latest

/-! ## Settings -/

/-- What is given to the flags. -/
inductive Setting where
  /-- To each flag its bit of an integer. -/
  | all (n : Int)
  | one (flag : Flag) (value : Bool)

namespace Setting

/-- The value that is given to a flag. -/
def value? (flag : Flag) : Setting → Option Bool
  | all n => some (n.testBit flag.bit)
  | one other value => if flag = other then some value else none

/-- What becomes of the status byte, by masks. -/
def onByte (p : Int) : Setting → Int
  | all n => settled n
  | one flag value => masked p flag value

/-- What flags are given by name, up to a name that none of them has. -/
def named (flags : List (String × Bool)) : List Setting :=
  (flags.takeWhile fun entry => Flag.Known entry.1).filterMap fun (name, value) =>
    (Flag.named? name).map (one · value)

theorem named_of_mem {flag : Flag} {name : String} (h : name ∈ flag.names) (value : Bool)
    (rest : List (String × Bool)) :
    named ((name, value) :: rest) = one flag value :: named rest := by
  have hknown : Flag.Known name := ⟨flag, h⟩
  simp [named, hknown, Flag.named?_of_mem h]

theorem named_of_unknown {name : String} (h : ¬Flag.Known name) (value : Bool)
    (rest : List (String × Bool)) : named ((name, value) :: rest) = [] := by
  simp [named, h]

end Setting

/-- The status with a setting made. -/
def Status.make (status : Status) : Setting → Status
  | .all n => .unpack (byte n)
  | .one flag value => status.set flag value

theorem Status.get_make (flag : Flag) (status : Status) (setting : Setting) :
    (status.make setting).get flag = (setting.value? flag).getD (status.get flag) := by
  cases setting with
  | all n => exact get_unpack_byte n flag
  | one other value =>
    rw [make, get_set, Setting.value?]
    split <;> rfl

theorem Status.pack_make (status : Status) (setting : Setting) :
    ((status.make setting).pack.toNat : Int) = setting.onByte status.pack.toNat := by
  cases setting with
  | all n => exact pack_unpack n
  | one flag value => exact pack_set status flag value

theorem Status.pack_foldl_make (status : Status) (settings : List Setting) :
    ((settings.foldl Status.make status).pack.toNat : Int) =
      settings.foldl Setting.onByte status.pack.toNat := by
  -- On any status, for each setting is made on what the ones before it have left.
  induction settings generalizing status with
  | nil => rfl
  | cons setting rest ih => rw [List.foldl_cons, ih, pack_make, List.foldl_cons]

/-- The flags that describe a result are two settings. -/
theorem Status.setNZ_eq (status : Status) (n : Int) :
    status.setNZ (byte n) =
      (status.set .negative (n.testBit 7)).set .zero (n % 0x100 == 0) := by
  -- Both flags speak of the byte, and so of the integer up to what is cut off.
  have hnegative : (byte n).msb = n.testBit 7 := by
    rw [BitVec.msb_eq_getLsbD_last, getLsbD_byte]
    rfl
  have hzero : (byte n == 0) = (n % 0x100 == 0) := by
    rw [Bool.eq_iff_iff, beq_iff_eq, beq_iff_eq, ← toNat_byte, ← BitVec.toNat_inj]
    exact Int.natCast_eq_zero.symm
  rw [setNZ, hnegative, hzero]
  rfl

/-! ## Words -/

theorem toNat_byte_getD (given : Option Int) (b : Byte) :
    ((byte (given.getD b.toNat)).toNat : Int) = (given.map (· % 0x100)).getD (b.toNat : Int) := by
  cases given with
  | none => exact congrArg (fun b : Byte => (b.toNat : Int)) (byte_toNat b)
  | some n => exact toNat_byte n

theorem toNat_address_getD (given : Option Int) (a : Address) :
    ((address (given.getD a.toNat)).toNat : Int) =
      (given.map (· % 0x10000)).getD (a.toNat : Int) := by
  cases given with
  | none =>
    -- Without a new integer the old word comes back, which has not to be reduced.
    have ha := a.isLt
    rw [toNat_address, Option.getD_none, Option.map_none, Option.getD_none]
    omega
  | some n => exact toNat_address n

/-! ## What an edit gives -/

/-- How many values a register can hold. -/
def Register.size : Register → Int
  | .pc => 0x10000
  | _ => 0x100

namespace Edit

/-- The integer that is assigned to a register. -/
def assigned? (register : Register) : Edit → Option Int
  | assign other value => if register = other then some value else none
  | unpack value => if register = .p then some value else none
  | replace changes => changes.word register
  | _ => none

/-- What the latch of an input is set to. -/
def latched? (input : Interrupt) : Edit → Option Bool
  | latch other requested => if input = other then some requested else none
  | replace changes => changes.pending input
  | _ => none

/-- The first name in the edit that no flag has. -/
def unknown? : Edit → Option String
  | setNamed name _ => [name].find? fun name => ¬Flag.Known name
  | updateFlags flags => (flags.map Prod.fst).find? fun name => ¬Flag.Known name
  | _ => none

/-- What is given to the flags, one after the other. -/
def settings : Edit → List Setting
  | setFlag flag value => [.one flag value]
  -- What is set by name is a list of settings, also if the name is unknown and the list empty.
  | setNamed name value => Setting.named [(name, value)]
  | updateFlags flags => Setting.named flags
  | setNZ result => [.one .negative (result.testBit 7), .one .zero (result % 0x100 == 0)]
  | edit => ((edit.assigned? .p).map .all).toList

theorem settings_of_assigned {edit : Edit} {n : Int} (h : edit.assigned? .p = some n) :
    edit.settings = [.all n] := by
  cases edit with
  | assign | latch | unpack | replace =>
    -- Of the edits that assign the byte, all give the one integer to all flags.
    exact congrArg (fun given : Option Int => (given.map Setting.all).toList) h
  | setFlag | setNamed | updateFlags | setNZ => cases h

end Edit

namespace Registers

theorem setNamed_of_mem {flag : Flag} {name : String} (h : name ∈ flag.names) (r : Registers)
    (value : Bool) : r.setNamed name value = (.ok (), r.setFlag flag value) := by
  rw [setNamed, Flag.ofName?_of_mem h]

theorem setNamed_of_unknown {name : String} (h : ¬Flag.Known name) (r : Registers) (value : Bool) :
    r.setNamed name value = (.error ⟨Text.upper name⟩, r) := by
  rw [setNamed, Flag.ofName?_of_unknown h]

theorem updateFlags_of_mem {flag : Flag} {name : String} (h : name ∈ flag.names) (r : Registers)
    (value : Bool) (rest : List (String × Bool)) :
    r.updateFlags ((name, value) :: rest) = (r.setFlag flag value).updateFlags rest := by
  rw [updateFlags, Flag.ofName?_of_mem h]

theorem updateFlags_of_unknown {name : String} (h : ¬Flag.Known name) (r : Registers)
    (value : Bool) (rest : List (String × Bool)) :
    r.updateFlags ((name, value) :: rest) = (.error ⟨Text.upper name⟩, r) := by
  rw [updateFlags, Flag.ofName?_of_unknown h]

/-- Flags that are set by name are given what stands before the first unknown name. -/
theorem updateFlags_eq (r : Registers) (flags : List (String × Bool)) :
    (r.updateFlags flags).2 =
      { r with status := (Setting.named flags).foldl Status.make r.status } := by
  induction flags generalizing r with
  | nil => rfl
  | cons entry rest ih =>
    obtain ⟨name, value⟩ := entry
    -- The first unknown name ends the setting, and what stands before it has been made.
    by_cases hknown : Flag.Known name
    · obtain ⟨flag, hname⟩ := hknown
      rw [updateFlags_of_mem hname, Setting.named_of_mem hname, ih]
      rfl
    · rw [updateFlags_of_unknown hknown, Setting.named_of_unknown hknown]
      rfl

theorem setNamed_eq (r : Registers) (name : String) (value : Bool) :
    r.setNamed name value = r.updateFlags [(name, value)] := by
  by_cases hknown : Flag.Known name
  · obtain ⟨flag, hname⟩ := hknown
    rw [setNamed_of_mem hname, updateFlags_of_mem hname, updateFlags]
  · rw [setNamed_of_unknown hknown, updateFlags_of_unknown hknown]

theorem edit_updateFlags (r : Registers) (flags : List (String × Bool)) :
    (r.edit (.updateFlags flags)).2 =
      { r with status := (Setting.named flags).foldl Status.make r.status } :=
  updateFlags_eq r flags

theorem edit_setNamed (r : Registers) (name : String) (value : Bool) :
    (r.edit (.setNamed name value)).2 =
      { r with status := (Setting.named [(name, value)]).foldl Status.make r.status } := by
  rw [edit, setNamed_eq, updateFlags_eq]

/-! ## One edit -/

theorem status_replace (r : Registers) (changes : Changes) :
    (r.replace changes).status =
      ((changes.word .p).map fun n => .unpack (byte n)).getD r.status := by
  have hstatus : (r.replace changes).status =
      .unpack (byte ((changes.word .p).getD r.status.pack.toNat)) := rfl
  rw [hstatus]
  -- A copy without a new byte unpacks the one it has, which is the same status.
  cases changes.word .p with
  | none => rw [Option.getD_none, byte_toNat, Status.unpack_pack, Option.map_none, Option.getD_none]
  | some n => rfl

/-- What an edit gives to the flags becomes of the status, and of nothing else. -/
theorem status_edit (r : Registers) (edit : Edit) :
    (r.edit edit).2.status = edit.settings.foldl Status.make r.status := by
  cases edit with
  | assign register value => cases register <;> rfl
  | latch input requested => cases input <;> rfl
  | unpack value => rfl
  | setFlag flag value => rfl
  | setNamed name value =>
    rw [edit_setNamed]
    rfl
  | updateFlags flags =>
    rw [edit_updateFlags]
    rfl
  | setNZ result => exact Status.setNZ_eq r.status result
  | replace changes =>
    have hsettings : (Edit.replace changes).settings = ((changes.word .p).map .all).toList := rfl
    rw [Registers.edit, status_replace, hsettings]
    cases changes.word .p <;> rfl

theorem pending_edit (input : Interrupt) (r : Registers) (edit : Edit) :
    (r.edit edit).2.pending input = (edit.latched? input).getD (r.pending input) := by
  cases edit with
  | assign register value => cases register <;> cases input <;> rfl
  | latch other requested => cases other <;> cases input <;> rfl
  -- Settings change the status, and no latch.
  | setNamed name value =>
    rw [edit_setNamed]
    cases input <;> rfl
  | updateFlags flags =>
    rw [edit_updateFlags]
    cases input <;> rfl
  | unpack value | setFlag flag value | setNZ result | replace changes => cases input <;> rfl

theorem read_status {register : Register} (h : register ≠ .p) (r : Registers) (status : Status) :
    { r with status := status }.read register = r.read register := by
  cases register with
  | p => exact absurd rfl h
  | pc | sp | a | x | y => rfl

theorem read_assign {register : Register} (h : register ≠ .p) (r : Registers) (other : Register)
    (value : Int) : ((r.assign other value).read register : Int) =
      if register = other then value % register.size else r.read register := by
  -- The register that is assigned is reduced to its width, and the others are kept.
  by_cases hsame : register = other
  · rw [if_pos hsame, ← hsame]
    cases register with
    | p => exact absurd rfl h
    | pc => exact toNat_address value
    | sp | a | x | y => exact toNat_byte value
  · rw [if_neg hsame]
    cases other <;> cases register <;> try rfl
    all_goals exact absurd rfl hsame

theorem read_replace {register : Register} (h : register ≠ .p) (r : Registers) (changes : Changes) :
    ((r.replace changes).read register : Int) =
      ((changes.word register).map (· % register.size)).getD (r.read register : Int) := by
  -- The byte of the status is left out, for it is not what is assigned but what is settled.
  cases register with
  | p => exact absurd rfl h
  | pc => exact toNat_address_getD (changes.word .pc) r.pc
  | sp => exact toNat_byte_getD (changes.word .sp) r.sp
  | a => exact toNat_byte_getD (changes.word .a) r.a
  | x => exact toNat_byte_getD (changes.word .x) r.x
  | y => exact toNat_byte_getD (changes.word .y) r.y

/-- A word changes to what an edit assigns to it. -/
theorem read_edit {register : Register} (h : register ≠ .p) (r : Registers) (edit : Edit) :
    ((r.edit edit).2.read register : Int) =
      ((edit.assigned? register).map (· % register.size)).getD (r.read register : Int) := by
  cases edit with
  | assign other value =>
    rw [Registers.edit, read_assign h, Edit.assigned?]
    split <;> rfl
  -- A copy assigns every word, the unchanged ones with what they hold.
  | replace changes => exact read_replace h r changes
  | latch input requested => cases input <;> cases register <;> rfl
  | unpack value =>
    rw [Edit.assigned?, if_neg h]
    exact congrArg Nat.cast (read_status h r _)
  | setFlag flag value => exact congrArg Nat.cast (read_status h r _)
  | setNZ result => exact congrArg Nat.cast (read_status h r _)
  | setNamed name value =>
    rw [edit_setNamed, read_status h]
    rfl
  | updateFlags flags =>
    rw [edit_updateFlags, read_status h]
    rfl

/-! ## Names that no flag has -/

/-- Flags that are set together are set by name one after the other. -/
theorem updateFlags_append {flags : List (String × Bool)}
    (h : ∀ entry ∈ flags, Flag.Known entry.1) (r : Registers) (rest : List (String × Bool)) :
    r.updateFlags (flags ++ rest) =
      (r.editAll (flags.map fun entry => .setNamed entry.1 entry.2)).updateFlags rest := by
  induction flags generalizing r with
  | nil => rfl
  | cons entry more ih =>
    -- The first name is known, and setting it is an edit of its own.
    obtain ⟨⟨flag, hname⟩, hmore⟩ := List.forall_mem_cons.mp h
    have hset : (r.edit (.setNamed entry.1 entry.2)).2 = r.setFlag flag entry.2 :=
      congrArg Prod.snd (setNamed_of_mem hname r entry.2)
    rw [List.cons_append, updateFlags_of_mem hname, ih hmore, ← hset]
    rfl

/-- Flags that are set together are refused at the first name that none of them has. -/
theorem updateFlags_result (r : Registers) (flags : List (String × Bool)) :
    (r.updateFlags flags).1 =
      match (flags.map Prod.fst).find? fun name => ¬Flag.Known name with
      | none => .ok ()
      | some name => .error ⟨Text.upper name⟩ := by
  induction flags generalizing r with
  | nil => rfl
  | cons entry rest ih =>
    rw [List.map_cons]
    -- The search for an unknown name and the setting stop at the same entry.
    by_cases hknown : Flag.Known entry.1
    · obtain ⟨flag, hname⟩ := hknown
      have hknown : Flag.Known entry.1 := ⟨flag, hname⟩
      rw [updateFlags_of_mem hname, ih, List.find?_cons_of_neg (by simpa using hknown)]
    · rw [updateFlags_of_unknown hknown, List.find?_cons_of_pos (by simpa using hknown)]

/-- An edit is refused for a name that no flag has, and for nothing else. -/
theorem edit_result (r : Registers) (edit : Edit) :
    (r.edit edit).1 =
      match edit.unknown? with
      | none => .ok ()
      | some name => .error ⟨Text.upper name⟩ := by
  cases edit with
  | setNamed name value =>
    rw [Registers.edit, setNamed_eq]
    exact updateFlags_result r [(name, value)]
  | updateFlags flags => exact updateFlags_result r flags
  | assign | latch | unpack | setFlag | setNZ | replace => rfl

/-! ## All edits -/

/-- The registers hold what some edits have given them last, and else what others held before. -/
structure Holds (r start : Registers) (edits : List Edit) : Prop where
  /-- A word is the integer that was assigned last, reduced to its width. -/
  word {register : Register} (h : register ≠ .p) : (r.read register : Int) =
    ((latest (Edit.assigned? register) edits).map (· % register.size)).getD
      (start.read register : Int)
  /-- A latch is what it was set to last. -/
  latch (input : Interrupt) :
    r.pending input = (latest (Edit.latched? input) edits).getD (start.pending input)
  /-- A flag has the value that was given to it last. -/
  flag (flag : Flag) : r.status.get flag =
    (latest (Setting.value? flag) (edits.flatMap Edit.settings)).getD (start.status.get flag)
  /-- By each of its names the flag reads the same. -/
  named {flag : Flag} {name : String} (h : name ∈ flag.names) :
    r.getFlag name = .ok (r.status.get flag)
  /-- The status byte is what masks have made of it. -/
  byte : (r.read .p : Int) =
    (edits.flatMap Edit.settings).foldl Setting.onByte (start.read .p : Int)
  /-- By its mask the flag reads the same. -/
  mask (flag : Flag) : r.status.get flag = decide ((r.read .p : Int).land flag.mask ≠ 0)
  five : (r.read .p).testBit 5 = true

/-- Edits are refused for names that no flag has, and for nothing else. -/
structure Refuses (r : Registers) : Prop where
  accepted {edit : Edit} (h : edit.unknown? = none) : (r.edit edit).1 = .ok ()
  /-- By such a name no flag can be read. -/
  getFlag {name : String} (h : ¬Flag.Known name) : r.getFlag name = .error ⟨Text.upper name⟩
  /-- Nor can one be set; nothing changes then. -/
  setNamed {name : String} (h : ¬Flag.Known name) (value : Bool) :
    r.edit (.setNamed name value) = (.error ⟨Text.upper name⟩, r)
  /-- Of flags that are set together, those before it are set one after the other. -/
  updateFlags {flags : List (String × Bool)} {name : String}
    (hflags : ∀ entry ∈ flags, Flag.Known entry.1) (h : ¬Flag.Known name) (value : Bool)
    (rest : List (String × Bool)) :
    r.edit (.updateFlags (flags ++ (name, value) :: rest)) =
      (.error ⟨Text.upper name⟩, r.editAll (flags.map fun entry => .setNamed entry.1 entry.2))

theorem status_editAll (r : Registers) (edits : List Edit) :
    (r.editAll edits).status = (edits.flatMap Edit.settings).foldl Status.make r.status := by
  induction edits generalizing r with
  | nil => rfl
  | cons edit rest ih =>
    rw [List.flatMap_cons, List.foldl_append, ← status_edit, ← ih]
    rfl

theorem getFlag_of_mem {flag : Flag} {name : String} (h : name ∈ flag.names) (r : Registers) :
    r.getFlag name = .ok (r.status.get flag) := by
  rw [Registers.getFlag, Flag.ofName?_of_mem h]
  rfl

theorem getFlag_of_unknown {name : String} (h : ¬Flag.Known name) (r : Registers) :
    r.getFlag name = .error ⟨Text.upper name⟩ := by
  rw [Registers.getFlag, Flag.ofName?_of_unknown h]
  rfl

theorem holds_editAll (start : Registers) (edits : List Edit) :
    (start.editAll edits).Holds start edits where
  word {register} h := by
    rw [latest, List.map_findSome?]
    exact view_foldl (fun r => (r.read register : Int)) (read_edit h) start edits
  -- Each part is a view of its own, which every edit either sets or keeps.
  latch input := view_foldl (fun r => r.pending input) (pending_edit input) start edits
  flag flag := by
    rw [status_editAll]
    exact view_foldl (fun status => status.get flag) (Status.get_make flag) start.status _
  named h := getFlag_of_mem h _
  byte := by
    have hpack := Status.pack_foldl_make start.status (edits.flatMap Edit.settings)
    rwa [← status_editAll] at hpack
  mask flag := Status.get_eq_mask _ flag
  five := by
    rw [← Status.getLsbD_pack_five (start.editAll edits).status]
    exact BitVec.testBit_toNat _

theorem refuses (r : Registers) : r.Refuses where
  accepted h := by rw [edit_result, h]
  getFlag h := getFlag_of_unknown h r
  setNamed h value := setNamed_of_unknown h r value
  updateFlags hflags h value rest := by
    rw [edit, updateFlags_append hflags, updateFlags_of_unknown h]

/-- The status byte is a record of seven independent flags, and the registers hold what they were
given last.

After any edits, whatever the integers in them, a word is the integer that was assigned to it last,
reduced to its width, and each flag has the value that was given to it last: alone or by name, as
its bit of an integer that was given to the whole byte, or as what it says of a result. Nothing else
changes it. It reads the same from the record, by each of its names and by its mask from the byte,
in which bit 5 is always set, and the byte is what writing it by masks makes of it. Only a name that
no flag has is refused, and of flags that are set together those before it are set. An integer that
is given to the whole byte reads as its remainder, with bit 5 set. -/
theorem flags_independent (start : Registers) (edits : List Edit) :
    (start.editAll edits).Holds start edits ∧ (start.editAll edits).Refuses ∧
      ∀ (edit : Edit) (n : Int), edit.assigned? .p = some n →
        ((start.editAll (edits ++ [edit])).read .p : Int) = (n % 0x100).lor 0x20 := by
  refine ⟨holds_editAll start edits, refuses _, fun edit n hn => ?_⟩
  have hbyte : ((start.editAll (edits ++ [edit])).read .p : Int) = settled n := by
    -- The last edit settles the whole byte, whatever it was before.
    rw [(holds_editAll start (edits ++ [edit])).byte, List.flatMap_append, List.foldl_append,
      List.flatMap_singleton, Edit.settings_of_assigned hn]
    rfl
  rw [hbyte, settled, land_byte, toNat_byte]

/-- A byte with all flags, of which one is cleared by a name that is neither letter, then a result
that is zero only in eight bits, and a copy with a large negative integer. -/
theorem flags_independent_dotless :
    let edits : List Edit := [.unpack (-1), .assign .a 0x1FF,
      .updateFlags [("n", false), ("ı", false), ("Q", true), ("v", false)], .setNZ (-0x100),
      .replace { word := fun | .x => some (-0x1000000000000000F) | _ => none }]
    let r := initial.editAll edits
    (r.read .a : Int) = 0xFF ∧ (r.read .x : Int) = 0xF1 ∧ (r.read .p : Int) = 0x7B ∧
      r.getFlag "I" = .ok false ∧ r.getFlag "v" = .ok true ∧
      r.edit (.updateFlags [("c", false), ("q", true), ("b", false)]) =
        (.error ⟨"Q"⟩, r.editAll [.setNamed "c" false]) ∧
      ((initial.editAll (edits ++ [.unpack (-0x81)])).read .p : Int) = 0x7F := by
  intro edits r
  obtain ⟨hholds, hrefuses, hbyte⟩ := flags_independent initial edits
  have hmasked : r.status.get .interrupt = false :=
    (hholds.flag .interrupt).trans (by decide +kernel)
  have hoverflow : r.status.get .overflow = true :=
    (hholds.flag .overflow).trans (by decide +kernel)
  have hread (flag : Flag) (name : String) (hname : name ∈ flag.names) :
      r.getFlag name = .ok (r.status.get flag) := hholds.named hname
  refine ⟨(hholds.word (by decide)).trans (by decide), (hholds.word (by decide)).trans (by decide),
    hholds.byte.trans (by decide +kernel), ?_, ?_, ?_,
    (hbyte (.unpack (-0x81)) (-0x81) rfl).trans (by decide)⟩
  · rw [hread .interrupt "I" (by decide), hmasked]
  · rw [hread .overflow "v" (by decide), hoverflow]
  · -- The carry is cleared before the unknown name is met, and the flag behind it is left alone.
    have hbefore : ∀ entry ∈ [("c", false)], Flag.Known entry.1 := by decide
    have hunknown : ¬Flag.Known "q" := by decide
    have hcapital : Text.upper "q" = "Q" := by decide
    rw [← hcapital]
    exact hrefuses.updateFlags hbefore hunknown true [("b", false)]

end Registers

end Micro6502
