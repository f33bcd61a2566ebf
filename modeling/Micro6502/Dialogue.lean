import Micro6502.Bus.Host

/-!
# Dialogues with a bus

What a processor does between two instruction boundaries is a dialogue: it asks the bus for a
byte or hands it one, and goes on according to the answer. A dialogue mentions no bus; `run` holds
it with any host. Each access carries the processor state as it stands when the access is made,
which is the state that a refused access leaves behind.

## Contents

- `Dialogue`, the tree of accesses, and `Dialogue.run`
- `Action`, dialogues that start from a state, as a monad
- `Dialogue.run_andThen`, running a sequence is running its parts
-/

namespace Micro6502

/-! ## Dialogues -/

/-- A dialogue of a processor whose state is a `σ`, with a result in `α`. -/
inductive Dialogue (σ α : Type) where
  /-- The end, with the state reached. -/
  | done (state : σ) (result : α)
  /-- A request for the byte at an address. -/
  | read (state : σ) (address : Int) (next : Byte → Dialogue σ α)
  /-- A value put at an address. -/
  | write (state : σ) (address data : Int) (next : Dialogue σ α)
  /-- A remark. -/
  | tell (notice : Notice) (next : Dialogue σ α)

namespace Dialogue

/-- A dialogue that goes on, from the state and the result of the first, with another. -/
def andThen : Dialogue σ α → (σ → α → Dialogue σ β) → Dialogue σ β
  | done state result, next => next state result
  | read state a answer, next => read state a fun b => (answer b).andThen next
  | write state a data rest, next => write state a data (rest.andThen next)
  | tell notice rest, next => tell notice (rest.andThen next)

/-- Holds a dialogue with a host. The outcome has the host and the processor state afterwards. -/
def run [HostBus β] : Dialogue σ α → β → Outcome (β × σ) α
  | done state result, bus => ⟨.ok result, (bus, state), []⟩
  | read state a answer, bus =>
    match HostBus.read a bus with
    | ⟨.ok b, bus, told⟩ => ((answer b).run bus).after told
    | ⟨.error fault, bus, told⟩ => ⟨.error fault, (bus, state), told⟩
  | write state a data rest, bus =>
    match HostBus.write a data bus with
    | ⟨.ok (), bus, told⟩ => (rest.run bus).after told
    | ⟨.error fault, bus, told⟩ => ⟨.error fault, (bus, state), told⟩
  | tell notice rest, bus => (rest.run bus).after [notice]

end Dialogue

/-! ## Actions -/

/-- A dialogue for every state to start from. -/
def Action (σ α : Type) := σ → Dialogue σ α

namespace Action

protected def pure (a : α) : Action σ α := fun s => .done s a

protected def bind (first : Action σ α) (next : α → Action σ β) : Action σ β := fun s =>
  (first s).andThen fun s a => next a s

instance : Monad (Action σ) where
  pure := Action.pure
  bind := Action.bind

def get : Action σ σ := fun s => .done s s

def modify (f : σ → σ) : Action σ Unit := fun s => .done (f s) ()

def read (a : Int) : Action σ Byte := fun s => .read s a fun b => .done s b

def write (a data : Int) : Action σ Unit := fun s => .write s a data (.done s ())

def tell (notice : Notice) : Action σ Unit := fun s => .tell notice (.done s ())

/-- Reads the word at an address, low byte first. Addresses wrap at sixteen bits. -/
def readWord (a : Int) : Action σ Address := do
  let low ← read (a % 0x10000)
  let high ← read ((a + 1) % 0x10000)
  return wordOf low high

end Action

/-! ## Laws -/

namespace Dialogue

@[simp] theorem andThen_done (d : Dialogue σ α) : d.andThen done = d := by
  induction d with
  | done state result => rfl
  | read state a answer ih => simp [andThen, ih]
  | write state a data rest ih => simp [andThen, ih]
  | tell notice rest ih => simp [andThen, ih]

theorem andThen_assoc (d : Dialogue σ α) (f : σ → α → Dialogue σ β) (g : σ → β → Dialogue σ γ) :
    (d.andThen f).andThen g = d.andThen fun s a => (f s a).andThen g := by
  induction d with
  | done state result => rfl
  | read state a answer ih => simp [andThen, ih]
  | write state a data rest ih => simp [andThen, ih]
  | tell notice rest ih => simp [andThen, ih]

/-- Holding a sequence of dialogues is holding the first and, from where it ends, the second. -/
theorem run_andThen [HostBus β] (d : Dialogue σ α) (next : σ → α → Dialogue σ γ) (bus : β) :
    (d.andThen next).run bus =
      match d.run bus with
      | ⟨.ok a, (bus, s), told⟩ => ((next s a).run bus).after told
      | ⟨.error fault, m, told⟩ => ⟨.error fault, m, told⟩ := by
  induction d generalizing bus with
  | done state result => simp [andThen, run, Outcome.after]
  | read state a answer ih =>
    simp only [andThen, run]
    rcases HostBus.read a bus with ⟨_ | b, bus1, told⟩
    · rfl
    · simp only [ih]
      rcases (answer b).run bus1 with ⟨_ | c, m, told2⟩ <;> simp [Outcome.after]
  | write state a data rest ih =>
    simp only [andThen, run]
    rcases HostBus.write a data bus with ⟨_ | u, bus1, told⟩
    · rfl
    · simp only [ih]
      rcases rest.run bus1 with ⟨_ | c, m, told2⟩ <;> simp [Outcome.after]
  | tell notice rest ih =>
    simp only [andThen, run, ih]
    rcases rest.run bus with ⟨_ | c, m, told2⟩ <;> simp [Outcome.after]

end Dialogue

instance : LawfulMonad (Action σ) := LawfulMonad.mk'
  (Action σ)
  (fun x => funext fun s => Dialogue.andThen_done (x s))
  (fun _ _ => rfl)
  (fun x f g => funext fun s => Dialogue.andThen_assoc (x s) _ _)

end Micro6502
