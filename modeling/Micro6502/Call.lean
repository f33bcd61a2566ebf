import Micro6502.Fault
import Micro6502.Notice

/-!
# Calls

A call takes a machine of some type, and leaves a result or a fault, the machine afterwards and
the notices given on the way. A fault ends the calls that follow it, and the machine stays as the
fault found it.

## Contents

- `Outcome`, what a call leaves
- `Call`, a monad of calls, and `Call.fail`, `Call.tell`, `Call.get`, `Call.set`
- `Call.within`, a call of a part as a call of the whole
-/

namespace Micro6502

/-! ## Outcomes -/

/-- What a call leaves behind. -/
structure Outcome (μ α : Type) where
  result : Except Fault α
  machine : μ
  notices : List Notice

/-- The outcome with earlier notices in front of its own. -/
def Outcome.after (told : List Notice) (o : Outcome μ α) : Outcome μ α :=
  ⟨o.result, o.machine, told ++ o.notices⟩

/-- The outcome with its machine put into a larger one. -/
def Outcome.mapMachine (f : μ → ν) (o : Outcome μ α) : Outcome ν α :=
  ⟨o.result, f o.machine, o.notices⟩

/-! ## Calls -/

/-- A call of a machine. -/
def Call (μ α : Type) := μ → Outcome μ α

namespace Call

protected def pure (a : α) : Call μ α := fun m => ⟨.ok a, m, []⟩

protected def bind (first : Call μ α) (next : α → Call μ β) : Call μ β := fun m =>
  match first m with
  | ⟨.ok a, m, told⟩ => (next a m).after told
  | ⟨.error fault, m, told⟩ => ⟨.error fault, m, told⟩

instance : Monad (Call μ) where
  pure := Call.pure
  bind := Call.bind

theorem bind_apply (first : Call μ α) (next : α → Call μ β) (m : μ) :
    (first >>= next) m =
      match first m with
      | ⟨.ok a, m, told⟩ => (next a m).after told
      | ⟨.error fault, m, told⟩ => ⟨.error fault, m, told⟩ := rfl

def fail (fault : Fault) : Call μ α := fun m => ⟨.error fault, m, []⟩

def tell (notice : Notice) : Call μ Unit := fun m => ⟨.ok (), m, [notice]⟩

def get : Call μ μ := fun m => ⟨.ok m, m, []⟩

def set (m : μ) : Call μ Unit := fun _ => ⟨.ok (), m, []⟩

/-- A call that gives its result or its fault together with the machine afterwards. -/
def ofExcept (step : μ → Except Fault α × μ) : Call μ α := fun m =>
  let (result, m) := step m
  ⟨result, m, []⟩

/-- The call that calls each item of a list in turn. -/
def forEach (xs : List α) (call : α → Call μ Unit) : Call μ Unit :=
  match xs with
  | [] => Call.pure ()
  | x :: rest => Call.bind (call x) fun _ => forEach rest call

end Call

end Micro6502
