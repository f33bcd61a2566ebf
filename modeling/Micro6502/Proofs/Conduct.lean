import Micro6502.Dialogue

/-!
# The conduct of a dialogue

A dialogue branches on every byte that a bus may answer. `Dialogue.Always` says that whatever the
answers are, each access is allowed where it is made, and each end is one that was aimed at. It is
a weakest precondition: the rules below compute it through sequences, and `Dialogue.Always.run`
carries it over to any host.

## Contents

- `Access`, `Exchange` with `Activity.exchange`, and `Dialogue.Always`
- The rules for actions
- `Outcome.Satisfies` and `Call.Meets`, the same for calls
- `Dialogue.Always.run`, `Dialogue.Always.of_ok` and `Dialogue.Always.exists_ok`, from dialogues to
  hosts
-/

namespace Micro6502

/-! ## Accesses -/

/-- What a processor asks of its bus. -/
inductive Access where
  | read (address : Int)
  | write (address data : Int)
  deriving DecidableEq, Repr

/-- An access with its answer. -/
inductive Exchange where
  | read (address : Int) (data : Byte)
  | write (address data : Int)
  deriving DecidableEq, Repr

/-- The access of an exchange. -/
def Exchange.access : Exchange → Access
  | read a _ => .read a
  | write a data => .write a data

/-- What was asked and answered in an access on record, without the byte that a write replaced. -/
def Activity.exchange : Activity → Exchange
  | read a b => .read a b
  | write a data _ => .write a data

/-! ## Dialogues -/

namespace Dialogue

/-- Whatever the bus answers, every access is allowed and every end is a goal. Both may depend on
the exchanges so far, the latest in front, and on the state. -/
def Always (allowed : List Exchange → σ → Access → Prop) (goal : List Exchange → σ → α → Prop) :
    Dialogue σ α → List Exchange → Prop
  | done s result, past => goal past s result
  | read s a next, past =>
    allowed past s (.read a) ∧ ∀ b, (next b).Always allowed goal (.read a b :: past)
  | write s a data next, past =>
    allowed past s (.write a data) ∧ next.Always allowed goal (.write a data :: past)
  | tell _ next, past => next.Always allowed goal past

variable {allowed allowed' : List Exchange → σ → Access → Prop}

/-- What a sequence of dialogues always does: the second part starts wherever the first ends. -/
theorem always_andThen (d : Dialogue σ α) (next : σ → α → Dialogue σ β)
    (goal : List Exchange → σ → β → Prop) (past : List Exchange) :
    (d.andThen next).Always allowed goal past ↔
      d.Always allowed (fun past s a => (next s a).Always allowed goal past) past := by
  -- Every access lengthens the past, so the past varies along the tree.
  induction d generalizing past with
  | done s result => exact Iff.rfl
  | read s a answer ih => simp only [andThen, Always, ih]
  | write s a data rest ih => simp only [andThen, Always, ih]
  | tell notice rest ih => simp only [andThen, Always, ih]

theorem Always.mono {goal goal' : List Exchange → σ → α → Prop} {d : Dialogue σ α}
    {past : List Exchange} (h : d.Always allowed goal past)
    (hallowed : ∀ past s x, allowed past s x → allowed' past s x)
    (hgoal : ∀ past s a, goal past s a → goal' past s a) : d.Always allowed' goal' past := by
  induction d generalizing past with
  | done s result => exact hgoal _ _ _ h
  | read s a answer ih => exact ⟨hallowed _ _ _ h.1, fun b => ih b (h.2 b)⟩
  | write s a data rest ih => exact ⟨hallowed _ _ _ h.1, ih h.2⟩
  | tell notice rest ih => exact ih h

/-- What holds of every end is reached without fail. -/
theorem always_of_forall {goal : List Exchange → σ → α → Prop} (h : ∀ past s a, goal past s a)
    (d : Dialogue σ α) (past : List Exchange) : d.Always (fun _ _ _ => True) goal past := by
  induction d generalizing past with
  | done s result => exact h past s result
  | read s a answer ih => exact ⟨trivial, fun b => ih b _⟩
  | write s a data rest ih => exact ⟨trivial, ih _⟩
  | tell notice rest ih => exact ih past

/-- Two things that a dialogue always does, it does together. -/
theorem Always.and {goal goal' : List Exchange → σ → α → Prop} {d : Dialogue σ α}
    {past : List Exchange} (h : d.Always allowed goal past) (h' : d.Always allowed' goal' past) :
    d.Always (fun past s x => allowed past s x ∧ allowed' past s x)
      (fun past s a => goal past s a ∧ goal' past s a) past := by
  induction d generalizing past with
  | done s result => exact ⟨h, h'⟩
  | read s a answer ih => exact ⟨⟨h.1, h'.1⟩, fun b => ih b (h.2 b) (h'.2 b)⟩
  | write s a data rest ih => exact ⟨⟨h.1, h'.1⟩, ih h.2 h'.2⟩
  | tell notice rest ih => exact ih h h'

/-- What has happened is not forgotten. -/
theorem Always.suffix {goal : List Exchange → σ → α → Prop} {d : Dialogue σ α}
    {past : List Exchange} (h : d.Always allowed goal past) :
    d.Always allowed (fun past' s a => past <:+ past' ∧ goal past' s a) past := by
  -- The past at the end goes back to each past on the way.
  have hfrom (start : List Exchange) (hstart : start <:+ past) :
      d.Always allowed (fun past' s a => start <:+ past' ∧ goal past' s a) past := by
    induction d generalizing past with
    | done s result => exact ⟨hstart, h⟩
    | read s a answer ih =>
      exact ⟨h.1, fun b => ih b (h.2 b) (hstart.trans (List.suffix_cons _ _))⟩
    | write s a data rest ih => exact ⟨h.1, ih h.2 (hstart.trans (List.suffix_cons _ _))⟩
    | tell notice rest ih => exact ih h hstart
  exact hfrom past (List.suffix_refl past)

end Dialogue

/-! ## Actions -/

namespace Action

variable {allowed : List Exchange → σ → Access → Prop} {past : List Exchange} {s : σ}

@[simp] theorem always_pure {goal : List Exchange → σ → α → Prop} (a : α) :
    ((pure a : Action σ α) s).Always allowed goal past ↔ goal past s a := Iff.rfl

@[simp] theorem always_bind {goal : List Exchange → σ → β → Prop} (x : Action σ α)
    (next : α → Action σ β) :
    ((x >>= next) s).Always allowed goal past ↔
      (x s).Always allowed (fun past s a => (next a s).Always allowed goal past) past :=
  Dialogue.always_andThen _ _ _ _

@[simp] theorem always_map {goal : List Exchange → σ → β → Prop} (f : α → β) (x : Action σ α) :
    ((f <$> x) s).Always allowed goal past ↔
      (x s).Always allowed (fun past s a => goal past s (f a)) past :=
  Dialogue.always_andThen _ _ _ _

@[simp] theorem always_get {goal : List Exchange → σ → σ → Prop} :
    ((get : Action σ σ) s).Always allowed goal past ↔ goal past s s := Iff.rfl

@[simp] theorem always_modify {goal : List Exchange → σ → Unit → Prop} (f : σ → σ) :
    (modify f s).Always allowed goal past ↔ goal past (f s) () := Iff.rfl

@[simp] theorem always_read {goal : List Exchange → σ → Byte → Prop} (a : Int) :
    (read a s).Always allowed goal past ↔
      allowed past s (.read a) ∧ ∀ b, goal (.read a b :: past) s b := Iff.rfl

@[simp] theorem always_tell {goal : List Exchange → σ → Unit → Prop} (notice : Notice) :
    (tell notice s).Always allowed goal past ↔ goal past s () := Iff.rfl

@[simp] theorem always_readWord {goal : List Exchange → σ → Address → Prop} (a : Int) :
    (readWord a s).Always allowed goal past ↔
      allowed past s (.read (a % 0x10000)) ∧ ∀ low,
        allowed (.read (a % 0x10000) low :: past) s (.read ((a + 1) % 0x10000)) ∧ ∀ high,
          goal (.read ((a + 1) % 0x10000) high :: .read (a % 0x10000) low :: past) s
            (wordOf low high) := by
  simp only [readWord, always_bind, always_read, always_pure]

/-- A word that does not come around the bus. -/
theorem always_readWord_of_lt {goal : List Exchange → σ → Address → Prop} {a : Int}
    (ha : 0 ≤ a ∧ a < 0xFFFF) :
    (readWord a s).Always allowed goal past ↔
      allowed past s (.read a) ∧ ∀ low, allowed (.read a low :: past) s (.read (a + 1)) ∧
        ∀ high, goal (.read (a + 1) high :: .read a low :: past) s (wordOf low high) := by
  have hlow : a % 0x10000 = a := by omega
  have hhigh : (a + 1) % 0x10000 = a + 1 := by omega
  rw [always_readWord, hlow, hhigh]

end Action

/-! ## Outcomes and calls -/

/-- Where an outcome leads: to a `good` end with a result, or to a `bad` one with a fault. -/
def Outcome.Satisfies (o : Outcome μ α) (good : α → μ → Prop) (bad : Fault → μ → Prop) : Prop :=
  match o.result with
  | .ok a => good a o.machine
  | .error fault => bad fault o.machine

/-- From every machine with `pre` the call leads to a `good` end, or to a `bad` one. -/
def Call.Meets (pre : μ → Prop) (call : Call μ α) (good : α → μ → Prop)
    (bad : Fault → μ → Prop) : Prop :=
  ∀ m, pre m → (call m).Satisfies good bad

namespace Outcome

variable {good : α → μ → Prop} {bad : Fault → μ → Prop}

@[simp] theorem satisfies_mapMachine {good : α → ν → Prop} {bad : Fault → ν → Prop}
    (o : Outcome μ α) (f : μ → ν) :
    (o.mapMachine f).Satisfies good bad ↔
      o.Satisfies (fun a m => good a (f m)) (fun fault m => bad fault (f m)) := Iff.rfl

/-- An outcome whose result is known, with what else it leaves. -/
theorem eq_of_result {o : Outcome μ α} {a : α} (h : o.result.toOption = some a) :
    o = ⟨.ok a, o.machine, o.notices⟩ := by
  obtain ⟨_ | b, m, told⟩ := o
  · exact nomatch h
  · obtain rfl := Option.some.inj h
    rfl

theorem Satisfies.mono {good' : α → μ → Prop} {bad' : Fault → μ → Prop} {o : Outcome μ α}
    (h : o.Satisfies good bad) (hgood : ∀ a m, good a m → good' a m)
    (hbad : ∀ fault m, bad fault m → bad' fault m) : o.Satisfies good' bad' := by
  obtain ⟨_ | a, m, told⟩ := o
  · exact hbad _ _ h
  · exact hgood _ _ h

/-- Two things to which an outcome leads hold together. -/
theorem Satisfies.and {good' : α → μ → Prop} {bad' : Fault → μ → Prop} {o : Outcome μ α}
    (h : o.Satisfies good bad) (h' : o.Satisfies good' bad') :
    o.Satisfies (fun a m => good a m ∧ good' a m) fun fault m => bad fault m ∧ bad' fault m := by
  obtain ⟨_ | a, m, told⟩ := o
  · exact ⟨h, h'⟩
  · exact ⟨h, h'⟩

theorem satisfies_of_forall (hgood : ∀ a m, good a m) (hbad : ∀ fault m, bad fault m)
    (o : Outcome μ α) : o.Satisfies good bad := by
  obtain ⟨_ | a, m, told⟩ := o
  · exact hbad _ _
  · exact hgood _ _

theorem Satisfies.of_ok {o : Outcome μ α} {a : α} (h : o.Satisfies good bad)
    (ha : o.result = .ok a) : good a o.machine := by
  rw [Satisfies, ha] at h
  exact h

theorem Satisfies.of_error {o : Outcome μ α} {fault : Fault} (h : o.Satisfies good bad)
    (hfault : o.result = .error fault) : bad fault o.machine := by
  rw [Satisfies, hfault] at h
  exact h

/-- An outcome that no fault can satisfy has a result. -/
theorem Satisfies.exists_ok {o : Outcome μ α} (h : o.Satisfies good fun _ _ => False) :
    ∃ a m told, o = ⟨.ok a, m, told⟩ ∧ good a m := by
  obtain ⟨_ | a, m, told⟩ := o
  · exact h.elim
  · exact ⟨a, m, told, rfl, h⟩

/-- What holds of the machine with a result and with a fault holds of it in any case. -/
theorem Satisfies.machine {p : μ → Prop} {o : Outcome μ α}
    (h : o.Satisfies (fun _ => p) fun _ => p) : p o.machine := by
  obtain ⟨_ | a, m, told⟩ := o
  · exact h
  · exact h

theorem Satisfies.bind {first : Call μ α} {next : α → Call μ β} {m : μ} {mid : α → μ → Prop}
    {good : β → μ → Prop} (h : (first m).Satisfies mid bad)
    (hnext : ∀ a m, mid a m → (next a m).Satisfies good bad) :
    ((first >>= next) m).Satisfies good bad := by
  show (Call.bind first next m).Satisfies good bad
  rw [Call.bind]
  generalize first m = o at h ⊢
  obtain ⟨_ | a, m', told⟩ := o
  · -- A fault ends the sequence with the machine as it is.
    exact h
  · exact hnext a m' h

end Outcome

namespace Call

variable {pre : μ → Prop} {bad : Fault → μ → Prop}

theorem meets_pure {good : α → μ → Prop} (a : α) (h : ∀ m, pre m → good a m) :
    Meets pre (pure a) good bad := fun m hm => h m hm

theorem meets_of_forall {good : α → μ → Prop} (hgood : ∀ a m, good a m)
    (hbad : ∀ fault m, bad fault m) (call : Call μ α) : Meets pre call good bad :=
  fun m _ => Outcome.satisfies_of_forall hgood hbad (call m)

theorem Meets.bind {first : Call μ α} {next : α → Call μ β} {mid : α → μ → Prop}
    {good : β → μ → Prop} (hfirst : Meets pre first mid bad)
    (hnext : ∀ a, Meets (mid a) (next a) good bad) : Meets pre (first >>= next) good bad :=
  fun m hm => (hfirst m hm).bind fun a m' hm' => hnext a m' hm'

theorem Meets.mono {good good' : α → μ → Prop} {bad' : Fault → μ → Prop} {call : Call μ α}
    (h : Meets pre call good bad) (hgood : ∀ a m, good a m → good' a m)
    (hbad : ∀ fault m, bad fault m → bad' fault m) : Meets pre call good' bad' :=
  fun m hm => (h m hm).mono hgood hbad

end Call

/-! ## Hosts -/

section Hosts

variable [HostBus β] {allowed : List Exchange → σ → Access → Prop}
  {goal : List Exchange → σ → α → Prop}

/-- A dialogue with a host. If the host keeps an invariant whenever an allowed access is answered,
then the dialogue arrives at a goal with the invariant, or at the fault of an allowed access. -/
theorem Dialogue.Always.run {inv : List Exchange → β → Prop} {bad : σ → Fault → β → Prop}
    (hread : ∀ past s a, allowed past s (.read a) →
      Call.Meets (inv past) (HostBus.read a) (fun b => inv (.read a b :: past)) (bad s))
    (hwrite : ∀ past s a data, allowed past s (.write a data) →
      Call.Meets (inv past) (HostBus.write a data) (fun _ => inv (.write a data :: past)) (bad s))
    {d : Dialogue σ α} {past : List Exchange} (h : d.Always allowed goal past) {bus : β}
    (hbus : inv past bus) :
    (d.run bus).Satisfies (fun a m => ∃ past, inv past m.1 ∧ goal past m.2 a)
      (fun fault m => bad m.2 fault m.1) := by
  -- The host takes one branch of the tree, and the invariant goes along with the past.
  induction d generalizing past bus with
  | done s result => exact ⟨past, hbus, h⟩
  | read s a answer ih =>
    obtain ⟨hallowed, hnext⟩ := h
    have hanswer := hread past s a hallowed bus hbus
    rw [Dialogue.run]
    generalize HostBus.read a bus = o at hanswer ⊢
    obtain ⟨_ | b, bus', told⟩ := o
    · exact hanswer
    · exact ih b (hnext b) hanswer
  | write s a data rest ih =>
    obtain ⟨hallowed, hnext⟩ := h
    have hanswer := hwrite past s a data hallowed bus hbus
    rw [Dialogue.run]
    generalize HostBus.write a data bus = o at hanswer ⊢
    obtain ⟨_ | _, bus', told⟩ := o
    · exact hanswer
    · exact ih hnext hanswer
  | tell notice rest ih => exact ih h hbus

/-- A result that a host has led a dialogue to is a goal of the dialogue, whatever the host is. -/
theorem Dialogue.Always.of_ok {d : Dialogue σ α} {past : List Exchange}
    (h : d.Always allowed goal past) {bus : β} {a : α} (ha : (d.run bus).result = .ok a) :
    ∃ past, goal past (d.run bus).machine.2 a := by
  -- Any host keeps an invariant that says nothing, and may refuse in any way.
  let kept (_ : List Exchange) (_ : β) : Prop := True
  let refused (_ : σ) (_ : Fault) (_ : β) : Prop := True
  have hread (past : List Exchange) (s : σ) (a : Int) (_ : allowed past s (.read a)) :
      Call.Meets (kept past) (HostBus.read a) (fun b => kept (.read a b :: past)) (refused s) :=
    Call.meets_of_forall (fun _ _ => trivial) (fun _ _ => trivial) _
  have hwrite (past : List Exchange) (s : σ) (a data : Int) (_ : allowed past s (.write a data)) :
      Call.Meets (kept past) (HostBus.write a data) (fun _ => kept (.write a data :: past))
        (refused s) :=
    Call.meets_of_forall (fun _ _ => trivial) (fun _ _ => trivial) _
  have hbus : kept past bus := trivial
  obtain ⟨past, -, hgoal⟩ := (h.run hread hwrite hbus).of_ok ha
  exact ⟨past, hgoal⟩

/-- A dialogue comes to its end on a host that answers all accesses that are allowed. -/
theorem Dialogue.Always.exists_ok
    (hread : ∀ past s a, allowed past s (.read a) →
      ∀ bus : β, ∃ b, (HostBus.read a bus).result = .ok b)
    (hwrite : ∀ past s a data, allowed past s (.write a data) →
      ∀ bus : β, (HostBus.write a data bus).result = .ok ())
    {d : Dialogue σ α} {past : List Exchange} (h : d.Always allowed goal past) (bus : β) :
    ∃ a, (d.run bus).result = .ok a := by
  have hread' (past : List Exchange) (s : σ) (a : Int) (hx : allowed past s (.read a)) :
      Call.Meets (fun _ : β => True) (HostBus.read a) (fun _ _ => True) fun _ _ => False := by
    intro bus _
    obtain ⟨b, hb⟩ := hread past s a hx bus
    rw [Outcome.Satisfies, hb]
    trivial
  have hwrite' (past : List Exchange) (s : σ) (a data : Int) (hx : allowed past s (.write a data)) :
      Call.Meets (fun _ : β => True) (HostBus.write a data) (fun _ _ => True) fun _ _ => False := by
    intro bus _
    rw [Outcome.Satisfies, hwrite past s a data hx bus]
    trivial
  obtain ⟨a, m, told, hrun, -⟩ := (h.run hread' hwrite' trivial).exists_ok
  exact ⟨a, congrArg Outcome.result hrun⟩

end Hosts

end Micro6502
