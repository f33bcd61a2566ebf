import Micro6502.Proofs.Turn

/-!
# Two machines side by side

A processor learns about its bus only through the answers to proper accesses. Two hosts that give
the same answers to them, and stay so, cannot be told apart: the processors on them stay in the
same state, whatever is called.

## Contents

- `Outcome.Pairs` and `Call.Relates`, two outcomes and two calls side by side
- `Dialogue.Alike`, dialogues that make the same accesses
- `Indistinguishable` hosts, and `Dialogue.Alike.run`
- `Cpu.Related` processors, and the calls that keep them related
-/

namespace Micro6502

/-! ## Outcomes and calls -/

/-- Two outcomes with the same notices, and either with results that are `good` together with the
machines, or with the same fault and machines that are `bad` together. -/
inductive Outcome.Pairs (good : α → μ → β → ν → Prop) (bad : μ → ν → Prop) :
    Outcome μ α → Outcome ν β → Prop where
  | ok {a m b n} (told : List Notice) : good a m b n →
      Pairs good bad ⟨.ok a, m, told⟩ ⟨.ok b, n, told⟩
  | error {m n} (fault : Fault) (told : List Notice) : bad m n →
      Pairs good bad ⟨.error fault, m, told⟩ ⟨.error fault, n, told⟩

namespace Outcome

variable {good good' : α → μ → β → ν → Prop} {bad bad' : μ → ν → Prop}
  {o : Outcome μ α} {o' : Outcome ν β}

theorem Pairs.refl {good : α → μ → α → μ → Prop} {bad : μ → μ → Prop}
    (hgood : ∀ a m, good a m a m) (hbad : ∀ m, bad m m) (o : Outcome μ α) :
    o.Pairs good bad o := by
  obtain ⟨_ | a, m, told⟩ := o
  · exact .error _ told (hbad m)
  · exact .ok told (hgood a m)

theorem Pairs.after (h : o.Pairs good bad o') (told : List Notice) :
    (o.after told).Pairs good bad (o'.after told) := by
  cases h with
  | ok _ h => exact .ok _ h
  | error fault _ h => exact .error fault _ h

theorem Pairs.mono (h : o.Pairs good bad o') (hgood : ∀ a m b n, good a m b n → good' a m b n)
    (hbad : ∀ m n, bad m n → bad' m n) : o.Pairs good' bad' o' := by
  cases h with
  | ok told h => exact .ok told (hgood _ _ _ _ h)
  | error fault told h => exact .error fault told (hbad _ _ h)

theorem Pairs.mapMachine {good : α → μ' → β → ν' → Prop} {bad : μ' → ν' → Prop} {f : μ → μ'}
    {g : ν → ν'}
    (h : o.Pairs (fun a m b n => good a (f m) b (g n)) (fun m n => bad (f m) (g n)) o') :
    (o.mapMachine f).Pairs good bad (o'.mapMachine g) := by
  cases h with
  | ok told h => exact .ok told h
  | error fault told h => exact .error fault told h

theorem Pairs.of_mapMachine {good : α → μ' → β → ν' → Prop} {bad : μ' → ν' → Prop} {f : μ → μ'}
    {g : ν → ν'} (h : (o.mapMachine f).Pairs good bad (o'.mapMachine g)) :
    o.Pairs (fun a m b n => good a (f m) b (g n)) (fun m n => bad (f m) (g n)) o' := by
  -- The outcomes have the same results and notices as the mapped ones.
  obtain ⟨_ | a, m, told⟩ := o <;> obtain ⟨_ | b, n, told'⟩ := o' <;> cases h
  · exact .error _ told ‹_›
  · exact .ok told ‹_›

theorem Pairs.of_ok {a : α} (h : o.Pairs good bad o') (ha : o.result = .ok a) :
    ∃ b, o'.result = .ok b ∧ good a o.machine b o'.machine ∧ o'.notices = o.notices := by
  cases h with
  | ok told h =>
    obtain rfl := Except.ok.inj ha
    exact ⟨_, rfl, h, rfl⟩
  | error fault told h => exact nomatch ha

theorem Pairs.bind {x : Call μ α} {y : Call ν β} {f : α → Call μ γ} {g : β → Call ν δ} {m : μ}
    {n : ν} {mid : α → μ → β → ν → Prop} {good : γ → μ → δ → ν → Prop}
    (h : (x m).Pairs mid bad (y n))
    (hnext : ∀ a m b n, mid a m b n → (f a m).Pairs good bad (g b n)) :
    ((x >>= f) m).Pairs good bad ((y >>= g) n) := by
  show (Call.bind x f m).Pairs good bad (Call.bind y g n)
  unfold Call.bind
  -- Both go on with their results, or both stop with the fault.
  generalize x m = o, y n = o' at h
  cases h with
  | ok told hab => exact (hnext _ _ _ _ hab).after told
  | error fault told hbad => exact .error fault told hbad

end Outcome

/-- From machines that are `pre` together the calls have outcomes that pair up. -/
def Call.Relates (pre : μ → ν → Prop) (x : Call μ α) (y : Call ν β) (good : α → μ → β → ν → Prop)
    (bad : μ → ν → Prop) : Prop :=
  ∀ m n, pre m n → (x m).Pairs good bad (y n)

namespace Call

variable {pre : μ → ν → Prop} {bad : μ → ν → Prop}

theorem relates_pure {good : α → μ → β → ν → Prop} {a : α} {b : β}
    (h : ∀ m n, pre m n → good a m b n) : Relates pre (pure a) (pure b) good bad :=
  fun m n hmn => .ok [] (h m n hmn)

theorem Relates.bind {x : Call μ α} {y : Call ν β} {f : α → Call μ γ} {g : β → Call ν δ}
    {mid : α → μ → β → ν → Prop} {good : γ → μ → δ → ν → Prop} (h : Relates pre x y mid bad)
    (hnext : ∀ a b, Relates (fun m n => mid a m b n) (f a) (g b) good bad) :
    Relates pre (x >>= f) (y >>= g) good bad :=
  fun m n hmn => (h m n hmn).bind fun a m b n hab => hnext a b m n hab

theorem Relates.forEach {x : α → Call μ Unit} {y : α → Call ν Unit}
    (h : ∀ a, Relates pre (x a) (y a) (fun _ m _ n => pre m n) bad) (as : List α) :
    Relates pre (Call.forEach as x) (Call.forEach as y) (fun _ m _ n => pre m n) bad := by
  induction as with
  | nil =>
    intro m n hmn
    exact .ok [] hmn
  | cons a rest ih => exact (h a).bind fun _ _ => ih

end Call

/-! ## Dialogues -/

namespace Dialogue

/-- Two dialogues that make the same accesses in the same states as long as they get the same
answers, and the same remarks. Their ends are related. -/
inductive Alike (ends : σ → α → σ → β → Prop) : Dialogue σ α → Dialogue σ β → Prop where
  | done {s a t b} : ends s a t b → Alike ends (.done s a) (.done t b)
  | read {s f g} (a : Int) : (∀ b, Alike ends (f b) (g b)) → Alike ends (.read s a f) (.read s a g)
  | write {s d e} (a data : Int) : Alike ends d e →
      Alike ends (.write s a data d) (.write s a data e)
  | tell {d e} (notice : Notice) : Alike ends d e → Alike ends (.tell notice d) (.tell notice e)

theorem Alike.refl {ends : σ → α → σ → α → Prop} (h : ∀ s a, ends s a s a) (d : Dialogue σ α) :
    Alike ends d d := by
  induction d with
  | done s a => exact .done (h s a)
  | read s a f ih => exact .read a ih
  | write s a data d ih => exact .write a data ih
  | tell notice d ih => exact .tell notice ih

theorem Alike.andThen {ends : σ → α → σ → β → Prop} {ends' : σ → γ → σ → δ → Prop}
    {d : Dialogue σ α} {e : Dialogue σ β} {f : σ → α → Dialogue σ γ} {g : σ → β → Dialogue σ δ}
    (h : Alike ends d e) (hnext : ∀ s a t b, ends s a t b → Alike ends' (f s a) (g t b)) :
    Alike ends' (d.andThen f) (e.andThen g) := by
  induction h with
  | done h => exact hnext _ _ _ _ h
  | read a _ ih => exact .read a ih
  | write a data _ ih => exact .write a data ih
  | tell notice _ ih => exact .tell notice ih

end Dialogue

/-! ## Hosts -/

/-- Two hosts, in states that are related by `S`, that answer every proper access in the same way
and stay related. -/
structure Indistinguishable [HostBus β] [HostBus γ] (S : β → γ → Prop) : Prop where
  read : ∀ a, (Access.read a).Proper →
    Call.Relates S (HostBus.read a) (HostBus.read a) (fun v b w c => v = w ∧ S b c) S
  write : ∀ a data, (Access.write a data).Proper →
    Call.Relates S (HostBus.write a data) (HostBus.write a data) (fun _ b _ c => S b c) S
  takeActivity : ∀ b c, S b c → S (HostBus.takeActivity b).2 (HostBus.takeActivity c).2

/-- Alike dialogues with indistinguishable hosts get the same answers up to the end. -/
theorem Dialogue.Alike.run [HostBus μ] [HostBus ν] {S : μ → ν → Prop} (hS : Indistinguishable S)
    {ends : σ → α → σ → β → Prop} {d : Dialogue σ α} {e : Dialogue σ β} (h : Alike ends d e)
    {goal : List Exchange → σ → α → Prop} {past : List Exchange}
    (hd : d.Always (fun _ _ x => x.Proper) goal past) {m : μ} {n : ν} (hmn : S m n) :
    (d.run m).Pairs (fun a m b n => S m.1 n.1 ∧ ends m.2 a n.2 b)
      (fun m n => S m.1 n.1 ∧ m.2 = n.2) (e.run n) := by
  induction h generalizing past m n with
  | done h => exact .ok [] ⟨hmn, h⟩
  | read a _ ih =>
    obtain ⟨hproper, hnext⟩ := hd
    have hanswer := hS.read a hproper m n hmn
    unfold Dialogue.run
    generalize HostBus.read a m = o, HostBus.read a n = o' at hanswer
    cases hanswer with
    | ok told h =>
      -- The answers are the same, so both go on in the same branch.
      obtain ⟨rfl, hmn⟩ := h
      exact (ih _ (hnext _) hmn).after told
    | error fault told h => exact .error fault told ⟨h, rfl⟩
  | write a data _ ih =>
    obtain ⟨hproper, hnext⟩ := hd
    have hanswer := hS.write a data hproper m n hmn
    unfold Dialogue.run
    generalize HostBus.write a data m = o, HostBus.write a data n = o' at hanswer
    cases hanswer with
    | ok told h => exact (ih hnext h).after told
    | error fault told h => exact .error fault told ⟨h, rfl⟩
  | tell notice _ ih => exact (ih hd hmn).after [notice]

/-- Any host cannot be told from itself. -/
theorem indistinguishable_self [HostBus β] : Indistinguishable fun b c : β => b = c where
  read a _ b c h := by
    subst h
    exact .refl (fun _ _ => ⟨rfl, rfl⟩) (fun _ => rfl) _
  write a data _ b c h := by
    subst h
    exact .refl (fun _ _ => rfl) (fun _ => rfl) _
  takeActivity b c h := by
    subst h
    rfl

/-! ## Processors -/

/-- The records of one step, up to the cycles before it. -/
structure Trace.Agrees (counting : Prop) {variant : Variant} (t u : Trace (mos variant)) :
    Prop where
  operation : t.operation = u.operation
  total : counting → t.total = u.total
  activity : t.activity = u.activity
  state : t.state = u.state

namespace Cpu

variable {variant : Variant} {β γ : Type} {S : β → γ → Prop} {counting : Prop}

/-- Two processors in the same state, on buses that are related. If it matters, then they have
also counted the same. -/
structure Related (S : β → γ → Prop) (counting : Prop) (p : Cpu variant β)
    (q : Cpu variant γ) : Prop where
  bus : S p.bus q.bus
  state : p.state = q.state
  clock : counting → p.clock = q.clock
  last : counting → p.last = q.last

/-- From related processors two calls lead to the same result or fault, the same notices, and
related processors. -/
def Follows (S : β → γ → Prop) (counting : Prop) (x : Call (Cpu variant β) α)
    (y : Call (Cpu variant γ) α) : Prop :=
  Call.Relates (Related S counting) x y (fun a p b q => a = b ∧ Related S counting p q)
    (Related S counting)

theorem Follows.pure (a : α) :
    Follows S counting (Pure.pure a : Call (Cpu variant β) α)
      (Pure.pure a : Call (Cpu variant γ) α) :=
  Call.relates_pure fun _ _ h => ⟨rfl, h⟩

theorem Follows.bind {x : Call (Cpu variant β) α} {y : Call (Cpu variant γ) α}
    {f : α → Call (Cpu variant β) δ} {g : α → Call (Cpu variant γ) δ}
    (h : Follows S counting x y) (hnext : ∀ a, Follows S counting (f a) (g a)) :
    Follows S counting (x >>= f) (y >>= g) := by
  refine Call.Relates.bind h ?_
  intro a b p q hab
  obtain ⟨rfl, hpq⟩ := hab
  exact hnext a p q hpq

theorem Follows.modify {f : Cpu variant β → Cpu variant β} {g : Cpu variant γ → Cpu variant γ}
    (h : ∀ p q, Related S counting p q → Related S counting (f p) (g q)) :
    Follows S counting (Processor.modify f) (Processor.modify g) :=
  fun p q hpq => .ok [] ⟨rfl, h p q hpq⟩

theorem Follows.modifyRegisters (f : Registers → Registers) :
    Follows S counting (Cpu.modifyRegisters f : Call (Cpu variant β) Unit)
      (Cpu.modifyRegisters f : Call (Cpu variant γ) Unit) :=
  .modify fun _ _ h => { h with state := congrArg f h.state }

theorem follows_request (source : Interrupt) :
    Follows S counting (request source : Call (Cpu variant β) Unit)
      (request source : Call (Cpu variant γ) Unit) := by
  unfold request
  exact .modifyRegisters _

theorem follows_withdraw :
    Follows S counting (withdraw : Call (Cpu variant β) Unit)
      (withdraw : Call (Cpu variant γ) Unit) := by
  unfold withdraw
  exact .modifyRegisters _

theorem follows_restore (r : Registers) :
    Follows S counting (Processor.restore r : Call (Cpu variant β) Unit)
      (Processor.restore r : Call (Cpu variant γ) Unit) :=
  .modify fun _ _ h => { h with state := rfl }

variable [HostBus β] [HostBus γ] (hS : Indistinguishable S)

include hS

theorem Follows.perform {action : Action Registers α}
    {goal : Registers → List Exchange → Registers → α → Prop}
    (hproper : ∀ r, (action r).Always (fun _ _ x => x.Proper) (goal r) []) :
    Follows S counting (Processor.perform action : Call (Cpu variant β) α)
      (Processor.perform action : Call (Cpu variant γ) α) := by
  rintro ⟨b, r, clock, last⟩ ⟨c, _, clock', last'⟩ ⟨hbc, rfl, hclock, hlast⟩
  -- It is one dialogue with two hosts: the states are the same, and a dialogue is like itself.
  have halike : Dialogue.Alike (fun s a t b => a = b ∧ s = t) (action r) (action r) :=
    .refl (fun _ _ => ⟨rfl, rfl⟩) _
  refine ((halike.run hS (hproper r) hbc).mono ?_ ?_).mapMachine
  · rintro a ⟨b, s⟩ _ ⟨c, _⟩ ⟨hbc, rfl, rfl⟩
    exact ⟨rfl, hbc, rfl, hclock, hlast⟩
  · rintro ⟨b, s⟩ ⟨c, _⟩ ⟨hbc, rfl⟩
    exact ⟨hbc, rfl, hclock, hlast⟩

/-- The record of the bus starts afresh, so what is on it before need not be related. -/
theorem relates_advance {S' : β → γ → Prop}
    (htake : ∀ b c, S' b c → S (HostBus.takeActivity b).2 (HostBus.takeActivity c).2) :
    Call.Relates (Related S' counting) (Processor.advance : Call (Cpu variant β) Operation)
      (Processor.advance : Call (Cpu variant γ) Operation)
      (fun a p b q => a = b ∧ Related S counting p q) (Related S counting) := by
  unfold Processor.advance
  have hrecord : Call.Relates (Related S' counting)
      (Processor.takeActivity : Call (Cpu variant β) (List Activity))
      (Processor.takeActivity : Call (Cpu variant γ) (List Activity))
      (fun _ p _ q => Related S counting p q) (Related S counting) :=
    fun p q hpq => .ok [] { hpq with bus := htake _ _ hpq.bus }
  refine hrecord.bind fun _ _ => Follows.bind (.perform hS fun r => always_turn variant r []) ?_
  intro completed
  obtain ⟨operation, isInstruction⟩ := completed
  refine .bind (.modify fun p q hpq => ?_) fun _ => .pure operation
  -- The operation is the same on both, so the same cycles are added.
  have hclock (h : counting) : p.clock.charge operation.cycles isInstruction =
      q.clock.charge operation.cycles isInstruction := by rw [hpq.clock h]
  exact ⟨hpq.bus, hpq.state, hclock, fun _ => rfl⟩

theorem follows_advance :
    Follows S counting (Processor.advance : Call (Cpu variant β) Operation)
      (Processor.advance : Call (Cpu variant γ) Operation) :=
  relates_advance hS hS.takeActivity

theorem follows_step :
    Follows S counting (Processor.step : Call (Cpu variant β) Int)
      (Processor.step : Call (Cpu variant γ) Int) :=
  .bind (follows_advance hS) fun _ => .pure _

theorem follows_runFor (budget : Int) (limit : Nat) (elapsed : Int) :
    Follows S counting (Processor.runFor budget limit elapsed : Call (Cpu variant β) Int)
      (Processor.runFor budget limit elapsed : Call (Cpu variant γ) Int) := by
  -- The time that has elapsed is a result of the steps before, and so it is the same on both.
  induction limit generalizing elapsed with
  | zero => exact .pure elapsed
  | succ limit ih =>
    unfold Processor.runFor
    split
    · exact .bind (follows_step hS) fun cycles => ih (elapsed + cycles)
    · exact .pure elapsed

theorem follows_run (budget : Int) :
    Follows S counting (run budget : Call (Cpu variant β) Int)
      (run budget : Call (Cpu variant γ) Int) :=
  follows_runFor hS budget budget.toNat 0

/-- A trace shows the accesses of its step, so the traces are related as the records are. -/
theorem relates_trace_records {S' : β → γ → Prop} {records : List Activity → List Activity → Prop}
    (htake : ∀ b c, S' b c → S (HostBus.takeActivity b).2 (HostBus.takeActivity c).2)
    (hrecord : ∀ b c, S b c → records (HostBus.takeActivity b).1 (HostBus.takeActivity c).1) :
    Call.Relates (Related S' counting)
      (Processor.trace : Call (Cpu variant β) (Trace (mos variant)))
      (Processor.trace : Call (Cpu variant γ) (Trace (mos variant)))
      (fun t p u q => (t.operation = u.operation ∧ (counting → t.total = u.total) ∧
        records t.activity u.activity ∧ t.state = u.state) ∧ Related S counting p q)
      (Related S counting) := by
  refine (relates_advance hS htake).bind ?_
  intro operation _ p q h
  obtain ⟨rfl, hpq⟩ := h
  have htotal (h : counting) : p.clock.total = q.clock.total := by rw [hpq.clock h]
  refine .ok [] ⟨⟨rfl, htotal, hrecord _ _ hpq.bus, hpq.state⟩, ?_⟩
  exact { hpq with bus := hS.takeActivity _ _ hpq.bus }

/-- Where the accesses are on record in the same way, the traces agree. -/
theorem relates_trace {S' : β → γ → Prop}
    (htake : ∀ b c, S' b c → S (HostBus.takeActivity b).2 (HostBus.takeActivity c).2)
    (hrecord : ∀ b c, S b c → (HostBus.takeActivity b).1 = (HostBus.takeActivity c).1) :
    Call.Relates (Related S' counting)
      (Processor.trace : Call (Cpu variant β) (Trace (mos variant)))
      (Processor.trace : Call (Cpu variant γ) (Trace (mos variant)))
      (fun t p u q => t.Agrees counting u ∧ Related S counting p q) (Related S counting) := by
  intro p q hpq
  refine (relates_trace_records hS htake hrecord p q hpq).mono ?_ fun _ _ h => h
  intro t _ u _ h
  obtain ⟨⟨hoperation, htotal, hactivity, hstate⟩, h'⟩ := h
  exact ⟨⟨hoperation, htotal, hactivity, hstate⟩, h'⟩

theorem follows_reset :
    Follows S counting (reset : Call (Cpu variant β) Unit)
      (reset : Call (Cpu variant γ) Unit) := by
  -- Both start from the same state, whatever the states were before.
  refine .bind (.modify fun p q hpq => { hpq with state := rfl }) fun _ =>
    .bind (.perform hS fun r => always_reset r []) fun _ => .modify fun p q hpq => ?_
  have hclock (h : counting) : p.clock.charge Interrupts.resetCycles false =
      q.clock.charge Interrupts.resetCycles false := by rw [hpq.clock h]
  exact { hpq with clock := hclock }

end Cpu

end Micro6502
