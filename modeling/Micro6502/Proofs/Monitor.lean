import Micro6502.Proofs.Invariant
import Micro6502.Proofs.Simulation

/-!
# Watching the bus

A monitor stands between a processor and its host. It hands every access on, and writes down what
was asked and what was answered. The processor does not notice.

## Contents

- `Monitored`, a host behind a monitor
- `Upholds.monitored` and `Guards.monitored`: what a host keeps, it keeps behind a monitor
- `Dialogue.run_monitored` and `Dialogue.Always.run_monitored`, dialogues behind a monitor
- `Processor.watched`, a processor with a monitor on its bus
- `Cpu.watched_eq`: a call has the same outcome as unwatched, with `Cpu.exists_watched_step` for a
  step
-/

namespace Micro6502

/-! ## Monitors -/

/-- A host behind a monitor. -/
structure Monitored (β : Type) where
  host : β
  /-- What was asked, also if it was refused; the latest in front. -/
  requests : List Access
  /-- What was asked and answered, the latest in front. -/
  exchanges : List Exchange

namespace Monitored

variable {β : Type}

/-- The monitor after an access with its answer, which has left the host as it is now. -/
def answered (m : Monitored β) (x : Exchange) (host : β) : Monitored β :=
  ⟨host, x.access :: m.requests, x :: m.exchanges⟩

/-- The monitor after an access that was refused. -/
def refused (m : Monitored β) (x : Access) (host : β) : Monitored β :=
  { m with host := host, requests := x :: m.requests }

variable [HostBus β]

/-- Hands a read on. -/
def read (a : Int) : Call (Monitored β) Byte := fun m =>
  match HostBus.read a m.host with
  | ⟨.ok b, host, told⟩ => ⟨.ok b, m.answered (.read a b) host, told⟩
  | ⟨.error fault, host, told⟩ => ⟨.error fault, m.refused (.read a) host, told⟩

/-- Hands a write on. -/
def write (a data : Int) : Call (Monitored β) Unit := fun m =>
  match HostBus.write a data m.host with
  | ⟨.ok (), host, told⟩ => ⟨.ok (), m.answered (.write a data) host, told⟩
  | ⟨.error fault, host, told⟩ => ⟨.error fault, m.refused (.write a data) host, told⟩

instance : HostBus (Monitored β) where
  read := read
  write := write
  takeActivity m :=
    ((HostBus.takeActivity m.host).1, { m with host := (HostBus.takeActivity m.host).2 })

/-- A processor cannot tell a host behind a monitor from the host. -/
theorem indistinguishable_host :
    Indistinguishable fun (m : Monitored β) (b : β) => m.host = b where
  read a _ m b h := by
    subst h
    show (Monitored.read a m).Pairs _ _ _
    unfold Monitored.read
    generalize HostBus.read a m.host = o
    obtain ⟨_ | b, host, told⟩ := o
    · exact .error _ told rfl
    · exact .ok told ⟨rfl, rfl⟩
  write a data _ m b h := by
    subst h
    show (Monitored.write a data m).Pairs _ _ _
    unfold Monitored.write
    generalize HostBus.write a data m.host = o
    obtain ⟨_ | _, host, told⟩ := o
    · exact .error _ told rfl
    · exact .ok told rfl
  takeActivity m b h := by
    subst h
    rfl

end Monitored

section Invariants

variable {β : Type} [HostBus β]

/-- What a host keeps, it keeps behind a monitor, and the monitor knows the exchanges. A refused
access is the latest request. -/
theorem Upholds.monitored {inv : List Exchange → β → Prop} {bad : Access → Fault → β → Prop}
    (h : Upholds inv bad) :
    Upholds
      (fun past (m : Monitored β) =>
        inv past m.host ∧ m.exchanges = past ∧ ∀ x ∈ m.requests, x.Proper)
      (fun x fault m =>
        bad x fault m.host ∧ m.requests.head? = some x ∧ ∀ x ∈ m.requests, x.Proper) where
  read past a hx m hm := by
    obtain ⟨hm, rfl, hproper⟩ := hm
    have hanswer := h.read _ a hx m.host hm
    show (Monitored.read a m).Satisfies _ _
    unfold Monitored.read
    generalize HostBus.read a m.host = o at hanswer ⊢
    -- The request is written down in both cases, the exchange only if there was an answer.
    obtain ⟨_ | b, host, told⟩ := o
    · exact ⟨hanswer, rfl, List.forall_mem_cons.mpr ⟨hx, hproper⟩⟩
    · exact ⟨hanswer, rfl, List.forall_mem_cons.mpr ⟨hx, hproper⟩⟩
  write past a data hx m hm := by
    obtain ⟨hm, rfl, hproper⟩ := hm
    have hanswer := h.write _ a data hx m.host hm
    show (Monitored.write a data m).Satisfies _ _
    unfold Monitored.write
    generalize HostBus.write a data m.host = o at hanswer ⊢
    obtain ⟨_ | _, host, told⟩ := o
    · exact ⟨hanswer, rfl, List.forall_mem_cons.mpr ⟨hx, hproper⟩⟩
    · exact ⟨hanswer, rfl, List.forall_mem_cons.mpr ⟨hx, hproper⟩⟩

theorem Guards.monitored {inv : β → Prop} {bad : Access → Fault → β → Prop}
    (h : Guards inv bad) :
    Guards
      (fun m : Monitored β => inv m.host ∧ ∀ x ∈ m.requests, x.Proper)
      (fun x fault m =>
        bad x fault m.host ∧ m.requests.head? = some x ∧ ∀ x ∈ m.requests, x.Proper) where
  accesses :=
    { read := fun _ a hx m hm =>
        (h.accesses.monitored.read m.exchanges a hx m ⟨hm.1, rfl, hm.2⟩).mono
          (fun _ _ hm => ⟨hm.1, hm.2.2⟩) fun _ _ hm => hm
      write := fun _ a data hx m hm =>
        (h.accesses.monitored.write m.exchanges a data hx m ⟨hm.1, rfl, hm.2⟩).mono
          (fun _ _ hm => ⟨hm.1, hm.2.2⟩) fun _ _ hm => hm }
  takeActivity _ hm := ⟨h.takeActivity _ hm.1, hm.2⟩

/-- A dialogue behind a monitor is the dialogue with the host. -/
theorem Dialogue.run_monitored (d : Dialogue σ α) (m : Monitored β) :
    (d.run m).mapMachine (fun end' => (end'.1.host, end'.2)) = d.run m.host := by
  -- The monitor writes down each access and changes no answer.
  induction d generalizing m with
  | done s result => rfl
  | read s a answer ih =>
    have hread : HostBus.read a m = Monitored.read a m := rfl
    rw [Dialogue.run, Dialogue.run, hread, Monitored.read]
    generalize HostBus.read a m.host = o
    obtain ⟨_ | b, host, told⟩ := o
    · rfl
    · exact congrArg (Outcome.after told) (ih b (m.answered (.read a b) host))
  | write s a data rest ih =>
    have hwrite : HostBus.write a data m = Monitored.write a data m := rfl
    rw [Dialogue.run, Dialogue.run, hwrite, Monitored.write]
    generalize HostBus.write a data m.host = o
    obtain ⟨_ | _, host, told⟩ := o
    · rfl
    · exact congrArg (Outcome.after told) (ih (m.answered (.write a data) host))
  | tell notice rest ih => exact congrArg (Outcome.after [notice]) (ih m)

/-- A dialogue behind a fresh monitor arrives at a goal for the exchanges that the monitor has
written down. Or the last request was refused, and all requests before it were answered. -/
theorem Dialogue.Always.run_monitored {allowed : List Exchange → σ → Access → Prop}
    {goal : List Exchange → σ → α → Prop} {inv : List Exchange → β → Prop}
    {bad : List Exchange → Access → Fault → β → Prop}
    (hread : ∀ past s a, allowed past s (.read a) → Call.Meets (inv past) (HostBus.read a)
      (fun b => inv (.read a b :: past)) (bad past (.read a)))
    (hwrite : ∀ past s a data, allowed past s (.write a data) → Call.Meets (inv past)
      (HostBus.write a data) (fun _ => inv (.write a data :: past)) (bad past (.write a data)))
    {d : Dialogue σ α} (h : d.Always allowed goal []) {host : β} (hhost : inv [] host) :
    (d.run (⟨host, [], []⟩ : Monitored β)).Satisfies
      (fun a m => inv m.1.exchanges m.1.host ∧
        m.1.requests = m.1.exchanges.map Exchange.access ∧ goal m.1.exchanges m.2 a)
      (fun fault m => ∃ x, allowed m.1.exchanges m.2 x ∧
        m.1.requests = x :: m.1.exchanges.map Exchange.access ∧
        bad m.1.exchanges x fault m.1.host) := by
  -- As long as nothing is refused, the monitor has the past in both of its lists.
  let knows (past : List Exchange) (m : Monitored β) : Prop :=
    inv past m.host ∧ m.exchanges = past ∧ m.requests = past.map Exchange.access
  let refused (s : σ) (fault : Fault) (m : Monitored β) : Prop :=
    ∃ x, allowed m.exchanges s x ∧ m.requests = x :: m.exchanges.map Exchange.access ∧
      bad m.exchanges x fault m.host
  have hread' (past : List Exchange) (s : σ) (a : Int) (hx : allowed past s (.read a)) :
      Call.Meets (knows past) (HostBus.read a) (fun b => knows (.read a b :: past))
        (refused s) := by
    rintro m ⟨hm, rfl, hrequests⟩
    have hanswer := hread _ s a hx m.host hm
    show (Monitored.read a m).Satisfies _ _
    unfold Monitored.read
    generalize HostBus.read a m.host = o at hanswer ⊢
    obtain ⟨_ | b, host, told⟩ := o
    · exact ⟨.read a, hx, congrArg (_ :: ·) hrequests, hanswer⟩
    · exact ⟨hanswer, rfl, congrArg (_ :: ·) hrequests⟩
  have hwrite' (past : List Exchange) (s : σ) (a data : Int) (hx : allowed past s (.write a data)) :
      Call.Meets (knows past) (HostBus.write a data) (fun _ => knows (.write a data :: past))
        (refused s) := by
    rintro m ⟨hm, rfl, hrequests⟩
    have hanswer := hwrite _ s a data hx m.host hm
    show (Monitored.write a data m).Satisfies _ _
    unfold Monitored.write
    generalize HostBus.write a data m.host = o at hanswer ⊢
    obtain ⟨_ | _, host, told⟩ := o
    · exact ⟨.write a data, hx, congrArg (_ :: ·) hrequests, hanswer⟩
    · exact ⟨hanswer, rfl, congrArg (_ :: ·) hrequests⟩
  have hstart : knows [] ⟨host, [], []⟩ := ⟨hhost, rfl, rfl⟩
  refine (h.run hread' hwrite' hstart).mono ?_ fun _ _ hrefused => hrefused
  rintro a ⟨m, s⟩ ⟨past, ⟨hm, rfl, hrequests⟩, hgoal⟩
  exact ⟨hm, hrequests, hgoal⟩

/-- The same, of a host of which nothing is known. -/
theorem Dialogue.Always.run_seen {allowed : List Exchange → σ → Access → Prop}
    {goal : List Exchange → σ → α → Prop} {d : Dialogue σ α} (h : d.Always allowed goal [])
    (host : β) :
    (d.run (⟨host, [], []⟩ : Monitored β)).Satisfies (fun a m => goal m.1.exchanges m.2 a)
      (fun _ m => ∃ x, allowed m.1.exchanges m.2 x) := by
  -- Any host keeps an invariant that says nothing, and may refuse in any way.
  let kept (_ : List Exchange) (_ : β) : Prop := True
  let refused (_ : List Exchange) (_ : Access) (_ : Fault) (_ : β) : Prop := True
  have hread (past : List Exchange) (s : σ) (a : Int) (_ : allowed past s (.read a)) :
      Call.Meets (kept past) (HostBus.read a) (fun b => kept (.read a b :: past))
        (refused past (.read a)) :=
    Call.meets_of_forall (fun _ _ => trivial) (fun _ _ => trivial) _
  have hwrite (past : List Exchange) (s : σ) (a data : Int) (_ : allowed past s (.write a data)) :
      Call.Meets (kept past) (HostBus.write a data) (fun _ => kept (.write a data :: past))
        (refused past (.write a data)) :=
    Call.meets_of_forall (fun _ _ => trivial) (fun _ _ => trivial) _
  have hhost : kept [] host := trivial
  refine (h.run_monitored hread hwrite hhost).mono ?_ ?_
  · rintro a m ⟨-, -, hgoal⟩
    exact hgoal
  · rintro fault m ⟨x, hx, -, -⟩
    exact ⟨x, hx⟩

end Invariants

/-! ## Watched processors -/

namespace Processor

variable {A : Architecture} {β : Type}

/-- The processor with a fresh monitor on its bus. -/
def watched (p : Processor A β) : Processor A (Monitored β) :=
  { p with bus := ⟨p.bus, [], []⟩ }

/-- The processor with its monitor removed. -/
def unwatched (p : Processor A (Monitored β)) : Processor A β := { p with bus := p.bus.host }

end Processor

namespace Cpu

variable {variant : Variant} {β : Type}

/-- A call that cannot tell a host from the host behind a monitor has the same outcome on both. -/
theorem watched_eq {x : Call (Cpu variant (Monitored β)) α} {y : Call (Cpu variant β) α}
    (h : Follows (fun m b => m.host = b) True x y) (p : Cpu variant β) :
    (x p.watched).mapMachine Processor.unwatched = y p := by
  have hpq : Related (fun (m : Monitored β) b => m.host = b) True p.watched p :=
    ⟨rfl, rfl, fun _ => rfl, fun _ => rfl⟩
  -- What is related to a watched processor is that processor without its monitor.
  have heq : ∀ (q : Cpu variant (Monitored β)) (r : Cpu variant β),
      Related (fun m b => m.host = b) True q r → q.unwatched = r := by
    rintro q ⟨b, r, clock, last⟩ ⟨rfl, rfl, hclock, hlast⟩
    obtain rfl := hclock trivial
    obtain rfl := hlast trivial
    rfl
  -- The outcomes pair up, so they have one result and related processors.
  have hxy := h _ _ hpq
  generalize x p.watched = o, y p = o' at hxy
  cases hxy with
  | ok told hab =>
    obtain ⟨rfl, hqr⟩ := hab
    rw [Outcome.mapMachine, heq _ _ hqr]
  | error fault told hqr => rw [Outcome.mapMachine, heq _ _ hqr]

variable [HostBus β]

theorem watched_step (p : Cpu variant β) :
    (Processor.step p.watched).mapMachine Processor.unwatched = Processor.step p :=
  watched_eq (follows_step Monitored.indistinguishable_host) p

/-- A step ends like the watched one, up to the monitor. -/
theorem exists_watched_step {p q : Cpu variant β} {result : Except Fault Int}
    {told : List Notice} (h : Processor.step p = ⟨result, q, told⟩) :
    ∃ w : Cpu variant (Monitored β),
      Processor.step p.watched = ⟨result, w, told⟩ ∧ w.unwatched = q := by
  have hsame := watched_step p
  rw [h] at hsame
  obtain ⟨hresult, hmachine, htold⟩ := Outcome.mk.inj hsame
  exact ⟨_, by rw [← hresult, ← htold], hmachine⟩

end Cpu

end Micro6502
