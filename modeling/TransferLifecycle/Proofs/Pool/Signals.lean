import TransferLifecycle.Proofs.Pool.Accounts

/-! The signals to stop. The first shutdown owes one to each worker. A signal that has been sent waits in
the queue or has been received, and each worker receives one. As no task is queued once the pool is
shutting down, tasks wait in front of all signals, and a worker that receives one leaves no task. -/
namespace TransferLifecycle

def Job.isStop {τ : Type} : Job τ → Bool
  | .stop => true
  | .run _ => false

namespace Pool

def stops (p : Pool Nat) : Nat := p.queue.countP Job.isStop

/-- No task stands behind a signal. -/
def Ordered (p : Pool Nat) : Prop :=
  p.queue.Pairwise fun earlier later => earlier.isStop = true → later.isStop = true

def Strand.dismissed : Strand → Bool
  | .working .signalled | .working .exit | .exited => true
  | _ => false

def Strand.owed (workers : Nat) : Strand → Nat
  | .stopping (.leave true) | .stopping .begin => workers
  | .stopping (.signal left) => left
  | _ => 0

/-- The workers that the strand has seen gone, from the first on. -/
def Strand.joined (workers : Nat) : Strand → Nat
  | .stopping (.join id) => id
  | .returned true => workers
  | _ => 0

variable {me : Nat} {p : Pool Nat} {strand : Strand} {act : Act} {e : Effect}

private theorem Strand.Acts.signals (acts : strand.Acts me p act e) :
    e.core.stops + e.strand.dismissed.toNat + e.strand.owed p.workers.length +
        p.shuttingDown.toNat * p.workers.length =
      p.stops + strand.dismissed.toNat + strand.owed p.workers.length +
        e.core.shuttingDown.toNat * p.workers.length := by
  cases acts with
  | send => simp [stops, Strand.dismissed, Strand.owed, Job.isStop]
  | mark opened => simp [stops, Strand.dismissed, Strand.owed, opened]
  | markAgain closing => simp [stops, Strand.dismissed, Strand.owed, closing]
  | signal =>
    simp only [stops, Strand.dismissed, Strand.owed, List.countP_append, List.countP_singleton,
      Job.isStop, if_true, Bool.toNat_false]
    omega
  | take front => simp [stops, Strand.dismissed, Strand.owed, Job.isStop, front]
  | receiveStop front =>
    simp [stops, Strand.dismissed, Strand.owed, List.countP_cons, Job.isStop, front]
  | _ => rfl

theorem Strand.Acts.ordered (acts : strand.Acts me p act e) (ordered : p.Ordered)
    (unsignalled : strand = .submitting .send → p.stops = 0) : e.core.Ordered := by
  cases acts with
  | send =>
    have none := List.countP_eq_zero.mp (unsignalled rfl)
    refine List.pairwise_append.mpr ⟨ordered, List.pairwise_singleton _ _, ?_⟩
    intro earlier member later _ stop
    exact (none earlier member stop).elim
  | signal =>
    refine List.pairwise_append.mpr ⟨ordered, List.pairwise_singleton _ _, ?_⟩
    intro earlier _ later member _
    rw [List.mem_singleton.mp member]
    rfl
  | take front | receiveStop front =>
    unfold Ordered at ordered
    rw [front] at ordered
    exact (List.pairwise_cons.mp ordered).2
  | _ => exact ordered

private theorem Strand.Acts.told_signalled (acts : strand.Acts me p act e) :
    e.deeds.count .signalled + strand.dismissed.toNat = e.strand.dismissed.toNat := by
  cases acts <;> rfl

private theorem Strand.Acts.told_flagged (acts : strand.Acts me p act e) :
    e.deeds.count .flagged + strand.leads.toNat = e.strand.leads.toNat := by
  cases acts <;> rfl

theorem Strand.Acts.exited (acts : strand.Acts me p act e) {place : Nat} {worker later : Worker}
    (before : p.workers[place]? = some worker) (after : e.core.workers[place]? = some later)
    (gone : worker.exited = true) : later.exited = true := by
  cases acts with
  | contain | count | exit =>
    simp only [updateWorker, List.getElem?_modify, before, Option.map_eq_map, Option.map_some,
      Option.some.injEq] at after
    subst after
    split <;> first | exact gone | rfl
  | _ =>
    obtain rfl := Option.some.inj (before.symm.trans after)
    exact gone

theorem Strand.Acts.sees (acts : strand.Acts me p act e)
    (seen : ∀ place < strand.joined p.workers.length, ∀ worker, p.workers[place]? = some worker →
      worker.exited = true) {place : Nat} {worker : Worker}
    (before : place < e.strand.joined p.workers.length) (there : p.workers[place]? = some worker) :
    worker.exited = true := by
  cases acts with
  | @join id last present gone =>
    obtain earlier | same := Nat.lt_succ_iff_lt_or_eq.mp before
    · exact seen place earlier worker there
    · subst same
      obtain rfl := Option.some.inj (present.symm.trans there)
      exact gone
  | @joined id absent =>
    have beyond := List.getElem?_eq_none_iff.mp absent
    exact seen place (Nat.lt_of_lt_of_le before beyond) worker there
  | _ => exact (Nat.not_lt_zero place before).elim

namespace System

variable {s : System}

theorem Reachable.workers_pos (reach : s.Reachable) : 0 < s.core.workers.length := by
  refine reach.invariant (fun s => 0 < s.core.workers.length) ?start ?begin ?act
  case start =>
    intro settings _
    simpa [new, Pool.new] using settings.workerCount_pos
  case begin =>
    intro s strand _ ih _
    exact ih
  case act =>
    intro s place strand act e _ ih _ acts
    rw [show (s.effect place e).core = e.core from rfl, acts.workers_length]
    exact ih

/-- Before the flag is up no signal is owed, and from then on there is one for each worker. -/
theorem Reachable.signals_eq (reach : s.Reachable) :
    (s.core.stops + (s.weigh fun strand => strand.dismissed.toNat) +
      s.weigh (·.owed s.core.workers.length)) =
      s.core.shuttingDown.toNat * s.core.workers.length := by
  refine reach.invariant (fun s => (s.core.stops + (s.weigh fun strand => strand.dismissed.toNat) +
      s.weigh (·.owed s.core.workers.length)) =
    s.core.shuttingDown.toNat * s.core.workers.length) ?start ?begin ?act
  case start =>
    intro settings _
    rw [weigh_workers _ _ rfl, weigh_workers _ _ rfl]
    exact (Nat.zero_mul _).symm
  case begin =>
    intro s strand _ ih fresh
    rw [weigh_begin, weigh_begin]
    obtain rfl | rfl := fresh <;> exact ih
  case act =>
    intro s place strand act e _ ih found acts
    have dismissed := weigh_effect (f := fun strand => strand.dismissed.toNat) found e
    have owed := weigh_effect (f := (·.owed s.core.workers.length)) found e
    have signals := acts.signals
    rw [show (s.effect place e).core = e.core from rfl, acts.workers_length]
    omega

theorem Reachable.unsignalled (reach : s.Reachable) (opened : s.core.shuttingDown = false) :
    s.core.stops = 0 ∧ (s.weigh fun strand => strand.dismissed.toNat) = 0 := by
  have signals := reach.signals_eq
  rw [opened, Bool.toNat_false, Nat.zero_mul] at signals
  omega

theorem Reachable.ordered (reach : s.Reachable) : s.core.Ordered := by
  refine reach.invariant (fun s => s.core.Ordered) ?start ?begin ?act
  case start =>
    intro settings _
    exact .nil
  case begin =>
    intro s strand _ ih _
    exact ih
  case act =>
    intro s place strand act e reach ih found acts
    refine acts.ordered ih ?_
    rintro rfl
    exact (reach.unsignalled (reach.open_of_send found)).1

theorem Reachable.waiting_nil (reach : s.Reachable)
    (dismissed : 0 < s.weigh fun strand => strand.dismissed.toNat) : s.core.waiting = [] := by
  refine reach.invariant (fun s => (0 < s.weigh fun strand => strand.dismissed.toNat) →
    s.core.waiting = []) ?start ?begin ?act dismissed
  case start =>
    intro settings _ _
    rfl
  case begin =>
    intro s strand _ ih fresh dismissed
    rw [weigh_begin] at dismissed
    obtain rfl | rfl := fresh <;> exact ih dismissed
  case act =>
    intro s place strand act e reach ih found acts dismissed
    have moved := weigh_effect (f := fun strand => strand.dismissed.toNat) found e
    have waits := acts.waiting
    cases acts with
    | send =>
      -- Nobody has received a signal while the pool is open.
      have none := (reach.unsignalled (reach.open_of_send found)).2
      have grown : ((s.effect place _).weigh fun strand => strand.dismissed.toNat) = 0 :=
        moved.trans none
      omega
    | @receiveStop rest front =>
      -- What stands behind a signal in the queue is no task.
      have ordered := reach.ordered
      unfold Ordered at ordered
      rw [front] at ordered
      have signals := (List.pairwise_cons.mp ordered).1
      refine List.filterMap_eq_nil_iff.mpr ?_
      intro job member
      cases job with
      | run task => cases signals _ member rfl
      | stop => rfl
    | take front =>
      have same : ((s.effect place _).weigh fun strand => strand.dismissed.toNat) =
        s.weigh fun strand => strand.dismissed.toNat := moved
      rw [ih (same ▸ dismissed)] at waits
      simp [Deed.accepted?, Deed.taken?, List.filterMap_cons] at waits
    | leaveLoop | exit =>
      exact ih (Nat.lt_of_lt_of_eq dismissed (Nat.add_right_cancel moved))
    | signal =>
      have same : ((s.effect place _).weigh fun strand => strand.dismissed.toNat) =
        s.weigh fun strand => strand.dismissed.toNat := moved
      rw [ih (same ▸ dismissed)] at waits
      exact waits.symm
    | _ =>
      have same : ((s.effect place _).weigh fun strand => strand.dismissed.toNat) =
        s.weigh fun strand => strand.dismissed.toNat := moved
      exact ih (same ▸ dismissed)

theorem Reachable.count_signalled (reach : s.Reachable) {place : Nat} {strand : Strand}
    (found : s.strands[place]? = some strand) :
    (s.deedsOf place).count .signalled = strand.dismissed.toNat := by
  refine reach.count_deed .signalled (fun strand => strand.dismissed.toNat)
    (fun acts => acts.told_signalled) rfl ?_ found
  rintro _ (rfl | rfl) <;> rfl

theorem Reachable.count_flagged (reach : s.Reachable) {place : Nat} {strand : Strand}
    (found : s.strands[place]? = some strand) :
    (s.deedsOf place).count .flagged = strand.leads.toNat := by
  refine reach.count_deed .flagged (fun strand => strand.leads.toNat)
    (fun acts => acts.told_flagged) rfl ?_ found
  rintro _ (rfl | rfl) <;> rfl

theorem Reachable.joined (reach : s.Reachable) {place : Nat} {strand : Strand}
    (found : s.strands[place]? = some strand) {id : Nat} {worker : Worker}
    (seen : id < strand.joined s.core.workers.length) (there : s.core.workers[id]? = some worker) :
    worker.exited = true := by
  refine reach.invariant (fun s => ∀ place strand, s.strands[place]? = some strand → ∀ id worker,
    id < strand.joined s.core.workers.length → s.core.workers[id]? = some worker →
    worker.exited = true) ?start ?begin ?act place strand found id worker seen there
  case start =>
    intro settings _ place strand found id worker seen
    rw [List.eq_of_mem_replicate (List.mem_of_getElem? found)] at seen
    cases seen
  case begin =>
    intro s new _ ih fresh place strand found id worker seen there
    obtain old | ⟨-, rfl⟩ := found_begin found
    · exact ih place strand old id worker seen there
    · obtain rfl | rfl := fresh <;> cases seen
  case act =>
    intro s acting strand act e _ ih found acts place other at_place id worker seen there
    rw [show (s.effect acting e).core = e.core from rfl] at seen there
    rw [acts.workers_length] at seen
    have inside : id < s.core.workers.length := by
      have bound := (List.getElem?_eq_some_iff.mp there).1
      rwa [acts.workers_length] at bound
    have before := List.getElem?_eq_getElem inside
    refine acts.exited before there ?_
    obtain ⟨rfl, rfl⟩ | ⟨-, old⟩ := found_effect found at_place
    · exact acts.sees (fun id seen worker present => ih acting strand found id worker seen present)
        seen before
    · exact ih place other old id _ seen before

end System

end Pool

end TransferLifecycle
