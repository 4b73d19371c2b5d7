import TransferLifecycle.Proofs.Pool.Locking

/-! What becomes of the tasks, and what the counters say of them. A task that was accepted waits in the
queue until a worker takes it, in the order of acceptance; the worker finishes it, in a panic or not,
before it takes another. -/
namespace TransferLifecycle.Pool

variable {β : Type}

/-! Each worker stands at its place, and its record says whether it is gone. -/

def Strand.works : Strand → Bool
  | .working _ | .running _ | .exited => true
  | _ => false

def Strand.gone : Strand → Bool
  | .exited => true
  | _ => false

variable {me : Nat} {p : Pool Nat} {strand : Strand} {act : Act} {e : Effect}

theorem Strand.Acts.works (acts : strand.Acts me p act e) : e.strand.works = strand.works := by
  cases acts <;> rfl

theorem Strand.Acts.workers_length (acts : strand.Acts me p act e) :
    e.core.workers.length = p.workers.length := by
  cases acts with
  | contain | count | exit => exact List.length_modify ..
  | _ => rfl

private theorem Strand.Acts.workers_ne (acts : strand.Acts me p act e) {place : Nat} (other : me ≠ place) :
    e.core.workers[place]? = p.workers[place]? := by
  cases acts with
  | contain | count | exit => simp [updateWorker, other]
  | _ => rfl

theorem Strand.Acts.worker (acts : strand.Acts me p act e) {worker : Worker}
    (before : ∀ worker, p.workers[me]? = some worker → worker.exited = strand.gone)
    (present : e.core.workers[me]? = some worker) : worker.exited = e.strand.gone := by
  cases acts with
  | contain | count =>
    simp only [updateWorker, List.getElem?_modify, Option.map_eq_map, Option.map_eq_some_iff,
      if_true] at present
    obtain ⟨old, there, rfl⟩ := present
    exact before old there
  | exit =>
    simp only [updateWorker, List.getElem?_modify, Option.map_eq_map, Option.map_eq_some_iff,
      if_true] at present
    obtain ⟨old, there, rfl⟩ := present
    rfl
  | _ => exact before worker present

namespace System

structure Staffed (s : System) : Prop where
  inside : ∀ (place : Nat) (strand : Strand), s.strands[place]? = some strand →
    (strand.works = true ↔ place < s.core.workers.length)
  worker : ∀ (place : Nat) (worker : Worker), s.core.workers[place]? = some worker →
    ∃ strand : Strand, s.strands[place]? = some strand ∧ worker.exited = strand.gone

theorem Staffed.length_le {s : System} (staffed : s.Staffed) :
    s.core.workers.length ≤ s.strands.length := by
  refine Nat.le_of_not_lt fun more => ?_
  obtain ⟨strand, found, -⟩ := staffed.worker _ _ (List.getElem?_eq_getElem more)
  have inside := (List.getElem?_eq_some_iff.mp found).1
  omega

theorem Reachable.staffed {s : System} (reach : s.Reachable) : s.Staffed := by
  refine reach.invariant Staffed ?start ?begin ?act
  case start =>
    intro settings _
    constructor
    · intro place strand found
      obtain ⟨inside, -⟩ := List.getElem?_eq_some_iff.mp found
      rw [List.eq_of_mem_replicate (List.mem_of_getElem? found)]
      simpa [new, Pool.new, Strand.works] using inside
    · intro place worker present
      obtain ⟨inside, -⟩ := List.getElem?_eq_some_iff.mp present
      rw [List.eq_of_mem_replicate (List.mem_of_getElem? present)]
      refine ⟨.working .start, ?_, rfl⟩
      have bound : place < settings.workerCount := by simpa [new, Pool.new] using inside
      rw [new, List.getElem?_replicate, if_pos bound]
  case begin =>
    intro s new _ ih fresh
    constructor
    · intro place strand found
      obtain old | ⟨last, rfl⟩ := found_begin found
      · exact ih.inside place strand old
      · have outside : ¬ place < s.core.workers.length := by
          have bound := ih.length_le
          omega
        have idle : strand.works = false := by obtain rfl | rfl := fresh <;> rfl
        rw [idle]
        exact ⟨nofun, fun inside => (outside inside).elim⟩
    · intro place worker present
      obtain ⟨strand, found, same⟩ := ih.worker place worker present
      have inside := (List.getElem?_eq_some_iff.mp found).1
      exact ⟨strand, (List.getElem?_append_left inside).trans found, same⟩
  case act =>
    intro s acting strand act e _ ih found acts
    constructor
    · intro place other there
      rw [show (s.effect acting e).core = e.core from rfl, acts.workers_length]
      obtain ⟨rfl, rfl⟩ | ⟨-, old⟩ := found_effect found there
      · rw [acts.works]
        exact ih.inside acting strand found
      · exact ih.inside place other old
    · intro place worker present
      by_cases same : acting = place
      · subst same
        refine ⟨e.strand, found_effect_self e found, acts.worker ?_ present⟩
        intro before there
        obtain ⟨old, at_place, exited⟩ := ih.worker acting before there
        rw [found] at at_place
        obtain rfl := Option.some.inj at_place
        exact exited
      · rw [show (s.effect acting e).core = e.core from rfl, acts.workers_ne same] at present
        rw [found_effect_ne e same]
        exact ih.worker place worker present

end System

/-! Tasks on their way. -/

namespace Deed

def accepted? (place : Nat) : Deed → Option Nat
  | .accepted => some place
  | _ => none

def taken? (_ : Nat) : Deed → Option Nat
  | .taken task => some task
  | _ => none

def finished? (_ : Nat) : Deed → Option (Nat × Bool)
  | .finished task panicked => some (task, panicked)
  | _ => none

end Deed

def waiting (p : Pool Nat) : List Nat :=
  p.queue.filterMap fun job =>
    match job with
    | .run task => some task
    | .stop => none

def Strand.runs (task : Nat) : Strand → Bool
  | .running other => decide (other = task)
  | _ => false

def Strand.owesTask : Strand → Bool
  | .working .contain | .working .count => true
  | _ => false

def Strand.owesPanic : Strand → Bool
  | .working .contain => true
  | _ => false

theorem Strand.Acts.waiting (acts : strand.Acts me p act e) :
    p.waiting ++ e.deeds.filterMap (Deed.accepted? me) =
      e.deeds.filterMap (Deed.taken? me) ++ e.core.waiting := by
  cases acts with
  | send => simp [Pool.waiting, Deed.accepted?, Deed.taken?, List.filterMap_cons]
  | take front | receiveStop front =>
    simp [Pool.waiting, Deed.accepted?, Deed.taken?, List.filterMap_cons, front]
  | _ =>
    simp [Pool.waiting, Deed.accepted?, Deed.taken?, List.filterMap_cons, updateWorker]

theorem Strand.Acts.runs (acts : strand.Acts me p act e) (task : Nat) :
    (e.deeds.filterMap (Deed.taken? me)).count task + (strand.runs task).toNat =
      ((e.deeds.filterMap (Deed.finished? me)).map (·.1)).count task +
        (e.strand.runs task).toNat := by
  cases acts with
  | @take other | @finish other | @panic other =>
    by_cases same : other = task <;>
      simp [Strand.runs, Deed.taken?, Deed.finished?, List.filterMap_cons, same]
  | _ => rfl

private theorem foldl_add (f : β → UInt64) (list : List β) (n more : UInt64) :
    list.foldl (fun n x => n + f x) (n + more) = list.foldl (fun n x => n + f x) n + more := by
  induction list generalizing n with
  | nil => rfl
  | cons head rest ih =>
    rw [List.foldl_cons, List.foldl_cons, UInt64.add_assoc, UInt64.add_comm more, ← UInt64.add_assoc, ih]

private theorem foldl_modify {f : β → UInt64} {change : β → β} {more : UInt64}
    (grows : ∀ x, f (change x) = f x + more) (list : List β) {place : Nat} (inside : place < list.length)
    (n : UInt64) :
    (list.modify place change).foldl (fun n x => n + f x) n = list.foldl (fun n x => n + f x) n + more := by
  induction list generalizing place n with
  | nil => cases inside
  | cons head rest ih =>
    cases place with
    | zero => rw [List.modify_zero_cons, List.foldl_cons, List.foldl_cons, grows, ← UInt64.add_assoc, foldl_add]
    | succ place =>
      rw [List.modify_succ_cons, List.foldl_cons, List.foldl_cons]
      exact ih (Nat.lt_of_succ_lt_succ inside) (n + f head)

private theorem total_new (settings : PoolSettings) {count : Worker → UInt64} (none : count {} = 0) :
    (Pool.new settings : Pool Nat).total count = 0 := by
  rw [total, Pool.new]
  induction settings.workerCount with
  | zero => rfl
  | succ n ih => rw [List.replicate_succ, List.foldl_cons, none, UInt64.add_zero, ih]

private theorem total_updateWorker {id : Nat} (inside : id < p.workers.length) {change : Worker → Worker}
    {count : Worker → UInt64} (more : UInt64) (grows : ∀ worker, count (change worker) = count worker + more) :
    (p.updateWorker id change).total count = p.total count + more :=
  foldl_modify grows p.workers inside 0

theorem Strand.Acts.tasks (acts : strand.Acts me p act e)
    (inside : strand.works = true → me < p.workers.length) :
    ∃ gained : Nat, e.core.tasks = p.tasks + UInt64.ofNat gained ∧
      gained + e.strand.owesTask.toNat =
        strand.owesTask.toNat + (e.deeds.filterMap (Deed.finished? me)).length := by
  have unchanged (worker : Worker) : worker.executed = worker.executed + 0 := (UInt64.add_zero _).symm
  cases acts with
  | contain => exact ⟨0, total_updateWorker (inside rfl) 0 unchanged, rfl⟩
  | count => exact ⟨1, total_updateWorker (inside rfl) 1 fun _ => rfl, rfl⟩
  | exit => exact ⟨0, total_updateWorker (inside rfl) 0 unchanged, rfl⟩
  | _ => exact ⟨0, (UInt64.add_zero _).symm, rfl⟩

theorem Strand.Acts.panics (acts : strand.Acts me p act e)
    (inside : strand.works = true → me < p.workers.length) :
    ∃ gained : Nat, e.core.panics = p.panics + UInt64.ofNat gained ∧
      gained + e.strand.owesPanic.toNat =
        strand.owesPanic.toNat + (e.deeds.filterMap (Deed.finished? me)).countP (·.2) := by
  have unchanged (worker : Worker) : worker.panicked = worker.panicked + 0 := (UInt64.add_zero _).symm
  cases acts with
  | contain => exact ⟨1, total_updateWorker (inside rfl) 1 fun _ => rfl, rfl⟩
  | count => exact ⟨0, total_updateWorker (inside rfl) 0 unchanged, rfl⟩
  | exit => exact ⟨0, total_updateWorker (inside rfl) 0 unchanged, rfl⟩
  | _ => exact ⟨0, (UInt64.add_zero _).symm, rfl⟩

namespace System

variable {s : System}

def told (s : System) (view : Nat → Deed → Option β) : List β :=
  s.history.filterMap fun (place, deed) => view place deed

def accepted (s : System) : List Nat := s.told Deed.accepted?

def taken (s : System) : List Nat := s.told Deed.taken?

/-- Tasks in the order in which they came to their end, each with whether it panicked. -/
def finished (s : System) : List (Nat × Bool) := s.told Deed.finished?

theorem told_effect (s : System) (place : Nat) (e : Effect) (view : Nat → Deed → Option β) :
    (s.effect place e).told view = s.told view ++ e.deeds.filterMap (view place) := by
  rw [told, effect, List.filterMap_append, List.filterMap_map]
  rfl

theorem mem_accepted {task : Nat} : task ∈ s.accepted ↔ (task, .accepted) ∈ s.history := by
  unfold accepted told
  rw [List.mem_filterMap]
  constructor
  · rintro ⟨⟨place, deed⟩, member, same⟩
    cases deed <;> cases same
    exact member
  · intro member
    exact ⟨_, member, rfl⟩

theorem Reachable.accepted_eq (reach : s.Reachable) : s.accepted = s.taken ++ s.core.waiting := by
  refine reach.invariant (fun s => s.accepted = s.taken ++ s.core.waiting) ?start ?begin ?act
  case start =>
    intro settings _
    rfl
  case begin =>
    intro s strand _ ih _
    exact ih
  case act =>
    intro s place strand act e _ ih _ acts
    unfold accepted taken at ih ⊢
    rw [told_effect, told_effect, ih, List.append_assoc, acts.waiting, List.append_assoc]
    rfl

/-- A submission tells of acceptance when it queues its task, and before that it has told nothing
of the kind. -/
theorem Reachable.accepted_nodup (reach : s.Reachable) : s.accepted.Nodup := by
  refine reach.invariant (fun s => s.accepted.Nodup) ?start ?begin ?act
  case start =>
    intro settings _
    exact .nil
  case begin =>
    intro s strand _ ih _
    exact ih
  case act =>
    intro s place strand act e reach ih found acts
    rw [accepted, told_effect, ← accepted]
    cases acts with
    | send =>
      have story := reach.story found rfl
      have fresh : place ∉ s.accepted := by
        intro before
        have told := mem_deedsOf.mpr (mem_accepted.mp before)
        rw [story] at told
        simp at told
      refine List.nodup_append.mpr ⟨ih, List.pairwise_singleton _ place, ?_⟩
      intro earlier member later same
      rw [List.mem_singleton.mp same]
      exact fun equal => fresh (equal ▸ member)
    | _ => simpa [Deed.accepted?, List.filterMap_cons] using ih

theorem Reachable.count_taken (reach : s.Reachable) (task : Nat) :
    s.taken.count task =
      (s.finished.map (·.1)).count task + s.weigh fun strand => (strand.runs task).toNat := by
  refine reach.invariant (fun s => s.taken.count task =
    (s.finished.map (·.1)).count task + s.weigh fun strand => (strand.runs task).toNat)
    ?start ?begin ?act
  case start =>
    intro settings _
    rw [weigh_workers _ _ rfl]
    rfl
  case begin =>
    intro s strand _ ih fresh
    rw [weigh_begin]
    obtain rfl | rfl := fresh <;> exact ih
  case act =>
    intro s place strand act e _ ih found acts
    have moved := weigh_effect (f := fun strand => (strand.runs task).toNat) found e
    have runs := acts.runs task
    unfold taken finished at ih ⊢
    rw [told_effect, told_effect, List.count_append, List.map_append, List.count_append]
    omega

/-- The tasks counted, and those that the workers are going to count, are those that have come to their end. -/
theorem Reachable.tasks_eq (reach : s.Reachable) :
    ∃ counted : Nat, s.core.tasks = UInt64.ofNat counted ∧
      (counted + s.weigh fun strand => strand.owesTask.toNat) = s.finished.length := by
  refine reach.invariant (fun s => ∃ counted : Nat, s.core.tasks = UInt64.ofNat counted ∧
    (counted + s.weigh fun strand => strand.owesTask.toNat) = s.finished.length) ?start ?begin ?act
  case start =>
    intro settings _
    refine ⟨0, total_new settings rfl, ?_⟩
    rw [weigh_workers _ _ rfl]
    rfl
  case begin =>
    rintro s strand _ ⟨counted, tasks, ih⟩ fresh
    refine ⟨counted, tasks, ?_⟩
    rw [weigh_begin]
    obtain rfl | rfl := fresh <;> exact ih
  case act =>
    rintro s place strand act e reach ⟨counted, tasks, ih⟩ found acts
    have moved := weigh_effect (f := fun strand => strand.owesTask.toNat) found e
    obtain ⟨gained, more, balance⟩ := acts.tasks (reach.staffed.inside place strand found).mp
    refine ⟨counted + gained, ?_, ?_⟩
    · rw [show (s.effect place e).core = e.core from rfl, more, tasks, UInt64.ofNat_add]
    · unfold finished at ih ⊢
      rw [told_effect, List.length_append]
      omega

theorem Reachable.panics_eq (reach : s.Reachable) :
    ∃ counted : Nat, s.core.panics = UInt64.ofNat counted ∧
      (counted + s.weigh fun strand => strand.owesPanic.toNat) = s.finished.countP (·.2) := by
  refine reach.invariant (fun s => ∃ counted : Nat, s.core.panics = UInt64.ofNat counted ∧
    (counted + s.weigh fun strand => strand.owesPanic.toNat) = s.finished.countP (·.2)) ?start ?begin ?act
  case start =>
    intro settings _
    refine ⟨0, total_new settings rfl, ?_⟩
    rw [weigh_workers _ _ rfl]
    rfl
  case begin =>
    rintro s strand _ ⟨counted, panics, ih⟩ fresh
    refine ⟨counted, panics, ?_⟩
    rw [weigh_begin]
    obtain rfl | rfl := fresh <;> exact ih
  case act =>
    rintro s place strand act e reach ⟨counted, panics, ih⟩ found acts
    have moved := weigh_effect (f := fun strand => strand.owesPanic.toNat) found e
    obtain ⟨gained, more, balance⟩ := acts.panics (reach.staffed.inside place strand found).mp
    refine ⟨counted + gained, ?_, ?_⟩
    · rw [show (s.effect place e).core = e.core from rfl, more, panics, UInt64.ofNat_add]
    · unfold finished at ih ⊢
      rw [told_effect, List.countP_append]
      omega

end System

end TransferLifecycle.Pool
