import TransferLifecycle.Proofs.Pool.Progress

/-! What a pool promises to everybody who calls it, whatever the calls and the workers do in whatever
order: no accepted task is lost or run twice, a shutdown that put up the flag returns when all of them
are over, and it does return. -/
namespace TransferLifecycle.Pool

def Strand.busy : Strand → Bool
  | .running _ | .working .contain | .working .count => true
  | _ => false

def Strand.underway : Strand → List Nat
  | .running task => [task]
  | _ => []

theorem Strand.idle {strand : Strand} (idle : strand.busy = false) :
    strand.owesTask = false ∧ strand.owesPanic = false ∧ ∀ task, strand.runs task = false := by
  cases strand with
  | running task => cases idle
  | working point => cases point with
    | contain | count => cases idle
    | _ => exact ⟨rfl, rfl, fun _ => rfl⟩
  | _ => exact ⟨rfl, rfl, fun _ => rfl⟩

variable {me : Nat} {p : Pool Nat} {strand : Strand} {act : Act} {e : Effect}

private theorem Strand.Acts.underway (acts : strand.Acts me p act e) :
    strand.underway ++ e.deeds.filterMap (Deed.taken? me) =
      (e.deeds.filterMap (Deed.finished? me)).map (·.1) ++ e.strand.underway := by
  cases acts <;> rfl

private theorem Strand.Acts.uninvolved (acts : strand.Acts me p act e) (idle : strand.works = false) :
    e.deeds.filterMap (Deed.taken? me) = [] ∧ e.deeds.filterMap (Deed.finished? me) = [] := by
  cases acts with
  | start | take | receiveStop | finish | panic | contain | count | leaveLoop | exit => cases idle
  | send | overflow => exact ⟨rfl, rfl⟩
  | _ => exact ⟨rfl, rfl⟩

theorem Strand.Acts.entered (acts : strand.Acts me p act e) {closing : Bool}
    (told : .entered closing ∈ e.deeds) : closing = p.shuttingDown := by
  cases acts with
  | enter =>
    cases List.mem_singleton.mp told
    rfl
  | findClosing | send | overflow | mark | take | receiveStop | finish | panic =>
    cases List.mem_singleton.mp told
  | _ => cases told

private theorem Strand.Acts.deeds_length (acts : strand.Acts me p act e) : e.deeds.length ≤ 1 := by
  cases acts <;> first | exact Nat.zero_le _ | exact Nat.le_refl _

namespace System

variable {s : System} {place : Nat}

/-- Every accepted task has come to its end, just once, and the counters say so. -/
structure Accounted (s : System) : Prop where
  finished : (s.finished.map (·.1)).Perm s.accepted
  tasks : s.core.tasks = UInt64.ofNat s.accepted.length
  panics : s.core.panics = UInt64.ofNat (s.finished.countP (·.2))

private theorem Reachable.accounted (reach : s.Reachable) (empty : s.core.waiting = [])
    (idle : ∀ strand ∈ s.strands, strand.busy = false) : s.Accounted := by
  have tasks : (s.weigh fun strand => strand.owesTask.toNat) = 0 := by
    apply tally_eq_zero
    intro strand member
    rw [(Strand.idle (idle strand member)).1, Bool.toNat_false]
  have panics : (s.weigh fun strand => strand.owesPanic.toNat) = 0 := by
    apply tally_eq_zero
    intro strand member
    rw [(Strand.idle (idle strand member)).2.1, Bool.toNat_false]
  have running (task : Nat) : (s.weigh fun strand => (strand.runs task).toNat) = 0 := by
    apply tally_eq_zero
    intro strand member
    rw [(Strand.idle (idle strand member)).2.2, Bool.toNat_false]
  have accepted := reach.accepted_eq
  rw [empty, List.append_nil] at accepted
  have finished : (s.finished.map (·.1)).Perm s.accepted := by
    apply List.perm_iff_count.mpr
    intro task
    rw [accepted, reach.count_taken, running, Nat.add_zero]
  obtain ⟨counted, executed, all⟩ := reach.tasks_eq
  obtain ⟨contained, panicked, those⟩ := reach.panics_eq
  rw [tasks, Nat.add_zero] at all
  rw [panics, Nat.add_zero] at those
  refine ⟨finished, ?_, by rw [panicked, those]⟩
  rw [executed, all, ← finished.length_eq, List.length_map]

private theorem Reachable.flagged_iff (reach : s.Reachable) (found : s.strands[place]? = some strand) :
    strand.leads = true ↔ (place, .flagged) ∈ s.history := by
  have count := reach.count_flagged found
  rw [← mem_deedsOf, ← List.count_pos_iff, count]
  cases strand.leads <;> simp

theorem Reachable.closing (reach : s.Reachable) :
    s.history.Pairwise fun earlier later => earlier.2 = .flagged →
      ∀ closing, later.2 = .entered closing → closing = true := by
  refine reach.invariant (fun s => s.history.Pairwise fun earlier later => earlier.2 = .flagged →
    ∀ closing, later.2 = .entered closing → closing = true) ?start ?begin ?act
  case start =>
    intro settings _
    exact .nil
  case begin =>
    intro s strand _ ih _
    exact ih
  case act =>
    intro s place strand act e reach ih _ acts
    refine List.pairwise_append.mpr ⟨ih, ?_, ?_⟩
    · have short := acts.deeds_length
      match e.deeds, short with
      | [], _ => exact .nil
      | [_], _ => exact List.pairwise_singleton _ _
    -- Whoever put the flag up stands where the flag is known to be up.
    · intro earlier member later told flagged closing entered
      obtain ⟨deed, deeds, rfl⟩ := List.mem_map.mp told
      have entered : deed = .entered closing := entered
      obtain rfl := acts.entered (entered ▸ deeds)
      have inside := reach.place_lt member
      have found := List.getElem?_eq_getElem inside
      have leads := (reach.flagged_iff found).mpr (flagged ▸ member)
      exact reach.locked.flag_of_leads found leads

theorem Reachable.answer (reach : s.Reachable) {result : Except Refusal Unit}
    (found : s.strands[place]? = some (.answered result)) :
    (result = .ok () ↔ place ∈ s.accepted) ∧
      ((place, .entered true) ∈ s.history → result = .error .shuttingDown) := by
  have story := reach.story found rfl
  rw [mem_accepted, ← mem_deedsOf, ← mem_deedsOf, story]
  match result with
  | .ok () => simp [verdict]
  | .error .queueFull => simp [verdict]
  | .error .shuttingDown => simp [verdict]

/-- A lone worker has finished all tasks but the one that it runs and those that wait. -/
theorem Reachable.serial (reach : s.Reachable) (lone : s.core.workers.length = 1)
    (found : s.strands[0]? = some strand) :
    s.accepted = s.finished.map (·.1) ++ strand.underway ++ s.core.waiting := by
  rw [reach.accepted_eq]
  congr 1
  refine reach.invariant (fun s => s.core.workers.length = 1 → ∀ strand, s.strands[0]? = some strand →
    s.taken = s.finished.map (·.1) ++ strand.underway) ?start ?begin ?act lone strand found
  case start =>
    intro settings _ _ strand found
    rw [List.eq_of_mem_replicate (List.mem_of_getElem? found)]
    rfl
  case begin =>
    intro s new reach ih fresh lone strand found
    obtain old | ⟨last, -⟩ := found_begin found
    · exact ih lone strand old
    · have staff := reach.staffed.length_le
      have workers : s.core.workers.length = 1 := lone
      omega
  case act =>
    intro s acting strand act e reach ih found acts lone other there
    rw [show (s.effect acting e).core = e.core from rfl, acts.workers_length] at lone
    unfold taken finished at ih ⊢
    rw [told_effect, told_effect, List.map_append]
    obtain ⟨rfl, rfl⟩ | ⟨elsewhere, old⟩ := found_effect found there
    · rw [ih lone strand found, List.append_assoc, acts.underway, List.append_assoc]
    -- Nobody takes or finishes a task but the lone worker.
    · have outside : strand.works = false := by
        have inside := reach.staffed.inside acting strand found
        rw [lone] at inside
        cases works : strand.works with
        | false => rfl
        | true =>
          have first := inside.mp works
          omega
      obtain ⟨taken, finished⟩ := acts.uninvolved outside
      rw [taken, finished, ih lone other old, List.map_nil, List.append_nil, List.append_nil]

theorem Reachable.gone (reach : s.Reachable) (returned : s.strands[place]? = some (.returned true))
    {other : Nat} (found : s.strands[other]? = some strand) (works : strand.works = true) :
    strand = .exited := by
  have inside := (reach.staffed.inside other strand found).mp works
  have present := List.getElem?_eq_getElem inside
  have exited := reach.joined returned inside present
  obtain ⟨same, stands, gone⟩ := reach.staffed.worker other _ present
  obtain rfl := Option.some.inj (found.symm.trans stands)
  rw [exited] at gone
  cases strand with
  | exited => rfl
  | _ => cases gone

private theorem Reachable.waiting_nil_of_exited (reach : s.Reachable)
    (found : s.strands[place]? = some .exited) : s.core.waiting = [] := by
  have some := le_weigh (fun strand => strand.dismissed.toNat) found
  exact reach.waiting_nil some

private theorem Reachable.lead_worker (reach : s.Reachable) :
    ∃ strand, s.strands[0]? = some strand ∧ strand.works = true := by
  have inside := Nat.lt_of_lt_of_le reach.workers_pos reach.staffed.length_le
  have found := List.getElem?_eq_getElem inside
  exact ⟨_, found, (reach.staffed.inside 0 _ found).mpr reach.workers_pos⟩

theorem Reachable.stopped (reach : s.Reachable)
    (returned : s.strands[place]? = some (.returned true)) : s.Accounted := by
  obtain ⟨worker, found, works⟩ := reach.lead_worker
  obtain rfl := reach.gone returned found works
  refine reach.accounted (reach.waiting_nil_of_exited found) ?_
  intro strand member
  obtain ⟨other, stands⟩ := List.mem_iff_getElem?.mp member
  cases busy : strand.busy with
  | false => rfl
  | true =>
    have works : strand.works = true := by
      cases strand with
      | working | running => rfl
      | _ => cases busy
    rw [reach.gone returned stands works] at busy
    cases busy

theorem Reachable.settled (reach : s.Reachable) (still : s.Still) : s.Accounted := by
  obtain ⟨worker, found, works⟩ := reach.lead_worker
  have empty : s.core.waiting = [] := by
    cases reach.resting still found with
    | idle empty => rw [waiting, empty, List.filterMap_nil]
    | exited => exact reach.waiting_nil_of_exited found
    | answered | returned => cases works
  refine reach.accounted empty ?_
  intro strand member
  obtain ⟨place, stands⟩ := List.mem_iff_getElem?.mp member
  cases reach.resting still stands <;> rfl

/-- A task that was accepted waits, is run by one worker or has come to its end, and no other task
does any of this. -/
theorem Reachable.once (reach : s.Reachable) (task : Nat) :
    (s.core.waiting.count task + (s.weigh fun strand => (strand.runs task).toNat) +
      (s.finished.map (·.1)).count task) = if task ∈ s.accepted then 1 else 0 := by
  have taken := reach.count_taken task
  have accepted : s.accepted.count task = if task ∈ s.accepted then 1 else 0 :=
    reach.accepted_nodup.count
  rw [← accepted, reach.accepted_eq, List.count_append]
  omega

private theorem Reachable.tireless (reach : s.Reachable) (found : s.strands[place]? = some strand)
    (works : strand.works = true) (unsignalled : (place, .signalled) ∉ s.history) :
    (∃ act t, s.perform? (.act place act) = some t) ∨
      strand = .working .receive ∧ s.core.queue = [] := by
  have count := reach.count_signalled found
  rw [← mem_deedsOf] at unsignalled
  rw [List.count_eq_zero_of_not_mem unsignalled] at count
  have parts := strand.works_eq
  have staying : strand.staying = true := by
    cases staying : strand.staying with
    | true => rfl
    | false =>
      rw [works, staying, ← count] at parts
      cases parts
  obtain ⟨act, e, acted⟩ | idle :=
    Strand.act_of_staying place s.core staying (reach.ne_running found)
  · exact Or.inl ⟨act, s.effect place e, by simp [perform?, found, acted]⟩
  · exact Or.inr idle

structure Graceful (s : System) : Prop where
  ordered : s.core.Ordered
  once : ∀ task, (s.core.waiting.count task + (s.weigh fun strand => (strand.runs task).toNat) +
    (s.finished.map (·.1)).count task) = if task ∈ s.accepted then 1 else 0
  answer : ∀ (place : Nat) result, s.strands[place]? = some (.answered result) →
    (result = .ok () ↔ place ∈ s.accepted) ∧
      ((place, .entered true) ∈ s.history → result = .error .shuttingDown)
  closing : s.history.Pairwise fun earlier later => earlier.2 = .flagged →
    ∀ closing, later.2 = .entered closing → closing = true
  first : ∀ (place : Nat) (first : Bool), s.strands[place]? = some (.returned first) →
    (first = true ↔ (place, .flagged) ∈ s.history)
  /-- A shutdown that found the flag unset has returned. -/
  stopped : ∀ place : Nat, s.strands[place]? = some (.returned true) → s.Accounted
  tireless : ∀ (place : Nat) (strand : Strand), s.strands[place]? = some strand → strand.works = true →
    (place, .signalled) ∉ s.history → (∃ act t, s.perform? (.act place act) = some t) ∨
      strand = .working .receive ∧ s.core.queue = []
  serial : s.core.workers.length = 1 → ∀ strand, s.strands[0]? = some strand →
    s.accepted = s.finished.map (·.1) ++ strand.underway ++ s.core.waiting
  /-- Without new calls the run comes to an end. -/
  bounded : ∀ (acts : List (Nat × Act)) t,
    s.run? (acts.map fun (place, act) => .act place act) = some t → acts.length ≤ s.effort
  settled : s.Still → s.Accounted ∧
    ∀ (place : Nat) (strand : Strand), s.strands[place]? = some strand → strand.Resting s.core

theorem Reachable.graceful (reach : s.Reachable) : s.Graceful where
  ordered := reach.ordered
  once := reach.once
  answer _ _ := reach.answer
  closing := reach.closing
  first place first found := by
    have leads := reach.flagged_iff found
    cases first <;> exact leads
  stopped _ := reach.stopped
  tireless _ _ := reach.tireless
  serial lone _ := reach.serial lone
  bounded acts t ran := by
    have bound := length_le_effort ran
    omega
  settled still := ⟨reach.settled still, fun _ _ => reach.resting still⟩

/-- Two workers share a queue for two. The third task finds no room and the fourth comes after the
flag was set. The first one panics, and the second one is still under way when both signals have been
sent. -/
def draining : List Action :=
  [.submit, .submit, .submit] ++ moves 2 4 ++ moves 3 4 ++ moves 4 4 ++ [.shutdown] ++ moves 5 4 ++
    [.submit] ++ moves 6 3 ++ moves 0 2 ++ moves 1 2 ++ moves 5 3 ++ [.act 0 (.finish true)] ++
    moves 0 5 ++ [.act 1 (.finish false)] ++ moves 1 4 ++ moves 5 3

theorem graceful_draining :
    ∃ s, (new { workers := 2, capacity := 1 }).run? draining = some s ∧
      s.strands = [.exited, .exited, .answered (.ok ()), .answered (.ok ()),
        .answered (.error .queueFull), .returned true, .answered (.error .shuttingDown)] ∧
      s.accepted = [2, 3] ∧ s.finished = [(2, true), (3, false)] ∧ s.core.tasks = 2 ∧
      s.core.panics = 1 ∧ s.Graceful := by
  refine ⟨_, rfl, rfl, rfl, rfl, rfl, rfl, Reachable.graceful ?_⟩
  have start : Reachable (new { workers := 2, capacity := 1 }) := .of_fits Nat.one_pos (by decide)
  exact start.run draining rfl

end System

end TransferLifecycle.Pool
