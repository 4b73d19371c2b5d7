import TransferLifecycle.Proofs.Settling.Spawning

/-! What becomes of a unit. Somebody is the first to finish it, and from then on everybody hears of that outcome
and of no other. A unit that is spawned is finished by its work, unless somebody has been faster, and its work
runs all the same. -/
namespace TransferLifecycle.Settling

theorem Deed.Agrees.first {deed : Deed} {now : Option Outcome} (agrees : deed.Agrees now) {outcome : Outcome}
    {first : Bool} (writes : deed.write? = some (outcome, first)) : first = now.isNone := by
  cases deed with
  | attempted | settled =>
    cases writes
    exact agrees
  | _ => cases writes

section

variable {w : Store} {handle thread unit : Nat} {outcome : Outcome}

private theorem Strand.step_waiting (here : w.handles[handle]? = some unit) (finished : w.outcome unit = some outcome) :
    (Strand.waiting handle thread).step? w =
      some { store := { w with next := (outcome.waited w.next).2 }
             deeds := [.waited handle unit (outcome.waited w.next).1] } := by
  have written : (w.completions unit).outcome = some outcome := finished
  simp [step?, here, Completion.look, written]

private theorem Strand.step_deciding (here : w.handles[handle]? = some unit) (finished : w.outcome unit = some outcome) :
    (Strand.deciding handle thread).step? w =
      some { store := { w with next := (outcome.waited w.next).2 }
             deeds := [.judged handle unit (hasFailed (outcome.waited w.next).1)] } := by
  have written : (w.completions unit).outcome = some outcome := finished
  simp [step?, here, Completion.look, written]

private theorem Strand.step_judging (here : w.handles[handle]? = some unit) :
    (Strand.judging handle thread).step? w =
      some (if (w.completions unit).isFinished then { store := w, strand := .deciding handle thread }
        else { store := w, deeds := [.judged handle unit false] }) := by
  cases finished : (w.completions unit).isFinished <;> simp [step?, here, finished]

end

namespace System

variable {s t : System} {unit : Nat}

private theorem outcomeAt_of_le {j k : Nat} (le : j ≤ k) {outcome : Outcome}
    (finished : s.outcomeAt j unit = some outcome) : s.outcomeAt k unit = some outcome := by
  obtain ⟨more, rfl⟩ := Nat.exists_eq_add_of_le le
  unfold outcomeAt at *
  rw [List.take_add, firstWrite_append, finished, Option.some_or]

private theorem Reachable.outcomeAt_of_first (reach : s.Reachable) {j k : Nat} {deed : Deed} {outcome : Outcome}
    (told : s.history[j]? = some deed) (writes : deed.write? = some (outcome, true)) (later : j < k) :
    s.outcomeAt k deed.unit = some outcome := by
  have before : s.outcomeAt j deed.unit = none :=
    Option.isNone_iff_eq_none.mp ((reach.agrees told).first writes).symm
  refine outcomeAt_of_le later ?_
  unfold outcomeAt at *
  rw [List.take_add_one, told, firstWrite_append, before, Option.none_or, Option.toList_some, firstWrite,
    List.findSome?_singleton, if_pos rfl, writes]
  rfl

private theorem Reachable.won_iff (reach : s.Reachable) {outcome : Outcome} :
    s.store.outcome unit = some outcome ↔
      ∃ deed ∈ s.history, deed.unit = unit ∧ deed.write? = some (outcome, true) := by
  constructor
  case mp =>
    intro finished
    rw [reach.recorded, firstWrite, List.findSome?_eq_some_iff] at finished
    obtain ⟨before, deed, after, history, tried, none⟩ := finished
    obtain ⟨mine, tried⟩ := Option.ite_none_right_eq_some.mp tried
    obtain ⟨⟨made, first⟩, writes, rfl⟩ := Option.map_eq_some_iff.mp tried
    have told : s.history[before.length]? = some deed := by simp [history]
    have earlier : s.outcomeAt before.length deed.unit = Option.none := by
      rw [outcomeAt, history, List.take_left, mine]
      exact List.findSome?_eq_none_iff.mpr none
    -- Nobody had tried when this was told, so it was answered with yes.
    have flag := (reach.agrees told).first writes
    rw [earlier] at flag
    exact ⟨deed, List.mem_of_getElem? told, mine, flag ▸ writes⟩
  case mpr =>
    rintro ⟨deed, member, rfl, writes⟩
    obtain ⟨k, told⟩ := List.mem_iff_getElem?.mp member
    have bound := (List.getElem?_eq_some_iff.mp told).1
    have now := reach.outcomeAt_of_first told writes bound
    rwa [outcomeAt, List.take_length, ← reach.recorded] at now

private theorem Reachable.first_iff (reach : s.Reachable) {k : Nat} {deed : Deed} {outcome : Outcome} {first : Bool}
    (told : s.history[k]? = some deed) (writes : deed.write? = some (outcome, first)) :
    first = true ↔ ∀ earlier ∈ s.history.take k, earlier.unit = deed.unit → earlier.write? = none := by
  rw [(reach.agrees told).first writes, Option.isNone_iff_eq_none]
  exact firstWrite_eq_none

theorem Reachable.result (reach : s.Reachable) {outcome : Outcome} {first : Bool}
    (told : .settled unit outcome first ∈ s.history) :
    ∃ work, about unit Deed.ran? s.history = [work] ∧ work.Makes outcome ∧
      (first = true → s.store.outcome unit = some outcome) ∧
      (first = false → ∃ handle attempt won, .attempted handle unit attempt won true ∈ s.history ∧
        attempt.Makes won ∧ s.store.outcome unit = some won) := by
  obtain ⟨work, ran, makes, only⟩ := reach.settled told
  refine ⟨work, ran, makes, fun won => ?_, fun lost => ?_⟩
  · subst won
    exact reach.won_iff.mpr ⟨_, told, rfl, rfl⟩
  · subst lost
    -- Somebody has tried before, and the first who did was not this work, which has tried once.
    have finished : ∃ won, s.store.outcome unit = some won := by
      obtain ⟨k, here⟩ := List.mem_iff_getElem?.mp told
      have flag := (reach.agrees here).first rfl
      cases earlier : s.outcomeAt k unit with
      | none => simp [Deed.unit, earlier] at flag
      | some won =>
        have now := outcomeAt_of_le (Nat.le_of_lt (List.getElem?_eq_some_iff.mp here).1) earlier
        rw [outcomeAt, List.take_length, ← reach.recorded] at now
        exact ⟨won, now⟩
    obtain ⟨won, finished⟩ := finished
    obtain ⟨deed, member, mine, writes⟩ := reach.won_iff.mp finished
    cases deed with
    | attempted handle other attempt made flag =>
      cases writes
      cases mine
      exact ⟨handle, attempt, won, member, reach.made member, finished⟩
    | settled other made flag =>
      cases writes
      cases mine
      have both : (won, true) ∈ about _ Deed.settled? s.history := mem_about.mpr ⟨_, member, rfl, rfl⟩
      rw [only] at both
      cases List.mem_singleton.mp both
    | _ => cases writes

theorem perform_step {place : Nat} {strand : Strand} {e : Effect} (found : s.strands[place]? = some strand)
    (stepped : strand.step? s.store = some e) :
    s.perform? (.step place) =
      some ({ s with store := e.store, strands := s.strands.set place e.strand }.tell e.deeds) := by
  simp [perform?, found, stepped]

/-- Asking a wait whether a unit has failed comes to the same as asking the unit, and takes at most two steps. -/
theorem run_judging {place handle thread : Nat} (found : s.strands[place]? = some (.judging handle thread))
    (here : s.store.handles[handle]? = some unit) :
    ∃ n t, n ≤ 2 ∧ s.run? (List.replicate n (.step place)) = some t ∧
      t.history = s.history ++ [.judged handle unit (s.store.completions unit).isFailed] := by
  have first := perform_step found (Strand.step_judging here)
  cases written : (s.store.completions unit).outcome with
  | none =>
    rw [if_neg (by simp [Completion.isFinished, written])] at first
    refine ⟨1, _, by omega, (congrArg (Option.bind · _) first).trans rfl, ?_⟩
    simp [tell, Completion.isFailed, written]
  | some outcome =>
    rw [if_pos (by simp [Completion.isFinished, written])] at first
    have there : ({ s with strands := s.strands.set place (.deciding handle thread) }.tell []).strands[place]? =
        some (.deciding handle thread) :=
      List.getElem?_set_self (List.getElem?_eq_some_iff.mp found).1
    have second := perform_step there (Strand.step_deciding here written)
    refine ⟨2, _, by omega,
      (congrArg (Option.bind · _) first).trans ((congrArg (Option.bind · _) second).trans rfl), ?_⟩
    have same : hasFailed (outcome.waited s.store.next).1 = (s.store.completions unit).isFailed := by
      refine Bool.eq_iff_iff.mpr ?_
      rw [isFailed_iff, written]
      exact hasFailed_iff (outcome.reports_waited _)
    simp [tell, same]

private theorem run_task {work : Ending} (queued : s.tasks unit = .queued work) :
    ∃ t outcome, s.run? [.run unit, .settle unit] = some t ∧ work.Makes outcome ∧
      t.history = s.history ++ [.ran unit work, .settled unit outcome (s.store.outcome unit).isNone] ∧
      t.store.outcome unit = some ((s.store.outcome unit).getD outcome) ∧
      t.store.handles = s.store.handles := by
  let made := work.attempt.outcome s.store.next
  let middle := ({ s with store := { s.store with next := made.2 } }.setTask unit (.worked work made.1)).tell
    [.ran unit work]
  have ran : s.perform? (.run unit) = some middle := by
    rw [perform?, queued]
  have task : middle.tasks unit = .worked work made.1 := if_pos rfl
  have settled : middle.perform? (.settle unit) =
      some (((middle.finish unit made.1 middle.store.next).setTask unit
        (.settled work made.1 (middle.store.isFirst unit made.1))).tell
          [.settled unit made.1 (middle.store.isFirst unit made.1)]) := by
    rw [perform?, task]
  refine ⟨_, made.1, (congrArg (Option.bind · _) ran).trans ((congrArg (Option.bind · _) settled).trans rfl),
    work.makes_outcome _, ?_, ?_, rfl⟩
  · rw [Store.isFirst_eq]
    exact List.append_assoc _ _ _
  · exact (middle.outcome_finish unit unit made.1 middle.store.next).trans (if_pos rfl)

/-- What an attempt leaves alone. -/
structure Untouched (s t : System) : Prop where
  handles : t.store.handles = s.store.handles
  tokens : t.store.tokens = s.store.tokens
  offers : t.offers = s.offers
  tasks : t.tasks = s.tasks
  strands : t.strands = s.strands

private theorem perform_attempt {handle : Nat} (attempt : Attempt) (here : s.store.handles[handle]? = some unit) :
    ∃ t made, s.perform? (.attempt handle attempt) = some t ∧ attempt.Makes made ∧ Untouched s t ∧
      t.store.completions = (s.store.finish unit made).completions ∧
      t.history = s.history ++ [.attempted handle unit attempt made (s.store.outcome unit).isNone] := by
  let made := (attempt.outcome s.store.next).1
  have performed : s.perform? (.attempt handle attempt) =
      some ((s.finish unit made (attempt.outcome s.store.next).2).tell
        [.attempted handle unit attempt made (s.store.isFirst unit made)]) := by
    rw [perform?, here]
    rfl
  refine ⟨_, made, performed, attempt.makes_outcome _, ⟨rfl, rfl, rfl, rfl, rfl⟩, rfl, ?_⟩
  rw [← Store.isFirst_eq]
  rfl

private theorem attempt_early {handle : Nat} {attempt : Attempt} (here : s.store.handles[handle]? = some unit)
    (pending : s.store.outcome unit = none) :
    ∃ t made, s.perform? (.attempt handle attempt) = some t ∧ attempt.Makes made ∧ Untouched s t ∧
      (∀ other, t.store.outcome other = if other = unit then some made else s.store.outcome other) ∧
      t.history = s.history ++ [.attempted handle unit attempt made true] := by
  obtain ⟨t, made, performed, makes, untouched, completions, told⟩ := perform_attempt attempt here
  refine ⟨t, made, performed, makes, untouched, fun other => ?_, ?_⟩
  · have written : t.store.outcome other = (s.store.finish unit made).outcome other := by
      rw [Store.outcome, completions, Store.outcome]
    rw [written, Store.outcome_finish]
    by_cases same : other = unit
    · rw [if_pos same, if_pos same, same, pending, Option.getD_none]
    · rw [if_neg same, if_neg same]
  · rw [told, pending, Option.isNone_none]

private theorem attempt_late {handle : Nat} {attempt : Attempt} {outcome : Outcome}
    (here : s.store.handles[handle]? = some unit) (finished : s.store.outcome unit = some outcome) :
    ∃ t made, s.perform? (.attempt handle attempt) = some t ∧ attempt.Makes made ∧ Untouched s t ∧
      t.store.completions = s.store.completions ∧
      t.history = s.history ++ [.attempted handle unit attempt made false] := by
  obtain ⟨t, made, performed, makes, untouched, completions, told⟩ := perform_attempt attempt here
  have written : (s.store.completions unit).outcome = some outcome := finished
  refine ⟨t, made, performed, makes, untouched, ?_, ?_⟩
  · rw [completions]
    refine funext fun k => ?_
    by_cases same : k = unit <;> simp [Store.finish, Completion.finish, written, same]
  · rw [told, finished, Option.isNone_some]

/-- What becomes of units, whoever finishes them, waits on them and asks about them. -/
structure Settles (s : System) : Prop where
  first (k : Nat) (deed : Deed) (outcome : Outcome) (first : Bool) : s.history[k]? = some deed →
    deed.write? = some (outcome, first) →
    (first = true ↔ ∀ earlier ∈ s.history.take k, earlier.unit = deed.unit → earlier.write? = none)
  won (unit : Nat) (outcome : Outcome) : s.store.outcome unit = some outcome ↔
    ∃ deed ∈ s.history, deed.unit = unit ∧ deed.write? = some (outcome, true)
  /-- What was tried is what was called for. -/
  made (handle unit : Nat) (attempt : Attempt) (outcome : Outcome) (first : Bool) :
    .attempted handle unit attempt outcome first ∈ s.history → attempt.Makes outcome
  early (handle unit : Nat) (attempt : Attempt) : s.store.handles[handle]? = some unit →
    s.store.outcome unit = none →
    ∃ t made, s.perform? (.attempt handle attempt) = some t ∧ attempt.Makes made ∧ Untouched s t ∧
      (∀ other, t.store.outcome other = if other = unit then some made else s.store.outcome other) ∧
      t.history = s.history ++ [.attempted handle unit attempt made true]
  late (handle unit : Nat) (attempt : Attempt) (outcome : Outcome) :
    s.store.handles[handle]? = some unit → s.store.outcome unit = some outcome →
    ∃ t made, s.perform? (.attempt handle attempt) = some t ∧ attempt.Makes made ∧ Untouched s t ∧
      t.store.completions = s.store.completions ∧
      t.history = s.history ++ [.attempted handle unit attempt made false]
  lasts (unit : Nat) (outcome : Outcome) (actions : List Action) (t : System) :
    s.store.outcome unit = some outcome → s.run? actions = some t → t.store.outcome unit = some outcome
  /-- From the first attempt on, the unit has its outcome, and all that is told of the unit agrees with that. -/
  remains (j k : Nat) (deed : Deed) (outcome : Outcome) : s.history[j]? = some deed →
    deed.write? = some (outcome, true) → j < k → s.outcomeAt k deed.unit = some outcome
  agrees (k : Nat) (deed : Deed) : s.history[k]? = some deed → deed.Agrees (s.outcomeAt k deed.unit)
  behind (deed : Deed) (handle : Nat) : deed ∈ s.history → deed.handle? = some handle →
    s.store.handles[handle]? = some deed.unit
  /-- A wait on a unit that has finished comes back at once, and leaves an interrupt pending. -/
  prompt (place handle thread unit : Nat) (outcome : Outcome) :
    s.strands[place]? = some (.waiting handle thread) → s.store.handles[handle]? = some unit →
    s.store.outcome unit = some outcome → ∃ t result, s.perform? (.step place) = some t ∧
      t.history = s.history ++ [.waited handle unit result] ∧ outcome.Reports result ∧
      t.store.tokens = s.store.tokens
  judges (place handle thread unit : Nat) : s.strands[place]? = some (.judging handle thread) →
    s.store.handles[handle]? = some unit →
    ∃ n t, n ≤ 2 ∧ s.run? (List.replicate n (.step place)) = some t ∧
      t.history = s.history ++ [.judged handle unit (s.store.completions unit).isFailed]
  refused (unit : Nat) (reason : Refusal) : .refused unit reason ∈ s.history → unit ∉ s.store.handles
  /-- The work is run once at most, and nothing keeps it from running. -/
  once (unit : Nat) : (about unit Deed.ran? s.history).length ≤ 1
  runs (unit : Nat) (work : Ending) : s.tasks unit = .queued work →
    ∃ t outcome, s.run? [.run unit, .settle unit] = some t ∧ work.Makes outcome ∧
      t.history = s.history ++ [.ran unit work, .settled unit outcome (s.store.outcome unit).isNone] ∧
      t.store.outcome unit = some ((s.store.outcome unit).getD outcome) ∧
      t.store.handles = s.store.handles
  /-- A unit whose work has run has the outcome of the work, or that of an attempt that came before. -/
  result (unit : Nat) (outcome : Outcome) (first : Bool) : .settled unit outcome first ∈ s.history →
    ∃ work, about unit Deed.ran? s.history = [work] ∧ work.Makes outcome ∧
      (first = true → s.store.outcome unit = some outcome) ∧
      (first = false → ∃ handle attempt won, .attempted handle unit attempt won true ∈ s.history ∧
        attempt.Makes won ∧ s.store.outcome unit = some won)

/-- However attempts, waits, questions and spawned work interleave, each unit is settled once and for all. -/
theorem Reachable.settles (reach : s.Reachable) : s.Settles where
  first _ _ _ _ := reach.first_iff
  won _ _ := reach.won_iff
  made _ _ _ _ _ := reach.made
  early _ _ _ := attempt_early
  late _ _ _ _ := attempt_late
  lasts _ _ _ _ finished ran := reach.lasts finished ran
  remains _ _ _ _ := reach.outcomeAt_of_first
  agrees _ _ := reach.agrees
  behind _ _ told through := reach.behind told through
  prompt _ _ _ _ outcome found here finished :=
    ⟨_, _, perform_step found (Strand.step_waiting here finished), rfl, outcome.reports_waited _, rfl⟩
  judges _ _ _ _ := run_judging
  refused _ _ := reach.refused
  once := reach.once
  runs _ _ := run_task
  result _ _ _ := reach.result

def diskFull : SharedFault := .mk 40 (.transfer (.client "disk full" none))

/-- A unit is spawned and canceled through a clone of its handle before its work fails. Another one is refused,
and its work, which panics, is run nevertheless. Of two more, one fails by a shared cause before it can be
canceled, and the other by a cause of its own. -/
def overtaking : List Action :=
  [.spawn (.failed .interrupted), .decide 0 .accepts, .clone 0, .wait 0 7, .ask 1 .isFinished, .attempt 1 .cancel,
    .run 0, .step 0, .settle 0, .attempt 0 .succeed, .ask 0 .isFailed, .judge 1 8, .step 1, .step 1,
    .spawn .panicked, .decide 1 (.refuses .queueFull), .run 1, .settle 1] ++
  [.create, .clone 2, .wait 3 7, .attempt 2 (.failShared diskFull), .attempt 3 .cancel, .step 2, .create,
    .attempt 4 (.fail .interrupted), .attempt 4 (.failShared diskFull), .wait 4 7, .step 3, .wait 4 8, .step 4]

theorem settles_overtaking : ∃ s : System, run? {} overtaking = some s ∧ s.store.handles = [0, 0, 2, 2, 3] ∧
    s.history = [.spawned 0 0, .asked 1 0 .isFinished false, .attempted 1 0 .cancel .cancellation true,
      .ran 0 (.failed .interrupted), .waited 0 0 (.error (.execution ⟨.mk 1 (.transfer .canceled)⟩)),
      .settled 0 (.failure ⟨.mk 0 .interrupted⟩) false, .attempted 0 0 .succeed .success false,
      .asked 0 0 .isFailed true, .judged 1 0 true, .refused 1 .queueFull, .ran 1 .panicked,
      .settled 1 (.failure ⟨.mk 3 panicFault⟩) true,
      .attempted 2 2 (.failShared diskFull) (.failure ⟨diskFull⟩) true,
      .attempted 3 2 .cancel .cancellation false, .waited 3 2 (.error (.execution ⟨diskFull⟩)),
      .attempted 4 3 (.fail .interrupted) (.failure ⟨.mk 4 .interrupted⟩) true,
      .attempted 4 3 (.failShared diskFull) (.failure ⟨diskFull⟩) false,
      .waited 4 3 (.error (.execution ⟨.mk 4 .interrupted⟩)),
      .waited 4 3 (.error (.execution ⟨.mk 4 .interrupted⟩))] ∧ s.Settles :=
  ⟨_, rfl, rfl, rfl, (Reachable.run .start overtaking rfl).settles⟩

end System

end TransferLifecycle.Settling
