import TransferLifecycle.Proofs.Settling.Interleaving

/-! A unit has the outcome that the first attempt gave it. Whatever is told of the unit afterwards agrees with
that, through whichever handle it has been learnt. -/
namespace TransferLifecycle

/-- A wait on a unit with this outcome may come back with that. -/
def Outcome.Reports : Outcome → Waited → Prop
  | .success, result => result = .ok ()
  | .failure f, result => result = .error (.execution f)
  | .cancellation, result => ∃ address, result = .error (.execution ⟨.mk address (.transfer .canceled)⟩)

theorem Outcome.reports_waited (outcome : Outcome) (next : Nat) : outcome.Reports (outcome.waited next).1 := by
  cases outcome with
  | success | failure => rfl
  | cancellation => exact ⟨next, rfl⟩

namespace Settling

/-- The attempt may leave the unit with this outcome. -/
def Attempt.Makes : Attempt → Outcome → Prop
  | .succeed, outcome => outcome = .success
  | .fail cause, outcome => ∃ address, outcome = .failure ⟨.mk address cause⟩
  | .failShared cause, outcome => outcome = .failure ⟨cause⟩
  | .cancel, outcome => outcome = .cancellation

theorem Attempt.makes_outcome (attempt : Attempt) (next : Nat) : attempt.Makes (attempt.outcome next).1 := by
  cases attempt with
  | fail => exact ⟨next, rfl⟩
  | succeed | failShared | cancel => rfl

def Fails (outcome : Option Outcome) : Prop :=
  ∃ o result, outcome = some o ∧ o.Reports result ∧ hasFailed result = true

theorem hasFailed_iff {outcome : Outcome} {result : Waited} (reports : outcome.Reports result) :
    hasFailed result = true ↔ Fails (some outcome) := by
  refine ⟨fun failed => ⟨outcome, result, rfl, reports, failed⟩, ?_⟩
  rintro ⟨o, other, same, also, failed⟩
  cases same
  cases outcome with
  | success =>
    cases also
    cases failed
  | failure =>
    cases reports
    rfl
  | cancellation =>
    obtain ⟨address, rfl⟩ := reports
    rfl

theorem isFailed_iff (c : Completion) : c.isFailed = true ↔ Fails c.outcome := by
  obtain ⟨outcome⟩ := c
  cases outcome with
  | none => simp [Completion.isFailed, Fails]
  | some outcome =>
    rw [← hasFailed_iff (outcome.reports_waited 0)]
    cases outcome <;> exact Iff.rfl

private theorem isCanceled_iff (c : Completion) : c.isCanceled = true ↔ c.outcome = some .cancellation := by
  obtain ⟨outcome⟩ := c
  cases outcome with
  | none => simp [Completion.isCanceled]
  | some outcome => cases outcome <;> simp [Completion.isCanceled]

namespace Deed

def unit : Deed → Nat
  | attempted _ unit _ _ _ | asked _ unit _ _ | waited _ unit _ | judged _ unit _ | spawned _ unit
  | refused unit _ | ran unit _ | settled unit _ _ => unit

def handle? : Deed → Option Nat
  | attempted handle _ _ _ _ | asked handle _ _ _ | waited handle _ _ | judged handle _ _
  | spawned handle _ => some handle
  | refused _ _ | ran _ _ | settled _ _ _ => none

def write? : Deed → Option (Outcome × Bool)
  | attempted _ _ _ outcome first | settled _ outcome first => some (outcome, first)
  | _ => none

def Agrees (outcome : Option Outcome) : Deed → Prop
  | attempted _ _ _ _ first | settled _ _ first => first = outcome.isNone
  | asked _ _ .isFinished answer => answer = outcome.isSome
  | asked _ _ .isCanceled answer => answer = true ↔ outcome = some .cancellation
  | asked _ _ .isFailed answer | judged _ _ answer => answer = true ↔ Fails outcome
  | waited _ _ result =>
    (∃ o, outcome = some o ∧ o.Reports result) ∨ outcome = none ∧ result = .error .interrupted
  | spawned _ _ | refused _ _ | ran _ _ => True

end Deed

def firstWrite (history : List Deed) (unit : Nat) : Option Outcome :=
  history.findSome? fun deed => if deed.unit = unit then deed.write?.map (·.1) else none

theorem firstWrite_append (history news : List Deed) (unit : Nat) :
    firstWrite (history ++ news) unit = (firstWrite history unit).or (firstWrite news unit) :=
  List.findSome?_append

theorem firstWrite_eq_none {history : List Deed} {unit : Nat} :
    firstWrite history unit = none ↔ ∀ deed ∈ history, deed.unit = unit → deed.write? = none := by
  simp [firstWrite, List.findSome?_eq_none_iff]

/-- What is told of an action, and what becomes of the outcomes: if anything has been tried, the unit now has
the outcome that it had, or this one. -/
inductive Tells (w later : Store) : List Deed → Prop where
  | silent (same : later.outcome = w.outcome) : Tells w later []
  | read {deed} (reads : deed.write? = none) (agrees : deed.Agrees (w.outcome deed.unit))
      (same : later.outcome = w.outcome) : Tells w later [deed]
  | wrote {deed outcome first} (writes : deed.write? = some (outcome, first))
      (agrees : deed.Agrees (w.outcome deed.unit))
      (finishes : ∀ unit, later.outcome unit =
        if unit = deed.unit then some ((w.outcome unit).getD outcome) else w.outcome unit) :
    Tells w later [deed]

variable {w later : Store} {deeds : List Deed}

theorem Tells.outcome (tells : Tells w later deeds) (unit : Nat) :
    later.outcome unit = (w.outcome unit).or (firstWrite deeds unit) := by
  cases tells with
  | silent same => rw [same, firstWrite, List.findSome?_nil, Option.or_none]
  | read reads agrees same =>
    rw [same, firstWrite, List.findSome?_singleton, reads]
    simp
  | @wrote deed outcome first writes agrees finishes =>
    rw [finishes, firstWrite, List.findSome?_singleton, writes]
    by_cases same : unit = deed.unit
    · subst same
      cases w.outcome deed.unit <;> simp
    · simp [same, Ne.symm same]

theorem Tells.grows (tells : Tells w later deeds) {unit : Nat} {outcome : Outcome}
    (finished : w.outcome unit = some outcome) : later.outcome unit = some outcome := by
  rw [tells.outcome, finished, Option.some_or]

theorem Tells.agrees (tells : Tells w later deeds) {k : Nat} {deed : Deed} (told : deeds[k]? = some deed) :
    k = 0 ∧ deed.Agrees (w.outcome deed.unit) := by
  cases tells with
  | silent => cases told
  | read reads agrees | wrote writes agrees =>
    cases k with
    | zero =>
      cases told
      exact ⟨rfl, agrees⟩
    | succ k => cases told

namespace System

variable {s t : System} {action : Action}

/-- Who waits to learn whether a unit has failed knows that it has finished. -/
def Ready (s : System) : Prop :=
  ∀ (place handle thread : Nat), s.strands[place]? = some (.deciding handle thread) →
    ∃ unit outcome, s.store.handles[handle]? = some unit ∧ s.store.outcome unit = some outcome

theorem outcome_finish (s : System) (unit k : Nat) (outcome : Outcome) (next : Nat) :
    (s.finish unit outcome next).store.outcome k =
      if k = unit then some ((s.store.outcome k).getD outcome) else s.store.outcome k :=
  Store.outcome_finish { s.store with next := next } unit k outcome

theorem Steps.tells (steps : s.Steps action t) (ready : s.Ready) :
    ∃ deeds, t.history = s.history ++ deeds ∧ Tells s.store t.store deeds := by
  cases steps with
  | create | clone | wait | judge | interrupt | spawn | panic | drop =>
    exact ⟨[], (List.append_nil _).symm, .silent rfl⟩
  | @attempt handle unit attempt outcome next here =>
    refine ⟨_, rfl, .wrote rfl (s.store.isFirst_eq unit outcome) fun k => s.outcome_finish unit k outcome next⟩
  | @settle unit _ outcome =>
    exact ⟨_, rfl, .wrote rfl (s.store.isFirst_eq unit outcome)
      fun k => s.outcome_finish unit k outcome s.store.next⟩
  | @ask handle unit query here =>
    refine ⟨_, rfl, .read rfl ?_ rfl⟩
    cases query with
    | isFinished => rfl
    | isFailed => exact isFailed_iff _
    | isCanceled => exact isCanceled_iff _
  | accept | refuse | run => exact ⟨_, rfl, .read rfl trivial rfl⟩
  | @step place strand e found acts =>
    refine ⟨e.deeds, rfl, ?_⟩
    cases acts with
    | @returned _ _ unit outcome here finished =>
      exact .read rfl (Or.inl ⟨outcome, finished, outcome.reports_waited _⟩) rfl
    | interrupted here unfinished => exact .read rfl (Or.inr ⟨unfinished, rfl⟩) rfl
    | proceed => exact .silent rfl
    | denied here unfinished =>
      refine .read rfl ?_ rfl
      simp [Deed.Agrees, Deed.unit, unfinished, Fails]
    | @decided _ _ unit outcome here finished =>
      refine .read rfl ?_ rfl
      rw [Deed.Agrees, Deed.unit, finished]
      exact hasFailed_iff (outcome.reports_waited _)
    | @missed handle thread unit here unfinished =>
      -- It has found before that the unit has finished, and that is still so.
      obtain ⟨other, outcome, there, finished⟩ := ready place handle thread found
      cases here.symm.trans there
      cases finished.symm.trans unfinished

theorem Steps.handles (steps : s.Steps action t) :
    ∃ more, t.store.handles = s.store.handles ++ more := by
  cases steps with
  | create | clone | accept => exact ⟨_, rfl⟩
  | step found acts =>
    refine ⟨[], ?_⟩
    rw [List.append_nil]
    cases acts <;> rfl
  | _ => exact ⟨[], (List.append_nil _).symm⟩

theorem Steps.handle (steps : s.Steps action t) {handle unit : Nat}
    (here : s.store.handles[handle]? = some unit) : t.store.handles[handle]? = some unit := by
  obtain ⟨more, same⟩ := steps.handles
  rw [same, List.getElem?_append_left (List.getElem?_eq_some_iff.mp here).1, here]

theorem Steps.decides (steps : s.Steps action t) {place handle thread : Nat}
    (found : t.strands[place]? = some (.deciding handle thread)) :
    s.strands[place]? = some (.deciding handle thread) ∨
      ∃ unit outcome, s.store.handles[handle]? = some unit ∧ s.store.outcome unit = some outcome := by
  cases steps with
  | wait | judge =>
    rw [List.getElem?_append] at found
    split at found
    case isTrue => exact Or.inl found
    case isFalse => cases List.mem_singleton.mp (List.mem_of_getElem? found)
  | @step acting strand e here acts =>
    by_cases same : acting = place
    · subst same
      have mine : e.strand = .deciding handle thread := by
        have bound := (List.getElem?_eq_some_iff.mp here).1
        exact Option.some.inj ((List.getElem?_set_self bound).symm.trans found)
      cases acts with
      | proceed there finished =>
        cases mine
        exact Or.inr ⟨_, _, there, finished⟩
      | _ => cases mine
    · exact Or.inl ((List.getElem?_set_ne same).symm.trans found)
  | _ => exact Or.inl found

theorem Reachable.ready (reach : s.Reachable) : s.Ready := by
  refine reach.invariant Ready ?start ?step
  case start =>
    intro place handle thread found
    cases found
  case step =>
    intro s action t _ ready steps place handle thread found
    obtain ⟨deeds, -, tells⟩ := steps.tells ready
    obtain ⟨unit, outcome, here, finished⟩ := (steps.decides found).elim (ready place handle thread) id
    exact ⟨unit, outcome, steps.handle here, tells.grows finished⟩

theorem Reachable.tells (reach : s.Reachable) (steps : s.Steps action t) :
    ∃ deeds, t.history = s.history ++ deeds ∧ Tells s.store t.store deeds :=
  steps.tells reach.ready

theorem Reachable.recorded (reach : s.Reachable) (unit : Nat) :
    s.store.outcome unit = firstWrite s.history unit := by
  refine reach.invariant (fun s => ∀ unit, s.store.outcome unit = firstWrite s.history unit) ?start ?step unit
  case start =>
    intro unit
    rfl
  case step =>
    intro s action t reach ih steps unit
    obtain ⟨deeds, told, tells⟩ := reach.tells steps
    rw [tells.outcome, told, firstWrite_append, ih]

def outcomeAt (s : System) (k unit : Nat) : Option Outcome := firstWrite (s.history.take k) unit

theorem Reachable.agrees (reach : s.Reachable) {k : Nat} {deed : Deed} (told : s.history[k]? = some deed) :
    deed.Agrees (s.outcomeAt k deed.unit) := by
  refine reach.invariant (fun s => ∀ (k : Nat) deed, s.history[k]? = some deed →
    deed.Agrees (s.outcomeAt k deed.unit)) ?start ?step k deed told
  case start =>
    intro k deed told
    cases told
  case step =>
    intro s action t reach ih steps k deed told
    obtain ⟨deeds, history, tells⟩ := reach.tells steps
    unfold outcomeAt
    rw [history] at told ⊢
    rw [List.getElem?_append] at told
    split at told
    case isTrue before =>
      rw [List.take_append_of_le_length (Nat.le_of_lt before)]
      exact ih k deed told
    case isFalse after =>
      obtain ⟨last, agrees⟩ := tells.agrees told
      have now : k = s.history.length := by omega
      rw [now, List.take_left, ← reach.recorded]
      exact agrees

theorem Reachable.lasts (reach : s.Reachable) {unit : Nat} {outcome : Outcome}
    (finished : s.store.outcome unit = some outcome) {actions : List Action}
    (ran : s.run? actions = some t) : t.store.outcome unit = some outcome := by
  induction actions generalizing s with
  | nil =>
    cases Option.some.inj ran
    exact finished
  | cons action rest ih =>
    obtain ⟨middle, performed, ran⟩ := Option.bind_eq_some_iff.mp ran
    obtain ⟨deeds, -, tells⟩ := reach.tells (steps_of_perform performed)
    exact ih (.next action reach performed) (tells.grows finished) ran

theorem Steps.behind (steps : s.Steps action t) {deed : Deed} (told : deed ∈ t.history) :
    deed ∈ s.history ∨ ∀ handle, deed.handle? = some handle → t.store.handles[handle]? = some deed.unit := by
  cases steps with
  | create | clone | wait | judge | interrupt | spawn | panic | drop => exact Or.inl told
  | attempt here | ask here =>
    refine (List.mem_append.mp told).imp_right fun now handle through => ?_
    cases List.mem_singleton.mp now
    cases through
    exact here
  | accept =>
    refine (List.mem_append.mp told).imp_right fun now handle through => ?_
    cases List.mem_singleton.mp now
    cases through
    exact List.getElem?_concat_length
  | refuse | run | settle =>
    refine (List.mem_append.mp told).imp_right fun now handle through => ?_
    cases List.mem_singleton.mp now
    cases through
  | step found acts =>
    refine (List.mem_append.mp told).imp_right fun now handle through => ?_
    cases acts with
    | proceed => cases now
    | returned here | interrupted here | denied here | decided here | missed here =>
      cases List.mem_singleton.mp now
      cases through
      exact here

theorem Reachable.behind (reach : s.Reachable) {deed : Deed} (told : deed ∈ s.history) {handle : Nat}
    (through : deed.handle? = some handle) : s.store.handles[handle]? = some deed.unit := by
  refine reach.invariant (fun s => ∀ deed ∈ s.history, ∀ handle, deed.handle? = some handle →
    s.store.handles[handle]? = some deed.unit) ?start ?step deed told handle through
  case start =>
    intro deed told
    cases told
  case step =>
    intro s action t reach ih steps deed told handle through
    obtain before | now := steps.behind told
    · exact steps.handle (ih deed before handle through)
    · exact now handle through

theorem Steps.made (steps : s.Steps action t) {handle unit : Nat} {attempt : Attempt} {outcome : Outcome}
    {first : Bool} (told : .attempted handle unit attempt outcome first ∈ t.history) :
    .attempted handle unit attempt outcome first ∈ s.history ∨ attempt.Makes outcome := by
  cases steps with
  | create | clone | wait | judge | interrupt | spawn | panic | drop => exact Or.inl told
  | @attempt _ _ other _ next here tried =>
    refine (List.mem_append.mp told).imp_right fun now => ?_
    cases List.mem_singleton.mp now
    have makes := attempt.makes_outcome s.store.next
    rwa [tried] at makes
  | ask | accept | refuse | run | settle =>
    refine (List.mem_append.mp told).imp_right fun now => ?_
    cases List.mem_singleton.mp now
  | step found acts =>
    refine (List.mem_append.mp told).imp_right fun now => ?_
    cases acts with
    | proceed => cases now
    | _ => cases List.mem_singleton.mp now

theorem Reachable.made (reach : s.Reachable) {handle unit : Nat} {attempt : Attempt} {outcome : Outcome}
    {first : Bool} (told : .attempted handle unit attempt outcome first ∈ s.history) :
    attempt.Makes outcome := by
  refine reach.invariant (fun s => .attempted handle unit attempt outcome first ∈ s.history →
    attempt.Makes outcome) ?start ?step told
  case start =>
    intro told
    cases told
  case step =>
    intro s action t _ ih steps told
    exact (steps.made told).elim ih id

end System

end Settling

end TransferLifecycle
