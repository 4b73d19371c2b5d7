import TransferLifecycle.Proofs.Monitoring.Knowledge

/-! What becomes of a failure. A unit that has failed while it is current is reported by every
later operation, whatever the monitor is advanced to meanwhile. A unit that fails only after it has
been replaced is looked at by nobody, and its failure is never reported. -/
namespace TransferLifecycle.Monitoring

open UnitMonitor (Operation Question Answer Result Point Moves)

/-- The next operation that looks for a failure finds this one: it is latched, or nothing is and the
current unit has failed. -/
def World.Failing (w : World) (unit : Handle) : Prop :=
  w.monitor.failed = some unit ∨
    w.monitor.failed = none ∧ w.monitor.current = unit ∧ w.Failed unit

def Reports (unit : Handle) : Operation Handle → Result Handle → Prop
  | .isDone, result => result = .truth true
  | .currentHandle, result => result = .handle unit
  | .advance _, _ | .seal, _ => True

def Finds (w : World) (unit : Handle) (op : Operation Handle) : Point Handle → Prop
  | .enter _ | .check _ | .latch _ | .judging _ => True
  | .verdict _ hasFailed => hasFailed = true
  | .act _ | .awaitGate | .install _ => w.monitor.failed = some unit
  | .looking _ | .settle _ _ => False
  | .opening result | .leave result => Reports unit op result

def Stage.Finds (w : World) (unit : Handle) : Stage → Prop
  | .calling _ op point | .asking _ op _ point => Monitoring.Finds w unit op point
  | _ => True

theorem World.Failing.unique {w : World} {one other : Handle} (first : w.Failing one)
    (second : w.Failing other) : one = other := by
  obtain latched | ⟨none, current, -⟩ := first
  · obtain same | ⟨none, -, -⟩ := second
    · exact Option.some.inj (latched.symm.trans same)
    · rw [latched] at none
      cases none
  · obtain latched | ⟨-, same, -⟩ := second
    · rw [latched] at none
      cases none
    · exact current.symm.trans same

theorem World.Failing.stable {w later : World} {unit : Handle} (failing : w.Failing unit)
    (grows : w.Grows later) (same : later.monitor = w.monitor) : later.Failing unit := by
  unfold World.Failing
  rw [same]
  obtain latched | ⟨none, current, failed⟩ := failing
  · exact Or.inl latched
  · exact Or.inr ⟨none, current, grows.failed failed⟩

private theorem finds_eq {w later : World} (same : later.monitor = w.monitor) (unit : Handle)
    (op : Operation Handle) (point : Point Handle) :
    Finds later unit op point = Finds w unit op point := by
  cases point <;> simp only [Finds, same]

private theorem Stage.finds_eq {w later : World} (same : later.monitor = w.monitor) (unit : Handle)
    (stage : Stage) : stage.Finds later unit = stage.Finds w unit := by
  cases stage with
  | calling caller op point => exact Monitoring.finds_eq same unit op point
  | asking caller op question point => exact Monitoring.finds_eq same unit op point
  | _ => rfl

theorem Stage.finds_of_outside {stage : Stage} (w : World) (unit : Handle) (formed : stage.Formed)
    (outside : stage.inside = false) : stage.Finds w unit := by
  cases stage with
  | calling caller op point => cases point with
    | enter => trivial
    | _ => cases outside
  | asking caller op question point =>
    rw [Stage.inside, formed.inside_of_asking] at outside
    cases outside
  | _ => trivial

/-- Only a replacement of the current unit could hide the failure, and by then it is latched. -/
theorem finds_move {me : Nat} {w : World} {m : UnitMonitor Handle} {unit : Handle}
    {op : Operation Handle} {point : Point Handle}
    {next : Next (Point Handle) (Question Handle) (Result Handle)}
    (moves : Moves me w.monitor point m next) (belongs : Belongs op point)
    (known : Known w op point) (failing : w.Failing unit) (finds : Finds w unit op point) :
    World.Failing { w with monitor := m } unit ∧
      ∀ after, (next = .goto after ∨ ∃ question, next = .ask question after) →
        Finds { w with monitor := m } unit op after := by
  cases moves with
  | latch =>
    obtain ⟨-, none, -⟩ := known
    obtain latched | ⟨-, rfl, failed⟩ := failing
    · rw [none] at latched
      cases latched
    · refine ⟨Or.inl rfl, ?_⟩
      rintro after (same | ⟨question, same⟩) <;> cases same
      rfl
  | pass => cases finds
  | latched found =>
    obtain latched | ⟨none, -, -⟩ := failing
    · refine ⟨Or.inl latched, ?_⟩
      rintro after (same | ⟨question, same⟩) <;> cases same
      exact latched
    · rw [found] at none
      cases none
  | install =>
    obtain ⟨next, rfl⟩ := belongs
    refine ⟨Or.inl finds, ?_⟩
    rintro after (same | ⟨question, same⟩) <;> cases same
    trivial
  | _ =>
    refine ⟨?_, ?_⟩
    · simp_all [World.Failing, World.Failed, Finds]
    · rintro after (same | ⟨question, same⟩) <;> cases same <;>
        simp_all [Finds, Reports, Belongs]

private theorem finds_resume {w : World} {unit : Handle} {op : Operation Handle} {point : Point Handle}
    {question : Question Handle} (asks : Asks question point) (known : Known w op point)
    (about : ∀ h, (question = .isFailed h ∨ question = .isFinished h) → h = w.monitor.current)
    (failing : w.Failing unit) (finds : Finds w unit op point) :
    Finds (w.answer question).2 unit op (UnitMonitor.resume point (w.answer question).1) := by
  cases question with
  | isFailed h => cases point with
    | judging o =>
      obtain rfl := about h (Or.inl rfl)
      obtain latched | ⟨-, rfl, failed⟩ := failing
      · rw [known.2] at latched
        cases latched
      · exact failed
    | _ => cases asks
  | isFinished h => cases point with
    | looking o => cases finds
    | _ => cases asks
  | newGate => cases point with
    | awaitGate => exact finds
    | _ => cases asks
  | openGate h => cases point with
    | opening result => exact finds
    | _ => cases asks

variable {me thread : Nat} {w : World} {stage : Stage} {e : Effect} {unit : Handle}

theorem Stage.Acts.finds (acts : stage.Acts me thread w e) (formed : stage.Formed)
    (known : stage.Known w) (failing : w.Failing unit) (finds : stage.Finds w unit) :
    e.world.Failing unit ∧ e.stage.Finds e.world unit := by
  cases acts with
  | goto moves =>
    obtain ⟨still, next⟩ := finds_move moves formed.2 known failing finds
    exact ⟨still, next _ (Or.inl rfl)⟩
  | ask moves =>
    obtain ⟨still, next⟩ := finds_move moves formed.2 known failing finds
    exact ⟨still, next _ (Or.inr ⟨_, rfl⟩)⟩
  | @leave caller op result =>
    refine ⟨failing, ?_⟩
    cases caller <;> cases result <;> trivial
  | answer =>
    refine ⟨failing.stable (World.grows_answer w _) (World.monitor_answer w _), ?_⟩
    exact finds_resume formed.2.2 known.1 known.2 failing finds
  | _ => exact ⟨failing, trivial⟩

namespace System

structure Alert (s : System) (unit : Handle) : Prop where
  failing : s.world.Failing unit
  finds : ∀ strand ∈ s.strands, strand.stage.Finds s.world unit

variable {s t : System}

theorem Alert.change {world : World} (alert : s.Alert unit) (grows : s.world.Grows world)
    (same : world.monitor = s.world.monitor) : (s.change world).Alert unit where
  failing := alert.failing.stable grows same
  finds strand member := by
    rw [System.change, Stage.finds_eq same]
    exact alert.finds strand member

theorem Alert.begin {strand : Strand} (alert : s.Alert unit) (fresh : Fresh strand) :
    (s.begin strand).Alert unit where
  failing := alert.failing
  finds other member := by
    obtain old | same := List.mem_append.mp member
    · exact alert.finds other old
    · rw [List.mem_singleton.mp same]
      exact Stage.finds_of_outside _ _ fresh.formed fresh.outside

private theorem Reachable.alert_effect (reach : s.Reachable) (alert : s.Alert unit) {place : Nat}
    {strand : Strand} (found : s.strands[place]? = some strand)
    (acts : strand.stage.Acts place strand.thread s.world e) :
    (s.effect place strand.thread e).Alert unit := by
  have member := List.mem_of_getElem? found
  have formed := reach.formed member
  obtain ⟨failing, own⟩ :=
    acts.finds formed (reach.known member) alert.failing (alert.finds strand member)
  refine ⟨failing, ?_⟩
  refine reach.all_effect (fun w stage => stage.Finds w unit)
    (fun w _ => Stage.finds_of_outside w unit) ?_ alert.finds found acts own
  intro w later stage kept same finds
  rwa [Stage.finds_eq same]

theorem Reachable.alert_next (reach : s.Reachable) (alert : s.Alert unit) {action : Action}
    (performed : s.perform? action = some t) : t.Alert unit := by
  cases action with
  | call thread op =>
    cases Option.some.inj performed
    exact alert.begin (Or.inr ⟨op, rfl⟩)
  | wait thread =>
    cases Option.some.inj performed
    exact alert.begin (Or.inl rfl)
  | step place =>
    obtain ⟨strand, e, found, acts, rfl⟩ := acts_of_perform performed
    exact reach.alert_effect alert found acts
  | finish id outcome =>
    cases Option.some.inj performed
    exact alert.change (World.grows_finish s.world (.unit id) outcome) rfl
  | interrupt thread =>
    cases Option.some.inj performed
    exact alert.change (World.Grows.of_eq rfl) rfl

theorem Reachable.alert_run (reach : s.Reachable) (alert : s.Alert unit) {actions : List Action}
    (ran : s.run? actions = some t) : t.Alert unit := by
  induction actions generalizing s with
  | nil =>
    cases Option.some.inj ran
    exact alert
  | cons action rest ih =>
    obtain ⟨middle, performed, ran⟩ := Option.bind_eq_some_iff.mp ran
    have next := reach.alert_next alert performed
    exact ih (.next action reach performed) next ran

private theorem Reachable.alert_of_free (reach : s.Reachable) (free : s.world.monitor.holder = none)
    (failing : s.world.Failing unit) : s.Alert unit where
  failing := failing
  finds strand member := by
    obtain ⟨place, found⟩ := List.mem_iff_getElem?.mp member
    have outside : strand.stage.inside = false := by
      refine Bool.eq_false_iff.mpr fun inside => ?_
      have held := (reach.exclusive place).mpr ⟨strand, found, inside⟩
      rw [free] at held
      cases held
    exact Stage.finds_of_outside _ _ (reach.formed member) outside

/-- Once the current unit has failed while no operation was under way and no failure was latched,
it is the failing unit for ever: every answer to whether the transfer is done is yes, and every
handle that is handed out is its own. -/
theorem Reachable.reported (reach : s.Reachable) (free : s.world.monitor.holder = none)
    (failing : s.world.Failing unit) {actions : List Action} (ran : s.run? actions = some t) :
    t.world.Failing unit ∧ (∀ other, t.world.Failing other → other = unit) ∧
    ∀ strand ∈ t.strands, ∀ caller op result,
      strand.stage = .calling caller op (.leave result) → Reports unit op result := by
  have alert := reach.alert_run (reach.alert_of_free free failing) ran
  refine ⟨alert.failing, ?_, ?_⟩
  · intro other second
    exact second.unique alert.failing
  · intro strand member caller op result leaving
    have finds := alert.finds strand member
    rw [leaving] at finds
    exact finds

/-- The first unit fails, and before anybody has looked the monitor is advanced to a second one,
which fails as well, and sealed; then it is asked for the current handle. -/
def succeeding : List Action :=
  [.call 0 (.advance (.unit 1))] ++ steps 0 10 ++ [.finish 1 .cancellation, .call 0 .seal] ++
    steps 1 4 ++ [.call 0 .currentHandle] ++ steps 2 4

theorem reported_succeeding : ∃ s t, run? (new (fun _ => {}) 0) [.finish 0 .cancellation] = some s ∧
    s.world.monitor.holder = none ∧ s.world.Failing (.unit 0) ∧ s.run? succeeding = some t ∧
    t.world.Failed (.unit 1) ∧
    t.strands[2]? = some ⟨0, .calling .itself .currentHandle (.leave (.handle (.unit 0)))⟩ ∧
    (t.world.Failing (.unit 0) ∧ (∀ other, t.world.Failing other → other = .unit 0) ∧
      ∀ strand ∈ t.strands, ∀ caller op result,
        strand.stage = .calling caller op (.leave result) → Reports (.unit 0) op result) := by
  have ran : ∃ s t, run? (new (fun _ => {}) 0) [.finish 0 .cancellation] = some s ∧
      s.world.monitor.holder = none ∧
      (s.world.monitor.failed = none ∧ s.world.monitor.current = .unit 0 ∧
        s.world.Failed (.unit 0)) ∧
      s.run? succeeding = some t ∧ t.world.Failed (.unit 1) ∧
      t.strands[2]? = some ⟨0, .calling .itself .currentHandle (.leave (.handle (.unit 0)))⟩ :=
    ⟨_, _, rfl, rfl, ⟨rfl, rfl, rfl⟩, rfl, rfl, rfl⟩
  obtain ⟨s, t, begun, free, first, ran, second, found⟩ := ran
  have failing : s.world.Failing (.unit 0) := Or.inr first
  refine ⟨s, t, begun, free, failing, ran, second, found, ?_⟩
  exact Reachable.reported (.run (.start _ 0) _ begun) free failing ran

/-- The monitor is advanced to a second unit; then the first one fails, and the monitor is asked
whether the transfer is done. -/
def overtaking : List Action :=
  [.call 0 (.advance (.unit 1))] ++ steps 0 10 ++ [.finish 0 .cancellation]

theorem not_reported_overtaking : ¬ ∀ s t : System, s.Reachable → s.world.monitor.holder = none →
    (∃ unit, .current unit ∈ s.deeds ∧ s.world.Failed unit) →
    ∀ actions, s.run? actions = some t → ∀ strand ∈ t.strands, ∀ caller result,
      strand.stage = .calling caller .isDone (.leave result) → result = .truth true := by
  intro claim
  have ran : ∃ s t, run? (new (fun _ => {}) 0) overtaking = some s ∧
      s.world.monitor.holder = none ∧ s.deeds = [.current (.unit 0), .current (.unit 1)] ∧
      s.world.Failed (.unit 0) ∧ s.run? (.call 1 .isDone :: steps 1 6) = some t ∧
      t.strands[1]? = some ⟨1, .calling .itself .isDone (.leave (.truth false))⟩ :=
    ⟨_, _, rfl, rfl, rfl, rfl, rfl, rfl⟩
  obtain ⟨s, t, ran, free, deeds, failed, asked, found⟩ := ran
  have told : .current (.unit 0) ∈ s.deeds := by
    rw [deeds]
    exact List.mem_cons_self
  have answered := claim s t (.run (.start _ 0) overtaking ran) free ⟨_, told, failed⟩ _ asked _
    (List.mem_of_getElem? found) .itself (.truth false) rfl
  cases answered

end System

end TransferLifecycle.Monitoring
