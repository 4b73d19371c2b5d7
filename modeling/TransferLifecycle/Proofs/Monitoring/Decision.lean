import TransferLifecycle.Proofs.Monitoring.Gate
import TransferLifecycle.Proofs.Monitoring.Reporting

/-! A transfer that is done is done with one unit. Either that unit is the failing one, or nothing
has failed, the monitor is sealed and the unit is the last one and has succeeded. Whatever follows,
the transfer stays done and every handle that is handed out is that of this unit. -/
namespace TransferLifecycle.Monitoring

open UnitMonitor (Operation Question Answer Result Point Moves)

/-- Nothing is left to do or to report: the last unit of a sealed monitor has succeeded. -/
structure World.Resting (w : World) (unit : Handle) : Prop where
  unlatched : w.monitor.failed = none
  closed : w.monitor.isSealed = true
  current : w.monitor.current = unit
  success : w.Succeeding unit

def World.Settled (w : World) (unit : Handle) : Prop := w.Failing unit ∨ w.Resting unit

/-- How far an operation that found the last unit successful has come with it. -/
def Rests (unit : Handle) (op : Operation Handle) : Point Handle → Prop
  | .enter _ | .check _ | .latch _ | .judging _ | .act _ => True
  | .verdict _ hasFailed => hasFailed = false
  | .looking _ => op = .isDone
  | .settle _ isFinished => op = .isDone ∧ isFinished = true
  | .awaitGate | .install _ => False
  | .opening result | .leave result => Reports unit op result

def Stage.Rests (unit : Handle) : Stage → Prop
  | .calling _ op point | .asking _ op _ point => Monitoring.Rests unit op point
  | _ => True

theorem World.Resting.stable {w later : World} {unit : Handle} (resting : w.Resting unit)
    (grows : w.Grows later) (same : later.monitor = w.monitor) : later.Resting unit where
  unlatched := by rw [same, resting.unlatched]
  closed := by rw [same, resting.closed]
  current := by rw [same, resting.current]
  success := resting.success.grow grows

theorem World.Done.settled {w : World} (done : w.Done) : ∃ unit, w.Settled unit := by
  cases latched : w.monitor.failed with
  | some unit => exact ⟨unit, Or.inl (Or.inl latched)⟩
  | none =>
    obtain ⟨unit, failed⟩ | ⟨closed, finished⟩ := done
    · rw [latched] at failed
      cases failed
    · refine ⟨w.monitor.current, ?_⟩
      by_cases failed : w.Failed w.monitor.current
      · exact Or.inl (Or.inr ⟨latched, rfl, failed⟩)
      · exact Or.inr ⟨latched, closed, rfl, World.succeeding_of_finished finished failed⟩

private theorem Stage.rests_of_outside {stage : Stage} (unit : Handle) (formed : stage.Formed)
    (outside : stage.inside = false) : stage.Rests unit := by
  cases stage with
  | calling caller op point => cases point with
    | enter => trivial
    | _ => cases outside
  | asking caller op question point =>
    rw [Stage.inside, formed.inside_of_asking] at outside
    cases outside
  | _ => trivial

/-- A sealed monitor is not advanced, and a unit that has succeeded is not latched. -/
theorem rests_move {me : Nat} {w : World} {m : UnitMonitor Handle} {unit : Handle}
    {op : Operation Handle} {point : Point Handle}
    {next : Next (Point Handle) (Question Handle) (Result Handle)}
    (moves : Moves me w.monitor point m next) (belongs : Belongs op point)
    (known : Known w op point) (resting : w.Resting unit) (rests : Rests unit op point) :
    World.Resting { w with monitor := m } unit ∧
      ∀ after, (next = .goto after ∨ ∃ question, next = .ask question after) →
        Rests unit op after := by
  obtain ⟨unlatched, closed, current, success⟩ := resting
  cases moves with
  | latch => cases rests
  | install => cases rests
  | replace =>
    obtain ⟨rfl, -⟩ := belongs
    have opened := known _ rfl
    rw [closed] at opened
    cases opened
  | handGate =>
    obtain ⟨rfl, -⟩ := belongs
    cases rests.1
  | handCurrent =>
    obtain ⟨rfl, -⟩ := belongs
    cases rests.1
  | answer =>
    obtain ⟨rfl, rfl⟩ := rests
    refine ⟨⟨unlatched, closed, current, success⟩, ?_⟩
    rintro after (same | ⟨question, same⟩) <;> cases same
    rfl
  | _ =>
    refine ⟨⟨?_, ?_, ?_, success⟩, ?_⟩
    · simp_all
    · simp_all
    · simp_all
    · rintro after (same | ⟨question, same⟩) <;> cases same <;>
        simp_all [Rests, Reports, Belongs]

private theorem rests_resume {w : World} {unit : Handle} {op : Operation Handle} {point : Point Handle}
    {question : Question Handle} (asks : Asks question point)
    (about : ∀ h, (question = .isFailed h ∨ question = .isFinished h) → h = w.monitor.current)
    (resting : w.Resting unit) (rests : Rests unit op point) :
    Rests unit op (UnitMonitor.resume point (w.answer question).1) := by
  have success := resting.success
  rw [← resting.current] at success
  cases question with
  | isFailed h => cases point with
    | judging o =>
      obtain rfl := about h (Or.inl rfl)
      exact Bool.eq_false_iff.mpr success.not_failed
    | _ => cases asks
  | isFinished h => cases point with
    | looking o =>
      obtain rfl := about h (Or.inr rfl)
      exact ⟨rests, Option.isSome_of_eq_some success⟩
    | _ => cases asks
  | newGate => cases point with
    | awaitGate => cases rests
    | _ => cases asks
  | openGate h => cases point with
    | opening result => exact rests
    | _ => cases asks

variable {me thread : Nat} {w : World} {stage : Stage} {e : Effect} {unit : Handle}

private theorem Stage.Acts.rests (acts : stage.Acts me thread w e) (formed : stage.Formed)
    (known : stage.Known w) (resting : w.Resting unit) (rests : stage.Rests unit) :
    e.world.Resting unit ∧ e.stage.Rests unit := by
  cases acts with
  | goto moves =>
    obtain ⟨still, next⟩ := rests_move moves formed.2 known resting rests
    exact ⟨still, next _ (Or.inl rfl)⟩
  | ask moves =>
    obtain ⟨still, next⟩ := rests_move moves formed.2 known resting rests
    exact ⟨still, next _ (Or.inr ⟨_, rfl⟩)⟩
  | @leave caller op result =>
    obtain ⟨unlatched, closed, current, success⟩ := resting
    refine ⟨⟨unlatched, closed, current, success⟩, ?_⟩
    cases caller <;> cases result <;> trivial
  | answer =>
    refine ⟨resting.stable (World.grows_answer w _) (World.monitor_answer w _), ?_⟩
    exact rests_resume formed.2.2 known.2 resting rests
  | _ => exact ⟨resting.stable (World.Grows.of_eq rfl) rfl, trivial⟩

namespace System

/-- Whatever operation is under way or begins finds the last unit successful. -/
structure Rested (s : System) (unit : Handle) : Prop where
  resting : s.world.Resting unit
  rests : ∀ strand ∈ s.strands, strand.stage.Rests unit

/-- Which unit the transfer is done with can no longer change. -/
def Decided (s : System) (unit : Handle) : Prop := s.Alert unit ∨ s.Rested unit

variable {s t : System}

theorem Rested.begin {strand : Strand} (rested : s.Rested unit) (fresh : Fresh strand) :
    (s.begin strand).Rested unit where
  resting := rested.resting
  rests other member := by
    obtain old | same := List.mem_append.mp member
    · exact rested.rests other old
    · rw [List.mem_singleton.mp same]
      exact Stage.rests_of_outside _ fresh.formed fresh.outside

theorem Rested.change {world : World} (rested : s.Rested unit) (grows : s.world.Grows world)
    (same : world.monitor = s.world.monitor) : (s.change world).Rested unit where
  resting := rested.resting.stable grows same
  rests := rested.rests

private theorem Reachable.rested_effect (reach : s.Reachable) (rested : s.Rested unit) {place : Nat}
    {strand : Strand} (found : s.strands[place]? = some strand)
    (acts : strand.stage.Acts place strand.thread s.world e) :
    (s.effect place strand.thread e).Rested unit := by
  have member := List.mem_of_getElem? found
  obtain ⟨resting, own⟩ := acts.rests (reach.formed member) (reach.known member) rested.resting
    (rested.rests strand member)
  refine ⟨resting, ?_⟩
  exact reach.all_effect (fun _ stage => stage.Rests unit)
    (fun _ _ => Stage.rests_of_outside unit) (fun _ _ _ _ _ rests => rests) rested.rests found acts own

theorem Reachable.decided_next (reach : s.Reachable) (decided : s.Decided unit) {action : Action}
    (performed : s.perform? action = some t) : t.Decided unit := by
  obtain alert | rested := decided
  · exact Or.inl (reach.alert_next alert performed)
  refine Or.inr ?_
  cases action with
  | call thread op =>
    cases Option.some.inj performed
    exact rested.begin (Or.inr ⟨op, rfl⟩)
  | wait thread =>
    cases Option.some.inj performed
    exact rested.begin (Or.inl rfl)
  | step place =>
    obtain ⟨strand, e, found, acts, rfl⟩ := acts_of_perform performed
    exact reach.rested_effect rested found acts
  | finish id outcome =>
    cases Option.some.inj performed
    exact rested.change (World.grows_finish s.world (.unit id) outcome) rfl
  | interrupt thread =>
    cases Option.some.inj performed
    exact rested.change (World.Grows.of_eq rfl) rfl

theorem Decided.reports (decided : s.Decided unit) {strand : Strand} (member : strand ∈ s.strands)
    {caller : Caller} {op : Operation Handle} {result : Result Handle}
    (leaving : strand.stage = .calling caller op (.leave result)) : Reports unit op result := by
  obtain alert | rested := decided
  · have finds := alert.finds strand member
    rw [leaving] at finds
    exact finds
  · have rests := rested.rests strand member
    rw [leaving] at rests
    exact rests

theorem Reachable.finished_of_decided (reach : s.Reachable) (decided : s.Decided unit) :
    ∃ outcome, (s.world.completions unit).outcome = some outcome := by
  have failed_finished (failed : s.world.Failed unit) :
      ∃ outcome, (s.world.completions unit).outcome = some outcome := by
    cases ended : (s.world.completions unit).outcome with
    | some outcome => exact ⟨outcome, rfl⟩
    | none => simp [World.Failed, Completion.isFailed, ended] at failed
  obtain alert | rested := decided
  · obtain latched | ⟨-, -, failed⟩ := alert.failing
    · exact failed_finished (reach.latched latched).2
    · exact failed_finished failed
  · exact ⟨.success, rested.resting.success⟩

/-- At most one strand is in the middle of an operation, so only its own answer is to be looked at. -/
theorem Reachable.decided_of_settled (reach : s.Reachable) (settled : s.world.Settled unit)
    (own : ∀ strand ∈ s.strands, strand.stage.inside = true →
      ∃ caller op result, strand.stage = .calling caller op (.leave result) ∧
        Reports unit op result) : s.Decided unit := by
  obtain failing | resting := settled
  · refine Or.inl ⟨failing, ?_⟩
    intro strand member
    cases inside : strand.stage.inside with
    | false => exact Stage.finds_of_outside _ _ (reach.formed member) inside
    | true =>
      obtain ⟨caller, op, result, leaving, reports⟩ := own strand member inside
      rw [leaving]
      exact reports
  · refine Or.inr ⟨resting, ?_⟩
    intro strand member
    cases inside : strand.stage.inside with
    | false => exact Stage.rests_of_outside _ (reach.formed member) inside
    | true =>
      obtain ⟨caller, op, result, leaving, reports⟩ := own strand member inside
      rw [leaving]
      exact reports

theorem Reachable.inside_unique (reach : s.Reachable) {place other : Nat} {strand second : Strand}
    (found : s.strands[place]? = some strand) (inside : strand.stage.inside = true)
    (also_found : s.strands[other]? = some second) (also_inside : second.stage.inside = true) :
    place = other := by
  have held := (reach.exclusive place).mpr ⟨strand, found, inside⟩
  have also_held := (reach.exclusive other).mpr ⟨second, also_found, also_inside⟩
  exact Option.some.inj (held.symm.trans also_held)

/-- The transfer is done: a thread is just being told so, or it would be told so if it asked now and
were left alone. -/
inductive FoundDone (s : System) : Prop where
  | answering {strand : Strand} {caller : Caller} (member : strand ∈ s.strands)
      (leaving : strand.stage = .calling caller .isDone (.leave (.truth true)))
  | asked {thread count : Nat} {t : System}
      (ran : s.run? (.call thread .isDone :: steps s.strands.length count) = some t)
      (told : t.strands[s.strands.length]? = some ⟨thread, .answered (.truth true)⟩)

end System

def Stage.Inquires (w : World) : Stage → Prop
  | .calling .itself .isDone _ | .asking .itself .isDone _ _ => True
  | .answered (.truth true) => w.Done
  | .answered (.truth false) => True
  | _ => False

private theorem unmoved_of_isDone {me : Nat} {m m' : UnitMonitor Handle} {point : Point Handle}
    {next : Next (Point Handle) (Question Handle) (Result Handle)} (moves : Moves me m point m' next)
    (belongs : Belongs .isDone point) : m'.current = m.current ∧ m'.isSealed = m.isSealed := by
  cases moves with
  | replace => cases belongs.1
  | _ => first | exact ⟨rfl, rfl⟩ | cases belongs

theorem Stage.Acts.inquires (acts : stage.Acts me thread w e) (formed : stage.Formed)
    (known : stage.Known w) (inquires : stage.Inquires w) :
    e.stage.Inquires e.world ∧ e.world.completions = w.completions ∧
      e.world.monitor.current = w.monitor.current ∧
      e.world.monitor.isSealed = w.monitor.isSealed := by
  have lasts := acts.lasts formed known
  cases acts with
  | @goto caller op point m next moves =>
    cases caller with
    | wait => cases inquires
    | itself => cases op with
      | isDone =>
        exact ⟨trivial, rfl, unmoved_of_isDone moves formed.2⟩
      | _ => cases inquires
  | @ask caller op point m question next moves =>
    cases caller with
    | wait => cases inquires
    | itself => cases op with
      | isDone =>
        exact ⟨trivial, rfl, unmoved_of_isDone moves formed.2⟩
      | _ => cases inquires
  | @leave caller op result =>
    cases caller with
    | wait => cases inquires
    | itself => cases op with
      | isDone =>
        refine ⟨?_, rfl, rfl, rfl⟩
        cases result with
        | truth b => cases b with
          | true => exact lasts.done known
          | false => trivial
        | _ => cases formed.2
      | _ => cases inquires
  | @answer caller op question point =>
    obtain ⟨-, belongs, asks⟩ := formed
    cases caller with
    | wait => cases inquires
    | itself => cases op with
      | isDone =>
        refine ⟨trivial, ?_⟩
        cases question with
        | isFailed | isFinished => exact ⟨rfl, rfl, rfl⟩
        | newGate => cases point with
          | awaitGate =>
            obtain ⟨unit, same⟩ := belongs
            cases same
          | _ => cases asks
        | openGate => cases point with
          | opening => exact (belongs.2.1 rfl).elim
          | _ => cases asks
      | _ => cases inquires
  | _ => cases inquires

/-- What a question finds out was so before it. -/
theorem Stage.Acts.settled_before (acts : stage.Acts me thread w e) (formed : stage.Formed)
    (known : stage.Known w) (inquires : stage.Inquires w) (settled : e.world.Settled unit) :
    w.Settled unit := by
  obtain ⟨-, kept, current, closed⟩ := acts.inquires formed known inquires
  have lasts := acts.lasts formed known
  have unlatched (unfailed : e.world.monitor.failed = none) : w.monitor.failed = none := by
    cases latched : w.monitor.failed with
    | none => rfl
    | some other =>
      rw [lasts.failed other latched] at unfailed
      cases unfailed
  obtain (latched | ⟨none, same, failed⟩) | ⟨none, sealed, same, success⟩ := settled
  · refine Or.inl ?_
    obtain before | ⟨-, same, failed⟩ := acts.latches known latched
    · exact Or.inl before
    · cases earlier : w.monitor.failed with
      | none => exact Or.inr ⟨earlier, same.symm, failed⟩
      | some other =>
        have both := (lasts.failed other earlier).symm.trans latched
        rw [Option.some.inj both] at earlier
        exact Or.inl earlier
  · rw [current] at same
    rw [World.Failed, kept] at failed
    exact Or.inl (Or.inr ⟨unlatched none, same, failed⟩)
  · rw [current] at same
    rw [closed] at sealed
    rw [World.Succeeding, kept] at success
    exact Or.inr ⟨unlatched none, sealed, same, success⟩

namespace System

variable {s t : System}

/-- A question that is answered with yes was put in a state that deserved it. -/
theorem Reachable.settled_of_asked (reach : s.Reachable) {place count : Nat} {strand : Strand}
    (found : s.strands[place]? = some strand) (inquires : strand.stage.Inquires s.world)
    (ran : s.run? (steps place count) = some t)
    (told : t.strands[place]? = some ⟨strand.thread, .answered (.truth true)⟩) :
    ∃ unit, s.world.Settled unit := by
  induction count generalizing s strand with
  | zero =>
    cases Option.some.inj ran
    rw [Option.some.inj (found.symm.trans told)] at inquires
    exact World.Done.settled inquires
  | succ count ih =>
    obtain ⟨middle, performed, ran⟩ := Option.bind_eq_some_iff.mp ran
    have reached := reach.next (.step place) performed
    obtain ⟨acting, e, here, acts, rfl⟩ := acts_of_perform performed
    cases Option.some.inj (found.symm.trans here)
    have member := List.mem_of_getElem? found
    have formed := reach.formed member
    have known := reach.known member
    have now : (s.effect place strand.thread e).strands[place]? = some ⟨strand.thread, e.stage⟩ :=
      List.getElem?_set_self (List.getElem?_eq_some_iff.mp found).1
    obtain ⟨still, -⟩ := acts.inquires formed known inquires
    obtain ⟨unit, settled⟩ := ih reached now still ran told
    exact ⟨unit, acts.settled_before formed known inquires settled⟩

private theorem strand_begin (s : System) (strand : Strand) :
    (s.begin strand).strands[s.strands.length]? = some strand := by
  simp [begin]

/-- A question can be put only between two operations. -/
theorem free_of_asked {thread count : Nat}
    (ran : s.run? (.call thread .isDone :: steps s.strands.length count) = some t)
    (told : t.strands[s.strands.length]? = some ⟨thread, .answered (.truth true)⟩) :
    s.world.monitor.holder = none := by
  obtain ⟨begun, performed, ran⟩ := Option.bind_eq_some_iff.mp ran
  cases Option.some.inj performed
  have found := strand_begin s ⟨thread, .calling .itself .isDone (.enter .isDone)⟩
  cases count with
  | zero =>
    cases Option.some.inj ran
    cases Option.some.inj (found.symm.trans told)
  | succ count =>
    obtain ⟨middle, performed, -⟩ := Option.bind_eq_some_iff.mp ran
    obtain ⟨acting, e, here, acts, -⟩ := acts_of_perform performed
    cases Option.some.inj (found.symm.trans here)
    cases acts with
    | goto moves => cases moves with
      | enter free => exact free
    | ask moves => cases moves

theorem Reachable.decided (reach : s.Reachable) (done : s.FoundDone) : ∃ unit, s.Decided unit := by
  cases done with
  | @answering strand caller member leaving =>
    have known := reach.known member
    rw [leaving] at known
    obtain ⟨unit, settled⟩ := World.Done.settled known
    refine ⟨unit, reach.decided_of_settled settled ?_⟩
    intro other present inside
    obtain ⟨place, found⟩ := List.mem_iff_getElem?.mp member
    obtain ⟨elsewhere, also_found⟩ := List.mem_iff_getElem?.mp present
    have within : strand.stage.inside = true := by
      rw [leaving]
      rfl
    obtain rfl := reach.inside_unique found within also_found inside
    obtain rfl := Option.some.inj (found.symm.trans also_found)
    exact ⟨caller, .isDone, .truth true, leaving, rfl⟩
  | @asked thread count t ran told =>
    have free := free_of_asked ran told
    obtain ⟨begun, performed, ran⟩ := Option.bind_eq_some_iff.mp ran
    have reached := reach.next _ performed
    cases Option.some.inj performed
    have found := strand_begin s ⟨thread, .calling .itself .isDone (.enter .isDone)⟩
    obtain ⟨unit, settled⟩ := reached.settled_of_asked found trivial ran told
    refine ⟨unit, reach.decided_of_settled settled ?_⟩
    intro strand member inside
    obtain ⟨place, found⟩ := List.mem_iff_getElem?.mp member
    have held := (reach.exclusive place).mpr ⟨strand, found, inside⟩
    rw [free] at held
    cases held

end System

end TransferLifecycle.Monitoring
