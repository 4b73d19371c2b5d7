import TransferLifecycle.Proofs.Monitoring.Knowledge

/-! What stands behind a gate. The current unit is asked whether it has failed and then whether it
has finished; a unit that fails between its two answers has finished and was not seen to fail, and
the gate is handed out in its place. If no unit fails just then, a gate stands for a success. -/
namespace TransferLifecycle.Monitoring

open UnitMonitor (Operation Question Answer Result Point Moves)

def World.Succeeding (w : World) (h : Handle) : Prop := (w.completions h).outcome = some .success

/-- The handle is that of the failed unit or of the current one, or the gate after a success. -/
def World.Hands (w : World) (h : Handle) : Prop :=
  w.monitor.failed = some h ∨ w.monitor.failed = none ∧
    (h = w.monitor.current ∨
      w.monitor.isSealed = false ∧ h = w.monitor.gate ∧ w.Succeeding w.monitor.current)

/-- The current unit has said that it has not failed, and has not said yet whether it has finished. -/
def World.Poised (w : World) : Point Handle → Prop
  | .verdict .currentHandle false | .act .currentHandle | .looking .currentHandle =>
    w.monitor.failed = none
  | _ => False

def World.Prepares (w : World) : Point Handle → Prop
  | .looking .currentHandle => w.monitor.failed = none ∧ w.monitor.isSealed = false
  | .settle .currentHandle isFinished =>
    w.monitor.failed = none ∧ w.monitor.isSealed = false ∧
      (isFinished = true → w.Succeeding w.monitor.current)
  | .leave (.handle h) => w.Hands h
  | _ => True

structure World.Trusts (w : World) (point : Point Handle) : Prop where
  poised : w.Poised point → ¬ w.Failed w.monitor.current
  prepares : w.Prepares point

def Stage.Poised (w : World) : Stage → Prop
  | .calling _ _ point | .asking _ _ _ point => w.Poised point
  | _ => False

def Stage.Trusts (w : World) : Stage → Prop
  | .calling _ _ point | .asking _ _ _ point => w.Trusts point
  | _ => True

theorem World.Succeeding.not_failed {w : World} {h : Handle} (success : w.Succeeding h) :
    ¬ w.Failed h := by
  rw [World.Failed, Completion.isFailed, success]
  exact Bool.false_ne_true

theorem World.succeeding_of_finished {w : World} {h : Handle} (finished : w.Finished h)
    (unfailed : ¬ w.Failed h) : w.Succeeding h := by
  obtain ⟨outcome, some⟩ := Option.isSome_iff_exists.mp finished
  cases outcome with
  | success => exact some
  | failure f =>
    refine absurd ?_ unfailed
    rw [World.Failed, Completion.isFailed, some]
  | cancellation =>
    refine absurd ?_ unfailed
    rw [World.Failed, Completion.isFailed, some]

private theorem trusts_goto {me : Nat} {w : World} {m : UnitMonitor Handle} {op : Operation Handle}
    {point next : Point Handle} (moves : Moves me w.monitor point m (.goto next))
    (known : Known w op point) (trusts : w.Trusts point) :
    World.Trusts { w with monitor := m } next := by
  obtain ⟨poised, prepares⟩ := trusts
  cases moves with
  | @pass o =>
    cases o with
    | currentHandle => exact ⟨fun _ => poised known.2.1, trivial⟩
    | _ => exact ⟨nofun, trivial⟩
  | @latched o unit failed =>
    refine ⟨?_, trivial⟩
    intro unlatched
    cases o with
    | currentHandle =>
      rw [World.Poised, failed] at unlatched
      cases unlatched
    | _ => cases unlatched
  | @latch o =>
    cases o with
    | currentHandle => exact ⟨nofun, trivial⟩
    | _ => exact ⟨nofun, trivial⟩
  | handFailed failed => exact ⟨nofun, Or.inl failed⟩
  | handLast none => exact ⟨nofun, Or.inr ⟨none, Or.inl rfl⟩⟩
  | handGate =>
    obtain ⟨none, opened, success⟩ := prepares
    exact ⟨nofun, Or.inr ⟨none, Or.inr ⟨opened, rfl, success rfl⟩⟩⟩
  | handCurrent => exact ⟨nofun, Or.inr ⟨prepares.1, Or.inl rfl⟩⟩
  | _ => exact ⟨nofun, trivial⟩

private theorem trusts_ask {me : Nat} {w : World} {m : UnitMonitor Handle} {point next : Point Handle}
    {question : Question Handle} (moves : Moves me w.monitor point m (.ask question next))
    (trusts : w.Trusts point) : World.Trusts { w with monitor := m } next := by
  cases moves with
  | lookAtCurrent none opened => exact ⟨fun _ => trusts.poised none, none, opened⟩
  | _ => exact ⟨nofun, trivial⟩

private theorem trusts_resume {w : World} {op : Operation Handle} {point : Point Handle}
    {question : Question Handle} (asks : Asks question point) (belongs : Belongs op point)
    (about : ∀ h, (question = .isFailed h ∨ question = .isFinished h) → h = w.monitor.current)
    (trusts : w.Trusts point) :
    (w.answer question).2.Trusts (UnitMonitor.resume point (w.answer question).1) := by
  cases question with
  | isFailed h => cases point with
    | judging o =>
      obtain rfl := about h (Or.inl rfl)
      refine ⟨?_, trivial⟩
      intro poised failed
      change w.Poised (.verdict o (w.completions w.monitor.current).isFailed) at poised
      rw [show (w.completions w.monitor.current).isFailed = true from failed] at poised
      cases o <;> cases poised
    | _ => cases asks
  | isFinished h => cases point with
    | looking o =>
      obtain rfl := about h (Or.inr rfl)
      refine ⟨False.elim, ?_⟩
      cases o with
      | currentHandle =>
        obtain ⟨none, opened⟩ := trusts.prepares
        refine ⟨none, opened, ?_⟩
        intro finished
        exact World.succeeding_of_finished finished (trusts.poised none)
      | _ => trivial
    | _ => cases asks
  | newGate => cases point with
    | awaitGate => exact ⟨False.elim, trivial⟩
    | _ => cases asks
  | openGate h => cases point with
    | opening result => cases result with
      | handle h => cases op <;> simp [Belongs, Gives] at belongs
      | _ => exact ⟨False.elim, trivial⟩
    | _ => cases asks

theorem World.Trusts.of_eq {w later : World} {point : Point Handle} (trusts : w.Trusts point)
    (kept : later.completions = w.completions) (same : later.monitor = w.monitor) :
    later.Trusts point := by
  obtain ⟨monitor, completions, gates, tokens, next⟩ := later
  cases kept
  cases same
  exact ⟨trusts.poised, trusts.prepares⟩

theorem Stage.Trusts.of_eq {w later : World} {stage : Stage} (trusts : stage.Trusts w)
    (kept : later.completions = w.completions) (same : later.monitor = w.monitor) :
    stage.Trusts later := by
  cases stage with
  | calling caller op point => exact World.Trusts.of_eq trusts kept same
  | asking caller op question point => exact World.Trusts.of_eq trusts kept same
  | _ => trivial

theorem World.Succeeding.grow {w later : World} {h : Handle} (success : w.Succeeding h)
    (grows : w.Grows later) : later.Succeeding h :=
  grows h .success success

/-- A unit that ends at another moment does not take a waiting question by surprise. -/
theorem World.Trusts.finish {w : World} {point : Point Handle} (trusts : w.Trusts point) (id : Nat)
    (outcome : Outcome)
    (timely : w.Poised point → outcome ≠ .success → w.monitor.current = .unit id →
      (w.completions (.unit id)).outcome ≠ none) :
    (w.finish (.unit id) outcome).Trusts point := by
  have grows := World.grows_finish w (.unit id) outcome
  refine ⟨?_, ?_⟩
  · intro poised failed
    have unfailed := trusts.poised poised
    by_cases current : w.monitor.current = .unit id
    · cases before : (w.completions (.unit id)).outcome with
      | some ended =>
        refine unfailed ?_
        rw [monitor_finish] at failed
        simpa [Failed, World.finish, current, Completion.finish, before] using failed
      | none =>
        by_cases success : outcome = .success
        · have done : (w.finish (.unit id) outcome).Succeeding w.monitor.current := by
            simp [Succeeding, World.finish, current, Completion.finish, before, success]
          exact done.not_failed failed
        · exact timely poised success current before
    · refine unfailed ?_
      rw [monitor_finish] at failed
      simpa [Failed, World.finish, current] using failed
  · cases point with
    | looking op => cases op <;> exact trusts.prepares
    | settle op isFinished => cases op with
      | currentHandle =>
        obtain ⟨none, opened, success⟩ := trusts.prepares
        exact ⟨none, opened, fun finished => (success finished).grow grows⟩
      | _ => trivial
    | leave result => cases result with
      | handle h =>
        obtain failed | ⟨none, current | ⟨opened, gate, success⟩⟩ := trusts.prepares
        · exact Or.inl failed
        · exact Or.inr ⟨none, Or.inl current⟩
        · exact Or.inr ⟨none, Or.inr ⟨opened, gate, success.grow grows⟩⟩
      | _ => trivial
    | _ => trivial

private theorem Stage.trusts_of_outside {stage : Stage} (w : World) (formed : stage.Formed)
    (outside : stage.inside = false) : stage.Trusts w := by
  cases stage with
  | calling caller op point => cases point with
    | enter => exact ⟨nofun, trivial⟩
    | _ => cases outside
  | asking caller op question point =>
    rw [Stage.inside, formed.inside_of_asking] at outside
    cases outside
  | _ => trivial

private theorem Stage.Acts.trusts {me thread : Nat} {w : World} {stage : Stage} {e : Effect}
    (acts : stage.Acts me thread w e) (formed : stage.Formed) (known : stage.Known w)
    (trusts : stage.Trusts w) : e.stage.Trusts e.world := by
  cases acts with
  | goto moves => exact trusts_goto moves known trusts
  | ask moves => exact trusts_ask moves trusts
  | @leave caller op result => cases caller <;> cases result <;> trivial
  | answer => exact trusts_resume formed.2.2 formed.2.1 known.2 trusts
  | fetch | inquire => exact ⟨nofun, trivial⟩
  | _ => trivial

namespace System

/-- The action lets the current unit fail just between its two answers. -/
def Untimely (s : System) (action : Action) : Prop :=
  ∃ id outcome, action = .finish id outcome ∧ outcome ≠ .success ∧
    s.world.monitor.current = .unit id ∧ (s.world.completions (.unit id)).outcome = none ∧
    ∃ strand ∈ s.strands, strand.stage.Poised s.world

/-- Reached without any untimely failure. -/
inductive Undisturbed : System → Prop where
  | start (units : Nat → Completion) (first : Nat) : Undisturbed (.new units first)
  | next {s t : System} (action : Action) (before : Undisturbed s) (timely : ¬ s.Untimely action)
      (performed : s.perform? action = some t) : Undisturbed t

variable {s t : System}

theorem Undisturbed.reachable (calm : s.Undisturbed) : s.Reachable := by
  induction calm with
  | start units first => exact .start units first
  | next action before timely performed ih => exact .next action ih performed

private theorem trusts_finish {id : Nat} {outcome : Outcome} (timely : ¬ s.Untimely (.finish id outcome))
    {strand : Strand} (member : strand ∈ s.strands) (trusts : strand.stage.Trusts s.world) :
    strand.stage.Trusts (s.world.finish (.unit id) outcome) := by
  have apart (poised : strand.stage.Poised s.world) (failure : outcome ≠ .success)
      (current : s.world.monitor.current = .unit id) :
      (s.world.completions (.unit id)).outcome ≠ none := by
    intro pending
    exact timely ⟨id, outcome, rfl, failure, current, pending, strand, member, poised⟩
  cases stage : strand.stage with
  | calling caller op point =>
    rw [stage] at trusts apart
    exact World.Trusts.finish trusts id outcome apart
  | asking caller op question point =>
    rw [stage] at trusts apart
    exact World.Trusts.finish trusts id outcome apart
  | _ => trivial

private theorem Undisturbed.trusts (calm : s.Undisturbed) :
    ∀ strand ∈ s.strands, strand.stage.Trusts s.world := by
  induction calm with
  | start units first =>
    intro strand member
    cases member
  | @next s t action before timely performed ih =>
    have reach := before.reachable
    cases action with
    | call thread op =>
      cases Option.some.inj performed
      intro strand member
      obtain old | same := List.mem_append.mp member
      · exact ih strand old
      · rw [List.mem_singleton.mp same]
        exact ⟨nofun, trivial⟩
    | wait thread =>
      cases Option.some.inj performed
      intro strand member
      obtain old | same := List.mem_append.mp member
      · exact ih strand old
      · rw [List.mem_singleton.mp same]
        trivial
    | step place =>
      obtain ⟨acting, e, found, acts, rfl⟩ := acts_of_perform performed
      have member := List.mem_of_getElem? found
      have own := acts.trusts (reach.formed member) (reach.known member) (ih acting member)
      exact reach.all_effect (fun w stage => stage.Trusts w) (fun w _ => Stage.trusts_of_outside w)
        (fun _ _ _ kept same trusts => trusts.of_eq kept same) ih found acts own
    | finish id outcome =>
      cases Option.some.inj performed
      intro strand member
      exact trusts_finish timely member (ih strand member)
    | interrupt thread =>
      cases Option.some.inj performed
      intro strand member
      exact (ih strand member).of_eq rfl rfl

/-- Unless the current unit fails just between its two answers, a handle that is handed out is that
of the latched failure or of the current unit, or the gate, and then the current unit has succeeded. -/
theorem Undisturbed.hands (calm : s.Undisturbed) {strand : Strand} (member : strand ∈ s.strands)
    {caller : Caller} {h : Handle}
    (leaving : strand.stage = .calling caller .currentHandle (.leave (.handle h))) :
    s.world.Hands h := by
  have trusts := calm.trusts strand member
  rw [leaving] at trusts
  exact trusts.prepares

theorem Undisturbed.run (calm : s.Undisturbed) {actions : List Action}
    (successes : ∀ id outcome, .finish id outcome ∈ actions → outcome = .success)
    (ran : s.run? actions = some t) : t.Undisturbed := by
  induction actions generalizing s with
  | nil =>
    cases Option.some.inj ran
    exact calm
  | cons action rest ih =>
    obtain ⟨middle, performed, ran⟩ := Option.bind_eq_some_iff.mp ran
    have timely : ¬ s.Untimely action := by
      rintro ⟨id, outcome, rfl, failure, -⟩
      exact failure (successes id outcome List.mem_cons_self)
    refine ih (.next action calm timely performed) ?_ ran
    intro id outcome member
    exact successes id outcome (List.mem_cons_of_mem _ member)

/-- The unit succeeds just between its two answers. -/
def hasting : List Action :=
  [.call 0 .currentHandle] ++ steps 0 6 ++ [.finish 0 .success] ++ steps 0 2

theorem hands_hasting : ∃ s, run? (new (fun _ => {}) 0) hasting = some s ∧ s.Undisturbed ∧
    s.strands[0]? = some ⟨0, .calling .itself .currentHandle (.leave (.handle (.gate 0)))⟩ ∧
    s.world.Hands (.gate 0) := by
  have ran : ∃ s, run? (new (fun _ => {}) 0) hasting = some s ∧
      s.strands[0]? = some ⟨0, .calling .itself .currentHandle (.leave (.handle (.gate 0)))⟩ :=
    ⟨_, rfl, rfl⟩
  obtain ⟨s, ran, found⟩ := ran
  have calm : s.Undisturbed := by
    refine Undisturbed.run (.start _ 0) ?_ ran
    intro id outcome member
    simp [hasting, steps] at member
    exact member.2
  exact ⟨s, ran, calm, found, calm.hands (List.mem_of_getElem? found) rfl⟩

/-- A waiting thread asks for the current handle, and the unit is canceled just between its two
answers. -/
def concealing : List Action := [.wait 0] ++ steps 0 9 ++ [.finish 0 .cancellation] ++ steps 0 2

/-- The gate is handed out in the place of a unit that has been canceled, and the wait blocks on it
until the monitor is advanced or sealed. -/
theorem not_hands_concealing :
    (¬ ∀ s : System, s.Reachable → ∀ strand ∈ s.strands, ∀ caller,
      strand.stage = .calling caller .currentHandle (.leave (.handle s.world.monitor.gate)) →
      s.world.Succeeding s.world.monitor.current) ∧
    (¬ ∀ s : System, s.Reachable → s.world.monitor.isSealed = false → ∀ strand ∈ s.strands,
      ∀ place drive turn, strand.stage = .awaiting drive turn s.world.monitor.gate →
      strand.stage.step? place strand.thread s.world = none →
      ¬ s.world.Failed s.world.monitor.current) := by
  constructor
  · intro claim
    have ran : ∃ s, run? (new (fun _ => {}) 0) concealing = some s ∧
        s.strands[0]? = some ⟨0, .calling (.wait (.turning ()) .fetching) .currentHandle
          (.leave (.handle s.world.monitor.gate))⟩ ∧
        s.world.Failed s.world.monitor.current :=
      ⟨_, rfl, rfl, rfl⟩
    obtain ⟨s, ran, found, failed⟩ := ran
    have success := claim s (.run (.start _ 0) concealing ran) _ (List.mem_of_getElem? found) _ rfl
    exact success.not_failed failed
  · intro claim
    have ran : ∃ s, run? (new (fun _ => {}) 0) (concealing ++ steps 0 2) = some s ∧
        s.world.monitor.isSealed = false ∧
        s.strands[0]? = some ⟨0, .awaiting (.turning ()) .awaiting s.world.monitor.gate⟩ ∧
        Stage.step? 0 0 s.world (.awaiting (.turning ()) .awaiting s.world.monitor.gate) = none ∧
        s.world.Failed s.world.monitor.current :=
      ⟨_, rfl, rfl, rfl, rfl, rfl⟩
    obtain ⟨s, ran, opened, found, blocked, failed⟩ := ran
    exact claim s (.run (.start _ 0) _ ran) opened _ (List.mem_of_getElem? found) 0 _ _ rfl blocked
      failed

end System

end TransferLifecycle.Monitoring
