import TransferLifecycle.Proofs.Monitoring.Release

/-! How many turns a wait may take. Between two advances it takes at most two, one for the current unit
and one for the gate: a second turn finds the unit finished, and the gate stays shut until the next
advance or until the monitor is sealed, when the transfer is done. -/
namespace TransferLifecycle.Monitoring

open UnitMonitor (Operation Question Answer Result Point Moves)
open Wait (Drive Turn)

/-- Two turns for each advance are free; one more is taken only under the one condition, and two more
only under the other. -/
def Within (advances turns : Nat) (one two : Prop) : Prop :=
  turns ≤ 2 * advances ∨ turns ≤ 2 * advances + 1 ∧ one ∨ turns ≤ 2 * advances + 2 ∧ two

def Replaces (op : Operation Handle) : Point Handle → Prop
  | .awaitGate | .install _ => True
  | .opening (.truth true) | .leave (.truth true) => ∃ unit, op = .advance unit
  | _ => False

def Stage.Replacing : Stage → Prop
  | .calling _ op point | .asking _ op _ point => Replaces op point
  | _ => False

section

variable {advances turns : Nat} {one two also_one also_two : Prop}

theorem Within.imp (within : Within advances turns one two) (first : one → also_one)
    (second : two → also_two) : Within advances turns also_one also_two := by
  obtain free | ⟨less, holds⟩ | ⟨less, holds⟩ := within
  · exact Or.inl free
  · exact Or.inr (Or.inl ⟨less, first holds⟩)
  · exact Or.inr (Or.inr ⟨less, second holds⟩)

theorem Within.le (within : Within advances turns one two) : turns ≤ 2 * (advances + 1) := by
  obtain free | ⟨less, -⟩ | ⟨less, -⟩ := within <;> omega

theorem Within.any (within : Within advances turns one two) : Within advances turns True True :=
  within.imp (fun _ => trivial) (fun _ => trivial)

theorem Within.turn (within : Within advances turns one False) :
    Within advances (turns + 1) True one := by
  obtain free | ⟨less, holds⟩ | ⟨-, holds⟩ := within
  · exact Or.inr (Or.inl ⟨Nat.succ_le_succ free, trivial⟩)
  · exact Or.inr (Or.inr ⟨Nat.succ_le_succ less, holds⟩)
  · exact holds.elim

end

/-- What a wait may still do: the world, whether an advance is replacing the current unit, and the
advances that have returned and the turns that have begun since the wait began. -/
structure Pace where
  world : World
  replacing : Prop
  advances : Nat
  turns : Nat

namespace Pace

def Past (p : Pace) : Prop := p.world.Finished p.world.monitor.current ∨ p.replacing

def Ready (p : Pace) : Prop := Within p.advances p.turns p.Past False

def Fetches (p : Pace) : Prop := Within p.advances p.turns True p.Past

def Awaits (p : Pace) (h : Handle) : Prop :=
  Within p.advances p.turns (h = p.world.monitor.current ∨ p.Past)
    (h = p.world.monitor.gate ∧ p.Past ∨ p.world.monitor.isSealed = true ∧ p.Past ∨
      p.world.Failed h ∨ p.replacing)

def Inquires (p : Pace) : Prop :=
  Within p.advances p.turns p.Past (p.world.monitor.isSealed = true ∧ p.Past ∨ p.replacing)

def Ends (p : Pace) : Prop := Within p.advances p.turns True True

def Handles (p : Pace) : Point Handle → Prop
  | .settle _ false => Within p.advances p.turns True False
  | .leave (.handle h) => p.Awaits h
  | _ => p.Fetches

def Judges (p : Pace) : Point Handle → Prop
  | .settle _ true | .leave (.truth true) => p.Ends
  | .settle _ false | .leave (.truth false) => p.Ready
  | _ => p.Inquires

def Allows (p : Pace) : Stage → Prop
  | .driving .attach | .driving (.turn _) | .turning _ (.leave (.ok false)) => p.Ready
  | .turning _ .fetch => p.Fetches
  | .turning _ (.await h) | .awaiting _ _ h => p.Awaits h
  | .turning _ .inquire => p.Inquires
  | .calling _ .currentHandle point | .asking _ .currentHandle _ point => p.Handles point
  | .calling _ .isDone point | .asking _ .isDone _ point => p.Judges point
  | .calling _ _ _ | .asking _ _ _ _ => False
  | .driving _ | .turning _ _ | .waited _ | .answered _ => p.Ends

theorem Allows.ends {p : Pace} {stage : Stage} (allows : p.Allows stage) : p.Ends := by
  unfold Allows at allows
  split at allows
  any_goals exact Within.any allows
  · unfold Handles at allows
    split at allows <;> exact Within.any allows
  · unfold Handles at allows
    split at allows <;> exact Within.any allows
  · unfold Judges at allows
    split at allows <;> exact Within.any allows
  · unfold Judges at allows
    split at allows <;> exact Within.any allows
  · cases allows
  · cases allows

variable {p : Pace} {me thread : Nat} {m : UnitMonitor Handle} {point : Point Handle}

private theorem handles_move {next : Next (Point Handle) (Question Handle) (Result Handle)}
    (moves : Moves me p.world.monitor point m next) (belongs : Belongs .currentHandle point)
    (known : Known p.world .currentHandle point)
    (latched : ∀ unit, p.world.monitor.failed = some unit → p.world.Failed unit)
    (handles : p.Handles point) {after : Point Handle}
    (goes : next = .goto after ∨ ∃ question, next = .ask question after) :
    Handles { p with world := { p.world with monitor := m } } after := by
  cases moves with
  | handFailed found =>
    obtain same | ⟨question, same⟩ := goes <;> cases same
    have failed := latched _ found
    obtain free | ⟨less, -⟩ | ⟨less, -⟩ := handles
    · exact Or.inl free
    · exact Or.inr (Or.inr ⟨Nat.le_succ_of_le less, Or.inr (Or.inr (Or.inl failed))⟩)
    · exact Or.inr (Or.inr ⟨less, Or.inr (Or.inr (Or.inl failed))⟩)
  | handLast none closed =>
    obtain same | ⟨question, same⟩ := goes <;> cases same
    exact Within.imp handles (fun _ => Or.inl rfl) (fun past => Or.inr (Or.inl ⟨closed, past⟩))
  | handGate =>
    obtain same | ⟨question, same⟩ := goes <;> cases same
    have past : p.Past := Or.inl (known.2.2 rfl)
    exact Within.imp handles (fun _ => Or.inr past) (fun _ => Or.inl ⟨rfl, past⟩)
  | handCurrent =>
    obtain same | ⟨question, same⟩ := goes <;> cases same
    exact Within.imp handles (fun _ => Or.inl rfl) False.elim
  | enter | currentHandle | latched | judge | latch | pass | lookAtCurrent =>
    obtain same | ⟨question, same⟩ := goes <;> cases same
    exact handles
  | leave => obtain same | ⟨question, same⟩ := goes <;> cases same
  | _ => simp_all [Belongs]

/-- While an operation is under way, no advance is replacing the current unit. -/
theorem judges_move {next : Next (Point Handle) (Question Handle) (Result Handle)}
    (moves : Moves me p.world.monitor point m next) (belongs : Belongs .isDone point)
    (alone : Monitoring.inside point = true → ¬ p.replacing) (judges : p.Judges point)
    {after : Point Handle} (goes : next = .goto after ∨ ∃ question, next = .ask question after) :
    Judges { p with world := { p.world with monitor := m } } after := by
  cases moves with
  | doneByFailure found =>
    obtain same | ⟨question, same⟩ := goes <;> cases same
    exact Within.any judges
  | notDone none opened =>
    obtain same | ⟨question, same⟩ := goes <;> cases same
    refine Within.imp judges id ?_
    rintro (⟨closed, -⟩ | replacing)
    · rw [opened] at closed
      cases closed
    · exact alone rfl replacing
  | @answer op isFinished other =>
    obtain same | ⟨question, same⟩ := goes <;> cases same
    cases isFinished <;> exact judges
  | enter | isDone | latched | judge | latch | pass | lookAtLast =>
    obtain same | ⟨question, same⟩ := goes <;> cases same
    exact judges
  | leave => obtain same | ⟨question, same⟩ := goes <;> cases same
  | _ => simp_all [Belongs]

theorem Past.finished (past : p.Past) (settled : ¬ p.replacing) :
    p.world.Finished p.world.monitor.current := past.resolve_right settled

private theorem handles_resume {question : Question Handle} (asks : Asks question point)
    (belongs : Belongs .currentHandle point)
    (about : ∀ h, (question = .isFailed h ∨ question = .isFinished h) → h = p.world.monitor.current)
    (settled : ¬ p.replacing) (handles : p.Handles point) :
    Handles { p with world := (p.world.answer question).2 }
      (UnitMonitor.resume point (p.world.answer question).1) := by
  cases question with
  | isFailed h => cases point with
    | judging op => exact handles
    | _ => cases asks
  | isFinished h => cases point with
    | looking op =>
      obtain rfl := about h (Or.inr rfl)
      cases answer : (p.world.completions p.world.monitor.current).isFinished with
      | true =>
        simp only [World.answer, UnitMonitor.resume, answer]
        exact handles
      | false =>
        simp only [World.answer, UnitMonitor.resume, answer]
        refine Within.imp handles id fun past => ?_
        rw [past.finished settled] at answer
        cases answer
    | _ => cases asks
  | newGate => cases point with
    | awaitGate => obtain ⟨unit, same⟩ := belongs; cases same
    | _ => cases asks
  | openGate h => cases point with
    | opening result => exact absurd rfl belongs.2.2
    | _ => cases asks

private theorem judges_resume {question : Question Handle} (asks : Asks question point)
    (belongs : Belongs .isDone point)
    (about : ∀ h, (question = .isFailed h ∨ question = .isFinished h) → h = p.world.monitor.current)
    (settled : ¬ p.replacing) (judges : p.Judges point) :
    Judges { p with world := (p.world.answer question).2 }
      (UnitMonitor.resume point (p.world.answer question).1) := by
  cases question with
  | isFailed h => cases point with
    | judging op => exact judges
    | _ => cases asks
  | isFinished h => cases point with
    | looking op =>
      obtain rfl := about h (Or.inr rfl)
      cases answer : (p.world.completions p.world.monitor.current).isFinished with
      | true =>
        simp only [World.answer, UnitMonitor.resume, answer]
        exact Within.any judges
      | false =>
        simp only [World.answer, UnitMonitor.resume, answer]
        refine Within.imp judges id ?_
        rintro (⟨-, past⟩ | replacing)
        · rw [past.finished settled] at answer
          cases answer
        · exact settled replacing
    | _ => cases asks
  | newGate => cases point with
    | awaitGate => obtain ⟨unit, same⟩ := belongs; cases same
    | _ => cases asks
  | openGate h => cases point with
    | opening result => exact absurd rfl belongs.2.1
    | _ => cases asks

/-- A handle that has succeeded was that of the unit, or else the gate of a sealed monitor, unless an
advance is about to return. -/
theorem inquires_of_success {h : Handle} (awaits : p.Awaits h)
    (shut : p.world.monitor.isSealed = false → ¬ p.world.Finished p.world.monitor.gate)
    (success : (p.world.completions h).outcome = some .success) : p.Inquires := by
  have finished : p.world.Finished h := Option.isSome_of_eq_some success
  refine Within.imp awaits ?_ ?_
  · rintro (rfl | past)
    · exact Or.inl finished
    · exact past
  · rintro (⟨rfl, past⟩ | ⟨closed, past⟩ | failed | replacing)
    · refine Or.inl ⟨?_, past⟩
      cases sealed_ : p.world.monitor.isSealed with
      | true => rfl
      | false => exact absurd finished (shut sealed_)
    · exact Or.inl ⟨closed, past⟩
    · rw [World.Failed, Completion.isFailed, success] at failed
      cases failed
    · exact Or.inr replacing

end Pace

def Stage.turns : Stage → Nat
  | .driving (.turn _) => 1
  | _ => 0

variable {p : Pace} {me thread : Nat} {stage : Stage} {e : Effect}

theorem Stage.Acts.allows (acts : stage.Acts me thread p.world e) (formed : stage.Formed)
    (known : stage.Known p.world)
    (latched : ∀ unit, p.world.monitor.failed = some unit → p.world.Failed unit)
    (shut : p.world.monitor.isSealed = false → ¬ p.world.Finished p.world.monitor.gate)
    (alone : stage.inside = true → ¬ p.replacing) (allows : p.Allows stage) :
    Pace.Allows { p with world := e.world, turns := p.turns + stage.turns } e.stage := by
  have ends := allows.ends
  cases acts with
  | begin => exact Within.turn allows
  | attach | fetch | await | inquire | report => exact allows
  | @finishTurn drive result =>
    obtain ⟨rfl, -⟩ := formed
    obtain (failure | -) | done := result
    · exact ends
    · exact ends
    · cases done with
      | true => exact ends
      | false => exact allows
  | @finished drive turn h outcome ended =>
    obtain ⟨-, rfl⟩ := formed
    cases outcome with
    | success => exact Pace.inquires_of_success allows shut ended
    | failure | cancellation => exact ends
  | interrupted =>
    obtain ⟨-, rfl⟩ := formed
    exact ends
  | @goto caller op point m next moves => cases op with
    | currentHandle => exact Pace.handles_move moves formed.2 known latched allows (Or.inl rfl)
    | isDone => exact Pace.judges_move moves formed.2 alone allows (Or.inl rfl)
    | _ => cases allows
  | @ask caller op point m question next moves => cases op with
    | currentHandle => exact Pace.handles_move moves formed.2 known latched allows (Or.inr ⟨_, rfl⟩)
    | isDone => exact Pace.judges_move moves formed.2 alone allows (Or.inr ⟨_, rfl⟩)
    | _ => cases allows
  | @leave caller op result =>
    cases caller with
    | itself => exact ends
    | wait drive turn =>
      obtain ⟨-, ⟨rfl, rfl⟩ | ⟨rfl, rfl⟩⟩ := formed.1
      · cases result with
        | handle h => exact allows
        | _ => exact ends
      · cases result with
        | truth done => cases done <;> exact allows
        | _ => exact ends
  | @answer caller op question point =>
    have settled := alone formed.inside_of_asking
    obtain ⟨-, belongs, asks⟩ := formed
    cases op with
    | currentHandle => exact Pace.handles_resume asks belongs known.2 settled allows
    | isDone => exact Pace.judges_resume asks belongs known.2 settled allows
    | _ => cases allows

theorem Stage.Acts.replacing {w : World} (acts : stage.Acts me thread w e) (formed : stage.Formed)
    (stays : ∀ caller unit, stage ≠ .calling caller (.advance unit) (.leave (.truth true))) :
    (stage.Replacing → e.stage.Replacing) ∧
      (e.stage.Replacing ∨
        e.world.monitor.current = w.monitor.current ∧ e.world.monitor.gate = w.monitor.gate) := by
  cases acts with
  | goto moves => cases moves <;> exact ⟨False.elim, Or.inr ⟨rfl, rfl⟩⟩
  | ask moves => cases moves with
    | replace => exact ⟨False.elim, Or.inl trivial⟩
    | install => exact ⟨fun _ => formed.2, Or.inl formed.2⟩
    | _ => exact ⟨False.elim, Or.inr ⟨rfl, rfl⟩⟩
  | @leave caller op result =>
    refine ⟨?_, Or.inr ⟨rfl, rfl⟩⟩
    intro replacing
    obtain - | (- | -) | given := result
    · cases replacing
    · cases replacing
    · obtain ⟨unit, rfl⟩ := replacing
      exact absurd rfl (stays caller unit)
    · cases replacing
  | @answer caller op question point =>
    refine ⟨?_, Or.inr ⟨by simp, by simp⟩⟩
    intro replacing
    obtain ⟨-, -, asks⟩ := formed
    cases question with
    | newGate => cases point with
      | awaitGate => trivial
      | _ => cases asks
    | openGate h => cases point with
      | opening result =>
        obtain - | (- | -) | given := result
        · cases replacing
        · cases replacing
        · exact replacing
        · cases replacing
      | _ => cases asks
    | _ =>
      cases point <;> cases asks
      cases replacing
  | _ => exact ⟨False.elim, Or.inr ⟨rfl, rfl⟩⟩

theorem Stage.Replacing.inside (formed : stage.Formed) (replacing : stage.Replacing) :
    stage.inside = true := by
  cases stage with
  | calling caller op point => cases point with
    | enter => cases replacing
    | _ => rfl
  | asking caller op question point => exact formed.inside_of_asking
  | _ => cases replacing

namespace Pace

structure Follows (p q : Pace) : Prop where
  advances : q.advances = p.advances
  turns : q.turns = p.turns
  lasts : p.world.Lasts q.world
  replacing : p.replacing → q.replacing
  still : q.replacing ∨ q.world.monitor.current = p.world.monitor.current ∧
    q.world.monitor.gate = p.world.monitor.gate

variable {q : Pace}

theorem Follows.past (follows : p.Follows q) (past : p.Past) : q.Past := by
  obtain replacing | ⟨current, -⟩ := follows.still
  · exact Or.inr replacing
  · obtain finished | replacing := past
    · refine Or.inl ?_
      rw [current]
      exact follows.lasts.grows.finished finished
    · exact Or.inr (follows.replacing replacing)

theorem Follows.within (follows : p.Follows q) {one two also_one also_two : Prop}
    (within : Within p.advances p.turns one two) (first : one → also_one) (second : two → also_two) :
    Within q.advances q.turns also_one also_two := by
  rw [follows.advances, follows.turns]
  exact within.imp first second

theorem Follows.awaits (follows : p.Follows q) {h : Handle} (awaits : p.Awaits h) : q.Awaits h := by
  refine follows.within awaits ?_ ?_
  · rintro (rfl | past)
    · obtain replacing | ⟨current, -⟩ := follows.still
      · exact Or.inr (Or.inr replacing)
      · exact Or.inl current.symm
    · exact Or.inr (follows.past past)
  · rintro (⟨rfl, past⟩ | ⟨closed, past⟩ | failed | replacing)
    · obtain replacing | ⟨-, gate⟩ := follows.still
      · exact Or.inr (Or.inr (Or.inr replacing))
      · exact Or.inl ⟨gate.symm, follows.past past⟩
    · exact Or.inr (Or.inl ⟨follows.lasts.isSealed closed, follows.past past⟩)
    · exact Or.inr (Or.inr (Or.inl (follows.lasts.grows.failed failed)))
    · exact Or.inr (Or.inr (Or.inr (follows.replacing replacing)))

theorem Follows.inquires (follows : p.Follows q) (inquires : p.Inquires) : q.Inquires := by
  refine follows.within inquires follows.past ?_
  rintro (⟨closed, past⟩ | replacing)
  · exact Or.inl ⟨follows.lasts.isSealed closed, follows.past past⟩
  · exact Or.inr (follows.replacing replacing)

theorem Allows.imp {stage : Stage} (allows : p.Allows stage) (ready : p.Ready → q.Ready)
    (fetches : p.Fetches → q.Fetches) (awaits : ∀ h, p.Awaits h → q.Awaits h)
    (inquires : p.Inquires → q.Inquires) (ends : p.Ends → q.Ends)
    (outstanding : Within p.advances p.turns True False → Within q.advances q.turns True False) :
    q.Allows stage := by
  have handles : ∀ point, p.Handles point → q.Handles point := by
    intro point handles
    unfold Handles at handles ⊢
    split at handles
    · exact outstanding handles
    · exact awaits _ handles
    · exact fetches handles
  have judges : ∀ point, p.Judges point → q.Judges point := by
    intro point judges
    unfold Judges at judges ⊢
    split at judges
    · exact ends judges
    · exact ends judges
    · exact ready judges
    · exact ready judges
    · exact inquires judges
  unfold Allows at allows ⊢
  split at allows
  · exact ready allows
  · exact ready allows
  · exact ready allows
  · exact fetches allows
  · exact awaits _ allows
  · exact awaits _ allows
  · exact inquires allows
  · exact handles _ allows
  · exact handles _ allows
  · exact judges _ allows
  · exact judges _ allows
  · cases allows
  · cases allows
  · exact ends allows
  · exact ends allows
  · exact ends allows
  · exact ends allows

theorem Follows.allows (follows : p.Follows q) {stage : Stage} (allows : p.Allows stage) :
    q.Allows stage :=
  allows.imp (follows.within · follows.past id) (follows.within · id follows.past)
    (fun _ => follows.awaits) follows.inquires (follows.within · id id) (follows.within · id id)

theorem Allows.free {stage : Stage} (allows : p.Allows stage) (free : q.turns ≤ 2 * q.advances) :
    q.Allows stage :=
  allows.imp (fun _ => Or.inl free) (fun _ => Or.inl free) (fun _ _ => Or.inl free)
    (fun _ => Or.inl free) (fun _ => Or.inl free) (fun _ => Or.inl free)

end Pace

end TransferLifecycle.Monitoring
