import TransferLifecycle.Proofs.Monitoring.Decision

/-! Waits for a transfer that is done. Such a wait is handed the unit that the transfer is done with,
which has finished, so that the wait never looks at its interrupt, and one turn is enough. It stands
still only while another operation has the monitor, and that one can go on. -/
namespace TransferLifecycle

def Outcome.error? : Outcome → Option TransferError
  | .success => none
  | .failure f => some f.unwrap
  | .cancellation => some .canceled

def Outcome.conclusion (outcome : Outcome) : Except WaitError Unit :=
  match outcome.error? with
  | none => .ok ()
  | some error => .error (.transfer error)

private theorem Outcome.exception_conclusion (outcome : Outcome) :
    Wait.exception outcome.conclusion = .ok outcome.error? := by
  cases outcome <;> rfl

namespace Monitoring

open UnitMonitor (Operation Question Answer Result Point Moves)
open Wait (Drive Turn)

def Stage.Heads (unit : Handle) (outcome : Outcome) : Stage → Prop
  | .driving (.leave result) | .waited result => result = outcome.conclusion
  | .turning drive (.leave result) => drive.resume result = .leave outcome.conclusion
  | .turning _ (.await h) | .awaiting _ _ h => h = unit
  | .turning _ .inquire => outcome = .success
  | .calling (.wait _ _) .isDone _ | .asking (.wait _ _) .isDone _ _ => outcome = .success
  | _ => True

def awaits : Point Handle → Bool
  | .judging _ | .awaitGate | .opening _ | .looking _ => true
  | _ => false

def Stage.Awake : Stage → Prop
  | .calling _ _ point => awaits point = false
  | .driving (.turning _) => False
  | _ => True

def Stage.returned : Stage → Bool
  | .waited _ | .answered _ => true
  | _ => false

private theorem Stage.outside_of_returned {stage : Stage} (returned : stage.returned = true) :
    stage.inside = false := by
  cases stage with
  | waited | answered => rfl
  | _ => cases returned

def Stage.waits : Stage → Bool
  | .calling .itself _ _ | .asking .itself _ _ _ | .answered _ => false
  | _ => true

def left : Point Handle → Nat
  | .enter _ => 10
  | .check _ => 9
  | .latch _ => 8
  | .judging _ => 7
  | .verdict _ _ => 6
  | .act _ => 5
  | .awaitGate | .looking _ => 4
  | .install _ => 3
  | .opening _ | .settle _ _ => 2
  | .leave _ => 1

def Caller.left : Caller → Nat
  | .itself => 0
  | .wait _ .inquiring => 2
  | .wait _ _ => 15

/-- How many steps of its own are left to a call, or to a wait that takes one more turn. -/
def Stage.left : Stage → Nat
  | .driving .attach => 28
  | .driving (.turn _) => 27
  | .turning _ .fetch => 26
  | .turning _ (.await _) => 15
  | .awaiting _ _ _ => 14
  | .turning _ .inquire => 13
  | .turning _ (.leave _) => 2
  | .driving (.leave _) => 1
  | .calling caller _ point | .asking caller _ _ point => caller.left + Monitoring.left point
  | .turning _ _ | .driving (.turning _) | .waited _ | .answered _ => 0

private theorem left_goto {me : Nat} {m m' : UnitMonitor Handle} {point next : Point Handle}
    (moves : Moves me m point m' (.goto next)) : left next < left point ∧ awaits next = false := by
  cases moves <;> exact ⟨by simp [left], rfl⟩

private theorem left_ask {me : Nat} {m m' : UnitMonitor Handle} {point next : Point Handle}
    {question : Question Handle} (moves : Moves me m point m' (.ask question next)) :
    left next < left point := by
  cases moves <;> simp [left]

private theorem left_resume {w : World} {point : Point Handle} {question : Question Handle}
    (asks : Asks question point) :
    left (UnitMonitor.resume point (w.answer question).1) < left point ∧
      awaits (UnitMonitor.resume point (w.answer question).1) = false := by
  cases question <;> cases point <;>
    first | exact asks.elim | simp [World.answer, UnitMonitor.resume, left, awaits]

private theorem step_blocked {me : Nat} {m : UnitMonitor Handle} {point : Point Handle}
    (blocked : (UnitMonitor.step me m point).2.2 = .blocked) :
    awaits point = true ∨ ∃ op, point = .enter op ∧ m.holder.isSome = true := by
  cases point with
  | enter op =>
    refine Or.inr ⟨op, rfl, ?_⟩
    cases holder : m.holder with
    | some other => rfl
    | none => simp [UnitMonitor.step, holder] at blocked
  | judging | awaitGate | opening | looking => exact Or.inl rfl
  | check op => cases op with
    | advance unit =>
      simp only [UnitMonitor.step] at blocked
      split at blocked <;> cases blocked
    | _ => cases blocked
  | latch op =>
    simp only [UnitMonitor.step] at blocked
    split at blocked <;> cases blocked
  | act op => cases op with
    | isDone =>
      simp only [UnitMonitor.step] at blocked
      split at blocked
      · cases blocked
      · split at blocked <;> cases blocked
    | currentHandle =>
      simp only [UnitMonitor.step] at blocked
      split at blocked
      · cases blocked
      · split at blocked <;> cases blocked
    | _ => cases blocked
  | settle op isFinished => cases op <;> cases blocked
  | _ => cases blocked

variable {me thread : Nat} {w : World} {stage : Stage} {e : Effect} {unit : Handle} {outcome : Outcome}

theorem Stage.goes (me thread : Nat) (w : World) (formed : stage.Formed) (awake : stage.Awake) :
    stage.returned = true ∨ (∃ e, stage.step? me thread w = some e) ∨
    (∃ caller op, stage = .calling caller op (.enter op) ∧ w.monitor.holder.isSome = true) ∨
    ∃ drive turn h, stage = .awaiting drive turn h ∧ (w.completions h).outcome = none := by
  cases stage with
  | waited | answered => exact Or.inl rfl
  | driving drive => cases drive with
    | turning => cases awake
    | _ => exact Or.inr (Or.inl ⟨_, rfl⟩)
  | turning drive turn => cases turn with
    | fetching => exact (formed.2.1 rfl).elim
    | awaiting => exact (formed.2.2.1 rfl).elim
    | inquiring => exact (formed.2.2.2 rfl).elim
    | _ => exact Or.inr (Or.inl ⟨_, rfl⟩)
  | awaiting drive turn h =>
    cases ended : (w.completions h).outcome with
    | none => exact Or.inr (Or.inr (Or.inr ⟨drive, turn, h, rfl, ended⟩))
    | some outcome =>
      refine Or.inr (Or.inl ?_)
      simp only [step?, Completion.look, ended]
      exact ⟨_, rfl⟩
  | asking => exact Or.inr (Or.inl ⟨_, rfl⟩)
  | calling caller op point =>
    refine Or.inr ?_
    cases next : (UnitMonitor.step me w.monitor point).2.2 with
    | blocked =>
      obtain waiting | ⟨other, rfl, held⟩ := step_blocked next
      · rw [show awaits point = false from awake] at waiting
        cases waiting
      · obtain rfl : op = other := formed.2
        exact Or.inr (Or.inl ⟨caller, op, rfl, held⟩)
    | _ =>
      refine Or.inl ?_
      simp only [step?, next]
      exact ⟨_, rfl⟩

private theorem Stage.Acts.awake (acts : stage.Acts me thread w e) (formed : stage.Formed) : e.stage.Awake := by
  cases acts with
  | goto moves => exact (left_goto moves).2
  | answer => exact (left_resume formed.2.2).2
  | @leave caller op result => cases caller <;> cases result <;> trivial
  | @finishTurn drive result =>
    obtain ⟨rfl, -⟩ := formed
    cases result with
    | ok b => cases b <;> trivial
    | error error => cases error <;> trivial
  | fetch | inquire => rfl
  | _ => trivial

theorem Stage.Acts.waits (acts : stage.Acts me thread w e) : e.stage.waits = stage.waits := by
  cases acts with
  | @goto caller | @ask caller | @answer caller => cases caller <;> rfl
  | @leave caller op result => cases caller <;> cases result <;> rfl
  | _ => rfl

private theorem Stage.Acts.heads (acts : stage.Acts me thread w e) (formed : stage.Formed)
    (reports : ∀ caller op result, stage = .calling caller op (.leave result) → Reports unit op result)
    (ended : (w.completions unit).outcome = some outcome) (heads : stage.Heads unit outcome) :
    e.stage.Heads unit outcome := by
  cases acts with
  | @goto caller op | @ask caller op | @answer caller op =>
    cases caller <;> cases op <;> trivial
  | @leave caller op result =>
    have told := reports caller op result rfl
    cases caller with
    | itself => trivial
    | wait drive turn =>
      obtain ⟨⟨rfl, ⟨rfl, rfl⟩ | ⟨rfl, rfl⟩⟩, -⟩ := formed
      · cases told
        rfl
      · cases told
        cases heads
        rfl
  | @finished drive turn h found some =>
    obtain ⟨rfl, rfl⟩ := formed
    cases heads
    cases Option.some.inj (ended.symm.trans some)
    cases outcome <;> rfl
  | interrupted none =>
    cases heads
    rw [ended] at none
    cases none
  | @finishTurn drive result =>
    rw [show drive.resume result = .leave outcome.conclusion from heads]
    rfl
  | attach | begin | fetch => trivial
  | report | await | inquire => exact heads

/-- One turn is enough, so that every step is one of the few that are left. -/
theorem Stage.Acts.left_lt (acts : stage.Acts me thread w e) (formed : stage.Formed)
    (reports : ∀ caller op result, stage = .calling caller op (.leave result) → Reports unit op result)
    (heads : stage.Heads unit outcome) : e.stage.left < stage.left := by
  cases acts with
  | goto moves => exact Nat.add_lt_add_left (left_goto moves).1 _
  | ask moves => exact Nat.add_lt_add_left (left_ask moves) _
  | answer => exact Nat.add_lt_add_left (left_resume formed.2.2).1 _
  | @leave caller op result =>
    have told := reports caller op result rfl
    cases caller with
    | itself => exact Nat.zero_lt_one
    | wait drive turn =>
      obtain ⟨⟨rfl, ⟨rfl, rfl⟩ | ⟨rfl, rfl⟩⟩, -⟩ := formed
      · cases told
        exact Nat.lt_succ_self 15
      · cases told
        exact Nat.lt_succ_self 2
  | @finished drive turn h found =>
    obtain ⟨rfl, rfl⟩ := formed
    cases found <;> simp [left, Outcome.waited, Turn.resume]
  | interrupted =>
    obtain ⟨rfl, rfl⟩ := formed
    simp [left, Turn.resume]
  | @finishTurn drive result =>
    rw [show drive.resume result = .leave outcome.conclusion from heads]
    exact Nat.lt_succ_self 1
  | _ => simp [left, Caller.left, Monitoring.left]

theorem Stage.Acts.tokens (acts : stage.Acts me thread w e)
    (finished : ∀ drive turn h, stage = .awaiting drive turn h → (w.completions h).outcome ≠ none) :
    e.world.tokens = w.tokens := by
  cases acts with
  | interrupted none => exact (finished _ _ _ rfl none).elim
  | @answer caller op question point => cases question <;> rfl
  | _ => rfl

def Action.moves (place : Nat) : Action → Bool
  | .step other => other == place
  | _ => false

namespace System

variable {s t : System} {origin place : Nat}

private theorem Reachable.awake (reach : s.Reachable) {strand : Strand} (member : strand ∈ s.strands) :
    strand.stage.Awake := by
  refine reach.invariant (fun s => ∀ strand ∈ s.strands, strand.stage.Awake)
    ?start ?begin ?finish ?interrupt ?step strand member
  case start =>
    intro units first strand member
    cases member
  case begin =>
    intro s new ih fresh strand member
    obtain old | same := List.mem_append.mp member
    · exact ih strand old
    · rw [List.mem_singleton.mp same]
      obtain atStart | ⟨op, atStart⟩ := fresh <;> rw [atStart]
      · trivial
      · rfl
  case finish =>
    intro s id outcome ih
    exact ih
  case interrupt =>
    intro s thread ih
    exact ih
  case step =>
    intro s place acting e reach ih found acts strand member
    obtain old | same := List.mem_or_eq_of_mem_set member
    · exact ih strand old
    · rw [same]
      exact acts.awake (reach.formed (List.mem_of_getElem? found))

theorem perform_step {strand : Strand} (found : s.strands[place]? = some strand) {e : Effect}
    (acted : strand.stage.step? place strand.thread s.world = some e) :
    s.perform? (.step place) = some (s.effect place strand.thread e) := by
  simp [perform?, found, acted]

private theorem Reachable.holder_goes (reach : s.Reachable) (held : s.world.monitor.holder = some place) :
    ∃ t, s.perform? (.step place) = some t := by
  obtain ⟨strand, found, inside⟩ := (reach.exclusive place).mp held
  have member := List.mem_of_getElem? found
  obtain returned | ⟨e, acted⟩ | ⟨caller, op, stage, -⟩ | ⟨drive, turn, h, stage, -⟩ :=
    strand.stage.goes place strand.thread s.world (reach.formed member) (reach.awake member)
  · rw [Stage.outside_of_returned returned] at inside
    cases inside
  · exact ⟨_, perform_step found acted⟩
  · rw [stage] at inside
    cases inside
  · rw [stage] at inside
    cases inside

/-- The transfer is done with a unit of this outcome, and the strands from the origin on have begun
since. -/
structure Concludes (origin : Nat) (unit : Handle) (outcome : Outcome) (s : System) : Prop where
  reach : s.Reachable
  decided : s.Decided unit
  ended : (s.world.completions unit).outcome = some outcome
  heads : ∀ place strand, origin ≤ place → s.strands[place]? = some strand →
    strand.stage.Heads unit outcome

theorem Concludes.reports (concludes : s.Concludes origin unit outcome) {strand : Strand}
    (member : strand ∈ s.strands) (caller : Caller) (op : Operation Handle) (result : Result Handle)
    (leaving : strand.stage = .calling caller op (.leave result)) : Reports unit op result :=
  concludes.decided.reports member leaving

theorem Concludes.next (concludes : s.Concludes origin unit outcome) {action : Action}
    (performed : s.perform? action = some t) : t.Concludes origin unit outcome := by
  obtain ⟨reach, decided, ended, heads⟩ := concludes
  refine ⟨.next action reach performed, reach.decided_next decided performed,
    (reach.lasts performed).grows unit outcome ended, ?_⟩
  intro place strand since found
  cases action with
  | call thread op =>
    cases Option.some.inj performed
    obtain old | rfl := found_begin found
    · exact heads place strand since old
    · trivial
  | wait thread =>
    cases Option.some.inj performed
    obtain old | rfl := found_begin found
    · exact heads place strand since old
    · trivial
  | step other =>
    obtain ⟨acting, e, here, acts, rfl⟩ := acts_of_perform performed
    obtain ⟨rfl, rfl⟩ | ⟨-, old⟩ := found_effect here found
    · have member := List.mem_of_getElem? here
      refine acts.heads (reach.formed member) ?_ ended (heads other acting since here)
      intro caller op result leaving
      exact decided.reports member leaving
    · exact heads place strand since old
  | finish | interrupt =>
    cases Option.some.inj performed
    exact heads place strand since found

theorem Concludes.run (concludes : s.Concludes origin unit outcome) {actions : List Action}
    (ran : s.run? actions = some t) : t.Concludes origin unit outcome := by
  induction actions generalizing s with
  | nil =>
    cases Option.some.inj ran
    exact concludes
  | cons action rest ih =>
    obtain ⟨middle, performed, ran⟩ := Option.bind_eq_some_iff.mp ran
    exact ih (concludes.next performed) ran

private theorem Reachable.concludes (reach : s.Reachable) (done : s.FoundDone) :
    ∃ unit outcome, s.Concludes s.strands.length unit outcome := by
  obtain ⟨unit, decided⟩ := reach.decided done
  obtain ⟨outcome, ended⟩ := reach.finished_of_decided decided
  refine ⟨unit, outcome, reach, decided, ended, ?_⟩
  intro place strand since found
  exact absurd (List.getElem?_eq_some_iff.mp found).1 (Nat.not_lt.mpr since)

def left (s : System) (place : Nat) : Nat := (s.strands[place]?).elim 28 (·.stage.left)

private theorem left_begin (s : System) (strand : Strand) (few : strand.stage.left ≤ 28) (place : Nat) :
    (s.begin strand).left place ≤ s.left place := by
  unfold left
  cases found : (s.begin strand).strands[place]? with
  | none =>
    have gap : s.strands[place]? = none := by
      rw [List.getElem?_eq_none_iff] at found ⊢
      simp [begin] at found
      omega
    exact Nat.le_of_eq (by rw [gap])
  | some other => cases before : s.strands[place]? with
    | none =>
      obtain old | rfl := found_begin found
      · rw [before] at old
        cases old
      · exact few
    | some strand =>
      have inside := (List.getElem?_eq_some_iff.mp before).1
      rw [begin, List.getElem?_append_left inside, before] at found
      exact Nat.le_of_eq (by rw [Option.some.inj found])

private theorem Concludes.left_next (concludes : s.Concludes origin unit outcome) (since : origin ≤ place)
    {action : Action} (performed : s.perform? action = some t) :
    t.left place + (if action.moves place then 1 else 0) ≤ s.left place := by
  cases action with
  | call thread op =>
    cases Option.some.inj performed
    have few : (Stage.calling .itself op (.enter op)).left ≤ 28 := by
      simp [Stage.left, Caller.left, Monitoring.left]
    exact left_begin s ⟨thread, _⟩ few place
  | wait thread =>
    cases Option.some.inj performed
    exact left_begin s ⟨thread, .driving .attach⟩ (Nat.le_refl 28) place
  | step other =>
    obtain ⟨acting, e, here, acts, rfl⟩ := acts_of_perform performed
    by_cases same : other = place
    · subst same
      have member := List.mem_of_getElem? here
      have fewer := acts.left_lt (concludes.reach.formed member) (concludes.reports member)
        (concludes.heads other acting since here)
      have inside := (List.getElem?_eq_some_iff.mp here).1
      simpa [Action.moves, left, effect, List.getElem?_set_self inside, here] using
        Nat.succ_le_of_lt fewer
    · simp [Action.moves, left, effect, List.getElem?_set_ne same, same]
  | finish | interrupt =>
    cases Option.some.inj performed
    exact Nat.le_refl _

private theorem Concludes.left_run (concludes : s.Concludes origin unit outcome) (since : origin ≤ place)
    {actions : List Action} (ran : s.run? actions = some t) :
    t.left place + actions.countP (Action.moves place) ≤ s.left place := by
  induction actions generalizing s with
  | nil =>
    cases Option.some.inj ran
    exact Nat.le_refl _
  | cons action rest ih =>
    obtain ⟨middle, performed, ran⟩ := Option.bind_eq_some_iff.mp ran
    have first := concludes.left_next since performed
    have others := ih (concludes.next performed) ran
    rw [List.countP_cons]
    omega

/-- What a call or a wait that has begun since the transfer was done can rely on. -/
structure Returns (s : System) (outcome : Outcome) (place : Nat) (strand : Strand) : Prop where
  told : ∀ result, strand.stage = .waited result →
    result = outcome.conclusion ∧ Wait.exception result = .ok outcome.error?
  keeps : ∀ t, s.perform? (.step place) = some t → t.world.tokens = s.world.tokens
  /-- It stands still only before the monitor, while another that can go on has it. -/
  goes : strand.stage.returned = true ∨ (∃ t, s.perform? (.step place) = some t) ∨
    (∃ caller op, strand.stage = .calling caller op (.enter op)) ∧
      ∃ holder t, s.world.monitor.holder = some holder ∧ holder ≠ place ∧
        s.perform? (.step holder) = some t
  ends : (∀ holder, s.world.monitor.holder = some holder → holder = place) →
    ∃ count t stage, s.run? (steps place count) = some t ∧
      t.strands[place]? = some ⟨strand.thread, stage⟩ ∧ stage.returned = true ∧
      (strand.stage.waits = true → stage = .waited outcome.conclusion)

theorem Concludes.goes (concludes : s.Concludes origin unit outcome) (since : origin ≤ place)
    {strand : Strand} (found : s.strands[place]? = some strand) :
    strand.stage.returned = true ∨ (∃ t, s.perform? (.step place) = some t) ∨
    (∃ caller op, strand.stage = .calling caller op (.enter op)) ∧
      ∃ holder t, s.world.monitor.holder = some holder ∧ holder ≠ place ∧
        s.perform? (.step holder) = some t := by
  have reach := concludes.reach
  have member := List.mem_of_getElem? found
  obtain returned | ⟨e, acted⟩ | ⟨caller, op, stage, held⟩ | ⟨drive, turn, h, stage, pending⟩ :=
    strand.stage.goes place strand.thread s.world (reach.formed member) (reach.awake member)
  · exact Or.inl returned
  · exact Or.inr (Or.inl ⟨_, perform_step found acted⟩)
  · obtain ⟨holder, held⟩ := Option.isSome_iff_exists.mp held
    obtain ⟨t, performed⟩ := reach.holder_goes held
    refine Or.inr (Or.inr ⟨⟨caller, op, stage⟩, holder, t, held, ?_, performed⟩)
    rintro rfl
    obtain ⟨other, here, inside⟩ := (reach.exclusive holder).mp held
    cases Option.some.inj (found.symm.trans here)
    rw [stage] at inside
    cases inside
  · have heads := concludes.heads place strand since found
    rw [stage] at heads
    cases heads
    rw [concludes.ended] at pending
    cases pending

theorem Concludes.ends (concludes : s.Concludes origin unit outcome) (since : origin ≤ place)
    {strand : Strand} (found : s.strands[place]? = some strand)
    (alone : ∀ holder, s.world.monitor.holder = some holder → holder = place) :
    ∃ count t stage, s.run? (steps place count) = some t ∧
      t.strands[place]? = some ⟨strand.thread, stage⟩ ∧ stage.returned = true ∧
      (strand.stage.waits = true → stage = .waited outcome.conclusion) := by
  -- By induction on the steps that are left.
  generalize few : s.left place = bound
  induction bound using Nat.strongRecOn generalizing s strand with
  | _ bound ih =>
    subst few
    obtain returned | ⟨t, performed⟩ | ⟨-, holder, -, held, other, -⟩ := concludes.goes since found
    · refine ⟨0, s, strand.stage, rfl, found, returned, ?_⟩
      intro waits
      have heads := concludes.heads place strand since found
      cases stage : strand.stage with
      | waited result =>
        rw [stage] at heads
        rw [show result = outcome.conclusion from heads]
      | answered =>
        rw [stage] at waits
        cases waits
      | _ =>
        rw [stage] at returned
        cases returned
    · have next := concludes.next performed
      have fewer := concludes.left_next since performed
      rw [Action.moves, beq_self_eq_true, if_pos rfl] at fewer
      obtain ⟨acting, e, here, acts, rfl⟩ := acts_of_perform performed
      cases Option.some.inj (found.symm.trans here)
      have inside := (List.getElem?_eq_some_iff.mp found).1
      have held : s.world.monitor.holder = some place ↔ strand.stage.inside = true := by
        rw [concludes.reach.exclusive place]
        simp [found]
      have still : ∀ holder, e.world.monitor.holder = some holder → holder = place := by
        intro holder held_after
        refine Decidable.byContradiction fun other => ?_
        have before := ((acts.holder held).2 holder (Ne.symm other)).mp held_after
        exact other (alone holder before)
      obtain ⟨count, t, stage, ran, there, returned, kind⟩ :=
        ih _ fewer next (List.getElem?_set_self inside) still rfl
      refine ⟨count + 1, t, stage, ?_, there, returned, ?_⟩
      · rw [steps, List.replicate_succ, run?, performed]
        exact ran
      · intro waits
        exact kind (acts.waits.trans waits)
    · exact (other (alone holder held)).elim

theorem Concludes.returns (concludes : s.Concludes origin unit outcome) (since : origin ≤ place)
    {strand : Strand} (found : s.strands[place]? = some strand) : s.Returns outcome place strand where
  told result waited := by
    have heads := concludes.heads place strand since found
    rw [waited] at heads
    cases heads
    exact ⟨rfl, outcome.exception_conclusion⟩
  keeps t performed := by
    obtain ⟨acting, e, here, acts, rfl⟩ := acts_of_perform performed
    cases Option.some.inj (found.symm.trans here)
    refine acts.tokens ?_
    intro drive turn h stage pending
    have heads := concludes.heads place strand since found
    rw [stage] at heads
    cases heads
    rw [concludes.ended] at pending
    cases pending
  goes := concludes.goes since found
  ends := concludes.ends since found

/-- Once a transfer is done, it is done with one finished unit. Every later question is answered with
yes, every handle that is handed out is that of this unit, and every call and wait that begins is over
after a few steps of its own, the wait with the outcome of the unit and without a look at its
interrupt. -/
theorem Reachable.steady (reach : s.Reachable) (done : s.FoundDone) :
    ∃ unit outcome, ∀ actions t, s.run? actions = some t →
      (t.world.completions unit).outcome = some outcome ∧
      (∀ strand ∈ t.strands, ∀ caller result,
        strand.stage = .calling caller .isDone (.leave result) → result = .truth true) ∧
      (∀ strand ∈ t.strands, ∀ caller result,
        strand.stage = .calling caller .currentHandle (.leave result) → result = .handle unit) ∧
      ∀ place, s.strands.length ≤ place → actions.countP (Action.moves place) ≤ 28 ∧
        ∀ strand, t.strands[place]? = some strand → t.Returns outcome place strand := by
  obtain ⟨unit, outcome, concludes⟩ := reach.concludes done
  refine ⟨unit, outcome, ?_⟩
  intro actions t ran
  have after := concludes.run ran
  refine ⟨after.ended, ?_, ?_, ?_⟩
  · intro strand member caller result leaving
    exact after.reports member caller .isDone result leaving
  · intro strand member caller result leaving
    exact after.reports member caller .currentHandle result leaving
  · intro place since
    refine ⟨?_, fun strand found => after.returns since found⟩
    have fewer := concludes.left_run since ran
    have unbegun : s.left place = 28 := by
      rw [left, List.getElem?_eq_none since]
      rfl
    omega

/-- The only unit has failed before anybody looked. -/
def exhausting : List Action := [.finish 0 (.failure ⟨.mk 0 (.foreign "disk full" none)⟩)]

/-- The monitor is advanced to a second unit, and a thread with an interrupt pending waits. -/
def outliving : List Action :=
  [.interrupt 3, .call 1 (.advance (.unit 1))] ++ steps 0 10 ++ [.wait 3] ++ steps 1 12

theorem steady_outliving : ∃ s t, run? (new (fun _ => {}) 0) exhausting = some s ∧ s.FoundDone ∧
    s.run? outliving = some t ∧ t.world.monitor.current = .unit 1 ∧ t.world.tokens 3 = true ∧
    t.strands[1]? = some ⟨3, .waited (.error (.transfer (.client
      "Unable to complete transfer: disk full" (some (.mk 0 (.foreign "disk full" none))))))⟩ ∧
    ∃ unit outcome, ∀ actions t, s.run? actions = some t →
      (t.world.completions unit).outcome = some outcome ∧
      (∀ strand ∈ t.strands, ∀ caller result,
        strand.stage = .calling caller .isDone (.leave result) → result = .truth true) ∧
      (∀ strand ∈ t.strands, ∀ caller result,
        strand.stage = .calling caller .currentHandle (.leave result) → result = .handle unit) ∧
      ∀ place, s.strands.length ≤ place → actions.countP (Action.moves place) ≤ 28 ∧
        ∀ strand, t.strands[place]? = some strand → t.Returns outcome place strand := by
  have ran : ∃ s asked t, run? (new (fun _ => {}) 0) exhausting = some s ∧
      s.run? (.call 7 .isDone :: steps s.strands.length 7) = some asked ∧
      asked.strands[s.strands.length]? = some ⟨7, .answered (.truth true)⟩ ∧
      s.run? outliving = some t ∧ t.world.monitor.current = .unit 1 ∧ t.world.tokens 3 = true ∧
      t.strands[1]? = some ⟨3, .waited (.error (.transfer (.client
        "Unable to complete transfer: disk full" (some (.mk 0 (.foreign "disk full" none))))))⟩ :=
    ⟨_, _, _, rfl, rfl, rfl, rfl, rfl, rfl, rfl⟩
  obtain ⟨s, asked, t, begun, asking, told, ran, current, pending, waited⟩ := ran
  have done : s.FoundDone := .asked asking told
  refine ⟨s, t, begun, done, ran, current, pending, waited, ?_⟩
  exact Reachable.steady (.run (.start _ 0) exhausting begun) done

end System

end Monitoring

end TransferLifecycle
