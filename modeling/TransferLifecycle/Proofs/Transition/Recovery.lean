import TransferLifecycle.Proofs.Transition.Smoothing

/-! Panics of listeners do a transfer no harm. One ends its pass and goes to the caller; the turn is free
again, and whatever is asked of the transfer from then on comes to what it would have come to without any
panic. The states and the decisions follow from what was asked for, in the order of the turns. -/
namespace TransferLifecycle.Transition

variable {α : Type}

def Goal.applies (state : State) : Goal → Bool
  | .move _ => !state.isTerminal
  | .announce _ => true

/-- What each of these requests finds, one after another. -/
def course (state : State) : List Goal → List (Goal × State)
  | [] => []
  | goal :: rest => (goal, state) :: course (goal.next state) rest

private theorem course_concat (state : State) (goals : List Goal) (goal : Goal) :
    course state (goals ++ [goal]) = course state goals ++ [(goal, goals.foldl Goal.next state)] := by
  induction goals generalizing state with
  | nil => rfl
  | cons first rest ih =>
    rw [List.cons_append, course, ih]
    rfl

variable {me : Nat} {l : Lifecycle α} {strand : Strand α} {act : Act} {e : Effect α} {deeds : List (Deed α)}

theorem Strand.Acts.enters (acts : strand.Acts me l act e) (tells : strand.Tells l deeds)
    (outside : strand.inside = false) : ∃ goal, l.turn = none ∧ e.core = { l with turn := some me } ∧
      e.strand = .standing (.inspect goal) ∧ e.deeds = [.entered goal l.state] := by
  cases tells with
  | @waiting goal =>
    cases acts with
    | enter free => exact ⟨goal, free, rfl, rfl, rfl⟩
  | entered | resolved | ignored => cases outside
  | pursued pursues =>
    rw [pursues.inside] at outside
    cases outside
  | refused | done | panicked => cases acts

theorem Carried.applies {description : String} {goal : Goal} (carried : Carried description goal deeds)
    {asked : Goal} {state : State} (told : .entered asked state ∈ deeds) : asked.applies state = true := by
  cases asked with
  | announce => rfl
  | move new => simp [Goal.applies, (carried.entered told).1]

theorem Ignored.applies {description : String} (ignored : Ignored description deeds) {asked : Goal}
    {state : State} (told : .entered asked state ∈ deeds) : asked.applies state = false := by
  cases ignored <;> simp_all [Goal.applies]

theorem Ignored.not_answered {description : String} (ignored : Ignored description deeds) (applied : Bool) :
    .answered applied ∉ deeds := by
  cases ignored <;> simp

/-- What is answered depends on what was found, and on nothing else; a request that panics has been applied. -/
theorem Strand.Tells.decides (tells : strand.Tells l deeds) {goal : Goal} {state : State}
    (found : .entered goal state ∈ deeds) :
    (∀ applied, .answered applied ∈ deeds → applied = goal.applies state) ∧
      (strand.broken = true → goal.applies state = true) := by
  cases tells with
  | waiting => cases found
  | entered | resolved => simp [Strand.broken]
  | ignored ignored =>
    exact ⟨fun applied told => (ignored.not_answered applied told).elim, fun broken => by cases broken⟩
  | pursued _ carries =>
    exact ⟨fun applied told => (carries.told.not_answered applied told).elim,
      fun _ => carries.told.applies found⟩
  | @refused deeds ignored =>
    refine ⟨fun applied told => ?_, fun broken => by cases broken⟩
    have before : .entered goal state ∈ deeds := by simpa using found
    rw [ignored.applies before]
    simpa [ignored.not_answered] using told
  | done carried =>
    refine ⟨fun applied told => ?_, fun broken => by cases broken⟩
    rw [carried.applies (by simpa using found)]
    simpa [carried.not_answered] using told
  | panicked carried =>
    exact ⟨fun applied told => (carried.not_answered applied told).elim, fun _ => carried.applies found⟩

theorem Strand.Tells.answered (tells : strand.Tells l deeds) (ended : strand = .ended) :
    ∃ applied, .answered applied ∈ deeds := by
  cases tells with
  | refused => exact ⟨false, by simp⟩
  | done => exact ⟨true, by simp⟩
  | pursued pursues =>
    subst ended
    cases pursues
  | _ => cases ended

namespace System

variable {s t : System α}

def goals (s : System α) : List Goal := s.finds.map (·.1)

structure Follows (s : System α) : Prop where
  finds : s.finds = course .waiting s.goals
  free : s.core.turn = none → s.core.state = s.goals.foldl Goal.next .waiting
  due : ∀ place strand, s.core.turn = some place → s.strands[place]? = some strand →
    strand.due s.core.state = s.goals.foldl Goal.next .waiting

theorem Follows.enter (follows : s.Follows) {place : Nat} {goal : Goal} {e : Effect α}
    (here : s.strands[place]? = some strand) (free : s.core.turn = none)
    (core : e.core = { s.core with turn := some place }) (stands : e.strand = .standing (.inspect goal))
    (deeds : e.deeds = [.entered goal s.core.state]) : (s.effect place e).Follows := by
  have finds : (s.effect place e).finds = s.finds ++ [(goal, s.core.state)] := by
    rw [finds_of_history (t := s.effect place e) rfl, deeds]
    rfl
  have goals : (s.effect place e).goals = s.goals ++ [goal] := by
    rw [System.goals, finds, List.map_append]
    rfl
  refine ⟨?_, fun idle => ?_, fun spot strand turn found => ?_⟩
  · rw [finds, goals, course_concat, ← follows.finds, ← follows.free free]
  · rw [show (s.effect place e).core = e.core from rfl, core] at idle
    cases idle
  · rw [show (s.effect place e).core = e.core from rfl, core] at turn ⊢
    cases turn
    obtain ⟨-, rfl⟩ | ⟨elsewhere, -⟩ := found_effect here found
    · rw [stands, goals, List.foldl_append, ← follows.free free]
      rfl
    · exact absurd rfl elsewhere

theorem Follows.goOn (follows : s.Follows) {place : Nat} (here : s.strands[place]? = some strand)
    (acts : strand.Acts place s.core act e) (tells : strand.Tells s.core deeds)
    (inside : strand.inside = true) (turn : s.core.turn = some place) : (s.effect place e).Follows := by
  -- A request with the turn finds nothing new, and only it can change what the state is due to be.
  obtain ⟨own, rest⟩ := acts.holder ⟨fun _ => inside, fun _ => turn⟩
  obtain ⟨due, nothing⟩ := acts.due tells inside
  have settled := due.trans (follows.due place strand turn here)
  have finds : (s.effect place e).finds = s.finds := by
    rw [finds_of_history (t := s.effect place e) rfl, nothing, List.append_nil]
  have goals : (s.effect place e).goals = s.goals := by rw [System.goals, finds, System.goals]
  rw [← goals] at settled
  refine ⟨by rw [finds, goals, follows.finds], fun idle => ?_, fun spot other mine found => ?_⟩
  · have outside : e.strand.inside = false := by
      refine Bool.eq_false_iff.mpr fun still => ?_
      cases idle.symm.trans (own.mpr still)
    exact (Strand.due_of_outside outside _).symm.trans settled
  · obtain ⟨rfl, rfl⟩ | ⟨elsewhere, -⟩ := found_effect here found
    · exact settled
    · cases turn.symm.trans ((rest spot elsewhere).mp mine)
      exact absurd rfl elsewhere

variable [BEq α]

theorem Reachable.follows (reach : s.Reachable) : s.Follows := by
  refine reach.invariant Follows ?start ?request ?change ?act
  case start =>
    intro description
    exact ⟨rfl, fun _ => rfl, fun _ _ _ found => by cases found⟩
  case request =>
    intro s goal reach ih
    refine ⟨ih.finds, ih.free, fun place strand turn found => ?_⟩
    obtain old | ⟨rfl, rfl⟩ := found_request found
    · exact ih.due place strand turn old
    · obtain ⟨other, there, -⟩ := (reach.exclusive _).mp turn
      exact absurd (List.getElem?_eq_some_iff.mp there).1 (Nat.lt_irrefl _)
  case change =>
    intro s list ih
    exact ⟨ih.finds, ih.free, ih.due⟩
  case act =>
    intro s place strand act e reach ih found acts
    have tells := reach.tells found
    cases inside : strand.inside with
    | true => exact ih.goOn found acts tells inside ((reach.exclusive place).mpr ⟨strand, found, inside⟩)
    | false =>
      obtain ⟨goal, free, core, stands, deeds⟩ := acts.enters tells inside
      exact ih.enter found free core stands deeds

theorem Reachable.answers (reach : s.Reachable) {place : Nat} {goal : Goal} {state : State}
    (ended : s.strands[place]? = some .ended) (found : .entered goal state ∈ s.deedsOf place) :
    .answered (goal.applies state) ∈ s.deedsOf place := by
  have tells := reach.tells ended
  obtain ⟨applied, told⟩ := tells.answered rfl
  exact (tells.decides found).1 applied told ▸ told

private theorem Reachable.serves (reach : s.Reachable) (free : s.core.turn = none) (goal : Goal) :
    ∃ (actions : List (Action α)) (t : System α), (∀ action ∈ actions, action.CalmAt s.strands.length) ∧
      (s.request goal).run? actions = some t ∧ t.core.turn = none ∧ t.strands = s.strands ++ [.ended] ∧
      t.core.state = goal.next s.core.state ∧ t.core.observers.toList = s.core.observers.toList ∧
      .answered (goal.applies s.core.state) ∈ t.deedsOf s.strands.length := by
  have made : (s.request goal).strands[s.strands.length]? = some (.standing (.enter goal)) :=
    List.getElem?_concat_length
  let entry : Effect α :=
    { core := { s.core with turn := some s.strands.length }, strand := .standing (.inspect goal)
      deeds := [.entered goal s.core.state] }
  have acts : (Strand.standing (.enter goal)).Acts s.strands.length s.core .move entry := .enter free
  have entered : (s.request goal).perform? (.act s.strands.length .move) =
      some ((s.request goal).effect s.strands.length entry) := perform_of_act made acts.acted
  have reached : ((s.request goal).effect s.strands.length entry).Reachable :=
    .next _ (.next (.request goal) reach rfl) entered
  have there : ((s.request goal).effect s.strands.length entry).strands[s.strands.length]? =
      some (.standing (.inspect goal)) :=
    List.getElem?_set_self (List.getElem?_eq_some_iff.mp made).1
  obtain ⟨actions, t, calm, ran, finished⟩ := reached.finishes there rfl
  obtain ⟨more, history, -⟩ := finished.history
  have ended : t.strands = s.strands ++ [.ended] := by
    rw [finished.strands, effect, List.set_set, request]
    simp [Strand.broken]
  refine ⟨.act s.strands.length .move :: actions, t, ?_, (congrArg (Option.bind · _) entered).trans ran,
    finished.free, ended, finished.state, finished.listeners, ?_⟩
  · intro action member
    obtain rfl | later := List.mem_cons.mp member
    · exact ⟨rfl, rfl⟩
    · exact calm action later
  · refine (reached.run actions ran).answers (ended ▸ List.getElem?_concat_length) ?_
    rw [deedsOf_of_history history, deedsOf_effect, if_pos rfl]
    exact List.mem_append_left _ (List.mem_append_right _ (List.mem_singleton.mpr rfl))

/-- How a transfer fares, whichever of its listeners have panicked in these actions. -/
structure Recovers (description : String) (actions : List (Action α)) (s : System α) : Prop where
  /-- A pass that begins here, a listener that it calls at some later time, its panic, and any time after. -/
  breaks {place : Nat} {state : State} {point : Point} {begun t broken after : System α}
    {meanwhile more : List (Action α)} {listener : α} {now : State} {pass : Pass.Point} {later : Point} :
    s.strands[place]? = some (.passing state .start point) → s.perform? (.act place .move) = some begun →
    begun.run? meanwhile = some t → t.strands[place]? = some (.calling listener now pass later) →
    t.perform? (.act place (.finish true)) = some broken → broken.run? more = some after →
    ∃ goal i, point = .notified goal ∧ now = goal.state ∧ s.core.observers.toList[i]? = some listener ∧
      t.called place = s.core.observers.toList.take (i + 1) ∧ after.Unwinding place goal (t.deedsOf place)
  /-- Whoever has the turn can give it back, on its own. -/
  usable (place : Nat) : s.core.turn = some place → ∃ (own : List (Action α)) (t : System α),
    (∀ action ∈ own, action.CalmAt place) ∧ s.run? own = some t ∧ t.core.turn = none
  serves (goal : Goal) : s.core.turn = none → ∃ (own : List (Action α)) (t : System α),
    (∀ action ∈ own, action.CalmAt s.strands.length) ∧ (s.request goal).run? own = some t ∧
      t.core.turn = none ∧ t.strands = s.strands ++ [.ended] ∧ t.core.state = goal.next s.core.state ∧
      t.core.observers.toList = s.core.observers.toList ∧
      .answered (goal.applies s.core.state) ∈ t.deedsOf s.strands.length
  /-- Whatever the past, what is asked for later comes to the same if the present is the same. -/
  likewise (t : System α) : t.Reachable → s.core.Alike t.core → s.core.turn = none → t.core.turn = none →
    ∀ (more : List (Action α)) (u : System α),
      s.run? (more.map (Action.shift s.strands.length)) = some u →
      ∃ v, t.run? (more.map (Action.shift t.strands.length)) = some v ∧ Parallel s t u v
  /-- The run with every panic replaced by a return. -/
  smooth : ∃ (others : List (Action α)) (t : System α), (∀ action ∈ others, action.calm = true) ∧
    others.filter Action.outer = actions.filter Action.outer ∧ run? (new description) others = some t ∧
      s.Smooths t
  /-- In every run with the same requests, the states are the same. -/
  agrees (t : System α) : t.Reachable → t.goals = s.goals → t.finds = s.finds ∧
    (s.core.turn = none → t.core.turn = none → t.core.state = s.core.state)
  decides (place : Nat) (goal : Goal) (state : State) : .entered goal state ∈ s.deedsOf place →
    (∀ applied, .answered applied ∈ s.deedsOf place → applied = goal.applies state) ∧
      ∀ strand ∈ s.strands[place]?, strand.broken = true → goal.applies state = true

theorem recovers [LawfulBEq α] {description : String} {actions : List (Action α)}
    (ran : run? (new description) actions = some s) : s.Recovers description actions := by
  have start : (new description : System α).Reachable := .start description
  have reach := start.run actions ran
  exact {
    breaks := fun standing begins ran calling panics ranOn =>
      reach.breaks standing begins ran calling panics ranOn
    usable := fun place turn => by
      obtain ⟨strand, found, inside⟩ := (reach.exclusive place).mp turn
      obtain ⟨own, t, calm, ranOn, finished⟩ := reach.finishes found inside
      exact ⟨own, t, calm, ranOn, finished.free⟩
    serves := fun goal free => reach.serves free goal
    likewise := fun t reachToo alike free freeToo more u ranOn =>
      (Parallel.start alike free freeToo).run reach reachToo ranOn
    smooth := (smooths_new description).run start start ran
    agrees := fun t reachToo same => by
      refine ⟨?_, fun free freeToo => ?_⟩
      · rw [reachToo.follows.finds, same, ← reach.follows.finds]
      · rw [reachToo.follows.free freeToo, same, ← reach.follows.free free]
    decides := fun place goal state told => by
      obtain ⟨strand, found⟩ := reach.found_of_told (mem_deedsOf.mp told)
      obtain ⟨answers, applies⟩ := (reach.tells found).decides told
      refine ⟨answers, fun other here broken => applies ?_⟩
      cases here.symm.trans found
      exact broken }

/-- The second listener panics in the pass of the first move, the first one in the pass of the terminal move, which
is between two panics that no move has to do with. The last move is ignored. -/
def stumbling : List (Action Nat) :=
  [.add 7, .add 8, .request (.move .inProgress)] ++ moves 0 6 ++ [.act 0 (.finish false)] ++ moves 0 1 ++
    [.act 0 (.finish true)] ++ moves 0 2 ++ [.request (.announce .waiting)] ++ moves 1 5 ++
    [.act 1 (.finish true)] ++ moves 1 2 ++ [.request (.move .completed)] ++ moves 2 6 ++
    [.act 2 (.finish true)] ++ moves 2 2 ++ [.request (.announce .completed)] ++ moves 3 5 ++
    [.act 3 (.finish true)] ++ moves 3 2 ++ [.request (.move .failed)] ++ moves 4 3

theorem recovers_stumbling : ∃ s : System Nat, run? (new "f") stumbling = some s ∧
    s.strands = [.panicked, .panicked, .panicked, .panicked, .ended] ∧ s.core.turn = none ∧
    s.core.state = .completed ∧ s.called 0 = [7, 8] ∧ s.called 2 = [7] ∧
    s.finds = [(.move .inProgress, .waiting), (.announce .waiting, .inProgress),
      (.move .completed, .inProgress), (.announce .completed, .completed), (.move .failed, .completed)] ∧
    s.Recovers "f" stumbling :=
  ⟨_, rfl, rfl, rfl, rfl, rfl, rfl, rfl, recovers rfl⟩

end System

end TransferLifecycle.Transition
