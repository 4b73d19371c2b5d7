import TransferLifecycle.Proofs.Announcing.Delivery

/-! The events of a transfer tell its states. What the moves fire are the events of the states whose passes
are over, in the order in which these were applied. The event of a terminal state is the last one, and
as the state stays, a progress listener that is called with the event finds it, however late. -/
namespace TransferLifecycle.Announcing

open Transition (Deed)

variable {α β γ δ ε : Type}

def ends : EventKind → Bool
  | .completed | .failed | .canceled => true
  | _ => false

/-- Which event tells which state. The start and the three ends of a transfer have one each. -/
inductive Tells : State → EventKind → Prop
  | started : Tells .inProgress .started
  | completed : Tells .completed .completed
  | failed : Tells .failed .failed
  | canceled : Tells .canceled .canceled

private theorem entryEvent_eq_some {state : State} {kind : EventKind} :
    state.entryEvent = some kind ↔ Tells state kind := by
  constructor
  · intro event
    cases state <;> cases event <;> constructor
  · intro tells
    cases tells <;> rfl

private theorem ends_eq {state : State} {kind : EventKind} (event : state.entryEvent = some kind) :
    ends kind = state.isTerminal := by
  cases state <;> cases event <;> rfl

private theorem entryEvent_eq_none {state : State} :
    state.entryEvent = none ↔ state = .waiting ∨ state = .partiallyCompleted := by
  cases state <;> simp [State.entryEvent]

private theorem sublist_eq_filter [BEq γ] [LawfulBEq γ] {some all : List γ} (within : some.Sublist all)
    (once : all.Nodup) : all.filter (fun x => decide (x ∈ some)) = some := by
  induction within with
  | slnil => rfl
  | @cons some all x within ih =>
    obtain ⟨fresh, once⟩ := List.nodup_cons.mp once
    have absent : x ∉ some := fun member => fresh (within.mem member)
    rw [List.filter_cons_of_neg (by simpa using absent), ih once]
  | @cons_cons some all x within ih =>
    obtain ⟨fresh, once⟩ := List.nodup_cons.mp once
    rw [List.filter_cons_of_pos (by simp)]
    refine congrArg (x :: ·) (Eq.trans (List.filter_congr ?_) (ih once))
    intro y member
    have other : y ≠ x := by
      rintro rfl
      exact fresh member
    simp [other]

private theorem filterMap_filter_isSome (f : γ → Option δ) (list : List γ) :
    (list.filter fun x => (f x).isSome).filterMap f = list.filterMap f := by
  induction list with
  | nil => rfl
  | cons x rest ih => cases here : f x <;> simp [here, ih]

private theorem flatMap_eq_map_filterMap {f : γ → List ε} {g : γ → Option δ} {h : δ → ε}
    {list : List γ} (each : ∀ x ∈ list, f x = ((g x).map h).toList) :
    list.flatMap f = (list.filterMap g).map h := by
  induction list with
  | nil => rfl
  | cons x rest ih =>
    have others := ih fun y member => each y (List.mem_cons_of_mem _ member)
    rw [List.flatMap_cons, each x List.mem_cons_self, others]
    cases here : g x <;> simp [here]

private theorem countP_le_one_of_pairwise {p : γ → Bool} {list : List γ}
    (last : list.Pairwise fun earlier _ => p earlier = false) : list.countP p ≤ 1 := by
  induction last with
  | nil => simp
  | @cons x rest first _ ih =>
    cases here : p x with
    | false => rw [List.countP_cons_of_neg (by simp [here])]; exact ih
    | true => cases rest with
      | nil => simp [here]
      | cons y rest =>
        have none := first y List.mem_cons_self
        rw [here] at none
        cases none

namespace System

/-- The events of a transfer tell its states. -/
structure Faithful (s : System α β) : Prop where
  /-- A move has passed, or it has the turn, or a listener has panicked. -/
  settled : ∀ move ∈ s.applied, move ∈ s.passed ∨ s.transition.core.turn = some move.1 ∨
    s.transition.strands[move.1]? = some .panicked
  /-- The events fired are those of the moves that have passed, in the order in which they were applied;
  at most one of them is still to be fired, by the move that has the turn. -/
  events : (s.applied.filter (· ∈ s.passed)).filterMap (·.2.entryEvent) =
    s.fired ++ (s.held due).filterMap (·.2.entryEvent)
  exact : s.transition.core.turn = none →
    (s.applied.filter (· ∈ s.passed)).filterMap (·.2.entryEvent) = s.fired
  table : ∀ state kind, State.entryEvent state = some kind ↔ Tells state kind
  silent : ∀ move ∈ s.passed,
    move.2.entryEvent = none ↔ move.2 = .waiting ∨ move.2 = .partiallyCompleted
  /-- The firings begin in that order, and each is decided before the next begins. -/
  offered : s.announced.flatMap (fun a =>
    (s.dispatch.deedsOf a.firing).filterMap Dispatch.Deed.begun?) = s.fired.map Event.lifecycle
  rising : s.announced.Pairwise fun earlier later =>
    earlier.firing < later.firing ∧ s.dispatch.Decided earlier.firing
  queued : (s.dispatch.queuings.filter fun place =>
    decide (place ∈ s.announced.map (·.firing))).Pairwise (· < ·)
  /-- By then all the listeners that were there when the pass began have been called. -/
  heard : ∀ a ∈ s.announced, ∃ listeners,
    (s.gathered.filter (·.1 == a.request)).map (·.2) = [listeners] ∧
    (s.transition.deedsOf a.request).filterMap called? = listeners.map (·, a.state)
  once : s.fired.countP ends ≤ 1
  last : s.fired.Pairwise fun earlier _ => ends earlier = false
  lasting : ∀ a ∈ s.announced, a.state.isTerminal = true → s.transition.core.state = a.state
  /-- A listener is called with the event of some firing, and if a move has fired it and it says that the
  transfer has ended, then it has, in that state. -/
  reaches : ∀ listener event pass, .calling listener event pass ∈ s.dispatch.strands →
    ∃ firing, s.dispatch.source = some (firing, event) ∧ ∀ a ∈ s.announced, a.firing = firing →
      a.state.entryEvent = some event.kind ∧
      (ends event.kind = true →
        s.transition.core.state = a.state ∧ Tells s.transition.core.state event.kind)

variable {s : System α β}

private theorem Ordered.passed_sublist (ordered : s.Ordered) : s.passed.Sublist s.applied := by
  obtain ⟨before, applied, within⟩ := ordered.passing
  rw [applied]
  exact within.trans (List.sublist_append_left _ _)

private theorem Ordered.announced_sublist (ordered : s.Ordered) :
    (s.announced.map fun a => (a.request, a.state)).Sublist
      (s.passed.filter (·.2.entryEvent.isSome)) := by
  rw [ordered.announcing]
  exact List.sublist_append_left _ _

private theorem Ordered.passed_of_announced (ordered : s.Ordered) {a : Announcement} (member : a ∈ s.announced) :
    (a.request, a.state) ∈ s.passed ∧ ∃ kind, a.state.entryEvent = some kind := by
  have listed := ordered.announced_sublist.mem (List.mem_map_of_mem member)
  obtain ⟨passed, event⟩ := List.mem_filter.mp listed
  exact ⟨passed, Option.isSome_iff_exists.mp event⟩

private theorem map_applied (s : System α β) : s.applied.map (·.2) = s.transition.path.map (·.2) := by
  simp [applied, Transition.System.path, List.map_filterMap, Function.comp_def]

variable [BEq α] [BEq β]

private theorem Reachable.applied_final (reach : s.Reachable) :
    s.applied.Pairwise fun earlier _ => earlier.2.isTerminal = false := by
  have final := reach.components.1.path.final
  have states : (s.applied.map (·.2)).Pairwise fun earlier _ => earlier.isTerminal = false := by
    rw [map_applied]
    exact List.pairwise_map.mpr final
  exact List.pairwise_map.mp states

private theorem Reachable.state_of_applied (reach : s.Reachable) {place : Nat} {state : State}
    (applied : (place, state) ∈ s.applied) (terminal : state.isTerminal = true) :
    s.transition.core.state = state := by
  have among : state ∈ s.transition.path.map (·.2) := by
    rw [← map_applied]
    exact List.mem_map_of_mem applied
  obtain ⟨move, member, rfl⟩ := List.mem_map.mp among
  exact reach.components.1.path.stays move member terminal

private theorem Reachable.settled_of_applied (reach : s.Reachable) {place : Nat} {state : State}
    (applied : (place, state) ∈ s.applied) : (place, state) ∈ s.passed ∨
      s.transition.core.turn = some place ∨ s.transition.strands[place]? = some .panicked := by
  have moved := moved_of_applied applied
  cases found : s.transition.strands[place]? with
  | none =>
    rw [reach.accounts.2 place (List.getElem?_eq_none_iff.mp found)] at moved
    cases moved
  | some strand =>
    have accords := reach.accords found
    cases inside : strand.inside with
    | true => exact Or.inr (Or.inl ((reach.components.1.exclusive place).mpr ⟨strand, found, inside⟩))
    | false =>
      generalize recorded : s.record place = r at moved accords
      cases accords with
      | unmoved => cases moved
      | spent _ all =>
        refine Or.inl (mem_passed.mpr ?_)
        rwa [recorded, all]
      | panicked => exact Or.inr (Or.inr rfl)
      | _ => cases inside

theorem Reachable.lasting (reach : s.Reachable) {a : Announcement} (member : a ∈ s.announced)
    (terminal : a.state.isTerminal = true) : s.transition.core.state = a.state := by
  have passed := (reach.ordered.passed_of_announced member).1
  exact reach.state_of_applied (reach.ordered.passed_sublist.mem passed) terminal

private theorem Reachable.fired_final (reach : s.Reachable) :
    s.fired.Pairwise fun earlier _ => ends earlier = false := by
  have ordered := reach.ordered
  have within := (ordered.announced_sublist.trans List.filter_sublist).trans ordered.passed_sublist
  have announced := List.pairwise_map.mp (reach.applied_final.sublist within)
  rw [ordered.firing]
  refine List.Pairwise.filterMap _ ?_ announced
  intro earlier later opened kind event _ _
  rw [ends_eq event]
  exact opened

theorem Reachable.events (reach : s.Reachable) :
    (s.applied.filter (· ∈ s.passed)).filterMap (·.2.entryEvent) =
      s.fired ++ (s.held due).filterMap (·.2.entryEvent) := by
  have ordered := reach.ordered
  have passed : s.applied.filter (· ∈ s.passed) = s.passed :=
    sublist_eq_filter ordered.passed_sublist ordered.once
  rw [passed, ← filterMap_filter_isSome, ordered.announcing, List.filterMap_append, ordered.firing]
  simp [List.filterMap_map]

/-- A listener is called with an event that was fired, and the move that fired it is still believed. -/
theorem Reachable.reaches (reach : s.Reachable) {listener : β} {event : Event} {pass : Pass.Point}
    (member : .calling listener event pass ∈ s.dispatch.strands) :
    ∃ firing, s.dispatch.source = some (firing, event) ∧ ∀ a ∈ s.announced, a.firing = firing →
      a.state.entryEvent = some event.kind ∧
      (ends event.kind = true →
        s.transition.core.state = a.state ∧ Tells s.transition.core.state event.kind) := by
  have dispatch := reach.components.2
  obtain ⟨firing, source⟩ := dispatch.source_of_calling member
  refine ⟨firing, source, ?_⟩
  rintro a announced rfl
  obtain ⟨-, kind, known⟩ := reach.ordered.passed_of_announced announced
  have pushed := Dispatch.System.mem_pushes (List.mem_of_getElem? source)
  obtain rfl := dispatch.pushed_begun pushed (reach.heralded.begun a announced kind known)
  refine ⟨known, ?_⟩
  intro terminal
  have lasts := reach.lasting announced ((ends_eq known).symm.trans terminal)
  exact ⟨lasts, lasts ▸ entryEvent_eq_some.mp known⟩

/-- However many threads ask for moves, fire events and run listeners, and in whatever order, the events
that the moves fire tell the states of the transfer. -/
theorem Reachable.faithful (reach : s.Reachable) : s.Faithful where
  settled move applied := reach.settled_of_applied applied
  events := reach.events
  exact free := by
    have none : s.held due = [] := by
      rw [held, free]
    rw [reach.events, none, List.filterMap_nil, List.append_nil]
  table _ _ := entryEvent_eq_some
  silent move _ := entryEvent_eq_none
  offered := by
    rw [reach.ordered.firing]
    refine flatMap_eq_map_filterMap ?_
    intro a member
    obtain ⟨-, kind, event⟩ := reach.ordered.passed_of_announced member
    rw [event]
    exact reach.components.2.begun_eq (reach.heralded.begun a member kind event)
  rising := reach.heralded.rising
  queued := reach.heralded.queued
  heard a member := by
    have passed := (reach.ordered.passed_of_announced member).1
    exact reach.heard a.request a.state (mem_passed.mp passed)
  once := countP_le_one_of_pairwise reach.fired_final
  last := reach.fired_final
  lasting a member terminal := reach.lasting member terminal
  reaches listener event pass member := reach.reaches member

def moves (place count : Nat) : List (Action Nat Nat) :=
  List.replicate count (.transition (.act place .move))

def delivers (place count : Nat) : List (Action Nat Nat) :=
  List.replicate count (.dispatch (.act place .move))

/-- The listener panics at the first move. The second one ends the transfer, and has left by the time the
executor calls the progress listener. -/
def faltering (target : State) : List (Action Nat Nat) :=
  [.transition (.add 7), .dispatch (.add 9), .transition (.request (.move .inProgress)),
    .transition (.request (.move target))] ++
  moves 0 6 ++ [.transition (.act 0 (.finish true))] ++ moves 0 2 ++
  moves 1 6 ++ [.transition (.act 1 (.finish false))] ++ moves 1 2 ++
  delivers 0 4 ++ [.dispatch (.act 0 .accept), .dispatch (.act 0 .comeBack)] ++ delivers 0 1 ++
  [.transition (.act 1 (.finish false))] ++ moves 1 1 ++ [.dispatch (.act 1 .start)] ++ delivers 1 4

structure Faltered (target : State) (kind : EventKind) (s : System Nat Nat) : Prop where
  ran : run? (new "fetch") (faltering target) = some s
  applied : s.applied = [(0, .inProgress), (1, target)]
  passed : s.passed = [(1, target)]
  stand : s.transition.strands = [.panicked, .ended]
  fired : s.fired = [kind]
  announced : s.announced = [⟨1, target, 0⟩]
  calling : ∃ pass, s.dispatch.strands[1]? = some (.calling 9 (.lifecycle kind) pass)
  state : s.transition.core.state = target

theorem faithful_faltering : (∃ s, Faltered .completed .completed s ∧ s.Faithful) ∧
    (∃ s, Faltered .failed .failed s ∧ s.Faithful) ∧
    (∃ s, Faltered .canceled .canceled s ∧ s.Faithful) := by
  have faithful {target : State} {kind : EventKind} (faltered : ∃ s, Faltered target kind s) :
      ∃ s, Faltered target kind s ∧ s.Faithful := by
    obtain ⟨s, faltered⟩ := faltered
    exact ⟨s, faltered, Reachable.faithful (.run (.start "fetch") (faltering target) faltered.ran)⟩
  refine ⟨faithful ?completed, faithful ?failed, faithful ?canceled⟩
  case completed => exact ⟨_, rfl, rfl, rfl, rfl, rfl, rfl, ⟨_, rfl⟩, rfl⟩
  case failed => exact ⟨_, rfl, rfl, rfl, rfl, rfl, rfl, ⟨_, rfl⟩, rfl⟩
  case canceled => exact ⟨_, rfl, rfl, rfl, rfl, rfl, rfl, ⟨_, rfl⟩, rfl⟩

end System

end TransferLifecycle.Announcing
