import TransferLifecycle.Proofs.Dispatch.Order

/-! Which firing queued which event. Only an undecided firing queues an event, namely its own, and once it
is decided it stays so. As the queue keeps its order, the event that is being delivered is that of the
firing that queued the one popped last. -/
namespace TransferLifecycle.Dispatch

variable {α : Type}

namespace System

def queuings (s : System α) : List Nat :=
  s.history.filterMap fun (place, deed) => (Deed.pushed? deed).map fun _ => place

def pushes (s : System α) : List (Nat × Event) :=
  s.history.filterMap fun (place, deed) => (Deed.pushed? deed).map (place, ·)

/-- The firing that queued the event popped last, and that event. -/
def source (s : System α) : Option (Nat × Event) := s.pushes[(s.told Deed.popped?).length - 1]?

def Decided (s : System α) (place : Nat) : Prop :=
  ∀ strand, s.strands[place]? = some strand → strand.undecided = none

end System

theorem pushed_of_acts {d : Dispatcher α} {strand : Strand α} {act : Act} {e : Effect α}
    (acts : strand.Acts d act e) :
    e.deeds.filterMap Deed.pushed? = [] ∨
      ∃ event, strand.undecided = some event ∧ e.deeds = [.pushed event] ∧ e.strand = .standing .claim := by
  cases acts with
  | push => exact Or.inr ⟨_, rfl, rfl, rfl⟩
  | _ => exact Or.inl rfl

theorem undecided_of_acts {d : Dispatcher α} {strand : Strand α} {act : Act} {e : Effect α}
    (acts : strand.Acts d act e) {event : Event} (undecided : e.strand.undecided = some event) :
    strand.undecided = some event ∧ e.begun = [] := by
  cases acts with
  | arrive | findOpen => exact ⟨undecided, rfl⟩
  | _ => cases undecided

namespace System

theorem queuings_effect (s : System α) (place : Nat) (e : Effect α) :
    (s.effect place e).queuings =
      s.queuings ++ (e.deeds.filterMap Deed.pushed?).map fun _ => place := by
  rw [queuings, effect, List.filterMap_append, List.filterMap_map, List.map_filterMap]
  rfl

theorem queuings_fire (s : System α) (event : Event) : (s.fire event).queuings = s.queuings := by
  simp [queuings, fire, Deed.pushed?]

theorem mem_queuings {s : System α} {place : Nat} :
    place ∈ s.queuings ↔ ∃ event, (place, .pushed event) ∈ s.history := by
  unfold queuings
  rw [List.mem_filterMap]
  constructor
  · rintro ⟨⟨other, deed⟩, member, same⟩
    cases deed <;> cases same
    exact ⟨_, member⟩
  · rintro ⟨event, member⟩
    exact ⟨_, member, rfl⟩

theorem mem_pushes {s : System α} {place : Nat} {event : Event} (queued : (place, event) ∈ s.pushes) :
    .pushed event ∈ s.deedsOf place := by
  obtain ⟨⟨other, deed⟩, member, same⟩ := List.mem_filterMap.mp queued
  cases deed <;> cases same
  simpa [deedsOf] using member

private theorem map_pushes (s : System α) : s.pushes.map (·.2) = s.told Deed.pushed? := by
  simp [pushes, told, deeds, List.map_filterMap, List.filterMap_map, Function.comp_def]

variable [BEq α] {s t : System α}

theorem not_queued (reach : s.Reachable) {place : Nat} {strand : Strand α}
    (found : s.strands[place]? = some strand) {event : Event}
    (undecided : strand.undecided = some event) : place ∉ s.queuings := by
  intro queued
  obtain ⟨pushed, told⟩ := mem_queuings.mp queued
  have judged := reach.judged found
  rw [Strand.Judged, undecided] at judged
  have member : Deed.pushed pushed ∈ s.deedsOf place := by
    simpa [deedsOf] using told
  have given : Verdict.pushed pushed ∈ (s.deedsOf place).filterMap Deed.verdict? :=
    List.mem_filterMap.mpr ⟨_, member, rfl⟩
  rw [judged.2] at given
  cases given

theorem Reachable.begun_eq (reach : s.Reachable) {place : Nat} {event : Event}
    (begun : .begun event ∈ s.deedsOf place) :
    (s.deedsOf place).filterMap Deed.begun? = [event] := by
  have inside : place < s.strands.length := by
    refine Decidable.byContradiction fun outside => ?_
    rw [reach.deedsOf_eq_nil (Nat.le_of_not_lt outside)] at begun
    cases begun
  have seen : event ∈ (s.deedsOf place).filterMap Deed.begun? := List.mem_filterMap.mpr ⟨_, begun, rfl⟩
  have judged := reach.judged (List.getElem?_eq_getElem inside)
  unfold Strand.Judged at judged
  split at judged
  case h_1 first _ =>
    rw [judged.1, List.mem_singleton] at seen
    rw [judged.1, seen]
  case h_2 =>
    obtain ⟨none, -⟩ | ⟨first, once, -⟩ := judged
    · rw [none] at seen
      cases seen
    · rw [once, List.mem_singleton] at seen
      rw [once, seen]

theorem Reachable.pushed_begun (reach : s.Reachable) {place : Nat} {event first : Event}
    (pushed : .pushed event ∈ s.deedsOf place) (begun : .begun first ∈ s.deedsOf place) :
    event = first := by
  have given : .pushed event ∈ s.verdicts place := List.mem_filterMap.mpr ⟨_, pushed, rfl⟩
  obtain ⟨-, none⟩ | ⟨verdict, possible, only⟩ := reach.verdict begun
  · rw [none] at given
    cases given
  · rw [only, List.mem_singleton] at given
    subst given
    simpa using possible

theorem decided_next {action : Action α} (performed : s.perform? action = some t) {place : Nat}
    (known : place < s.strands.length) (decided : s.Decided place) : t.Decided place := by
  cases action with
  | fire event =>
    cases Option.some.inj performed
    intro strand found
    obtain old | ⟨rfl, -⟩ := found_fire found
    · exact decided strand old
    · exact absurd known (Nat.lt_irrefl _)
  | act acting act =>
    obtain ⟨strand, e, here, acts, rfl⟩ := acts_of_perform performed
    intro other found
    obtain ⟨rfl, rfl⟩ | ⟨-, old⟩ | ⟨new, -⟩ := found_effect here found
    · cases undecided : e.strand.undecided with
      | none => rfl
      | some event =>
        have before := (undecided_of_acts acts undecided).1
        rw [decided strand here] at before
        cases before
    · exact decided other old
    · exact absurd known (Nat.not_lt.mpr new)
  | add | remove =>
    cases Option.some.inj performed
    exact decided

theorem mem_deedsOf_next {action : Action α} (performed : s.perform? action = some t) {place : Nat}
    {deed : Deed α} (told : deed ∈ s.deedsOf place) : deed ∈ t.deedsOf place := by
  cases action with
  | fire event =>
    cases Option.some.inj performed
    rw [deedsOf_fire]
    exact List.mem_append_left _ told
  | act acting act =>
    obtain ⟨strand, e, -, -, rfl⟩ := acts_of_perform performed
    rw [deedsOf_effect]
    exact List.mem_append_left _ told
  | add | remove =>
    cases Option.some.inj performed
    exact told

theorem length_le_next {action : Action α} (performed : s.perform? action = some t) :
    s.strands.length ≤ t.strands.length := by
  cases action with
  | fire event =>
    cases Option.some.inj performed
    simp
  | act acting act =>
    obtain ⟨strand, e, -, -, rfl⟩ := acts_of_perform performed
    simp
  | add | remove =>
    cases Option.some.inj performed
    exact Nat.le_refl _

end System

def Strand.atWork : Strand α → List Event
  | .standing (.inHand _ event) | .passing event _ | .calling _ event _ => [event]
  | _ => []

def Deed.taken? (deed : Deed α) : Option Event := deed.popped?.map (·.2)

def Deed.finished? : Deed α → Option Event
  | .through event | .discarded event => some event
  | _ => none

private theorem atWork_hold : Hold (α := α) _ Strand.atWork Deed.taken? Deed.finished? where
  atMostOne strand := by unfold Strand.atWork; split <;> simp
  owned strand := by unfold Strand.atWork; split <;> simp [Strand.owns, Point.owns]
  queued := rfl
  arriving _ := rfl
  begun _ := ⟨rfl, rfl⟩
  needsOwner deed := by cases deed <;> simp [Deed.taken?, Deed.popped?, Deed.finished?, Deed.needsOwner]
  acts d strand act e acts := by
    cases acts <;> simp [List.filterMap_cons, Strand.atWork, Deed.taken?, Deed.popped?, Deed.finished?]

theorem System.Reachable.source_of_calling [BEq α] {s : System α} (reach : s.Reachable) {listener : α}
    {event : Event} {pass : Pass.Point} (member : .calling listener event pass ∈ s.strands) :
    ∃ firing, s.source = some (firing, event) := by
  obtain ⟨place, found⟩ := List.mem_iff_getElem?.mp member
  have held : s.strands.flatMap Strand.atWork = [event] := reach.held_by_owner atWork_hold found rfl
  have flow := reach.flow atWork_hold
  rw [held] at flow
  have taken : (s.told Deed.popped?).map (·.2) = s.told Deed.finished? ++ [event] := by
    rw [← flow, told, told, List.map_filterMap]
    rfl
  have last : (s.told Deed.popped?).length - 1 = (s.told Deed.finished?).length := by
    have count := congrArg List.length taken
    simp at count
    omega
  have popped : (s.pushes.map (·.2))[(s.told Deed.finished?).length]? = some event := by
    rw [map_pushes, reach.pushed_eq, taken]
    simp
  rw [List.getElem?_map, Option.map_eq_some_iff] at popped
  obtain ⟨⟨firing, pushed⟩, there, rfl⟩ := popped
  exact ⟨firing, by rw [source, last, there]⟩

end TransferLifecycle.Dispatch
