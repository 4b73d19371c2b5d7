import Mathlib.Data.List.Pairwise
import TransferLifecycle.Proofs.Announcing.Record

/-! The order of the moves. Moves pass in the order in which they are applied, and fire their events in the
order in which they pass, for each does all this while it has the turn. So at any time the events fired
are those of the moves that have passed, but for the one that is going to be fired next. -/
namespace TransferLifecycle.Announcing

open Transition (Deed Goal Point)

variable {α β γ : Type}

def Point.aims : Point → List State
  | .notified (.move state) => [state]
  | _ => []

def underWay (place : Nat) : Transition.Strand α → List (Nat × State)
  | .standing (.notify (.move state)) => [(place, state)]
  | .passing _ _ point | .calling _ _ _ point => (Point.aims point).map (place, ·)
  | _ => []

def due (place : Nat) : Transition.Strand α → List (Nat × State)
  | .standing (.entered state) => [(place, state)].filter (·.2.entryEvent.isSome)
  | _ => []

def Silent (view : Nat → Transition.Strand α → List γ) : Prop :=
  ∀ place strand, Transition.Strand.inside strand = false → view place strand = []

private theorem silent_due : Silent (α := α) due := by
  intro place strand outside
  cases strand with
  | standing point => cases point <;> first | rfl | cases outside
  | _ => rfl

private theorem silent_underWay : Silent (α := α) underWay := by
  intro place strand outside
  cases strand with
  | standing point => cases point <;> first | rfl | cases outside
  | passing state pass point => cases point <;> first | rfl | cases outside
  | calling listener state pass point => cases point <;> first | rfl | cases outside
  | _ => rfl

variable {me : Nat} {l : Lifecycle α} {strand : Transition.Strand α} {act : Transition.Act}
  {e : Transition.Effect α} {r : Record α}

def movesOf (place : Nat) (deeds : List (Deed α)) : List (Nat × State) :=
  deeds.filterMap fun deed => deed.move?.map fun move => (place, move.2)

private theorem moves_of_acts (acts : strand.Acts me l act e) :
    movesOf me e.deeds = [] ∨ ∃ old new, strand = .standing (.store old new) ∧
      movesOf me e.deeds = [(me, new)] := by
  cases acts with
  | store => exact Or.inr ⟨_, _, rfl, rfl⟩
  | _ => exact Or.inl rfl

private theorem order_of_acts (acts : strand.Acts me l act e) (accords : Accords l strand r)
    {before passed : List (Nat × State)} (inOrder : passed.Sublist before) :
    ∃ after, before ++ underWay me strand ++ movesOf me e.deeds = after ++ underWay me e.strand ∧
      (passed ++ (passes strand e.strand).map (me, ·)).Sublist after := by
  cases acts with
  | @store old new => exact ⟨before, by simp [underWay, movesOf, Deed.move?], by simpa [passes]⟩
  | @notify goal =>
    refine ⟨before, ?_, by simpa [passes]⟩
    cases goal <;> simp [underWay, movesOf, Point.aims]
  | @endPass state snapshot index point absent =>
    cases accords with
    | unmoved early => cases early
    | spent late => cases late
    | @visiting goal =>
      cases goal with
      | announce state =>
        exact ⟨before, by simp [underWay, movesOf, Point.aims, Transition.resume], by
          simpa [passes, Transition.resume]⟩
      | move state =>
        refine ⟨before ++ [(me, state)], ?_, ?_⟩
        · simp [underWay, movesOf, Point.aims, Transition.resume]
        · exact inOrder.append (List.Sublist.refl _)
  | @broken listener state pass point =>
    refine ⟨before ++ underWay me (.calling listener state pass point), ?_, ?_⟩
    · simp [underWay, movesOf]
    · simpa [passes] using inOrder.trans (List.sublist_append_left _ _)
  | @fired kind point | @misfired kind point =>
    refine ⟨before, ?_, by simpa [passes]⟩
    cases accords with
    | unmoved early => cases early
    | spent late => cases point with
      | fired => simp [underWay, movesOf, Transition.resume]
      | _ => cases late
  | _ => exact ⟨before, by simp [underWay, movesOf, Deed.move?], by simpa [passes]⟩

/-- A move that has passed is announced next, if its state has an event. -/
theorem due_of_acts (acts : strand.Acts me l act e) (accords : Accords l strand r) :
    due me strand ++ ((passes strand e.strand).map (me, ·)).filter (·.2.entryEvent.isSome) =
      (announces strand e.strand).toList.map (fun (state, _) => (me, state)) ++ due me e.strand := by
  cases acts with
  | fire event => simp [due, announces, passes, event]
  | fireNothing silent => simp [due, announces, passes, silent]
  | @endPass state snapshot index point absent =>
    cases Transition.resume point <;> simp [due, announces, passes]
  | @fired kind point =>
    cases accords with
    | unmoved early => cases early
    | spent late => cases point with
      | fired => rfl
      | _ => cases late
  | _ => rfl

namespace System

def applied (s : System α β) : List (Nat × State) :=
  s.transition.history.filterMap fun (place, deed) => deed.move?.map fun move => (place, move.2)

def fired (s : System α β) : List EventKind := s.transition.history.filterMap (fired? ·.2)

def held (s : System α β) (view : Nat → Transition.Strand α → List γ) : List γ :=
  match s.transition.core.turn with
  | some place => (s.transition.strands[place]?).elim [] (view place)
  | none => []

private theorem applied_effect (s : System α β) (place : Nat) (strand : Transition.Strand α)
    (e : Transition.Effect α) :
    (s.effect place strand e).applied = s.applied ++ movesOf place e.deeds := by
  simp [applied, effect, Transition.System.effect, movesOf, List.filterMap_map]

private theorem fired_effect (s : System α β) (place : Nat) (strand : Transition.Strand α)
    (e : Transition.Effect α) :
    (s.effect place strand e).fired = s.fired ++ e.deeds.filterMap fired? := by
  simp [fired, effect, Transition.System.effect, List.filterMap_map]

theorem moved_of_applied {s : System α β} {place : Nat} {state : State}
    (applied : (place, state) ∈ s.applied) : state ∈ (s.record place).moved := by
  obtain ⟨⟨other, deed⟩, told, same⟩ := List.mem_filterMap.mp applied
  obtain ⟨move, moved, same⟩ := Option.map_eq_some_iff.mp same
  cases same
  refine List.mem_map.mpr ⟨move, List.mem_filterMap.mpr ⟨deed, ?_, moved⟩, rfl⟩
  exact Transition.System.mem_deedsOf.mpr told

theorem mem_passed {s : System α β} {place : Nat} {state : State} :
    (place, state) ∈ s.passed ↔ state ∈ (s.record place).passed := by
  simp [record]

variable [BEq α] [BEq β] {s : System α β}

private theorem Reachable.held_of_inside (reach : s.Reachable) {place : Nat} {strand : Transition.Strand α}
    (found : s.transition.strands[place]? = some strand) (inside : strand.inside = true)
    (view : Nat → Transition.Strand α → List γ) : s.held view = view place strand := by
  have turn := (reach.components.1.exclusive place).mpr ⟨strand, found, inside⟩
  simp [held, turn, found]

private theorem Reachable.turn_of_acts (reach : s.Reachable) {place : Nat} {strand : Transition.Strand α}
    (found : s.transition.strands[place]? = some strand)
    (acts : strand.Acts place s.transition.core act e) (outside : strand.inside = false) :
    s.transition.core.turn = none := by
  obtain ⟨goal, rfl⟩ | gone := (reach.accords found).outside_cases outside
  · cases acts with
    | enter free => exact free
  · rw [acts.not_gone] at gone
    cases gone

private theorem Reachable.held_before (reach : s.Reachable) {place : Nat} {strand : Transition.Strand α}
    (found : s.transition.strands[place]? = some strand)
    (acts : strand.Acts place s.transition.core act e)
    {view : Nat → Transition.Strand α → List γ} (silent : Silent view) :
    s.held view = view place strand := by
  cases inside : strand.inside with
  | true => exact reach.held_of_inside found inside view
  | false =>
    rw [silent place strand inside, held, reach.turn_of_acts found acts inside]

theorem Reachable.held_after (reach : s.Reachable) {place : Nat} {strand : Transition.Strand α}
    (found : s.transition.strands[place]? = some strand)
    (acts : strand.Acts place s.transition.core act e)
    {view : Nat → Transition.Strand α → List γ} (silent : Silent view) :
    (s.effect place strand e).held view = view place e.strand := by
  have bound := (List.getElem?_eq_some_iff.mp found).1
  have now : (s.effect place strand e).transition.strands[place]? = some e.strand :=
    List.getElem?_set_self bound
  have turn := reach.components.1.exclusive place
  have mine : s.transition.core.turn = some place ↔ strand.inside = true := by
    rw [turn]
    simp [found]
  obtain ⟨own, rest⟩ := acts.holder mine
  have core : (s.effect place strand e).transition.core = e.core := rfl
  cases inside : e.strand.inside with
  | true => simp [held, core, own.mpr inside, now]
  | false =>
    rw [silent place e.strand inside, held, core]
    cases holder : e.core.turn with
    | none => rfl
    | some other =>
      -- Nobody else can have the turn now, as nobody else had it before.
      have elsewhere : place ≠ other := by
        rintro rfl
        rw [own.mp holder] at inside
        cases inside
      have before := (rest other elsewhere).mp holder
      cases within : strand.inside with
      | true =>
        have both := mine.mpr within
        rw [before] at both
        exact (elsewhere (Option.some.inj both).symm).elim
      | false =>
        rw [reach.turn_of_acts found acts within] at before
        cases before

structure Ordered (s : System α β) : Prop where
  passing : ∃ before, s.applied = before ++ s.held underWay ∧ s.passed.Sublist before
  announcing : s.passed.filter (·.2.entryEvent.isSome) =
    s.announced.map (fun a => (a.request, a.state)) ++ s.held due
  firing : s.fired = s.announced.filterMap (·.state.entryEvent)
  once : s.applied.Nodup

private theorem Reachable.held_request (reach : s.Reachable) (goal : Goal)
    (view : Nat → Transition.Strand α → List γ) :
    ({ s with transition := s.transition.request goal } : System α β).held view = s.held view := by
  have core : (s.transition.request goal).core = s.transition.core := rfl
  unfold held
  rw [core]
  cases turn : s.transition.core.turn with
  | none => rfl
  | some place =>
    obtain ⟨strand, found, -⟩ := (reach.components.1.exclusive place).mp turn
    have bound := (List.getElem?_eq_some_iff.mp found).1
    simp [Transition.System.request, List.getElem?_append_left bound]

theorem Ordered.effect (ordered : s.Ordered) (reach : s.Reachable) {place : Nat}
    {strand : Transition.Strand α} (found : s.transition.strands[place]? = some strand)
    (acts : strand.Acts place s.transition.core act e) : (s.effect place strand e).Ordered := by
  have accords := reach.accords found
  refine ⟨?passing, ?announcing, ?firing, ?once⟩
  case passing =>
    obtain ⟨before, applied, inOrder⟩ := ordered.passing
    rw [reach.held_before found acts silent_underWay] at applied
    obtain ⟨after, moved, inOrder⟩ := order_of_acts acts accords inOrder
    refine ⟨after, ?_, inOrder⟩
    rw [applied_effect, applied, moved, reach.held_after found acts silent_underWay]
  case announcing =>
    have announcing := ordered.announcing
    rw [reach.held_before found acts silent_due] at announcing
    have balance := due_of_acts acts accords
    have listed : (s.effect place strand e).announced.map (fun a => (a.request, a.state)) =
        s.announced.map (fun a => (a.request, a.state)) ++
          (announces strand e.strand).toList.map (fun (state, _) => (place, state)) := by
      simp [System.effect, Function.comp_def]
    rw [reach.held_after found acts silent_due, listed, List.append_assoc, ← balance,
      ← List.append_assoc, ← announcing]
    exact List.filter_append _ _
  case firing =>
    rw [fired_effect, ordered.firing]
    obtain ⟨nothing, silent⟩ | ⟨state, kind, event, rfl, rfl⟩ := announces_of_acts acts
    · simp [System.effect, nothing, silent]
    · simp [System.effect, announces, fired?, event]
  case once =>
    rw [applied_effect]
    obtain none | ⟨old, new, rfl, one⟩ := moves_of_acts acts
    · rw [none, List.append_nil]
      exact ordered.once
    · rw [one]
      refine List.nodup_append.mpr ⟨ordered.once, List.pairwise_singleton _ _, ?_⟩
      rintro _ earlier _ now rfl
      -- A request that is going to move has not moved yet.
      have moved := moved_of_applied (List.mem_singleton.mp now ▸ earlier)
      rw [accords.record_of_store] at moved
      cases moved

theorem Reachable.ordered (reach : s.Reachable) : s.Ordered := by
  refine reach.invariant Ordered ?start ?request ?change ?act ?dispatch
  case start =>
    intro description
    exact ⟨⟨[], rfl, .slnil⟩, rfl, rfl, .nil⟩
  case request =>
    rintro s goal reach ⟨passing, announcing, firing, once⟩
    refine ⟨?_, ?_, firing, once⟩
    · rw [reach.held_request]
      exact passing
    · rw [reach.held_request]
      exact announcing
  case change =>
    intro s list _ ih
    exact ⟨ih.passing, ih.announcing, ih.firing, ih.once⟩
  case dispatch =>
    intro s action dispatch _ ih _
    exact ⟨ih.passing, ih.announcing, ih.firing, ih.once⟩
  case act =>
    intro s place strand act e reach ih found acts _
    exact ih.effect reach found acts

end System

end TransferLifecycle.Announcing
