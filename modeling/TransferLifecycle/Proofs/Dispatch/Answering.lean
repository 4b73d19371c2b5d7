import TransferLifecycle.Proofs.Dispatch.Closing
import TransferLifecycle.Proofs.Dispatch.Strokes

/-! From the executor's answer that it is shutting down to the closing of the dispatcher. The refused
firing has the claim all the while and its next step is the closing, so nobody else is offered or
refused in between, and nobody can tell whether the executor has answered yet. -/
namespace TransferLifecycle.Dispatch

variable {α : Type} {d : Dispatcher α} {strand : Strand α} {act : Act} {e : Effect α}

namespace Strand.Acts

theorem closing (acts : strand.Acts d act e) (opened : d.closed = false) (closed : e.core.closed = true) :
    strand = .standing .close ∧ act = .move ∧ e.strand = .standing .announceClosed := by
  cases acts with
  | close => exact ⟨rfl, rfl, rfl⟩
  | _ => simp_all

theorem refused (acts : strand.Acts d act e) (told : .refused .shuttingDown ∈ e.deeds) :
    e.strand = .standing .close := by
  cases acts <;> simp_all

end Strand.Acts

namespace System

variable [BEq α] {r s t u : System α} {place : Nat}

theorem run_append {first second : List (Action α)} (ran : s.run? first = some t) :
    s.run? (first ++ second) = t.run? second := by
  induction first generalizing s with
  | nil =>
    cases Option.some.inj ran
    rfl
  | cons action rest ih =>
    obtain ⟨middle, performed, ran⟩ := Option.bind_eq_some_iff.mp ran
    rw [List.cons_append, run?, performed, Option.bind_some, ih ran]

private theorem Reachable.refused_of_close (reach : s.Reachable)
    (stands : s.strands[place]? = some (.standing .close)) :
    .refused .shuttingDown ∈ s.deedsOf place := by
  refine reach.each (fun strand deeds => strand = .standing .close → .refused .shuttingDown ∈ deeds)
    ?fire ?queued ?act stands rfl
  case fire =>
    intro event stands
    cases stands
  case queued =>
    intro stands
    cases stands
  case act =>
    intro d strand act e deeds acts _ stands
    cases acts with
    | refuseStopped => simp
    | _ => cases stands

theorem Reachable.open_of_unrefused (reach : s.Reachable) (unrefused : .refused .shuttingDown ∉ s.deeds) :
    s.core.closed = false := by
  refine reach.invariant (fun s => .refused .shuttingDown ∉ s.deeds → s.core.closed = false)
    ?start ?fire ?change ?act unrefused
  case start => exact fun _ => rfl
  case fire =>
    intro s event _ ih unrefused
    rw [deeds_fire, List.mem_append, not_or] at unrefused
    exact ih unrefused.1
  case change =>
    intro s list _ ih
    exact ih
  case act =>
    intro s acting strand act e reach ih found acts unrefused
    rw [deeds_effect, List.mem_append, not_or] at unrefused
    have opened := ih unrefused.1
    refine Bool.eq_false_iff.mpr fun closed => unrefused.1 ?_
    obtain ⟨rfl, -, -⟩ := acts.closing opened closed
    obtain ⟨told, member, same⟩ := List.mem_map.mp (reach.refused_of_close found)
    exact List.mem_map.mpr ⟨told, (List.mem_filter.mp member).1, same⟩

/-- `t` is what `s` becomes when the executor tells the firing at `place` that it is shutting down, but
for the moment at which the answer is told. -/
structure Answered (place : Nat) (s t : System α) : Prop where
  asked : s.strands[place]? = some .offering
  core : t.core = s.core
  strands : t.strands = s.strands.set place (.standing .close)
  deeds : ∀ other, t.deedsOf other =
    s.deedsOf other ++ if place = other then [.refused .shuttingDown] else []

omit [BEq α] in
theorem Answered.stands (answered : Answered place s t) : t.strands[place]? = some (.standing .close) := by
  rw [answered.strands, List.getElem?_set_self (List.getElem?_eq_some_iff.mp answered.asked).1]

/-- What another does after the answer it can do before the answer, to the same effect. -/
theorem Answered.next (answered : Answered place s t) {action : Action α}
    (performed : t.perform? action = some u) (elsewhere : action ≠ .act place .move) :
    ∃ r, s.perform? action = some r ∧ Answered place r u := by
  have inside := (List.getElem?_eq_some_iff.mp answered.asked).1
  cases action with
  | fire event =>
    cases Option.some.inj performed
    refine ⟨s.fire event, rfl, ?_, answered.core, ?_, fun other => ?_⟩
    · rw [strands_fire, List.getElem?_append_left inside, answered.asked]
    · rw [strands_fire, strands_fire, answered.strands, List.set_append_left _ _ inside]
    · -- The new firing is not the refused one, so no strand has both deeds.
      rw [deedsOf_fire, deedsOf_fire, answered.deeds, answered.strands, List.length_set]
      by_cases own : place = other
      · have apart : s.strands.length ≠ other := by omega
        simp [own, apart]
      · simp [own]
  | act acting act =>
    obtain ⟨strand, there, rest⟩ := Option.bind_eq_some_iff.mp performed
    obtain ⟨e, acted, same⟩ := Option.bind_eq_some_iff.mp rest
    cases Option.some.inj same
    by_cases own : acting = place
    · subst own
      cases Option.some.inj (there.symm.trans answered.stands)
      cases act with
      | move => exact absurd rfl elsewhere
      | _ => cases acted
    · rw [answered.strands, List.getElem?_set_ne (Ne.symm own)] at there
      rw [answered.core] at acted
      refine ⟨s.effect acting e, ?_, ?_, rfl, ?_, fun other => ?_⟩
      · rw [perform?, there, Option.bind_eq_bind, Option.bind_some, acted]
        rfl
      · rw [strands_effect, List.getElem?_append_left (by simpa using inside),
          List.getElem?_set_ne own, answered.asked]
      · rw [strands_effect, strands_effect, answered.strands, List.set_comm _ _ (Ne.symm own),
          List.set_append_left _ _ (by simpa using inside)]
      · rw [deedsOf_effect, deedsOf_effect, answered.deeds]
        by_cases here : place = other
        · have apart : acting ≠ other := by omega
          simp [here, apart]
        · simp [here]
  | add | remove =>
    cases Option.some.inj performed
    exact ⟨_, rfl, answered.asked, by simp [change, answered.core], answered.strands, answered.deeds⟩

/-- Nobody else closes the dispatcher while the refused firing is about to. -/
theorem Reachable.open_next (reach : s.Reachable) (opened : s.core.closed = false)
    (stands : s.strands[place]? = some (.standing .close)) {action : Action α}
    (performed : s.perform? action = some t) (elsewhere : action ≠ .act place .move) :
    t.core.closed = false := by
  cases action with
  | act acting act =>
    obtain ⟨strand, e, found, acts, rfl⟩ := acts_of_perform performed
    refine Bool.eq_false_iff.mpr fun closed => elsewhere ?_
    obtain ⟨rfl, rfl, -⟩ := acts.closing opened closed
    rw [reach.owner_unique ⟨_, found, rfl⟩ ⟨_, stands, rfl⟩]
  | fire | add | remove =>
    cases Option.some.inj performed
    exact opened

theorem Answered.run (answered : Answered place s t) (reach : t.Reachable) (opened : t.core.closed = false)
    {between : List (Action α)} (ran : t.run? between = some u) (pending : .act place .move ∉ between) :
    u.core.closed = false ∧ ∃ r, s.run? between = some r ∧ Answered place r u := by
  induction between generalizing s t with
  | nil =>
    cases Option.some.inj ran
    exact ⟨opened, s, rfl, answered⟩
  | cons action rest ih =>
    obtain ⟨middle, performed, ran⟩ := Option.bind_eq_some_iff.mp ran
    rw [List.mem_cons, not_or] at pending
    have elsewhere := Ne.symm pending.1
    have still := reach.open_next opened answered.stands performed elsewhere
    obtain ⟨earlier, before, later⟩ := answered.next performed elsewhere
    obtain ⟨stillOpen, r, whole, reached⟩ := ih later (.next action reach performed) still ran pending.2
    exact ⟨stillOpen, r, by rw [run?, before, Option.bind_some, whole], reached⟩

theorem Answered.refuse (answered : Answered place s t) :
    ∃ later, s.perform? (.act place (.refuse .shuttingDown)) = some later ∧ t.core = later.core ∧
      t.strands = later.strands ∧ ∀ other, t.deedsOf other = later.deedsOf other := by
  have performed : s.perform? (.act place (.refuse .shuttingDown)) = some (s.effect place
      { core := s.core, strand := .standing .close, deeds := [.refused .shuttingDown] }) := by
    rw [perform?, answered.asked]
    rfl
  refine ⟨_, performed, answered.core, ?_, fun other => ?_⟩
  · rw [strands_effect, List.append_nil, answered.strands]
  · rw [deedsOf_effect, answered.deeds]

end System

end TransferLifecycle.Dispatch
