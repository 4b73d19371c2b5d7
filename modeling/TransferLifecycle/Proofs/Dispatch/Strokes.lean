import TransferLifecycle.Proofs.Dispatch.Order

/-! What one strand makes of the dispatcher. Its strokes along a run are the dispatcher before and after
each of its own acts, whatever the others do between them. What is told lately is told between two moments
of a run. -/
namespace TransferLifecycle.Dispatch

variable {α β : Type}

structure Stroke (α : Type) where
  before : Dispatcher α
  after : Dispatcher α

def Action.isBy (place : Nat) : Action α → Bool
  | .act acting _ => acting == place
  | .fire _ | .add _ | .remove _ => false

theorem Strand.Acts.closed {d : Dispatcher α} {strand : Strand α} {act : Act} {e : Effect α}
    (acts : strand.Acts d act e) (closed : d.closed = true) : e.core.closed = true := by
  cases acts <;> first | exact closed | rfl

namespace System

def strokes [BEq α] (place : Nat) : System α → List (Action α) → List (Stroke α)
  | _, [] => []
  | s, action :: rest =>
    match s.perform? action with
    | some t => (if action.isBy place then [⟨s.core, t.core⟩] else []) ++ strokes place t rest
    | none => []

def lately (s t : System α) (view : Deed α → Option β) : List β :=
  (s.news t).filterMap fun (_, deed) => view deed

variable [BEq α] {s t u : System α}

/-- What the acts of a strand keep between it and its strokes holds after every run, in states of a kind
that no action leaves. -/
theorem follows_run (lasts : System α → Prop) (follows : Strand α → List (Stroke α) → Prop)
    (keeps : ∀ s action t, lasts s → s.perform? action = some t → lasts t)
    (acts : ∀ s strand act e strokes, lasts s → strand ∈ s.strands → Strand.Acts s.core strand act e →
      follows strand strokes → follows e.strand (strokes ++ [⟨s.core, e.core⟩]))
    {place : Nat} {strand : Strand α} {strokes : List (Stroke α)} (holds : lasts s)
    (found : s.strands[place]? = some strand) (before : follows strand strokes)
    {actions : List (Action α)} (ran : s.run? actions = some t) :
    ∃ later, t.strands[place]? = some later ∧ follows later (strokes ++ s.strokes place actions) := by
  induction actions generalizing s strand strokes with
  | nil =>
    cases Option.some.inj ran
    exact ⟨strand, found, by simpa [System.strokes] using before⟩
  | cons action rest ih =>
    obtain ⟨middle, performed, ran⟩ := Option.bind_eq_some_iff.mp ran
    have still := keeps s action middle holds performed
    rw [System.strokes, performed]
    -- The strand acts itself, or stands where it stood.
    cases action with
    | act acting act =>
      obtain ⟨acted, e, here, acting_acts, rfl⟩ := acts_of_perform performed
      by_cases own : acting = place
      · subst own
        cases Option.some.inj (here.symm.trans found)
        have inside := (List.getElem?_eq_some_iff.mp found).1
        have moved : (s.effect acting e).strands[acting]? = some e.strand := by
          rw [strands_effect, List.getElem?_append_left (by simpa using inside),
            List.getElem?_set_self inside]
        have after := acts s strand act e strokes holds (List.mem_of_getElem? found) acting_acts before
        obtain ⟨later, there, follows⟩ := ih still moved after ran
        exact ⟨later, there, by simpa [Action.isBy] using follows⟩
      · have inside := (List.getElem?_eq_some_iff.mp found).1
        have kept : (s.effect acting e).strands[place]? = some strand := by
          rw [strands_effect, List.getElem?_append_left (by simpa using inside),
            List.getElem?_set_ne own, found]
        obtain ⟨later, there, follows⟩ := ih still kept before ran
        exact ⟨later, there, by simpa [Action.isBy, own] using follows⟩
    | fire event =>
      cases Option.some.inj performed
      have inside := (List.getElem?_eq_some_iff.mp found).1
      have kept : (s.fire event).strands[place]? = some strand := by
        rw [strands_fire, List.getElem?_append_left inside, found]
      obtain ⟨later, there, follows⟩ := ih still kept before ran
      exact ⟨later, there, by simpa [Action.isBy] using follows⟩
    | add | remove =>
      cases Option.some.inj performed
      obtain ⟨later, there, follows⟩ := ih still found before ran
      exact ⟨later, there, by simpa [Action.isBy] using follows⟩

omit [BEq α] in
@[simp] theorem found_fired (s : System α) (event : Event) :
    (s.fire event).strands[s.strands.length]? = some (.standing (.arrive event)) := by
  simp

theorem closed_next {action : Action α} (performed : s.perform? action = some t)
    (closed : s.core.closed = true) : t.core.closed = true := by
  cases action with
  | act place act =>
    obtain ⟨strand, e, found, acts, rfl⟩ := acts_of_perform performed
    exact acts.closed closed
  | fire | add | remove =>
    cases Option.some.inj performed
    exact closed

theorem run_invariant (holds : System α → Prop) (start : holds s)
    (next : ∀ t action u, holds t → t.perform? action = some u → holds u) {actions : List (Action α)}
    (ran : s.run? actions = some t) : holds t := by
  induction actions generalizing s with
  | nil =>
    cases Option.some.inj ran
    exact start
  | cons action rest ih =>
    obtain ⟨middle, performed, ran⟩ := Option.bind_eq_some_iff.mp ran
    exact ih (next s action middle start performed) ran

end System

end TransferLifecycle.Dispatch
