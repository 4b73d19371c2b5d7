import TransferLifecycle.Proofs.Transition.Likeness

/-! A request that has the turn gives it back after finitely many steps of its own, as long as what it calls
returns. It needs nobody else for that, and the state in which it leaves the transfer is due from the beginning. -/
namespace TransferLifecycle.Transition

variable {α : Type} {me : Nat} {l : Lifecycle α} {strand : Strand α} {act : Act} {e : Effect α}
  {deeds : List (Deed α)}

def Act.calm : Act → Bool
  | .finish true => false
  | _ => true

def Strand.broken : Strand α → Bool
  | .failing _ _ | .unwinding _ | .panicked => true
  | _ => false

def Goal.next (state : State) : Goal → State
  | .move new => if state.isTerminal then state else new
  | .announce _ => state

def Strand.due (state : State) : Strand α → State
  | .standing (.inspect goal) => goal.next state
  | .standing (.store _ new) => new
  | _ => state

/-- How many steps are left to a request, if these are the listeners. -/
def Strand.left (l : ListenerList α) : Strand α → Nat
  | .standing (.leave _) | .unwinding _ => 1
  | .failing _ _ | .firing _ _ => 2
  | .standing (.entered _) => 3
  | .passing _ (.visit snapshot index) _ => 4 + 2 * ((l.view snapshot).length - index)
  | .calling _ _ (.visit snapshot index) _ => 5 + 2 * ((l.view snapshot).length - index)
  | .passing _ .start _ => 5 + 2 * l.toList.length
  | .calling _ _ .start _ | .standing (.notify _) => 6 + 2 * l.toList.length
  | .standing (.store _ _) => 7 + 2 * l.toList.length
  | .standing _ => 8 + 2 * l.toList.length
  | .ended | .panicked => 0

def Deed.found? : Deed α → Option (Goal × State)
  | .entered goal state => some (goal, state)
  | _ => none

theorem Strand.due_of_outside (outside : strand.inside = false) (state : State) : strand.due state = state := by
  cases strand with
  | standing point => cases point <;> first | rfl | cases outside
  | _ => rfl

theorem Strand.Acts.due (acts : strand.Acts me l act e) (tells : strand.Tells l deeds)
    (inside : strand.inside = true) :
    e.strand.due e.core.state = strand.due l.state ∧ e.deeds.filterMap Deed.found? = [] := by
  cases acts with
  | enter => cases inside
  | keepSilent terminal | ignore terminal => simp [Strand.due, Goal.next, terminal, Deed.found?]
  | resolve opened => simp [Strand.due, Goal.next, opened]
  | endPass =>
    cases tells with
    | @pursued _ goal _ pursues =>
      obtain ⟨-, rfl⟩ := pursues
      cases goal <;> exact ⟨rfl, rfl⟩
  | fired =>
    cases tells with
    | pursued pursues =>
      cases pursues
      exact ⟨rfl, rfl⟩
  | @abandon point => cases point <;> exact ⟨rfl, rfl⟩
  | _ => exact ⟨rfl, rfl⟩

theorem Strand.Acts.listeners (acts : strand.Acts me l act e) :
    e.core.observers.toList = l.observers.toList := by
  cases acts with
  | @abandonPass pass point => cases pass <;> rfl
  | @abandon point => cases point <;> rfl
  | _ => rfl

theorem Strand.Acts.broken_eq (acts : strand.Acts me l act e) (calm : act.calm = true) :
    e.strand.broken = strand.broken := by
  cases acts with
  | broken | misfired => cases calm
  | _ => rfl

theorem Strand.Pursues.proceeds {goal : Goal} (pursues : strand.Pursues goal) (me : Nat) :
    ∃ act e, act.calm = true ∧ strand.Acts me l act e ∧
      (e.strand.gone = true ∧ e.core.turn = none ∨
        e.strand.inside = true ∧ e.strand.left e.core.observers < strand.left l.observers) := by
  cases strand with
  | standing point =>
    cases point with
    | notify => exact ⟨.move, _, rfl, .notify, Or.inr ⟨rfl, by simp [left]⟩⟩
    | entered new =>
      cases event : new.entryEvent with
      | none => exact ⟨.move, _, rfl, .fireNothing event, Or.inr ⟨rfl, by simp [left]⟩⟩
      | some kind => exact ⟨.move, _, rfl, .fire event, Or.inr ⟨rfl, by simp [left]⟩⟩
    | leave => exact ⟨.move, _, rfl, .leave, Or.inl ⟨rfl, rfl⟩⟩
    | _ => cases pursues
  | passing state pass point =>
    obtain ⟨-, rfl⟩ := pursues
    cases pass with
    | start =>
      refine ⟨.move, _, rfl, .beginPass, Or.inr ⟨rfl, ?_⟩⟩
      simp [left]
    | visit snapshot index =>
      cases entry : (l.observers.view snapshot)[index]? with
      | none =>
        refine ⟨.move, _, rfl, .endPass entry, Or.inr ?_⟩
        cases goal <;> exact ⟨rfl, by simp [left, resume]; omega⟩
      | some listener =>
        have bound := (List.getElem?_eq_some_iff.mp entry).1
        refine ⟨.move, _, rfl, .call entry, Or.inr ⟨rfl, ?_⟩⟩
        simp only [left]
        omega
  | calling listener state pass point =>
    obtain ⟨-, rfl⟩ := pursues
    refine ⟨.finish false, _, rfl, .returned, Or.inr ⟨rfl, ?_⟩⟩
    cases pass <;> simp [left]
  | failing pass point =>
    cases pursues
    exact ⟨.move, _, rfl, .abandonPass, Or.inr ⟨rfl, by simp [left]⟩⟩
  | firing kind point =>
    cases pursues
    exact ⟨.finish false, _, rfl, .fired, Or.inr ⟨rfl, by simp [left, resume]⟩⟩
  | unwinding point =>
    obtain rfl | rfl := pursues <;> exact ⟨.move, _, rfl, .abandon, Or.inl ⟨rfl, rfl⟩⟩
  | ended | panicked => cases pursues

theorem Strand.Tells.proceeds (tells : strand.Tells l deeds) (inside : strand.inside = true) (me : Nat) :
    ∃ act e, act.calm = true ∧ strand.Acts me l act e ∧
      (e.strand.gone = true ∧ e.core.turn = none ∨
        e.strand.inside = true ∧ e.strand.left e.core.observers < strand.left l.observers) := by
  cases tells with
  | waiting => cases inside
  | @entered goal =>
    cases goal with
    | announce state =>
      exact ⟨.move, _, rfl, .announce, Or.inr ⟨rfl, by simp [Strand.left]⟩⟩
    | move new =>
      cases terminal : l.state.isTerminal with
      | false => exact ⟨.move, _, rfl, .resolve terminal, Or.inr ⟨rfl, by simp [Strand.left]⟩⟩
      | true =>
        by_cases same : l.state = new
        · exact ⟨.move, _, rfl, .keepSilent terminal same, Or.inr ⟨rfl, by simp [Strand.left]; omega⟩⟩
        · exact ⟨.move, _, rfl, .ignore terminal same, Or.inr ⟨rfl, by simp [Strand.left]; omega⟩⟩
  | resolved => exact ⟨.move, _, rfl, .store, Or.inr ⟨rfl, by simp [Strand.left]⟩⟩
  | ignored => exact ⟨.move, _, rfl, .leave, Or.inl ⟨rfl, rfl⟩⟩
  | @pursued strand goal _ pursues => exact pursues.proceeds me
  | refused => cases inside
  | done => cases inside
  | panicked => cases inside

def Action.CalmAt (place : Nat) : Action α → Prop
  | .act acting act => acting = place ∧ act.calm = true
  | _ => False

namespace System

structure Finished (s t : System α) (place : Nat) (strand : Strand α) : Prop where
  free : t.core.turn = none
  strands : t.strands = s.strands.set place (if strand.broken then .panicked else .ended)
  description : t.core.description = s.core.description
  listeners : t.core.observers.toList = s.core.observers.toList
  view : ∀ snapshot, t.core.observers.view snapshot = s.core.observers.view snapshot
  state : t.core.state = strand.due s.core.state
  history : ∃ more : List (Deed α), t.history = s.history ++ more.map (place, ·) ∧
    more.filterMap Deed.found? = []

variable {s t : System α} {place : Nat}

private theorem finished_effect (acts : strand.Acts place s.core act e) (tells : strand.Tells s.core deeds)
    (inside : strand.inside = true) (calm : act.calm = true) (gone : e.strand.gone = true)
    (free : e.core.turn = none) : s.Finished (s.effect place e) place strand where
  free := free
  strands := by
    rw [← acts.broken_eq calm]
    cases last : e.strand with
    | ended | panicked => rw [effect, last]; rfl
    | _ => simp [last, Strand.gone] at gone
  description := acts.description
  listeners := acts.listeners
  view := acts.view
  state := by
    rw [← (acts.due tells inside).1]
    cases last : e.strand with
    | ended | panicked => rfl
    | _ => simp [last, Strand.gone] at gone
  history := ⟨e.deeds, rfl, (acts.due tells inside).2⟩

theorem Finished.after (acts : strand.Acts place s.core act e) (tells : strand.Tells s.core deeds)
    (inside : strand.inside = true) (calm : act.calm = true)
    (finished : (s.effect place e).Finished t place e.strand) : s.Finished t place strand where
  free := finished.free
  strands := by
    rw [finished.strands, acts.broken_eq calm, effect, List.set_set]
  description := finished.description.trans acts.description
  listeners := finished.listeners.trans acts.listeners
  view snapshot := (finished.view snapshot).trans (acts.view snapshot)
  state := finished.state.trans (acts.due tells inside).1
  history := by
    obtain ⟨more, told, rest⟩ := finished.history
    exact ⟨e.deeds ++ more, by simp [told, effect], by simp [(acts.due tells inside).2, rest]⟩

/-- Whoever has the turn can come to an end, and gives the turn back. -/
theorem Reachable.finishes [BEq α] (reach : s.Reachable) (found : s.strands[place]? = some strand)
    (inside : strand.inside = true) :
    ∃ (actions : List (Action α)) (t : System α), (∀ action ∈ actions, action.CalmAt place) ∧
      s.run? actions = some t ∧ s.Finished t place strand := by
  -- The listeners stay as they are, so each step that does not panic lowers what is left.
  induction steps : strand.left s.core.observers using Nat.strongRecOn generalizing s strand with
  | ind n ih =>
    have tells := reach.tells found
    obtain ⟨act, e, calm, acts, stands⟩ := tells.proceeds inside place
    have performed := perform_of_act found acts.acted
    obtain ⟨gone, free⟩ | ⟨still, fewer⟩ := stands
    · refine ⟨[.act place act], s.effect place e, ?_, ?_, finished_effect acts tells inside calm gone free⟩
      · simp [Action.CalmAt, calm]
      · exact (congrArg (Option.bind · _) performed).trans rfl
    · have there : (s.effect place e).strands[place]? = some e.strand :=
        List.getElem?_set_self (List.getElem?_eq_some_iff.mp found).1
      obtain ⟨actions, t, calmly, ran, finished⟩ :=
        ih _ (steps ▸ fewer) (.next _ reach performed) there still rfl
      refine ⟨.act place act :: actions, t, ?_, (congrArg (Option.bind · _) performed).trans ran,
        finished.after acts tells inside calm⟩
      intro action member
      obtain rfl | later := List.mem_cons.mp member
      · exact ⟨rfl, calm⟩
      · exact calmly action later

end System

end TransferLifecycle.Transition
