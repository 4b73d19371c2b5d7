import TransferLifecycle.Proofs.Announcing.Interleaving

/-! What is on record of a request by the time it stands where it stands. The pass of a move calls the
listeners that were there when it began, one after another, and a move is recorded as passed when all of
them have been called. A pass that a panic has ended is never recorded. -/
namespace TransferLifecycle.Announcing

open Transition (Deed Goal Point)

variable {α β : Type}

structure Record (α : Type) where
  moved : List State := []
  gathered : List (List α) := []
  called : List (α × State) := []
  passed : List State := []

def called? : Deed α → Option (α × State)
  | .called listener state => some (listener, state)
  | _ => none

namespace Record

def append (r more : Record α) : Record α where
  moved := r.moved ++ more.moved
  gathered := r.gathered ++ more.gathered
  called := r.called ++ more.called
  passed := r.passed ++ more.passed

/-- Everyone who was there when the pass of the move began has been called with its state. -/
def Heard (r : Record α) : Prop :=
  ∀ state ∈ r.passed, ∃ listeners, r.gathered = [listeners] ∧ r.called = listeners.map (·, state)

@[simp] theorem append_empty (r : Record α) : r.append {} = r := by
  simp [append]

@[simp] theorem empty_append (r : Record α) : append {} r = r := by
  simp [append]

private theorem heard_of_nil {r : Record α} (none : r.passed = []) : r.Heard := by
  intro state member
  rw [none] at member
  cases member

end Record

def adds (l : Lifecycle α) (strand : Transition.Strand α) (e : Transition.Effect α) : Record α where
  moved := (e.deeds.filterMap Deed.move?).map (·.2)
  gathered := gathers l strand
  called := e.deeds.filterMap called?
  passed := passes strand e.strand

def moves : Goal → List State
  | .move state => [state]
  | .announce _ => []

def early : Transition.Strand α → Bool
  | .standing (.enter _) | .standing (.inspect _) | .standing (.store _ _) => true
  | _ => false

def late : Transition.Strand α → Bool
  | .firing _ .fired | .standing (.leave _) | .unwinding .fired | .ended => true
  | _ => false

/-- What is on record of a request after so many calls of its pass. -/
def visited (l : Lifecycle α) (goal : Goal) (snapshot : Snapshot) (index : Nat) : Record α where
  moved := moves goal
  gathered := [l.observers.view snapshot]
  called := ((l.observers.view snapshot).take index).map (·, goal.state)

inductive Accords (l : Lifecycle α) : Transition.Strand α → Record α → Prop where
  | unmoved {strand} (before : early strand = true) : Accords l strand {}
  | stored {goal} : Accords l (.standing (.notify goal)) { moved := moves goal }
  | starting {goal} : Accords l (.passing goal.state .start (.notified goal)) { moved := moves goal }
  | visiting {goal snapshot index} (held : l.observers.Held snapshot) :
    Accords l (.passing goal.state (.visit snapshot index) (.notified goal))
      (visited l goal snapshot index)
  | calling {listener goal snapshot index} (held : l.observers.Held snapshot) :
    Accords l (.calling listener goal.state (.visit snapshot index) (.notified goal))
      (visited l goal snapshot index)
  | failing {pass goal r} (none : r.passed = []) : Accords l (.failing pass (.notified goal)) r
  | unwinding {goal r} (none : r.passed = []) : Accords l (.unwinding (.notified goal)) r
  | entered {state listeners} :
    Accords l (.standing (.entered state))
      { moved := [state], gathered := [listeners], called := listeners.map (·, state)
        passed := [state] }
  | spent {strand r} (after : late strand = true) (all : r.passed = r.moved) (heard : r.Heard) :
    Accords l strand r
  | panicked {r} (heard : r.Heard) : Accords l .panicked r

variable {me : Nat} {l : Lifecycle α} {strand : Transition.Strand α} {act : Transition.Act}
  {e : Transition.Effect α} {r : Record α}

theorem Accords.keep {later : Lifecycle α} (accords : Accords l strand r)
    (keeps : l.observers.Keeps later.observers) : Accords later strand r := by
  have shown {goal : Goal} {snapshot : Snapshot} {index : Nat} (held : l.observers.Held snapshot) :
      visited l goal snapshot index = visited later goal snapshot index := by
    rw [visited, visited, (keeps snapshot held).2]
  cases accords with
  | visiting held =>
    rw [shown held]
    exact .visiting (keeps _ held).1
  | calling held =>
    rw [shown held]
    exact .calling (keeps _ held).1
  | unmoved before => exact .unmoved before
  | stored => exact .stored
  | starting => exact .starting
  | failing none => exact .failing none
  | unwinding none => exact .unwinding none
  | entered => exact .entered
  | spent after all heard => exact .spent after all heard
  | panicked heard => exact .panicked heard

/-- Only who has the turn runs a pass, so the others change no list and have nothing to see of one. -/
theorem Accords.keep_of_outside {later : Lifecycle α} (accords : Accords l strand r)
    (outside : strand.inside = false) : Accords later strand r := by
  cases accords with
  | unmoved before => exact .unmoved before
  | spent after all heard => exact .spent after all heard
  | panicked heard => exact .panicked heard
  | _ => cases outside

theorem Accords.record_of_store {old new : State} (accords : Accords l (.standing (.store old new)) r) :
    r = {} := by
  cases accords with
  | unmoved => rfl
  | spent after => cases after

theorem Accords.outside_cases (accords : Accords l strand r) (outside : strand.inside = false) :
    (∃ goal, strand = .standing (.enter goal)) ∨ strand.gone = true := by
  cases accords with
  | unmoved before =>
    cases strand with
    | standing point => cases point with
      | enter goal => exact Or.inl ⟨goal, rfl⟩
      | _ => cases outside
    | _ => cases before
  | spent after =>
    cases strand with
    | standing point | firing kind point | unwinding point =>
      cases point <;> simp_all [late, Transition.Strand.inside]
    | ended => exact Or.inr rfl
    | _ => cases after
  | panicked => exact Or.inr rfl
  | _ => cases outside

theorem observers_of_outside (acts : strand.Acts me l act e) (accords : Accords l strand r)
    (outside : strand.inside = false) : e.core.observers = l.observers := by
  cases acts with
  | beginPass | endPass | abandonPass =>
    cases accords with
    | unmoved before => cases before
    | spent after => cases after
    | _ => cases outside
  | @abandon point => cases point <;> rfl
  | _ => rfl

theorem Accords.heard (accords : Accords l strand r) : r.Heard := by
  cases accords with
  | @entered state listeners =>
    intro other member
    cases List.mem_singleton.mp member
    exact ⟨listeners, rfl, rfl⟩
  | spent after all heard => exact heard
  | panicked heard => exact heard
  | failing none => exact Record.heard_of_nil none
  | unwinding none => exact Record.heard_of_nil none
  | _ => exact Record.heard_of_nil rfl

private theorem Accords.step_early (before : early strand = true) (acts : strand.Acts me l act e) :
    Accords e.core e.strand (adds l strand e) := by
  cases acts with
  | enter | resolve => exact .unmoved rfl
  | @announce state =>
    have stored : Accords l (.standing (.notify (.announce state))) { moved := moves (.announce state) } :=
      .stored
    exact stored
  | @store old new =>
    have stored : Accords { l with state := new } (.standing (.notify (.move new)))
        { moved := moves (.move new) } := .stored
    exact stored
  | keepSilent | ignore => exact .spent rfl rfl (Record.heard_of_nil rfl)
  | _ => cases before

private theorem Accords.step_late (after : late strand = true) (acts : strand.Acts me l act e)
    (all : r.passed = r.moved) (heard : r.Heard) :
    adds l strand e = {} ∧ Accords e.core e.strand r := by
  cases acts with
  | leave => exact ⟨rfl, .spent rfl all heard⟩
  | abandon => exact ⟨rfl, .panicked heard⟩
  | @fired kind point | @misfired kind point =>
    cases point with
    | fired => exact ⟨rfl, .spent rfl all heard⟩
    | _ => cases after
  | _ => cases after

theorem Accords.step (accords : Accords l strand r) (acts : strand.Acts me l act e) :
    Accords e.core e.strand (r.append (adds l strand e)) := by
  have nothing {strand : Transition.Strand α} {e : Transition.Effect α} (accords : Accords e.core e.strand r)
      (silent : adds l strand e = {}) : Accords e.core e.strand (r.append (adds l strand e)) := by
    rwa [silent, Record.append_empty]
  have heard := accords.heard
  cases accords with
  | unmoved before =>
    rw [Record.empty_append]
    exact .step_early before acts
  | stored =>
    cases acts with
    | notify => exact nothing .starting rfl
  | @starting goal =>
    cases acts with
    | beginPass =>
      have held : l.observers.snapshot.2.Held l.observers.snapshot.1 := List.mem_cons_self
      have visit : Accords { l with observers := l.observers.snapshot.2 }
          (.passing goal.state (.visit l.observers.snapshot.1 0) (.notified goal))
          (visited { l with observers := l.observers.snapshot.2 } goal l.observers.snapshot.1 0) :=
        .visiting held
      rw [show adds l _ _ = { gathered := [l.observers.toList] } from rfl]
      simpa [visited, Record.append] using visit
  | @visiting goal snapshot index held =>
    cases acts with
    | @call _ _ _ listener _ present =>
      have visit : Accords l (.calling listener goal.state (.visit snapshot (index + 1)) (.notified goal))
          (visited l goal snapshot (index + 1)) := .calling held
      rw [show adds l _ _ = { called := [(listener, goal.state)] } from rfl]
      simpa [visited, Record.append, List.take_add_one, present] using visit
    | endPass absent =>
      have all : (l.observers.view snapshot).take index = l.observers.view snapshot :=
        List.take_of_length_le (List.getElem?_eq_none_iff.mp absent)
      cases goal with
      | announce state => exact nothing (.spent rfl rfl (Record.heard_of_nil rfl)) rfl
      | move state =>
        have entry : Accords { l with observers := l.observers.release snapshot }
            (.standing (.entered state))
            { moved := [state], gathered := [l.observers.view snapshot]
              called := (l.observers.view snapshot).map (·, state), passed := [state] } := .entered
        rw [show adds l _ _ = { passed := [state] } from rfl]
        simpa [visited, Record.append, all, moves, Goal.state, Transition.resume] using entry
  | calling held =>
    cases acts with
    | returned => exact nothing (.visiting held) rfl
    | broken => exact nothing (.failing rfl) rfl
  | failing none =>
    cases acts with
    | abandonPass => exact nothing (.unwinding none) rfl
  | unwinding none =>
    cases acts with
    | abandon => exact nothing (.panicked heard) rfl
  | entered =>
    cases acts with
    | fire | fireNothing => exact nothing (.spent rfl rfl heard) rfl
  | spent after all =>
    obtain ⟨silent, later⟩ := step_late after acts all heard
    exact nothing later silent
  | panicked => cases acts

namespace System

def record (s : System α β) (place : Nat) : Record α where
  moved := ((s.transition.deedsOf place).filterMap Deed.move?).map (·.2)
  gathered := (s.gathered.filter (·.1 == place)).map (·.2)
  called := (s.transition.deedsOf place).filterMap called?
  passed := (s.passed.filter (·.1 == place)).map (·.2)

private theorem record_effect (s : System α β) (acting : Nat) (strand : Transition.Strand α)
    (e : Transition.Effect α) (place : Nat) :
    (s.effect acting strand e).record place =
      if acting = place then (s.record place).append (adds s.transition.core strand e)
      else s.record place := by
  by_cases same : acting = place <;>
    simp [record, effect, same, Record.append, adds, List.filter_map, Function.comp_def]

variable [BEq α] [BEq β] {s : System α β}

/-- The record of every request agrees with where it stands, and there is none of a request that has
not been made. -/
theorem Reachable.accounts (reach : s.Reachable) :
    (∀ place strand, s.transition.strands[place]? = some strand →
      Accords s.transition.core strand (s.record place)) ∧
    ∀ place, s.transition.strands.length ≤ place → s.record place = {} := by
  refine reach.invariant (fun s => (∀ place strand, s.transition.strands[place]? = some strand →
    Accords s.transition.core strand (s.record place)) ∧
    ∀ place, s.transition.strands.length ≤ place → s.record place = {})
    ?start ?request ?change ?act ?dispatch
  case start =>
    intro description
    refine ⟨?_, fun place _ => rfl⟩
    intro place strand found
    cases found
  case request =>
    rintro s goal - ⟨stand, unknown⟩
    refine ⟨?_, ?_⟩
    · intro place strand found
      obtain old | ⟨rfl, rfl⟩ := Transition.System.found_request found
      · exact stand place strand old
      · have blank : ({ s with transition := s.transition.request goal } : System α β).record
            s.transition.strands.length = {} := unknown _ (Nat.le_refl _)
        rw [blank]
        exact .unmoved rfl
    · intro place outside
      refine unknown place (Nat.le_trans ?_ outside)
      simp [Transition.System.request]
  case change =>
    rintro s list keeps ⟨stand, unknown⟩
    exact ⟨fun place strand found => (stand place strand found).keep keeps, unknown⟩
  case act =>
    rintro s acting strand act e reach ⟨stand, unknown⟩ here acts -
    refine ⟨?_, ?_⟩
    · intro place other found
      rw [record_effect]
      obtain ⟨rfl, rfl⟩ | ⟨elsewhere, old⟩ := Transition.System.found_effect here found
      · rw [if_pos rfl]
        exact (stand _ _ here).step acts
      · rw [if_neg elsewhere]
        cases inside : other.inside with
        | false => exact (stand _ _ old).keep_of_outside inside
        | true =>
          -- Somebody else has the turn, so whoever acts here leaves the list of listeners alone.
          have apart : strand.inside = false := by
            refine Bool.eq_false_iff.mpr fun both => elsewhere ?_
            exact reach.components.1.inside_unique here old both inside
          refine (stand _ _ old).keep ?_
          intro snapshot held
          rw [show (s.effect acting strand e).transition.core.observers = _ from
            observers_of_outside acts (stand _ _ here) apart]
          exact ⟨held, rfl⟩
    · intro place outside
      have bound := (List.getElem?_eq_some_iff.mp here).1
      have length : (s.effect acting strand e).transition.strands.length =
          s.transition.strands.length := List.length_set
      rw [record_effect, if_neg (by omega), unknown place (by omega)]
  case dispatch =>
    rintro s action dispatch - holds -
    exact holds

theorem Reachable.accords (reach : s.Reachable) {place : Nat} {strand : Transition.Strand α}
    (found : s.transition.strands[place]? = some strand) :
    Accords s.transition.core strand (s.record place) :=
  reach.accounts.1 place strand found

theorem Reachable.heard (reach : s.Reachable) (place : Nat) : (s.record place).Heard := by
  cases found : s.transition.strands[place]? with
  | some strand => exact (reach.accords found).heard
  | none =>
    rw [reach.accounts.2 place (List.getElem?_eq_none_iff.mp found)]
    exact Record.heard_of_nil rfl

end System

end TransferLifecycle.Announcing
