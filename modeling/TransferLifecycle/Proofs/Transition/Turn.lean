import TransferLifecycle.Proofs.Transition.Interleaving

/-! Whose turn it is, and what has been told of a request by the time it stands where it stands. One
request at a time has the turn, and only that one changes the state. A move that found the transfer
in a terminal state tells nothing but that it was ignored. Any other stores its state, calls
listeners while that state lasts, and fires its event. -/
namespace TransferLifecycle.Transition

variable {α : Type}

@[simp] def Point.inside : Point → Bool
  | .enter _ => false
  | _ => true

def Strand.inside : Strand α → Bool
  | .standing point | .passing _ _ point | .calling _ _ _ point | .failing _ point | .firing _ point
  | .unwinding point => point.inside
  | .ended | .panicked => false

@[simp] theorem Point.inside_resume (point : Point) : (resume point).inside = point.inside := by
  cases point with
  | notified goal => cases goal <;> rfl
  | _ => rfl

/-- What is told of a request whose pass has begun or is about to begin. -/
inductive Carried (description : String) : Goal → List (Deed α) → Prop where
  | moved {old new} (opened : old.isTerminal = false) :
    Carried description (.move new) [.entered (.move new) old, .noted (.moved description old new)]
  | announced {state was} :
    Carried description (.announce state) [.entered (.announce state) was]
  | called {goal deeds} (listener : α) (before : Carried description goal deeds) :
    Carried description goal (deeds ++ [.called listener goal.state])
  | fired {new kind deeds} (event : new.entryEvent = some kind)
      (before : Carried description (.move new) deeds) :
    Carried description (.move new) (deeds ++ [.fired kind])

inductive Ignored (description : String) : List (Deed α) → Prop where
  | same {state} (terminal : state.isTerminal = true) :
    Ignored description [.entered (.move state) state]
  | other {state new} (terminal : state.isTerminal = true) :
    Ignored description [.entered (.move new) state, .noted (.moveIgnored description state new)]

/-- A request that is past its store: what it has told, and that its state lasts. -/
structure Carries (l : Lifecycle α) (goal : Goal) (deeds : List (Deed α)) : Prop where
  told : Carried l.description goal deeds
  lasts : ∀ new, goal = .move new → l.state = new

/-- The request is past its store, and what it waits for belongs to its goal. -/
def Strand.Pursues (goal : Goal) : Strand α → Prop
  | .standing (.notify g) => g = goal
  | .standing (.entered new) => goal = .move new
  | .standing (.leave applied) => applied = true
  | .passing state _ point | .calling _ state _ point => state = goal.state ∧ point = .notified goal
  | .failing _ point => point = .notified goal
  | .firing _ point => point = .fired
  | .unwinding point => point = .notified goal ∨ point = .fired
  | _ => False

inductive Strand.Tells (l : Lifecycle α) : Strand α → List (Deed α) → Prop where
  | waiting {goal} : Tells l (.standing (.enter goal)) []
  | entered {goal} : Tells l (.standing (.inspect goal)) [.entered goal l.state]
  | resolved {new} (opened : l.state.isTerminal = false) :
    Tells l (.standing (.store l.state new)) [.entered (.move new) l.state]
  | ignored {deeds} (told : Ignored l.description deeds) : Tells l (.standing (.leave false)) deeds
  | pursued {strand goal deeds} (pursues : strand.Pursues goal) (carries : Carries l goal deeds) :
    Tells l strand deeds
  | refused {deeds} (told : Ignored l.description deeds) :
    Tells l .ended (deeds ++ [.answered false])
  | done {goal deeds} (told : Carried l.description goal deeds) :
    Tells l .ended (deeds ++ [.answered true])
  | panicked {goal deeds} (told : Carried l.description goal deeds) : Tells l .panicked deeds

variable {me : Nat} {l : Lifecycle α} {strand : Strand α} {act : Act} {e : Effect α}

theorem Strand.Acts.holder (acts : strand.Acts me l act e)
    (held : l.turn = some me ↔ strand.inside = true) :
    (e.core.turn = some me ↔ e.strand.inside = true) ∧
      ∀ other, me ≠ other → (e.core.turn = some other ↔ l.turn = some other) := by
  cases acts with
  | @abandon point =>
    cases point <;> simp_all [Strand.inside, Point.inside, Transition.abandon]
  | endPass | fired =>
    refine ⟨?_, fun other _ => Iff.rfl⟩
    rwa [Strand.inside, Point.inside_resume]
  | _ => simp_all [Strand.inside, Point.inside]

theorem Strand.Acts.description (acts : strand.Acts me l act e) :
    e.core.description = l.description := by
  cases acts with
  | @abandon point => cases point <;> rfl
  | _ => rfl

private theorem Strand.Acts.state_of_outside (acts : strand.Acts me l act e)
    (outside : strand.inside = false) : e.core.state = l.state := by
  cases acts with
  | store => cases outside
  | @abandon point => cases point <;> rfl
  | _ => rfl

theorem Strand.Pursues.inside {goal : Goal} (pursues : strand.Pursues goal) : strand.inside = true := by
  cases strand with
  | standing point => cases point <;> first | rfl | cases pursues
  | passing | calling =>
    obtain ⟨-, rfl⟩ := pursues
    rfl
  | failing | firing =>
    cases pursues
    rfl
  | unwinding =>
    obtain rfl | rfl := pursues <;> rfl
  | _ => cases pursues

theorem Carries.of_eq {later : Lifecycle α} {goal : Goal} {deeds : List (Deed α)}
    (carries : Carries l goal deeds) (description : later.description = l.description)
    (state : later.state = l.state) : Carries later goal deeds where
  told := by
    rw [description]
    exact carries.told
  lasts new same := state.trans (carries.lasts new same)

/-- What others do while a request has the turn, or has not got it, does not concern it. -/
theorem Strand.Tells.of_eq {later : Lifecycle α} {deeds : List (Deed α)} (tells : strand.Tells l deeds)
    (description : later.description = l.description)
    (state : strand.inside = true → later.state = l.state) : strand.Tells later deeds := by
  cases tells with
  | waiting => exact .waiting
  | entered =>
    rw [← state rfl]
    exact .entered
  | resolved opened =>
    rw [← state rfl] at opened ⊢
    exact .resolved opened
  | ignored told => exact .ignored (description ▸ told)
  | pursued pursues carries =>
    exact .pursued pursues (carries.of_eq description (state pursues.inside))
  | refused told => exact .refused (description ▸ told)
  | done told => exact .done (description ▸ told)
  | panicked told => exact .panicked (description ▸ told)

theorem Strand.Acts.tells (acts : strand.Acts me l act e) {deeds : List (Deed α)}
    (tells : strand.Tells l deeds) : e.strand.Tells e.core (deeds ++ e.deeds) := by
  cases acts with
  | enter free =>
    cases tells with
    | waiting => exact .entered
    | pursued pursues => cases pursues
  | keepSilent terminal same =>
    cases tells with
    | entered =>
      subst same
      exact .ignored (.same terminal)
    | pursued pursues => cases pursues
  | ignore terminal =>
    cases tells with
    | entered => exact .ignored (.other terminal)
    | pursued pursues => cases pursues
  | resolve opened =>
    cases tells with
    | entered => exact .resolved opened
    | pursued pursues => cases pursues
  | announce =>
    cases tells with
    | entered => exact .pursued rfl ⟨.announced, nofun⟩
    | pursued pursues => cases pursues
  | @store old new =>
    cases tells with
    | resolved opened =>
      refine .pursued rfl ⟨.moved opened, ?_⟩
      intro state same
      cases same
      rfl
    | pursued pursues => cases pursues
  | notify =>
    cases tells with
    | pursued pursues carries =>
      cases pursues
      simpa using .pursued ⟨rfl, rfl⟩ carries
  | beginPass | returned =>
    cases tells with
    | pursued pursues carries => simpa using .pursued pursues (carries.of_eq rfl rfl)
  | broken =>
    cases tells with
    | pursued pursues carries => simpa using .pursued pursues.2 carries
  | call present =>
    cases tells with
    | pursued pursues carries =>
      obtain ⟨rfl, rfl⟩ := pursues
      exact .pursued ⟨rfl, rfl⟩ ⟨.called _ carries.told, carries.lasts⟩
  | endPass absent =>
    cases tells with
    | @pursued _ goal _ pursues carries =>
      obtain ⟨rfl, rfl⟩ := pursues
      have goes : (Strand.standing (resume (.notified goal)) : Strand α).Pursues goal := by
        cases goal <;> rfl
      simpa using .pursued goes (carries.of_eq rfl rfl)
  | abandonPass =>
    cases tells with
    | pursued pursues carries => simpa using .pursued (Or.inl pursues) (carries.of_eq rfl rfl)
  | fire event =>
    cases tells with
    | pursued pursues carries =>
      cases pursues
      exact .pursued rfl ⟨.fired event carries.told, carries.lasts⟩
  | fireNothing =>
    cases tells with
    | pursued pursues carries => simpa using .pursued rfl carries
  | fired =>
    cases tells with
    | pursued pursues carries =>
      cases pursues
      simpa using .pursued rfl carries
  | misfired =>
    cases tells with
    | pursued pursues carries => simpa using .pursued (Or.inr pursues) carries
  | @abandon point =>
    cases tells with
    | pursued pursues carries =>
      have same : (Transition.abandon l point).description = l.description := by cases point <;> rfl
      simpa using .panicked (same ▸ carries.told)
  | leave =>
    cases tells with
    | ignored told => exact .refused told
    | pursued pursues carries =>
      cases pursues
      exact .done carries.told

namespace System

variable [BEq α] {s : System α}

def Exclusive (s : System α) : Prop :=
  ∀ place, s.core.turn = some place ↔ ∃ strand ∈ s.strands[place]?, strand.inside = true

theorem Reachable.exclusive (reach : s.Reachable) : s.Exclusive := by
  refine reach.invariant Exclusive ?start ?request ?change ?act
  case start =>
    intro description place
    simp [new]
  case request =>
    intro s goal _ ih place
    rw [show (s.request goal).core = s.core from rfl, ih place]
    constructor
    · rintro ⟨strand, found, inside⟩
      have bound := (List.getElem?_eq_some_iff.mp found).1
      exact ⟨strand, (List.getElem?_append_left bound).trans found, inside⟩
    · rintro ⟨strand, found, inside⟩
      obtain old | ⟨-, rfl⟩ := found_request found
      · exact ⟨strand, old, inside⟩
      · cases inside
  case change =>
    intro s list ih
    exact ih
  case act =>
    intro s place strand act e _ ih found acts other
    have bound := (List.getElem?_eq_some_iff.mp found).1
    have held : s.core.turn = some place ↔ strand.inside = true := by
      rw [ih place]
      simp [found]
    obtain ⟨own, rest⟩ := acts.holder held
    by_cases same : place = other
    · subst same
      simpa [effect, List.getElem?_set_self bound] using own
    · simpa [effect, List.getElem?_set_ne same] using (rest other same).trans (ih other)

theorem Reachable.inside_unique (reach : s.Reachable) {i j : Nat} {x y : Strand α}
    (first : s.strands[i]? = some x) (second : s.strands[j]? = some y) (insideFirst : x.inside = true)
    (insideSecond : y.inside = true) : i = j := by
  have one := (reach.exclusive i).mpr ⟨x, first, insideFirst⟩
  have two := (reach.exclusive j).mpr ⟨y, second, insideSecond⟩
  exact Option.some.inj (one.symm.trans two)

theorem Reachable.tells (reach : s.Reachable) {place : Nat} {strand : Strand α}
    (found : s.strands[place]? = some strand) : strand.Tells s.core (s.deedsOf place) := by
  refine reach.invariant (fun s => ∀ place strand, s.strands[place]? = some strand →
    strand.Tells s.core (s.deedsOf place)) ?start ?request ?change ?act place strand found
  case start =>
    intro description place strand found
    cases found
  case request =>
    intro s goal reach ih place strand found
    obtain old | ⟨rfl, rfl⟩ := found_request found
    · exact ih place strand old
    · rw [deedsOf_request, reach.deedsOf_eq_nil (Nat.le_refl _)]
      exact .waiting
  case change =>
    intro s list ih place strand found
    exact (ih place strand found).of_eq rfl fun _ => rfl
  case act =>
    intro s acting strand act e reach ih here acts place other found
    rw [deedsOf_effect]
    obtain ⟨rfl, rfl⟩ | ⟨elsewhere, old⟩ := found_effect here found
    · rw [if_pos rfl]
      exact acts.tells (ih _ _ here)
    · rw [if_neg elsewhere, List.append_nil]
      refine (ih _ _ old).of_eq acts.description fun inside => ?_
      -- The other one has the turn, so the acting one has not, and leaves the state as it is.
      refine acts.state_of_outside (Bool.eq_false_iff.mpr fun both => elsewhere ?_)
      exact reach.inside_unique here old both inside

end System

end TransferLifecycle.Transition
