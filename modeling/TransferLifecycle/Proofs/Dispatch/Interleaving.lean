import TransferLifecycle.Dispatch
import TransferLifecycle.Pass

/-! Any number of firings and emptyings of one dispatcher, in any interleaving of their steps.
The executor answers each offer as it likes. An emptying that it accepts becomes a strand of
its own, to be run once, while the firing that offered it still waits for the executor to come
back or at any later time; one that it refuses is gone. A listener may do anything while it is
called: what it fires is one more strand. -/
namespace TransferLifecycle

variable {α : Type}

def ListenerList.Keeps (l later : ListenerList α) : Prop :=
  ∀ snapshot, l.Held snapshot → later.Held snapshot ∧ later.view snapshot = l.view snapshot

theorem ListenerList.keeps_mutate (l : ListenerList α) (change : List α → List α) :
    l.Keeps (l.mutate change) := by
  intro snapshot held
  exact ⟨by rwa [Held, leases_mutate], view_mutate l change held⟩

theorem ListenerList.keeps_remove [BEq α] (l : ListenerList α) (x : α) : l.Keeps (l.remove x).2 := by
  unfold remove
  split
  · exact l.keeps_mutate _
  · intro snapshot held
    exact ⟨held, rfl⟩

namespace Dispatch

/-- Where a firing or an emptying stands between two indivisible steps. -/
inductive Strand (α : Type) where
  /-- An emptying that the executor has accepted and not begun. -/
  | queued
  | standing (point : Point)
  | offering
  | accepted
  | passing (event : Event) (pass : Pass.Point)
  | calling (listener : α) (event : Event) (pass : Pass.Point)
  | ended
  deriving DecidableEq

inductive Deed (α : Type) where
  | begun (event : Event)
  /-- The call found the chain empty. -/
  | skipped
  | turnedAway
  | pushed (event : Event)
  | accepted
  | refused (reason : Refusal)
  | popped (fate : Fate) (event : Event)
  | handed (event : Event)
  | entered (listeners : List α)
  | called (listener : α) (event : Event)
  | through (event : Event)
  | discarded (event : Event)
  deriving DecidableEq

def Point.deeds (d : Dispatcher α) : Point → List (Deed α)
  | .arrive _ => if d.chain.isEmpty then [.skipped] else []
  | .check _ => if d.closed then [.turnedAway] else []
  | .push event => [.pushed event]
  | .take fate =>
    match d.queue with
    | event :: _ => [.popped fate event]
    | [] => []
  | .inHand .deliver event => [.handed event]
  | .inHand .discard event => [.discarded event]
  | _ => []

inductive Act where
  | move
  | accept
  | refuse (reason : Refusal)
  | comeBack
  | start
  | finishCall (panicked : Bool)
  deriving DecidableEq, Repr

/-- What an act makes of the dispatcher and of the strand, what is told of it, and the strands
that it begins. -/
structure Effect (α : Type) where
  core : Dispatcher α
  strand : Strand α
  deeds : List (Deed α) := []
  begun : List (Strand α) := []

def Strand.follow : Next Point Question Unit → Option (Strand α)
  | .goto point => some (.standing point)
  | .ask .offer _ => some .offering
  | .ask (.deliver event) _ => some (.passing event .start)
  | .done () => some .ended
  | .blocked => none

def Strand.act? (d : Dispatcher α) : Strand α → Act → Option (Effect α)
  | .standing point, .move => do
    let (core, _, next) := step d point
    return { core := core, strand := ← Strand.follow next, deeds := point.deeds d }
  | .passing event pass, .move =>
    let (chain, next) := Pass.step d.chain pass
    let core := { d with chain := chain }
    match next with
    | .goto pass =>
      some { core := core, strand := .passing event pass, deeds := [.entered d.chain.toList] }
    | .ask listener pass =>
      some { core := core, strand := .calling listener event pass, deeds := [.called listener event] }
    | .done () =>
      some { core := core, strand := .standing (resume .reached .delivered), deeds := [.through event] }
    | .blocked => none
  | .offering, .accept =>
    some { core := d, strand := .accepted, deeds := [.accepted], begun := [.queued] }
  | .offering, .refuse reason =>
    some { core := d, strand := .standing (resume .offered (.refused reason))
           deeds := [.refused reason] }
  | .accepted, .comeBack => some { core := d, strand := .standing (resume .offered .accepted) }
  | .queued, .start => some { core := d, strand := .standing (.take .deliver) }
  | .calling _ event pass, .finishCall _ => some { core := d, strand := .passing event pass }
  | _, _ => none

/-- Everything that an act can do, case by case. -/
inductive Strand.Acts (d : Dispatcher α) : Strand α → Act → Effect α → Prop where
  | skip {event} (empty : d.chain.isEmpty = true) :
    Acts d (.standing (.arrive event)) .move { core := d, strand := .ended, deeds := [.skipped] }
  | arrive {event} (filled : d.chain.isEmpty = false) :
    Acts d (.standing (.arrive event)) .move { core := d, strand := .standing (.check event) }
  | findClosed {event} (closed : d.closed = true) :
    Acts d (.standing (.check event)) .move
      { core := d, strand := .standing .turnAway, deeds := [.turnedAway] }
  | findOpen {event} (opened : d.closed = false) :
    Acts d (.standing (.check event)) .move { core := d, strand := .standing (.push event) }
  | turnAway :
    Acts d (.standing .turnAway) .move { core := { d with dropped := d.dropped + 1 }, strand := .ended }
  | push {event} :
    Acts d (.standing (.push event)) .move
      { core := { d with queue := d.queue ++ [event] }, strand := .standing .claim
        deeds := [.pushed event] }
  | claim (free : d.scheduled = false) :
    Acts d (.standing .claim) .move { core := { d with scheduled := true }, strand := .offering }
  | claimLate (taken : d.scheduled = true) :
    Acts d (.standing .claim) .move { core := d, strand := .ended }
  | accept :
    Acts d .offering .accept
      { core := d, strand := .accepted, deeds := [.accepted], begun := [.queued] }
  | refuseFull :
    Acts d .offering (.refuse .queueFull)
      { core := d, strand := .standing .overflow, deeds := [.refused .queueFull] }
  | refuseStopped :
    Acts d .offering (.refuse .shuttingDown)
      { core := d, strand := .standing .close, deeds := [.refused .shuttingDown] }
  | comeBack : Acts d .accepted .comeBack { core := d, strand := .standing .finished }
  | finish : Acts d (.standing .finished) .move { core := d, strand := .ended }
  | start : Acts d .queued .start { core := d, strand := .standing (.take .deliver) }
  | overflow :
    Acts d (.standing .overflow) .move
      { core := { d with rejected := d.rejected + 1 }, strand := .standing .announceInline }
  | announceInline :
    Acts d (.standing .announceInline) .move { core := d, strand := .standing (.take .deliver) }
  | close (opened : d.closed = false) :
    Acts d (.standing .close) .move
      { core := { d with closed := true }, strand := .standing .announceClosed }
  | closeAgain (closed : d.closed = true) :
    Acts d (.standing .close) .move
      { core := { d with closed := true }, strand := .standing .countRefusal }
  | announceClosed :
    Acts d (.standing .announceClosed) .move { core := d, strand := .standing .countRefusal }
  | countRefusal :
    Acts d (.standing .countRefusal) .move
      { core := { d with rejected := d.rejected + 1 }, strand := .standing (.take .discard) }
  | pop {fate event rest} (front : d.queue = event :: rest) :
    Acts d (.standing (.take fate)) .move
      { core := { d with queue := rest }, strand := .standing (.inHand fate event)
        deeds := [.popped fate event] }
  | exhaust {fate} (empty : d.queue = []) :
    Acts d (.standing (.take fate)) .move { core := d, strand := .standing (.release fate) }
  | handOver {event} :
    Acts d (.standing (.inHand .deliver event)) .move
      { core := d, strand := .passing event .start, deeds := [.handed event] }
  | discard {event} :
    Acts d (.standing (.inHand .discard event)) .move
      { core := d, strand := .standing (.count .discard), deeds := [.discarded event] }
  | beginPass {event} :
    Acts d (.passing event .start) .move
      { core := { d with chain := d.chain.snapshot.2 }
        strand := .passing event (.visit d.chain.snapshot.1 0)
        deeds := [.entered d.chain.toList] }
  | call {event snapshot index listener} (present : (d.chain.view snapshot)[index]? = some listener) :
    Acts d (.passing event (.visit snapshot index)) .move
      { core := d, strand := .calling listener event (.visit snapshot (index + 1))
        deeds := [.called listener event] }
  | finishCall {listener event pass panicked} :
    Acts d (.calling listener event pass) (.finishCall panicked)
      { core := d, strand := .passing event pass }
  | endPass {event snapshot index} (absent : (d.chain.view snapshot)[index]? = none) :
    Acts d (.passing event (.visit snapshot index)) .move
      { core := { d with chain := d.chain.release snapshot }, strand := .standing (.count .deliver)
        deeds := [.through event] }
  | countDelivered :
    Acts d (.standing (.count .deliver)) .move
      { core := { d with delivered := d.delivered + 1 }, strand := .standing (.take .deliver) }
  | countDropped :
    Acts d (.standing (.count .discard)) .move
      { core := { d with dropped := d.dropped + 1 }, strand := .standing (.take .discard) }
  | release {fate} :
    Acts d (.standing (.release fate)) .move
      { core := { d with scheduled := false }, strand := .standing (.recheck fate) }
  | leave {fate} (empty : d.queue = []) :
    Acts d (.standing (.recheck fate)) .move { core := d, strand := .ended }
  | findEvent {fate} (filled : d.queue ≠ []) :
    Acts d (.standing (.recheck fate)) .move { core := d, strand := .standing (.reclaim fate) }
  | reclaim {fate} (free : d.scheduled = false) :
    Acts d (.standing (.reclaim fate)) .move
      { core := { d with scheduled := true }, strand := .standing (.take fate) }
  | reclaimLate {fate} (taken : d.scheduled = true) :
    Acts d (.standing (.reclaim fate)) .move { core := d, strand := .ended }

theorem Strand.standing_acts {d : Dispatcher α} {point : Point} {e : Effect α}
    (acted : (Strand.standing point).act? d .move = some e) : Acts d (.standing point) .move e := by
  cases point with
  | arrive event =>
    cases empty : d.chain.isEmpty <;> simp [act?, step, follow, Point.deeds, empty] at acted <;> subst e
    · exact .arrive empty
    · exact .skip empty
  | check event =>
    cases closed : d.closed <;> simp [act?, step, follow, Point.deeds, closed] at acted <;> subst e
    · exact .findOpen closed
    · exact .findClosed closed
  | claim =>
    cases scheduled : d.scheduled <;> simp [act?, step, follow, Point.deeds, scheduled] at acted <;>
      subst e
    · exact .claim scheduled
    · exact .claimLate scheduled
  | close =>
    cases closed : d.closed <;> simp [act?, step, follow, Point.deeds, closed] at acted <;> subst e
    · exact .close closed
    · exact .closeAgain closed
  | take fate =>
    cases queue : d.queue <;> simp [act?, step, follow, Point.deeds, queue] at acted <;> subst e
    · exact .exhaust queue
    · exact .pop queue
  | inHand fate event =>
    cases fate <;> simp [act?, step, follow, Point.deeds] at acted <;> subst e
    · exact .handOver
    · exact .discard
  | count fate =>
    cases fate <;> simp [act?, step, follow, Point.deeds] at acted <;> subst e
    · exact .countDelivered
    · exact .countDropped
  | recheck fate =>
    cases queue : d.queue <;> simp [act?, step, follow, Point.deeds, queue] at acted <;> subst e
    · exact .leave queue
    · exact .findEvent (by simp [queue])
  | reclaim fate =>
    cases scheduled : d.scheduled <;> simp [act?, step, follow, Point.deeds, scheduled] at acted <;>
      subst e
    · exact .reclaim scheduled
    · exact .reclaimLate scheduled
  | offered | reached => simp [act?, step, follow] at acted
  | _ =>
    simp [act?, step, follow, Point.deeds] at acted
    subst e
    constructor

theorem Strand.acts {d : Dispatcher α} {strand : Strand α} {act : Act} {e : Effect α}
    (acted : strand.act? d act = some e) : Acts d strand act e := by
  cases strand with
  | standing point => cases act with
    | move => exact standing_acts acted
    | _ => simp [act?] at acted
  | passing event pass => cases act with
    | move =>
      cases pass with
      | start =>
        cases Option.some.inj acted
        exact .beginPass
      | visit snapshot index =>
        cases entry : (d.chain.view snapshot)[index]? <;>
          simp [act?, Pass.step, entry, resume] at acted <;> subst e
        · exact .endPass entry
        · exact .call entry
    | _ => simp [act?] at acted
  | offering => cases act with
    | accept => cases Option.some.inj acted; exact .accept
    | refuse reason => cases reason <;> cases Option.some.inj acted <;> constructor
    | _ => simp [act?] at acted
  | accepted => cases act with
    | comeBack => cases Option.some.inj acted; exact .comeBack
    | _ => simp [act?] at acted
  | queued => cases act with
    | start => cases Option.some.inj acted; exact .start
    | _ => simp [act?] at acted
  | calling listener event pass => cases act with
    | finishCall panicked => cases Option.some.inj acted; exact .finishCall
    | _ => simp [act?] at acted
  | ended => simp [act?] at acted

theorem Strand.Acts.queued_of_begun {d : Dispatcher α} {strand begun : Strand α} {act : Act}
    {e : Effect α} (acts : Strand.Acts d strand act e) (member : begun ∈ e.begun) : begun = .queued := by
  cases acts with
  | accept => exact List.mem_singleton.mp member
  | _ => cases member

/-- A dispatcher, the strands that have been begun on it, each at its place for ever, and what
has been told of them, each deed with the place of its strand. -/
structure System (α : Type) where
  core : Dispatcher α := {}
  strands : List (Strand α) := []
  history : List (Nat × Deed α) := []

inductive Action (α : Type) where
  | fire (event : Event)
  | act (place : Nat) (act : Act)
  | add (listener : α)
  | remove (listener : α)

namespace System

def fire (s : System α) (event : Event) : System α :=
  { s with
    strands := s.strands ++ [.standing (.arrive event)]
    history := s.history ++ [(s.strands.length, .begun event)] }

def effect (s : System α) (place : Nat) (e : Effect α) : System α where
  core := e.core
  strands := s.strands.set place e.strand ++ e.begun
  history := s.history ++ e.deeds.map (place, ·)

def change (s : System α) (list : ListenerList α) : System α :=
  { s with core := { s.core with chain := list } }

def perform? [BEq α] (s : System α) : Action α → Option (System α)
  | .fire event => some (s.fire event)
  | .act place act => do
    let strand ← s.strands[place]?
    let e ← strand.act? s.core act
    return s.effect place e
  | .add listener => some (s.change (s.core.chain.add listener))
  | .remove listener => some (s.change (s.core.chain.remove listener).2)

inductive Reachable [BEq α] : System α → Prop where
  | start : Reachable {}
  | next {s t : System α} (action : Action α) (before : Reachable s)
      (performed : s.perform? action = some t) : Reachable t

def run? [BEq α] (s : System α) : List (Action α) → Option (System α)
  | [] => some s
  | action :: rest => (s.perform? action).bind (run? · rest)

def moves (place count : Nat) : List (Action α) := List.replicate count (.act place .move)

theorem Reachable.run [BEq α] {s t : System α} (before : s.Reachable) (actions : List (Action α))
    (ran : s.run? actions = some t) : t.Reachable := by
  induction actions generalizing s with
  | nil => cases Option.some.inj ran; exact before
  | cons action rest ih =>
    obtain ⟨middle, performed, ran⟩ := Option.bind_eq_some_iff.mp ran
    exact ih (.next action before performed) ran

theorem acts_of_perform [BEq α] {s t : System α} {place : Nat} {act : Act}
    (performed : s.perform? (.act place act) = some t) :
    ∃ strand e, s.strands[place]? = some strand ∧ Strand.Acts s.core strand act e ∧
      t = s.effect place e := by
  obtain ⟨strand, found, rest⟩ := Option.bind_eq_some_iff.mp performed
  obtain ⟨e, acted, same⟩ := Option.bind_eq_some_iff.mp rest
  exact ⟨strand, e, found, Strand.acts acted, (Option.some.inj same).symm⟩

/-- A property holds of every reachable system if the first has it, acts of strands keep it,
and neither a new firing nor a change of the listeners touches it. Such a change is not seen by
an event that is on its way. -/
theorem Reachable.invariant [BEq α] {s : System α} (reach : s.Reachable) (holds : System α → Prop)
    (start : holds {}) (fire : ∀ s event, s.Reachable → holds s → holds (s.fire event))
    (change : ∀ s list, s.core.chain.Keeps list → holds s → holds (s.change list))
    (act : ∀ s place strand act e, s.Reachable → holds s → s.strands[place]? = some strand →
      Strand.Acts s.core strand act e → holds (s.effect place e)) : holds s := by
  induction reach with
  | start => exact start
  | next action before performed ih =>
    cases action with
    | fire event =>
      cases Option.some.inj performed
      exact fire _ event before ih
    | act place a =>
      obtain ⟨strand, e, found, acts, rfl⟩ := acts_of_perform performed
      exact act _ place strand a e before ih found acts
    | add listener =>
      cases Option.some.inj performed
      exact change _ _ (ListenerList.keeps_mutate _ _) ih
    | remove listener =>
      cases Option.some.inj performed
      exact change _ _ (ListenerList.keeps_remove _ _) ih

/-- No firing is in progress and no accepted emptying is unfinished. -/
def Idle (s : System α) : Prop := ∀ strand ∈ s.strands, strand = .ended

def deeds (s : System α) : List (Deed α) := s.history.map (·.2)

def deedsOf (s : System α) (place : Nat) : List (Deed α) :=
  (s.history.filter (·.1 == place)).map (·.2)

@[simp] theorem core_fire (s : System α) (event : Event) : (s.fire event).core = s.core := rfl

@[simp] theorem strands_fire (s : System α) (event : Event) :
    (s.fire event).strands = s.strands ++ [.standing (.arrive event)] := rfl

@[simp] theorem deeds_fire (s : System α) (event : Event) :
    (s.fire event).deeds = s.deeds ++ [.begun event] := by
  simp [fire, deeds]

@[simp] theorem core_effect (s : System α) (place : Nat) (e : Effect α) :
    (s.effect place e).core = e.core := rfl

@[simp] theorem strands_effect (s : System α) (place : Nat) (e : Effect α) :
    (s.effect place e).strands = s.strands.set place e.strand ++ e.begun := rfl

@[simp] theorem deeds_effect (s : System α) (place : Nat) (e : Effect α) :
    (s.effect place e).deeds = s.deeds ++ e.deeds := by
  simp [effect, deeds, Function.comp_def]

theorem found_fire {s : System α} {event : Event} {place : Nat} {strand : Strand α}
    (found : (s.fire event).strands[place]? = some strand) :
    s.strands[place]? = some strand ∨
      s.strands.length = place ∧ strand = .standing (.arrive event) := by
  rw [strands_fire, List.getElem?_append] at found
  split at found
  case isTrue => exact Or.inl found
  case isFalse outside =>
    have bound := (List.getElem?_eq_some_iff.mp found).1
    rw [List.length_singleton] at bound
    exact Or.inr ⟨by omega, List.mem_singleton.mp (List.mem_of_getElem? found)⟩

theorem found_effect {s : System α} {acting place : Nat} {acts strand : Strand α} {e : Effect α}
    (here : s.strands[acting]? = some acts) (found : (s.effect acting e).strands[place]? = some strand) :
    acting = place ∧ strand = e.strand ∨ acting ≠ place ∧ s.strands[place]? = some strand ∨
      s.strands.length ≤ place ∧ strand ∈ e.begun := by
  have inside := (List.getElem?_eq_some_iff.mp here).1
  rw [strands_effect, List.getElem?_append, List.length_set] at found
  split at found
  case isTrue =>
    by_cases same : acting = place
    · subst same
      rw [List.getElem?_set_self inside] at found
      exact Or.inl ⟨rfl, (Option.some.inj found).symm⟩
    · rw [List.getElem?_set_ne same] at found
      exact Or.inr (Or.inl ⟨same, found⟩)
  case isFalse outside =>
    exact Or.inr (Or.inr ⟨Nat.le_of_not_lt outside, List.mem_of_getElem? found⟩)

@[simp] theorem deedsOf_fire (s : System α) (event : Event) (place : Nat) :
    (s.fire event).deedsOf place =
      s.deedsOf place ++ if s.strands.length = place then [.begun event] else [] := by
  by_cases same : s.strands.length = place <;> simp [fire, deedsOf, same]

@[simp] theorem deedsOf_effect (s : System α) (acting : Nat) (e : Effect α) (place : Nat) :
    (s.effect acting e).deedsOf place =
      s.deedsOf place ++ if acting = place then e.deeds else [] := by
  by_cases same : acting = place <;>
    simp [effect, deedsOf, same, List.filter_map, Function.comp_def]

@[simp] theorem strands_change (s : System α) (list : ListenerList α) :
    (s.change list).strands = s.strands := rfl

@[simp] theorem deeds_change (s : System α) (list : ListenerList α) :
    (s.change list).deeds = s.deeds := rfl

def news (s t : System α) : List (Nat × Deed α) := t.history.drop s.history.length

theorem acts_of_news [BEq α] {s t : System α} {action : Action α}
    (performed : s.perform? action = some t) {place : Nat} {deed : Deed α}
    (told : (place, deed) ∈ s.news t) :
    (∃ event, deed = .begun event) ∨
    ∃ strand act e, s.strands[place]? = some strand ∧ Strand.Acts s.core strand act e ∧
      deed ∈ e.deeds := by
  cases action with
  | fire event =>
    cases Option.some.inj performed
    simp only [news, fire, List.drop_left, List.mem_singleton, Prod.mk.injEq] at told
    exact Or.inl ⟨event, told.2⟩
  | act acting act =>
    obtain ⟨strand, e, found, acts, rfl⟩ := acts_of_perform performed
    simp only [news, effect, List.drop_left, List.mem_map, Prod.mk.injEq] at told
    obtain ⟨deed, told, rfl, rfl⟩ := told
    exact Or.inr ⟨strand, act, e, found, acts, told⟩
  | add listener =>
    cases Option.some.inj performed
    simp [news, change] at told
  | remove listener =>
    cases Option.some.inj performed
    simp [news, change] at told

theorem Reachable.place_lt [BEq α] {s : System α} (reach : s.Reachable) {place : Nat} {deed : Deed α}
    (told : (place, deed) ∈ s.history) : place < s.strands.length := by
  refine reach.invariant (fun s => ∀ place deed, (place, deed) ∈ s.history →
    place < s.strands.length) ?start ?fire ?change ?act place deed told
  case start =>
    intro place deed told
    cases told
  case fire =>
    intro s event _ ih place deed told
    simp only [fire, List.mem_append, List.mem_singleton, Prod.mk.injEq] at told
    rw [strands_fire, List.length_append]
    obtain told | ⟨rfl, -⟩ := told
    · exact Nat.lt_add_right _ (ih place deed told)
    · exact Nat.lt_succ_self _
  case change =>
    intro s list _ ih
    exact ih
  case act =>
    intro s acting strand act e _ ih found _ place deed told
    simp only [effect, List.mem_append, List.mem_map, Prod.mk.injEq] at told
    rw [strands_effect, List.length_append, List.length_set]
    obtain told | ⟨_, -, rfl, -⟩ := told
    · exact Nat.lt_add_right _ (ih place deed told)
    · exact Nat.lt_add_right _ (List.getElem?_eq_some_iff.mp found).1

theorem Reachable.deedsOf_eq_nil [BEq α] {s : System α} (reach : s.Reachable) {place : Nat}
    (outside : s.strands.length ≤ place) : s.deedsOf place = [] := by
  have none : s.history.filter (·.1 == place) = [] := by
    rw [List.filter_eq_nil_iff]
    rintro ⟨before, deed⟩ member same
    have inside := reach.place_lt member
    rw [beq_iff_eq] at same
    omega
  rw [deedsOf, none, List.map_nil]

/-- What holds between where a strand stands and what has been told of it, whatever the others
do, holds of all strands of a reachable system. -/
theorem Reachable.each [BEq α] {s : System α} (reach : s.Reachable)
    (holds : Strand α → List (Deed α) → Prop)
    (fire : ∀ event, holds (.standing (.arrive event)) [.begun event])
    (queued : holds .queued [])
    (act : ∀ d strand act e deeds, Strand.Acts d strand act e → holds strand deeds →
      holds e.strand (deeds ++ e.deeds))
    {place : Nat} {strand : Strand α} (found : s.strands[place]? = some strand) :
    holds strand (s.deedsOf place) := by
  refine reach.invariant (fun s => ∀ place strand, s.strands[place]? = some strand →
    holds strand (s.deedsOf place)) ?start ?fire ?change ?act place strand found
  case start =>
    intro place strand found
    cases found
  case fire =>
    intro s event reach ih place strand found
    obtain old | ⟨rfl, rfl⟩ := found_fire found
    · have inside := (List.getElem?_eq_some_iff.mp old).1
      simpa [Nat.ne_of_gt inside] using ih place strand old
    · simpa [reach.deedsOf_eq_nil] using fire event
  case change =>
    intro s list _ ih
    exact ih
  case act =>
    intro s acting strand a e reach ih here acts place other found
    obtain ⟨rfl, rfl⟩ | ⟨elsewhere, old⟩ | ⟨new, begun⟩ := found_effect here found
    · simpa using act _ _ _ _ _ acts (ih _ _ here)
    · simpa [elsewhere] using ih _ _ old
    · have inside := (List.getElem?_eq_some_iff.mp here).1
      have elsewhere : acting ≠ place := by omega
      rw [acts.queued_of_begun begun]
      simpa [elsewhere, reach.deedsOf_eq_nil new] using queued

end System

end Dispatch

end TransferLifecycle
