import TransferLifecycle.Proofs.Dispatch.Strokes

/-! An executor that breaks its contract: it loses an emptying that it has accepted, or it panics without
having run the one that it was offered. The flag of the dispatcher is then up and nobody owns the queue.
Only an owner takes the flag down, and nobody becomes an owner while it is up, so it stays up for ever:
events are queued and none is delivered or given up. -/
namespace TransferLifecycle.Dispatch

variable {α β : Type}

inductive Lapse where
  /-- An emptying that was accepted is dropped without having been run. -/
  | lose
  /-- The executor panics without having run what it was offered, and the firing with it. -/
  | panic
  deriving DecidableEq, Repr

def Strand.lapse? : Strand α → Lapse → Option (Strand α)
  | .queued, .lose | .offering, .panic => some .ended
  | _, _ => none

def Deed.called? : Deed α → Option (α × Event)
  | .called listener event => some (listener, event)
  | _ => none

def Deed.answered? : Deed α → Option (Except Refusal Unit)
  | .accepted => some (.ok ())
  | .refused reason => some (.error reason)
  | _ => none

/-- How far a firing has come on a dispatcher that nobody empties, and its strokes so far: with the chain
empty it leaves everything as it is, and else it queues its event and leaves the rest as it is. -/
inductive Detained (event : Event) : Strand α → List (Stroke α) → Prop
  | begun : Detained event (.standing (.arrive event)) []
  | passedOver {d} (empty : d.chain.isEmpty = true) : Detained event .ended [⟨d, d⟩]
  | admitted {d} (filled : d.chain.isEmpty = false) : Detained event (.standing (.check event)) [⟨d, d⟩]
  | foundOpen {d₁ d₂} (filled : d₁.chain.isEmpty = false) :
    Detained event (.standing (.push event)) [⟨d₁, d₁⟩, ⟨d₂, d₂⟩]
  | queued {d₁ d₂ d₃} (filled : d₁.chain.isEmpty = false) :
    Detained event (.standing .claim)
      [⟨d₁, d₁⟩, ⟨d₂, d₂⟩, ⟨d₃, { d₃ with queue := d₃.queue ++ [event] }⟩]
  | left {d₁ d₂ d₃ d₄} (filled : d₁.chain.isEmpty = false) :
    Detained event .ended
      [⟨d₁, d₁⟩, ⟨d₂, d₂⟩, ⟨d₃, { d₃ with queue := d₃.queue ++ [event] }⟩, ⟨d₄, d₄⟩]

/-- The strand neither owns the queue nor has found the dispatcher closed. -/
def Strand.idles (strand : Strand α) : Prop := strand.owns = false ∧ strand ≠ .standing .turnAway

private theorem Strand.Acts.idles {d : Dispatcher α} {strand : Strand α} {act : Act} {e : Effect α}
    (acts : strand.Acts d act e) (opened : d.closed = false) (taken : d.scheduled = true)
    (idles : strand.idles) :
    e.strand.idles ∧ e.begun = [] ∧
      e.core = { d with queue := d.queue ++ e.deeds.filterMap Deed.pushed? } ∧
      e.deeds.filterMap Deed.called? = [] ∧ e.deeds.filterMap Deed.answered? = [] := by
  obtain ⟨foreign, unturned⟩ := idles
  cases acts with
  | turnAway => exact absurd rfl unturned
  | findClosed closed => rw [opened] at closed; cases closed
  | claim free | reclaim free => rw [taken] at free; cases free
  | accept | refuseFull | refuseStopped | start | overflow | announceInline | close | closeAgain
  | announceClosed | countRefusal | pop | exhaust | handOver | discard | beginPass | call | finishCall
  | endPass | countDelivered | countDropped | release => cases foreign
  | _ =>
    simp [Strand.idles, Strand.owns, Point.owns, List.filterMap_cons, Deed.pushed?, Deed.called?,
      Deed.answered?]

private theorem Strand.owns_of_lapse {strand after : Strand α} {lapse : Lapse}
    (lapsed : strand.lapse? lapse = some after) : strand.owns = true ∧ after = .ended := by
  unfold lapse? at lapsed
  split at lapsed <;> cases lapsed <;> exact ⟨rfl, rfl⟩

theorem Detained.next {event : Event} {d : Dispatcher α} {strand : Strand α} {act : Act} {e : Effect α}
    {strokes : List (Stroke α)} (opened : d.closed = false) (taken : d.scheduled = true)
    (acts : strand.Acts d act e) (detained : Detained event strand strokes) :
    Detained event e.strand (strokes ++ [⟨d, e.core⟩]) := by
  cases detained with
  | begun =>
    cases acts with
    | skip empty => exact .passedOver empty
    | arrive filled => exact .admitted filled
  | passedOver | left => cases acts
  | admitted filled =>
    cases acts with
    | findClosed closed => rw [opened] at closed; cases closed
    | findOpen => exact .foundOpen filled
  | foundOpen filled =>
    cases acts with
    | push => exact .queued filled
  | queued filled =>
    cases acts with
    | claim free => rw [taken] at free; cases free
    | claimLate => exact .left filled

namespace System

/-- A strand at the place goes no further because the executor breaks its contract. -/
def lapse? (s : System α) (place : Nat) (lapse : Lapse) : Option (System α) := do
  let strand ← s.strands[place]?
  let after ← strand.lapse? lapse
  return { s with strands := s.strands.set place after }

/-- What can come about over an executor that may break its contract at any time. -/
inductive Faltering [BEq α] : System α → Prop where
  | start : Faltering {}
  | next {s t : System α} (action : Action α) (before : Faltering s)
      (performed : s.perform? action = some t) : Faltering t
  | lapse {s t : System α} (place : Nat) (lapse : Lapse) (before : Faltering s)
      (lapsed : s.lapse? place lapse = some t) : Faltering t

structure Wedged (s : System α) : Prop where
  opened : s.core.closed = false
  taken : s.core.scheduled = true
  idle : ∀ strand ∈ s.strands, strand.idles

variable [BEq α] {s t u : System α}

private theorem Reachable.unturned (reach : s.Reachable) (opened : s.core.closed = false) :
    ∀ strand ∈ s.strands, strand ≠ .standing .turnAway := by
  refine reach.invariant (fun s => s.core.closed = false → ∀ strand ∈ s.strands,
    strand ≠ .standing .turnAway) ?start ?fire ?change ?act opened
  case start => simp
  case fire =>
    intro s event _ ih opened strand member
    obtain old | new := List.mem_append.mp member
    · exact ih opened strand old
    · rw [List.mem_singleton.mp new]
      simp
  case change =>
    intro s list _ ih
    exact ih
  case act =>
    intro s place strand act e _ ih found acts opened other member
    have before : s.core.closed = false := by
      cases closed : s.core.closed with
      | false => rfl
      | true =>
        have after := Strand.Acts.closed acts closed
        rw [core_effect, after] at opened
        cases opened
    obtain old | begun := List.mem_append.mp member
    · obtain old | rfl := List.mem_or_eq_of_mem_set old
      · exact ih before other old
      · intro turned
        cases acts <;> simp_all
    · rw [acts.queued_of_begun begun]
      simp

private theorem Reachable.wedged (reach : s.Reachable) (opened : s.core.closed = false) {place : Nat}
    {lapse : Lapse} (lapsed : s.lapse? place lapse = some t) : t.Wedged := by
  obtain ⟨strand, found, rest⟩ := Option.bind_eq_some_iff.mp lapsed
  obtain ⟨after, lapsing, same⟩ := Option.bind_eq_some_iff.mp rest
  cases Option.some.inj same
  obtain ⟨owns, rfl⟩ := Strand.owns_of_lapse lapsing
  refine ⟨opened, reach.scheduled_of_owns found owns, ?idle⟩
  intro other member
  obtain ⟨there, here⟩ := List.mem_iff_getElem?.mp member
  have inside := (List.getElem?_eq_some_iff.mp found).1
  by_cases same : place = there
  · subst same
    rw [List.getElem?_set_self inside] at here
    cases Option.some.inj here
    exact ⟨rfl, by simp⟩
  · rw [List.getElem?_set_ne same] at here
    refine ⟨Bool.eq_false_iff.mpr fun both => same ?_, reach.unturned opened other (List.mem_of_getElem? here)⟩
    exact reach.owner_unique ⟨strand, found, owns⟩ ⟨other, here, both⟩

omit [BEq α] in
private theorem Wedged.lapse_eq_none (wedged : s.Wedged) (place : Nat) (lapse : Lapse) :
    s.lapse? place lapse = none := by
  refine Option.eq_none_iff_forall_not_mem.mpr fun t lapsed => ?_
  obtain ⟨strand, found, rest⟩ := Option.bind_eq_some_iff.mp lapsed
  obtain ⟨after, lapsing, -⟩ := Option.bind_eq_some_iff.mp rest
  have foreign := (wedged.idle strand (List.mem_of_getElem? found)).1
  rw [(Strand.owns_of_lapse lapsing).1] at foreign
  cases foreign

theorem Wedged.next (wedged : s.Wedged) {action : Action α} (performed : s.perform? action = some t) :
    t.Wedged := by
  cases action with
  | fire event =>
    cases Option.some.inj performed
    refine ⟨wedged.opened, wedged.taken, ?_⟩
    intro strand member
    obtain old | new := List.mem_append.mp member
    · exact wedged.idle strand old
    · rw [List.mem_singleton.mp new]
      exact ⟨rfl, by simp⟩
  | act place act =>
    obtain ⟨strand, e, found, acts, rfl⟩ := acts_of_perform performed
    obtain ⟨idles, none, core, -, -⟩ :=
      acts.idles wedged.opened wedged.taken (wedged.idle strand (List.mem_of_getElem? found))
    refine ⟨by simp [core, wedged.opened], by simp [core, wedged.taken], ?_⟩
    intro other member
    rw [strands_effect, none, List.append_nil] at member
    obtain old | rfl := List.mem_or_eq_of_mem_set member
    · exact wedged.idle other old
    · exact idles
  | add | remove =>
    cases Option.some.inj performed
    exact ⟨wedged.opened, wedged.taken, wedged.idle⟩

/-- As long as the dispatcher is open, either the executor has kept its contract or all is over. -/
theorem Faltering.cases (faltering : s.Faltering) (opened : s.core.closed = false) :
    s.Reachable ∨ s.Wedged := by
  induction faltering with
  | start => exact Or.inl .start
  | @next s t action _ performed ih =>
    have before : s.core.closed = false := by
      cases closed : s.core.closed with
      | false => rfl
      | true =>
        rw [closed_next performed closed] at opened
        cases opened
    obtain reach | wedged := ih before
    · exact Or.inl (.next action reach performed)
    · exact Or.inr (wedged.next performed)
  | @lapse s t place lapse _ lapsed ih =>
    have before : s.core.closed = false := by
      obtain ⟨strand, _, rest⟩ := Option.bind_eq_some_iff.mp lapsed
      obtain ⟨after, _, same⟩ := Option.bind_eq_some_iff.mp rest
      cases Option.some.inj same
      exact opened
    obtain reach | wedged := ih before
    · exact Or.inr (reach.wedged before lapsed)
    · rw [wedged.lapse_eq_none] at lapsed
      cases lapsed

private theorem Faltering.wedged (faltering : s.Faltering) (opened : s.core.closed = false) {place : Nat}
    {lapse : Lapse} (lapsed : s.lapse? place lapse = some t) : t.Wedged := by
  obtain reach | wedged := faltering.cases opened
  · exact reach.wedged opened lapsed
  · rw [wedged.lapse_eq_none] at lapsed
    cases lapsed

/-- What a run has come to since the dispatcher was wedged. -/
structure Stuck (t u : System α) : Prop where
  silent : u.told Deed.called? = t.told Deed.called?
  unanswered : u.told Deed.answered? = t.told Deed.answered?
  unoffered : ∀ strand ∈ u.strands, strand ≠ .offering
  delivered : u.core.delivered = t.core.delivered
  rejected : u.core.rejected = t.core.rejected
  dropped : u.core.dropped = t.core.dropped
  pending : u.core.pending + (t.told Deed.pushed?).length = t.core.pending + (u.told Deed.pushed?).length
  detained : ∀ event actions later, (u.fire event).run? actions = some later →
    ∃ strand, later.strands[u.strands.length]? = some strand ∧
      Detained event strand ((u.fire event).strokes u.strands.length actions)
  lasting : ∀ place lapse, u.lapse? place lapse = none

private theorem Wedged.detained (wedged : s.Wedged) {event : Event} {actions : List (Action α)}
    (ran : (s.fire event).run? actions = some t) :
    ∃ strand, t.strands[s.strands.length]? = some strand ∧
      Detained event strand ((s.fire event).strokes s.strands.length actions) := by
  have fired : (s.fire event).Wedged := by
    have performed : s.perform? (.fire event) = some (s.fire event) := rfl
    exact wedged.next performed
  refine follows_run Wedged (Detained event) ?keeps ?acts fired (found_fired s event) .begun ran
  case keeps =>
    intro s action t wedged performed
    exact wedged.next performed
  case acts =>
    intro s strand act e strokes wedged _ acts before
    exact before.next wedged.opened wedged.taken acts

theorem Wedged.tells (wedged : s.Wedged) {action : Action α} (performed : s.perform? action = some t) :
    t.told Deed.called? = s.told Deed.called? ∧ t.told Deed.answered? = s.told Deed.answered? ∧
      ∃ more chain, t.told Deed.pushed? = s.told Deed.pushed? ++ more ∧
        t.core = { s.core with queue := s.core.queue ++ more, chain := chain } := by
  cases action with
  | fire event =>
    cases Option.some.inj performed
    refine ⟨by simp [Deed.called?], by simp [Deed.answered?], [], s.core.chain, ?_, ?_⟩
    · simp [Deed.pushed?]
    · simp
  | act place act =>
    obtain ⟨strand, e, found, acts, rfl⟩ := acts_of_perform performed
    obtain ⟨-, -, core, uncalled, unanswered⟩ :=
      acts.idles wedged.opened wedged.taken (wedged.idle strand (List.mem_of_getElem? found))
    refine ⟨by simp [uncalled], by simp [unanswered], _, s.core.chain, told_effect _ _ _ _, ?_⟩
    rw [core_effect, core]
  | add | remove =>
    cases Option.some.inj performed
    exact ⟨rfl, rfl, [], _, by simp, by rw [List.append_nil]; rfl⟩

theorem Wedged.stuck (wedged : t.Wedged) {actions : List (Action α)} (ran : t.run? actions = some u) :
    Stuck t u := by
  have since : u.Wedged ∧ u.told Deed.called? = t.told Deed.called? ∧
      u.told Deed.answered? = t.told Deed.answered? ∧
      ∃ more chain, u.told Deed.pushed? = t.told Deed.pushed? ++ more ∧
        u.core = { t.core with queue := t.core.queue ++ more, chain := chain } := by
    refine run_invariant (fun u => u.Wedged ∧ u.told Deed.called? = t.told Deed.called? ∧
      u.told Deed.answered? = t.told Deed.answered? ∧
      ∃ more chain, u.told Deed.pushed? = t.told Deed.pushed? ++ more ∧
        u.core = { t.core with queue := t.core.queue ++ more, chain := chain }) ?start ?next ran
    case start => exact ⟨wedged, rfl, rfl, [], t.core.chain, by simp, by simp⟩
    case next =>
      rintro middle action last ⟨wedged, uncalled, unanswered, more, chain, pushed, core⟩ performed
      obtain ⟨silent, quiet, rest, list, queued, now⟩ := wedged.tells performed
      refine ⟨wedged.next performed, silent.trans uncalled, quiet.trans unanswered, more ++ rest, list,
        ?_, ?_⟩
      · rw [queued, pushed, List.append_assoc]
      · rw [now, core, List.append_assoc]
  obtain ⟨still, uncalled, unanswered, more, chain, pushed, core⟩ := since
  refine ⟨uncalled, unanswered, ?unoffered, ?delivered, ?rejected, ?dropped, ?pending, ?detained,
    still.lapse_eq_none⟩
  case unoffered =>
    rintro strand member rfl
    have foreign := (still.idle _ member).1
    cases foreign
  case delivered => rw [core]
  case rejected => rw [core]
  case dropped => rw [core]
  case pending =>
    rw [core, pushed, Dispatcher.pending, Dispatcher.pending, List.length_append, List.length_append]
    omega
  case detained =>
    intro event actions later ran
    exact still.detained ran

/-- Once an emptying is lost, or the executor panics over one, nothing is delivered, offered or given up
any more, whoever fires and whatever the executor would answer; events only pile up. -/
theorem Faltering.wedges (faltering : s.Faltering) (opened : s.core.closed = false) {place : Nat}
    {lapse : Lapse} (lapsed : s.lapse? place lapse = some t) {actions : List (Action α)}
    (ran : t.run? actions = some u) : Stuck t u :=
  (faltering.wedged opened lapsed).stuck ran

theorem Reachable.faltering (reach : s.Reachable) : s.Faltering := by
  induction reach with
  | start => exact .start
  | next action _ performed ih => exact .next action ih performed

def accepting : List (Action Nat) :=
  [.add 7, .fire (.lifecycle .started)] ++ moves 0 4 ++ [.act 0 .accept]

/-- The firing comes back, another one queues its event, and one more finds the chain empty. -/
def pilingUp : List (Action Nat) :=
  [.act 0 .comeBack] ++ moves 0 1 ++ [.fire (.lifecycle .completed)] ++ moves 2 4 ++
    [.remove 7, .fire (.lifecycle .failed)] ++ moves 3 1

theorem wedges_losing : ∃ s t u : System Nat, run? {} accepting = some s ∧ s.core.closed = false ∧
    s.lapse? 1 .lose = some t ∧ t.run? pilingUp = some u ∧ t.core.pending = 1 ∧ u.Idle ∧
    u.core.queue = [.lifecycle .started, .lifecycle .completed] ∧ Stuck t u := by
  have runs : ∃ s t u : System Nat, run? {} accepting = some s ∧ s.core.closed = false ∧
      s.lapse? 1 .lose = some t ∧ t.run? pilingUp = some u ∧ t.core.pending = 1 ∧ u.Idle ∧
      u.core.queue = [.lifecycle .started, .lifecycle .completed] :=
    ⟨_, _, _, rfl, rfl, rfl, rfl, rfl, by simp [Idle], rfl⟩
  obtain ⟨s, t, u, accepted, opened, lapsed, ran, pending, idle, queued⟩ := runs
  have reach : s.Reachable := .run .start accepting accepted
  exact ⟨s, t, u, accepted, opened, lapsed, ran, pending, idle, queued,
    reach.faltering.wedges opened lapsed ran⟩

/-- The executor panics, and the next event is queued behind the first. -/
example : ((run? {} ([.add 7, .fire (.lifecycle .started)] ++ moves 0 4)).bind (lapse? · 0 .panic)).bind
    (fun s => (s.run? ([.fire (.lifecycle .completed)] ++ moves 1 4)).map (·.core.pending)) = some 2 := rfl

end System

end TransferLifecycle.Dispatch
