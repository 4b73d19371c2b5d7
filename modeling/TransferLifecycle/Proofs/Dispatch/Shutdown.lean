import TransferLifecycle.Proofs.Dispatch.Answering
import TransferLifecycle.Proofs.Dispatch.Weighing

/-! What becomes of the events once the executor is shutting down. The first firing that is told so closes
the dispatcher. Later firings turn away at the check. The events that were queued by then, and those of
firings that had passed the check, are dealt with once each: discarded, or delivered by an emptying that
was just about to look at the queue again. The closing is logged once. -/
namespace TransferLifecycle.Dispatch

variable {α β : Type}

def Strand.notices (d : Dispatcher α) : Strand α → Act → List Notice
  | .standing point, .move => (step d point).2.1
  | .calling _ event pass, .finishCall true => Pass.contain event.kind pass
  | _, _ => []

def Strand.announces : Strand α → Bool
  | .standing .announceClosed => true
  | _ => false

def Strand.pushes : Strand α → Bool
  | .standing (.push _) => true
  | _ => false

/-- How far a firing has come that was begun on a closed dispatcher, and its strokes so far. -/
inductive Declined (event : Event) : Strand α → List (Stroke α) → Prop
  | begun : Declined event (.standing (.arrive event)) []
  | passedOver {d} (empty : d.chain.isEmpty = true) : Declined event .ended [⟨d, d⟩]
  | admitted {d} (filled : d.chain.isEmpty = false) : Declined event (.standing (.check event)) [⟨d, d⟩]
  | foundClosed {d₁ d₂} (filled : d₁.chain.isEmpty = false) :
    Declined event (.standing .turnAway) [⟨d₁, d₁⟩, ⟨d₂, d₂⟩]
  | dropped {d₁ d₂ d₃} (filled : d₁.chain.isEmpty = false) :
    Declined event .ended [⟨d₁, d₁⟩, ⟨d₂, d₂⟩, ⟨d₃, { d₃ with dropped := d₃.dropped + 1 }⟩]

variable {d : Dispatcher α} {strand : Strand α} {act : Act} {e : Effect α}

theorem Declined.next {event : Event} {strokes : List (Stroke α)} (closed : d.closed = true)
    (acts : strand.Acts d act e) (declined : Declined event strand strokes) :
    Declined event e.strand (strokes ++ [⟨d, e.core⟩]) := by
  cases declined with
  | begun =>
    cases acts with
    | skip empty => exact .passedOver empty
    | arrive filled => exact .admitted filled
  | passedOver | dropped => cases acts
  | admitted filled =>
    cases acts with
    | findClosed => exact .foundClosed filled
    | findOpen opened => rw [closed] at opened; cases opened
  | foundClosed filled =>
    cases acts with
    | turnAway => exact .dropped filled

namespace Strand.Acts

theorem announces (acts : strand.Acts d act e) :
    (strand.notices d act).count .droppingEvents + e.strand.announces.toNat + d.closed.toNat =
      strand.announces.toNat + e.core.closed.toNat := by
  cases acts with
  | @finishCall listener event pass panicked =>
    cases panicked <;> simp [Strand.notices, Strand.announces, Pass.contain]
  | _ => simp_all [Strand.notices, Strand.announces, step]

/-- On a closed dispatcher nobody gets past the check any more. -/
theorem pushes (acts : strand.Acts d act e) (closed : d.closed = true) :
    e.strand.pushes = false ∧ e.begun.countP Strand.pushes = 0 ∧
      (e.deeds.filterMap Deed.pushed?).length = strand.pushes.toNat ∧
      ∀ event, .pushed event ∈ e.deeds → strand = .standing (.push event) := by
  cases acts <;> simp_all [List.filterMap_cons, Strand.pushes, Deed.pushed?]

theorem verdicts (acts : strand.Acts d act e) :
    e.deeds.filterMap Deed.begun? = [] ∧
      strand.undecided.isSome.toNat = e.strand.undecided.isSome.toNat +
        (e.deeds.filterMap Deed.verdict?).length ∧
      e.begun.countP (·.undecided.isSome) = 0 := by
  cases acts <;> simp [List.filterMap_cons, Strand.undecided, Deed.begun?, Deed.verdict?]

/-- Without a new admission only a strand that could deliver before hands anything over, or can deliver. -/
theorem unadmitted (acts : strand.Acts d act e) (unadmitted : ∀ deed ∈ e.deeds, deed.admits = false) :
    e.begun = [] := by
  cases acts with
  | accept => simp [Deed.admits] at unadmitted
  | _ => rfl

end Strand.Acts

theorem lost_length (deeds : List (Deed α)) :
    (deeds.filterMap Deed.lost?).length =
      (deeds.filterMap Deed.dealt?).countP (·.1 == .discard) +
        (deeds.filterMap Deed.turnedAway?).length := by
  induction deeds with
  | nil => rfl
  | cons deed rest ih =>
    cases deed <;> simp [List.filterMap_cons, Deed.lost?, Deed.dealt?, Deed.turnedAway?, ih] <;> omega

namespace System

def notices (s : System α) : Action α → List Notice
  | .act place act => (s.strands[place]?).elim [] (·.notices s.core act)
  | .fire _ | .add _ | .remove _ => []

variable [BEq α] {s t u : System α}

omit [BEq α] in
private theorem news_trans (first : s.history <+: t.history) (second : t.history <+: u.history) :
    s.news u = s.news t ++ t.news u := by
  obtain ⟨more, same⟩ := first
  obtain ⟨rest, again⟩ := second
  rw [news, news, news, ← again, ← same, List.append_assoc]
  simp

omit [BEq α] in
private theorem lately_of_news {more : List (Nat × Deed α)} (told : s.news u = s.news t ++ more)
    (view : Deed α → Option β) :
    s.lately u view = s.lately t view ++ more.filterMap fun (_, deed) => view deed := by
  rw [lately, told, List.filterMap_append, lately]

/-- The executor has admitted no emptying since another moment. -/
def Unadmitted (t u : System α) : Prop := ∀ told ∈ t.news u, told.2.admits = false

/-- On a dispatcher closed by `t` only those firings push that stood at their push then, and if the
executor admits nothing more, only those strands deliver that could deliver then. -/
structure Trailing (t u : System α) : Prop where
  closed : u.core.closed = true
  grown : t.history <+: u.history
  standing : ∀ (place : Nat) (strand : Strand α), u.strands[place]? = some strand → strand.pushes →
    t.strands[place]? = some strand
  late : ∀ place event, (place, .pushed event) ∈ t.news u →
    t.strands[place]? = some (.standing (.push event))
  awaited : (t.lately u Deed.pushed?).length + u.strands.countP Strand.pushes =
    t.strands.countP Strand.pushes
  able : Unadmitted t u → ∀ (place : Nat) (strand : Strand α), u.strands[place]? = some strand →
    strand.delivers → ∃ before ∈ t.strands[place]?, before.delivers
  handed : Unadmitted t u → ∀ place event, (place, .handed event) ∈ t.news u →
    ∃ before ∈ t.strands[place]?, before.delivers

omit [BEq α] in
theorem Trailing.start (closed : t.core.closed = true) : Trailing t t where
  closed := closed
  grown := List.prefix_rfl
  standing place strand found _ := found
  late place event told := by simp [news] at told
  awaited := by simp [lately, news]
  able _ place strand found delivers := ⟨strand, found, delivers⟩
  handed _ place event told := by simp [news] at told

omit [BEq α] in
theorem Trailing.fire (trailing : Trailing t u) (event : Event) : Trailing t (u.fire event) := by
  have grows : u.history <+: (u.fire event).history := List.prefix_append _ _
  have told : t.news (u.fire event) = t.news u ++ [(u.strands.length, .begun event)] := by
    rw [news_trans trailing.grown grows]
    simp [news, System.fire]
  have earlier (unadmitted : Unadmitted t (u.fire event)) : Unadmitted t u := by
    intro deed member
    exact unadmitted deed (by rw [told]; exact List.mem_append_left _ member)
  refine ⟨trailing.closed, trailing.grown.trans grows, ?standing, ?late, ?awaited, ?able, ?handed⟩
  case standing =>
    intro place strand found pushes
    obtain old | ⟨-, rfl⟩ := found_fire found
    · exact trailing.standing place strand old pushes
    · cases pushes
  case late =>
    intro place pushed member
    rw [told] at member
    exact trailing.late place pushed (by simpa using member)
  case awaited =>
    rw [lately_of_news told, strands_fire, List.countP_append]
    simpa [List.filterMap_cons, Deed.pushed?, Strand.pushes] using trailing.awaited
  case able =>
    intro unadmitted place strand found delivers
    obtain old | ⟨-, rfl⟩ := found_fire found
    · exact trailing.able (earlier unadmitted) place strand old delivers
    · cases delivers
  case handed =>
    intro unadmitted place handed member
    rw [told] at member
    exact trailing.handed (earlier unadmitted) place handed (by simpa using member)

section

variable {place : Nat} {strand : Strand α} {act : Act} {e : Effect α}

omit [BEq α] in
private theorem Trailing.news_effect (trailing : Trailing t u) (place : Nat) (e : Effect α) :
    t.news (u.effect place e) = t.news u ++ e.deeds.map (place, ·) := by
  rw [news_trans trailing.grown (List.prefix_append _ _)]
  simp [news, System.effect]

omit [BEq α] in
private theorem Trailing.unadmitted_effect (trailing : Trailing t u) (unadmitted : Unadmitted t (u.effect place e)) :
    Unadmitted t u ∧ ∀ deed ∈ e.deeds, deed.admits = false := by
  rw [Unadmitted, trailing.news_effect] at unadmitted
  refine ⟨fun told member => unadmitted told (List.mem_append_left _ member), fun deed member => ?_⟩
  exact unadmitted (place, deed) (List.mem_append_right _ (List.mem_map_of_mem member))

omit [BEq α] in
private theorem Trailing.late_effect (trailing : Trailing t u) (found : u.strands[place]? = some strand)
    (acts : strand.Acts u.core act e) {other : Nat} {event : Event}
    (member : (other, .pushed event) ∈ t.news (u.effect place e)) :
    t.strands[other]? = some (.standing (.push event)) := by
  rw [trailing.news_effect, List.mem_append] at member
  obtain old | new := member
  · exact trailing.late other event old
  · obtain ⟨deed, pushed, same⟩ := List.mem_map.mp new
    obtain ⟨-, -, -, pushing⟩ := acts.pushes trailing.closed
    cases same
    cases pushing event pushed
    exact trailing.standing place _ found rfl

omit [BEq α] in
private theorem Trailing.awaited_effect (trailing : Trailing t u) (found : u.strands[place]? = some strand)
    (acts : strand.Acts u.core act e) :
    (t.lately (u.effect place e) Deed.pushed?).length + (u.effect place e).strands.countP Strand.pushes =
      t.strands.countP Strand.pushes := by
  obtain ⟨settled, none, count, -⟩ := acts.pushes trailing.closed
  have moved := countP_effect Strand.pushes found e
  have before := trailing.awaited
  have pushed : t.lately (u.effect place e) Deed.pushed? =
      t.lately u Deed.pushed? ++ e.deeds.filterMap Deed.pushed? := by
    rw [lately_of_news (trailing.news_effect place e), List.filterMap_map]
    rfl
  rw [settled, none] at moved
  rw [pushed, List.length_append, count]
  simp only [Bool.toNat_false] at moved
  omega

omit [BEq α] in
private theorem Trailing.able_effect (trailing : Trailing t u) (found : u.strands[place]? = some strand)
    (acts : strand.Acts u.core act e) (unadmitted : Unadmitted t (u.effect place e)) {other : Nat}
    {now : Strand α} (here : (u.effect place e).strands[other]? = some now) (delivers : now.delivers) :
    ∃ before ∈ t.strands[other]?, before.delivers := by
  obtain ⟨before, own⟩ := trailing.unadmitted_effect unadmitted
  obtain ⟨same, rfl⟩ | ⟨-, old⟩ | ⟨-, begun⟩ := found_effect found here
  · subst same
    cases could : strand.delivers with
    | true => exact trailing.able before _ strand found could
    | false =>
      rw [(acts.quiet could own).1] at delivers
      cases delivers
  · exact trailing.able before other now old delivers
  · rw [acts.unadmitted own] at begun
    cases begun

omit [BEq α] in
private theorem Trailing.handed_effect (trailing : Trailing t u) (found : u.strands[place]? = some strand)
    (acts : strand.Acts u.core act e) (unadmitted : Unadmitted t (u.effect place e)) {other : Nat}
    {event : Event} (member : (other, .handed event) ∈ t.news (u.effect place e)) :
    ∃ before ∈ t.strands[other]?, before.delivers := by
  obtain ⟨before, own⟩ := trailing.unadmitted_effect unadmitted
  rw [trailing.news_effect, List.mem_append] at member
  obtain old | new := member
  · exact trailing.handed before other event old
  · obtain ⟨deed, handed, same⟩ := List.mem_map.mp new
    cases same
    cases could : strand.delivers with
    | true => exact trailing.able before place strand found could
    | false =>
      have none := List.filterMap_eq_nil_iff.mp (acts.quiet could own).2.2 _ handed
      cases none

omit [BEq α] in
theorem Trailing.effect (trailing : Trailing t u) (found : u.strands[place]? = some strand)
    (acts : strand.Acts u.core act e) : Trailing t (u.effect place e) where
  closed := acts.closed trailing.closed
  grown := trailing.grown.trans (List.prefix_append _ _)
  standing other now here pushes := by
    obtain ⟨settled, -⟩ := acts.pushes trailing.closed
    obtain ⟨-, rfl⟩ | ⟨-, old⟩ | ⟨-, begun⟩ := found_effect found here
    · rw [settled] at pushes
      cases pushes
    · exact trailing.standing other now old pushes
    · rw [acts.queued_of_begun begun] at pushes
      cases pushes
  late _ _ member := trailing.late_effect found acts member
  awaited := trailing.awaited_effect found acts
  able unadmitted _ _ here delivers := trailing.able_effect found acts unadmitted here delivers
  handed unadmitted _ _ member := trailing.handed_effect found acts unadmitted member

end

theorem Trailing.run (closed : t.core.closed = true) {actions : List (Action α)}
    (ran : t.run? actions = some u) : Trailing t u := by
  refine run_invariant (Trailing t) (.start closed) ?next ran
  intro u action v trailing performed
  cases action with
  | fire event =>
    cases Option.some.inj performed
    exact trailing.fire event
  | act place act =>
    obtain ⟨strand, e, found, acts, rfl⟩ := acts_of_perform performed
    exact trailing.effect found acts
  | add | remove =>
    cases Option.some.inj performed
    exact ⟨trailing.closed, trailing.grown, trailing.standing, trailing.late, trailing.awaited,
      trailing.able, trailing.handed⟩

/-- An emptying has delivered an event and is about to look at the queue again, one firing has been offered
to the executor with its event in the queue, and another has passed the check. -/
def offering : List (Action Nat) :=
  [.add 7, .fire (.lifecycle .started)] ++ moves 0 4 ++ [.act 0 .accept, .act 1 .start] ++ moves 1 4 ++
    [.act 1 (.finishCall false)] ++ moves 1 4 ++ [.fire (.lifecycle .partStarted)] ++ moves 2 2 ++
    [.fire (.lifecycle .completed)] ++ moves 3 2 ++ moves 2 2

end System

end TransferLifecycle.Dispatch
