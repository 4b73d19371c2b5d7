import Mathlib.Data.List.Chain
import TransferLifecycle.Proofs.Transition.Turn

/-! The path that a transfer takes. The moves that are logged lead from the first state to the present
one, each from where the last one led, and none of them leaves a terminal state. Passes over the
listeners follow one another, and that of a move sees its state. -/
namespace TransferLifecycle.Transition

variable {α : Type}

/-- A path from the first state: every move begins where the last one ended, in no terminal state. -/
inductive Path : List (State × State) → State → Prop where
  | start : Path [] .waiting
  | move {moves old} (new : State) (before : Path moves old) (opened : old.isTerminal = false) :
    Path (moves ++ [(old, new)]) new

namespace Path

variable {moves : List (State × State)} {state : State}

theorem last (path : Path moves state) : (moves.getLast?.map (·.2)).getD .waiting = state := by
  cases path <;> simp

theorem head (path : Path moves state) : ∀ move ∈ moves.head?, move.1 = .waiting := by
  induction path with
  | start => simp
  | @move moves old new before opened ih =>
    cases moves with
    | nil =>
      have origin := before.last
      simpa using origin.symm
    | cons first rest => simpa using ih

theorem chain (path : Path moves state) : moves.IsChain fun earlier later => earlier.2 = later.1 := by
  induction path with
  | start => exact .nil
  | @move moves old new before opened ih =>
    refine ih.append (.singleton _) ?_
    intro earlier isLast later isNew
    have ends := before.last
    rw [Option.mem_def.mp isLast] at ends
    cases Option.some.inj isNew
    exact ends

theorem stays (path : Path moves state) :
    ∀ move ∈ moves, move.2.isTerminal = true → state = move.2 := by
  induction path with
  | start =>
    intro move member
    cases member
  | @move moves old new before opened ih =>
    intro move member terminal
    obtain earlier | same := List.mem_append.mp member
    · have left := ih move earlier terminal
      rw [left, terminal] at opened
      cases opened
    · rw [List.mem_singleton.mp same]

private theorem open_of_open (path : Path moves state) (opened : state.isTerminal = false) :
    ∀ move ∈ moves, move.2.isTerminal = false := by
  intro move member
  refine Bool.eq_false_iff.mpr fun terminal => ?_
  rw [path.stays move member terminal, terminal] at opened
  cases opened

theorem final (path : Path moves state) :
    moves.Pairwise fun earlier _ => earlier.2.isTerminal = false := by
  induction path with
  | start => exact .nil
  | @move moves old new before opened ih =>
    refine List.pairwise_append.mpr ⟨ih, List.pairwise_singleton _ _, ?_⟩
    intro earlier member later _
    exact before.open_of_open opened earlier member

theorem once (path : Path moves state) : moves.countP (·.2.isTerminal) ≤ 1 := by
  cases path with
  | start => simp
  | @move moves old new before opened =>
    have none : moves.countP (·.2.isTerminal) = 0 := by
      refine List.countP_eq_zero.mpr fun move member => ?_
      simp [before.open_of_open opened move member]
    rw [List.countP_append, none, Nat.zero_add]
    exact List.countP_le_length

end Path

def Deed.move? : Deed α → Option (State × State)
  | .noted (.moved _ old new) => some (old, new)
  | _ => none

def Deed.isCall : Deed α → Bool
  | .called _ _ => true
  | _ => false

/-- Once a move has led to a terminal state, whoever takes the turn finds it. -/
def Deed.Binds (earlier later : Deed α) : Prop :=
  ∀ move ∈ earlier.move?, move.2.isTerminal = true →
    ∀ goal state, later = .entered goal state → state = move.2

def Strand.gone : Strand α → Bool
  | .ended | .panicked => true
  | _ => false

variable {me : Nat} {l : Lifecycle α} {strand : Strand α} {act : Act} {e : Effect α}
  {deeds : List (Deed α)}

theorem Strand.Acts.path (acts : strand.Acts me l act e) (tells : strand.Tells l deeds)
    {moves : List (State × State)} (path : Path moves l.state) :
    Path (moves ++ e.deeds.filterMap Deed.move?) e.core.state := by
  cases acts with
  | store =>
    cases tells with
    | resolved opened => exact path.move _ opened
    | pursued pursues => cases pursues
  | @abandon point => cases point <;> simpa [Transition.abandon] using path
  | _ => simpa [Deed.move?, List.filterMap_cons] using path

theorem Strand.Acts.pairwise (acts : strand.Acts me l act e) (R : Deed α → Deed α → Prop) :
    e.deeds.Pairwise R := by
  -- At most one thing is told of an act, so there is nothing to relate.
  cases acts <;> simp

theorem Strand.Acts.entered (acts : strand.Acts me l act e) {goal : Goal} {state : State}
    (told : .entered goal state ∈ e.deeds) : state = l.state := by
  cases acts <;> simp_all

theorem Strand.Acts.calls (acts : strand.Acts me l act e) (tells : strand.Tells l deeds) :
    e.deeds.filter Deed.isCall = [] ∨
      (∃ deed, e.deeds.filter Deed.isCall = [deed]) ∧ strand.inside = true := by
  cases acts with
  | call =>
    cases tells with
    | pursued pursues => exact Or.inr ⟨⟨_, rfl⟩, pursues.inside⟩
  | _ => exact Or.inl rfl

theorem Strand.Acts.not_gone (acts : strand.Acts me l act e) : strand.gone = false := by
  cases acts <;> rfl

theorem Strand.Tells.begun (tells : strand.Tells l deeds) {deed : Deed α} (told : deed ∈ deeds) :
    strand.inside = true ∨ strand.gone = true := by
  cases tells with
  | waiting => cases told
  | entered | resolved | ignored => exact Or.inl rfl
  | pursued pursues => exact Or.inl pursues.inside
  | refused | done | panicked => exact Or.inr rfl

theorem Carried.entered {description : String} {goal : Goal} (carried : Carried description goal deeds)
    {new state : State} (told : .entered (.move new) state ∈ deeds) :
    state.isTerminal = false ∧ .noted (.moved description state new) ∈ deeds := by
  induction carried with
  | moved opened =>
    simp at told
    obtain ⟨rfl, rfl⟩ := told
    exact ⟨opened, by simp⟩
  | announced => simp at told
  | called listener before ih =>
    simp at told
    exact ⟨(ih told).1, List.mem_append_left _ (ih told).2⟩
  | fired event before ih =>
    simp at told
    exact ⟨(ih told).1, List.mem_append_left _ (ih told).2⟩

theorem Carried.not_answered {description : String} {goal : Goal}
    (carried : Carried description goal deeds) (applied : Bool) : .answered applied ∉ deeds := by
  induction carried <;> simp_all

theorem Ignored.entered {description : String} (ignored : Ignored description deeds)
    {new state : State} (told : .entered (.move new) state ∈ deeds) :
    state.isTerminal = true ∧ ∀ deed ∈ deeds, deed = .entered (.move new) state ∨
      deed = .noted (.moveIgnored description state new) := by
  cases ignored <;> simp_all

theorem Strand.Tells.rejected (tells : strand.Tells l deeds) {new state : State}
    (told : .entered (.move new) state ∈ deeds) (terminal : state.isTerminal = true) :
    (∀ deed ∈ deeds, deed = .entered (.move new) state ∨
      deed = .noted (.moveIgnored l.description state new) ∨ deed = .answered false) ∧
    (strand = .standing (.inspect (.move new)) ∨ strand = .standing (.leave false) ∨
      strand = .ended ∧ .answered false ∈ deeds) := by
  have absurd_of_carried {goal : Goal} {deeds : List (Deed α)}
      (carried : Carried l.description goal deeds) (told : .entered (.move new) state ∈ deeds) :
      False := by
    have opened := (carried.entered told).1
    rw [terminal] at opened
    cases opened
  cases tells with
  | waiting => cases told
  | entered =>
    simp at told
    simp [told]
  | resolved opened =>
    simp at told
    rw [← told.2, terminal] at opened
    cases opened
  | ignored ignored =>
    have only := (ignored.entered told).2
    refine ⟨fun deed member => ?_, Or.inr (Or.inl rfl)⟩
    exact (only deed member).imp_right Or.inl
  | pursued pursues carries => exact (absurd_of_carried carries.told told).elim
  | @refused deeds ignored =>
    have before : .entered (.move new) state ∈ deeds := by simpa using told
    have only := (ignored.entered before).2
    refine ⟨fun deed member => ?_, Or.inr (Or.inr ⟨rfl, by simp⟩)⟩
    obtain earlier | same := List.mem_append.mp member
    · exact (only deed earlier).imp_right Or.inl
    · exact Or.inr (Or.inr (List.mem_singleton.mp same))
  | done carried => exact (absurd_of_carried carried (by simpa using told)).elim
  | panicked carried => exact (absurd_of_carried carried told).elim

theorem Strand.Tells.applied (tells : strand.Tells l deeds) {new state : State}
    (told : .entered (.move new) state ∈ deeds) (opened : state.isTerminal = false) :
    .answered false ∉ deeds ∧
    (strand = .standing (.inspect (.move new)) ∨ strand = .standing (.store state new) ∨
      .noted (.moved l.description state new) ∈ deeds) ∧
    (strand = .ended → .answered true ∈ deeds) := by
  have absurd_of_ignored {deeds : List (Deed α)} (ignored : Ignored l.description deeds)
      (told : .entered (.move new) state ∈ deeds) : False := by
    have terminal := (ignored.entered told).1
    rw [opened] at terminal
    cases terminal
  cases tells with
  | waiting => cases told
  | entered =>
    simp at told
    simp [told]
  | resolved =>
    simp at told
    simp [told]
  | ignored ignored => exact (absurd_of_ignored ignored told).elim
  | pursued pursues carries =>
    have noted := (carries.told.entered told).2
    refine ⟨carries.told.not_answered false, Or.inr (Or.inr noted), ?_⟩
    rintro rfl
    cases pursues
  | refused ignored => exact (absurd_of_ignored ignored (by simpa using told)).elim
  | done carried =>
    have noted := (carried.entered (by simpa using told)).2
    have silent := carried.not_answered false
    simp [noted, silent]
  | panicked carried =>
    have noted := (carried.entered told).2
    exact ⟨carried.not_answered false, Or.inr (Or.inr noted), nofun⟩

theorem Strand.Tells.advances (tells : strand.Tells l deeds) (inside : strand.inside = true) (me : Nat) :
    ∃ act e, strand.act? me l act = some e := by
  cases tells with
  | waiting => cases inside
  | @entered goal =>
    cases goal with
    | announce state => exact ⟨.move, _, rfl⟩
    | move new =>
      cases terminal : l.state.isTerminal <;> exact ⟨.move, by simp [act?, step, follow, terminal]⟩
  | resolved => exact ⟨.move, _, rfl⟩
  | ignored => exact ⟨.move, _, rfl⟩
  | @pursued strand goal _ pursues =>
    cases strand with
    | standing point =>
      cases point with
      | notify goal => cases goal <;> exact ⟨.move, _, rfl⟩
      | entered new =>
        cases event : new.entryEvent <;> exact ⟨.move, by simp [act?, step, follow, event]⟩
      | leave applied => exact ⟨.move, _, rfl⟩
      | _ => cases pursues
    | passing state pass point =>
      cases pass with
      | start => exact ⟨.move, _, rfl⟩
      | visit snapshot index =>
        cases entry : (l.observers.view snapshot)[index]? <;>
          exact ⟨.move, by simp [act?, Pass.step, entry]⟩
    | calling listener state pass point => exact ⟨.finish false, _, rfl⟩
    | failing pass point => exact ⟨.move, _, rfl⟩
    | firing kind point => exact ⟨.finish false, _, rfl⟩
    | unwinding point => exact ⟨.move, _, rfl⟩
    | _ => cases pursues
  | refused => cases inside
  | done => cases inside
  | panicked => cases inside

namespace System

variable {s : System α}

def path (s : System α) : List (State × State) := s.history.filterMap (·.2.move?)

def callers (s : System α) : List Nat := (s.history.filter (·.2.isCall)).map (·.1)

/-- A move that found the transfer in a terminal state: it is told of at most as ignored, and it is
about to answer no or has done so. -/
structure Rejects (s : System α) (place : Nat) (new state : State) : Prop where
  silent : ∀ deed, (place, deed) ∈ s.history → deed = .entered (.move new) state ∨
    deed = .noted (.moveIgnored s.core.description state new) ∨ deed = .answered false
  stands : ∃ strand ∈ s.strands[place]?, strand = .standing (.inspect (.move new)) ∨
    strand = .standing (.leave false) ∨ strand = .ended ∧ (place, .answered false) ∈ s.history

/-- A move that found the transfer in a state that is not terminal: it is about to store its own or
has done so. -/
structure Applies (s : System α) (place : Nat) (new state : State) : Prop where
  accepted : (place, .answered false) ∉ s.history
  stands : ∃ strand ∈ s.strands[place]?, strand = .standing (.inspect (.move new)) ∨
    strand = .standing (.store state new) ∨
    (place, .noted (.moved s.core.description state new)) ∈ s.history
  returns : s.strands[place]? = some .ended → (place, .answered true) ∈ s.history

structure Lawful (s : System α) : Prop where
  /-- The logged moves form a path from the first state to the present one. -/
  head : ∀ move ∈ s.path.head?, move.1 = .waiting
  chain : s.path.IsChain fun earlier later => earlier.2 = later.1
  last : s.core.turn = none → (s.path.getLast?.map (·.2)).getD .waiting = s.core.state
  /-- Nothing follows a terminal state. -/
  final : s.path.Pairwise fun earlier _ => earlier.2.isTerminal = false
  once : s.path.countP (·.2.isTerminal) ≤ 1
  binds : s.history.Pairwise fun earlier later => earlier.2.Binds later.2
  rejects : ∀ place new state, (place, .entered (.move new) state) ∈ s.history →
    state.isTerminal = true → s.Rejects place new state
  applies : ∀ place new state, (place, .entered (.move new) state) ∈ s.history →
    state.isTerminal = false → s.Applies place new state
  /-- A listener that a move calls sees the state of the move. -/
  observed : ∀ (place : Nat) (listener : α) (state : State) (pass : Pass.Point) (new : State),
    s.strands[place]? = some (.calling listener state pass (.notified (.move new))) →
    state = new ∧ s.core.state = new
  /-- No pass calls a listener between two calls of another. -/
  unmixed : ∀ p q, [p, q, p].Sublist s.callers → q = p
  /-- One request at a time has the turn, and it can go on. -/
  alone : ∀ (i j : Nat) (x y : Strand α), s.strands[i]? = some x → s.strands[j]? = some y →
    x.inside = true → y.inside = true → i = j
  advances : ∀ (place : Nat) (strand : Strand α), s.strands[place]? = some strand →
    strand.inside = true → ∃ act e, strand.act? place s.core act = some e

private theorem path_effect (s : System α) (place : Nat) (e : Effect α) :
    (s.effect place e).path = s.path ++ e.deeds.filterMap Deed.move? := by
  simp [path, effect, List.filterMap_map]

private theorem callers_effect (s : System α) (place : Nat) (e : Effect α) :
    (s.effect place e).callers = s.callers ++ (e.deeds.filter Deed.isCall).map fun _ => place := by
  simp [callers, effect, List.filter_map, Function.comp_def]

variable [BEq α]

theorem Reachable.path (reach : s.Reachable) : Path s.path s.core.state := by
  refine reach.invariant (fun s => Path s.path s.core.state) ?start ?request ?change ?act
  case start =>
    intro description
    exact .start
  case request =>
    intro s goal _ ih
    exact ih
  case change =>
    intro s list ih
    exact ih
  case act =>
    intro s place strand act e reach ih found acts
    rw [path_effect]
    exact acts.path (reach.tells found) ih

private theorem Reachable.binds (reach : s.Reachable) :
    s.history.Pairwise fun earlier later => earlier.2.Binds later.2 := by
  refine reach.invariant (fun s => s.history.Pairwise fun earlier later => earlier.2.Binds later.2)
    ?start ?request ?change ?act
  case start =>
    intro description
    exact .nil
  case request =>
    intro s goal _ ih
    exact ih
  case change =>
    intro s list ih
    exact ih
  case act =>
    intro s place strand act e reach ih _ acts
    refine List.pairwise_append.mpr ⟨ih, List.pairwise_map.mpr (acts.pairwise _), ?_⟩
    intro earlier before later told move moved terminal goal state same
    obtain ⟨_, present, rfl⟩ := List.mem_map.mp told
    cases same
    -- The state that is found is the present one, which is still that of the terminal move.
    rw [acts.entered present]
    exact reach.path.stays move (List.mem_filterMap.mpr ⟨earlier, before, moved⟩) terminal

theorem Reachable.found_of_told (reach : s.Reachable) {place : Nat} {deed : Deed α}
    (told : (place, deed) ∈ s.history) : ∃ strand, s.strands[place]? = some strand :=
  ⟨_, List.getElem?_eq_getElem (reach.place_lt told)⟩

theorem Reachable.begun (reach : s.Reachable) {place : Nat} (called : place ∈ s.callers) :
    ∃ strand, s.strands[place]? = some strand ∧ (strand.inside = true ∨ strand.gone = true) := by
  obtain ⟨⟨_, deed⟩, member, rfl⟩ := List.mem_map.mp called
  have told := List.mem_of_mem_filter member
  obtain ⟨strand, found⟩ := reach.found_of_told told
  exact ⟨strand, found, (reach.tells found).begun (mem_deedsOf.mpr told)⟩

structure Unmixed (s : System α) : Prop where
  gone : ∀ p q, [p, q].Sublist s.callers → q ≠ p →
    ∃ strand, s.strands[p]? = some strand ∧ strand.gone = true
  alone : ∀ p q, [p, q, p].Sublist s.callers → q = p

omit [BEq α] in
private theorem gone_effect {acting place : Nat} {strand : Strand α} {act : Act} {e : Effect α}
    (here : s.strands[acting]? = some strand) (acts : strand.Acts acting s.core act e)
    (gone : ∃ other, s.strands[place]? = some other ∧ other.gone = true) :
    acting ≠ place ∧
      ∃ other, (s.effect acting e).strands[place]? = some other ∧ other.gone = true := by
  obtain ⟨other, found, gone⟩ := gone
  have elsewhere : acting ≠ place := by
    rintro rfl
    cases here.symm.trans found
    rw [acts.not_gone] at gone
    cases gone
  refine ⟨elsewhere, other, ?_, gone⟩
  rw [effect, List.getElem?_set_ne elsewhere]
  exact found

omit [BEq α] in
private theorem sublist_concat (list : List Nat) {more : List Nat} {x y : Nat}
    (within : (list ++ [x]).Sublist (more ++ [y])) :
    (list ++ [x]).Sublist more ∨ list.Sublist more ∧ x = y := by
  rw [← List.reverse_sublist] at within
  simp only [List.reverse_append, List.reverse_singleton, List.singleton_append,
    List.cons_sublist_cons'] at within
  obtain earlier | ⟨same, before⟩ := within
  · rw [← List.reverse_sublist, List.reverse_append]
    exact Or.inl earlier
  · exact Or.inr ⟨List.reverse_sublist.mp before, same⟩

private theorem Reachable.unmixed (reach : s.Reachable) : s.Unmixed := by
  refine reach.invariant Unmixed ?start ?request ?change ?act
  case start =>
    intro description
    exact ⟨fun p q within => absurd within (by simp [callers, new]),
      fun p q within => absurd within (by simp [callers, new])⟩
  case request =>
    intro s goal _ ih
    refine ⟨fun p q within other => ?_, ih.alone⟩
    obtain ⟨strand, found, gone⟩ := ih.gone p q within other
    have bound := (List.getElem?_eq_some_iff.mp found).1
    exact ⟨strand, (List.getElem?_append_left bound).trans found, gone⟩
  case change =>
    intro s list ih
    exact ⟨ih.gone, ih.alone⟩
  case act =>
    intro s place strand act e reach ih found acts
    have kept (p q : Nat) (within : [p, q].Sublist s.callers) (other : q ≠ p) :=
      gone_effect found acts (ih.gone p q within other)
    obtain none | ⟨⟨deed, one⟩, inside⟩ := acts.calls (reach.tells found)
    · have same : (s.effect place e).callers = s.callers := by
        rw [callers_effect, none, List.map_nil, List.append_nil]
      constructor
      · intro p q within other
        exact (kept p q (same ▸ within) other).2
      · intro p q within
        exact ih.alone p q (same ▸ within)
    · have more : (s.effect place e).callers = s.callers ++ [place] := by
        rw [callers_effect, one, List.map_singleton]
      constructor
      · intro p q within other
        rw [more] at within
        obtain old | ⟨before, rfl⟩ := sublist_concat [p] within
        · exact (kept p q old other).2
        · -- The one that calls now has the turn, so the one that called before is over.
          obtain ⟨earlier, there, stands⟩ := reach.begun (before.mem (List.mem_singleton_self p))
          have gone : earlier.gone = true := by
            refine stands.resolve_left fun both => other ?_
            exact reach.inside_unique found there inside both
          exact (gone_effect found acts ⟨earlier, there, gone⟩).2
      · intro p q within
        rw [more] at within
        obtain old | ⟨before, rfl⟩ := sublist_concat [p, q] within
        · exact ih.alone p q old
        · refine Classical.byContradiction fun other => ?_
          exact (kept p q before other).1 rfl

private theorem Reachable.observed (reach : s.Reachable) {place : Nat} {listener : α} {state new : State}
    {pass : Pass.Point}
    (found : s.strands[place]? = some (.calling listener state pass (.notified (.move new)))) :
    state = new ∧ s.core.state = new := by
  cases reach.tells found with
  | pursued pursues carries =>
    obtain ⟨rfl, same⟩ := pursues
    cases same
    exact ⟨rfl, carries.lasts new rfl⟩

private theorem Reachable.rejects (reach : s.Reachable) {place : Nat} {new state : State}
    (told : (place, .entered (.move new) state) ∈ s.history) (terminal : state.isTerminal = true) :
    s.Rejects place new state := by
  obtain ⟨strand, found⟩ := reach.found_of_told told
  obtain ⟨silent, stands⟩ := (reach.tells found).rejected (mem_deedsOf.mpr told) terminal
  simp only [mem_deedsOf] at silent stands
  exact ⟨silent, strand, found, stands⟩

theorem Reachable.applies (reach : s.Reachable) {place : Nat} {new state : State}
    (told : (place, .entered (.move new) state) ∈ s.history) (opened : state.isTerminal = false) :
    s.Applies place new state := by
  obtain ⟨strand, found⟩ := reach.found_of_told told
  obtain ⟨accepted, stands, returns⟩ := (reach.tells found).applied (mem_deedsOf.mpr told) opened
  simp only [mem_deedsOf] at accepted stands returns
  refine ⟨accepted, ⟨strand, found, stands⟩, fun ended => ?_⟩
  exact returns (Option.some.inj (found.symm.trans ended))

/-- Whatever is asked of a transfer, by however many and in whatever order, it keeps to its path. -/
theorem Reachable.lawful (reach : s.Reachable) : s.Lawful where
  head := reach.path.head
  chain := reach.path.chain
  last _ := reach.path.last
  final := reach.path.final
  once := reach.path.once
  binds := reach.binds
  rejects _ _ _ := reach.rejects
  applies _ _ _ := reach.applies
  observed _ _ _ _ _ := reach.observed
  unmixed := reach.unmixed.alone
  alone _ _ _ _ := reach.inside_unique
  advances place _ found inside := (reach.tells found).advances inside place

/-- The first of three moves loses its turn to a listener that panics, and the second one ends the
transfer, so that the third is ignored. -/
def contending : List (Action Nat) :=
  [.add 7, .request (.move .inProgress)] ++ moves 0 6 ++ [.act 0 (.finish true)] ++ moves 0 2 ++
    [.request (.move .completed), .request (.move .failed)] ++ moves 1 6 ++
    [.remove 7, .act 1 (.finish false)] ++ moves 1 2 ++ [.act 1 (.finish false)] ++ moves 1 1 ++
    moves 2 3

theorem lawful_contending : ∃ s : System Nat, run? (new "f") contending = some s ∧
    s.strands = [.panicked, .ended, .ended] ∧ s.core.turn = none ∧ s.core.state = .completed ∧
    s.path = [(.waiting, .inProgress), (.inProgress, .completed)] ∧
    s.deedsOf 2 = [.entered (.move .failed) .completed,
      .noted (.moveIgnored "f" .completed .failed), .answered false] ∧ s.Lawful := by
  have ran : ∃ s : System Nat, run? (new "f") contending = some s ∧
      s.strands = [.panicked, .ended, .ended] ∧ s.core.turn = none ∧ s.core.state = .completed ∧
      s.path = [(.waiting, .inProgress), (.inProgress, .completed)] ∧
      s.deedsOf 2 = [.entered (.move .failed) .completed,
        .noted (.moveIgnored "f" .completed .failed), .answered false] :=
    ⟨_, rfl, rfl, rfl, rfl, rfl, rfl⟩
  obtain ⟨s, ran, strands, turn, state, path, told⟩ := ran
  exact ⟨s, ran, strands, turn, state, path, told,
    Reachable.lawful (.run (.start "f") contending ran)⟩

end System

end TransferLifecycle.Transition
