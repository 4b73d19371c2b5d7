import TransferLifecycle.Proofs.Dispatch.Passage

/-! The order in which events reach the listeners, and what the counters say of them. Every event
that is pushed is popped in its turn and dealt with once, one event after another: it is either
handed to the chain or discarded, and the next is taken only when the chain is done with it. -/
namespace TransferLifecycle.Dispatch

variable {α β : Type}

namespace Deed

def pushed? : Deed α → Option Event
  | .pushed event => some event
  | _ => none

def popped? : Deed α → Option (Fate × Event)
  | .popped fate event => some (fate, event)
  | _ => none

def dealt? : Deed α → Option (Fate × Event)
  | .handed event => some (.deliver, event)
  | .discarded event => some (.discard, event)
  | _ => none

def handed? : Deed α → Option Event
  | .handed event => some event
  | _ => none

def through? : Deed α → Option Event
  | .through event => some event
  | _ => none

def discarded? : Deed α → Option Event
  | .discarded event => some event
  | _ => none

def lost? : Deed α → Option Unit
  | .discarded _ | .turnedAway => some ()
  | _ => none

def refused? : Deed α → Option Refusal
  | .refused reason => some reason
  | _ => none

end Deed

def Strand.inHand : Strand α → List (Fate × Event)
  | .standing (.inHand fate event) => [(fate, event)]
  | _ => []

def Strand.inPass : Strand α → List Event
  | .passing event _ | .calling _ event _ => [event]
  | _ => []

def Strand.owesDelivered : Strand α → Bool
  | .passing _ _ | .calling _ _ _ | .standing (.count .deliver) => true
  | _ => false

def Strand.owesDropped : Strand α → Bool
  | .standing .turnAway | .standing (.count .discard) => true
  | _ => false

def Strand.owesRejected : Strand α → Bool
  | .standing .overflow | .standing .close | .standing .announceClosed | .standing .countRefusal => true
  | _ => false

namespace System

def told (s : System α) (view : Deed α → Option β) : List β := s.deeds.filterMap view

def inHand (s : System α) : List (Fate × Event) := s.strands.flatMap Strand.inHand

def inPass (s : System α) : List Event := s.strands.flatMap Strand.inPass

@[simp] theorem told_fire (s : System α) (event : Event) (view : Deed α → Option β) :
    (s.fire event).told view = s.told view ++ (view (.begun event)).toList := by
  cases seen : view (.begun event) <;> simp [told, seen]

@[simp] theorem told_effect (s : System α) (place : Nat) (e : Effect α) (view : Deed α → Option β) :
    (s.effect place e).told view = s.told view ++ e.deeds.filterMap view := by
  simp [told]

@[simp] theorem told_change (s : System α) (list : ListenerList α) (view : Deed α → Option β) :
    (s.change list).told view = s.told view := rfl

end System

/-! Events leave the queue as they came. -/

theorem Strand.Acts.queue {d : Dispatcher α} {strand : Strand α} {act : Act} {e : Effect α}
    (acts : strand.Acts d act e) :
    d.queue ++ e.deeds.filterMap Deed.pushed? =
      (e.deeds.filterMap Deed.popped?).map (·.2) ++ e.core.queue := by
  cases acts <;> simp_all [List.filterMap_cons, Deed.pushed?, Deed.popped?]

theorem System.Reachable.pushed_eq [BEq α] {s : System α} (reach : s.Reachable) :
    s.told Deed.pushed? = (s.told Deed.popped?).map (·.2) ++ s.core.queue := by
  refine reach.invariant (fun s => s.told Deed.pushed? = (s.told Deed.popped?).map (·.2) ++ s.core.queue)
    rfl ?fire ?change ?act
  case fire =>
    intro s event _ ih
    simpa [Deed.pushed?, Deed.popped?] using ih
  case change =>
    intro s list _ ih
    exact ih
  case act =>
    intro s place strand act e _ ih found acts
    rw [told_effect, told_effect, ih, List.append_assoc, acts.queue, List.map_append,
      List.append_assoc, core_effect]

/-! Something enters the hold of the owner and leaves it before the next enters. -/

/-- What only an owner can hold, how it enters its hold and how it leaves. -/
structure Hold (β : Type) (hold : Strand α → List β) (enter leave : Deed α → Option β) : Prop where
  atMostOne : ∀ strand, (hold strand).length ≤ 1
  owned : ∀ strand, hold strand ≠ [] → strand.owns
  queued : hold .queued = []
  arriving : ∀ event, hold (.standing (.arrive event)) = []
  begun : ∀ event, enter (.begun event) = none ∧ leave (.begun event) = none
  needsOwner : ∀ deed, enter deed ≠ none ∨ leave deed ≠ none → deed.needsOwner
  acts : ∀ d strand act e, Strand.Acts d strand act e →
    hold strand ++ e.deeds.filterMap enter = e.deeds.filterMap leave ++ hold e.strand

private theorem flatMap_of_alone {γ : Type} {f : γ → List β} {list : List γ} {i : Nat} {x : γ}
    (found : list[i]? = some x) (others : ∀ j y, list[j]? = some y → j ≠ i → f y = []) :
    list.flatMap f = f x := by
  induction list generalizing i with
  | nil => cases found
  | cons head rest ih =>
    rw [List.flatMap_cons]
    cases i with
    | zero =>
      cases Option.some.inj found
      have none : rest.flatMap f = [] := by
        rw [List.flatMap_eq_nil_iff]
        intro y member
        obtain ⟨j, here⟩ := List.mem_iff_getElem?.mp member
        exact others (j + 1) y here (Nat.succ_ne_zero j)
      rw [none, List.append_nil]
    | succ i =>
      have alone : ∀ j y, rest[j]? = some y → j ≠ i → f y = [] := by
        intro j y here other
        exact others (j + 1) y here (by omega)
      rw [others 0 head rfl (Nat.zero_ne_add_one i), List.nil_append, ih found alone]

private theorem flatMap_set_of_eq {γ : Type} {f : γ → List β} {list : List γ} {i : Nat} {x y : γ}
    (found : list[i]? = some x) (same : f y = f x) : (list.set i y).flatMap f = list.flatMap f := by
  induction list generalizing i with
  | nil => rfl
  | cons head rest ih => cases i with
    | zero =>
      cases Option.some.inj found
      simp [same]
    | succ i => simp [ih found]

variable {hold : Strand α → List β} {enter leave : Deed α → Option β}

private theorem Hold.nothing_told (line : Hold β hold enter leave) {d : Dispatcher α} {strand : Strand α}
    {act : Act} {e : Effect α} (acts : strand.Acts d act e) (foreign : strand.owns = false) :
    e.deeds.filterMap enter = [] ∧ e.deeds.filterMap leave = [] := by
  have unneeded : ∀ deed ∈ e.deeds, enter deed = none ∧ leave deed = none := by
    intro deed told
    refine Classical.byContradiction fun some => ?_
    have needs := line.needsOwner deed (by simpa [-not_and, Classical.not_and_iff_not_or_not] using some)
    rw [acts.needsOwner told needs] at foreign
    cases foreign
  exact ⟨List.filterMap_eq_nil_iff.mpr fun deed told => (unneeded deed told).1,
    List.filterMap_eq_nil_iff.mpr fun deed told => (unneeded deed told).2⟩

namespace System

variable [BEq α] {s : System α}

private theorem Reachable.others_hold_nothing (reach : s.Reachable) (line : Hold β hold enter leave)
    {place other : Nat} {strand y : Strand α} (found : s.strands[place]? = some strand)
    (owns : strand.owns) (here : s.strands[other]? = some y) (elsewhere : other ≠ place) :
    hold y = [] := by
  refine Classical.byContradiction fun holds => elsewhere ?_
  exact reach.owner_unique ⟨y, here, line.owned y holds⟩ ⟨strand, found, owns⟩

theorem Reachable.held_by_owner (reach : s.Reachable) (line : Hold β hold enter leave) {place : Nat}
    {strand : Strand α} (found : s.strands[place]? = some strand) (owns : strand.owns) :
    s.strands.flatMap hold = hold strand := by
  apply flatMap_of_alone found
  intro other y here elsewhere
  exact reach.others_hold_nothing line found owns here elsewhere

theorem Reachable.flow (reach : s.Reachable) (line : Hold β hold enter leave) :
    s.told enter = s.told leave ++ s.strands.flatMap hold := by
  refine reach.invariant (fun s => s.told enter = s.told leave ++ s.strands.flatMap hold)
    rfl ?fire ?change ?act
  case fire =>
    intro s event _ ih
    simpa [line.begun, line.arriving] using ih
  case change =>
    intro s list _ ih
    exact ih
  case act =>
    intro s place strand act e reach ih found acts
    have begun : e.begun.flatMap hold = [] := by
      cases acts <;> simp [line.queued]
    have balance := line.acts _ _ _ _ acts
    rw [told_effect, told_effect, strands_effect, List.flatMap_append, begun, List.append_nil, ih]
    -- The hold of an owner is the only one, so it can be read off as a whole before and after.
    cases owns : strand.owns with
    | true =>
      have inside := (List.getElem?_eq_some_iff.mp found).1
      have alone := reach.held_by_owner line found owns
      have still : (s.strands.set place e.strand).flatMap hold = hold e.strand := by
        apply flatMap_of_alone (List.getElem?_set_self inside)
        intro other y here elsewhere
        rw [List.getElem?_set_ne (Ne.symm elsewhere)] at here
        exact reach.others_hold_nothing line found owns here elsewhere
      rw [alone, still, List.append_assoc, balance, List.append_assoc]
    | false =>
      have empty : hold strand = [] := by
        refine Classical.byContradiction fun holds => ?_
        rw [line.owned strand holds] at owns
        cases owns
      obtain ⟨entered, left⟩ := line.nothing_told acts owns
      rw [entered, left, empty] at balance
      have same : hold e.strand = hold strand := by
        rw [empty, ← List.nil_append (hold e.strand), ← balance, List.append_nil]
      rw [flatMap_set_of_eq found same, entered, left, List.append_nil, List.append_nil]

theorem Reachable.held_le_one (reach : s.Reachable) (line : Hold β hold enter leave) :
    (s.strands.flatMap hold).length ≤ 1 := by
  cases holds : s.strands.flatMap hold with
  | nil => exact Nat.zero_le 1
  | cons x rest =>
    have member : x ∈ s.strands.flatMap hold := by simp [holds]
    obtain ⟨strand, present, here⟩ := List.mem_flatMap.mp member
    obtain ⟨place, found⟩ := List.mem_iff_getElem?.mp present
    have owns := line.owned strand (List.ne_nil_of_mem here)
    rw [← holds, reach.held_by_owner line found owns]
    exact line.atMostOne strand

end System

theorem inHand_hold : Hold (α := α) _ Strand.inHand Deed.popped? Deed.dealt? where
  atMostOne strand := by unfold Strand.inHand; split <;> simp
  owned strand := by unfold Strand.inHand; split <;> simp [Strand.owns, Point.owns]
  queued := rfl
  arriving _ := rfl
  begun _ := ⟨rfl, rfl⟩
  needsOwner deed := by cases deed <;> simp [Deed.popped?, Deed.dealt?, Deed.needsOwner]
  acts d strand act e acts := by
    cases acts <;> simp [List.filterMap_cons, Strand.inHand, Deed.popped?, Deed.dealt?]

theorem inPass_hold : Hold (α := α) _ Strand.inPass Deed.handed? Deed.through? where
  atMostOne strand := by unfold Strand.inPass; split <;> simp
  owned strand := by unfold Strand.inPass; split <;> simp [Strand.owns]
  queued := rfl
  arriving _ := rfl
  begun _ := ⟨rfl, rfl⟩
  needsOwner deed := by cases deed <;> simp [Deed.handed?, Deed.through?, Deed.needsOwner]
  acts d strand act e acts := by
    cases acts <;> simp [List.filterMap_cons, Strand.inPass, Deed.handed?, Deed.through?]

/-- A counter of what is told of one kind, behind by what the strands still owe. It is a word, and wraps. -/
structure Counts (counter : Dispatcher α → UInt64) (owes : Strand α → Bool) (view : Deed α → Option β) :
    Prop where
  zero : counter {} = 0
  chain : ∀ d list, counter { d with chain := list } = counter d
  arriving : ∀ event, owes (.standing (.arrive event)) = false
  begun : ∀ event, view (.begun event) = none
  acts : ∀ d strand act e, Strand.Acts d strand act e → ∃ gained : Nat,
    counter e.core = counter d + UInt64.ofNat gained ∧
      gained + (owes e.strand).toNat + e.begun.countP owes =
        (owes strand).toNat + (e.deeds.filterMap view).length

theorem System.Reachable.counted [BEq α] {s : System α} (reach : s.Reachable)
    {counter : Dispatcher α → UInt64} {owes : Strand α → Bool} {view : Deed α → Option β}
    (counts : Counts counter owes view) :
    ∃ total : Nat, counter s.core = UInt64.ofNat total ∧
      total + s.strands.countP owes = (s.told view).length := by
  refine reach.invariant (fun s => ∃ total : Nat, counter s.core = UInt64.ofNat total ∧
    total + s.strands.countP owes = (s.told view).length) ?start ?fire ?change ?act
  case start => exact ⟨0, counts.zero, rfl⟩
  case fire =>
    rintro s event _ ⟨total, count, ih⟩
    exact ⟨total, count, by simpa [counts.begun, counts.arriving] using ih⟩
  case change =>
    rintro s list _ ⟨total, count, ih⟩
    exact ⟨total, (counts.chain s.core list).trans count, ih⟩
  case act =>
    rintro s place strand act e _ ⟨total, count, ih⟩ found acts
    obtain ⟨gained, more, balance⟩ := counts.acts _ _ _ _ acts
    have moved := countP_effect owes found e
    refine ⟨total + gained, ?_, ?_⟩
    · rw [core_effect, more, count, UInt64.ofNat_add]
    · rw [told_effect, List.length_append]
      omega

theorem delivered_counts :
    Counts (α := α) Dispatcher.delivered Strand.owesDelivered Deed.handed? where
  zero := rfl
  chain _ _ := rfl
  arriving _ := rfl
  begun _ := rfl
  acts d strand act e acts := by
    cases acts with
    | countDelivered => exact ⟨1, rfl, rfl⟩
    | _ => exact ⟨0, (UInt64.add_zero _).symm, rfl⟩

theorem dropped_counts : Counts (α := α) Dispatcher.dropped Strand.owesDropped Deed.lost? where
  zero := rfl
  chain _ _ := rfl
  arriving _ := rfl
  begun _ := rfl
  acts d strand act e acts := by
    cases acts with
    | turnAway | countDropped => exact ⟨1, rfl, rfl⟩
    | _ => exact ⟨0, (UInt64.add_zero _).symm, by simp [List.filterMap_cons, Strand.owesDropped, Deed.lost?]⟩

private theorem rejected_counts : Counts (α := α) Dispatcher.rejected Strand.owesRejected Deed.refused? where
  zero := rfl
  chain _ _ := rfl
  arriving _ := rfl
  begun _ := rfl
  acts d strand act e acts := by
    cases acts with
    | overflow | countRefusal => exact ⟨1, rfl, rfl⟩
    | _ => exact ⟨0, (UInt64.add_zero _).symm, rfl⟩

inductive Verdict where
  | skipped
  | turnedAway
  | pushed (event : Event)
  deriving DecidableEq, Repr

def Deed.verdict? : Deed α → Option Verdict
  | .skipped => some .skipped
  | .turnedAway => some .turnedAway
  | .pushed event => some (.pushed event)
  | _ => none

def Deed.begun? : Deed α → Option Event
  | .begun event => some event
  | _ => none

def Strand.undecided : Strand α → Option Event
  | .standing (.arrive event) | .standing (.check event) | .standing (.push event) => some event
  | _ => none

/-- An undecided firing has no verdict, a decided one has one, and an emptying has none. -/
def Strand.Judged (strand : Strand α) (deeds : List (Deed α)) : Prop :=
  match strand.undecided with
  | some event => deeds.filterMap Deed.begun? = [event] ∧ deeds.filterMap Deed.verdict? = []
  | none =>
    deeds.filterMap Deed.begun? = [] ∧ deeds.filterMap Deed.verdict? = [] ∨
    ∃ event, deeds.filterMap Deed.begun? = [event] ∧
      ∃ verdict ∈ [.skipped, .turnedAway, .pushed event], deeds.filterMap Deed.verdict? = [verdict]

theorem Strand.Acts.judged {d : Dispatcher α} {strand : Strand α} {act : Act} {e : Effect α}
    {deeds : List (Deed α)} (acts : strand.Acts d act e) (before : strand.Judged deeds) :
    e.strand.Judged (deeds ++ e.deeds) := by
  cases acts <;>
    simp_all [Judged, undecided, List.filterMap_cons, Deed.begun?, Deed.verdict?]

def Strand.discards : Strand α → Bool
  | .standing point => match point with
    | .close | .announceClosed | .countRefusal | .take .discard | .inHand .discard _ | .count .discard
    | .release .discard | .recheck .discard | .reclaim .discard => true
    | _ => false
  | _ => false

private theorem Strand.Acts.discards {d : Dispatcher α} {strand : Strand α} {act : Act} {e : Effect α}
    (acts : strand.Acts d act e) (unrefused : .refused .shuttingDown ∉ e.deeds)
    (keeps : strand.discards = false) :
    e.strand.discards = false ∧ e.deeds.filterMap Deed.discarded? = [] := by
  cases acts <;> simp_all [Strand.discards, List.filterMap_cons, Deed.discarded?] <;> split <;> simp_all

private theorem handed_sublist (deeds : List (Deed α)) :
    (deeds.filterMap Deed.handed?).Sublist ((deeds.filterMap Deed.dealt?).map (·.2)) := by
  induction deeds with
  | nil => exact .slnil
  | cons deed rest ih =>
    cases deed with
    | handed event => exact ih.cons_cons event
    | discarded event => exact ih.cons event
    | _ => exact ih

private theorem handed_eq (deeds : List (Deed α)) (kept : deeds.filterMap Deed.discarded? = []) :
    deeds.filterMap Deed.handed? = (deeds.filterMap Deed.dealt?).map (·.2) := by
  induction deeds with
  | nil => rfl
  | cons deed rest ih =>
    cases deed with
    | handed event => exact congrArg (event :: ·) (ih kept)
    | discarded event => cases kept
    | _ => exact ih kept

namespace System

variable [BEq α] {s : System α}

theorem Reachable.judged (reach : s.Reachable) {place : Nat} {strand : Strand α}
    (found : s.strands[place]? = some strand) : strand.Judged (s.deedsOf place) := by
  refine reach.each Strand.Judged ?fire ?queued ?act found
  case fire =>
    intro event
    exact ⟨rfl, rfl⟩
  case queued => exact Or.inl ⟨rfl, rfl⟩
  case act =>
    intro d strand act e deeds acts before
    exact acts.judged before

theorem Reachable.keeps (reach : s.Reachable) (unrefused : .refused .shuttingDown ∉ s.deeds) :
    s.strands.countP Strand.discards = 0 ∧ s.told Deed.discarded? = [] := by
  refine reach.invariant (fun s => .refused .shuttingDown ∉ s.deeds →
    s.strands.countP Strand.discards = 0 ∧ s.told Deed.discarded? = [])
    ?start ?fire ?change ?act unrefused
  case start =>
    intro _
    exact ⟨rfl, rfl⟩
  case fire =>
    intro s event _ ih unrefused
    rw [deeds_fire, List.mem_append, not_or] at unrefused
    obtain ⟨none, kept⟩ := ih unrefused.1
    simp [none, kept, Strand.discards, Deed.discarded?]
  case change =>
    intro s list _ ih
    exact ih
  case act =>
    intro s place strand act e _ ih found acts unrefused
    rw [deeds_effect, List.mem_append, not_or] at unrefused
    obtain ⟨none, kept⟩ := ih unrefused.1
    have keeps : strand.discards = false := by
      rw [← Bool.not_eq_true]
      exact List.countP_eq_zero.mp none strand (List.mem_of_getElem? found)
    obtain ⟨still, nothing⟩ := acts.discards unrefused.2 keeps
    have begun : e.begun.countP Strand.discards = 0 := by
      cases acts <;> rfl
    have moved := countP_effect Strand.discards found e
    rw [still, begun, none] at moved
    rw [told_effect, kept, nothing]
    exact ⟨Nat.eq_zero_of_add_eq_zero_right moved, rfl⟩

def Undecided (s : System α) (place : Nat) (event : Event) : Prop :=
  ∃ strand ∈ s.strands[place]?, strand.undecided = some event

def verdicts (s : System α) (place : Nat) : List Verdict := (s.deedsOf place).filterMap Deed.verdict?

/-- Events keep their order and none is lost sight of. -/
structure Orderly (s : System α) : Prop where
  queued : s.told Deed.pushed? = (s.told Deed.popped?).map (·.2) ++ s.core.queue
  dealt : s.told Deed.popped? = s.told Deed.dealt? ++ s.inHand
  oneInHand : s.inHand.length ≤ 1
  passed : s.told Deed.handed? = s.told Deed.through? ++ s.inPass
  oneInPass : s.inPass.length ≤ 1
  calls : ∀ action t, s.perform? action = some t → ∀ place listener event,
    (place, .called listener event) ∈ s.news t → s.inPass = [event]
  through : ∀ action t, s.perform? action = some t → ∀ place event,
    (place, .through event) ∈ s.news t → (s.visit place).called = (s.visit place).entered
  order : (s.told Deed.handed?).Sublist (s.told Deed.pushed?)
  whole : .refused .shuttingDown ∉ s.deeds →
    s.told Deed.discarded? = [] ∧ s.told Deed.handed? <+: s.told Deed.pushed?
  verdict : ∀ place event, .begun event ∈ s.deedsOf place →
    s.Undecided place event ∧ s.verdicts place = [] ∨
    ∃ verdict ∈ [.skipped, .turnedAway, .pushed event], s.verdicts place = [verdict]
  skipped : ∀ action t, s.perform? action = some t → ∀ place,
    (place, .skipped) ∈ s.news t → s.core.chain.isEmpty = true
  turnedAway : ∀ action t, s.perform? action = some t → ∀ place,
    (place, .turnedAway) ∈ s.news t → s.core.closed = true
  settled : s.Idle → s.core.pending = 0 ∧
    s.core.delivered = UInt64.ofNat (s.told Deed.handed?).length ∧
    s.core.dropped = UInt64.ofNat (s.told Deed.lost?).length ∧
    s.core.rejected = UInt64.ofNat (s.told Deed.refused?).length

theorem Reachable.verdict (reach : s.Reachable) {place : Nat} {event : Event}
    (begun : .begun event ∈ s.deedsOf place) :
    s.Undecided place event ∧ s.verdicts place = [] ∨
    ∃ verdict ∈ [.skipped, .turnedAway, .pushed event], s.verdicts place = [verdict] := by
  have inside : place < s.strands.length := by
    refine Classical.byContradiction fun outside => ?_
    rw [reach.deedsOf_eq_nil (Nat.le_of_not_lt outside)] at begun
    cases begun
  have found : s.strands[place]? = some s.strands[place] := List.getElem?_eq_getElem inside
  have seen : event ∈ (s.deedsOf place).filterMap Deed.begun? := List.mem_filterMap.mpr ⟨_, begun, rfl⟩
  have judged := reach.judged found
  unfold Strand.Judged at judged
  split at judged
  case h_1 first undecided =>
    obtain ⟨once, none⟩ := judged
    rw [once, List.mem_singleton] at seen
    exact Or.inl ⟨⟨_, found, seen ▸ undecided⟩, none⟩
  case h_2 =>
    obtain ⟨none, -⟩ | ⟨first, once, verdict, possible, given⟩ := judged
    · rw [none] at seen
      cases seen
    · rw [once, List.mem_singleton] at seen
      exact Or.inr ⟨verdict, seen ▸ possible, given⟩

theorem Reachable.dealt_eq (reach : s.Reachable) :
    s.told Deed.popped? = s.told Deed.dealt? ++ s.inHand :=
  reach.flow inHand_hold

theorem Reachable.pushed_of_kept (reach : s.Reachable) (kept : s.told Deed.discarded? = []) :
    s.told Deed.pushed? = s.told Deed.handed? ++ (s.inHand.map (·.2) ++ s.core.queue) := by
  rw [reach.pushed_eq, reach.dealt_eq, List.map_append, List.append_assoc]
  exact congrArg (· ++ _) (handed_eq s.deeds kept).symm

private theorem Reachable.handed_sublist_pushed (reach : s.Reachable) :
    (s.told Deed.handed?).Sublist (s.told Deed.pushed?) := by
  rw [reach.pushed_eq, reach.dealt_eq, List.map_append, List.append_assoc]
  exact (handed_sublist s.deeds).trans (List.sublist_append_left _ _)

theorem Reachable.counted_idle (reach : s.Reachable) (idle : s.Idle) {counter : Dispatcher α → UInt64}
    {owes : Strand α → Bool} {view : Deed α → Option β} (counts : Counts counter owes view)
    (done : owes .ended = false) : counter s.core = UInt64.ofNat (s.told view).length := by
  obtain ⟨total, count, told⟩ := reach.counted counts
  rw [count, ← told, idle.countP_eq_zero done, Nat.add_zero]

theorem Reachable.orderly (reach : s.Reachable) : s.Orderly where
  queued := reach.pushed_eq
  dealt := reach.dealt_eq
  oneInHand := reach.held_le_one inHand_hold
  passed := reach.flow inPass_hold
  oneInPass := reach.held_le_one inPass_hold
  calls action t performed place listener event told := by
    obtain ⟨_, same⟩ | ⟨strand, act, e, found, acts, told⟩ := acts_of_news performed told
    · cases same
    have owns : strand.owns := acts.needsOwner told rfl
    rw [inPass, reach.held_by_owner inPass_hold found owns]
    cases acts <;> simp_all [Strand.inPass]
  through action t performed place event told := reach.through performed told
  order := reach.handed_sublist_pushed
  whole unrefused := by
    obtain ⟨-, kept⟩ := reach.keeps unrefused
    exact ⟨kept, _, (reach.pushed_of_kept kept).symm⟩
  verdict place event begun := reach.verdict begun
  skipped action t performed place told := by
    obtain ⟨_, same⟩ | ⟨strand, act, e, found, acts, told⟩ := acts_of_news performed told
    · cases same
    cases acts <;> simp_all
  turnedAway action t performed place told := by
    obtain ⟨_, same⟩ | ⟨strand, act, e, found, acts, told⟩ := acts_of_news performed told
    · cases same
    cases acts <;> simp_all
  settled idle := by
    obtain ⟨empty, -⟩ := reach.idle idle
    refine ⟨?pending, ?delivered, ?dropped, ?rejected⟩
    case pending => rw [Dispatcher.pending, empty, List.length_nil]
    case delivered => exact reach.counted_idle idle delivered_counts rfl
    case dropped => exact reach.counted_idle idle dropped_counts rfl
    case rejected => exact reach.counted_idle idle rejected_counts rfl

/-- One event is delivered, the next is discarded because the executor is stopped, and the last
is turned away. -/
def windingDown : List (Action Nat) :=
  [.add 7, .fire (.lifecycle .started)] ++ moves 0 4 ++ [.act 0 .accept, .act 1 .start] ++ moves 1 4 ++
    [.act 1 (.finishCall false), .act 0 .comeBack] ++ moves 1 5 ++ moves 0 1 ++
    [.fire (.lifecycle .completed)] ++ moves 2 4 ++ [.act 2 (.refuse .shuttingDown)] ++ moves 2 9 ++
    [.fire (.lifecycle .failed)] ++ moves 3 3

theorem orderly_windingDown : ∃ s : System Nat, run? {} windingDown = some s ∧ s.Idle ∧
    s.core.delivered = 1 ∧ s.core.dropped = 2 ∧ s.core.rejected = 1 ∧ s.Orderly := by
  refine ⟨_, rfl, ?idle, rfl, rfl, rfl, Reachable.orderly (.run .start windingDown rfl)⟩
  simp [Idle]

end System

end TransferLifecycle.Dispatch
