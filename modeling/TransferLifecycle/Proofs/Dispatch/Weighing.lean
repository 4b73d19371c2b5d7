import TransferLifecycle.Proofs.Dispatch.Order
import TransferLifecycle.Proofs.Pool.Locking

/-! What becomes of the weight of the events, for any way to weigh them. All that firings bring is not
decided upon yet, was passed over, was turned away or was queued; all that was queued waits in the queue,
is in hand, was discarded or was handed to the chain. -/
namespace TransferLifecycle.Dispatch

open Pool (tally tally_nil tally_cons tally_append tally_add tally_eq_zero)

variable {α β γ : Type}

private theorem tally_filterMap (weight : γ → Nat) (view : β → Option γ) (list : List β) :
    tally weight (list.filterMap view) = tally (fun x => (view x).elim 0 weight) list := by
  induction list with
  | nil => rfl
  | cons head rest ih =>
    rw [tally_cons, ← ih]
    cases seen : view head with
    | none => rw [List.filterMap_cons_none seen, Option.elim_none, Nat.zero_add]
    | some x => rw [List.filterMap_cons_some seen, Option.elim_some, tally_cons]

private theorem tally_map (weight : γ → Nat) (f : β → γ) (list : List β) :
    tally weight (list.map f) = tally (fun x => weight (f x)) list := by
  induction list with
  | nil => rfl
  | cons head rest ih => rw [List.map_cons, tally_cons, tally_cons, ih]

theorem tally_flatMap (weight : γ → Nat) (f : β → List γ) (list : List β) :
    tally weight (list.flatMap f) = tally (fun x => tally weight (f x)) list := by
  induction list with
  | nil => rfl
  | cons head rest ih => rw [List.flatMap_cons, tally_append, tally_cons, ih]

theorem tally_congr {f g : β → Nat} {list : List β} (same : ∀ x ∈ list, f x = g x) :
    tally f list = tally g list := by
  induction list with
  | nil => rfl
  | cons head rest ih =>
    rw [tally_cons, tally_cons, same head List.mem_cons_self,
      ih fun x member => same x (List.mem_cons_of_mem _ member)]

private theorem length_eq_tally (list : List β) : list.length = tally (fun _ => 1) list := by
  induction list with
  | nil => rfl
  | cons head rest ih => rw [List.length_cons, tally_cons, ih, Nat.add_comm]

private theorem tally_range_ite {n place : Nat} (inside : place < n) (x : Nat) :
    tally (fun other => if place = other then x else 0) (List.range n) = x := by
  induction n with
  | zero => cases inside
  | succ n ih =>
    rw [List.range_succ, tally_append, tally_cons, tally_nil]
    obtain less | rfl := Nat.lt_succ_iff_lt_or_eq.mp inside
    · rw [ih less, if_neg (Nat.ne_of_lt less), Nat.add_zero]
    · have before : tally (fun other => if place = other then x else 0) (List.range place) = 0 := by
        apply tally_eq_zero
        intro other member
        exact if_neg (Nat.ne_of_gt (List.mem_range.mp member))
      rw [before, if_pos rfl, Nat.zero_add, Nat.add_zero]

private theorem tally_places (weight : β → Nat) {n : Nat} {list : List (Nat × β)}
    (inside : ∀ x ∈ list, x.1 < n) :
    tally (fun x => weight x.2) list =
      tally (fun place => tally weight ((list.filter (·.1 == place)).map (·.2))) (List.range n) := by
  induction list with
  | nil =>
    symm
    apply tally_eq_zero
    intro place _
    rfl
  | cons head rest ih =>
    obtain ⟨place, x⟩ := head
    have here : place < n := inside _ List.mem_cons_self
    rw [tally_cons, ih fun y member => inside y (List.mem_cons_of_mem _ member),
      ← tally_range_ite here (weight x), ← tally_add]
    apply tally_congr
    intro other _
    by_cases same : place = other
    · subst same
      rw [if_pos rfl, List.filter_cons_of_pos (by simp), List.map_cons, tally_cons]
    · rw [if_neg same, List.filter_cons_of_neg (by simpa using same), Nat.zero_add]

private theorem tally_getElem (weight : β → Nat) (list : List β) :
    tally (fun place => (list[place]?).elim 0 weight) (List.range list.length) = tally weight list := by
  induction list with
  | nil => rfl
  | cons head rest ih =>
    rw [List.length_cons, List.range_succ_eq_map, tally_cons, tally_map, tally_cons, ← ih]
    rfl

def Verdict.pushed? : Verdict → Option Event
  | .pushed event => some event
  | _ => none

def Verdict.turnedAway? : Verdict → Option Unit
  | .turnedAway => some ()
  | _ => none

def Deed.turnedAway? : Deed α → Option Unit
  | .turnedAway => some ()
  | _ => none

private theorem pushed_of_verdicts (deeds : List (Deed α)) :
    deeds.filterMap Deed.pushed? = (deeds.filterMap Deed.verdict?).filterMap Verdict.pushed? := by
  rw [List.filterMap_filterMap]
  refine congrArg (List.filterMap · deeds) (funext fun deed => ?_)
  cases deed <;> rfl

private theorem turnedAway_of_verdicts (deeds : List (Deed α)) :
    deeds.filterMap Deed.turnedAway? = (deeds.filterMap Deed.verdict?).filterMap Verdict.turnedAway? := by
  rw [List.filterMap_filterMap]
  refine congrArg (List.filterMap · deeds) (funext fun deed => ?_)
  cases deed <;> rfl

def judgedAs (verdict : Verdict) (deeds : List (Deed α)) : List Event :=
  if deeds.filterMap Deed.verdict? = [verdict] then deeds.filterMap Deed.begun? else []

theorem mem_judgedAs_skipped {deeds : List (Deed α)} {event : Event}
    (member : event ∈ judgedAs .skipped deeds) : .skipped ∈ deeds ∧ .begun event ∈ deeds := by
  unfold judgedAs at member
  split at member
  case isTrue only =>
    constructor
    · have given : Verdict.skipped ∈ deeds.filterMap Deed.verdict? := by simp [only]
      obtain ⟨deed, told, same⟩ := List.mem_filterMap.mp given
      cases deed <;> cases same
      exact told
    · obtain ⟨deed, told, same⟩ := List.mem_filterMap.mp member
      cases deed <;> cases same
      exact told
  case isFalse => cases member

theorem Strand.Judged.weight {strand : Strand α} {deeds : List (Deed α)} (judged : strand.Judged deeds)
    (weight : Event → Nat) :
    tally weight (deeds.filterMap Deed.begun?) =
      strand.undecided.elim 0 weight + tally weight (deeds.filterMap Deed.pushed?) +
        tally weight (judgedAs .skipped deeds) + tally weight (judgedAs .turnedAway deeds) := by
  rw [pushed_of_verdicts]
  unfold Strand.Judged at judged
  split at judged
  case h_1 event undecided =>
    obtain ⟨begun, none⟩ := judged
    simp [judgedAs, undecided, begun, none]
  case h_2 undecided =>
    obtain ⟨unbegun, none⟩ | ⟨event, begun, verdict, possible, given⟩ := judged
    · simp [judgedAs, undecided, unbegun, none]
    · rw [begun, given, undecided]
      simp only [List.mem_cons, List.not_mem_nil, or_false] at possible
      obtain rfl | rfl | rfl := possible <;>
        simp [judgedAs, begun, given, List.filterMap_cons, Verdict.pushed?]

theorem Strand.Judged.count {strand : Strand α} {deeds : List (Deed α)} (judged : strand.Judged deeds) :
    (deeds.filterMap Deed.turnedAway?).length = (judgedAs .turnedAway deeds).length := by
  rw [turnedAway_of_verdicts]
  unfold Strand.Judged at judged
  split at judged
  case h_1 event undecided =>
    obtain ⟨begun, none⟩ := judged
    simp [judgedAs, none]
  case h_2 undecided =>
    obtain ⟨unbegun, none⟩ | ⟨event, begun, verdict, possible, given⟩ := judged
    · simp [judgedAs, none]
    · simp only [List.mem_cons, List.not_mem_nil, or_false] at possible
      obtain rfl | rfl | rfl := possible <;>
        simp [judgedAs, begun, given, List.filterMap_cons, Verdict.turnedAway?]

namespace System

def judgedAs (s : System α) (verdict : Verdict) : List Event :=
  (List.range s.strands.length).flatMap fun place => Dispatch.judgedAs verdict (s.deedsOf place)

def lost (s : System α) : List Event := s.told Deed.discarded? ++ s.judgedAs .turnedAway

variable [BEq α] {s : System α}

private theorem Reachable.tally_told (reach : s.Reachable) (weight : β → Nat) (view : Deed α → Option β) :
    tally weight (s.told view) =
      tally (fun place => tally weight ((s.deedsOf place).filterMap view)) (List.range s.strands.length) := by
  have inside : ∀ x ∈ s.history, x.1 < s.strands.length := fun x member => reach.place_lt member
  rw [told, tally_filterMap, deeds, tally_map]
  refine (tally_places (fun deed => (view deed).elim 0 weight) inside).trans (tally_congr ?_)
  intro place _
  rw [tally_filterMap, deedsOf]

private theorem Reachable.begun_weight (reach : s.Reachable) (weight : Event → Nat) :
    tally weight (s.told Deed.begun?) =
      tally (fun strand => strand.undecided.elim 0 weight) s.strands +
        tally weight (s.told Deed.pushed?) + tally weight (s.judgedAs .skipped) +
          tally weight (s.judgedAs .turnedAway) := by
  rw [reach.tally_told, reach.tally_told, judgedAs, judgedAs, tally_flatMap, tally_flatMap,
    ← tally_getElem (fun strand => strand.undecided.elim 0 weight) s.strands, ← tally_add, ← tally_add,
    ← tally_add]
  apply tally_congr
  intro place member
  have inside : place < s.strands.length := List.mem_range.mp member
  have found : s.strands[place]? = some s.strands[place] := List.getElem?_eq_getElem inside
  rw [found, Option.elim_some]
  exact (reach.judged found).weight weight

theorem Reachable.lost_length (reach : s.Reachable) : s.lost.length = (s.told Deed.lost?).length := by
  have turned : (s.judgedAs .turnedAway).length = (s.told Deed.turnedAway?).length := by
    rw [length_eq_tally, length_eq_tally, judgedAs, tally_flatMap, reach.tally_told]
    apply tally_congr
    intro place member
    have inside : place < s.strands.length := List.mem_range.mp member
    have found : s.strands[place]? = some s.strands[place] := List.getElem?_eq_getElem inside
    rw [← length_eq_tally, ← length_eq_tally]
    exact (reach.judged found).count.symm
  rw [lost, List.length_append, turned, length_eq_tally, length_eq_tally, length_eq_tally, told, told,
    told, tally_filterMap, tally_filterMap, tally_filterMap, ← tally_add]
  apply tally_congr
  intro deed _
  cases deed <;> rfl

private theorem Reachable.pushed_weight (reach : s.Reachable) (weight : Event → Nat) :
    tally weight (s.told Deed.pushed?) =
      tally weight (s.told Deed.handed?) + tally weight (s.told Deed.discarded?) +
        tally weight (s.inHand.map (·.2)) + tally weight s.core.queue := by
  have dealt : tally weight ((s.told Deed.dealt?).map (·.2)) =
      tally weight (s.told Deed.handed?) + tally weight (s.told Deed.discarded?) := by
    rw [tally_map, told, told, told, tally_filterMap, tally_filterMap, tally_filterMap, ← tally_add]
    apply tally_congr
    intro deed _
    cases deed <;> simp [Deed.dealt?, Deed.handed?, Deed.discarded?]
  rw [reach.pushed_eq, tally_append, reach.dealt_eq, List.map_append, tally_append, dealt]

theorem Reachable.begun_weight_idle (reach : s.Reachable) (idle : s.Idle) (weight : Event → Nat)
    (heeded : tally weight (s.judgedAs .skipped) = 0) :
    tally weight (s.told Deed.begun?) =
      tally weight (s.told Deed.handed?) + tally weight s.lost := by
  have decided : tally (fun strand : Strand α => strand.undecided.elim 0 weight) s.strands = 0 := by
    apply tally_eq_zero
    intro strand member
    rw [idle strand member]
    rfl
  have free : s.inHand = [] := by
    refine List.flatMap_eq_nil_iff.mpr ?_
    intro strand member
    rw [idle strand member]
    rfl
  obtain ⟨empty, -⟩ := reach.idle idle
  rw [reach.begun_weight, reach.pushed_weight, decided, heeded, free, empty, lost, tally_append]
  simp only [List.map_nil, tally_nil, Nat.add_zero, Nat.zero_add, Nat.add_assoc]

theorem Reachable.handed_weight_le (reach : s.Reachable) (weight : Event → Nat) :
    tally weight (s.told Deed.handed?) ≤ tally weight (s.told Deed.begun?) := by
  rw [reach.begun_weight, reach.pushed_weight]
  omega

end System

end TransferLifecycle.Dispatch
