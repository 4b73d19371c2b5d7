import Mathlib.Data.List.Basic
import TransferLifecycle.Proofs.Metering.Interleaving
import TransferLifecycle.Proofs.Pool.Locking

/-! What the counters hold, told from the calls alone. The bytes are the sum of what the calls have added, in
whatever order they came to it; the total is the one that was stored last; and the start is noted as soon as one
addition has got that far. -/
namespace TransferLifecycle.Metering

open Pool (tally tally_nil tally_cons tally_append)

section Lists

variable {β γ : Type}

private theorem filterMap_cons_toList (f : β → Option γ) (head : β) (rest : List β) :
    (head :: rest).filterMap f = (f head).toList ++ rest.filterMap f := by
  cases seen : f head with
  | none => exact List.filterMap_cons_none seen
  | some x => exact List.filterMap_cons_some seen

private theorem filterMap_set_perm {f : β → Option γ} {list : List β} {place : Nat} {old new : β} {more : List γ}
    (found : list[place]? = some old) (shown : (f new).toList = (f old).toList ++ more) :
    ((list.set place new).filterMap f).Perm (list.filterMap f ++ more) := by
  induction list generalizing place with
  | nil => cases found
  | cons head rest ih =>
    cases place with
    | zero =>
      cases Option.some.inj found
      rw [List.set_cons_zero, filterMap_cons_toList, filterMap_cons_toList, shown, List.append_assoc,
        List.append_assoc]
      exact List.perm_append_comm.append_left _
    | succ place =>
      rw [List.set_cons_succ, filterMap_cons_toList, filterMap_cons_toList, List.append_assoc]
      exact (ih found).append_left _

theorem tally_perm {weight : β → Nat} {first second : List β} (perm : first.Perm second) :
    tally weight first = tally weight second := by
  induction perm with
  | nil => rfl
  | cons x _ ih => rw [tally_cons, tally_cons, ih]
  | swap x y rest =>
    simp only [tally_cons]
    omega
  | trans _ _ ih₁ ih₂ => exact ih₁.trans ih₂

end Lists

/-- What the call is to add, whether it has done so or not. -/
def Strand.adds? : Strand → Option UInt64
  | .adding bytes _ => some bytes
  | _ => none

def Strand.added? : Strand → Option UInt64
  | .adding bytes .made => some bytes
  | _ => none

def Strand.sets? : Strand → Option UInt64
  | .setting total | .hasSet total => some total
  | _ => none

def Strand.noted? : Strand → Option UInt64
  | .adding bytes .ofBytes | .adding bytes .made => some bytes
  | _ => none

def Strand.stored? : Strand → Option UInt64
  | .hasSet total => some total
  | _ => none

def Strand.changes (strand : Strand) : Bool := strand.adds?.isSome || strand.sets?.isSome

private theorem Strand.shown_of_finished (strand : Strand) (finished : strand.changes = true → strand.left = 0) :
    strand.added? = strand.adds? ∧ strand.noted? = strand.adds? ∧ strand.stored? = strand.sets? := by
  cases strand with
  | adding bytes stage =>
    have ended := finished rfl
    cases stage with
    | made => exact ⟨rfl, rfl, rfl⟩
    | _ => cases ended
  | setting => cases finished rfl
  | _ => exact ⟨rfl, rfl, rfl⟩

section

variable {p : Progress} {passed : Bool} {strand : Strand} {e : Effect}

theorem Strand.Acts.adds (acts : strand.Acts p passed e) :
    ∃ more, e.strand.added?.toList = strand.added?.toList ++ more ∧
      e.progress.bytes = p.bytes + UInt64.ofNat (tally UInt64.toNat more) := by
  cases acts with
  | @count bytes => exact ⟨[bytes], rfl, by simp⟩
  | _ => exact ⟨[], rfl, (UInt64.add_zero _).symm⟩

theorem Strand.Acts.stores (acts : strand.Acts p passed e) :
    e.strand.stored?.toList = strand.stored?.toList ++ e.stores ∧
      e.progress.total = (e.stores.getLast?.map (min · (unknownTotal - 1))).or p.total := by
  cases acts with
  | store => exact ⟨rfl, p.total_setTotal _⟩
  | _ => exact ⟨rfl, rfl⟩

private theorem Strand.Acts.notes (acts : strand.Acts p passed e) :
    ∃ more, e.strand.noted?.toList = strand.noted?.toList ++ more ∧
      e.progress.started = (p.started || !more.isEmpty) := by
  cases acts with
  | @note bytes => exact ⟨[bytes], rfl, (Bool.or_true _).symm⟩
  | _ => exact ⟨[], rfl, (Bool.or_false _).symm⟩

end

namespace System

def added (s : System) : List UInt64 := s.strands.filterMap Strand.added?

def noted (s : System) : List UInt64 := s.strands.filterMap Strand.noted?

variable {origin : Option UInt64} {s t : System} {actions : List Action}

private theorem filterMap_begin {γ : Type} {f : Strand → Option γ} (s : System) {task : Task}
    (fresh : f task.strand = none) : (s.begin task).strands.filterMap f = s.strands.filterMap f := by
  rw [begin, List.filterMap_append, List.filterMap_cons_none fresh, List.filterMap_nil, List.append_nil]

theorem Reachable.bytes (reach : s.Reachable origin) :
    s.progress.bytes = UInt64.ofNat (tally UInt64.toNat s.added) := by
  refine reach.invariant (fun s => s.progress.bytes = UInt64.ofNat (tally UInt64.toNat s.added)) ?start ?begin
    ?step ?tick
  case start => cases origin <;> rfl
  case begin =>
    intro s task ih
    rw [added, filterMap_begin s (by cases task <;> rfl)]
    exact ih
  case step =>
    intro s place strand e ih found acts
    obtain ⟨more, shown, sum⟩ := acts.adds
    -- The calls stand in the order in which they were begun, not in that of their additions.
    have perm : (s.effect place e).added.Perm (s.added ++ more) := filterMap_set_perm found shown
    rw [tally_perm perm, tally_append, UInt64.ofNat_add, ← ih]
    exact sum
  case tick => exact fun s ih => ih

theorem Reachable.total (reach : s.Reachable origin) :
    s.progress.total = s.stored.getLast?.map (min · (unknownTotal - 1)) := by
  refine reach.invariant (fun s => s.progress.total = s.stored.getLast?.map (min · (unknownTotal - 1))) ?start
    ?begin ?step ?tick
  case start =>
    cases origin with
    | none => rfl
    | some total => exact Progress.total_setTotal {} total
  case begin => exact fun s task ih => ih
  case step =>
    intro s place strand e ih found acts
    have later : (s.effect place e).progress.total = _ := acts.stores.2
    rw [later, ih, effect, List.getLast?_append, Option.map_or]
  case tick => exact fun s ih => ih

theorem Reachable.stored (reach : s.Reachable origin) :
    s.stored.Perm (origin.toList ++ s.strands.filterMap Strand.stored?) := by
  refine reach.invariant (fun s => s.stored.Perm (origin.toList ++ s.strands.filterMap Strand.stored?)) ?start
    ?begin ?step ?tick
  case start => cases origin <;> exact List.Perm.refl _
  case begin =>
    intro s task ih
    rw [filterMap_begin s (by cases task <;> rfl)]
    exact ih
  case step =>
    intro s place strand e ih found acts
    have perm := filterMap_set_perm found acts.stores.1
    calc (s.effect place e).stored
      _ = s.stored ++ e.stores := rfl
      _ |>.Perm (origin.toList ++ s.strands.filterMap Strand.stored? ++ e.stores) := ih.append_right _
      _ = origin.toList ++ (s.strands.filterMap Strand.stored? ++ e.stores) := List.append_assoc _ _ _
      _ |>.Perm (origin.toList ++ (s.effect place e).strands.filterMap Strand.stored?) := perm.symm.append_left _
  case tick => exact fun s ih => ih

theorem Reachable.started (reach : s.Reachable origin) : s.progress.started = !s.noted.isEmpty := by
  refine reach.invariant (fun s => s.progress.started = !s.noted.isEmpty) ?start ?begin ?step ?tick
  case start => cases origin <;> rfl
  case begin =>
    intro s task ih
    rw [noted, filterMap_begin s (by cases task <;> rfl)]
    exact ih
  case step =>
    intro s place strand e ih found acts
    obtain ⟨more, shown, started⟩ := acts.notes
    have perm : (s.effect place e).noted.Perm (s.noted ++ more) := filterMap_set_perm found shown
    have empty : (s.effect place e).noted.isEmpty = (s.noted.isEmpty && more.isEmpty) := by
      rw [perm.isEmpty_eq]
      cases s.noted <;> rfl
    rw [empty, Bool.not_and, ← ih]
    exact started
  case tick => exact fun s ih => ih

/-- No call that changes the counters is under way. -/
def Settled (s : System) : Prop := ∀ strand ∈ s.strands, strand.changes = true → strand.left = 0

theorem Settled.all (settled : s.Settled) :
    s.added = s.strands.filterMap Strand.adds? ∧ s.noted = s.strands.filterMap Strand.adds? ∧
      s.strands.filterMap Strand.stored? = s.strands.filterMap Strand.sets? := by
  have shown (strand : Strand) (member : strand ∈ s.strands) := strand.shown_of_finished (settled strand member)
  refine ⟨?_, ?_, ?_⟩
  · exact List.filterMap_congr fun strand member => (shown strand member).1
  · exact List.filterMap_congr fun strand member => (shown strand member).2.1
  · exact List.filterMap_congr fun strand member => (shown strand member).2.2

private theorem Reachable.unknown_iff (reach : s.Reachable origin) : s.progress.total = none ↔ s.stored = [] := by
  rw [reach.total, Option.map_eq_none_iff, List.getLast?_eq_none_iff]

theorem Reachable.unknown (reach : s.Reachable origin) :
    s.progress.total = none ↔ origin = none ∧ s.strands.filterMap Strand.stored? = [] := by
  have perm := reach.stored
  have empty : s.stored = [] ↔ origin.toList ++ s.strands.filterMap Strand.stored? = [] :=
    ⟨fun nothing => List.perm_nil.mp (nothing ▸ perm.symm), fun nothing => List.perm_nil.mp (nothing ▸ perm)⟩
  rw [reach.unknown_iff, empty, List.append_eq_nil_iff, Option.toList_eq_nil_iff]

private theorem stored_run (ran : s.run? actions = some t) : ∃ more, t.stored = s.stored ++ more := by
  induction actions generalizing s with
  | nil =>
    cases Option.some.inj ran
    exact ⟨[], (List.append_nil _).symm⟩
  | cons action rest ih =>
    obtain ⟨middle, performed, later⟩ := Option.bind_eq_some_iff.mp ran
    obtain ⟨more, stored⟩ := ih later
    have first : ∃ news, middle.stored = s.stored ++ news := by
      cases action with
      | begin | tick =>
        cases Option.some.inj performed
        exact ⟨[], (List.append_nil _).symm⟩
      | step place =>
        obtain ⟨_, e, -, -, rfl⟩ := acts_of_perform performed
        exact ⟨e.stores, rfl⟩
    obtain ⟨news, same⟩ := first
    exact ⟨news ++ more, by rw [stored, same, List.append_assoc]⟩

theorem Reachable.known (reach : s.Reachable origin) (ran : s.run? actions = some t)
    (known : s.progress.total ≠ none) : t.progress.total ≠ none := by
  rw [Ne, (reach.run actions ran).unknown_iff]
  rw [Ne, reach.unknown_iff] at known
  obtain ⟨more, stored⟩ := stored_run ran
  exact fun nothing => known (List.append_eq_nil_iff.mp (stored ▸ nothing)).1

end System

end TransferLifecycle.Metering
