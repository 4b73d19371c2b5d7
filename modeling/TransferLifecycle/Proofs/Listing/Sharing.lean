import TransferLifecycle.Proofs.Dispatch.Ownership
import TransferLifecycle.Proofs.Listing.Interleaving

/-! Who holds the lock of a list, who holds a lease of which vector, and what has been told of a strand by the
time it stands where it stands. Only the strand with the lock changes the entries, and nobody takes a snapshot
while it does, so that a vector found to be unshared stays so until it is written. -/
namespace TransferLifecycle.Listing

open Dispatch (countP_set_add)

variable {α : Type}

def Strand.inside : Strand α → Bool
  | .changing _ .enter => false
  | .changing _ _ => true
  | _ => false

def Strand.snapshot? : Strand α → Option Snapshot
  | .holding snapshot | .passing (.visit snapshot _) | .calling _ (.visit snapshot _) => some snapshot
  | _ => none

def Strand.holds (vector : Nat) (strand : Strand α) : Bool := strand.snapshot? == some ⟨vector⟩

theorem Strand.holds_iff {strand : Strand α} {vector : Nat} :
    strand.holds vector = true ↔ strand.snapshot? = some ⟨vector⟩ := beq_iff_eq

def Strand.isFresh : Strand α → Bool
  | .changing _ .enter | .changing _ .search | .asking _ | .taking | .passing .start => true
  | _ => false

inductive Strand.Tells [BEq α] (l : ListenerList α) : Strand α → List (Deed α) → Prop where
  | fresh {strand} (fresh : strand.isFresh = true) : Tells l strand []
  | found {change} (found : change.finds l.toList = true) : Tells l (.changing change .ask) []
  | asked {change shared} (found : change.finds l.toList = true)
      (free : shared = false → l.current ∉ l.leases) :
    Tells l (.changing change (.revise shared)) []
  | decided {change found} : Tells l (.changing change (.leave found)) [.changed change found]
  | changed {change found} : Tells l (.changed found) [.changed change found, .answered found]
  | answered {asked : ListenerList α} {question : Question} : Tells l .ended [question.answer asked]
  | holding {snapshot n} :
    Tells l (.holding snapshot) (.took (l.view snapshot) :: List.replicate n (.shown (l.view snapshot)))
  | dropped {entries n} : Tells l .ended (.took entries :: List.replicate n (.shown entries))
  | visiting {snapshot index} :
    Tells l (.passing (.visit snapshot index))
      (.took (l.view snapshot) :: ((l.view snapshot).take index).map .called)
  | calling {snapshot index listener} :
    Tells l (.calling listener (.visit snapshot index))
      (.took (l.view snapshot) :: ((l.view snapshot).take index).map .called)
  | brokenOff {entries index} : Tells l .ended (.took entries :: (entries.take index).map .called)
  | through {entries} : Tells l .ended (.took entries :: (entries.map .called ++ [.through]))

variable [BEq α] {me : Nat} {c : Core α} {strand : Strand α} {act : Act} {e : Effect α}

theorem Strand.Acts.holder (acts : strand.Acts me c act e) (held : c.holder = some me ↔ strand.inside = true) :
    (e.core.holder = some me ↔ e.strand.inside = true) ∧
      ∀ other, me ≠ other → (e.core.holder = some other ↔ c.holder = some other) := by
  cases acts <;> simp_all [inside]

omit [BEq α] in
private theorem count_release {l : ListenerList α} {snapshot : Snapshot} (vector : Nat) (held : l.Held snapshot) :
    (l.release snapshot).leases.count vector + (snapshot == ⟨vector⟩).toNat = l.leases.count vector := by
  obtain ⟨mine⟩ := snapshot
  change (l.leases.erase mine).count vector + _ = _
  by_cases same : mine = vector
  · subst same
    have some : 0 < l.leases.count mine := List.count_pos_iff.mpr held
    rw [List.count_erase_self, beq_self_eq_true]
    simp only [Bool.toNat_true]
    omega
  · rw [List.count_erase_of_ne (Ne.symm same)]
    simp [same]

theorem Strand.Acts.leases (acts : strand.Acts me c act e) {deeds : List (Deed α)}
    (tells : strand.Tells c.list deeds) (vector : Nat)
    (held : ∀ snapshot, strand.snapshot? = some snapshot → c.list.Held snapshot) :
    e.core.list.leases.count vector + (strand.holds vector).toNat =
      c.list.leases.count vector + (e.strand.holds vector).toNat := by
  cases acts with
  | revise => simp [holds, snapshot?]
  | take | beginPass =>
    cases same : c.list.current == vector <;>
      simp_all [holds, snapshot?, ListenerList.snapshot]
  | drop | endPass => simpa [holds, snapshot?] using count_release vector (held _ rfl)
  | @broken listener pass =>
    cases tells with
    | fresh fresh => cases fresh
    | calling => simpa [holds, snapshot?, Pass.abandon] using count_release vector (held _ rfl)
  | @returned listener pass => cases pass <;> rfl
  | _ => rfl

theorem Strand.Acts.view (acts : strand.Acts me c act e) {deeds : List (Deed α)}
    (tells : strand.Tells c.list deeds) {snapshot : Snapshot} (held : c.list.Held snapshot) :
    e.core.list.view snapshot = c.list.view snapshot := by
  cases acts with
  | revise =>
    cases tells with
    | fresh fresh => cases fresh
    | asked found free => exact c.list.view_revise _ free held
  | @broken listener pass => cases pass <;> rfl
  | _ => rfl

/-- What others do while a strand has the lock: they give snapshots back, and that is all. -/
theorem Strand.Acts.aside (acts : strand.Acts me c act e) (outside : strand.inside = false)
    (taken : c.holder ≠ none) :
    e.core.list.toList = c.list.toList ∧ e.core.list.current = c.list.current ∧
      ∀ vector ∈ e.core.list.leases, vector ∈ c.list.leases := by
  cases acts with
  | enter free | answer free | take free | beginPass free => exact absurd free taken
  | find | miss | ask | revise | leave => cases outside
  | drop | endPass => exact ⟨rfl, rfl, fun _ => List.mem_of_mem_erase⟩
  | @broken listener pass =>
    cases pass with
    | start => exact ⟨rfl, rfl, fun _ => id⟩
    | visit => exact ⟨rfl, rfl, fun _ => List.mem_of_mem_erase⟩
  | look | call | returned => exact ⟨rfl, rfl, fun _ => id⟩

theorem Strand.Tells.keep {l later : ListenerList α} {deeds : List (Deed α)} (tells : strand.Tells l deeds)
    (view : ∀ snapshot, strand.snapshot? = some snapshot → later.view snapshot = l.view snapshot)
    (aside : strand.inside = true → later.toList = l.toList ∧ later.current = l.current ∧
      ∀ vector ∈ later.leases, vector ∈ l.leases) : strand.Tells later deeds := by
  cases tells with
  | fresh fresh => exact .fresh fresh
  | found found =>
    obtain ⟨entries, -, -⟩ := aside rfl
    exact .found (entries ▸ found)
  | asked found free =>
    obtain ⟨entries, current, leases⟩ := aside rfl
    refine .asked (entries ▸ found) fun unshared held => free unshared ?_
    rw [← current]
    exact leases _ held
  | decided => exact .decided
  | changed => exact .changed
  | answered => exact .answered
  | holding =>
    rw [← view _ rfl]
    exact .holding
  | dropped => exact .dropped
  | visiting =>
    rw [← view _ rfl]
    exact .visiting
  | calling =>
    rw [← view _ rfl]
    exact .calling
  | brokenOff => exact .brokenOff
  | through => exact .through

theorem Strand.Acts.tells [LawfulBEq α] (acts : strand.Acts me c act e) {deeds : List (Deed α)}
    (tells : strand.Tells c.list deeds) : e.strand.Tells e.core.list (deeds ++ e.deeds) := by
  cases acts with
  | enter =>
    cases tells
    exact .fresh rfl
  | find found =>
    cases tells
    exact .found found
  | miss =>
    cases tells
    exact .decided
  | ask =>
    cases tells with
    | fresh fresh => cases fresh
    | found found => exact .asked found (by simp)
  | revise =>
    cases tells with
    | fresh fresh => cases fresh
    | asked => exact .decided
  | leave =>
    cases tells with
    | fresh fresh => cases fresh
    | decided => exact .changed
  | answer =>
    cases tells
    exact .answered
  | take =>
    cases tells
    exact .holding (n := 0)
  | beginPass =>
    cases tells
    exact .visiting
  | look =>
    cases tells with
    | fresh fresh => cases fresh
    | @holding _ n =>
      rw [List.cons_append, ← List.replicate_succ']
      exact .holding
  | drop =>
    cases tells with
    | fresh fresh => cases fresh
    | holding =>
      rw [List.append_nil]
      exact .dropped
  | @call snapshot index listener present =>
    cases tells with
    | fresh fresh => cases fresh
    | visiting =>
      have more : ((c.list.view snapshot).take (index + 1)).map Deed.called =
          ((c.list.view snapshot).take index).map .called ++ [.called listener] := by
        simp [List.take_add_one, present]
      rw [List.cons_append, ← more]
      exact .calling
  | @endPass snapshot index absent =>
    cases tells with
    | fresh fresh => cases fresh
    | visiting =>
      rw [List.cons_append, List.take_of_length_le (List.getElem?_eq_none_iff.mp absent)]
      exact .through
  | returned =>
    cases tells with
    | fresh fresh => cases fresh
    | calling =>
      rw [List.append_nil]
      exact .visiting
  | broken =>
    cases tells with
    | fresh fresh => cases fresh
    | calling =>
      rw [List.append_nil]
      exact .brokenOff

namespace System

variable {s : System α}

theorem Reachable.exclusive (reach : s.Reachable) (place : Nat) :
    s.core.holder = some place ↔ ∃ strand ∈ s.strands[place]?, strand.inside = true := by
  refine reach.invariant (fun s => ∀ place, s.core.holder = some place ↔
    ∃ strand ∈ s.strands[place]?, strand.inside = true) ?start ?begin ?act place
  case start =>
    intro place
    simp
  case begin =>
    intro s task _ ih place
    rw [show (s.begin task).core = s.core from rfl, ih place]
    constructor
    · rintro ⟨strand, found, inside⟩
      have bound := (List.getElem?_eq_some_iff.mp found).1
      exact ⟨strand, (List.getElem?_append_left bound).trans found, inside⟩
    · rintro ⟨strand, found, inside⟩
      obtain old | ⟨-, rfl⟩ := found_begin found
      · exact ⟨strand, old, inside⟩
      · cases task <;> cases inside
  case act =>
    intro s place strand act e _ ih found acts other
    have bound := (List.getElem?_eq_some_iff.mp found).1
    have held : s.core.holder = some place ↔ strand.inside = true := by
      rw [ih place]
      simp [found]
    obtain ⟨own, rest⟩ := acts.holder held
    by_cases same : place = other
    · subst same
      simpa [effect, List.getElem?_set_self bound] using own
    · simpa [effect, List.getElem?_set_ne same] using (rest other same).trans (ih other)

theorem Reachable.inside_unique (reach : s.Reachable) {i j : Nat} {x y : Strand α}
    (first : s.strands[i]? = some x) (second : s.strands[j]? = some y) (insideFirst : x.inside = true)
    (insideSecond : y.inside = true) : i = j := by
  have one := (reach.exclusive i).mpr ⟨x, first, insideFirst⟩
  have two := (reach.exclusive j).mpr ⟨y, second, insideSecond⟩
  exact Option.some.inj (one.symm.trans two)

/-- There are as many leases of each vector as there are snapshots that hold it. -/
def Leased (s : System α) : Prop :=
  ∀ vector, s.core.list.leases.count vector = s.strands.countP (Strand.holds vector)

omit [BEq α] in
theorem Leased.held (leased : s.Leased) {place : Nat} (found : s.strands[place]? = some strand)
    {snapshot : Snapshot} (mine : strand.snapshot? = some snapshot) : s.core.list.Held snapshot := by
  have some : 0 < s.strands.countP (Strand.holds snapshot.vector) :=
    List.countP_pos_iff.mpr ⟨strand, List.mem_of_getElem? found, Strand.holds_iff.mpr mine⟩
  rw [← leased] at some
  exact List.count_pos_iff.mp some

def Told (s : System α) : Prop :=
  ∀ place (strand : Strand α), s.strands[place]? = some strand →
    strand.Tells s.core.list (s.deedsOf place)

theorem Reachable.shared [LawfulBEq α] (reach : s.Reachable) : s.Leased ∧ s.Told := by
  refine reach.invariant (fun s => s.Leased ∧ s.Told) ?start ?begin ?act
  case start =>
    refine ⟨fun vector => rfl, fun place strand found => ?_⟩
    cases found
  case begin =>
    intro s task reach ⟨leased, told⟩
    have bare (vector : Nat) : task.strand.holds vector = false := by cases task <;> rfl
    refine ⟨fun vector => ?_, fun place strand found => ?_⟩
    · rw [begin, List.countP_append, ← leased vector]
      simp [bare]
    · obtain old | ⟨rfl, rfl⟩ := found_begin found
      · exact told place strand old
      · rw [deedsOf_begin, reach.deedsOf_eq_nil (Nat.le_refl _)]
        exact .fresh (by cases task <;> rfl)
  case act =>
    intro s acting strand act e reach ⟨leased, told⟩ here acts
    have tells := told acting strand here
    refine ⟨fun vector => ?_, fun place other found => ?_⟩
    · have moved := acts.leases tells vector fun _ => leased.held here
      have counted := countP_set_add (p := Strand.holds vector) here e.strand
      have before := leased vector
      rw [show (s.effect acting e).core = e.core from rfl,
        show (s.effect acting e).strands = s.strands.set acting e.strand from rfl]
      omega
    · rw [deedsOf_effect]
      obtain ⟨rfl, rfl⟩ | ⟨elsewhere, old⟩ := found_effect here found
      · rw [if_pos rfl]
        exact acts.tells tells
      · rw [if_neg elsewhere, List.append_nil]
        refine (told place other old).keep (fun snapshot mine => acts.view tells (leased.held old mine)) ?_
        intro inside
        -- The other one has the lock, so the acting one has not.
        have outside : strand.inside = false :=
          Bool.eq_false_iff.mpr fun both => elsewhere (reach.inside_unique here old both inside)
        have taken : s.core.holder = some place := (reach.exclusive place).mpr ⟨other, old, inside⟩
        exact acts.aside outside (by simp [taken])

end System

end TransferLifecycle.Listing
