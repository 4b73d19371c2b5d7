import Mathlib.Logic.ExistsUnique
import TransferLifecycle.Proofs.Dispatch.Interleaving

/-! Whose turn it is to empty the queue. The flag of a dispatcher is up exactly while one strand
owns it: the firing that put it up, an emptying that the executor has accepted from that firing,
or an emptying that put it up once more. Only the owner takes events from the queue and deals
with them, and an event left in the queue always has somebody who will look for it. -/
namespace TransferLifecycle.Dispatch

variable {α : Type}

/-- From a claim that succeeded, or from the beginning of an emptying, up to the release. -/
def Point.owns : Point → Bool
  | .offered | .overflow | .announceInline | .close | .announceClosed | .countRefusal | .take _
  | .inHand _ _ | .reached | .count _ | .release _ => true
  | .arrive _ | .check _ | .turnAway | .push _ | .claim | .recheck _ | .reclaim _ | .finished => false

/-- The strand owns the queue. A firing whose emptying was accepted has handed it on. -/
def Strand.owns : Strand α → Bool
  | .queued | .offering | .passing _ _ | .calling _ _ _ => true
  | .standing point => point.owns
  | .accepted | .ended => false

def Strand.attends : Strand α → Bool
  | .standing .claim | .standing (.recheck _) | .standing (.reclaim _) => true
  | _ => false

def Deed.needsOwner : Deed α → Bool
  | .popped _ _ | .handed _ | .entered _ | .called _ _ | .through _ | .discarded _ => true
  | .begun _ | .skipped | .turnedAway | .pushed _ | .accepted | .refused _ => false

namespace System

def Owner (s : System α) (place : Nat) : Prop := ∃ strand ∈ s.strands[place]?, strand.owns

def owners (s : System α) : Nat := s.strands.countP Strand.owns

end System

private theorem eq_of_countP_le_one {β : Type} {p : β → Bool} {list : List β} {i j : Nat} {x y : β}
    (few : list.countP p ≤ 1) (first : list[i]? = some x) (second : list[j]? = some y)
    (holdsFirst : p x) (holdsSecond : p y) : i = j := by
  induction list generalizing i j with
  | nil => simp at first
  | cons head rest ih =>
    have alone {k : Nat} {z : β} (present : rest[k]? = some z) (holds : p z) (top : p head) : False := by
      have some : 0 < rest.countP p := List.countP_pos_iff.mpr ⟨z, List.mem_of_getElem? present, holds⟩
      rw [List.countP_cons_of_pos top] at few
      omega
    cases i with
    | zero => cases j with
      | zero => rfl
      | succ j =>
        cases Option.some.inj first
        exact (alone second holdsSecond holdsFirst).elim
    | succ i => cases j with
      | zero =>
        cases Option.some.inj second
        exact (alone first holdsFirst holdsSecond).elim
      | succ j =>
        have fewer : rest.countP p ≤ 1 := by
          rw [List.countP_cons] at few
          omega
        rw [ih fewer first second]

theorem countP_set_add {β : Type} {p : β → Bool} {list : List β} {place : Nat} {old : β}
    (found : list[place]? = some old) (new : β) :
    (list.set place new).countP p + (p old).toNat = list.countP p + (p new).toNat := by
  obtain ⟨inside, here⟩ := List.getElem?_eq_some_iff.mp found
  have counted : (p old).toNat ≤ list.countP p := by
    cases holds : p old with
    | false => simp
    | true => exact List.countP_pos_iff.mpr ⟨old, List.mem_of_getElem? found, holds⟩
  rw [List.countP_set inside, here]
  revert counted
  cases p old <;> cases p new <;>
    simp only [Bool.toNat_true, Bool.toNat_false, Bool.false_eq_true, if_true, if_false] <;> omega

theorem System.countP_effect {s : System α} {place : Nat} {strand : Strand α} (p : Strand α → Bool)
    (found : s.strands[place]? = some strand) (e : Effect α) :
    (s.effect place e).strands.countP p + (p strand).toNat =
      s.strands.countP p + (p e.strand).toNat + e.begun.countP p := by
  have replaced := countP_set_add (p := p) found e.strand
  rw [strands_effect, List.countP_append]
  omega

/-- Ownership comes and goes with the flag, and else passes from strand to strand. -/
theorem Strand.Acts.owns {d : Dispatcher α} {strand : Strand α} {act : Act} {e : Effect α}
    (acts : strand.Acts d act e) (held : strand.owns → d.scheduled) :
    e.strand.owns.toNat + e.begun.countP Strand.owns + d.scheduled.toNat =
      strand.owns.toNat + e.core.scheduled.toNat := by
  cases acts <;> simp_all [Strand.owns, Point.owns]

theorem Strand.Acts.needsOwner {d : Dispatcher α} {strand : Strand α} {act : Act} {e : Effect α}
    (acts : strand.Acts d act e) {deed : Deed α} (told : deed ∈ e.deeds)
    (needs : deed.needsOwner) : strand.owns := by
  cases acts <;> simp_all [Strand.owns, Point.owns, Deed.needsOwner]

theorem Strand.Acts.attends {d : Dispatcher α} {strand : Strand α} {act : Act} {e : Effect α}
    (acts : strand.Acts d act e) (held : strand.owns → d.scheduled) (left : e.core.queue ≠ [])
    (down : e.core.scheduled = false) (unattended : e.strand.attends = false) :
    d.queue ≠ [] ∧ d.scheduled = false ∧ strand.attends = false := by
  cases acts <;> simp_all [Strand.owns, Point.owns, Strand.attends]

namespace System

variable [BEq α] {s : System α}

omit [BEq α] in
private theorem scheduled_of_owners_eq (balanced : s.owners = s.core.scheduled.toNat) {place : Nat}
    {strand : Strand α} (found : s.strands[place]? = some strand) (owns : strand.owns) :
    s.core.scheduled = true := by
  have some : 0 < s.owners := List.countP_pos_iff.mpr ⟨strand, List.mem_of_getElem? found, owns⟩
  rw [balanced] at some
  cases up : s.core.scheduled with
  | true => rfl
  | false =>
    rw [up] at some
    cases some

private theorem Reachable.owners_eq (reach : s.Reachable) : s.owners = s.core.scheduled.toNat := by
  refine reach.invariant (fun s => s.owners = s.core.scheduled.toNat) rfl ?fire ?change ?act
  case fire =>
    intro s event _ ih
    simpa [owners, Strand.owns, Point.owns] using ih
  case change =>
    intro s list _ ih
    exact ih
  case act =>
    intro s place strand act e _ ih found acts
    -- What the acting strand gains or loses is what the flag does; the others stay as they are.
    have local_law := acts.owns (scheduled_of_owners_eq ih found)
    have counted := countP_effect Strand.owns found e
    rw [core_effect]
    unfold owners at ih ⊢
    omega

theorem Reachable.scheduled_of_owns (reach : s.Reachable) {place : Nat} {strand : Strand α}
    (found : s.strands[place]? = some strand) (owns : strand.owns) : s.core.scheduled = true :=
  scheduled_of_owners_eq reach.owners_eq found owns

theorem Reachable.owner_unique (reach : s.Reachable) {i j : Nat} (first : s.Owner i)
    (second : s.Owner j) : i = j := by
  obtain ⟨x, foundFirst, ownsFirst⟩ := first
  obtain ⟨y, foundSecond, ownsSecond⟩ := second
  have few : s.strands.countP Strand.owns ≤ 1 := by
    have exact_count := reach.owners_eq
    unfold owners at exact_count
    rw [exact_count]
    exact Bool.toNat_le _
  exact eq_of_countP_le_one few foundFirst foundSecond ownsFirst ownsSecond

private theorem Reachable.scheduled_iff (reach : s.Reachable) :
    s.core.scheduled = true ↔ ∃! place, s.Owner place := by
  constructor
  · intro up
    have some : 0 < s.strands.countP Strand.owns := by
      have exact_count := reach.owners_eq
      unfold owners at exact_count
      simp [exact_count, up]
    obtain ⟨strand, member, owns⟩ := List.countP_pos_iff.mp some
    obtain ⟨place, found⟩ := List.mem_iff_getElem?.mp member
    refine ⟨place, ⟨strand, found, owns⟩, ?_⟩
    intro other owner
    exact reach.owner_unique owner ⟨strand, found, owns⟩
  · rintro ⟨place, ⟨strand, found, owns⟩, -⟩
    exact reach.scheduled_of_owns found owns

private theorem Reachable.attended (reach : s.Reachable) (left : s.core.queue ≠ [])
    (down : s.core.scheduled = false) : 0 < s.strands.countP Strand.attends := by
  refine reach.invariant (fun s => s.core.queue ≠ [] → s.core.scheduled = false →
    0 < s.strands.countP Strand.attends) ?start ?fire ?change ?act left down
  case start =>
    intro left
    exact absurd rfl left
  case fire =>
    intro s event _ ih left down
    rw [strands_fire, List.countP_append]
    exact Nat.add_pos_left (ih left down) _
  case change =>
    intro s list _ ih
    exact ih
  case act =>
    intro s place strand act e reach ih found acts left down
    have counted := countP_effect Strand.attends found e
    -- Either the acting strand attends now, or it did not before and another one does.
    cases unattended : e.strand.attends with
    | true =>
      have bound := Bool.toNat_le (strand.attends)
      have one : 0 < s.strands.countP Strand.attends + 1 - strand.attends.toNat := by
        cases here : strand.attends with
        | false => simp
        | true => simpa using List.countP_pos_iff.mpr ⟨strand, List.mem_of_getElem? found, here⟩
      simp only [unattended, Bool.toNat_true] at counted
      omega
    | false =>
      obtain ⟨before, was, idle⟩ := acts.attends (reach.scheduled_of_owns found)
        left down unattended
      have others := ih before was
      simp only [unattended, idle, Bool.toNat_false] at counted
      omega

omit [BEq α] in
theorem Idle.countP_eq_zero (idle : s.Idle) {p : Strand α → Bool} (done : p .ended = false) :
    s.strands.countP p = 0 := by
  apply List.countP_eq_zero.mpr
  intro strand member holds
  rw [idle strand member, done] at holds
  cases holds

theorem Reachable.idle (reach : s.Reachable) (idle : s.Idle) :
    s.core.queue = [] ∧ s.core.scheduled = false := by
  have down : s.core.scheduled = false := by
    have none : s.owners = 0 := idle.countP_eq_zero rfl
    rw [reach.owners_eq] at none
    exact Bool.toNat_eq_zero.mp none
  refine ⟨Classical.byContradiction fun left => ?_, down⟩
  have attended := reach.attended left down
  rw [idle.countP_eq_zero rfl] at attended
  omega

private theorem owner_of_news {t : System α} {action : Action α} (performed : s.perform? action = some t)
    {place : Nat} {deed : Deed α} (told : (place, deed) ∈ s.news t) (needs : deed.needsOwner) :
    s.Owner place := by
  obtain ⟨event, rfl⟩ | ⟨strand, act, e, found, acts, told⟩ := acts_of_news performed told
  · cases needs
  · exact ⟨strand, found, acts.needsOwner told needs⟩

/-- The flag is up exactly while there is an owner, there is never a second one, only the owner
takes events or deals with them, and nothing is left behind once all is quiet. -/
theorem Reachable.one_owner (reach : s.Reachable) :
    (s.core.scheduled = true ↔ ∃! place, s.Owner place) ∧
    (∀ i j, s.Owner i → s.Owner j → i = j) ∧
    (∀ action t, s.perform? action = some t → ∀ place deed, (place, deed) ∈ s.news t →
      deed.needsOwner = true → s.Owner place) ∧
    (s.Idle → s.core.queue = [] ∧ s.core.scheduled = false) := by
  refine ⟨reach.scheduled_iff, ?unique, ?alone, reach.idle⟩
  case unique =>
    intro i j first second
    exact reach.owner_unique first second
  case alone =>
    intro action t performed place deed told needs
    exact owner_of_news performed told needs

/-- A firing whose emptying was accepted and is calling a listener while another event arrives
and is pushed. -/
def overtaken : List (Action Nat) :=
  [.add 7, .fire (.lifecycle .started)] ++ moves 0 4 ++ [.act 0 .accept, .act 1 .start] ++ moves 1 4 ++
    [.fire (.lifecycle .completed)] ++ moves 2 3

theorem one_owner_overtaken : ∃ s : System Nat, run? {} overtaken = some s ∧
    s.core.queue = [.lifecycle .completed] ∧ s.core.scheduled = true ∧ ¬ s.Owner 0 ∧ s.Owner 1 ∧
    (s.core.scheduled = true ↔ ∃! place, s.Owner place) ∧
    (∀ i j, s.Owner i → s.Owner j → i = j) ∧
    (∀ action t, s.perform? action = some t → ∀ place deed, (place, deed) ∈ s.news t →
      deed.needsOwner = true → s.Owner place) ∧
    (s.Idle → s.core.queue = [] ∧ s.core.scheduled = false) := by
  refine ⟨_, rfl, rfl, rfl, ?first, ⟨_, rfl, rfl⟩, Reachable.one_owner (.run .start overtaken rfl)⟩
  simp [Owner, Strand.owns]

end System

end TransferLifecycle.Dispatch
