import TransferLifecycle.Proofs.Dispatch.Ownership

/-! An event on its way through the chain. It visits the listeners that were there when it entered
the chain, in their order, whatever is added or removed meanwhile, and it is through when it has
visited all of them. -/
namespace TransferLifecycle.Dispatch

variable {α : Type}

/-- The listeners of a chain as an event enters it, and those that have been called for it. -/
structure Visit (α : Type) where
  entered : List α := []
  called : List α := []

def Visit.tell (visit : Visit α) : Deed α → Visit α
  | .entered listeners => { entered := listeners }
  | .called listener _ => { visit with called := visit.called ++ [listener] }
  | _ => visit

def Strand.Visits (d : Dispatcher α) (visit : Visit α) : Strand α → Prop
  | .passing _ (.visit snapshot index) | .calling _ _ (.visit snapshot index) =>
    d.chain.Held snapshot ∧ d.chain.view snapshot = visit.entered ∧
      visit.called = visit.entered.take index
  | .calling _ _ .start => False
  | _ => True

private theorem Strand.visits_of_foreign {strand : Strand α} (d : Dispatcher α) (visit : Visit α)
    (foreign : strand.owns = false) : strand.Visits d visit := by
  cases strand <;> trivial

theorem Strand.Visits.keep {d later : Dispatcher α} {visit : Visit α} {strand : Strand α}
    (visits : strand.Visits d visit) (keeps : d.chain.Keeps later.chain) :
    strand.Visits later visit := by
  cases strand with
  | passing event pass => cases pass with
    | start => trivial
    | visit snapshot index =>
      obtain ⟨held, shown, called⟩ := visits
      obtain ⟨still, same⟩ := keeps snapshot held
      exact ⟨still, same.trans shown, called⟩
  | calling listener event pass => cases pass with
    | start => exact visits
    | visit snapshot index =>
      obtain ⟨held, shown, called⟩ := visits
      obtain ⟨still, same⟩ := keeps snapshot held
      exact ⟨still, same.trans shown, called⟩
  | _ => trivial

variable {d : Dispatcher α} {strand : Strand α} {act : Act} {e : Effect α}

theorem Strand.Acts.chain (acts : strand.Acts d act e) (foreign : strand.owns = false) :
    e.core.chain = d.chain := by
  cases acts <;> first | rfl | cases foreign

theorem Strand.Acts.visits (acts : strand.Acts d act e) {visit : Visit α}
    (visits : strand.Visits d visit) : e.strand.Visits e.core (e.deeds.foldl Visit.tell visit) := by
  cases acts with
  | beginPass => exact ⟨List.mem_cons_self, rfl, rfl⟩
  | @call event snapshot index listener present =>
    obtain ⟨held, shown, called⟩ := visits
    refine ⟨held, shown, ?_⟩
    rw [shown] at present
    simp [Visit.tell, called, List.take_add_one, present]
  | @finishCall listener event pass panicked => cases pass with
    | start => trivial
    | visit snapshot index => exact visits
  | _ => trivial

theorem Strand.Acts.through (acts : strand.Acts d act e) {visit : Visit α}
    (visits : strand.Visits d visit) {event : Event} (told : .through event ∈ e.deeds) :
    visit.called = visit.entered := by
  cases acts with
  | @endPass event snapshot index absent =>
    obtain ⟨held, shown, called⟩ := visits
    rw [called, ← shown]
    exact List.take_of_length_le (List.getElem?_eq_none_iff.mp absent)
  | _ => simp at told

namespace System

def visit (s : System α) (place : Nat) : Visit α := (s.deedsOf place).foldl Visit.tell {}

theorem Reachable.visits [BEq α] {s : System α} (reach : s.Reachable) {place : Nat} {strand : Strand α}
    (found : s.strands[place]? = some strand) : strand.Visits s.core (s.visit place) := by
  refine reach.invariant (fun s => ∀ place strand, s.strands[place]? = some strand →
    strand.Visits s.core (s.visit place)) ?start ?fire ?change ?act place strand found
  case start =>
    intro place strand found
    cases found
  case fire =>
    intro s event _ ih place strand found
    obtain old | ⟨-, rfl⟩ := found_fire found
    · have inside := (List.getElem?_eq_some_iff.mp old).1
      simpa [visit, Nat.ne_of_gt inside] using ih place strand old
    · trivial
  case change =>
    intro s list keeps ih place strand found
    exact (ih place strand found).keep keeps
  case act =>
    intro s acting strand act e reach ih here acts place other found
    obtain ⟨rfl, rfl⟩ | ⟨elsewhere, old⟩ | ⟨-, begun⟩ := found_effect here found
    · simpa [visit] using acts.visits (ih acting strand here)
    · -- If the acting strand owns the queue, no other is on a visit; if not, the chain stays.
      cases owns : strand.owns with
      | true =>
        refine Strand.visits_of_foreign _ _ (Bool.eq_false_iff.mpr fun both => elsewhere ?_)
        exact reach.owner_unique ⟨strand, here, owns⟩ ⟨other, old, both⟩
      | false =>
        have kept : s.core.chain.Keeps e.core.chain := by
          intro snapshot held
          rw [acts.chain owns]
          exact ⟨held, rfl⟩
        simpa [visit, elsewhere] using (ih place other old).keep kept
    · rw [acts.queued_of_begun begun]
      trivial

theorem Reachable.through [BEq α] {s t : System α} (reach : s.Reachable) {action : Action α}
    (performed : s.perform? action = some t) {place : Nat} {event : Event}
    (told : (place, .through event) ∈ s.news t) : (s.visit place).called = (s.visit place).entered := by
  obtain ⟨_, same⟩ | ⟨strand, act, e, found, acts, told⟩ := acts_of_news performed told
  · cases same
  · exact acts.through (reach.visits found) told

end System

end TransferLifecycle.Dispatch
