import TransferLifecycle.Proofs.Announcing.Order
import TransferLifecycle.Proofs.Dispatch.Queuing

/-! What becomes of the events that moves fire. A move keeps the turn while the dispatcher decides on its
event, and the next move cannot fire before that, so that the events come into the queue in the order of
the moves. -/
namespace TransferLifecycle.Announcing

open Transition (Deed)

variable {α β γ : Type}

private theorem related_of_mem {R : γ → γ → Prop} {list : List γ} (pairwise : list.Pairwise R) {x y : γ}
    (first : x ∈ list) (second : y ∈ list) : x = y ∨ R x y ∨ R y x := by
  induction pairwise with
  | nil => cases first
  | cons head _ ih =>
    obtain atHead | inRest := List.mem_cons.mp first <;>
      obtain alsoAtHead | alsoInRest := List.mem_cons.mp second
    · exact Or.inl (atHead.trans alsoAtHead.symm)
    · exact Or.inr (Or.inl (atHead ▸ head y alsoInRest))
    · exact Or.inr (Or.inr (alsoAtHead ▸ head x inRest))
    · exact ih inRest alsoInRest

namespace System

/-- The announcements as the dispatcher has them. -/
structure Heralded (s : System α β) : Prop where
  known : ∀ a ∈ s.announced, a.firing < s.dispatch.strands.length
  begun : ∀ a ∈ s.announced, ∀ kind, a.state.entryEvent = some kind →
    .begun (.lifecycle kind) ∈ s.dispatch.deedsOf a.firing
  rising : s.announced.Pairwise fun earlier later =>
    earlier.firing < later.firing ∧ s.dispatch.Decided earlier.firing
  /-- The move has the turn for as long as its firing is not decided. -/
  waiting : ∀ a ∈ s.announced, s.dispatch.Decided a.firing ∨
    ∃ kind, s.transition.strands[a.request]? = some (.firing kind .fired)
  queued : (s.dispatch.queuings.filter fun place =>
    decide (place ∈ s.announced.map (·.firing))).Pairwise (· < ·)

variable {s : System α β}

private theorem decided_of_admitted {place : Nat} {kind : EventKind} {point : Transition.Point}
    {panicked : Bool} (admitted : s.admits place (.firing kind point) (.finish panicked) = true)
    {a : Announcement} (member : a ∈ s.announced) (here : a.request = place) :
    s.dispatch.Decided a.firing := by
  have back := List.all_eq_true.mp admitted a member
  intro strand found
  simp [here, found] at back
  cases strand with
  | ended | offering | accepted => rfl
  | _ => cases back

theorem Heralded.of_eq {t : System α β} (heralded : s.Heralded) (dispatch : t.dispatch = s.dispatch)
    (announced : t.announced = s.announced)
    (waiting : ∀ a ∈ s.announced, s.dispatch.Decided a.firing ∨
      ∃ kind, t.transition.strands[a.request]? = some (.firing kind .fired)) : t.Heralded := by
  obtain ⟨known, begun, rising, -, queued⟩ := heralded
  rw [← dispatch, ← announced] at known begun rising waiting queued
  exact ⟨known, begun, rising, waiting, queued⟩

variable [BEq α]

private theorem Heralded.decided_of_entered (heralded : s.Heralded) (reach : s.transition.Reachable)
    {place : Nat} {state : State}
    (found : s.transition.strands[place]? = some (.standing (.entered state))) :
    ∀ a ∈ s.announced, s.dispatch.Decided a.firing := by
  intro a member
  refine (heralded.waiting a member).resolve_right ?_
  rintro ⟨kind, firing⟩
  obtain rfl := reach.inside_unique found firing rfl rfl
  cases found.symm.trans firing

variable [BEq β]

omit [BEq α] in
theorem Heralded.dispatch (heralded : s.Heralded) (reach : s.dispatch.Reachable)
    {action : Dispatch.Action β} {later : Dispatch.System β}
    (performed : s.dispatch.perform? action = some later) :
    ({ s with dispatch := later } : System α β).Heralded := by
  obtain ⟨known, begun, rising, waiting, queued⟩ := heralded
  have decided (a : Announcement) (member : a ∈ s.announced) (now : s.dispatch.Decided a.firing) :
      later.Decided a.firing :=
    Dispatch.System.decided_next performed (known a member) now
  refine ⟨?known, ?begun, ?rising, ?waiting, ?queued⟩
  case known =>
    intro a member
    exact Nat.lt_of_lt_of_le (known a member) (Dispatch.System.length_le_next performed)
  case begun =>
    intro a member kind event
    exact Dispatch.System.mem_deedsOf_next performed (begun a member kind event)
  case rising =>
    refine List.Pairwise.imp_of_mem ?_ rising
    rintro earlier _ member - ⟨less, now⟩
    exact ⟨less, decided earlier member now⟩
  case waiting =>
    intro a member
    exact (waiting a member).imp_left (decided a member)
  case queued =>
    cases action with
    | fire event =>
      cases Option.some.inj performed
      rw [show (s.dispatch.fire event).queuings = _ from Dispatch.System.queuings_fire _ _]
      exact queued
    | add | remove =>
      cases Option.some.inj performed
      exact queued
    | act place act =>
      obtain ⟨strand, e, found, acts, rfl⟩ := Dispatch.System.acts_of_perform performed
      change ((s.dispatch.effect place e).queuings.filter _).Pairwise _
      rw [Dispatch.System.queuings_effect]
      obtain none | ⟨event, undecided, told, -⟩ := Dispatch.pushed_of_acts acts
      · rw [none, List.map_nil, List.append_nil]
        exact queued
      rw [told, List.filter_append]
      refine List.pairwise_append.mpr ⟨queued, (List.pairwise_singleton _ _).sublist
        List.filter_sublist, ?_⟩
      intro before earlier now latest
      obtain ⟨already, listed⟩ := List.mem_filter.mp earlier
      obtain ⟨only, also_listed⟩ := List.mem_filter.mp latest
      cases List.mem_singleton.mp only
      obtain ⟨a, member, rfl⟩ := List.mem_map.mp (of_decide_eq_true listed)
      obtain ⟨b, also_member, same⟩ := List.mem_map.mp (of_decide_eq_true also_listed)
      change b.firing = place at same
      subst same
      -- The firing that queues its event now is the latest, for all before it are decided.
      obtain rfl | ⟨less, -⟩ | ⟨-, decided⟩ := related_of_mem rising member also_member
      · exact (Dispatch.System.not_queued reach found undecided already).elim
      · exact less
      · rw [decided strand found] at undecided
        cases undecided

theorem Heralded.announce (heralded : s.Heralded) (reach : s.Reachable) {place : Nat} {state : State}
    {kind : EventKind} (event : state.entryEvent = some kind)
    (found : s.transition.strands[place]? = some (.standing (.entered state))) :
    (s.effect place (.standing (.entered state))
      { core := s.transition.core, strand := .firing kind .fired, deeds := [.fired kind] }).Heralded := by
  have decided := heralded.decided_of_entered reach.components.1 found
  have fires : s.dispatch.perform? (.fire (.lifecycle kind)) = some (s.dispatch.fire (.lifecycle kind)) :=
    rfl
  obtain ⟨known, begun, rising, -, queued⟩ := heralded.dispatch reach.components.2 fires
  have later (a : Announcement) (member : a ∈ s.announced) :
      (s.dispatch.fire (.lifecycle kind)).Decided a.firing :=
    Dispatch.System.decided_next fires (heralded.known a member) (decided a member)
  have announced : (s.effect place (.standing (.entered state))
      { core := s.transition.core, strand := .firing kind .fired, deeds := [.fired kind] }).announced =
      s.announced ++ [⟨place, state, s.dispatch.strands.length⟩] := rfl
  refine ⟨?known, ?begun, ?rising, ?waiting, ?queued⟩
  case known =>
    intro a member
    rw [announced] at member
    obtain old | now := List.mem_append.mp member
    · exact known a old
    · rw [List.mem_singleton.mp now]
      simp [effect, announces]
  case begun =>
    intro a member other same
    rw [announced] at member
    obtain old | now := List.mem_append.mp member
    · exact begun a old other same
    · rw [List.mem_singleton.mp now] at same ⊢
      obtain rfl := Option.some.inj (event.symm.trans same)
      simp [effect, announces]
  case rising =>
    rw [announced]
    refine List.pairwise_append.mpr ⟨rising, List.pairwise_singleton _ _, ?_⟩
    intro earlier member _ now
    rw [List.mem_singleton.mp now]
    exact ⟨heralded.known earlier member, later earlier member⟩
  case waiting =>
    intro a member
    rw [announced] at member
    obtain old | now := List.mem_append.mp member
    · exact Or.inl (later a old)
    · rw [List.mem_singleton.mp now]
      have bound := (List.getElem?_eq_some_iff.mp found).1
      exact Or.inr ⟨kind, List.getElem?_set_self bound⟩
  case queued =>
    rw [announced]
    have same : (s.dispatch.fire (.lifecycle kind)).queuings.filter (fun firing =>
        decide (firing ∈ (s.announced ++ [Announcement.mk place state s.dispatch.strands.length]).map
          (·.firing))) =
        (s.dispatch.fire (.lifecycle kind)).queuings.filter fun firing =>
          decide (firing ∈ s.announced.map (·.firing)) := by
      refine List.filter_congr ?_
      intro other member
      rw [Dispatch.System.queuings_fire] at member
      obtain ⟨_, told⟩ := Dispatch.System.mem_queuings.mp member
      have bound := reach.components.2.place_lt told
      simp [Nat.ne_of_lt bound]
    exact same ▸ queued

theorem Reachable.heralded (reach : s.Reachable) : s.Heralded := by
  refine reach.invariant Heralded ?start ?request ?change ?act ?dispatch
  case start =>
    intro description
    have none (a : Announcement) : a ∉ (new description : System α β).announced := List.not_mem_nil
    exact ⟨fun a member => (none a member).elim, fun a member => (none a member).elim, .nil,
      fun a member => (none a member).elim, .nil⟩
  case request =>
    intro s goal _ ih
    refine ih.of_eq rfl rfl ?_
    intro a member
    refine (ih.waiting a member).imp_right ?_
    rintro ⟨kind, firing⟩
    have bound := (List.getElem?_eq_some_iff.mp firing).1
    exact ⟨kind, (List.getElem?_append_left bound).trans firing⟩
  case change =>
    intro s list _ ih
    exact ih.of_eq rfl rfl ih.waiting
  case dispatch =>
    intro s action later reach ih performed
    exact ih.dispatch reach.components.2 performed
  case act =>
    intro s place strand act e reach ih found acts admitted
    obtain ⟨nothing, -⟩ | ⟨state, kind, event, rfl, rfl⟩ := announces_of_acts acts
    · refine ih.of_eq (by simp [effect, nothing]) (by simp [effect, nothing]) ?_
      intro a member
      obtain decided | ⟨kind, firing⟩ := ih.waiting a member
      · exact Or.inl decided
      by_cases here : place = a.request
      · subst here
        cases Option.some.inj (found.symm.trans firing)
        -- The firing of the request is back, so it has been decided.
        cases acts with
        | fired | misfired => exact Or.inl (decided_of_admitted admitted member rfl)
      · exact Or.inr ⟨kind, (List.getElem?_set_ne here).trans firing⟩
    · exact ih.announce reach event found

end System

end TransferLifecycle.Announcing
