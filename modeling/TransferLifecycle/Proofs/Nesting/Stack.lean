import Mathlib.Data.List.Chain
import TransferLifecycle.Proofs.Nesting.Machine

/-! The stack of a machine. It holds the strands under way, each once; every strand outside it has ended,
so that nothing is left in any queue when it is empty. Below its top stand listeners being called and
firings whose emptyings stand right above them. -/
namespace TransferLifecycle.Nesting

open Dispatch

variable {α : Type}

private theorem begun_cases {d : Dispatcher α} {strand : Strand α} {act : Act} {e : Effect α}
    (acts : strand.Acts d act e) : e.begun = [] ∨ e.begun = [.queued] ∧ e.strand = .accepted := by
  cases acts with
  | accept => exact Or.inr ⟨rfl, rfl⟩
  | _ => exact Or.inl rfl

namespace Machine

variable {m n : Machine α} {frame : Nat × Nat} {act : Act} {e : Effect α}

theorem systems_after (other : Nat) : (m.after frame e).systems other =
    if other = frame.1 then (m.systems frame.1).effect frame.2 e else m.systems other := by
  rw [after, systems_notice]
  rfl

theorem stack_after : (m.after frame e).stack = m.fresh frame e ++ m.stack := by
  rw [after, stack_notice]
  rfl

theorem strand_after_self (found : (m.systems frame.1).strands[frame.2]? = some (m.strand frame)) :
    (m.after frame e).strand frame = e.strand := by
  have inside := (List.getElem?_eq_some_iff.mp found).1
  rw [strand, systems_after, if_pos rfl, System.strands_effect,
    List.getElem?_append_left (by rwa [List.length_set]), List.getElem?_set_self inside]
  rfl

theorem strand_after_fresh {other : Nat × Nat}
    (acts : (m.strand frame).Acts (m.systems frame.1).core act e) (new : other ∈ m.fresh frame e) :
    (m.after frame e).strand other = .queued := by
  obtain none | ⟨begun, -⟩ := begun_cases acts
  · rw [fresh, none] at new
    cases new
  · rw [fresh, begun, List.map_singleton, List.mem_singleton] at new
    subst new
    rw [strand, systems_after, if_pos rfl, System.strands_effect, begun]
    simp

theorem strand_after {other : Nat × Nat}
    (acts : (m.strand frame).Acts (m.systems frame.1).core act e) (elsewhere : other ≠ frame)
    (old : other ∉ m.fresh frame e) : (m.after frame e).strand other = m.strand other := by
  by_cases same : other.1 = frame.1
  · have place : frame.2 ≠ other.2 := fun equal => elsewhere (Prod.ext same equal.symm)
    rw [strand, strand, systems_after, if_pos same, System.strands_effect, ← same,
      List.getElem?_append, List.length_set, List.getElem?_set_ne place]
    split
    case isTrue => rfl
    case isFalse outside =>
      have none : (m.systems other.1).strands[other.2]? = none :=
        List.getElem?_eq_none_iff.mpr (Nat.le_of_not_lt outside)
      rw [none]
      obtain nothing | ⟨begun, -⟩ := begun_cases acts
      · rw [nothing]
        rfl
      · have beyond : other.2 ≠ (m.systems other.1).strands.length := by
          intro last
          apply old
          rw [fresh, begun, List.map_singleton, List.mem_singleton]
          exact Prod.ext same (by rw [last, same])
        rw [begun, List.getElem?_eq_none_iff.mpr]
        rw [List.length_singleton]
        omega
  · rw [strand, systems_after, if_neg same]
    rfl

def Bears (m : Machine α) (upper lower : Nat × Nat) : Prop :=
  calls (m.strand lower) = true ∨ waits (m.strand lower) = true ∧ upper.1 = lower.1

structure Sound [BEq α] (m : Machine α) : Prop where
  reach : ∀ d, (m.systems d).Reachable
  once : m.stack.Nodup
  inside : ∀ frame ∈ m.stack, frame.2 < (m.systems frame.1).strands.length
  ended : ∀ frame, frame ∉ m.stack → m.strand frame = .ended
  borne : m.stack.IsChain m.Bears

section

variable [BEq α] {program : Program α} {accepts : Nat → Bool}

theorem Sound.found (sound : m.Sound) (live : ends (m.strand frame) = false) : frame ∈ m.stack := by
  refine Classical.byContradiction fun outside => ?_
  rw [sound.ended frame outside] at live
  cases live

omit [BEq α] in
theorem found_of_act (acted : (m.strand frame).act? (m.systems frame.1).core act = some e) :
    (m.systems frame.1).strands[frame.2]? = some (m.strand frame) := by
  apply found_of_strand
  cases ended : ends (m.strand frame) with
  | false => rfl
  | true =>
    rw [eq_ended ended] at acted
    cases acted

private theorem Sound.not_fresh (sound : m.Sound) {other : Nat × Nat} (old : other ∈ m.stack) :
    other ∉ m.fresh frame e := by
  intro began
  have inside := sound.inside other old
  obtain ⟨-, -, rfl⟩ := List.mem_map.mp began
  exact Nat.lt_irrefl _ inside

theorem Sound.strand_below (sound : m.Sound) {rest : List (Nat × Nat)} (top : m.stack = frame :: rest)
    (acts : (m.strand frame).Acts (m.systems frame.1).core act e) {lower : Nat × Nat}
    (below : lower ∈ rest) : (m.after frame e).strand lower = m.strand lower := by
  have once := sound.once
  rw [top] at once
  have elsewhere : lower ≠ frame := fun same => (List.nodup_cons.mp once).1 (same ▸ below)
  have old : lower ∈ m.stack := by rw [top]; exact List.mem_cons_of_mem _ below
  exact strand_after acts elsewhere (sound.not_fresh old)

theorem Sound.launch (sound : m.Sound) (turn : m.Turn) (d : Nat) (event : Event) :
    (m.launch d event).Sound := by
  have new : (d, (m.systems d).strands.length) ∉ m.stack := by
    intro member
    exact Nat.lt_irrefl _ (sound.inside _ member)
  refine ⟨?reach, List.nodup_cons.mpr ⟨new, sound.once⟩, ?inside, ?ended, ?borne⟩
  case reach =>
    intro other
    rw [Machine.launch, push, systems_put]
    split
    · exact .next (.fire event) (sound.reach d) rfl
    · exact sound.reach other
  case inside =>
    intro frame member
    rw [Machine.launch, push, systems_put]
    obtain rfl | old := List.mem_cons.mp member
    · simp
    · have inside := sound.inside frame old
      split
      · next same =>
        rw [same] at inside
        rw [System.strands_fire, List.length_append]
        exact Nat.lt_add_right _ inside
      · exact inside
  case ended =>
    intro frame outside
    obtain ⟨other, old⟩ := not_or.mp (List.mem_cons.not.mp outside)
    rw [strand_launch, if_neg other]
    exact sound.ended frame old
  case borne =>
    have kept : m.stack.IsChain (m.launch d event).Bears := by
      refine sound.borne.imp_of_mem_imp fun upper lower _ member bears => ?_
      have other : lower ≠ (d, (m.systems d).strands.length) := fun same => new (same ▸ member)
      rw [Bears, strand_launch, if_neg other]
      exact bears
    refine List.isChain_cons.mpr ⟨?_, kept⟩
    intro lower top
    have member := List.mem_of_mem_head? top
    have other : lower ≠ (d, (m.systems d).strands.length) := fun same => new (same ▸ member)
    rw [Bears, strand_launch, if_neg other]
    exact Or.inl (turn lower top)

theorem Sound.change (sound : m.Sound) {d : Nat} {list : ListenerList α}
    (reach : ((m.systems d).change list).Reachable) (sight : Sight α) :
    (m.change d list sight).Sound := by
  have strands (other : Nat) :
      ((m.change d list sight).systems other).strands = (m.systems other).strands := by
    rw [Machine.change, see, systems_put]
    split
    · next same =>
      rw [same]
      rfl
    · rfl
  have same (frame : Nat × Nat) : (m.change d list sight).strand frame = m.strand frame := by
    rw [strand, strands]
    rfl
  refine ⟨?reach, sound.once, ?inside, ?ended, ?borne⟩
  case reach =>
    intro other
    rw [Machine.change, see, systems_put]
    split
    · exact reach
    · exact sound.reach other
  case inside =>
    intro frame member
    rw [strands]
    exact sound.inside frame member
  case ended =>
    intro frame outside
    rw [same]
    exact sound.ended frame outside
  case borne =>
    refine sound.borne.imp fun upper lower bears => ?_
    rw [Bears, same]
    exact bears

theorem Sound.after (sound : m.Sound) {rest : List (Nat × Nat)} (top : m.stack = frame :: rest)
    (acted : (m.strand frame).act? (m.systems frame.1).core act = some e) : (m.after frame e).Sound := by
  have acts := Strand.acts acted
  have member : frame ∈ m.stack := by rw [top]; exact List.mem_cons_self
  have found := found_of_act acted
  refine ⟨?reach, ?once, ?inside, ?ended, ?borne⟩
  case reach =>
    intro other
    rw [systems_after]
    split
    · refine .next (.act frame.2 act) (sound.reach frame.1) ?_
      simp [System.perform?, found, acted]
    · exact sound.reach other
  case once =>
    rw [stack_after]
    refine List.nodup_append.mpr ⟨?_, sound.once, ?_⟩
    · obtain none | ⟨begun, -⟩ := begun_cases acts
      · rw [fresh, none]
        exact .nil
      · rw [fresh, begun]
        exact List.pairwise_singleton _ _
    · rintro other began _ old rfl
      exact sound.not_fresh old began
  case inside =>
    intro other present
    rw [stack_after] at present
    rw [systems_after]
    obtain began | old := List.mem_append.mp present
    · obtain ⟨strand, first, rfl⟩ := List.mem_map.mp began
      have some : 0 < e.begun.length := List.length_pos_of_mem first
      rw [if_pos rfl, System.strands_effect, List.length_append, List.length_set]
      exact Nat.lt_add_of_pos_right some
    · have inside := sound.inside other old
      split
      · next same =>
        rw [same] at inside
        rw [System.strands_effect, List.length_append, List.length_set]
        exact Nat.lt_add_right _ inside
      · exact inside
  case ended =>
    intro other outside
    rw [stack_after] at outside
    obtain ⟨began, old⟩ := not_or.mp (List.mem_append.not.mp outside)
    have elsewhere : other ≠ frame := fun same => old (same ▸ member)
    rw [strand_after acts elsewhere began]
    exact sound.ended other old
  case borne =>
    -- Only the top strand has moved, and nothing is borne by the strands above it.
    have kept : m.stack.IsChain (m.after frame e).Bears := by
      refine sound.borne.imp_of_mem_tail_imp fun upper lower _ below bears => ?_
      rw [top] at below
      rw [Bears, sound.strand_below top acts below]
      exact bears
    rw [stack_after]
    obtain none | ⟨begun, accepted⟩ := begun_cases acts
    · rw [fresh, none]
      exact kept
    · rw [fresh, begun]
      refine List.isChain_cons.mpr ⟨?_, kept⟩
      intro lower here
      rw [top] at here
      obtain rfl := Option.some.inj here
      refine Or.inr ⟨?_, rfl⟩
      rw [strand_after_self found, accepted]
      rfl

theorem Sound.back (sound : m.Sound) {rest : List (Nat × Nat)} (top : m.stack = frame :: rest)
    (ended : m.strand frame = .ended) : (m.back rest).Sound := by
  have same (other : Nat × Nat) : (m.back rest).strand other = m.strand other := by
    rw [strand, systems_back]
    rfl
  have once := sound.once
  have borne := sound.borne
  rw [top] at once borne
  refine ⟨?reach, ?once, ?inside, ?ended, ?borne⟩
  case reach =>
    rw [systems_back]
    exact sound.reach
  case once =>
    rw [stack_back]
    exact (List.nodup_cons.mp once).2
  case inside =>
    intro other member
    rw [stack_back] at member
    rw [systems_back]
    exact sound.inside other (by rw [top]; exact List.mem_cons_of_mem _ member)
  case ended =>
    intro other outside
    rw [stack_back] at outside
    rw [same]
    by_cases here : other = frame
    · rw [here]
      exact ended
    · refine sound.ended other ?_
      rw [top]
      exact List.not_mem_cons_of_ne_of_not_mem here outside
  case borne =>
    rw [stack_back]
    refine borne.tail.imp fun upper lower bears => ?_
    rw [Bears, same]
    exact bears

theorem Sound.steps (sound : m.Sound) (steps : Steps program m n) : n.Sound := by
  cases steps with
  | fire turn => exact sound.launch turn _ _
  | @add d listener turn => exact sound.change (.next (.add listener) (sound.reach d) rfl) _
  | @remove d listener turn => exact sound.change (.next (.remove listener) (sound.reach d) rfl) _
  | finish => exact ⟨sound.reach, sound.once, sound.inside, sound.ended, sound.borne⟩
  | leave told top calling acted => exact sound.after top acted
  | back top ended => exact sound.back top ended
  | act accepts top calling ended acted => exact sound.after top acted

theorem sound_start : Sound ({} : Machine α) where
  reach _ := .start
  once := .nil
  inside := nofun
  ended _ _ := rfl
  borne := .nil

theorem Sound.queue_nil (sound : m.Sound) (quiet : m.stack = []) (d : Nat) :
    (m.systems d).core.queue = [] := by
  refine ((sound.reach d).idle ?_).1
  intro strand member
  obtain ⟨place, found⟩ := List.mem_iff_getElem?.mp member
  have ended := sound.ended (d, place) (by rw [quiet]; exact List.not_mem_nil)
  rw [Machine.strand, found] at ended
  exact ended

end

end Machine

end TransferLifecycle.Nesting
