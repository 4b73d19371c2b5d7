import TransferLifecycle.Proofs.Dispatch.Queuing
import TransferLifecycle.Proofs.Nesting.Stack

/-! What a machine keeps in order. The program sees every call that a strand makes, events are queued in
the order in which they are fired and go through the chain in that order, one after another, and nothing
is lost, as the executor never shuts down. -/
namespace TransferLifecycle.Nesting

open Dispatch

variable {α : Type}

def calledOn (dispatcher : Nat) (observation : Observation α) : Option (α × Event) :=
  match observation.sight with
  | .called other listener event => if other = dispatcher then some (listener, event) else none
  | _ => none

def Deed.called? : Deed α → Option (α × Event)
  | .called listener event => some (listener, event)
  | _ => none

def calling : Strand α → List (α × Event)
  | .calling listener event _ => [(listener, event)]
  | _ => []

private theorem called_of_acts {d : Dispatcher α} {strand : Strand α} {act : Act} {e : Effect α}
    (acts : strand.Acts d act e) : e.deeds.filterMap Deed.called? = calling e.strand := by
  cases acts <;> rfl

private theorem refusal_of_acts {d : Dispatcher α} {strand : Strand α} {act : Act} {e : Effect α}
    (acts : strand.Acts d act e) (told : .refused .shuttingDown ∈ e.deeds) :
    act = .refuse .shuttingDown := by
  cases acts with
  | refuseStopped => rfl
  | _ => simp at told

namespace Machine

variable {m n : Machine α}

private theorem seen_after (frame : Nat × Nat) (e : Effect α) (d : Nat) :
    (m.after frame e).history.filterMap (calledOn d) =
      m.history.filterMap (calledOn d) ++ if d = frame.1 then calling e.strand else [] := by
  rw [Machine.after]
  cases e.strand with
  | calling listener event pass =>
    by_cases same : d = frame.1 <;>
      simp [notice, see, moved, push, put, calledOn, calling, same, Ne.symm]
  | _ => simp [notice, moved, push, put, calling]

private theorem undecided_none_of_bearing {frame : Nat × Nat}
    (bearing : calls (m.strand frame) = true ∨ waits (m.strand frame) = true) :
    (m.strand frame).undecided = none := by
  cases stands : m.strand frame with
  | standing point =>
    rw [stands] at bearing
    obtain calling | waiting := bearing
    · cases calling
    · cases waiting
  | _ => rfl

private theorem undecided_none_below {frames : List (Nat × Nat)} (borne : frames.IsChain m.Bears) :
    ∀ frame ∈ frames.tail, (m.strand frame).undecided = none := by
  induction frames with
  | nil => nofun
  | cons upper rest ih =>
    obtain ⟨bears, further⟩ := List.isChain_cons.mp borne
    intro frame member
    cases rest with
    | nil => cases member
    | cons lower rest =>
      obtain rfl | below := List.mem_cons.mp member
      · exact undecided_none_of_bearing ((bears frame rfl).imp_right And.left)
      · exact ih further frame below

section

variable [BEq α] {program : Program α}

private theorem Sound.undecided_top (sound : m.Sound) {frame : Nat × Nat} {event : Event}
    (undecided : (m.strand frame).undecided = some event) : ∃ rest, m.stack = frame :: rest := by
  have live : ends (m.strand frame) = false := by
    cases stands : m.strand frame with
    | ended =>
      rw [stands] at undecided
      cases undecided
    | _ => rfl
  have member := sound.found live
  cases top : m.stack with
  | nil =>
    rw [top] at member
    cases member
  | cons upper rest =>
    rw [top] at member
    obtain rfl | below := List.mem_cons.mp member
    · exact ⟨rest, rfl⟩
    · have none := undecided_none_below sound.borne frame (by rw [top]; exact below)
      rw [none] at undecided
      cases undecided

private theorem Sound.undecided_none (sound : m.Sound) (turn : m.Turn) (frame : Nat × Nat) :
    (m.strand frame).undecided = none := by
  cases undecided : (m.strand frame).undecided with
  | none => rfl
  | some event =>
    obtain ⟨rest, top⟩ := sound.undecided_top undecided
    have calling := turn frame (by rw [top]; rfl)
    rw [undecided_none_of_bearing (Or.inl calling)] at undecided
    cases undecided

structure Tidy (m : Machine α) : Prop where
  recorded : ∀ d, m.history.filterMap (calledOn d) = (m.systems d).told Deed.called?
  rising : ∀ d, (m.systems d).queuings.Pairwise (· < ·)
  latest : ∀ frame event, (m.strand frame).undecided = some event →
    frame.2 + 1 = (m.systems frame.1).strands.length
  unrefused : ∀ d, .refused .shuttingDown ∉ (m.systems d).deeds

theorem Tidy.launch (tidy : m.Tidy) (sound : m.Sound) (turn : m.Turn) (d : Nat) (event : Event) :
    (m.launch d event).Tidy := by
  refine ⟨?recorded, ?rising, ?latest, ?unrefused⟩
  case recorded =>
    intro other
    rw [Machine.launch, push, systems_put]
    split
    · next same =>
      rw [System.told_fire, ← same]
      exact (tidy.recorded other).trans (List.append_nil _).symm
    · exact tidy.recorded other
  case rising =>
    intro other
    rw [Machine.launch, push, systems_put]
    split
    · rw [System.queuings_fire]
      exact tidy.rising d
    · exact tidy.rising other
  case latest =>
    intro frame first undecided
    rw [strand_launch] at undecided
    split at undecided
    · next here =>
      subst here
      simp [Machine.launch, push, systems_put]
    · rw [sound.undecided_none turn] at undecided
      cases undecided
  case unrefused =>
    intro other
    rw [Machine.launch, push, systems_put]
    split
    · rw [System.deeds_fire]
      simpa using tidy.unrefused d
    · exact tidy.unrefused other

theorem Tidy.after (tidy : m.Tidy) (sound : m.Sound) {frame : Nat × Nat} {rest : List (Nat × Nat)}
    {act : Act} {e : Effect α} (top : m.stack = frame :: rest)
    (acted : (m.strand frame).act? (m.systems frame.1).core act = some e)
    (open_ : act ≠ .refuse .shuttingDown) : (m.after frame e).Tidy := by
  have acts := Strand.acts acted
  have found := found_of_act acted
  refine ⟨?recorded, ?rising, ?latest, ?unrefused⟩
  case recorded =>
    intro d
    rw [seen_after, systems_after]
    split
    · next here =>
      rw [System.told_effect, called_of_acts acts, here, tidy.recorded]
    · rw [List.append_nil]
      exact tidy.recorded d
  case rising =>
    intro d
    rw [systems_after]
    split
    · rw [System.queuings_effect]
      obtain none | ⟨event, undecided, told, -⟩ := pushed_of_acts acts
      · rw [none, List.map_nil, List.append_nil]
        exact tidy.rising frame.1
      · rw [told]
        refine List.pairwise_append.mpr ⟨tidy.rising frame.1, List.pairwise_singleton _ _, ?_⟩
        intro earlier member later last
        obtain rfl := List.mem_singleton.mp last
        obtain ⟨pushed, before⟩ := System.mem_queuings.mp member
        have inside := (sound.reach frame.1).place_lt before
        have latest := tidy.latest frame event undecided
        have other : earlier ≠ frame.2 := by
          rintro rfl
          exact System.not_queued (sound.reach frame.1) found undecided member
        change earlier < frame.2
        omega
    · exact tidy.rising d
  case latest =>
    intro other event undecided
    by_cases here : other = frame
    · subst here
      rw [strand_after_self found] at undecided
      obtain ⟨before, begun⟩ := undecided_of_acts acts undecided
      rw [systems_after, if_pos rfl, System.strands_effect, begun, List.append_nil, List.length_set]
      exact tidy.latest other event before
    · by_cases new : other ∈ m.fresh frame e
      · rw [strand_after_fresh acts new] at undecided
        cases undecided
      · rw [strand_after acts here new] at undecided
        obtain ⟨others, first⟩ := sound.undecided_top undecided
        rw [top] at first
        exact (here (List.cons.inj first).1.symm).elim
  case unrefused =>
    intro d
    rw [systems_after]
    split
    · rw [System.deeds_effect, List.mem_append, not_or]
      exact ⟨tidy.unrefused frame.1, fun told => open_ (refusal_of_acts acts told)⟩
    · exact tidy.unrefused d

omit [BEq α] in
/-- A step that begins nothing and at most lets the program see something else than a call. -/
theorem Tidy.of_eq (tidy : m.Tidy)
    (strands : ∀ d, (n.systems d).strands = (m.systems d).strands)
    (told : ∀ d, (n.systems d).history = (m.systems d).history)
    (seen : ∀ d, n.history.filterMap (calledOn d) = m.history.filterMap (calledOn d)) : n.Tidy := by
  refine ⟨?recorded, ?rising, ?latest, ?unrefused⟩
  case recorded =>
    intro d
    rw [seen, tidy.recorded, System.told, System.told, System.deeds, System.deeds, told]
  case rising =>
    intro d
    rw [System.queuings, told]
    exact tidy.rising d
  case latest =>
    intro frame event undecided
    rw [strand, strands] at undecided
    rw [strands]
    exact tidy.latest frame event undecided
  case unrefused =>
    intro d
    rw [System.deeds, told]
    exact tidy.unrefused d

omit [BEq α] in
theorem Tidy.change (tidy : m.Tidy) (d : Nat) (list : ListenerList α) {sight : Sight α}
    (blind : ∀ other figures, calledOn other ⟨sight, figures⟩ = none) : (m.change d list sight).Tidy := by
  refine tidy.of_eq ?_ ?_ ?_
  · intro other
    rw [Machine.change, see, systems_put]
    split
    · next here =>
      rw [here]
      rfl
    · rfl
  · intro other
    rw [Machine.change, see, systems_put]
    split
    · next here =>
      rw [here]
      rfl
    · rfl
  · intro other
    rw [Machine.change, see, List.filterMap_append, List.filterMap_cons, blind]
    exact List.append_nil _

omit [BEq α] in
theorem Tidy.back (tidy : m.Tidy) (rest : List (Nat × Nat)) : (m.back rest).Tidy := by
  refine tidy.of_eq ?_ ?_ ?_
  · intro d
    rw [systems_back]
  · intro d
    rw [systems_back]
  · intro d
    cases rest with
    | nil => simp [Machine.back, see, calledOn]
    | cons frame rest =>
      rw [Machine.back]
      split <;> simp [see, calledOn]

theorem Tidy.steps (tidy : m.Tidy) (sound : m.Sound) (steps : Steps program m n) : n.Tidy := by
  cases steps with
  | fire turn => exact tidy.launch sound turn _ _
  | add | remove => exact tidy.change _ _ fun _ _ => rfl
  | finish => exact tidy.of_eq (fun _ => rfl) (fun _ => rfl) fun _ => rfl
  | leave told top calling acted => exact tidy.after sound top acted nofun
  | back top ended => exact tidy.back _
  | @act frame rest e accepts top calling ended acted =>
    refine tidy.after sound top acted ?_
    cases stands : m.strand frame <;> cases accepts <;> exact nofun

omit [BEq α] in
theorem tidy_start : Tidy ({} : Machine α) where
  recorded _ := rfl
  rising _ := .nil
  latest _ _ undecided := nomatch undecided
  unrefused _ := List.not_mem_nil

/-- The events of a dispatcher and its listeners, as they are seen by everybody. -/
structure InOrder (s : System α) : Prop where
  /-- An event that has been queued is delivered in its turn, and none is given up. -/
  queue : s.told Deed.pushed? = s.told Deed.handed? ++ (s.inHand.map (·.2) ++ s.core.queue)
  firings : s.queuings.Pairwise (· < ·)
  /-- An event goes through the whole chain before another one enters it. -/
  passed : s.told Deed.handed? = s.told Deed.through? ++ s.inPass
  alone : s.inPass.length ≤ 1
  called : ∀ (place : Nat) listener event pass,
    s.strands[place]? = some (.calling listener event pass) → s.inPass = [event]
  through : ∀ action t, s.perform? action = some t → ∀ place event,
    (place, .through event) ∈ s.news t → (s.visit place).called = (s.visit place).entered

theorem Tidy.inOrder (tidy : m.Tidy) (sound : m.Sound) (d : Nat) : InOrder (m.systems d) where
  queue := (sound.reach d).pushed_of_kept ((sound.reach d).keeps (tidy.unrefused d)).2
  firings := tidy.rising d
  passed := (sound.reach d).flow inPass_hold
  alone := (sound.reach d).held_le_one inPass_hold
  called _ _ _ _ found := (sound.reach d).held_by_owner inPass_hold found rfl
  through _ _ performed _ _ told := (sound.reach d).through performed told

end

end Machine

end TransferLifecycle.Nesting
