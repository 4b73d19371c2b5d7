import TransferLifecycle.Proofs.Dispatch.Weighing

/-! What one listener hears. A listener that is registered once, before any event of weight is fired,
and that stays, is met once by each event of weight that goes through the chain, whoever else comes
and goes. What it has heard is all that was handed to the chain, but for what is on its way to it. -/
namespace TransferLifecycle.Dispatch

open Pool (tally tally_nil tally_cons tally_append tally_eq_zero le_tally)

variable {α β : Type}

/-- One entry changes, and with it how entries are weighed, but not for the others. -/
theorem tally_set_of_eq {f g : β → Nat} {list : List β} {place : Nat} {old : β}
    (found : list[place]? = some old) (new : β)
    (same : ∀ other x, other ≠ place → list[other]? = some x → g x = f x) :
    tally g (list.set place new) + f old = tally f list + g new := by
  induction list generalizing place with
  | nil => cases found
  | cons head rest ih =>
    cases place with
    | zero =>
      cases Option.some.inj found
      have others : tally g rest = tally f rest := by
        apply tally_congr
        intro x member
        obtain ⟨other, there⟩ := List.mem_iff_getElem?.mp member
        exact same (other + 1) x (Nat.succ_ne_zero _) there
      rw [List.set_cons_zero, tally_cons, tally_cons, others]
      omega
    | succ place =>
      have head_same : g head = f head := same 0 head (Nat.succ_ne_zero _).symm rfl
      have rest_same := ih found fun other x apart there =>
        same (other + 1) x (fun equal => apart (Nat.succ.inj equal)) there
      rw [List.set_cons_succ, tally_cons, tally_cons, head_same]
      omega

private theorem contains_drop_of_once [BEq α] [LawfulBEq α] {list : List α} {listener next : α} {index : Nat}
    (once : list.count listener = 1) (present : list[index]? = some next) (x : Nat) :
    (if (list.drop index).contains listener then x else 0) =
      (if next == listener then x else 0) + if (list.drop (index + 1)).contains listener then x else 0 := by
  obtain ⟨inside, rfl⟩ := List.getElem?_eq_some_iff.mp present
  have split : list.drop index = list[index] :: list.drop (index + 1) := List.drop_eq_getElem_cons inside
  have few : (list.drop index).count listener ≤ 1 := once ▸ (List.drop_sublist _ _).count_le listener
  rw [split] at few ⊢
  generalize list.drop (index + 1) = rest at few ⊢
  by_cases same : list[index] = listener
  · rw [same, List.count_cons_self] at few
    have gone : listener ∉ rest := List.count_eq_zero.mp (by omega)
    simp [same, gone]
  · simp [same, Ne.symm same]

variable [BEq α]

def Deed.heard? (listener : α) : Deed α → Option Event
  | .called other event => if other == listener then some event else none
  | _ => none

/-- The weight of an event that has entered the chain and has not come to the listener. -/
def Strand.owed (weight : Event → Nat) (listener : α) (chain : ListenerList α) : Strand α → Nat
  | .passing event .start | .calling _ event .start => weight event
  | .passing event (.visit snapshot index) | .calling _ event (.visit snapshot index) =>
    if ((chain.view snapshot).drop index).contains listener then weight event else 0
  | _ => 0

def Strand.Meets (weight : Event → Nat) (listener : α) (chain : ListenerList α) : Strand α → Prop
  | .passing event (.visit snapshot _) | .calling _ event (.visit snapshot _) =>
    weight event = 0 ∨ (chain.view snapshot).count listener = 1
  | _ => True

variable {weight : Event → Nat} {listener : α} {chain later : ListenerList α} {strand : Strand α}

private theorem Strand.owed_le : strand.owed weight listener chain ≤ tally weight strand.inPass := by
  cases strand with
  | passing event pass | calling _ event pass =>
    cases pass with
    | start => exact Nat.le_refl _
    | visit snapshot index =>
      simp only [owed]
      split
      · exact Nat.le_refl _
      · exact Nat.zero_le _
  | _ => exact Nat.le_refl _

private theorem Strand.meets_of_light (light : tally weight strand.inPass = 0) :
    strand.Meets weight listener chain := by
  unfold Meets
  split
  · exact Or.inl (Nat.eq_zero_of_add_eq_zero_right light)
  · exact Or.inl (Nat.eq_zero_of_add_eq_zero_right light)
  · trivial

private theorem Strand.owed_of_foreign (foreign : strand.owns = false) :
    strand.owed weight listener chain = 0 := by
  cases strand <;> first | rfl | cases foreign

private theorem Strand.meets_of_foreign (foreign : strand.owns = false) :
    strand.Meets weight listener chain := by
  cases strand <;> trivial

/-- What becomes of the chain meanwhile does not concern an event on its way through it. -/
theorem Strand.Visits.undisturbed {d : Dispatcher α} {visit : Visit α} (visits : strand.Visits d visit)
    (keeps : d.chain.Keeps later) (weight : Event → Nat) (listener : α) :
    strand.owed weight listener later = strand.owed weight listener d.chain ∧
      (strand.Meets weight listener later ↔ strand.Meets weight listener d.chain) := by
  cases strand with
  | passing event pass => cases pass with
    | start => exact ⟨rfl, Iff.rfl⟩
    | visit snapshot index =>
      have same := (keeps snapshot visits.1).2
      simp only [owed, Meets, same, true_and]
  | calling other event pass => cases pass with
    | start => exact ⟨rfl, Iff.rfl⟩
    | visit snapshot index =>
      have same := (keeps snapshot visits.1).2
      simp only [owed, Meets, same, true_and]
  | _ => exact ⟨rfl, Iff.rfl⟩

namespace Strand.Acts

variable {d : Dispatcher α} {act : Act} {e : Effect α}

omit [BEq α] in
theorem toList (acts : strand.Acts d act e) : e.core.chain.toList = d.chain.toList := by
  cases acts <;> rfl

private theorem meets (acts : strand.Acts d act e) (once : d.chain.toList.count listener = 1)
    (meets : strand.Meets weight listener d.chain) :
    e.strand.Meets weight listener e.core.chain := by
  cases acts with
  | beginPass => exact Or.inr once
  | @call event snapshot index other present => exact meets
  | @finishCall other event pass panicked => cases pass <;> exact meets
  | _ => trivial

theorem owed [LawfulBEq α] (acts : strand.Acts d act e) (once : d.chain.toList.count listener = 1)
    (meets : strand.Meets weight listener d.chain) :
    tally weight (e.deeds.filterMap Deed.handed?) + strand.owed weight listener d.chain =
      tally weight (e.deeds.filterMap (Deed.heard? listener)) +
        e.strand.owed weight listener e.core.chain := by
  cases acts with
  | @beginPass event =>
    have present : listener ∈ d.chain.toList := List.count_pos_iff.mp (by omega)
    simp [Strand.owed, Deed.handed?, Deed.heard?, List.filterMap_cons, present]
  | @call event snapshot index other present =>
    have told : tally weight ([Deed.called other event].filterMap (Deed.heard? listener)) =
        if other == listener then weight event else 0 := by
      by_cases same : other == listener <;> simp [Deed.heard?, same]
    rw [told]
    obtain light | once := meets
    · simp [Strand.owed, Deed.handed?, List.filterMap_cons, light]
    · exact (Nat.zero_add _).trans (contains_drop_of_once once present (weight event))
  | @finishCall other event pass panicked =>
    cases pass <;> rfl
  | @endPass event snapshot index absent =>
    have beyond : (d.chain.view snapshot).drop index = [] :=
      List.drop_eq_nil_of_le (List.getElem?_eq_none_iff.mp absent)
    simp [Strand.owed, Deed.handed?, Deed.heard?, List.filterMap_cons, beyond]
  | _ => simp [Strand.owed, Deed.handed?, Deed.heard?, List.filterMap_cons]

omit [BEq α] in
theorem heeds (acts : strand.Acts d act e) (present : listener ∈ d.chain.toList) :
    ∀ deed ∈ e.deeds, deed ≠ .skipped ∧ ∀ event, deed ≠ .begun event := by
  cases acts with
  | skip empty =>
    rw [List.isEmpty_iff.mp empty] at present
    cases present
  | _ => simp

end Strand.Acts

def Action.Spares (listener : α) : Action α → Prop
  | .add other | .remove other => other ≠ listener
  | .fire _ | .act _ _ => True

namespace System

/-- The listener was registered when nothing of weight had been fired, and has been left alone since. -/
inductive Serving (weight : Event → Nat) (listener : α) : System α → Prop where
  | register {s : System α} (before : s.Reachable) (absent : listener ∉ s.core.chain.toList)
      (light : tally weight (s.told Deed.begun?) = 0) :
      Serving weight listener (s.change (s.core.chain.add listener))
  | next {s t : System α} (action : Action α) (before : Serving weight listener s)
      (spares : action.Spares listener) (performed : s.perform? action = some t) :
      Serving weight listener t

/-- The listener stands in the chain once, and what it has heard is all that was handed to the chain,
but for what is on its way to it. Nothing of weight was passed over. -/
structure Attentive (weight : Event → Nat) (listener : α) (s : System α) : Prop where
  once : s.core.chain.toList.count listener = 1
  meets : ∀ strand ∈ s.strands, strand.Meets weight listener s.core.chain
  paid : tally weight (s.told Deed.handed?) =
    tally weight (s.told (Deed.heard? listener)) +
      tally (Strand.owed weight listener s.core.chain) s.strands
  heeded : ∀ place event, .skipped ∈ s.deedsOf place → .begun event ∈ s.deedsOf place → weight event = 0

variable {s t : System α}

theorem Serving.reachable (serving : s.Serving weight listener) : s.Reachable := by
  induction serving with
  | register before _ _ => exact .next (.add _) before rfl
  | next action _ _ performed ih => exact .next action ih performed

private theorem Reachable.handed_of_heard (reach : s.Reachable) {event : Event}
    (heard : event ∈ s.told (Deed.heard? listener)) : event ∈ s.told Deed.handed? := by
  refine reach.invariant (fun s => ∀ event ∈ s.told (Deed.heard? listener), event ∈ s.told Deed.handed?)
    ?start ?fire ?change ?act event heard
  case start =>
    intro event heard
    cases heard
  case fire =>
    intro s first _ ih event heard
    rw [told_fire] at heard ⊢
    simpa [Deed.heard?, Deed.handed?] using ih event (by simpa [Deed.heard?] using heard)
  case change =>
    intro s list _ ih
    exact ih
  case act =>
    intro s place strand act e reach ih found acts event heard
    rw [told_effect, List.mem_append] at heard ⊢
    obtain before | now := heard
    · exact Or.inl (ih event before)
    · -- The event with which the listener is called stands in the chain.
      have inPass : event ∈ strand.inPass := by
        cases acts <;> simp_all [Deed.heard?, Strand.inPass]
      rw [reach.flow inPass_hold]
      refine Or.inl (List.mem_append_right _ (List.mem_flatMap.mpr ?_))
      exact ⟨strand, List.mem_of_getElem? found, inPass⟩

private theorem Reachable.attentive [LawfulBEq α] (reach : s.Reachable)
    (absent : listener ∉ s.core.chain.toList) (light : tally weight (s.told Deed.begun?) = 0) :
    (s.change (s.core.chain.add listener)).Attentive weight listener := by
  have handed : tally weight (s.told Deed.handed?) = 0 :=
    Nat.le_zero.mp (light ▸ reach.handed_weight_le weight)
  have inPass : ∀ strand ∈ s.strands, tally weight strand.inPass = 0 := by
    intro strand member
    have all := handed
    rw [reach.flow inPass_hold, tally_append, tally_flatMap] at all
    have one : tally weight strand.inPass ≤ tally (fun x => tally weight x.inPass) s.strands :=
      le_tally (f := fun x => tally weight x.inPass) member
    exact Nat.le_zero.mp (Nat.eq_zero_of_add_eq_zero_left all ▸ one)
  refine ⟨?once, ?meets, ?paid, ?heeded⟩
  case once =>
    have none : s.core.chain.toList.count listener = 0 := List.count_eq_zero.mpr absent
    simp [change, none]
  case meets =>
    intro strand member
    exact Strand.meets_of_light (inPass strand member)
  case paid =>
    have heard : tally weight (s.told (Deed.heard? listener)) = 0 := by
      apply tally_eq_zero
      intro event member
      exact Nat.le_zero.mp (handed ▸ le_tally (reach.handed_of_heard member))
    have owed : tally (Strand.owed weight listener (s.core.chain.add listener)) s.strands = 0 := by
      apply tally_eq_zero
      intro strand member
      exact Nat.le_zero.mp (inPass strand member ▸ Strand.owed_le)
    rw [told_change, told_change, strands_change, handed, heard, Nat.zero_add]
    exact owed.symm
  case heeded =>
    intro place event _ begun
    have told : event ∈ s.told Deed.begun? := by
      obtain ⟨⟨other, deed⟩, member, rfl⟩ := List.mem_map.mp begun
      exact List.mem_filterMap.mpr ⟨_, List.mem_map.mpr ⟨_, (List.mem_filter.mp member).1, rfl⟩, rfl⟩
    exact Nat.le_zero.mp (light ▸ le_tally told)

theorem Attentive.fire (attentive : s.Attentive weight listener) (reach : s.Reachable) (event : Event) :
    (s.fire event).Attentive weight listener := by
  refine ⟨attentive.once, ?meets, ?paid, ?heeded⟩
  case meets =>
    intro strand member
    obtain old | new := List.mem_append.mp member
    · exact attentive.meets strand old
    · rw [List.mem_singleton.mp new]
      trivial
  case paid =>
    have paid := attentive.paid
    rw [told_fire, told_fire, strands_fire, core_fire, tally_append, tally_append, tally_append]
    simpa [Deed.handed?, Deed.heard?, Strand.owed] using paid
  case heeded =>
    intro place first skipped begun
    rw [deedsOf_fire] at skipped begun
    by_cases here : s.strands.length = place
    · simp [here, reach.deedsOf_eq_nil (Nat.le_of_eq here)] at skipped
    · simp only [here, if_false, List.append_nil] at skipped begun
      exact attentive.heeded place first skipped begun

theorem Attentive.change (attentive : s.Attentive weight listener) (reach : s.Reachable)
    {list : ListenerList α} (keeps : s.core.chain.Keeps list)
    (once : list.toList.count listener = s.core.chain.toList.count listener) :
    (s.change list).Attentive weight listener := by
  have undisturbed : ∀ strand ∈ s.strands, strand.owed weight listener list =
      strand.owed weight listener s.core.chain ∧
        (strand.Meets weight listener list ↔ strand.Meets weight listener s.core.chain) := by
    intro strand member
    obtain ⟨place, found⟩ := List.mem_iff_getElem?.mp member
    exact (reach.visits found).undisturbed keeps weight listener
  refine ⟨once.trans attentive.once, ?meets, ?paid, attentive.heeded⟩
  case meets =>
    intro strand member
    exact (undisturbed strand member).2.mpr (attentive.meets strand member)
  case paid =>
    rw [told_change, told_change, strands_change, attentive.paid]
    exact congrArg _ (tally_congr fun strand member => (undisturbed strand member).1.symm)

/-- If the acting strand owns the queue, no other is on its way through the chain. If it does not, the
chain stays. -/
theorem Attentive.others (attentive : s.Attentive weight listener) (reach : s.Reachable)
    {place other : Nat} {strand x : Strand α} {act : Act} {e : Effect α}
    (found : s.strands[place]? = some strand) (acts : strand.Acts s.core act e) (apart : other ≠ place)
    (there : s.strands[other]? = some x) :
    x.owed weight listener e.core.chain = x.owed weight listener s.core.chain ∧
      x.Meets weight listener e.core.chain := by
  cases owns : strand.owns with
  | true =>
    have foreign : x.owns = false := Bool.eq_false_iff.mpr fun both =>
      apart (reach.owner_unique ⟨x, there, both⟩ ⟨strand, found, owns⟩)
    rw [Strand.owed_of_foreign foreign, Strand.owed_of_foreign foreign]
    exact ⟨rfl, Strand.meets_of_foreign foreign⟩
  | false =>
    rw [acts.chain owns]
    exact ⟨rfl, attentive.meets x (List.mem_of_getElem? there)⟩

theorem Attentive.effect [LawfulBEq α] (attentive : s.Attentive weight listener) (reach : s.Reachable)
    {place : Nat} {strand : Strand α} {act : Act} {e : Effect α} (found : s.strands[place]? = some strand)
    (acts : strand.Acts s.core act e) : (s.effect place e).Attentive weight listener := by
  have meets := attentive.meets strand (List.mem_of_getElem? found)
  refine ⟨?once, ?meets, ?paid, ?heeded⟩
  case once => rw [core_effect, acts.toList, attentive.once]
  case meets =>
    intro other member
    obtain ⟨there, here⟩ := List.mem_iff_getElem?.mp member
    obtain ⟨-, rfl⟩ | ⟨elsewhere, old⟩ | ⟨-, begun⟩ := found_effect found here
    · exact acts.meets attentive.once meets
    · exact (attentive.others reach found acts (Ne.symm elsewhere) old).2
    · rw [acts.queued_of_begun begun]
      trivial
  case paid =>
    have begun : tally (Strand.owed weight listener e.core.chain) e.begun = 0 := by
      apply tally_eq_zero
      intro x member
      rw [acts.queued_of_begun member]
      rfl
    have moved := tally_set_of_eq found e.strand fun other x apart there =>
      (attentive.others reach found acts apart there).1
    have owed := acts.owed attentive.once meets
    have paid := attentive.paid
    rw [told_effect, told_effect, strands_effect, core_effect, tally_append, tally_append, tally_append,
      begun]
    omega
  case heeded =>
    intro other event skipped begun
    have present : listener ∈ s.core.chain.toList :=
      List.count_pos_iff.mp (attentive.once ▸ Nat.zero_lt_one)
    have heeds := acts.heeds present
    rw [deedsOf_effect, List.mem_append] at skipped begun
    refine attentive.heeded other event (skipped.resolve_right fun now => ?_)
      (begun.resolve_right fun now => ?_)
    · split at now
      · exact (heeds _ now).1 rfl
      · cases now
    · split at now
      · exact (heeds _ now).2 event rfl
      · cases now

private theorem Serving.attentive [LawfulBEq α] (serving : s.Serving weight listener) :
    s.Attentive weight listener := by
  induction serving with
  | register before absent light => exact before.attentive absent light
  | next action before spares performed ih =>
    cases action with
    | fire event =>
      cases Option.some.inj performed
      exact ih.fire before.reachable event
    | act place act =>
      obtain ⟨strand, e, found, acts, rfl⟩ := acts_of_perform performed
      exact ih.effect before.reachable found acts
    | add other =>
      cases Option.some.inj performed
      refine ih.change before.reachable (ListenerList.keeps_mutate _ _) ?_
      have apart : other ≠ listener := spares
      simp [apart]
    | remove other =>
      cases Option.some.inj performed
      refine ih.change before.reachable (ListenerList.keeps_remove _ _) ?_
      rw [ListenerList.toList_remove, List.count_erase_of_ne (Ne.symm spares)]

theorem Serving.heard_le [LawfulBEq α] (serving : s.Serving weight listener) :
    tally weight (s.told (Deed.heard? listener)) ≤ tally weight (s.told Deed.begun?) := by
  have handed := serving.reachable.handed_weight_le weight
  rw [serving.attentive.paid] at handed
  exact Nat.le_of_add_right_le handed

/-- Once nothing is under way, all that was fired has been heard or lost. -/
theorem Serving.heard_idle [LawfulBEq α] (serving : s.Serving weight listener) (idle : s.Idle) :
    tally weight (s.told Deed.begun?) =
      tally weight (s.told (Deed.heard? listener)) + tally weight s.lost := by
  have heeded : tally weight (s.judgedAs .skipped) = 0 := by
    apply tally_eq_zero
    intro event member
    obtain ⟨place, -, judged⟩ := List.mem_flatMap.mp member
    obtain ⟨skipped, begun⟩ := mem_judgedAs_skipped judged
    exact serving.attentive.heeded place event skipped begun
  have owed : tally (Strand.owed weight listener s.core.chain) s.strands = 0 := by
    apply tally_eq_zero
    intro strand member
    rw [idle strand member]
    rfl
  rw [serving.reachable.begun_weight_idle idle weight heeded, serving.attentive.paid, owed, Nat.add_zero]

end System

end TransferLifecycle.Dispatch
