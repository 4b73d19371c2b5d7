import TransferLifecycle.Proofs.Transition.Finishing

/-! Every run has a counterpart in which nothing panics. Where a listener panics, the counterpart lets it
return, and goes on with the request until that is over; what the panic does after that on its way to the
caller, the counterpart has no need of. All other requests find, tell and answer the same. -/
namespace TransferLifecycle.Transition

variable {α : Type}

def Action.calm : Action α → Bool
  | .act _ a => a.calm
  | _ => true

def Action.outer : Action α → Bool
  | .act _ _ => false
  | _ => true

theorem Action.CalmAt.calm {place : Nat} {action : Action α} (calm : action.CalmAt place) :
    action.calm = true ∧ action.outer = false := by
  cases action with
  | act => exact ⟨calm.2, rfl⟩
  | _ => cases calm

variable {me : Nat} {l : Lifecycle α} {strand : Strand α} {act : Act} {e : Effect α} {deeds : List (Deed α)}

private theorem Strand.Tells.pursues_of_broken (tells : strand.Tells l deeds) (broken : strand.broken = true)
    (acts : strand.Acts me l act e) : ∃ goal, strand.Pursues goal := by
  cases tells with
  | pursued pursues => exact ⟨_, pursues⟩
  | panicked => cases acts
  | _ => cases broken

/-- What waits for something to return has the turn, and the state is not going to change. -/
theorem Strand.Tells.waits (tells : strand.Tells l deeds) {panicked : Bool}
    (acts : strand.Acts me l (.finish panicked) e) :
    strand.inside = true ∧ (∀ state, strand.due state = state) ∧ strand.broken = false := by
  cases tells with
  | pursued pursues =>
    refine ⟨pursues.inside, ?_⟩
    cases acts <;> exact ⟨fun _ => rfl, rfl⟩
  | _ => cases acts

theorem Strand.Acts.panic (acts : strand.Acts me l (.finish true) e) :
    e.core = l ∧ e.strand.broken = true ∧ e.deeds = [] := by
  cases acts <;> exact ⟨rfl, rfl, rfl⟩

theorem Strand.Acts.leads (acts : strand.Acts me l act e) (broken : strand.broken = true) {goal : Goal}
    (pursues : strand.Pursues goal) :
    e.core.state = l.state ∧ e.strand.broken = true ∧ e.deeds = [] ∧
      (e.core.turn = none ∨ e.core.turn = l.turn) := by
  cases acts with
  | abandonPass => exact ⟨rfl, rfl, rfl, Or.inr rfl⟩
  | abandon => obtain rfl | rfl := pursues <;> exact ⟨rfl, rfl, rfl, Or.inl rfl⟩
  | _ => cases broken

namespace System

def finds (s : System α) : List (Goal × State) := s.history.filterMap (·.2.found?)

theorem finds_of_history {s t : System α} {place : Nat} (history : t.history = s.history ++ deeds.map (place, ·)) :
    t.finds = s.finds ++ deeds.filterMap Deed.found? := by
  simp [finds, history, List.filterMap_map]

theorem deedsOf_of_history {s t : System α} {place : Nat}
    (history : t.history = s.history ++ deeds.map (place, ·)) (spot : Nat) :
    t.deedsOf spot = s.deedsOf spot ++ if place = spot then deeds else [] := by
  by_cases same : place = spot <;>
    simp [deedsOf, history, same, List.filter_map, Function.comp_def]

/-- How a request stands in a run, and how it stands in the counterpart. -/
inductive Counterpart (s t : System α) (place : Nat) : Strand α → Strand α → Prop where
  | same {strand other : Strand α} (alike : strand.Alike s.core.observers t.core.observers other)
      (sound : strand.broken = false) (told : t.deedsOf place = s.deedsOf place) :
    Counterpart s t place strand other
  | mended {strand : Strand α} (broken : strand.broken = true)
      (told : ∃ more, t.deedsOf place = s.deedsOf place ++ more) :
    Counterpart s t place strand .ended

/-- The second system is like the first one, only that no panic has occurred in it. -/
structure Smooths (s t : System α) : Prop where
  cores : s.core.Alike t.core
  turn : s.core.turn = t.core.turn ∨ t.core.turn = none ∧
    ∃ place strand, s.core.turn = some place ∧ s.strands[place]? = some strand ∧ strand.broken = true
  strands : ∀ place strand, s.strands[place]? = some strand →
    ∃ other, t.strands[place]? = some other ∧ Counterpart s t place strand other
  lengths : t.strands.length = s.strands.length
  finds : t.finds = s.finds

theorem smooths_new (description : String) : (new description : System α).Smooths (new description) where
  cores := ⟨rfl, rfl, rfl⟩
  turn := Or.inl rfl
  strands place strand found := by cases found
  lengths := rfl
  finds := rfl

variable {s t : System α}

theorem Smooths.free (smooths : s.Smooths t) (free : s.core.turn = none) : t.core.turn = none := by
  obtain same | ⟨idle, -⟩ := smooths.turn
  · exact same ▸ free
  · exact idle

theorem Counterpart.keep {u v : System α} {place : Nat} {strand other : Strand α}
    (counterpart : Counterpart s t place strand other)
    (alike : strand.Alike s.core.observers t.core.observers other →
      strand.Alike u.core.observers v.core.observers other)
    (first : u.deedsOf place = s.deedsOf place) (second : v.deedsOf place = t.deedsOf place) :
    Counterpart u v place strand other := by
  cases counterpart with
  | same like sound told => exact .same (alike like) sound (second.trans (told.trans first.symm))
  | mended broken told => exact .mended broken (by rwa [first, second])

variable [BEq α]

theorem Smooths.request (smooths : s.Smooths t) (reach : s.Reachable) (reachToo : t.Reachable) (goal : Goal) :
    (s.request goal).Smooths (t.request goal) := by
  refine ⟨smooths.cores, ?_, fun place strand found => ?_, ?_, smooths.finds⟩
  · refine smooths.turn.imp_right fun ⟨idle, place, strand, turn, found, broken⟩ => ?_
    have inside := (List.getElem?_eq_some_iff.mp found).1
    exact ⟨idle, place, strand, turn, (List.getElem?_append_left inside).trans found, broken⟩
  · obtain old | ⟨rfl, rfl⟩ := found_request found
    · obtain ⟨other, there, counterpart⟩ := smooths.strands place strand old
      have inside := (List.getElem?_eq_some_iff.mp there).1
      exact ⟨other, (List.getElem?_append_left inside).trans there, counterpart.keep id rfl rfl⟩
    · refine ⟨.standing (.enter goal), ?_, .same (.bare rfl) rfl ?_⟩
      · rw [System.request, ← smooths.lengths]
        exact List.getElem?_concat_length
      · rw [deedsOf_request, deedsOf_request, reach.deedsOf_eq_nil (Nat.le_refl _),
          reachToo.deedsOf_eq_nil (Nat.le_of_eq smooths.lengths)]
  · simp [System.request, smooths.lengths]

theorem Smooths.change (smooths : s.Smooths t) (reach : s.Reachable) (reachToo : t.Reachable)
    {l m : ListenerList α} (same : l.toList = m.toList) (keeps : s.core.observers.Keeps l)
    (keepsToo : t.core.observers.Keeps m) : (s.change l).Smooths (t.change m) := by
  refine ⟨⟨smooths.cores.description, smooths.cores.state, same⟩, smooths.turn, fun place strand found => ?_,
    smooths.lengths, smooths.finds⟩
  obtain ⟨other, there, counterpart⟩ := smooths.strands place strand found
  refine ⟨other, there, counterpart.keep (fun alike => ?_) rfl rfl⟩
  exact alike.keep (fun snapshot mine => (keeps snapshot (reach.held found mine)).2)
    fun snapshot mine => (keepsToo snapshot (reachToo.held there mine)).2

variable {place : Nat} {other : Strand α}

theorem Smooths.acts (smooths : s.Smooths t) (found : s.strands[place]? = some strand)
    (there : t.strands[place]? = some other) (alike : strand.Alike s.core.observers t.core.observers other)
    (sound : strand.broken = false) (told : t.deedsOf place = s.deedsOf place)
    (acts : strand.Acts place s.core act e) (calm : act.calm = true) :
    ∃ u, t.perform? (.act place act) = some u ∧ (s.effect place e).Smooths u := by
  obtain ⟨f, acts', cores, strands, deeds, turns⟩ := acts.alike alike smooths.cores smooths.free place
  refine ⟨_, perform_of_act there acts'.acted, cores, ?_, fun spot another here => ?_, ?_, ?_⟩
  · cases turns with
    | left one two =>
      obtain same | ⟨idle, holder, late, turn, here, broken⟩ := smooths.turn
      · exact Or.inl (one.trans (same.trans two.symm))
      · -- The one that still has the turn here has panicked, so it is not the one that acts.
        have elsewhere : place ≠ holder := by
          rintro rfl
          cases here.symm.trans found
          rw [sound] at broken
          cases broken
        exact Or.inr ⟨two.trans idle, holder, late, one.trans turn,
          (List.getElem?_set_ne elsewhere).trans here, broken⟩
    | taken one two => exact Or.inl (one.trans two.symm)
    | free one two => exact Or.inl (one.trans two.symm)
  · obtain ⟨rfl, rfl⟩ | ⟨elsewhere, old⟩ := found_effect found here
    · refine ⟨f.strand, List.getElem?_set_self (List.getElem?_eq_some_iff.mp there).1, .same strands ?_ ?_⟩
      · rw [acts.broken_eq calm, sound]
      · rw [deedsOf_effect, deedsOf_effect, told, deeds]
    · obtain ⟨second, opposite, counterpart⟩ := smooths.strands spot another old
      refine ⟨second, (List.getElem?_set_ne elsewhere).trans opposite, counterpart.keep (fun alike => ?_) ?_ ?_⟩
      · exact alike.keep (fun snapshot _ => acts.view snapshot) fun snapshot _ => acts'.view snapshot
      · rw [deedsOf_effect, if_neg elsewhere, List.append_nil]
      · rw [deedsOf_effect, if_neg elsewhere, List.append_nil]
  · simpa [effect] using smooths.lengths
  · rw [finds_of_history (t := s.effect place e) rfl, finds_of_history (t := t.effect place f) rfl, smooths.finds,
      deeds]

/-- What a panic does on its way to the caller, the counterpart has no need of. -/
theorem Smooths.unwinds (smooths : s.Smooths t) (reach : s.Reachable) (reachToo : t.Reachable)
    (found : s.strands[place]? = some strand) (there : t.strands[place]? = some .ended)
    (broken : strand.broken = true) (told : ∃ more, t.deedsOf place = s.deedsOf place ++ more)
    (acts : strand.Acts place s.core act e) : (s.effect place e).Smooths t := by
  obtain ⟨goal, pursues⟩ := (reach.tells found).pursues_of_broken broken acts
  have turn : s.core.turn = some place := (reach.exclusive place).mpr ⟨strand, found, pursues.inside⟩
  have idle : t.core.turn = none := by
    obtain same | ⟨idle, -⟩ := smooths.turn
    · exact absurd (same ▸ turn) (reachToo.turn_ne there rfl)
    · exact idle
  have inside := (List.getElem?_eq_some_iff.mp found).1
  obtain ⟨description, state, listeners⟩ := smooths.cores
  obtain ⟨sameState, still, silent, after⟩ := acts.leads broken pursues
  refine ⟨⟨acts.description.trans description, sameState.trans state, acts.listeners.trans listeners⟩, ?_,
    fun spot another here => ?_, ?_, ?_⟩
  · refine after.imp (fun free => free.trans idle.symm) fun mine => ?_
    exact ⟨idle, place, e.strand, mine.trans turn, List.getElem?_set_self inside, still⟩
  · obtain ⟨rfl, rfl⟩ | ⟨elsewhere, old⟩ := found_effect found here
    · refine ⟨.ended, there, .mended still ?_⟩
      rw [deedsOf_effect, silent, ite_self, List.append_nil]
      exact told
    · obtain ⟨second, opposite, counterpart⟩ := smooths.strands spot another old
      refine ⟨second, opposite, counterpart.keep (fun alike => ?_) ?_ rfl⟩
      · exact alike.keep (fun snapshot _ => acts.view snapshot) fun _ _ => rfl
      · rw [deedsOf_effect, if_neg elsewhere, List.append_nil]
  · simpa [effect] using smooths.lengths
  · rw [finds_of_history (t := s.effect place e) rfl, smooths.finds, silent]
    exact (List.append_nil _).symm

theorem Smooths.panics (smooths : s.Smooths t) (reach : s.Reachable) (reachToo : t.Reachable)
    (found : s.strands[place]? = some strand) (there : t.strands[place]? = some other)
    (alike : strand.Alike s.core.observers t.core.observers other)
    (told : t.deedsOf place = s.deedsOf place) (acts : strand.Acts place s.core (.finish true) e) :
    ∃ (actions : List (Action α)) (u : System α), (∀ action ∈ actions, action.CalmAt place) ∧
      t.run? actions = some u ∧ (s.effect place e).Smooths u := by
  obtain ⟨f, acts', -⟩ := acts.alike alike smooths.cores smooths.free place
  obtain ⟨inside, due, sound⟩ := (reachToo.tells there).waits acts'
  -- The state is where it is due, so what the counterpart does up to the end leaves it there.
  obtain ⟨actions, u, calm, ran, finished⟩ := reachToo.finishes there inside
  refine ⟨actions, u, calm, ran, ?_⟩
  obtain ⟨more, history, silent⟩ := finished.history
  have state := finished.state.trans (due _)
  obtain ⟨same, broken, nothing⟩ := acts.panic
  have turn : s.core.turn = some place :=
    (reach.exclusive place).mpr ⟨strand, found, ((reach.tells found).waits acts).1⟩
  have bound := (List.getElem?_eq_some_iff.mp found).1
  have boundToo := (List.getElem?_eq_some_iff.mp there).1
  have strands : u.strands = t.strands.set place .ended := by rw [finished.strands, sound]; rfl
  have deeds := deedsOf_of_history history
  refine ⟨?_, ?_, fun spot another here => ?_, ?_, ?_⟩
  · rw [show (s.effect place e).core = e.core from rfl, same]
    exact ⟨smooths.cores.description.trans finished.description.symm, smooths.cores.state.trans state.symm,
      smooths.cores.listeners.trans finished.listeners.symm⟩
  · refine Or.inr ⟨finished.free, place, e.strand, ?_, List.getElem?_set_self bound, broken⟩
    rw [show (s.effect place e).core = e.core from rfl, same, turn]
  · obtain ⟨rfl, rfl⟩ | ⟨elsewhere, old⟩ := found_effect found here
    · refine ⟨.ended, ?_, .mended broken ⟨more, ?_⟩⟩
      · rw [strands, List.getElem?_set_self boundToo]
      · rw [deeds, if_pos rfl, told, deedsOf_effect, nothing, ite_self, List.append_nil]
    · obtain ⟨second, opposite, counterpart⟩ := smooths.strands spot another old
      refine ⟨second, ?_, counterpart.keep (fun alike => ?_) ?_ ?_⟩
      · rw [strands, List.getElem?_set_ne elsewhere, opposite]
      · exact alike.keep (fun snapshot _ => acts.view snapshot) fun snapshot _ => finished.view snapshot
      · rw [deedsOf_effect, if_neg elsewhere, List.append_nil]
      · rw [deeds, if_neg elsewhere, List.append_nil]
  · simpa [effect, strands] using smooths.lengths
  · rw [finds_of_history history, silent, smooths.finds, finds_of_history (t := s.effect place e) rfl, nothing]
    rfl

theorem Smooths.perform [LawfulBEq α] (smooths : s.Smooths t) (reach : s.Reachable) (reachToo : t.Reachable)
    {action : Action α} {u : System α} (performed : s.perform? action = some u) :
    ∃ (actions : List (Action α)) (v : System α), (∀ action ∈ actions, action.calm = true) ∧
      actions.filter Action.outer = [action].filter Action.outer ∧ t.run? actions = some v ∧ u.Smooths v := by
  have once {v : System α} (done : t.perform? action = some v) : t.run? [action] = some v :=
    (congrArg (Option.bind · _) done).trans rfl
  cases action with
  | request goal =>
    cases Option.some.inj performed
    exact ⟨[.request goal], _, by simp [Action.calm], rfl, rfl, smooths.request reach reachToo goal⟩
  | add listener =>
    cases Option.some.inj performed
    refine ⟨[.add listener], _, by simp [Action.calm], rfl, rfl, ?_⟩
    refine smooths.change reach reachToo ?_ (ListenerList.keeps_mutate _ _) (ListenerList.keeps_mutate _ _)
    simp [smooths.cores.listeners]
  | remove listener =>
    cases Option.some.inj performed
    refine ⟨[.remove listener], _, by simp [Action.calm], rfl, rfl, ?_⟩
    refine smooths.change reach reachToo ?_ (ListenerList.keeps_remove _ _) (ListenerList.keeps_remove _ _)
    simp [smooths.cores.listeners]
  | act place act =>
    obtain ⟨strand, e, found, acts, rfl⟩ := acts_of_perform performed
    obtain ⟨other, there, counterpart⟩ := smooths.strands place strand found
    cases counterpart with
    | mended broken told =>
      exact ⟨[], t, nofun, rfl, rfl, smooths.unwinds reach reachToo found there broken told acts⟩
    | same alike sound told =>
      cases calm : act.calm with
      | true =>
        obtain ⟨v, done, still⟩ := smooths.acts found there alike sound told acts calm
        exact ⟨[.act place act], v, by simpa [Action.calm] using calm, rfl, once done, still⟩
      | false =>
        obtain rfl : act = .finish true := by
          cases act with
          | move => cases calm
          | finish panicked => cases panicked <;> first | rfl | cases calm
        obtain ⟨actions, v, calmly, ran, still⟩ := smooths.panics reach reachToo found there alike told acts
        refine ⟨actions, v, fun action member => (calmly action member).calm.1, ?_, ran, still⟩
        refine List.filter_eq_nil_iff.mpr fun action member => ?_
        simp [(calmly action member).calm.2]

/-- A run without any panic has the same requests and the same changes of the listeners in it, and the requests
find the same. -/
theorem Smooths.run [LawfulBEq α] (smooths : s.Smooths t) (reach : s.Reachable) (reachToo : t.Reachable)
    {actions : List (Action α)} {u : System α} (ran : s.run? actions = some u) :
    ∃ (others : List (Action α)) (v : System α), (∀ action ∈ others, action.calm = true) ∧
      others.filter Action.outer = actions.filter Action.outer ∧ t.run? others = some v ∧ u.Smooths v := by
  -- One action may need none or many in the counterpart, so both systems are generalized.
  induction actions generalizing s t with
  | nil =>
    cases Option.some.inj ran
    exact ⟨[], t, nofun, rfl, rfl, smooths⟩
  | cons action rest ih =>
    obtain ⟨middle, performed, ran⟩ := Option.bind_eq_some_iff.mp ran
    obtain ⟨first, other, calm, same, done, still⟩ := smooths.perform reach reachToo performed
    obtain ⟨others, v, calmly, after, ranToo, smooths⟩ :=
      ih still (.next _ reach performed) (reachToo.run first done) ran
    refine ⟨first ++ others, v, ?_, ?_, ?_, smooths⟩
    · intro action member
      exact (List.mem_append.mp member).elim (calm action) (calmly action)
    · rw [List.filter_append, same, after, ← List.filter_append]
      rfl
    · rw [run_append, done]
      exact ranToo

end System

end TransferLifecycle.Transition
