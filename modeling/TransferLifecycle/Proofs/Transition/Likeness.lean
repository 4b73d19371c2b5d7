import TransferLifecycle.Proofs.Transition.Breaking

/-! Two transfers that are alike: they have the same state and the same listeners in the same order. Neither
what became of earlier requests nor which vectors the listeners stand in makes a difference to what is asked of
them from then on: whatever one of them does, the other one does as well. -/
namespace TransferLifecycle

variable {α : Type}

structure Lifecycle.Alike (l m : Lifecycle α) : Prop where
  description : l.description = m.description
  state : l.state = m.state
  listeners : l.observers.toList = m.observers.toList

namespace Transition

/-- The requests stand at the same point, with snapshots that show the same. -/
inductive Strand.Alike (l m : ListenerList α) : Strand α → Strand α → Prop where
  | bare {strand : Strand α} (bare : strand.snapshot? = none) : Alike l m strand strand
  | passing {state snapshot other index point} (shown : l.view snapshot = m.view other) :
    Alike l m (.passing state (.visit snapshot index) point) (.passing state (.visit other index) point)
  | calling {listener state snapshot other index point} (shown : l.view snapshot = m.view other) :
    Alike l m (.calling listener state (.visit snapshot index) point)
      (.calling listener state (.visit other index) point)
  | failing {snapshot other index point} (shown : l.view snapshot = m.view other) :
    Alike l m (.failing (.visit snapshot index) point) (.failing (.visit other index) point)

inductive Turns (me you : Nat) (l m later after : Lifecycle α) : Prop where
  | left (one : later.turn = l.turn) (two : after.turn = m.turn)
  | taken (one : later.turn = some me) (two : after.turn = some you)
  | free (one : later.turn = none) (two : after.turn = none)

variable {me you : Nat} {l m : Lifecycle α} {strand other : Strand α} {act : Act} {e : Effect α}

theorem Strand.Acts.acted (acts : strand.Acts me l act e) : strand.act? me l act = some e := by
  cases acts with
  | @notify goal => cases goal <;> rfl
  | keepSilent terminal same =>
    subst same
    simp [act?, step, follow, Point.deeds, terminal]
  | _ => simp [act?, step, follow, Point.deeds, Pass.step, *]

theorem Strand.Alike.keep {l m later after : ListenerList α} (alike : strand.Alike l m other)
    (first : ∀ snapshot, strand.snapshot? = some snapshot → later.view snapshot = l.view snapshot)
    (second : ∀ snapshot, other.snapshot? = some snapshot → after.view snapshot = m.view snapshot) :
    strand.Alike later after other := by
  cases alike with
  | bare bare => exact .bare bare
  | passing shown => exact .passing ((first _ rfl).trans (shown.trans (second _ rfl).symm))
  | calling shown => exact .calling ((first _ rfl).trans (shown.trans (second _ rfl).symm))
  | failing shown => exact .failing ((first _ rfl).trans (shown.trans (second _ rfl).symm))

theorem Strand.Acts.alike (acts : strand.Acts me l act e)
    (alike : strand.Alike l.observers m.observers other) (same : l.Alike m)
    (free : l.turn = none → m.turn = none) (you : Nat) :
    ∃ f : Effect α, other.Acts you m act f ∧ e.core.Alike f.core ∧
      e.strand.Alike e.core.observers f.core.observers f.strand ∧ f.deeds = e.deeds ∧
      Turns me you l m e.core f.core := by
  have ⟨description, state, listeners⟩ := same
  cases acts with
  | enter turn =>
    cases alike
    exact ⟨_, .enter (free turn), ⟨description, state, listeners⟩, .bare rfl, by rw [state], .taken rfl rfl⟩
  | keepSilent terminal kept =>
    cases alike
    exact ⟨_, .keepSilent (state ▸ terminal) (state ▸ kept), same, .bare rfl, rfl,
      .left rfl rfl⟩
  | ignore terminal apart =>
    cases alike
    exact ⟨_, .ignore (state ▸ terminal) (state ▸ apart), ⟨description, state, listeners⟩, .bare rfl,
      by rw [state, description], .left rfl rfl⟩
  | resolve opened =>
    cases alike
    refine ⟨_, .resolve (state ▸ opened), ⟨description, state, listeners⟩, ?_, rfl, .left rfl rfl⟩
    rw [state]
    exact .bare rfl
  | announce =>
    cases alike
    exact ⟨_, .announce, ⟨description, state, listeners⟩, .bare rfl, rfl, .left rfl rfl⟩
  | store =>
    cases alike
    exact ⟨_, .store, ⟨description, rfl, listeners⟩, .bare rfl, by rw [description], .left rfl rfl⟩
  | notify =>
    cases alike
    exact ⟨_, .notify, ⟨description, state, listeners⟩, .bare rfl, rfl, .left rfl rfl⟩
  | beginPass =>
    cases alike
    exact ⟨_, .beginPass, ⟨description, state, listeners⟩, .passing listeners, rfl, .left rfl rfl⟩
  | call present =>
    cases alike with
    | bare bare => cases bare
    | passing shown =>
      exact ⟨_, .call (shown ▸ present), ⟨description, state, listeners⟩, .calling shown, rfl, .left rfl rfl⟩
  | @endPass _ _ _ point absent =>
    cases alike with
    | bare bare => cases bare
    | passing shown =>
      exact ⟨_, .endPass (shown ▸ absent), ⟨description, state, listeners⟩, .bare rfl, rfl, .left rfl rfl⟩
  | @returned _ state pass point =>
    cases alike with
    | bare bare =>
      have none : (Strand.passing state pass point : Strand α).snapshot? = none := by
        cases pass <;> first | rfl | cases bare
      exact ⟨_, .returned, same, .bare none, rfl, .left rfl rfl⟩
    | calling shown =>
      exact ⟨_, .returned, same, .passing shown, rfl, .left rfl rfl⟩
  | @broken _ _ pass point =>
    cases alike with
    | bare bare =>
      have none : (Strand.failing pass point : Strand α).snapshot? = none := by
        cases pass <;> first | rfl | cases bare
      exact ⟨_, .broken, ⟨description, state, listeners⟩, .bare none, rfl, .left rfl rfl⟩
    | calling shown =>
      exact ⟨_, .broken, ⟨description, state, listeners⟩, .failing shown, rfl, .left rfl rfl⟩
  | @abandonPass pass point =>
    cases alike with
    | bare bare =>
      cases pass with
      | start => exact ⟨_, .abandonPass, ⟨description, state, listeners⟩, .bare rfl, rfl, .left rfl rfl⟩
      | visit => cases bare
    | failing shown =>
      exact ⟨_, .abandonPass, ⟨description, state, listeners⟩, .bare rfl, rfl, .left rfl rfl⟩
  | fire event =>
    cases alike
    exact ⟨_, .fire event, ⟨description, state, listeners⟩, .bare rfl, rfl, .left rfl rfl⟩
  | fireNothing silent =>
    cases alike
    exact ⟨_, .fireNothing silent, ⟨description, state, listeners⟩, .bare rfl, rfl, .left rfl rfl⟩
  | fired =>
    cases alike
    exact ⟨_, .fired, ⟨description, state, listeners⟩, .bare rfl, rfl, .left rfl rfl⟩
  | misfired =>
    cases alike
    exact ⟨_, .misfired, ⟨description, state, listeners⟩, .bare rfl, rfl, .left rfl rfl⟩
  | @abandon point =>
    cases alike
    refine ⟨_, .abandon, ?_, .bare rfl, rfl, ?_⟩
    · cases point <;> exact ⟨description, state, listeners⟩
    · cases point with
      | enter => exact .left rfl rfl
      | _ => exact .free rfl rfl
  | leave =>
    cases alike
    exact ⟨_, .leave, ⟨description, state, listeners⟩, .bare rfl, rfl, .free rfl rfl⟩

/-- The same action on a transfer on which so many requests had been made before. -/
def Action.shift (base : Nat) : Action α → Action α
  | .act place act => .act (base + place) act
  | action => action

namespace System

/-- What has been done to one transfer since it was like this, and to another one since it was like that, comes
to the same. -/
structure Parallel (s t u v : System α) : Prop where
  cores : u.core.Alike v.core
  /-- The requests made since then stand at the same points, two by two. -/
  strands : ∀ place strand, u.strands[s.strands.length + place]? = some strand →
    ∃ other, v.strands[t.strands.length + place]? = some other ∧
      strand.Alike u.core.observers v.core.observers other
  lengths : ∃ n, u.strands.length = s.strands.length + n ∧ v.strands.length = t.strands.length + n
  turn : ∃ turn : Option Nat, u.core.turn = turn.map (s.strands.length + ·) ∧
    v.core.turn = turn.map (t.strands.length + ·)
  history : ∃ news : List (Nat × Deed α),
    u.history = s.history ++ news.map (fun told => (s.strands.length + told.1, told.2)) ∧
    v.history = t.history ++ news.map (fun told => (t.strands.length + told.1, told.2))

theorem Parallel.start {s t : System α} (alike : s.core.Alike t.core) (free : s.core.turn = none)
    (freeToo : t.core.turn = none) : Parallel s t s t where
  cores := alike
  strands place strand found := by
    rw [List.getElem?_eq_none (Nat.le_add_right _ _)] at found
    cases found
  lengths := ⟨0, rfl, rfl⟩
  turn := ⟨none, free, freeToo⟩
  history := ⟨[], (List.append_nil _).symm, (List.append_nil _).symm⟩

variable {s t u v u' : System α}

theorem Parallel.request (parallel : Parallel s t u v) (goal : Goal) :
    Parallel s t (u.request goal) (v.request goal) := by
  obtain ⟨n, first, second⟩ := parallel.lengths
  refine ⟨parallel.cores, fun place strand found => ?_, ⟨n + 1, ?_, ?_⟩, parallel.turn, parallel.history⟩
  · obtain old | ⟨last, rfl⟩ := found_request found
    · obtain ⟨other, there, alike⟩ := parallel.strands place strand old
      have inside := (List.getElem?_eq_some_iff.mp there).1
      exact ⟨other, (List.getElem?_append_left inside).trans there, alike⟩
    · obtain rfl : n = place := by omega
      refine ⟨.standing (.enter goal), ?_, .bare rfl⟩
      rw [System.request, ← second]
      exact List.getElem?_concat_length
  · simp [System.request, first, Nat.add_assoc]
  · simp [System.request, second, Nat.add_assoc]

variable [BEq α]

theorem Parallel.change (parallel : Parallel s t u v) (reach : u.Reachable) (reachToo : v.Reachable)
    {l m : ListenerList α} (same : l.toList = m.toList) (keeps : u.core.observers.Keeps l)
    (keepsToo : v.core.observers.Keeps m) : Parallel s t (u.change l) (v.change m) := by
  refine ⟨⟨parallel.cores.description, parallel.cores.state, same⟩, fun place strand found => ?_,
    parallel.lengths, parallel.turn, parallel.history⟩
  obtain ⟨other, there, alike⟩ := parallel.strands place strand found
  refine ⟨other, there, alike.keep (fun snapshot mine => ?_) fun snapshot mine => ?_⟩
  · exact (keeps snapshot (reach.held found mine)).2
  · exact (keepsToo snapshot (reachToo.held there mine)).2

theorem Parallel.acts (parallel : Parallel s t u v) {place : Nat} {strand : Strand α} {act : Act}
    {e : Effect α} (found : u.strands[s.strands.length + place]? = some strand)
    (acts : strand.Acts (s.strands.length + place) u.core act e) :
    ∃ w, v.perform? (.act (t.strands.length + place) act) = some w ∧
      Parallel s t (u.effect (s.strands.length + place) e) w := by
  obtain ⟨other, there, alike⟩ := parallel.strands place strand found
  obtain ⟨turn, mine, yours⟩ := parallel.turn
  have free : u.core.turn = none → v.core.turn = none := by
    rw [mine, yours]
    cases turn <;> simp
  obtain ⟨f, acts', cores, strands, deeds, turns⟩ :=
    acts.alike alike parallel.cores free (t.strands.length + place)
  refine ⟨_, perform_of_act there acts'.acted, cores, fun spot another here => ?_, ?_, ?_, ?_⟩
  · obtain ⟨same, rfl⟩ | ⟨elsewhere, old⟩ := found_effect found here
    · obtain rfl : place = spot := by omega
      exact ⟨f.strand, List.getElem?_set_self (List.getElem?_eq_some_iff.mp there).1, strands⟩
    · obtain ⟨second, opposite, alike⟩ := parallel.strands spot another old
      refine ⟨second, (List.getElem?_set_ne (by omega)).trans opposite, ?_⟩
      exact alike.keep (fun snapshot _ => acts.view snapshot) fun snapshot _ => acts'.view snapshot
  · simpa [effect] using parallel.lengths
  · cases turns with
    | left one two => exact ⟨turn, one.trans mine, two.trans yours⟩
    | taken one two => exact ⟨some place, one, two⟩
    | free one two => exact ⟨none, one, two⟩
  · obtain ⟨news, one, two⟩ := parallel.history
    refine ⟨news ++ e.deeds.map (place, ·), ?_, ?_⟩
    · simp [effect, one]
    · simp [effect, two, deeds]

theorem Parallel.perform [LawfulBEq α] (parallel : Parallel s t u v) (reach : u.Reachable)
    (reachToo : v.Reachable) {action : Action α} {w : System α}
    (performed : u.perform? (action.shift s.strands.length) = some w) :
    ∃ x, v.perform? (action.shift t.strands.length) = some x ∧ Parallel s t w x := by
  cases action with
  | request goal =>
    cases Option.some.inj performed
    exact ⟨_, rfl, parallel.request goal⟩
  | act place act =>
    obtain ⟨strand, e, found, acts, rfl⟩ := acts_of_perform performed
    exact parallel.acts found acts
  | add listener =>
    cases Option.some.inj performed
    refine ⟨_, rfl, parallel.change reach reachToo ?_ (ListenerList.keeps_mutate _ _)
      (ListenerList.keeps_mutate _ _)⟩
    simp [parallel.cores.listeners]
  | remove listener =>
    cases Option.some.inj performed
    refine ⟨_, rfl, parallel.change reach reachToo ?_ (ListenerList.keeps_remove _ _)
      (ListenerList.keeps_remove _ _)⟩
    simp [parallel.cores.listeners]

/-- What is done to one of two transfers that are alike can be done to the other, and comes to the same. -/
theorem Parallel.run [LawfulBEq α] (parallel : Parallel s t u v) (reach : u.Reachable)
    (reachToo : v.Reachable) {actions : List (Action α)} {w : System α}
    (ran : u.run? (actions.map (Action.shift s.strands.length)) = some w) :
    ∃ x, v.run? (actions.map (Action.shift t.strands.length)) = some x ∧ Parallel s t w x := by
  induction actions generalizing u v with
  | nil =>
    cases Option.some.inj ran
    exact ⟨v, rfl, parallel⟩
  | cons action rest ih =>
    obtain ⟨middle, performed, ran⟩ := Option.bind_eq_some_iff.mp ran
    obtain ⟨other, done, still⟩ := parallel.perform reach reachToo performed
    obtain ⟨x, ranToo, parallel⟩ := ih still (.next _ reach performed) (.next _ reachToo done) ran
    exact ⟨x, (congrArg (Option.bind · _) done).trans ranToo, parallel⟩

end System

end Transition

end TransferLifecycle
