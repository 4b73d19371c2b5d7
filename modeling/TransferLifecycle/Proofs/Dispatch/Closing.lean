import TransferLifecycle.Proofs.Dispatch.Order

/-! What the listeners see of a stream of events that is cut off because the executor is stopped.
Nothing is delivered any more, unless an emptying that delivers had given up the queue and not yet
looked at it again when the executor refused. Such a straggler can take the queue back after
events have been discarded, and deliver one that a slow producer pushes then. -/
namespace TransferLifecycle.Dispatch

variable {α : Type}

def Fate.delivers : Fate → Bool
  | .deliver => true
  | .discard => false

/-- Between the release of the queue and the second look of an emptying that delivers. -/
def Strand.straggles : Strand α → Bool
  | .standing (.recheck fate) | .standing (.reclaim fate) => fate.delivers
  | _ => false

def Point.delivers : Point → Bool
  | .overflow | .announceInline | .reached => true
  | .take fate | .inHand fate _ | .count fate | .release fate | .recheck fate | .reclaim fate =>
    fate.delivers
  | .arrive _ | .check _ | .turnAway | .push _ | .claim | .offered | .close | .announceClosed
  | .countRefusal | .finished => false

/-- The strand can hand an event to the chain without another answer of the executor. -/
def Strand.delivers : Strand α → Bool
  | .queued | .passing _ _ | .calling _ _ _ => true
  | .standing point => point.delivers
  | .offering | .accepted | .ended => false

def Deed.admits : Deed α → Bool
  | .accepted | .refused .queueFull => true
  | _ => false

theorem Strand.straggles_of_delivers {strand : Strand α} (delivers : strand.delivers)
    (foreign : strand.owns = false) : strand.straggles = true := by
  cases strand with
  | standing point =>
    cases point <;> simp_all [Strand.delivers, Point.delivers, straggles, owns, Point.owns]
  | _ => simp_all [Strand.delivers, owns]

theorem Strand.Acts.quiet {d : Dispatcher α} {strand : Strand α} {act : Act} {e : Effect α}
    (acts : strand.Acts d act e) (quiet : strand.delivers = false)
    (unadmitted : ∀ deed ∈ e.deeds, deed.admits = false) :
    e.strand.delivers = false ∧ e.begun = [] ∧ e.deeds.filterMap Deed.handed? = [] := by
  cases acts <;>
    simp_all [Strand.delivers, Point.delivers, Fate.delivers, Deed.admits, List.filterMap_cons,
      Deed.handed?]

namespace System

/-- Once the executor has said that it is shutting down, it admits no emptying. -/
def Steadfast (s : System α) : Prop :=
  s.deeds.Pairwise fun earlier later => earlier = .refused .shuttingDown → later.admits = false

/-- No strand can deliver, and none ever will. -/
structure Cut (s : System α) : Prop where
  stopped : .refused .shuttingDown ∈ s.deeds
  quiet : ∀ strand ∈ s.strands, strand.delivers = false
  whole : s.told Deed.handed? <+: s.told Deed.pushed?

variable [BEq α] {s t : System α}

private theorem deeds_grow {action : Action α} (performed : s.perform? action = some t) :
    s.deeds <+: t.deeds := by
  cases action with
  | fire event =>
    cases Option.some.inj performed
    exact ⟨_, (deeds_fire s event).symm⟩
  | act place act =>
    obtain ⟨strand, e, found, acts, rfl⟩ := acts_of_perform performed
    exact ⟨_, (deeds_effect s place e).symm⟩
  | add | remove =>
    cases Option.some.inj performed
    exact List.prefix_rfl

private theorem deeds_grow_of_run {actions : List (Action α)} (ran : s.run? actions = some t) :
    s.deeds <+: t.deeds := by
  induction actions generalizing s with
  | nil =>
    cases Option.some.inj ran
    exact List.prefix_rfl
  | cons action rest ih =>
    obtain ⟨middle, performed, ran⟩ := Option.bind_eq_some_iff.mp ran
    exact (deeds_grow performed).trans (ih ran)

theorem Cut.step (cut : s.Cut) {action : Action α} (performed : s.perform? action = some t)
    (steadfast : t.Steadfast) : t.Cut := by
  have stopped := (deeds_grow performed).subset cut.stopped
  cases action with
  | fire event =>
    cases Option.some.inj performed
    refine ⟨stopped, ?_, by simpa [Deed.handed?, Deed.pushed?] using cut.whole⟩
    intro strand member
    obtain old | new := List.mem_append.mp member
    · exact cut.quiet strand old
    · rw [List.mem_singleton.mp new]
      rfl
  | act place act =>
    obtain ⟨strand, e, found, acts, rfl⟩ := acts_of_perform performed
    have unadmitted : ∀ deed ∈ e.deeds, deed.admits = false := by
      intro deed told
      rw [Steadfast, deeds_effect, List.pairwise_append] at steadfast
      exact steadfast.2.2 _ cut.stopped deed told rfl
    obtain ⟨quiet, none, nothing⟩ :=
      acts.quiet (cut.quiet strand (List.mem_of_getElem? found)) unadmitted
    refine ⟨stopped, ?_, ?_⟩
    · intro other member
      rw [strands_effect, none, List.append_nil] at member
      obtain old | rfl := List.mem_or_eq_of_mem_set member
      · exact cut.quiet other old
      · exact quiet
    · rw [told_effect, told_effect, nothing, List.append_nil]
      exact cut.whole.trans (List.prefix_append _ _)
  | add | remove =>
    cases Option.some.inj performed
    exact ⟨stopped, cut.quiet, cut.whole⟩

theorem Cut.run (cut : s.Cut) {actions : List (Action α)} (ran : s.run? actions = some t)
    (steadfast : t.Steadfast) : t.Cut := by
  induction actions generalizing s with
  | nil =>
    cases Option.some.inj ran
    exact cut
  | cons action rest ih =>
    obtain ⟨middle, performed, ran⟩ := Option.bind_eq_some_iff.mp ran
    have steady : middle.Steadfast := steadfast.sublist (deeds_grow_of_run ran).sublist
    exact ih (cut.step performed steady) ran

theorem Reachable.cut (reach : s.Reachable) {place : Nat}
    (performed : s.perform? (.act place (.refuse .shuttingDown)) = some t)
    (first : .refused .shuttingDown ∉ s.deeds)
    (unstraggling : ∀ strand ∈ s.strands, strand.straggles = false) : t.Cut := by
  obtain ⟨strand, e, found, acts, rfl⟩ := acts_of_perform performed
  obtain ⟨-, kept⟩ := reach.keeps first
  have owns : strand.owns := by
    cases acts
    rfl
  -- The refused firing owns the queue, so whoever else could deliver is a straggler.
  have quiet : ∀ other ∈ (s.effect place e).strands, other.delivers = false := by
    intro other member
    obtain ⟨there, here⟩ := List.mem_iff_getElem?.mp member
    obtain ⟨-, rfl⟩ | ⟨elsewhere, old⟩ | ⟨-, begun⟩ := found_effect found here
    · cases acts
      rfl
    · refine Bool.eq_false_iff.mpr fun delivers => ?_
      have foreign : other.owns = false := by
        refine Bool.eq_false_iff.mpr fun both => elsewhere ?_
        exact reach.owner_unique ⟨strand, found, owns⟩ ⟨other, old, both⟩
      have straggles := Strand.straggles_of_delivers delivers foreign
      rw [unstraggling other (List.mem_of_getElem? old)] at straggles
      cases straggles
    · cases acts
      cases begun
  cases acts with
  | refuseStopped =>
    refine ⟨?_, quiet, ?_⟩
    · simp
    · rw [told_effect, told_effect]
      simpa [List.filterMap_cons, Deed.handed?, Deed.pushed?] using ⟨_, (reach.pushed_of_kept kept).symm⟩

/-- If nobody straggles when the executor first says that it is shutting down, and it stands by
that, the listeners see the stream without a gap for ever after. -/
theorem Reachable.clean_cut (reach : s.Reachable) {u : System α} {place : Nat}
    (performed : s.perform? (.act place (.refuse .shuttingDown)) = some t)
    (first : .refused .shuttingDown ∉ s.deeds)
    (unstraggling : ∀ strand ∈ s.strands, strand.straggles = false)
    {actions : List (Action α)} (ran : t.run? actions = some u) (steadfast : u.Steadfast) :
    u.told Deed.handed? <+: u.told Deed.pushed? :=
  ((reach.cut performed first unstraggling).run ran steadfast).whole

/-- An emptying has delivered one event and released the queue. The next event is discarded by its
own firing, which is refused; the emptying then finds a third, whose firing was slow to push it. -/
def straggling : List (Action Nat) :=
  [.add 7, .fire (.lifecycle .started)] ++ moves 0 4 ++ [.act 0 .accept, .act 1 .start] ++ moves 1 4 ++
    [.act 1 (.finishCall false)] ++ moves 1 4 ++ [.fire (.lifecycle .partStarted)] ++ moves 2 2 ++
    [.fire (.lifecycle .completed)] ++ moves 3 2 ++ moves 2 2 ++ [.act 2 (.refuse .shuttingDown)] ++
    moves 2 9 ++ moves 3 1 ++ moves 1 4

private theorem deeds_straggling : ∃ s : System Nat, run? {} straggling = some s ∧
    s.deeds =
      [.begun (.lifecycle .started), .pushed (.lifecycle .started), .accepted,
        .popped .deliver (.lifecycle .started), .handed (.lifecycle .started),
        .entered [7], .called 7 (.lifecycle .started), .through (.lifecycle .started),
        .begun (.lifecycle .partStarted), .begun (.lifecycle .completed),
        .pushed (.lifecycle .partStarted), .refused .shuttingDown,
        .popped .discard (.lifecycle .partStarted), .discarded (.lifecycle .partStarted),
        .pushed (.lifecycle .completed), .popped .deliver (.lifecycle .completed),
        .handed (.lifecycle .completed)] :=
  ⟨_, rfl, rfl⟩

theorem not_clean_of_steadfast : ¬ ∀ s : System Nat, s.Reachable → s.Steadfast →
    s.told Deed.handed? <+: s.told Deed.pushed? := by
  intro claim
  obtain ⟨s, ran, deeds⟩ := deeds_straggling
  have steadfast : s.Steadfast := by
    rw [Steadfast, deeds]
    decide
  have whole := claim s (.run .start straggling ran) steadfast
  rw [told, told, deeds] at whole
  exact absurd whole (by decide)

end System

end TransferLifecycle.Dispatch
