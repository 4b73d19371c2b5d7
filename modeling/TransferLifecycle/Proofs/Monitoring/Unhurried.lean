import TransferLifecycle.Proofs.Monitoring.Pacing

/-! A wait does not go round idly. However the threads take their steps, it begins at most two turns more
than two for each advance that succeeds meanwhile, and a gate on which it waits is opened by the next
advance or seal. -/
namespace TransferLifecycle.Monitoring

open UnitMonitor (Operation Question Answer Result Point Moves)
open Wait (Drive Turn)

namespace System

def Replacing (s : System) : Prop := ∃ strand ∈ s.strands, strand.stage.Replacing

def pace (s : System) (advances turns : Nat) : Pace := ⟨s.world, s.Replacing, advances, turns⟩

def turns (place : Nat) (s : System) : Action → Bool
  | .step other =>
    match s.strands[other]? with
    | some ⟨_, .driving (.turn _)⟩ => other == place
    | _ => false
  | _ => false

variable {s t : System} {action : Action}

private theorem turns_step {place : Nat} {strand : Strand} (found : s.strands[place]? = some strand) :
    (turns place s (.step place)).toNat = strand.stage.turns := by
  obtain ⟨thread, stage⟩ := strand
  cases stage with
  | driving drive => cases drive <;> simp [turns, found, Stage.turns]
  | _ => simp [turns, found, Stage.turns]

private theorem turns_other {place other : Nat} (elsewhere : other ≠ place) :
    turns place s (.step other) = false := by
  simp only [turns]
  split
  · simpa using elsewhere
  · rfl

private theorem stays_of_not_advances {place : Nat} {strand : Strand} (found : s.strands[place]? = some strand)
    (quiet : s.advances (.step place) = false) (caller : Caller) (unit : Handle) :
    strand.stage ≠ .calling caller (.advance unit) (.leave (.truth true)) := by
  intro returns
  obtain ⟨thread, stage⟩ := strand
  obtain rfl : stage = _ := returns
  simp [System.advances, found] at quiet

theorem Reachable.follows (reach : s.Reachable) (performed : s.perform? action = some t)
    (quiet : s.advances action = false) (advances turns : Nat) :
    (s.pace advances turns).Follows (t.pace advances turns) := by
  have lasts := reach.lasts performed
  have begun : ∀ strand : Strand, s.Replacing → (s.begin strand).Replacing := by
    rintro strand ⟨other, member, replacing⟩
    exact ⟨other, List.mem_append_left _ member, replacing⟩
  cases action with
  | call thread op =>
    cases Option.some.inj performed
    exact ⟨rfl, rfl, lasts, begun _, Or.inr ⟨rfl, rfl⟩⟩
  | wait thread =>
    cases Option.some.inj performed
    exact ⟨rfl, rfl, lasts, begun _, Or.inr ⟨rfl, rfl⟩⟩
  | step place =>
    obtain ⟨strand, e, found, acts, rfl⟩ := acts_of_perform performed
    have formed := reach.formed (List.mem_of_getElem? found)
    have present := (List.getElem?_eq_some_iff.mp found).1
    obtain ⟨goes, still⟩ := acts.replacing formed (stays_of_not_advances found quiet)
    have own : e.stage.Replacing → (s.effect place strand.thread e).Replacing :=
      fun replacing => ⟨_, List.mem_set present _, replacing⟩
    refine ⟨rfl, rfl, lasts, ?_, still.imp_left own⟩
    rintro ⟨other, member, replacing⟩
    obtain ⟨there, here⟩ := List.mem_iff_getElem?.mp member
    by_cases same : place = there
    · subst same
      obtain rfl : strand = other := Option.some.inj (found.symm.trans here)
      exact own (goes replacing)
    · refine ⟨other, List.mem_of_getElem? (i := there) ?_, replacing⟩
      rwa [effect, List.getElem?_set_ne same]
  | finish | interrupt =>
    cases Option.some.inj performed
    exact ⟨rfl, rfl, lasts, id, Or.inr ⟨rfl, rfl⟩⟩

/-- The wait at the place has not taken more turns than the advances that have returned allow. -/
def Paced (s : System) (place advances turns : Nat) : Prop :=
  ∃ strand, s.strands[place]? = some strand ∧ (s.pace advances turns).Allows strand.stage

theorem Reachable.settled (reach : s.Reachable) {place : Nat} {strand : Strand}
    (found : s.strands[place]? = some strand) (inside : strand.stage.inside = true)
    (quiet : ¬ strand.stage.Replacing) : ¬ s.Replacing := by
  rintro ⟨other, member, replacing⟩
  obtain ⟨there, here⟩ := List.mem_iff_getElem?.mp member
  obtain rfl := reach.alone found inside here (replacing.inside (reach.formed member))
  obtain rfl : strand = other := Option.some.inj (found.symm.trans here)
  exact quiet replacing

private theorem not_replacing_of_allows {p : Pace} {stage : Stage} (formed : stage.Formed)
    (allows : p.Allows stage) : ¬ stage.Replacing := by
  intro replacing
  have of_advance : ∀ {op point}, Belongs op point → Replaces op point → ∃ unit, op = .advance unit := by
    intro op point belongs replaces
    unfold Replaces at replaces
    split at replaces
    · exact belongs
    · exact belongs
    · exact replaces
    · exact replaces
    · cases replaces
  cases stage with
  | calling caller op point =>
    obtain ⟨unit, rfl⟩ := of_advance formed.2 replacing
    cases allows
  | asking caller op question point =>
    obtain ⟨unit, rfl⟩ := of_advance formed.2.1 replacing
    cases allows
  | _ => cases replacing

private theorem Reachable.paced_own (reach : s.Reachable) {place advances turns : Nat} {strand : Strand}
    (found : s.strands[place]? = some strand) (allows : (s.pace advances turns).Allows strand.stage)
    (acts : strand.stage.Acts place strand.thread s.world e)
    (goes : s.Replacing → (s.effect place strand.thread e).Replacing) :
    (s.effect place strand.thread e).Paced place advances (turns + strand.stage.turns) := by
  have member := List.mem_of_getElem? found
  have formed := reach.formed member
  have alone : strand.stage.inside = true → ¬ s.Replacing :=
    fun inside => reach.settled found inside (not_replacing_of_allows formed allows)
  have moved := acts.allows (p := s.pace advances turns) formed (reach.known member)
    (fun unit latched => (reach.latched latched).2) reach.shut alone allows
  have follows : Pace.Follows ⟨e.world, s.Replacing, advances, turns + strand.stage.turns⟩
      ((s.effect place strand.thread e).pace advances (turns + strand.stage.turns)) :=
    ⟨rfl, rfl, World.Lasts.of_eq rfl rfl, goes, Or.inr ⟨rfl, rfl⟩⟩
  exact ⟨_, List.getElem?_set_self (List.getElem?_eq_some_iff.mp found).1, follows.allows moved⟩

private theorem found_perform {place : Nat} {strand : Strand} (found : s.strands[place]? = some strand)
    (other : action ≠ .step place) (performed : s.perform? action = some t) :
    t.strands[place]? = some strand := by
  have inside := (List.getElem?_eq_some_iff.mp found).1
  cases action with
  | step acting =>
    obtain ⟨_, e, _, _, rfl⟩ := acts_of_perform performed
    have elsewhere : acting ≠ place := fun same => other (same ▸ rfl)
    rwa [effect, List.getElem?_set_ne elsewhere]
  | call | wait =>
    cases Option.some.inj performed
    rwa [begin, List.getElem?_append_left inside]
  | finish | interrupt =>
    cases Option.some.inj performed
    exact found

private theorem Reachable.paced_next (reach : s.Reachable) {place advances turns : Nat}
    (paced : s.Paced place advances turns) (performed : s.perform? action = some t) :
    t.Paced place (advances + (s.advances action).toNat) (turns + (System.turns place s action).toNat) := by
  obtain ⟨strand, found, allows⟩ := paced
  cases returned : s.advances action with
  | true =>
    obtain ⟨other, thread, caller, unit, rfl, there⟩ := of_advances returned
    have elsewhere : other ≠ place := by
      rintro rfl
      obtain rfl := Option.some.inj (found.symm.trans there)
      cases allows
    have kept := found_perform found (fun same => elsewhere (Action.step.inj same)) performed
    rw [turns_other elsewhere]
    exact ⟨strand, kept, allows.free allows.ends.le⟩
  | false =>
    have follows := reach.follows performed returned advances turns
    by_cases own : action = .step place
    · subst own
      obtain ⟨acting, e, here, acts, rfl⟩ := acts_of_perform performed
      obtain rfl : strand = acting := Option.some.inj (found.symm.trans here)
      rw [turns_step found]
      exact reach.paced_own found allows acts follows.replacing
    · have none : System.turns place s action = false := by
        cases action with
        | step other => exact turns_other fun same => own (same ▸ rfl)
        | _ => rfl
      rw [none]
      exact ⟨strand, found_perform found own performed, follows.allows allows⟩

private theorem Reachable.paced_run (reach : s.Reachable) {place advances turns : Nat}
    (paced : s.Paced place advances turns) {actions : List Action} (ran : s.run? actions = some t) :
    t.Paced place (advances + s.count System.advances actions)
      (turns + s.count (System.turns place) actions) := by
  induction actions generalizing s advances turns with
  | nil =>
    cases Option.some.inj ran
    exact paced
  | cons action rest ih =>
    obtain ⟨middle, performed, ran⟩ := Option.bind_eq_some_iff.mp ran
    have later := ih (.next action reach performed) (reach.paced_next paced performed) ran
    simpa only [count, performed, Option.elim_some, Nat.add_assoc] using later

/-- A wait begins at most two turns more than two for each advance that returns meanwhile. -/
theorem Reachable.turns_le (reach : s.Reachable) {thread : Nat} {begun : System}
    (begins : s.perform? (.wait thread) = some begun) {actions : List Action}
    (ran : begun.run? actions = some t) :
    begun.count (turns s.strands.length) actions ≤ 2 * (begun.count advances actions + 1) := by
  have later := Reachable.next _ reach begins
  cases Option.some.inj begins
  have paced : (s.begin ⟨thread, .driving .attach⟩).Paced s.strands.length 0 0 :=
    ⟨_, List.getElem?_concat_length, Or.inl (Nat.le_refl 0)⟩
  obtain ⟨strand, -, allows⟩ := later.paced_run paced ran
  have le : 0 + count (turns s.strands.length) (s.begin ⟨thread, .driving .attach⟩) actions ≤
      2 * (0 + count System.advances (s.begin ⟨thread, .driving .attach⟩) actions + 1) := allows.ends.le
  simpa only [Nat.zero_add] using le

/-- What the gates of the monitor mean for those who wait: which are shut and which are open, how long
a gate that has been handed out stays shut, and how many turns a wait takes. -/
structure Unhurried (s : System) : Prop where
  shut : s.world.monitor.isSealed = false → ¬ s.world.Finished s.world.monitor.gate
  past : ∀ gate, .handed (.gate gate) ∈ s.deeds → ∀ actions t, s.run? actions = some t →
    0 < s.count advances actions → t.world.Finished (.gate gate)
  closed : s.world.monitor.isSealed = true → (∀ strand ∈ s.strands, ¬ strand.stage.Sealing) →
    ∀ gate < s.world.gates, s.world.Finished (.gate gate)
  bounded : ∀ thread begun, s.perform? (.wait thread) = some begun →
    ∀ actions t, begun.run? actions = some t →
      begun.count (turns s.strands.length) actions ≤ 2 * (begun.count advances actions + 1)
  released : ∀ place thread drive turn gate,
    s.strands[place]? = some ⟨thread, .awaiting drive turn (.gate gate)⟩ →
    ∀ actions t, s.run? actions = some t → 0 < s.count advances actions + s.count seals actions →
      t.strands[place]? = some ⟨thread, .awaiting drive turn (.gate gate)⟩ →
      ∃ u, t.perform? (.step place) = some u ∧
        u.strands[place]? = some ⟨thread, .turning drive .inquire⟩

theorem Proper.unhurried (proper : s.Proper) : s.Unhurried where
  shut := proper.reachable.shut
  past _ handed _ _ ran returned := proper.opens handed ran (Nat.lt_add_right _ returned)
  closed sealed_ settled _ made := proper.reachable.all_open sealed_ settled made
  bounded _ _ begins _ _ ran := proper.reachable.turns_le begins ran
  released _ _ _ _ _ waits _ _ ran returns still := proper.releases waits ran returns still

theorem Proper.run (proper : s.Proper) {actions : List Action}
    (units : ∀ thread unit, .call thread (.advance unit) ∈ actions → ∃ id, unit = .unit id)
    (ran : s.run? actions = some t) : t.Proper := by
  induction actions generalizing s with
  | nil =>
    cases Option.some.inj ran
    exact proper
  | cons action rest ih =>
    obtain ⟨middle, performed, ran⟩ := Option.bind_eq_some_iff.mp ran
    have known : ∀ thread unit, action = .call thread (.advance unit) → s.Knows unit := by
      rintro thread unit rfl
      obtain ⟨id, rfl⟩ := units thread unit List.mem_cons_self
      trivial
    refine ih (.next action proper known performed) ?_ ran
    intro thread unit member
    exact units thread unit (List.mem_cons_of_mem _ member)

/-- The unit has succeeded, and a wait has come to the gate. -/
def lingering : List Action := [.finish 0 .success, .wait 0] ++ steps 0 13

/-- An advance to a second unit, and the step by which the wait goes on. -/
def releasing : List Action := [.call 1 (.advance (.unit 1))] ++ steps 1 10 ++ steps 0 1

theorem unhurried_lingering : ∃ s t, run? (new (fun _ => {}) 0) lingering = some s ∧ s.Unhurried ∧
    s.strands[0]? = some ⟨0, .awaiting (.turning ()) .awaiting (.gate 0)⟩ ∧
    s.run? releasing = some t ∧ s.count advances releasing = 1 ∧
    t.strands[0]? = some ⟨0, .turning (.turning ()) .inquire⟩ := by
  have ran : ∃ s t, run? (new (fun _ => {}) 0) lingering = some s ∧
      s.strands[0]? = some ⟨0, .awaiting (.turning ()) .awaiting (.gate 0)⟩ ∧
      s.run? releasing = some t ∧ s.count advances releasing = 1 ∧
      t.strands[0]? = some ⟨0, .turning (.turning ()) .inquire⟩ :=
    ⟨_, _, rfl, rfl, rfl, rfl, rfl⟩
  obtain ⟨s, t, ran, waits, released, returned, goes⟩ := ran
  have proper : s.Proper := by
    refine Proper.run (.start _ 0) ?_ ran
    intro thread unit member
    simp [lingering, steps] at member
  exact ⟨s, t, ran, proper.unhurried, waits, released, returned, goes⟩

end System

end TransferLifecycle.Monitoring
