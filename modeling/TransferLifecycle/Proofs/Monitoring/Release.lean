import TransferLifecycle.Proofs.Monitoring.Opening

/-! How long a gate that has been handed out stays shut. A gate is handed out only while it is in place,
so that the next advance that succeeds opens it, and so does a seal; whoever waits on it goes on. -/
namespace TransferLifecycle.Monitoring

open UnitMonitor (Operation Question Answer Result Point Moves)
open Wait (Drive Turn)

/-- A gate that has been in place already, where it is one. -/
def Handle.Old (number : Nat) : Handle → Prop
  | .unit _ => True
  | .gate id => id ≤ number

structure World.Old (w : World) (number : Nat) : Prop where
  current : w.monitor.current.Old number
  failed : ∀ unit, w.monitor.failed = some unit → unit.Old number

def Stage.Old (number : Nat) : Stage → Prop
  | .calling _ op point | .asking _ op _ point =>
    (∀ unit, op = .advance unit → unit.Old number) ∧ ∀ h, point = .leave (.handle h) → h.Old number
  | _ => True

def Stage.Held (deeds : List Deed) : Stage → Prop
  | .turning _ (.await h) | .awaiting _ _ h => .handed h ∈ deeds
  | _ => True

theorem Handle.Old.le {h : Handle} {number next : Nat} (old : h.Old number) (le : number ≤ next) :
    h.Old next := by
  cases h with
  | unit => trivial
  | gate => exact Nat.le_trans old le

theorem World.Old.le {w : World} {number next : Nat} (old : w.Old number) (le : number ≤ next) :
    w.Old next where
  current := old.current.le le
  failed unit failed := (old.failed unit failed).le le

theorem Stage.Old.le {stage : Stage} {number next : Nat} (old : stage.Old number) (le : number ≤ next) :
    stage.Old next := by
  cases stage with
  | calling caller op point => exact ⟨fun u same => (old.1 u same).le le, fun h same => (old.2 h same).le le⟩
  | asking caller op question point =>
    exact ⟨fun u same => (old.1 u same).le le, fun h same => (old.2 h same).le le⟩
  | _ => trivial

theorem Stage.Held.append {stage : Stage} {deeds : List Deed} (held : stage.Held deeds) (more : List Deed) :
    stage.Held (deeds ++ more) := by
  unfold Stage.Held at held ⊢
  split at held
  · exact List.mem_append_left more held
  · exact List.mem_append_left more held
  · trivial

variable {me thread number : Nat} {w : World} {stage : Stage} {e : Effect}

theorem Stage.Acts.held (acts : stage.Acts me thread w e) (formed : stage.Formed) {deeds : List Deed}
    (held : stage.Held deeds) : e.stage.Held (deeds ++ e.deeds) := by
  cases acts with
  | await => exact List.mem_append_left _ held
  | @finished drive turn h outcome some =>
    obtain ⟨-, rfl⟩ := formed
    cases outcome <;> trivial
  | interrupted =>
    obtain ⟨-, rfl⟩ := formed
    trivial
  | @leave caller op result =>
    cases caller with
    | itself => trivial
    | wait drive turn =>
      obtain ⟨rfl, ⟨rfl, rfl⟩ | ⟨rfl, rfl⟩⟩ := formed.1
      · cases result with
        | handle h => exact List.mem_append_right _ (List.mem_singleton.mpr rfl)
        | _ => trivial
      · cases result <;> trivial
  | _ => trivial

private theorem old_move {m : UnitMonitor Handle} {op : Operation Handle} {point : Point Handle}
    {next : Next (Point Handle) (Question Handle) (Result Handle)}
    (moves : Moves me w.monitor point m next) (belongs : Belongs op point)
    (gate : w.monitor.gate = .gate number) (world : w.Old number)
    (operand : ∀ unit, op = .advance unit → unit.Old number) :
    World.Old { w with monitor := m } number ∧
      ∀ after, (next = .goto after ∨ ∃ question, next = .ask question after) →
        ∀ h, after = .leave (.handle h) → h.Old number := by
  obtain ⟨current, failed⟩ := world
  cases moves with
  | latch =>
    refine ⟨⟨current, ?_⟩, ?_⟩
    · rintro unit latched
      cases latched
      exact current
    · rintro after (same | ⟨question, same⟩) h leaving <;> cases same
      cases leaving
  | replace =>
    refine ⟨⟨operand _ belongs.1, failed⟩, ?_⟩
    rintro after (same | ⟨question, same⟩) h leaving <;> cases same
    cases leaving
  | handFailed found =>
    refine ⟨⟨current, failed⟩, ?_⟩
    rintro after (same | ⟨question, same⟩) h leaving <;> cases same
    cases leaving
    exact failed _ found
  | handLast | handCurrent =>
    refine ⟨⟨current, failed⟩, ?_⟩
    rintro after (same | ⟨question, same⟩) h leaving <;> cases same
    cases leaving
    exact current
  | handGate =>
    refine ⟨⟨current, failed⟩, ?_⟩
    rintro after (same | ⟨question, same⟩) h leaving <;> cases same
    cases leaving
    rw [gate]
    exact Nat.le_refl number
  | _ =>
    refine ⟨⟨current, failed⟩, ?_⟩
    rintro after (same | ⟨question, same⟩) h leaving <;> cases same <;> cases leaving

theorem Stage.Acts.old (acts : stage.Acts me thread w e) (formed : stage.Formed)
    (gate : w.monitor.gate = .gate number) (world : w.Old number) (old : stage.Old number) :
    e.world.Old number ∧ e.stage.Old number := by
  cases acts with
  | goto moves =>
    obtain ⟨world, leaving⟩ := old_move moves formed.2 gate world old.1
    exact ⟨world, old.1, leaving _ (Or.inl rfl)⟩
  | ask moves =>
    obtain ⟨world, leaving⟩ := old_move moves formed.2 gate world old.1
    exact ⟨world, old.1, leaving _ (Or.inr ⟨_, rfl⟩)⟩
  | @leave caller op result =>
    refine ⟨⟨world.current, world.failed⟩, ?_⟩
    cases caller <;> cases result <;> trivial
  | @answer caller op question point =>
    refine ⟨?_, old.1, ?_⟩
    · exact ⟨by simpa using world.current, by simpa using world.failed⟩
    · intro h leaving
      obtain ⟨-, belongs, asks⟩ := formed
      cases question with
      | openGate gate => cases point with
        | opening result =>
          cases leaving
          cases op <;> simp [Belongs, Gives] at belongs
        | _ => cases asks
      | _ =>
        cases point <;> cases asks
        cases leaving
  | fetch | inquire =>
    refine ⟨world, ?_, ?_⟩
    · intro unit same
      cases same
    · intro h same
      cases same
  | _ => exact ⟨⟨world.current, world.failed⟩, trivial⟩

theorem Stage.Acts.handed (acts : stage.Acts me thread w e) {h : Handle} (told : .handed h ∈ e.deeds)
    (old : stage.Old number) :
    stage.inside = true ∧ ¬ stage.Ending ∧ h.Old number := by
  cases acts with
  | goto moves => cases moves <;> simp [deedsOf] at told
  | ask moves => cases moves <;> simp [deedsOf] at told
  | @leave caller op result =>
    cases result with
    | handle k =>
      obtain rfl : h = k := by simpa [deedsOf] using told
      exact ⟨rfl, id, old.2 h rfl⟩
    | _ => cases told
  | _ => cases told

def Closes (w : World) (op : Operation Handle) : Point Handle → Prop
  | .opening _ | .leave _ => op = .seal → w.monitor.isSealed = true
  | _ => True

def Stage.Closes (w : World) : Stage → Prop
  | .calling _ op point | .asking _ op _ point => Monitoring.Closes w op point
  | _ => True

theorem Stage.Closes.stable {later : World} (closes : stage.Closes w)
    (closed : w.monitor.isSealed = true → later.monitor.isSealed = true) : stage.Closes later := by
  cases stage with
  | calling caller op point => cases point with
    | opening result => exact fun same => closed (closes same)
    | leave result => exact fun same => closed (closes same)
    | _ => trivial
  | asking caller op question point => cases point with
    | opening result => exact fun same => closed (closes same)
    | leave result => exact fun same => closed (closes same)
    | _ => trivial
  | _ => trivial

theorem Stage.Acts.closes (acts : stage.Acts me thread w e) (formed : stage.Formed)
    (closes : stage.Closes w) : e.stage.Closes e.world := by
  cases acts with
  | goto moves => cases moves <;> simp_all [Stage.Closes, Monitoring.Closes, Stage.Formed, Belongs]
  | ask moves => cases moves with
    | «seal» => exact fun _ => rfl
    | install =>
      obtain ⟨unit, rfl⟩ := formed.2
      intro same
      cases same
    | _ => trivial
  | @answer caller op question point =>
    obtain ⟨-, -, asks⟩ := formed
    cases question with
    | openGate h => cases point with
      | opening result => exact closes
      | _ => cases asks
    | _ =>
      cases point <;> cases asks
      trivial
  | @leave caller op result => cases caller <;> cases result <;> trivial
  | _ => trivial

theorem Stage.Acts.opens (acts : stage.Acts me thread w e) (gate : Nat) :
    e.world.completions (.gate gate) = w.completions (.gate gate) ∨
      (e.world.completions (.gate gate)).outcome = some .success := by
  cases acts with
  | @answer caller op question point =>
    cases question with
    | openGate h =>
      by_cases same : Handle.gate gate = h
      · subst same
        cases ended : (w.completions (.gate gate)).outcome <;>
          simp [World.answer, World.finish, Completion.finish, ended]
      · simp [World.answer, World.finish, same]
    | _ => exact Or.inl rfl
  | _ => exact Or.inl rfl

namespace System

variable {s t : System}

/-- A unit may be anybody's, but a gate is known only once it has been handed out. -/
def Knows (s : System) : Handle → Prop
  | .unit _ => True
  | .gate id => .handed (.gate id) ∈ s.deeds

/-- Reached without a gate being made current that nobody can know of. -/
inductive Proper : System → Prop where
  | start (units : Nat → Completion) (first : Nat) : Proper (.new units first)
  | next {s t : System} (action : Action) (before : Proper s)
      (known : ∀ thread unit, action = .call thread (.advance unit) → s.Knows unit)
      (performed : s.perform? action = some t) : Proper t

theorem Proper.reachable (proper : s.Proper) : s.Reachable := by
  induction proper with
  | start units first => exact .start units first
  | next action before known performed ih => exact .next action ih performed

structure Handed (s : System) (number : Nat) : Prop where
  world : s.world.Old number
  stages : ∀ strand ∈ s.strands, strand.stage.Old number
  deeds : ∀ gate, .handed (.gate gate) ∈ s.deeds → s.Behind gate number

private theorem Handed.knows (handed : s.Handed number) {h : Handle} (knows : s.Knows h) : h.Old number := by
  cases h with
  | unit id => trivial
  | gate id => exact (handed.deeds id knows).le

/-- It is enough that no gate is known, or handed out, that was not in place before. -/
theorem Handed.keep {next : Nat} (handed : s.Handed number) (le : number ≤ next)
    (behind : ∀ gate, s.Behind gate number → t.Behind gate next) (world : t.world.Old number)
    (stages : ∀ strand ∈ t.strands, strand ∈ s.strands ∨ strand.stage.Old number)
    (deeds : ∀ gate, .handed (.gate gate) ∈ t.deeds →
      .handed (.gate gate) ∈ s.deeds ∨ s.Behind gate number) : t.Handed next where
  world := world.le le
  stages strand member := by
    obtain old | new := stages strand member
    · exact (handed.stages strand old).le le
    · exact new.le le
  deeds gate told := by
    obtain before | now := deeds gate told
    · exact behind gate (handed.deeds gate before)
    · exact behind gate now

private theorem Proper.handed_next (before : s.Proper) (gated : s.Gated number) (handed : s.Handed number)
    {action : Action} (known : ∀ thread unit, action = .call thread (.advance unit) → s.Knows unit)
    (performed : s.perform? action = some t) : ∃ next, t.Gated next ∧ t.Handed next := by
  have reach := before.reachable
  obtain ⟨next, le, later, behind⟩ := reach.gated_next gated performed
  refine ⟨next, later, ?_⟩
  cases action with
  | call thread op =>
    cases Option.some.inj performed
    refine handed.keep le behind handed.world ?_ fun _ => Or.inl
    intro strand member
    refine (List.mem_append.mp member).imp_right fun same => ?_
    rw [List.mem_singleton.mp same]
    refine ⟨?_, nofun⟩
    rintro unit rfl
    exact handed.knows (known thread unit rfl)
  | wait thread =>
    cases Option.some.inj performed
    refine handed.keep le behind handed.world ?_ fun _ => Or.inl
    intro strand member
    refine (List.mem_append.mp member).imp_right fun same => ?_
    rw [List.mem_singleton.mp same]
    trivial
  | step place =>
    obtain ⟨strand, e, found, acts, rfl⟩ := acts_of_perform performed
    have member := List.mem_of_getElem? found
    have own := handed.stages strand member
    obtain ⟨world, stage⟩ := acts.old (reach.formed member) gated.world.gate handed.world own
    refine handed.keep le behind world ?stages ?deeds
    case stages =>
      intro other there
      refine (List.mem_or_eq_of_mem_set there).imp_right fun same => ?_
      rw [same]
      exact stage
    case deeds =>
      intro gate told
      rw [deeds_effect] at told
      refine (List.mem_append.mp told).imp_right fun now => ?_
      -- The strand that hands the gate out has the monitor, so that no advance is under way.
      obtain ⟨inside, still, old⟩ := acts.handed now own
      refine ⟨old, ?_⟩
      intro other there ending
      obtain ⟨elsewhere, here⟩ := List.mem_iff_getElem?.mp there
      obtain rfl := reach.alone found inside here ending.inside
      obtain rfl : strand = other := Option.some.inj (found.symm.trans here)
      exact absurd ending still
  | finish | interrupt =>
    cases Option.some.inj performed
    have world := handed.world
    exact handed.keep le behind ⟨world.current, world.failed⟩ (fun _ => Or.inl) fun _ => Or.inl

theorem Proper.handed (proper : s.Proper) : ∃ number, s.Gated number ∧ s.Handed number := by
  induction proper with
  | start units first =>
    obtain ⟨number, gated⟩ := (Reachable.start units first).gated
    refine ⟨number, gated, ⟨trivial, nofun⟩, ?_, ?_⟩
    · intro strand member
      cases member
    · intro gate told
      cases List.mem_singleton.mp told
  | next action before known performed ih =>
    obtain ⟨number, gated, handed⟩ := ih
    exact before.handed_next gated handed known performed

private theorem Reachable.held_handles (reach : s.Reachable) {strand : Strand} (member : strand ∈ s.strands) :
    strand.stage.Held s.deeds := by
  refine reach.invariant (fun s => ∀ strand ∈ s.strands, strand.stage.Held s.deeds)
    ?start ?begin ?finish ?interrupt ?step strand member
  case start =>
    intro units first strand member
    cases member
  case begin =>
    intro s new ih fresh strand member
    obtain old | same := List.mem_append.mp member
    · exact ih strand old
    · rw [List.mem_singleton.mp same]
      obtain atStart | ⟨op, atStart⟩ := fresh <;> rw [atStart] <;> trivial
  case finish =>
    intro s id outcome ih
    exact ih
  case interrupt =>
    intro s thread ih
    exact ih
  case step =>
    intro s place acting e reach ih found acts strand member
    rw [deeds_effect]
    obtain old | rfl := List.mem_or_eq_of_mem_set member
    · exact (ih strand old).append e.deeds
    · have present := List.mem_of_getElem? found
      exact acts.held (reach.formed present) (ih acting present)

theorem Reachable.closes (reach : s.Reachable) {strand : Strand} (member : strand ∈ s.strands) :
    strand.stage.Closes s.world := by
  refine reach.invariant (fun s => ∀ strand ∈ s.strands, strand.stage.Closes s.world)
    ?start ?begin ?finish ?interrupt ?step strand member
  case start =>
    intro units first strand member
    cases member
  case begin =>
    intro s new ih fresh strand member
    obtain old | same := List.mem_append.mp member
    · exact ih strand old
    · rw [List.mem_singleton.mp same]
      obtain atStart | ⟨op, atStart⟩ := fresh <;> rw [atStart] <;> trivial
  case finish =>
    intro s id outcome ih strand member
    exact (ih strand member).stable fun closed => closed
  case interrupt =>
    intro s thread ih strand member
    exact (ih strand member).stable fun closed => closed
  case step =>
    intro s place acting e reach ih found acts strand member
    have present := List.mem_of_getElem? found
    have formed := reach.formed present
    obtain old | rfl := List.mem_or_eq_of_mem_set member
    · exact (ih strand old).stable (acts.lasts formed (reach.known present)).isSealed
    · exact acts.closes formed (ih acting present)

private theorem Reachable.gate_success (reach : s.Reachable) {gate : Nat} {outcome : Outcome}
    (ended : (s.world.completions (.gate gate)).outcome = some outcome) : outcome = .success := by
  refine reach.invariant (fun s => ∀ gate outcome,
    (s.world.completions (.gate gate)).outcome = some outcome → outcome = .success)
    ?start ?begin ?finish ?interrupt ?step gate outcome ended
  case start =>
    intro units first gate outcome ended
    cases ended
  case begin =>
    intro s strand ih _
    exact ih
  case finish =>
    intro s id how ih gate outcome ended
    have same : ((s.change (s.world.finish (.unit id) how)).world.completions (.gate gate)) =
        s.world.completions (.gate gate) := by
      simp [change, World.finish]
    rw [same] at ended
    exact ih gate outcome ended
  case interrupt =>
    intro s thread ih
    exact ih
  case step =>
    intro s place strand e _ ih _ acts gate outcome ended
    obtain same | success := acts.opens gate
    · rw [effect, same] at ended
      exact ih gate outcome ended
    · rw [effect, success] at ended
      exact (Option.some.inj ended).symm

def advances (s : System) : Action → Bool
  | .step place =>
    match s.strands[place]? with
    | some ⟨_, .calling _ (.advance _) (.leave (.truth true))⟩ => true
    | _ => false
  | _ => false

def seals (s : System) : Action → Bool
  | .step place =>
    match s.strands[place]? with
    | some ⟨_, .calling _ .seal (.leave _)⟩ => true
    | _ => false
  | _ => false

/-- How many of the actions of a run count, each judged where it is taken. -/
def count (counts : System → Action → Bool) (s : System) : List Action → Nat
  | [] => 0
  | action :: rest => (counts s action).toNat + (s.perform? action).elim 0 (count counts · rest)

theorem of_advances {action : Action} (advances : s.advances action = true) :
    ∃ place thread caller unit, action = .step place ∧
      s.strands[place]? = some ⟨thread, .calling caller (.advance unit) (.leave (.truth true))⟩ := by
  unfold System.advances at advances
  split at advances
  · rename_i place
    split at advances
    · rename_i thread caller unit found
      exact ⟨place, thread, caller, unit, rfl, found⟩
    · cases advances
  · cases advances

private theorem of_seals {action : Action} (seals : s.seals action = true) :
    ∃ place thread caller result, action = .step place ∧
      s.strands[place]? = some ⟨thread, .calling caller .seal (.leave result)⟩ := by
  unfold System.seals at seals
  split at seals
  · rename_i place
    split at seals
    · rename_i thread caller result found
      exact ⟨place, thread, caller, result, rfl, found⟩
    · cases seals
  · cases seals

theorem Reachable.opened (reach : s.Reachable) (gated : s.Gated number) {gate : Nat}
    (behind : s.Behind gate number) {action : Action}
    (returns : s.advances action = true ∨ s.seals action = true) : s.world.Finished (.gate gate) := by
  obtain advances | seals := returns
  · obtain ⟨place, thread, caller, unit, rfl, found⟩ := of_advances advances
    have member := List.mem_of_getElem? found
    have less := behind.lt _ member ⟨unit, rfl⟩
    exact (gated.owes _ member rfl).past gate less
  · obtain ⟨place, thread, caller, result, rfl, found⟩ := of_seals seals
    have member := List.mem_of_getElem? found
    have tidy : s.world.Tidy number := gated.owes _ member rfl
    obtain less | rfl := Nat.lt_or_eq_of_le behind.le
    · exact tidy.past gate less
    · exact tidy.closed (reach.closes member rfl)

theorem Reachable.finished_run (reach : s.Reachable) {h : Handle} (finished : s.world.Finished h)
    {actions : List Action} (ran : s.run? actions = some t) : t.world.Finished h := by
  induction actions generalizing s with
  | nil =>
    cases Option.some.inj ran
    exact finished
  | cons action rest ih =>
    obtain ⟨middle, performed, ran⟩ := Option.bind_eq_some_iff.mp ran
    exact ih (.next action reach performed) ((reach.lasts performed).grows.finished finished) ran

private theorem Reachable.opened_run (reach : s.Reachable) (gated : s.Gated number) {gate : Nat}
    (behind : s.Behind gate number) {actions : List Action} (ran : s.run? actions = some t)
    (returns : 0 < s.count advances actions + s.count seals actions) : t.world.Finished (.gate gate) := by
  induction actions generalizing s number with
  | nil => cases returns
  | cons action rest ih =>
    obtain ⟨middle, performed, ran⟩ := Option.bind_eq_some_iff.mp ran
    by_cases now : s.advances action = true ∨ s.seals action = true
    · have finished := (reach.lasts performed).grows.finished (reach.opened gated behind now)
      exact Reachable.finished_run (.next action reach performed) finished ran
    · obtain ⟨next, -, later, still⟩ := reach.gated_next gated performed
      refine ih (.next action reach performed) later (still gate behind) ran ?_
      obtain ⟨unadvanced, unsealed⟩ := not_or.mp now
      simpa [count, performed, Bool.eq_false_iff.mpr unadvanced, Bool.eq_false_iff.mpr unsealed] using returns

theorem Proper.opens (proper : s.Proper) {gate : Nat} (handed : .handed (.gate gate) ∈ s.deeds)
    {actions : List Action} (ran : s.run? actions = some t)
    (returns : 0 < s.count advances actions + s.count seals actions) : t.world.Finished (.gate gate) := by
  obtain ⟨number, gated, known⟩ := proper.handed
  exact proper.reachable.opened_run gated (known.deeds gate handed) ran returns

/-- Whoever waits on a gate goes on once an advance has succeeded or a seal has returned. -/
theorem Proper.releases (proper : s.Proper) {place thread gate : Nat} {drive : Drive Unit}
    {turn : Turn Handle} (waits : s.strands[place]? = some ⟨thread, .awaiting drive turn (.gate gate)⟩)
    {actions : List Action} (ran : s.run? actions = some t)
    (returns : 0 < s.count advances actions + s.count seals actions)
    (still : t.strands[place]? = some ⟨thread, .awaiting drive turn (.gate gate)⟩) :
    ∃ u, t.perform? (.step place) = some u ∧
      u.strands[place]? = some ⟨thread, .turning drive .inquire⟩ := by
  have reach := proper.reachable
  have later := reach.run actions ran
  have member := List.mem_of_getElem? waits
  have handed : .handed (.gate gate) ∈ s.deeds := reach.held_handles member
  obtain ⟨-, rfl⟩ : drive = .turning () ∧ turn = .awaiting := reach.formed member
  obtain ⟨outcome, ended⟩ := Option.isSome_iff_exists.mp (proper.opens handed ran returns)
  obtain rfl := later.gate_success ended
  have acted : Stage.step? place thread t.world (.awaiting drive .awaiting (.gate gate)) =
      some ⟨t.world, .turning drive .inquire, []⟩ := by
    simp [Stage.step?, Completion.look, ended, Outcome.waited, Turn.resume]
  refine ⟨t.effect place thread ⟨t.world, .turning drive .inquire, []⟩, ?_, ?_⟩
  · simp [perform?, still, acted]
  · exact List.getElem?_set_self (List.getElem?_eq_some_iff.mp still).1

end System

end TransferLifecycle.Monitoring
