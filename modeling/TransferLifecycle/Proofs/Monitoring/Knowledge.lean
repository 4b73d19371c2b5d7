import TransferLifecycle.Proofs.Monitoring.Exclusion

/-! What an operation knows at each of its points, and what lasts. A unit that has finished keeps
its outcome, a failure once latched stays latched, a sealed monitor keeps its last unit, and so a
transfer that is done stays done. -/
namespace TransferLifecycle.Monitoring

open UnitMonitor (Operation Question Answer Result Point Moves)
open Wait (Drive Turn)

namespace World

def Finished (w : World) (h : Handle) : Prop := (w.completions h).isFinished = true

def Failed (w : World) (h : Handle) : Prop := (w.completions h).isFailed = true

/-- A failure is latched, or the last unit has finished in some way. -/
def Done (w : World) : Prop :=
  (∃ unit, w.monitor.failed = some unit) ∨ w.monitor.isSealed = true ∧ w.Finished w.monitor.current

def Grows (w later : World) : Prop :=
  ∀ h outcome, (w.completions h).outcome = some outcome → (later.completions h).outcome = some outcome

structure Lasts (w later : World) : Prop where
  grows : w.Grows later
  failed : ∀ unit, w.monitor.failed = some unit → later.monitor.failed = some unit
  isSealed : w.monitor.isSealed = true → later.monitor.isSealed = true
  current : w.monitor.isSealed = true → later.monitor.current = w.monitor.current

variable {w later : World}

theorem Grows.finished (grows : w.Grows later) {h : Handle} (finished : w.Finished h) :
    later.Finished h := by
  obtain ⟨outcome, some⟩ := Option.isSome_iff_exists.mp finished
  exact Option.isSome_iff_exists.mpr ⟨outcome, grows h outcome some⟩

theorem Grows.failed (grows : w.Grows later) {h : Handle} (failed : w.Failed h) : later.Failed h := by
  unfold Failed Completion.isFailed at failed ⊢
  cases some : (w.completions h).outcome with
  | none => simp [some] at failed
  | some outcome => rwa [grows h outcome some, ← some]

theorem Grows.of_eq (same : later.completions = w.completions) : w.Grows later := by
  intro h outcome some
  rwa [same]

theorem grows_finish (w : World) (h : Handle) (outcome : Outcome) : w.Grows (w.finish h outcome) := by
  intro k kept some
  simp only [finish]
  split
  case isTrue same =>
    subst same
    simp [Completion.finish, some]
  case isFalse => exact some

theorem grows_answer (w : World) (question : Question Handle) : w.Grows (w.answer question).2 := by
  cases question with
  | openGate h => exact grows_finish w h .success
  | _ => exact Grows.of_eq rfl

theorem Lasts.done (lasts : w.Lasts later) (done : w.Done) : later.Done := by
  obtain ⟨unit, failed⟩ | ⟨closed, finished⟩ := done
  · exact Or.inl ⟨unit, lasts.failed unit failed⟩
  · refine Or.inr ⟨lasts.isSealed closed, ?_⟩
    rw [lasts.current closed]
    exact lasts.grows.finished finished

theorem Grows.lasts (grows : w.Grows later) (same : later.monitor = w.monitor) : w.Lasts later where
  grows := grows
  failed unit failed := by rw [same, failed]
  isSealed closed := by rw [same, closed]
  current _ := by rw [same]

theorem Lasts.of_eq (kept : later.completions = w.completions) (same : later.monitor = w.monitor) :
    w.Lasts later :=
  (Grows.of_eq kept).lasts same

end World

def Open (w : World) (op : Operation Handle) : Prop :=
  ∀ unit, op = .advance unit → w.monitor.isSealed = false

def Tells (w : World) : Operation Handle → Result Handle → Prop
  | .isDone, .truth true => w.Done
  | .currentHandle, .handle h => ∀ unit, w.monitor.failed = some unit → h = unit
  | _, _ => True

def Known (w : World) (op : Operation Handle) : Point Handle → Prop
  | .enter _ | .check _ => True
  | .latch _ | .act _ | .awaitGate | .install _ => Open w op
  | .judging _ => Open w op ∧ w.monitor.failed = none
  | .verdict _ hasFailed =>
    Open w op ∧ w.monitor.failed = none ∧ (hasFailed = true → w.Failed w.monitor.current)
  | .looking _ => w.monitor.failed = none ∧ (op = .isDone → w.monitor.isSealed = true)
  | .settle _ isFinished =>
    w.monitor.failed = none ∧ (op = .isDone → w.monitor.isSealed = true) ∧
      (isFinished = true → w.Finished w.monitor.current)
  | .opening result | .leave result => Tells w op result

def Stage.Known (w : World) : Stage → Prop
  | .calling _ op point => Monitoring.Known w op point
  | .asking _ op question point =>
    Monitoring.Known w op point ∧ ∀ h, (question = .isFailed h ∨ question = .isFinished h) →
      h = w.monitor.current
  | _ => True

theorem Tells.stable {w later : World} {op : Operation Handle} {result : Result Handle}
    (tells : Tells w op result) (grows : w.Grows later) (same : later.monitor = w.monitor) :
    Tells later op result := by
  unfold Tells at tells ⊢
  split at tells
  · exact (grows.lasts same).done tells
  · simpa [same] using tells
  · trivial

theorem Known.stable {w later : World} {op : Operation Handle} {point : Point Handle}
    (known : Known w op point) (grows : w.Grows later) (same : later.monitor = w.monitor) :
    Known later op point := by
  cases point with
  | verdict o hasFailed =>
    obtain ⟨opened, none, failed⟩ := known
    rw [Known, Open, same]
    exact ⟨opened, none, fun seen => grows.failed (failed seen)⟩
  | settle o isFinished =>
    obtain ⟨none, closed, finished⟩ := known
    rw [Known, same]
    exact ⟨none, closed, fun seen => grows.finished (finished seen)⟩
  | opening result => exact Tells.stable known grows same
  | leave result => exact Tells.stable known grows same
  | enter o | check o => trivial
  | _ => simpa [Known, Open, same] using known

private theorem known_goto {me : Nat} {w : World} {m : UnitMonitor Handle} {op : Operation Handle}
    {point next : Point Handle} (moves : Moves me w.monitor point m (.goto next))
    (belongs : Belongs op point) (known : Known w op point) :
    Known { w with monitor := m } op next := by
  cases moves with
  | @answer o isFinished other =>
    obtain ⟨rfl, rfl | rfl⟩ := belongs
    · obtain ⟨none, closed, finished⟩ := known
      cases isFinished with
      | true => exact Or.inr ⟨closed rfl, finished rfl⟩
      | false => trivial
    · exact (other rfl).elim
  | _ => simp_all [Known, Open, Tells, Belongs, World.Done]

private theorem known_ask {me : Nat} {w : World} {m : UnitMonitor Handle} {op : Operation Handle}
    {point next : Point Handle} {question : Question Handle}
    (moves : Moves me w.monitor point m (.ask question next)) (belongs : Belongs op point)
    (known : Known w op point) :
    Known { w with monitor := m } op next ∧
      ∀ h, (question = .isFailed h ∨ question = .isFinished h) → h = m.current := by
  cases moves with
  | install =>
    obtain ⟨unit, rfl⟩ := belongs
    exact ⟨trivial, nofun⟩
  | _ => simp_all [Known, Open, Tells, Belongs]

private theorem lasts_move {me : Nat} {w : World} {m : UnitMonitor Handle} {op : Operation Handle}
    {point : Point Handle} {next : Next (Point Handle) (Question Handle) (Result Handle)}
    (moves : Moves me w.monitor point m next) (belongs : Belongs op point) (known : Known w op point) :
    w.Lasts { w with monitor := m } := by
  cases moves <;> constructor <;> simp_all [World.Grows, Known, Open, Belongs]

private theorem known_resume {w : World} {op : Operation Handle} {point : Point Handle}
    {question : Question Handle} (asks : Asks question point) (known : Known w op point)
    (about : ∀ h, (question = .isFailed h ∨ question = .isFinished h) → h = w.monitor.current) :
    Known (w.answer question).2 op (UnitMonitor.resume point (w.answer question).1) := by
  cases question with
  | openGate h => cases point with
    | opening result => exact Tells.stable known (World.grows_finish w h .success) rfl
    | _ => cases asks
  | _ =>
    cases point <;>
      simp_all [Asks, Known, Open, World.answer, UnitMonitor.resume, World.Failed, World.Finished]

theorem Stage.known_of_outside {stage : Stage} (w : World) (formed : stage.Formed)
    (outside : stage.inside = false) : stage.Known w := by
  cases stage with
  | calling caller op point => cases point with
    | enter => trivial
    | _ => cases outside
  | asking caller op question point =>
    rw [Stage.inside, formed.inside_of_asking] at outside
    cases outside
  | _ => trivial

theorem Stage.Known.stable {stage : Stage} {w later : World} (known : stage.Known w)
    (grows : w.Grows later) (same : later.monitor = w.monitor) : stage.Known later := by
  cases stage with
  | calling caller op point => exact Monitoring.Known.stable known grows same
  | asking caller op question point =>
    obtain ⟨known, about⟩ := known
    refine ⟨known.stable grows same, ?_⟩
    rw [same]
    exact about
  | _ => trivial

variable {me thread : Nat} {w : World} {stage : Stage} {e : Effect}

theorem Stage.Acts.lasts (acts : stage.Acts me thread w e) (formed : stage.Formed)
    (known : stage.Known w) : w.Lasts e.world := by
  cases acts with
  | goto moves => exact lasts_move moves formed.2 known
  | ask moves => exact lasts_move moves formed.2 known
  | leave => exact lasts_move (Moves.leave : Moves me _ _ _ _) formed.2 known
  | answer => exact (World.grows_answer w _).lasts (World.monitor_answer w _)
  | _ => exact World.Lasts.of_eq rfl rfl

theorem Stage.Acts.known (acts : stage.Acts me thread w e) (formed : stage.Formed)
    (known : stage.Known w) : e.stage.Known e.world := by
  cases acts with
  | goto moves => exact known_goto moves formed.2 known
  | ask moves => exact known_ask moves formed.2 known
  | @leave caller op result => cases caller <;> cases result <;> trivial
  | answer => exact known_resume formed.2.2 known.1 known.2
  | _ => trivial

theorem Stage.Acts.latches (acts : stage.Acts me thread w e) (known : stage.Known w) {unit : Handle}
    (failed : e.world.monitor.failed = some unit) :
    w.monitor.failed = some unit ∨
      .latched unit ∈ e.deeds ∧ unit = w.monitor.current ∧ w.Failed unit := by
  cases acts with
  | goto moves =>
    cases moves with
    | latch =>
      obtain rfl := Option.some.inj failed
      exact Or.inr ⟨List.mem_singleton.mpr rfl, rfl, known.2.2 rfl⟩
    | _ => exact Or.inl failed
  | ask moves => cases moves <;> exact Or.inl failed
  | answer => exact Or.inl (by simpa using failed)
  | _ => exact Or.inl failed

theorem Stage.Acts.failed_of_told (acts : stage.Acts me thread w e) {unit : Handle}
    (told : .latched unit ∈ e.deeds) : e.world.monitor.failed = some unit := by
  cases acts with
  | goto moves => cases moves <;> simp_all [deedsOf]
  | ask moves => cases moves <;> simp [deedsOf] at told
  | @leave caller op result => cases result <;> simp [deedsOf] at told
  | _ => cases told

theorem Stage.Acts.replaces (acts : stage.Acts me thread w e) :
    e.world.monitor.current = w.monitor.current ∨ .current e.world.monitor.current ∈ e.deeds := by
  cases acts with
  | goto moves => cases moves <;> exact Or.inl rfl
  | ask moves =>
    cases moves with
    | replace => exact Or.inr (List.mem_singleton.mpr rfl)
    | _ => exact Or.inl rfl
  | answer => exact Or.inl (by simp)
  | _ => exact Or.inl rfl

namespace System

theorem Reachable.known {s : System} (reach : s.Reachable) {strand : Strand}
    (member : strand ∈ s.strands) : strand.stage.Known s.world := by
  refine reach.invariant (fun s => ∀ strand ∈ s.strands, strand.stage.Known s.world)
    ?start ?begin ?finish ?interrupt ?step strand member
  case start =>
    intro units first strand member
    cases member
  case begin =>
    intro s new ih fresh strand member
    obtain old | same := List.mem_append.mp member
    · exact ih strand old
    · rw [List.mem_singleton.mp same]
      exact Stage.known_of_outside _ fresh.formed fresh.outside
  case finish =>
    intro s id outcome ih strand member
    exact (ih strand member).stable (World.grows_finish s.world (.unit id) outcome) rfl
  case interrupt =>
    intro s thread ih strand member
    exact (ih strand member).stable (World.Grows.of_eq rfl) rfl
  case step =>
    intro s place acting e reach ih found acts
    have member := List.mem_of_getElem? found
    refine reach.all_effect (fun w stage => stage.Known w) (fun w _ => Stage.known_of_outside w)
      ?_ ih found acts (acts.known (reach.formed member) (ih acting member))
    intro w later stage kept same known
    exact known.stable (World.Grows.of_eq kept) same

theorem Reachable.lasts {s t : System} (reach : s.Reachable) {action : Action}
    (performed : s.perform? action = some t) : s.world.Lasts t.world := by
  cases action with
  | step place =>
    obtain ⟨strand, e, found, acts, rfl⟩ := acts_of_perform performed
    have member := List.mem_of_getElem? found
    exact acts.lasts (reach.formed member) (reach.known member)
  | finish id outcome =>
    cases Option.some.inj performed
    exact (World.grows_finish s.world (.unit id) outcome).lasts rfl
  | _ =>
    cases Option.some.inj performed
    exact World.Lasts.of_eq rfl rfl

theorem Reachable.current_told {s : System} (reach : s.Reachable) :
    .current s.world.monitor.current ∈ s.deeds := by
  refine reach.invariant (fun s => .current s.world.monitor.current ∈ s.deeds)
    ?start ?begin ?finish ?interrupt ?step
  case start =>
    intro units first
    exact List.mem_singleton.mpr rfl
  case begin =>
    intro s strand ih _
    exact ih
  case finish =>
    intro s id outcome ih
    exact ih
  case interrupt =>
    intro s thread ih
    exact ih
  case step =>
    intro s place strand e _ ih _ acts
    rw [deeds_effect, List.mem_append]
    obtain same | told := acts.replaces
    · exact Or.inl (by rwa [effect, same])
    · exact Or.inr told

/-- Only a unit that was current is latched, and only once it has failed. -/
theorem Reachable.latched {s : System} (reach : s.Reachable) {unit : Handle}
    (failed : s.world.monitor.failed = some unit) : .current unit ∈ s.deeds ∧ s.world.Failed unit := by
  refine reach.invariant (fun s => ∀ unit, s.world.monitor.failed = some unit →
    .current unit ∈ s.deeds ∧ s.world.Failed unit) ?start ?begin ?finish ?interrupt ?step unit failed
  case start =>
    intro units first unit failed
    cases failed
  case begin =>
    intro s strand ih _
    exact ih
  case finish =>
    intro s id outcome ih unit failed
    obtain ⟨told, before⟩ := ih unit failed
    exact ⟨told, (World.grows_finish s.world (.unit id) outcome).failed before⟩
  case interrupt =>
    intro s thread ih
    exact ih
  case step =>
    intro s place strand e reach ih found acts unit failed
    have member := List.mem_of_getElem? found
    have lasts := acts.lasts (reach.formed member) (reach.known member)
    rw [deeds_effect, List.mem_append]
    obtain before | ⟨-, rfl, found_failed⟩ := acts.latches (reach.known member) failed
    · obtain ⟨told, failed⟩ := ih unit before
      exact ⟨Or.inl told, lasts.grows.failed failed⟩
    · exact ⟨Or.inl reach.current_told, lasts.grows.failed found_failed⟩

theorem Reachable.failed_of_told {s : System} (reach : s.Reachable) {unit : Handle}
    (told : .latched unit ∈ s.deeds) : s.world.monitor.failed = some unit := by
  refine reach.invariant (fun s => ∀ unit, .latched unit ∈ s.deeds →
    s.world.monitor.failed = some unit) ?start ?begin ?finish ?interrupt ?step unit told
  case start =>
    intro units first unit told
    cases List.mem_singleton.mp told
  case begin =>
    intro s strand ih _
    exact ih
  case finish =>
    intro s id outcome ih
    exact ih
  case interrupt =>
    intro s thread ih
    exact ih
  case step =>
    intro s place strand e reach ih found acts unit told
    have member := List.mem_of_getElem? found
    have lasts := acts.lasts (reach.formed member) (reach.known member)
    rw [deeds_effect, List.mem_append] at told
    obtain before | now := told
    · exact lasts.failed unit (ih unit before)
    · exact acts.failed_of_told now

end System

end TransferLifecycle.Monitoring
