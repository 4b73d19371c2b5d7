import Mathlib.Logic.Function.Iterate
import TransferLifecycle.Proofs.Metering.Interleaving

/-! What a call has read of the counters where it stands. Whatever word it answers with was held by its counter
in a state in which the call was under way, and the states of several words come in the order of the loads. -/
namespace TransferLifecycle.Metering

namespace System

def isMoving (s : System) : Bool := s.progress.isMoving && s.passed

end System

inductive Task.Stands (course : List System) : Task → Strand → Prop where
  | adding {bytes stage} : Stands course (.add bytes) (.adding bytes stage)
  | setting {total} : Stands course (.setTotal total) (.setting total)
  | hasSet {total} : Stands course (.setTotal total) (.hasSet total)
  | asking {question} : Stands course (.ask question) (.asking question)
  | answered {question m} (read : m ∈ course) :
    Stands course (.ask question) (.answered (question.answer m.progress))
  | reading : Stands course .snapshot (.reading .ofBytes)
  | readBytes {m} (read : m ∈ course) : Stands course .snapshot (.reading (.ofTotal m.progress.bytes))
  | taken {m n} (read : [m, n].Sublist course) :
    Stands course .snapshot
      (.reading (.taken ⟨m.progress.bytes, n.progress.total, percentOf m.progress.bytes n.progress.total⟩))
  | estimating : Stands course .estimate (.estimating .ofTotal)
  | foundUnknown {m} (read : m ∈ course) (unknown : m.progress.total = none) :
    Stands course .estimate (.estimating (.made none))
  | foundTotal {m total} (read : m ∈ course) (known : m.progress.total = some total) :
    Stands course .estimate (.estimating (.ofStart total))
  | foundStill {n total} (read : n ∈ course) (still : n.isMoving = false) :
    Stands course .estimate (.estimating (.ofBytes total false))
  | foundStarted {m n total} (read : [m, n].Sublist course) (known : m.progress.total = some total)
      (started : (n.progress.started && n.passed) = true) :
    Stands course .estimate (.estimating (.ofSpeed total))
  | foundSpeed {m n k total} (read : [m, n, k].Sublist course) (known : m.progress.total = some total)
      (started : (n.progress.started && n.passed) = true) (moving : k.progress.bytes ≠ 0) :
    Stands course .estimate (.estimating (.ofBytes total true))
  | stayed {n} (read : n ∈ course) (still : n.isMoving = false) :
    Stands course .estimate (.estimating (.made none))
  | exceeded {m o total} (read : [m, o].Sublist course) (known : m.progress.total = some total)
      (beyond : ¬ o.progress.bytes < total) :
    Stands course .estimate (.estimating (.made none))
  | subtracted {m n k o total} (read : [m, n, k, o].Sublist course) (known : m.progress.total = some total)
      (started : (n.progress.started && n.passed) = true) (moving : k.progress.bytes ≠ 0)
      (below : o.progress.bytes < total) :
    Stands course .estimate (.estimating (.made (some (total - o.progress.bytes))))

/-- What a call comes to with nobody in between. -/
def Task.whole (p : Progress) (passed : Bool) : Task → Progress × Strand
  | .add bytes => (p.add bytes, .adding bytes .made)
  | .setTotal total => (p.setTotal total, .hasSet total)
  | .ask question => (p, .answered (question.answer p))
  | .snapshot => (p, .reading (.taken p.snapshot))
  | .estimate => (p, .estimating (.made (if passed then p.remaining else none)))

namespace Task

variable {course later : List System} {task : Task} {strand : Strand} {s : System} {e : Effect}

theorem Stands.mono (stands : task.Stands course strand) (sub : course.Sublist later) :
    task.Stands later strand := by
  cases stands with
  | adding => exact .adding
  | setting => exact .setting
  | hasSet => exact .hasSet
  | asking => exact .asking
  | answered read => exact .answered (sub.subset read)
  | reading => exact .reading
  | readBytes read => exact .readBytes (sub.subset read)
  | taken read => exact .taken (read.trans sub)
  | estimating => exact .estimating
  | foundUnknown read unknown => exact .foundUnknown (sub.subset read) unknown
  | foundTotal read known => exact .foundTotal (sub.subset read) known
  | foundStill read still => exact .foundStill (sub.subset read) still
  | foundStarted read known started => exact .foundStarted (read.trans sub) known started
  | foundSpeed read known started moving => exact .foundSpeed (read.trans sub) known started moving
  | stayed read still => exact .stayed (sub.subset read) still
  | exceeded read known beyond => exact .exceeded (read.trans sub) known beyond
  | subtracted read known started moving below => exact .subtracted (read.trans sub) known started moving below

theorem Stands.step (stands : task.Stands course strand) (acts : strand.Acts s.progress s.passed e) :
    task.Stands (course ++ [s]) e.strand := by
  have here : s ∈ course ++ [s] := List.mem_append_right _ List.mem_cons_self
  have next {read : List System} (sub : read.Sublist course) : (read ++ [s]).Sublist (course ++ [s]) :=
    sub.append (List.Sublist.refl _)
  -- A load reads the state at the end of the course, so the earlier loads stay before it.
  cases stands with
  | adding => cases acts <;> exact .adding
  | setting =>
    cases acts
    exact .hasSet
  | asking =>
    cases acts
    exact .answered here
  | reading =>
    cases acts
    exact .readBytes here
  | readBytes read =>
    cases acts
    exact .taken (next (List.singleton_sublist.mpr read))
  | estimating =>
    cases acts with
    | findUnknown unknown => exact .foundUnknown here unknown
    | findTotal known => exact .foundTotal here known
  | foundTotal read known =>
    cases acts with
    | findIdle idle =>
      refine .foundStill here ?_
      rw [System.isMoving, Progress.isMoving, Bool.and_right_comm, idle, Bool.false_and]
    | findStarted started => exact .foundStarted (next (List.singleton_sublist.mpr read)) known started
  | foundStill read still =>
    cases acts
    exact .stayed (List.mem_append_left _ read) still
  | foundStarted read known started =>
    cases acts
    by_cases nothing : s.progress.bytes = 0
    · have still : s.isMoving = false := by simp [System.isMoving, Progress.isMoving, nothing]
      rw [nothing]
      exact .foundStill here still
    · rw [bne_iff_ne.mpr nothing]
      exact .foundSpeed (next read) known started nothing
  | foundSpeed read known started moving =>
    cases acts with
    | subtract below => exact .subtracted (next read) known started moving below
    | giveUp vain =>
      -- What the speed was read from does not matter here, only that the total was loaded first.
      have first : [_].Sublist course := List.Sublist.trans (List.Sublist.cons_cons _ (List.nil_sublist _)) read
      exact .exceeded (next first) known (vain.resolve_left (by decide))
  | _ => cases acts

end Task

namespace System

variable {s t : System} {place : Nat} {strand : Strand} {actions : List Action}

/-- The last call takes its next step, and nobody else does anything. -/
theorem run_last {p : Progress} {passed : Bool} {before : List Strand} {stored : List UInt64} {strand : Strand}
    {e : Effect} (n : Nat) (stepped : strand.step? p passed = some e) :
    run? ⟨p, passed, before ++ [strand], stored⟩ (List.replicate (n + 1) (.step before.length)) =
      run? ⟨e.progress, passed, before ++ [e.strand], stored ++ e.stores⟩
        (List.replicate n (.step before.length)) := by
  simp [List.replicate_succ, run?, perform?, stepped, effect]

private theorem run_estimating {p : Progress} {passed : Bool} {stored : List UInt64} (before : List Strand) (n : Nat)
    (stage : Progress.Estimate) :
    ∃ k ≤ n, run? ⟨p, passed, before ++ [.estimating stage], stored⟩
        (List.replicate k (.step before.length)) =
      some ⟨p, passed, before ++ [.estimating ((Progress.Estimate.step p passed)^[n] stage)], stored⟩ := by
  induction n generalizing stage with
  | zero => exact ⟨0, Nat.le_refl _, rfl⟩
  | succ n ih =>
    cases stage with
    -- An estimate that was made early takes no more steps of the run.
    | made rest =>
      obtain ⟨k, bound, ran⟩ := ih (.made rest)
      exact ⟨k, Nat.le_succ_of_le bound, ran⟩
    | _ =>
      obtain ⟨k, bound, ran⟩ := ih (Progress.Estimate.step p passed _)
      refine ⟨k + 1, Nat.succ_le_succ bound, (run_last k rfl).trans ?_⟩
      rw [List.append_nil]
      exact ran

theorem run_whole (s : System) (task : Task) :
    ∃ n t, n ≤ task.strand.left ∧ (s.begin task).run? (List.replicate n (.step s.strands.length)) = some t ∧
      t.progress = (task.whole s.progress s.passed).1 ∧
      t.strands = s.strands ++ [(task.whole s.progress s.passed).2] := by
  obtain ⟨p, passed, strands, stored⟩ := s
  cases task with
  | add | snapshot => exact ⟨2, _, Nat.le_refl _, (run_last 1 rfl).trans (run_last 0 rfl), rfl, rfl⟩
  | setTotal | ask => exact ⟨1, _, Nat.le_refl _, run_last 0 rfl, rfl, rfl⟩
  | estimate =>
    obtain ⟨n, bound, ran⟩ := run_estimating strands 4 .ofTotal
    have last := Progress.Estimate.undisturbed p passed
    exact ⟨n, _, bound, ran, rfl, congrArg (strands ++ [.estimating ·]) last⟩

end System

end TransferLifecycle.Metering
