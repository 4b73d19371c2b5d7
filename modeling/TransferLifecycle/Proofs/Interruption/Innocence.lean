import TransferLifecycle.Proofs.Interruption.Keeping
import TransferLifecycle.Proofs.Monitoring.Returning

/-! What an interrupted wait leaves behind. It has changed no unit, no transfer and no monitor: a wait only
changes a monitor when it finds that a unit has failed, and then it has something else to report. The
transfer errors that waits report are those of units that have finished, never an interruption. -/
namespace TransferLifecycle.Interruption

open Monitoring (Handle)
open UnitMonitor (Operation Question Result Point)
open Wait (Drive Turn)

def released (m : UnitMonitor Handle) : UnitMonitor Handle := { m with holder := none }

namespace World

/-- Units, transfers and monitors are what they were, apart from who has a monitor. -/
structure Spares (w later : World) : Prop where
  completions : later.completions = w.completions
  transfers : later.transfers = w.transfers
  monitors : later.monitors.map released = w.monitors.map released
  gates : later.gates = w.gates

def Failed (w : World) (h : Handle) : Prop := (w.completions h).isFailed = true

def latched (w : World) (k : Nat) : Option Handle := w.monitors[k]?.bind (·.failed)

variable {w later : World} {k : Nat} {m : UnitMonitor Handle}

private theorem latched_of_found (found : w.monitors[k]? = some m) : w.latched k = m.failed := by
  rw [latched, found, Option.bind_some]

theorem Failed.stable {h : Handle} (failed : w.Failed h) (grows : w.Grows later) : later.Failed h := by
  unfold Failed Completion.isFailed at failed ⊢
  cases some : (w.completions h).outcome with
  | none => simp [some] at failed
  | some outcome => rwa [grows h outcome some, ← some]

private theorem Failed.ne_none {h : Handle} (failed : w.Failed h) : (w.completions h).outcome ≠ none := by
  intro none
  rw [Failed, Completion.isFailed, none] at failed
  cases failed

private theorem Failed.error_waited {h : Handle} (failed : w.Failed h) {outcome : Outcome}
    (some : (w.completions h).outcome = some outcome) (next : Nat) :
    ∃ failure, (outcome.waited next).1 = .error (.execution failure) := by
  unfold Failed Completion.isFailed at failed
  rw [some] at failed
  cases outcome with
  | success => cases failed
  | failure f => exact ⟨f, rfl⟩
  | cancellation => exact ⟨_, rfl⟩

private theorem spares_after {view : Monitoring.World} (found : w.monitors[k]? = some m)
    (completions : view.completions = w.completions) (monitor : released view.monitor = released m)
    (gates : view.gates = w.gates) : w.Spares (w.after k view) := by
  refine ⟨completions, rfl, ?_, gates⟩
  rw [after, List.map_set, monitor]
  apply List.ext_getElem?
  intro other
  by_cases same : k = other
  · subst same
    have bound : k < (w.monitors.map released).length := by
      simpa using (List.getElem?_eq_some_iff.mp found).1
    rw [List.getElem?_set_self bound, List.getElem?_map, found]
    rfl
  · rw [List.getElem?_set_ne same]

end World

/-- The wait has found a unit that has failed, or that the transfer is done, and is going to report that. -/
def Resolved (w : World) (k : Nat) : Monitoring.Stage → Prop
  | .calling (.wait _ _) _ (.act _) => ∃ unit, w.latched k = some unit ∧ w.Failed unit
  | .calling (.wait _ _) _ (.leave (.handle h)) | .turning _ (.await h) | .awaiting _ _ h => w.Failed h
  | .calling (.wait _ _) _ (.leave (.truth b)) => b = true
  | .turning _ (.leave result) => result = .ok true ∨ ∃ failure, result = .error (.execution failure)
  | .driving (.leave result) | .waited result => result ≠ .error .interrupted
  | _ => False

variable {me thread k : Nat} {w : World} {m : UnitMonitor Handle} {stage : Monitoring.Stage}
  {e : Monitoring.Effect}

private theorem Resolved.unbound (resolved : Resolved w k stage) : bound stage = false := by
  unfold bound
  split
  · obtain wrong | ⟨failure, wrong⟩ := resolved <;> cases wrong
  · exact absurd rfl resolved
  · exact absurd rfl resolved
  · rfl

private theorem spares_or_resolved (found : w.monitors[k]? = some m) (acts : stage.Acts me thread (w.facing m) e)
    (formed : stage.Formed) (known : stage.Known (w.facing m)) (waits : stage.waits = true) :
    w.Spares (w.after k e.world) ∨ Resolved (w.after k e.world) k e.stage := by
  cases acts with
  | @goto caller op point later next moves =>
    cases caller with
    | itself => cases waits
    | wait drive turn =>
      cases moves with
      | latch =>
        refine Or.inr ⟨m.current, ?_, known.2.2 rfl⟩
        rw [World.latched_of_found (World.monitors_after found _)]
        rfl
      | _ => exact Or.inl (World.spares_after found rfl rfl rfl)
  | @ask caller op point later question next moves =>
    cases caller with
    | itself => cases waits
    | wait drive turn =>
      obtain ⟨⟨-, made⟩, belongs⟩ := formed
      cases moves with
      | «seal» => obtain ⟨-, rfl⟩ | ⟨-, rfl⟩ := made <;> cases belongs
      | replace => obtain ⟨-, rfl⟩ | ⟨-, rfl⟩ := made <;> cases belongs.1
      | install => obtain ⟨-, rfl⟩ | ⟨-, rfl⟩ := made <;> obtain ⟨unit, wrong⟩ := belongs <;> cases wrong
      | _ => exact Or.inl (World.spares_after found rfl rfl rfl)
  | @answer caller op question point =>
    cases caller with
    | itself => cases waits
    | wait drive turn =>
      obtain ⟨⟨-, made⟩, belongs, asks⟩ := formed
      cases question with
      | newGate =>
        cases point <;> try cases asks
        obtain ⟨-, rfl⟩ | ⟨-, rfl⟩ := made <;> obtain ⟨unit, wrong⟩ := belongs <;> cases wrong
      | openGate h =>
        cases point <;> try cases asks
        obtain ⟨-, rfl⟩ | ⟨-, rfl⟩ := made
        · exact absurd rfl belongs.2.2
        · exact absurd rfl belongs.2.1
      | _ => exact Or.inl (World.spares_after found rfl rfl rfl)
  | _ => exact Or.inl (World.spares_after found rfl rfl rfl)

theorem Resolved.latched {drive : Drive Unit} {turn : Turn Handle} {op o : Operation Handle}
    (resolved : Resolved w k (.calling (.wait drive turn) op (.act o))) (found : w.monitors[k]? = some m) :
    ∃ unit, m.failed = some unit ∧ w.Failed unit := by
  obtain ⟨unit, latched, failed⟩ := resolved
  rw [World.latched_of_found found] at latched
  exact ⟨unit, latched, failed⟩

theorem Resolved.step (resolved : Resolved w k stage) (found : w.monitors[k]? = some m)
    (acts : stage.Acts me thread (w.facing m) e) (formed : stage.Formed) :
    Resolved (w.after k e.world) k e.stage := by
  cases acts with
  | @goto caller op point later next moves =>
    cases caller with
    | itself => cases point <;> cases resolved
    | wait drive turn =>
      obtain ⟨⟨-, made⟩, belongs⟩ := formed
      cases moves with
      | nothingMore => exact absurd rfl belongs.2
      | doneByFailure => rfl
      | notDone none =>
        obtain ⟨unit, latched, -⟩ := resolved.latched found
        cases none.symm.trans latched
      | handFailed failed =>
        obtain ⟨unit, latched, broken⟩ := resolved.latched found
        cases failed.symm.trans latched
        exact broken
      | handLast none =>
        obtain ⟨unit, latched, -⟩ := resolved.latched found
        cases none.symm.trans latched
      | _ => cases resolved
  | @ask caller op point later question next moves =>
    cases caller with
    | itself => cases point <;> cases resolved
    | wait drive turn =>
      obtain ⟨⟨-, made⟩, belongs⟩ := formed
      cases moves with
      | replace => obtain ⟨-, rfl⟩ | ⟨-, rfl⟩ := made <;> cases belongs.1
      | lookAtLast none | lookAtCurrent none =>
        obtain ⟨unit, latched, -⟩ := resolved.latched found
        cases none.symm.trans latched
      | _ => cases resolved
  | @leave caller op result =>
    cases caller with
    | itself => cases result <;> cases resolved
    | wait drive turn =>
      obtain ⟨⟨rfl, ⟨rfl, rfl⟩ | ⟨rfl, rfl⟩⟩, gives⟩ := formed
      · cases result with
        | handle h => exact resolved
        | _ => cases gives
      · cases result with
        | truth b => exact Or.inl (congrArg _ resolved)
        | _ => cases gives
  | @finished drive turn h outcome some =>
    obtain ⟨rfl, rfl⟩ := formed
    obtain ⟨failure, waited⟩ := World.Failed.error_waited resolved some w.next
    change Resolved _ k (.turning _ (Turn.resume .awaiting (.waited (outcome.waited w.next).1)))
    rw [waited]
    exact Or.inr ⟨failure, rfl⟩
  | interrupted none => exact absurd none (World.Failed.ne_none resolved)
  | @finishTurn drive result =>
    obtain ⟨rfl, -⟩ := formed
    obtain rfl | ⟨failure, rfl⟩ := resolved <;> nofun
  | await => exact resolved
  | report => exact resolved
  | _ => cases resolved

theorem Resolved.stable {later : World} (resolved : Resolved w k stage) (grows : w.Grows later)
    (kept : stage.inside = true → later.monitors[k]? = w.monitors[k]?) : Resolved later k stage := by
  unfold Resolved at resolved ⊢
  split at resolved
  case h_1 =>
    obtain ⟨unit, latched, failed⟩ := resolved
    rw [World.latched, ← kept rfl] at latched
    exact ⟨unit, latched, failed.stable grows⟩
  case h_2 | h_3 | h_4 => exact World.Failed.stable resolved grows
  all_goals exact resolved

def Immune (w : World) (strand : Strand) : Prop :=
  match strand.stage with
  | .watching k stage => stage.waits = false ∨ Resolved w k stage
  | _ => False

theorem Immune.unheeding {strand : Strand} (immune : Immune w strand) : strand.stage.heeds = false := by
  obtain ⟨thread, kind, stage⟩ := strand
  cases stage with
  | watching k stage =>
    obtain call | resolved := immune
    · cases stage with
      | driving | turning | waited => cases call
      | _ => rfl
    · exact resolved.unbound
  | _ => cases immune

private theorem lasting_immune : System.Lasting Immune where
  own w place strand e formed known acts immune := by
    obtain ⟨thread, kind, stage⟩ := strand
    cases acts with
    | watch found acts =>
      refine immune.imp (fun call => ?_) (fun resolved => resolved.step found acts formed)
      rw [acts.waits, call]
    | _ => cases immune
  stable w later strand formed grows kept immune := by
    obtain ⟨thread, kind, stage⟩ := strand
    cases stage with
    | watching k stage =>
      exact immune.imp_right fun resolved => resolved.stable grows fun inside => kept k ⟨rfl, inside⟩
    | _ => cases immune

theorem Stage.Acts.spares {stage : Stage} {e : Effect} (kind : Option Session.WaitKind)
    (acts : stage.Acts me thread w e) (formed : stage.Formed) (known : stage.Known w) :
    w.Spares e.world ∨ Immune e.world ⟨thread, kind, e.stage⟩ := by
  cases acts with
  | @watch k m stage e found acts =>
    cases waits : stage.waits with
    | false => exact Or.inr (Or.inl (acts.waits.trans waits))
    | true => exact (spares_or_resolved found acts formed (known m found) waits).imp_right Or.inr
  | _ => exact Or.inl ⟨rfl, rfl, rfl, rfl⟩

/-- The error is that of a unit that has finished, or there was no monitor. -/
def World.Accounts (w : World) (error : TransferError) : Prop :=
  error = .noMonitor ∨
    ∃ h outcome, (w.completions h).outcome = some outcome ∧ outcome.error? = some error

theorem World.Accounts.stable {later : World} {error : TransferError} (accounts : w.Accounts error)
    (grows : w.Grows later) : later.Accounts error := by
  obtain none | ⟨h, outcome, some, same⟩ := accounts
  · exact Or.inl none
  · exact Or.inr ⟨h, outcome, grows h outcome some, same⟩

def Sourced (w : World) (strand : Strand) : Prop :=
  match strand.stage with
  | .watching _ (.turning _ (.leave (.error (.execution failure)))) => w.Accounts failure.unwrap
  | .watching _ (.driving (.leave (.error (.transfer error))))
  | .watching _ (.waited (.error (.transfer error))) | .detached (.error (.transfer error)) =>
    w.Accounts error
  | _ => True

private theorem sourced_of_acts (strand : Strand) (acts : stage.Acts me thread (w.facing m) e)
    (formed : stage.Formed) (sourced : Sourced w { strand with stage := .watching k stage }) :
    Sourced (w.after k e.world) { strand with stage := .watching k e.stage } := by
  cases acts with
  | @report result =>
    rcases result with error | value
    · cases error <;> exact sourced
    · trivial
  | @finishTurn drive result =>
    obtain ⟨rfl, -⟩ := formed
    rcases result with error | value
    · cases error <;> exact sourced
    · cases value <;> trivial
  | @finished drive turn h outcome some =>
    obtain ⟨rfl, rfl⟩ := formed
    cases outcome with
    | success => trivial
    | failure f => exact Or.inr ⟨h, .failure f, some, rfl⟩
    | cancellation => exact Or.inr ⟨h, .cancellation, some, rfl⟩
  | @interrupted drive turn h none pending =>
    obtain ⟨rfl, rfl⟩ := formed
    trivial
  | @leave caller op result =>
    cases caller with
    | itself => trivial
    | wait drive turn =>
      obtain ⟨⟨rfl, ⟨rfl, rfl⟩ | ⟨rfl, rfl⟩⟩, -⟩ := formed <;> cases result <;> trivial
  | _ => trivial

private theorem lasting_sourced : System.Lasting Sourced where
  own w place strand e formed known acts sourced := by
    obtain ⟨thread, kind, stage⟩ := strand
    cases acts with
    | watch found acts => exact sourced_of_acts ⟨thread, kind, _⟩ acts formed sourced
    | detach => exact Or.inl rfl
    | _ => trivial
  stable w later strand formed grows kept sourced := by
    unfold Sourced at sourced ⊢
    split at sourced
    case h_5 => trivial
    all_goals exact sourced.stable grows

def Strand.Fails (strand : Strand) (error : TransferError) : Prop :=
  strand.report? = some (.completion (.error (.transfer error))) ∨
    strand.report? = some (.exception (.ok (some error)))

private theorem driven_of_report {kind : Option Session.WaitKind} {result : Except WaitError Unit}
    {error : TransferError}
    (fails : Session.waitReport kind (.driven result) = some (.completion (.error (.transfer error))) ∨
      Session.waitReport kind (.driven result) = some (.exception (.ok (some error)))) :
    result = .error (.transfer error) := by
  rcases kind with _ | (_ | _) <;> rcases result with (own | _) | value <;>
    simp_all [Session.waitReport, Wait.exception]

theorem stage_of_fails {strand : Strand} {error : TransferError} (fails : strand.Fails error) :
    strand.stage = .detached (.error (.transfer error)) ∨
      ∃ k, strand.stage = .watching k (.waited (.error (.transfer error))) := by
  obtain ⟨thread, kind, stage⟩ := strand
  cases stage with
  | watching k stage => cases stage with
    | waited result =>
      obtain rfl := driven_of_report fails
      exact Or.inr ⟨k, rfl⟩
    | _ => obtain wrong | wrong := fails <;> cases wrong
  | detached result =>
    obtain rfl := driven_of_report fails
    exact Or.inl rfl
  | awaited result => obtain wrong | wrong := fails <;> simp [Strand.report?, Session.waitReport] at wrong
  | attaching | awaiting => obtain wrong | wrong := fails <;> cases wrong

namespace System

variable {s t u : System} {actions : List Action} {place : Nat} {strand : Strand} {error : TransferError}

private theorem Fresh.sourced (fresh : Fresh strand) (w : World) : Sourced w strand := by
  obtain ⟨thread, kind, stage⟩ := strand
  obtain ⟨transfer, rfl⟩ | ⟨h, rfl⟩ | ⟨k, op, rfl⟩ := fresh <;> trivial

theorem Reachable.accounts (reach : s.Reachable) (found : s.strands[place]? = some strand)
    (fails : strand.Fails error) : s.world.Accounts error := by
  have sourced := lasting_sourced.reachable (fun w strand fresh => fresh.sourced w) reach found
  obtain ⟨thread, kind, stage⟩ := strand
  obtain rfl | ⟨k, rfl⟩ := stage_of_fails fails <;> exact sourced

theorem Reachable.spares (reach : s.Reachable) (performed : s.perform? (.step place) = some t)
    (ran : t.run? actions = some u) (found : u.strands[place]? = some strand)
    (interrupted : strand.interrupted = true) : s.world.Spares t.world := by
  cases turns performed with
  | begin _ _ other | arrange _ other => exact (other place rfl).elim
  | @step _ actor e here acts =>
    obtain spares | immune := acts.spares actor.kind (reach.formed here) (reach.known here)
    · exact spares
    · have there : (s.effect place actor e).strands[place]? = some { actor with stage := e.stage } :=
        List.getElem?_set_self (List.getElem?_eq_some_iff.mp here).1
      have after : (s.effect place actor e).Reachable := .next _ reach performed
      obtain ⟨last, same, still⟩ := lasting_immune.run after ran there immune
      cases Option.some.inj (same.symm.trans found)
      rw [Strand.interrupted_eq, still.unheeding, Bool.and_false] at interrupted
      cases interrupted

end System

end TransferLifecycle.Interruption
