import TransferLifecycle.Proofs.Interruption.Innocence

/-! What may be relied on when threads are interrupted while they wait: what an interruption that a wait
reports says, and what becomes of an interrupt that no wait reports. -/
namespace TransferLifecycle.Interruption

open Monitoring (Handle)

def Stage.told (result : Waited) : Stage → Stage
  | .watching k (.awaiting drive turn _) => .watching k (.turning drive (turn.resume (.waited result)))
  | .awaiting _ => .awaited result
  | stage => stage

private theorem Stage.Acts.wins {me thread : Nat} {w : World} {stage : Stage} {e : Effect} {h : Handle}
    {outcome : Outcome} (acts : stage.Acts me thread w e) (looks : stage.looksAt = some h)
    (finished : (w.completions h).outcome = some outcome) :
    e.world.tokens = w.tokens ∧ e.stage = stage.told (outcome.waited w.next).1 := by
  cases acts with
  | watch found acts => cases acts with
    | finished some =>
      cases looks
      cases finished.symm.trans some
      exact ⟨rfl, rfl⟩
    | interrupted none =>
      cases looks
      cases finished.symm.trans none
    | _ => cases looks
  | finished some =>
    cases looks
    cases finished.symm.trans some
    exact ⟨rfl, rfl⟩
  | interrupted none =>
    cases looks
    cases finished.symm.trans none
  | _ => cases looks

private theorem waited_ne_interrupted (outcome : Outcome) (next : Nat) :
    (outcome.waited next).1 ≠ .error .interrupted := by
  cases outcome <;> nofun

namespace System

variable {s t u : System} {actions : List Action} {place : Nat} {strand : Strand}

private theorem wins (found : s.strands[place]? = some strand) (performed : s.perform? (.step place) = some t)
    {h : Handle} {outcome : Outcome} (looks : strand.stage.looksAt = some h)
    (finished : (s.world.completions h).outcome = some outcome) :
    t.world.tokens = s.world.tokens ∧
      t.strands[place]? = some { strand with stage := strand.stage.told (outcome.waited s.world.next).1 } := by
  cases turns performed with
  | begin _ _ other | arrange _ other => exact (other place rfl).elim
  | @step _ actor e here acts =>
    obtain rfl := Option.some.inj (here.symm.trans found)
    obtain ⟨same, told⟩ := acts.wins looks finished
    refine ⟨same, ?_⟩
    rw [← told]
    exact List.getElem?_set_self (List.getElem?_eq_some_iff.mp here).1

private theorem not_steady_of_takesOnce (takes : TakesOnce place s actions) : ¬ Steady place s actions := by
  obtain ⟨before, t, u, after, passes, ⟨strand, -, takes⟩, -, -⟩ := takes
  intro steady
  have same := congrFun (steady before t u after passes) strand.thread
  rw [takes.cleared, takes.pending] at same
  simp [World.setToken] at same

/-- Where a run has come to, seen from its beginning, when threads were interrupted on the way. -/
structure Heedful (s : System) (actions : List Action) (u : System) : Prop where
  /-- An interruption that is reported is an interrupt of the own thread that the wait took, once. -/
  taken : ∀ place strand, u.strands[place]? = some strand → strand.interrupted = true →
    TakesOnce place s actions
  /-- A wait that comes to anything else has touched no interrupt. -/
  steady : ∀ place strand, u.strands[place]? = some strand → strand.stage.finished = true →
    strand.interrupted = false → Steady place s actions
  /-- An interrupt that is pending during a wait is reported by it or still pending when it is over. -/
  kept : ∀ before t middle v place x after strand last, s.run? before = some t → t.run? middle = some v →
    Passes s actions (before ++ middle) v (.step place) x after → t.strands[place]? = some strand →
    t.world.tokens strand.thread = true → x.strands[place]? = some last → last.stage.finished = true →
    last.interrupted = true ∨ x.world.tokens strand.thread = true
  /-- A unit that has finished when a wait looks at it wins over an interrupt. -/
  wins : ∀ before t place v after strand h outcome, Passes s actions before t (.step place) v after →
    t.strands[place]? = some strand → strand.stage.looksAt = some h →
    (t.world.completions h).outcome = some outcome →
    v.world.tokens = t.world.tokens ∧ (outcome.waited t.world.next).1 ≠ .error .interrupted ∧
      v.strands[place]? = some { strand with stage := strand.stage.told (outcome.waited t.world.next).1 }
  /-- No step of a wait that reports an interruption has changed a unit, a monitor or a transfer. -/
  spares : ∀ place strand, u.strands[place]? = some strand → strand.interrupted = true →
    ∀ before t v after, Passes s actions before t (.step place) v after → t.world.Spares v.world
  few : ∀ thread, u.interruptions thread ≤ actions.countP (Action.interrupts thread)
  /-- A wait that has taken an interrupt reports an interruption, whatever it was a wait for. -/
  unmasked : ∀ place strand, u.strands[place]? = some strand → strand.stage.finished = true →
    TakesOnce place s actions → strand.interrupted = true
  /-- A transfer error that is reported is that of a finished unit, or there was no monitor. -/
  accounts : ∀ place strand error, u.strands[place]? = some strand → strand.Fails error →
    Steady place s actions ∧ u.world.Accounts error

private theorem run?_append (s : System) (front back : List Action) :
    s.run? (front ++ back) = (s.run? front).bind (run? · back) := by
  induction front generalizing s with
  | nil => rfl
  | cons action rest ih =>
    rw [List.cons_append, run?, run?, Option.bind_assoc]
    exact congrArg _ (funext ih)

theorem Passes.onward {before after : List Action} {action : Action} (ran : s.run? actions = some u)
    (passes : Passes s actions before t action v after) : v.run? after = some u := by
  rw [passes.split, run?_append, passes.ran, Option.bind_some, run?, passes.performed] at ran
  exact ran

private theorem interrupted_of_fails {error : TransferError} (fails : strand.Fails error) :
    strand.stage.finished = true ∧ strand.interrupted = false := by
  obtain ⟨thread, kind, stage⟩ := strand
  obtain rfl | ⟨k, rfl⟩ := stage_of_fails fails <;>
    exact ⟨rfl, by rw [Strand.interrupted_eq]; rfl⟩

theorem heedful {w : World} (quiet : w.Quiet) (ran : run? { world := w } actions = some u) :
    Heedful { world := w } actions u := by
  have start : Reachable { world := w } := .start w quiet
  have steady : ∀ place strand, u.strands[place]? = some strand → strand.stage.finished = true →
      strand.interrupted = false → Steady place { world := w } actions := by
    intro place strand found finished other
    rw [Strand.interrupted_eq, finished, Bool.true_and] at other
    obtain ⟨-, steady⟩ | ⟨-, heeds, -⟩ := start.heeds_run ran place
    · exact steady
    · rw [heeds_of_found found, other] at heeds
      cases heeds
  refine ⟨?taken, steady, ?kept, ?wins, ?spares, ?few, ?unmasked, ?accounts⟩
  case taken =>
    intro place strand found interrupted
    rw [Strand.interrupted_eq, Bool.and_eq_true, ← heeds_of_found found] at interrupted
    obtain ⟨same, -⟩ | ⟨-, -, takes⟩ := start.heeds_run ran place
    · rw [interrupted.2] at same
      cases same
    · exact takes
  case kept =>
    intro before t middle v place x after strand last first second passes found pending there finished
    exact (start.run first).kept found pending second passes.performed there finished
  case wins =>
    intro before t place v after strand h outcome passes found looks finished
    obtain ⟨same, told⟩ := wins found passes.performed looks finished
    exact ⟨same, waited_ne_interrupted outcome _, told⟩
  case spares =>
    intro place strand found interrupted before t v after passes
    exact (start.run passes.ran).spares passes.performed (passes.onward ran) found interrupted
  case few =>
    intro thread
    have reported := u.interruptions_le thread
    have counted := start.taken_run ran thread
    rw [quiet.2 thread, show System.taken { world := w } thread = 0 from rfl, Bool.toNat_false] at counted
    omega
  case unmasked =>
    intro place strand found finished takes
    cases interrupted : strand.interrupted with
    | true => rfl
    | false => exact absurd (steady place strand found finished interrupted) (not_steady_of_takesOnce takes)
  case accounts =>
    intro place strand error found fails
    obtain ⟨finished, other⟩ := interrupted_of_fails fails
    exact ⟨steady place strand found finished other, (start.run ran).accounts found fails⟩

def steps (place count : Nat) : List Action := List.replicate count (.step place)

def lone : World where
  monitors := [{ current := .unit 0, gate := .gate 0 }]
  transfers := [some 0, none]
  gates := 1

/-- A wait passes over a unit and is interrupted before the gate. The interrupt of another thread, which
waits on the finished unit, stays pending; a third thread finds no monitor. -/
def passing : List Action :=
  [.wait 1 0 .completion] ++ steps 0 13 ++ [.finish 0 .success, .interrupt 2, .await 2 (.unit 0)] ++
    steps 1 1 ++ steps 0 21 ++ [.interrupt 1] ++ steps 0 4 ++ [.wait 3 1 .exception] ++ steps 2 1

theorem heedful_passing : lone.Quiet ∧ ∃ u, run? { world := lone } passing = some u ∧
    u.interruptions 1 = 1 ∧ u.world.tokens 1 = false ∧ u.interruptions 2 = 0 ∧ u.world.tokens 2 = true ∧
    (∃ strand, u.strands[2]? = some strand ∧ strand.Fails .noMonitor) ∧
    Heedful { world := lone } passing u := by
  have quiet : lone.Quiet := by
    refine ⟨fun m member => ?_, fun thread => rfl⟩
    rw [List.mem_singleton.mp member]
  exact ⟨quiet, _, rfl, rfl, rfl, rfl, rfl, ⟨_, rfl, Or.inr rfl⟩, heedful quiet rfl⟩

end System

end TransferLifecycle.Interruption
