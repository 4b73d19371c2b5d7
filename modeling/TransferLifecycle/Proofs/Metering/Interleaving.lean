import TransferLifecycle.Progress

/-! The counters of one transfer, and any number of calls that add bytes, set the total and read both, in any
interleaving of their loads and stores. Each load is a step of its own, so a call that needs several of them may
find the counters changed in between. Time passes on its own. -/
namespace TransferLifecycle.Metering

inductive Question where
  | bytes | total | hasStarted
  deriving DecidableEq, Repr

inductive Answer where
  | bytes (bytes : UInt64)
  | total (total : Option UInt64)
  | hasStarted (started : Bool)

def Question.answer (p : Progress) : Question → Answer
  | .bytes => .bytes p.bytes
  | .total => .total p.total
  | .hasStarted => .hasStarted p.started

inductive Strand where
  | adding (bytes : UInt64) (stage : Progress.Addition)
  | setting (total : UInt64)
  | hasSet (total : UInt64)
  | asking (question : Question)
  | answered (answer : Answer)
  | reading (stage : Progress.Reading)
  | estimating (stage : Progress.Estimate)

structure Effect where
  progress : Progress
  strand : Strand
  stores : List UInt64 := []

def Strand.step? (p : Progress) (passed : Bool) : Strand → Option Effect
  | .adding _ .made | .hasSet _ | .answered _ | .reading (.taken _) | .estimating (.made _) => none
  | .adding bytes stage =>
    let (progress, stage) := stage.step p bytes
    some { progress := progress, strand := .adding bytes stage }
  | .setting total => some { progress := p.setTotal total, strand := .hasSet total, stores := [total] }
  | .asking question => some { progress := p, strand := .answered (question.answer p) }
  | .reading stage => some { progress := p, strand := .reading (stage.step p) }
  | .estimating stage => some { progress := p, strand := .estimating (stage.step p passed) }

inductive Strand.Acts (p : Progress) (passed : Bool) : Strand → Effect → Prop where
  | note {bytes} :
    Acts p passed (.adding bytes .ofStart)
      { progress := { p with started := true }, strand := .adding bytes .ofBytes }
  | count {bytes} :
    Acts p passed (.adding bytes .ofBytes)
      { progress := { p with bytes := p.bytes + bytes }, strand := .adding bytes .made }
  | store {total} :
    Acts p passed (.setting total) { progress := p.setTotal total, strand := .hasSet total, stores := [total] }
  | answer {question} :
    Acts p passed (.asking question) { progress := p, strand := .answered (question.answer p) }
  | readBytes :
    Acts p passed (.reading .ofBytes) { progress := p, strand := .reading (.ofTotal p.bytes) }
  | readTotal {bytes} :
    Acts p passed (.reading (.ofTotal bytes))
      { progress := p, strand := .reading (.taken ⟨bytes, p.total, percentOf bytes p.total⟩) }
  | findUnknown (unknown : p.total = none) :
    Acts p passed (.estimating .ofTotal) { progress := p, strand := .estimating (.made none) }
  | findTotal {total} (known : p.total = some total) :
    Acts p passed (.estimating .ofTotal) { progress := p, strand := .estimating (.ofStart total) }
  | findIdle {total} (idle : (p.started && passed) = false) :
    Acts p passed (.estimating (.ofStart total)) { progress := p, strand := .estimating (.ofBytes total false) }
  | findStarted {total} (started : (p.started && passed) = true) :
    Acts p passed (.estimating (.ofStart total)) { progress := p, strand := .estimating (.ofSpeed total) }
  | findSpeed {total} :
    Acts p passed (.estimating (.ofSpeed total))
      { progress := p, strand := .estimating (.ofBytes total (p.bytes != 0)) }
  | subtract {total} (below : p.bytes < total) :
    Acts p passed (.estimating (.ofBytes total true))
      { progress := p, strand := .estimating (.made (some (total - p.bytes))) }
  | giveUp {total moving} (vain : moving = false ∨ ¬ p.bytes < total) :
    Acts p passed (.estimating (.ofBytes total moving)) { progress := p, strand := .estimating (.made none) }

private theorem Strand.acts_estimating {p : Progress} {passed : Bool} {stage : Progress.Estimate} {e : Effect}
    (stepped : (estimating stage).step? p passed = some e) : (estimating stage).Acts p passed e := by
  cases stage with
  | ofTotal =>
    cases Option.some.inj stepped
    cases known : p.total <;> simp only [Progress.Estimate.step, known]
    · exact .findUnknown known
    · exact .findTotal known
  | ofStart total =>
    cases Option.some.inj stepped
    cases started : p.started && passed <;>
      simp only [Progress.Estimate.step, started, Bool.false_eq_true, if_true, if_false]
    · exact .findIdle started
    · exact .findStarted started
  | ofSpeed total =>
    cases Option.some.inj stepped
    exact .findSpeed
  | ofBytes total moving =>
    cases Option.some.inj stepped
    by_cases below : p.bytes < total
    · cases moving <;>
        simp only [Progress.Estimate.step, below, decide_true, Bool.and_true, Bool.false_eq_true, if_true,
          if_false]
      · exact .giveUp (Or.inl rfl)
      · exact .subtract below
    · simp only [Progress.Estimate.step, below, decide_false, Bool.and_false, Bool.false_eq_true, if_false]
      exact .giveUp (Or.inr below)
  | made => cases stepped

theorem Strand.acts {p : Progress} {passed : Bool} {strand : Strand} {e : Effect}
    (stepped : strand.step? p passed = some e) : strand.Acts p passed e := by
  cases strand with
  | adding bytes stage =>
    cases stage with
    | ofStart =>
      cases Option.some.inj stepped
      exact .note
    | ofBytes =>
      cases Option.some.inj stepped
      exact .count
    | made => cases stepped
  | setting total =>
    cases Option.some.inj stepped
    exact .store
  | asking question =>
    cases Option.some.inj stepped
    exact .answer
  | reading stage =>
    cases stage with
    | ofBytes =>
      cases Option.some.inj stepped
      exact .readBytes
    | ofTotal bytes =>
      cases Option.some.inj stepped
      exact .readTotal
    | taken => cases stepped
  | estimating stage => exact acts_estimating stepped
  | hasSet | answered => cases stepped

def Strand.left : Strand → Nat
  | .adding _ .made | .hasSet _ | .answered _ | .reading (.taken _) | .estimating (.made _) => 0
  | .adding _ .ofBytes | .setting _ | .asking _ | .reading (.ofTotal _) | .estimating (.ofBytes _ _) => 1
  | .adding _ .ofStart | .reading .ofBytes | .estimating (.ofSpeed _) => 2
  | .estimating (.ofStart _) => 3
  | .estimating .ofTotal => 4

theorem Strand.Acts.left_lt {p : Progress} {passed : Bool} {strand : Strand} {e : Effect}
    (acts : strand.Acts p passed e) : e.strand.left < strand.left := by
  cases acts <;> simp only [Strand.left] <;> omega

theorem Strand.goes (p : Progress) (passed : Bool) {strand : Strand} (unfinished : strand.left ≠ 0) :
    ∃ e, strand.step? p passed = some e := by
  cases strand with
  | adding bytes stage =>
    cases stage with
    | made => exact (unfinished rfl).elim
    | _ => exact ⟨_, rfl⟩
  | reading stage =>
    cases stage with
    | taken => exact (unfinished rfl).elim
    | _ => exact ⟨_, rfl⟩
  | estimating stage =>
    cases stage with
    | made => exact (unfinished rfl).elim
    | _ => exact ⟨_, rfl⟩
  | setting | asking => exact ⟨_, rfl⟩
  | hasSet | answered => exact (unfinished rfl).elim

inductive Task where
  | add (bytes : UInt64)
  | setTotal (total : UInt64)
  | ask (question : Question)
  | snapshot
  | estimate
  deriving DecidableEq, Repr

def Task.strand : Task → Strand
  | .add bytes => .adding bytes .ofStart
  | .setTotal total => .setting total
  | .ask question => .asking question
  | .snapshot => .reading .ofBytes
  | .estimate => .estimating .ofTotal

structure System where
  progress : Progress := {}
  passed : Bool := false
  strands : List Strand := []
  stored : List UInt64 := []

inductive Action where
  | begin (task : Task)
  | step (place : Nat)
  | tick
  deriving DecidableEq, Repr

namespace System

/-- Counters for a transfer whose total may be known from the beginning. -/
def created : Option UInt64 → System
  | none => {}
  | some total => { progress := Progress.withTotal total, stored := [total] }

def begin (s : System) (task : Task) : System := { s with strands := s.strands ++ [task.strand] }

def effect (s : System) (place : Nat) (e : Effect) : System :=
  { s with
    progress := e.progress
    strands := s.strands.set place e.strand
    stored := s.stored ++ e.stores }

def perform? (s : System) : Action → Option System
  | .begin task => some (s.begin task)
  | .step place => do
    let strand ← s.strands[place]?
    let e ← strand.step? s.progress s.passed
    return s.effect place e
  | .tick => some { s with passed := s.progress.started }

def run? (s : System) : List Action → Option System
  | [] => some s
  | action :: rest => (s.perform? action).bind (run? · rest)

def course (s : System) : List Action → List System
  | [] => []
  | action :: rest => s :: (s.perform? action).elim [] (course · rest)

inductive Reachable (origin : Option UInt64) : System → Prop where
  | start : Reachable origin (created origin)
  | next {s t : System} (action : Action) (before : Reachable origin s)
      (performed : s.perform? action = some t) : Reachable origin t

variable {origin : Option UInt64} {s t : System} {place : Nat} {strand : Strand}

theorem acts_of_perform (performed : s.perform? (.step place) = some t) :
    ∃ strand e, s.strands[place]? = some strand ∧ strand.Acts s.progress s.passed e ∧
      t = s.effect place e := by
  obtain ⟨strand, found, rest⟩ := Option.bind_eq_some_iff.mp performed
  obtain ⟨e, stepped, same⟩ := Option.bind_eq_some_iff.mp rest
  exact ⟨strand, e, found, strand.acts stepped, (Option.some.inj same).symm⟩

theorem perform_step {e : Effect} (found : s.strands[place]? = some strand)
    (stepped : strand.step? s.progress s.passed = some e) :
    s.perform? (.step place) = some (s.effect place e) := by
  simp [perform?, found, stepped]

theorem Reachable.invariant (reach : s.Reachable origin) (holds : System → Prop)
    (start : holds (created origin)) (begin : ∀ s task, holds s → holds (s.begin task))
    (step : ∀ s place strand e, holds s → s.strands[place]? = some strand →
      strand.Acts s.progress s.passed e → holds (s.effect place e))
    (tick : ∀ s, holds s → holds { s with passed := s.progress.started }) : holds s := by
  induction reach with
  | start => exact start
  | next action _ performed ih =>
    cases action with
    | begin task =>
      cases Option.some.inj performed
      exact begin _ task ih
    | step place =>
      obtain ⟨strand, e, found, acts, rfl⟩ := acts_of_perform performed
      exact step _ place strand e ih found acts
    | tick =>
      cases Option.some.inj performed
      exact tick _ ih

theorem Reachable.run (before : s.Reachable origin) (actions : List Action)
    (ran : s.run? actions = some t) : t.Reachable origin := by
  induction actions generalizing s with
  | nil =>
    cases Option.some.inj ran
    exact before
  | cons action rest ih =>
    obtain ⟨middle, performed, ran⟩ := Option.bind_eq_some_iff.mp ran
    exact ih (.next action before performed) ran

theorem Reachable.course (before : s.Reachable origin) (actions : List Action) :
    ∀ m ∈ s.course actions, m.Reachable origin := by
  induction actions generalizing s with
  | nil => exact fun m member => nomatch member
  | cons action rest ih =>
    intro m member
    obtain rfl | later := List.mem_cons.mp member
    · exact before
    · cases performed : s.perform? action with
      | none =>
        rw [performed] at later
        cases later
      | some middle =>
        rw [performed] at later
        exact ih (.next action before performed) m later

theorem found_next {action : Action} (found : s.strands[place]? = some strand)
    (performed : s.perform? action = some t) :
    action ≠ .step place ∧ t.strands[place]? = some strand ∨
      action = .step place ∧ ∃ e, strand.Acts s.progress s.passed e ∧ t.strands[place]? = some e.strand := by
  have inside := (List.getElem?_eq_some_iff.mp found).1
  cases action with
  | begin task =>
    cases Option.some.inj performed
    refine Or.inl ⟨(by intro same; cases same), ?_⟩
    rw [begin, List.getElem?_append_left inside, found]
  | step acting =>
    obtain ⟨other, e, here, acts, rfl⟩ := acts_of_perform performed
    by_cases same : acting = place
    · subst same
      cases here.symm.trans found
      exact Or.inr ⟨rfl, e, acts, List.getElem?_set_self inside⟩
    · refine Or.inl ⟨fun equal => same (Action.step.inj equal), ?_⟩
      rw [effect, List.getElem?_set_ne same, found]
  | tick =>
    cases Option.some.inj performed
    exact Or.inl ⟨(by intro same; cases same), found⟩

theorem ends {actions : List Action} (found : s.strands[place]? = some strand)
    (ran : s.run? actions = some t) :
    ∃ last, t.strands[place]? = some last ∧ last.left + actions.count (.step place) ≤ strand.left := by
  induction actions generalizing s strand with
  | nil =>
    cases Option.some.inj ran
    exact ⟨strand, found, Nat.le_refl _⟩
  | cons action rest ih =>
    obtain ⟨middle, performed, later⟩ := Option.bind_eq_some_iff.mp ran
    obtain ⟨other, stays⟩ | ⟨rfl, e, acts, moved⟩ := found_next found performed
    · rw [List.count_cons_of_ne other]
      exact ih stays later
    · obtain ⟨last, there, bound⟩ := ih moved later
      have lower := acts.left_lt
      rw [List.count_cons_self]
      exact ⟨last, there, by omega⟩

end System

end TransferLifecycle.Metering
