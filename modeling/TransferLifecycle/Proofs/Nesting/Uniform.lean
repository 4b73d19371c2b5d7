import TransferLifecycle.Proofs.Dispatch.Answering
import TransferLifecycle.Proofs.Nesting.Order
import TransferLifecycle.Proofs.Nesting.Outline

/-! The executor makes no difference. Whether it runs emptyings inside the offer or leaves them to the
producers, and however it changes between the two, the program sees the same. Between two turns of the
program each run makes finitely many steps, and none gets stuck. -/
namespace TransferLifecycle.Nesting

open Dispatch

variable {α : Type}

def Answered (strand : Strand α) : Prop :=
  strand ≠ .standing .offered ∧ strand ≠ .standing .reached

private theorem answered_of_acts {d : Dispatcher α} {strand : Strand α} {act : Act} {e : Effect α}
    (acts : strand.Acts d act e) : Answered e.strand := by
  cases acts <;> exact ⟨nofun, nofun⟩

private theorem answered_of_reachable [BEq α] {s : System α} (reach : s.Reachable) {place : Nat}
    {strand : Strand α} (found : s.strands[place]? = some strand) : Answered strand := by
  refine reach.each (fun strand _ => Answered strand) ?_ ⟨nofun, nofun⟩ ?_ found
  · intro event
    exact ⟨nofun, nofun⟩
  · intro d strand act e deeds acts _
    exact answered_of_acts acts

private theorem exists_act {strand : Strand α} (d : Dispatcher α) (accepts : Bool) (answered : Answered strand)
    (calling : calls strand = false) (ended : ends strand = false) :
    ∃ e, strand.act? d (due accepts strand) = some e := by
  cases strand with
  | standing point => cases point with
    | arrive event => cases empty : d.chain.isEmpty <;> simp [Strand.act?, due, step, Strand.follow, empty]
    | claim | reclaim =>
      cases scheduled : d.scheduled <;> simp [Strand.act?, due, step, Strand.follow, scheduled]
    | take fate | recheck fate =>
      cases queue : d.queue <;> simp [Strand.act?, due, step, Strand.follow, queue]
    | inHand fate event => cases fate <;> exact ⟨_, rfl⟩
    | count fate => cases fate <;> exact ⟨_, rfl⟩
    | offered => exact (answered.1 rfl).elim
    | reached => exact (answered.2 rfl).elim
    | _ => exact ⟨_, rfl⟩
  | passing event pass => cases pass with
    | start => exact ⟨_, rfl⟩
    | visit snapshot index =>
      cases entry : (d.chain.view snapshot)[index]? <;> simp [Strand.act?, due, Pass.step, entry]
  | offering => cases accepts <;> exact ⟨_, rfl⟩
  | queued | accepted => exact ⟨_, rfl⟩
  | calling => cases calling
  | ended => cases ended

/-- How many steps a strand can make at most before it takes an event, calls a listener or ends. -/
def distance (drained : Bool) : Strand α → Nat
  | .standing point => match point with
    | .arrive _ => 60
    | .check _ => 59
    | .push _ => 58
    | .overflow => 33
    | .announceInline => 32
    | .claim => 30
    | .close => 29
    | .announceClosed => 28
    | .countRefusal => 27
    | .take _ => if drained then 24 else 20
    | .inHand _ _ => 34
    | .count _ => 31
    | .release _ => 23
    | .recheck _ => 22
    | .reclaim _ => if drained then 25 else 21
    | .turnAway | .finished | .offered | .reached => 1
  | .passing _ .start => 33
  | .passing _ (.visit _ _) => 32
  | _ => 0

/-- An event that waits in the queue makes for sixteen steps more. -/
def effort (queue : List Event) (strand : Strand α) : Nat :=
  distance queue.isEmpty strand + 16 * queue.length

private theorem effort_of_acts {d : Dispatcher α} {strand : Strand α} {e : Effect α}
    (acts : strand.Acts d .move e) (uncalled : calls e.strand = false) :
    effort e.core.queue (plain e.strand) < effort d.queue strand := by
  cases acts with
  | call => cases uncalled
  | push =>
    simp only [effort, distance, plain, List.length_append, List.length_singleton]
    omega
  | pop front =>
    simp only [effort, distance, plain, front, List.isEmpty_cons, List.length_cons]
    simp only [Bool.false_eq_true, if_false]
    omega
  | exhaust empty | leave empty =>
    simp [effort, distance, plain, empty]
  | findEvent filled =>
    simp [effort, distance, plain, filled]
  | claim | overflow | announceInline | countRefusal | countDelivered | countDropped | reclaim
  | reclaimLate =>
    simp only [effort, distance, plain]
    split <;> omega
  | _ =>
    simp only [effort, distance, plain]
    omega

def Outline.effort (o : Outline α) : Nat :=
  match o.stack with
  | [] => 0
  | (d, strand) :: _ => Nesting.effort (o.cores d).queue strand

private theorem Outline.effort_notice (o : Outline α) (d : Nat) (strand : Strand α) :
    (o.notice d strand).effort = o.effort := by
  cases strand <;> rfl

namespace Machine

section

variable [BEq α] {program : Program α} {accepts : Nat → Bool} {m n : Machine α}

private theorem exists_obey (turn : m.Turn) (command : Command α) : ∃ n, m.obey command = some n := by
  cases command with
  | fire | add | remove => exact ⟨_, rfl⟩
  | leave panicked =>
    simp only [obey]
    split
    case h_1 => exact ⟨_, rfl⟩
    case h_2 frame rest top =>
      have calling := turn frame (by rw [top]; rfl)
      unfold act
      cases stands : m.strand frame with
      | calling => exact ⟨_, rfl⟩
      | _ =>
        rw [stands] at calling
        cases calling

private theorem Sound.exists_step (sound : m.Sound) (opened : m.halted = false) :
    ∃ n, m.step program accepts = some n := by
  simp only [step, opened, Bool.false_eq_true, if_false]
  split
  case h_1 empty => exact exists_obey (by simp [Turn, empty]) _
  case h_2 frame rest top =>
    split
    case isTrue calling => exact exists_obey (by simpa [Turn, top] using calling) _
    case isFalse calling =>
      split
      case isTrue => exact ⟨_, rfl⟩
      case isFalse ended =>
        have live := Bool.eq_false_iff.mpr ended
        have answered := answered_of_reachable (sound.reach frame.1) (found_of_strand live)
        obtain ⟨e, acted⟩ := exists_act (m.systems frame.1).core (accepts m.clock) answered
          (Bool.eq_false_iff.mpr calling) live
        exact ⟨m.after frame e, by rw [act, acted]; rfl⟩

private theorem turn_or_less (sound : m.Sound) (busy : ¬ m.Turn)
    (steps : Steps program m n) : n.Turn ∨
      n.outline = m.outline ∧ rank (n.stack.map n.frame) < rank (m.stack.map m.frame) ∨
      n.outline.effort < m.outline.effort := by
  cases steps with
  | fire turn | add turn | remove turn => exact (busy turn).elim
  | finish told empty => exact (busy (by simp [Turn, empty])).elim
  | leave told top calling => exact (busy (by simpa [Turn, top] using calling)).elim
  | @back frame rest top ended =>
    cases rest with
    | nil => exact Or.inl (by simp [Turn])
    | cons next below =>
      -- Below stands a listener being called, or a firing that waits for what has ended.
      have borne := sound.borne
      rw [top] at borne
      obtain calling | ⟨waiting, same⟩ := (List.isChain_cons.mp borne).1 next rfl
      · refine Or.inl ?_
        intro frame here
        rw [stack_back] at here
        obtain rfl := Option.some.inj here
        rw [strand, systems_back]
        exact calling
      · exact Or.inr (Or.inl (outline_waiting top ended waiting same))
  | @act frame rest e accepts top calling ended acted =>
    obtain silent | ⟨here, moves, begun⟩ := silent_or_plain (Strand.acts acted)
    · exact Or.inr (Or.inl (outline_silent sound top calling acted silent))
    · cases called : calls e.strand with
      | true =>
        refine Or.inl ?_
        intro first here
        rw [stack_after, fresh, begun, top] at here
        obtain rfl := Option.some.inj here
        rw [strand_after_self (found_of_act acted)]
        exact called
      | false =>
        refine Or.inr (Or.inr ?_)
        rw [moves] at acted
        have less := effort_of_acts (Strand.acts acted) called
        have before : m.outline.effort = effort (m.systems frame.1).core.queue (m.strand frame) := by
          simp [Outline.effort, outline, top, bared, Machine.frame, here, veiled]
        rw [outline_moved sound top acted begun, Outline.after, Outline.effort_notice, before]
        simpa [Outline.effort, Outline.put, veiled] using less

def run (program : Program α) (accepts : Nat → Bool) : Nat → Machine α
  | 0 => {}
  | n + 1 => ((run program accepts n).step program accepts).getD (run program accepts n)

private theorem sound_run (program : Program α) (accepts : Nat → Bool) (n : Nat) :
    (run program accepts n).Sound ∧ (run program accepts n).Tidy := by
  induction n with
  | zero => exact ⟨sound_start, tidy_start⟩
  | succ n ih =>
    rw [run]
    cases stepped : (run program accepts n).step program accepts with
    | none => exact ih
    | some next =>
      have steps := steps_of_step stepped
      exact ⟨ih.1.steps steps, ih.2.steps ih.1 steps⟩

private theorem run_steps (program : Program α) (accepts : Nat → Bool) {n : Nat}
    (opened : (run program accepts n).halted = false) :
    Steps program (run program accepts n) (run program accepts (n + 1)) := by
  obtain ⟨next, stepped⟩ : ∃ next, (run program accepts n).step program accepts = some next :=
    (sound_run program accepts n).1.exists_step opened
  rw [run, stepped]
  exact steps_of_step stepped

private theorem run_halted (program : Program α) (accepts : Nat → Bool) {n : Nat}
    (halted : (run program accepts n).halted = true) :
    run program accepts (n + 1) = run program accepts n := by
  simp [run, step, halted]

structure At (m : Machine α) (frame : Nat × Nat) (rest : List (Nat × Nat)) (s : System α)
    (strand : Strand α) : Prop where
  opened : m.halted = false
  top : m.stack = frame :: rest
  system : m.systems frame.1 = s
  found : s.strands[frame.2]? = some strand

omit [BEq α] in
private theorem halted_notice (d : Nat) (strand : Strand α) : (m.notice d strand).halted = m.halted := by
  cases strand <;> rfl

/-- A strand that asks nothing makes its step, and the machine makes no other. -/
theorem At.move {n : Nat} {frame : Nat × Nat} {rest : List (Nat × Nat)} {s : System α} {point : Point}
    {e : Effect α} (here : At (run program accepts n) frame rest s (.standing point))
    (acted : (Strand.standing point).act? s.core .move = some e) (alone : e.begun = []) :
    At (run program accepts (n + 1)) frame rest (s.effect frame.2 e) e.strand := by
  have stands : (run program accepts n).strand frame = .standing point := by
    rw [strand, here.system, here.found, Option.getD_some]
  have stepped : (run program accepts n).step program accepts = some ((run program accepts n).after frame e) := by
    simp [step, here.opened, here.top, stands, calls, ends, act, due, here.system, acted]
  rw [run, stepped, Option.getD_some]
  refine ⟨?_, ?_, ?_, ?_⟩
  · rw [after, halted_notice]
    exact here.opened
  · rw [stack_after, fresh, alone, here.top]
    rfl
  · rw [systems_after, if_pos rfl, here.system]
  · have inside := (List.getElem?_eq_some_iff.mp here.found).1
    rw [System.strands_effect, alone, List.append_nil, List.getElem?_set_self inside]

theorem At.back {n : Nat} {frame : Nat × Nat} {rest : List (Nat × Nat)} {s : System α}
    (here : At (run program accepts n) frame rest s .ended) :
    (run program accepts (n + 1)).stack = rest ∧ (run program accepts (n + 1)).systems frame.1 = s := by
  have stands : (run program accepts n).strand frame = .ended := by
    rw [strand, here.system, here.found, Option.getD_some]
  have stepped : (run program accepts n).step program accepts = some ((run program accepts n).back rest) := by
    simp [step, here.opened, here.top, stands, calls, ends]
  rw [run, stepped, Option.getD_some, stack_back, systems_back]
  exact ⟨rfl, here.system⟩

private theorem At.launched {n d : Nat} {event : Event} (opened : (run program accepts n).halted = false)
    (turn : (run program accepts n).Turn) (told : program (run program accepts n).history = .fire d event) :
    At (run program accepts (n + 1)) (d, ((run program accepts n).systems d).strands.length)
      (run program accepts n).stack (((run program accepts n).systems d).fire event)
      (.standing (.arrive event)) := by
  have stepped : (run program accepts n).step program accepts = some ((run program accepts n).launch d event) := by
    unfold step
    rw [if_neg (by simp [opened])]
    split
    case h_1 => rw [told, obey]
    case h_2 frame rest top =>
      rw [if_pos (turn frame (by rw [top]; rfl)), told, obey]
  rw [run, stepped, Option.getD_some]
  refine ⟨opened, rfl, ?_, ?_⟩
  · rw [launch, push, systems_put, if_pos rfl]
  · rw [System.strands_fire, List.getElem?_concat_length]

/-- What a firing that the program makes does at its dispatcher. It queues its event by its fourth step,
unless it finds no listener: then it leaves the dispatcher as it is and comes back. -/
structure Fires (program : Program α) (accepts : Nat → Bool) (n d : Nat) (event : Event) : Prop where
  queues : ((run program accepts n).systems d).core.chain.isEmpty = false →
    ((run program accepts (n + 4)).systems d).told Deed.pushed? =
      ((run program accepts n).systems d).told Deed.pushed? ++ [event] ∧
    ((run program accepts (n + 4)).systems d).core.queue =
      ((run program accepts n).systems d).core.queue ++ [event]
  skips : ((run program accepts n).systems d).core.chain.isEmpty = true →
    ((run program accepts (n + 3)).systems d).core = ((run program accepts n).systems d).core ∧
    ((run program accepts (n + 3)).systems d).told Deed.pushed? =
      ((run program accepts n).systems d).told Deed.pushed? ∧
    (run program accepts (n + 3)).stack = (run program accepts n).stack

private theorem fires_of_turn {n d : Nat} {event : Event} (opened : (run program accepts n).halted = false)
    (turn : (run program accepts n).Turn) (told : program (run program accepts n).history = .fire d event) :
    Fires program accepts n d event := by
  obtain ⟨sound, tidy⟩ := sound_run program accepts n
  have unclosed := (sound.reach d).open_of_unrefused (tidy.unrefused d)
  have arrived := At.launched opened turn told
  refine ⟨fun filled => ?queues, fun empty => ?skips⟩
  case queues =>
    generalize (run program accepts n).systems d = s at unclosed arrived filled ⊢
    have checking := arrived.move (e := { core := s.core, strand := .standing (.check event) })
      (by simp [Strand.act?, Dispatch.step, Strand.follow, Point.deeds, filled]) rfl
    have pushing := checking.move (e := { core := s.core, strand := .standing (.push event) })
      (by simp [Strand.act?, Dispatch.step, Strand.follow, Point.deeds, unclosed]) rfl
    have pushed := pushing.move rfl rfl
    rw [pushed.system]
    simp [Deed.pushed?, Point.deeds]
  case skips =>
    generalize (run program accepts n).systems d = s at arrived empty ⊢
    have ended := arrived.move (e := { core := s.core, strand := .ended, deeds := [.skipped] })
      (by simp [Strand.act?, Dispatch.step, Strand.follow, Point.deeds, empty]) rfl
    obtain ⟨stack, system⟩ := ended.back
    rw [system]
    exact ⟨rfl, by simp [Deed.pushed?], stack⟩

/-- The program gets its turn again and again until it is over. -/
theorem exists_turn (program : Program α) (accepts : Nat → Bool) (n : Nat) :
    ∃ k ≥ n, (run program accepts k).halted = true ∨ (run program accepts k).Turn := by
  by_cases turn : (run program accepts n).Turn
  · exact ⟨n, Nat.le_refl n, Or.inr turn⟩
  · cases halted : (run program accepts n).halted with
    | true => exact ⟨n, Nat.le_refl n, Or.inl halted⟩
    | false =>
      obtain next | ⟨silent, less⟩ | less :=
        turn_or_less (sound_run program accepts n).1 turn (run_steps program accepts halted)
      · exact ⟨n + 1, Nat.le_succ n, Or.inr next⟩
      · obtain ⟨k, later, reached⟩ := exists_turn program accepts (n + 1)
        exact ⟨k, Nat.le_of_succ_le later, reached⟩
      · obtain ⟨k, later, reached⟩ := exists_turn program accepts (n + 1)
        exact ⟨k, Nat.le_of_succ_le later, reached⟩
termination_by ((run program accepts n).outline.effort,
  rank ((run program accepts n).stack.map (run program accepts n).frame))
decreasing_by
  · rw [Prod.lex_def]
    exact Or.inr ⟨congrArg Outline.effort silent, less⟩
  · rw [Prod.lex_def]
    exact Or.inl less

def outlineRun (program : Program α) : Nat → Outline α
  | 0 => ({} : Machine α).outline
  | k + 1 => ((outlineRun program k).step program).getD (outlineRun program k)

private theorem exists_outline (program : Program α) (accepts : Nat → Bool) (n : Nat) :
    ∃ k, (run program accepts n).outline = outlineRun program k := by
  induction n with
  | zero => exact ⟨0, rfl⟩
  | succ n ih =>
    obtain ⟨k, same⟩ := ih
    cases halted : (run program accepts n).halted with
    | true => exact ⟨k, by rw [run_halted program accepts halted, same]⟩
    | false =>
      obtain ⟨silent, -⟩ | stepped :=
        outline_steps (sound_run program accepts n).1 halted (run_steps program accepts halted)
      · exact ⟨k, silent.trans same⟩
      · refine ⟨k + 1, ?_⟩
        rw [outlineRun, ← same, stepped]
        rfl

private theorem exists_outline_step (program : Program α) (accepts : Nat → Bool) (n : Nat)
    (opened : (run program accepts n).halted = false) :
    ∃ k, (run program accepts n).outline.step program = some (run program accepts k).outline := by
  obtain ⟨silent, less⟩ | stepped :=
    outline_steps (sound_run program accepts n).1 opened (run_steps program accepts opened)
  · have still : (run program accepts (n + 1)).halted = false := (congrArg Outline.halted silent).trans opened
    obtain ⟨k, stepped⟩ := exists_outline_step program accepts (n + 1) still
    exact ⟨k, by rw [← silent, stepped]⟩
  · exact ⟨n + 1, stepped⟩
termination_by rank ((run program accepts n).stack.map (run program accepts n).frame)

private theorem exists_run (program : Program α) (accepts : Nat → Bool) (k : Nat) :
    ∃ n, (run program accepts n).outline = outlineRun program k := by
  induction k with
  | zero => exact ⟨0, rfl⟩
  | succ k ih =>
    obtain ⟨n, same⟩ := ih
    cases halted : (run program accepts n).halted with
    | true =>
      refine ⟨n, ?_⟩
      have ended : (run program accepts n).outline.halted = true := halted
      rw [outlineRun, ← same]
      simp [Outline.step, ended]
    | false =>
      obtain ⟨next, stepped⟩ := exists_outline_step program accepts n halted
      refine ⟨next, ?_⟩
      rw [outlineRun, ← same, stepped]
      rfl

/-- What a program can tell apart, and what it sees of the dispatchers from outside. -/
structure Alike (m n : Machine α) : Prop where
  history : m.history = n.history
  figures : ∀ d, figuresOf (m.systems d).core = figuresOf (n.systems d).core
  quiet : m.stack = [] ↔ n.stack = []
  halted : m.halted = n.halted

omit [BEq α] in
private theorem outline_stack_eq_nil : m.outline.stack = [] ↔ m.stack = [] := by
  cases top : m.stack <;> simp [outline, bared, top]

omit [BEq α] in
private theorem alike_of_outline (same : m.outline = n.outline) : m.Alike n where
  history := congrArg Outline.history same
  figures d := by
    have both : figuresOf (m.outline.cores d) = figuresOf (n.outline.cores d) := by rw [same]
    exact both
  quiet := by rw [← outline_stack_eq_nil, same, outline_stack_eq_nil]
  halted := congrArg Outline.halted same

/-- What holds of a program over any dispatchers, whatever the executor answers. -/
structure Uniform (program : Program α) : Prop where
  /-- Each point of a run is a point of the run with any other answers. -/
  alike : ∀ accepts others n, ∃ k, (run program accepts n).Alike (run program others k)
  /-- The program sees the calls that are made. -/
  seen : ∀ accepts n d, (run program accepts n).history.filterMap (calledOn d) =
    ((run program accepts n).systems d).told Deed.called?
  fires : ∀ accepts n d event, (run program accepts n).halted = false → (run program accepts n).Turn →
    program (run program accepts n).history = .fire d event → Fires program accepts n d event
  inOrder : ∀ accepts n d, InOrder ((run program accepts n).systems d)
  quiet : ∀ accepts n, (run program accepts n).stack = [] → ∀ d,
    ((run program accepts n).systems d).core.pending = 0
  proceeds : ∀ accepts n, ∃ k ≥ n,
    (run program accepts k).halted = true ∨ (run program accepts k).Turn

theorem run_uniform (program : Program α) : Uniform program where
  alike accepts others n := by
    obtain ⟨k, same⟩ := exists_outline program accepts n
    obtain ⟨other, reached⟩ := exists_run program others k
    exact ⟨other, alike_of_outline (same.trans reached.symm)⟩
  seen accepts n := (sound_run program accepts n).2.recorded
  fires _ _ _ _ opened turn told := fires_of_turn opened turn told
  inOrder accepts n d := (sound_run program accepts n).2.inOrder (sound_run program accepts n).1 d
  quiet accepts n quiet d := by
    rw [Dispatcher.pending, (sound_run program accepts n).1.queue_nil quiet, List.length_nil]
  proceeds := exists_turn program

end

/-- The listener 7 fires an event while it is called for one, and later it panics. -/
def relaying : Program Nat
  | [] => .add 0 7
  | [_] => .add 0 8
  | [_, _] => .fire 0 (.lifecycle .started)
  | [_, _, _] => .fire 0 (.lifecycle .completed)
  | [_, _, _, _, _, _] => .leave true
  | _ => .leave false

def relayedCalls : List (Nat × Event) :=
  [(7, .lifecycle .started), (8, .lifecycle .started), (7, .lifecycle .completed), (8, .lifecycle .completed)]

theorem uniform_relaying : (run relaying (fun _ => true) 70).history.filterMap (calledOn 0) = relayedCalls ∧
    (run relaying (fun _ => true) 70).halted = true ∧
    (run relaying (fun _ => false) 70).history.filterMap (calledOn 0) = relayedCalls ∧
    (run relaying (fun _ => false) 70).halted = true ∧ Uniform relaying := by
  refine ⟨?_, ?_, ?_, ?_, run_uniform relaying⟩ <;> decide +kernel

end Machine

end TransferLifecycle.Nesting
