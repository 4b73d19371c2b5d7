import TransferLifecycle.Proofs.Session.Holding

/-! Whether a thread asks for a turn that it has. Whoever has the turn of a transfer waits either for a
pass over the state listeners or for a firing. From a pass he comes to ask again through a state
listener; from a firing only through the delivery of an event, which happens on his own thread if the
executor runs the emptying at once or is full. -/
namespace TransferLifecycle.Session

/-- The sessions that a driver comes to. It hands a step to the main thread when that has done with
the one before; of the threads that can move, any may move. -/
inductive Reachable : Session → Prop where
  | start (logging : Bool) : Reachable (start logging)
  | submit {s : Session} (step : Step) (before : Reachable s) (idle : s.frames mainThread = []) :
    Reachable (s.submit step)
  | next {s t : Session} (thread : Nat) (before : Reachable s) (stepped : s.step? thread = some t) :
    Reachable t

theorem sound_start (logging : Bool) : Sound (start logging) := by
  have first : Sound { logging := logging, threads := #[{ name := some "main", stack := [] }] } := by
    constructor
    · intro transfer thread has
      simp [turnOf] at has
    · intro thread
      refine .of_waits ?_
      cases thread <;> simp [frames]
  have pool := first.of_calm (calm_newPool _ { threadName := "ferry-shared-callback" })
  exact pool.of_calm (.of_rows rfl rfl)

private theorem calm_submit {s : Session} (step : Step) (idle : s.frames mainThread = []) :
    Calm s (s.submit step) where
  turn _ := rfl
  frames thread := by
    by_cases main : mainThread = thread
    · subst main
      refine Or.inr ⟨idle, ?_⟩
      simp only [frames, submit, Array.getElem?_modify, if_true]
      cases s.threads[mainThread]? <;> simp
    · refine Or.inl ?_
      simp [frames, submit, Array.getElem?_modify, main]

theorem Reachable.sound {s : Session} (reach : Reachable s) : Sound s := by
  induction reach with
  | start logging => exact sound_start logging
  | submit step before idle ih => exact ih.of_calm (calm_submit step idle)
  | next thread before stepped ih => exact ih.step stepped

/-- The thread stands before a turn that it has. -/
def Reenters (s : Session) (thread transfer : Nat) : Prop :=
  s.turnOf transfer = some thread ∧
    ∃ goal rest, s.frames thread = .transition transfer (.enter goal) :: rest

/-- The thread asks for a turn from the pass over the state listeners of the same transfer, and from
no delivery of an event in between. -/
def Presumes (s : Session) (thread transfer : Nat) : Prop :=
  ∃ goal inner state pass below, s.frames thread = .transition transfer (.enter goal) :: inner ++
      .registry (.transfer transfer) transfer state pass :: below ∧
    ∀ dispatcher, .dispatch dispatcher .reached ∉ inner

/-- The thread delivers an event while it has the turn of the transfer. -/
def Delivering (s : Session) (thread transfer : Nat) : Prop :=
  ∃ above dispatcher inner point below, s.frames thread =
      above ++ .dispatch dispatcher .reached :: inner ++ .transition transfer point :: below ∧
    point.inside = true

/-- Above a transition that has the turn, the activity on top of it can ask for the turn again only
from a pass, or from the delivery of an event. -/
theorem Covers.asks {transfer : Nat} {point : Transition.Point} {goal : Transition.Goal}
    {inner : List Activity} (covers : Covers transfer point (.transition transfer (.enter goal) :: inner)) :
    (∃ outer state pass, inner = outer ++ [.registry (.transfer transfer) transfer state pass]) ∨
      ∃ outer dispatcher firing, inner = outer ++ .dispatch dispatcher .reached :: firing := by
  cases point with
  | notified goal =>
    obtain ⟨outer, state, pass, split⟩ := covers
    cases outer with
    | nil => cases split
    | cons first outer => exact Or.inl ⟨outer, state, pass, (List.cons.inj split).2⟩
  | fired =>
    obtain firing | ⟨outer, dispatcher, firing, split, -⟩ := covers
    · have first := firing _ List.mem_cons_self
      cases first
    · cases outer with
      | nil => cases split
      | cons first outer => exact Or.inr ⟨outer, dispatcher, firing, (List.cons.inj split).2⟩
  | _ => cases covers

private theorem Reachable.cause_of_reenters {s : Session} (reach : Reachable s) {thread transfer : Nat}
    (reenters : s.Reenters thread transfer) :
    s.Presumes thread transfer ∨ s.Delivering thread transfer := by
  obtain ⟨has, goal, rest, stack⟩ := reenters
  obtain ⟨point, inside, present⟩ := reach.sound.held transfer thread has
  rw [stack] at present
  obtain top | under := List.mem_cons.mp present
  · cases top
    cases inside
  -- The transition that took the turn stands below, so the one on top is what it waits for.
  obtain ⟨inner, below, rfl⟩ := List.append_of_mem under
  have covered := reach.sound.guarded thread (.transition transfer (.enter goal) :: inner) transfer point
    below (by rw [stack]; rfl) inside
  have delivering {outer firing : List Activity} {dispatcher : Nat}
      (split : inner = outer ++ .dispatch dispatcher .reached :: firing) : s.Delivering thread transfer := by
    refine ⟨.transition transfer (.enter goal) :: outer, dispatcher, firing, point, below, ?_, inside⟩
    rw [stack, split]
    simp
  obtain ⟨outer, state, pass, split⟩ | ⟨outer, dispatcher, firing, split⟩ :=
    (covered.resolve_left (List.cons_ne_nil _ _)).asks
  · by_cases delivers : ∃ dispatcher, .dispatch dispatcher .reached ∈ outer
    · obtain ⟨dispatcher, member⟩ := delivers
      obtain ⟨upper, lower, rfl⟩ := List.append_of_mem member
      exact Or.inr (delivering (by rw [split, List.append_assoc, List.cons_append]))
    · refine Or.inl ⟨goal, outer, state, pass, .transition transfer point :: below, ?_, ?_⟩
      · rw [stack, split]
        simp
      · intro dispatcher member
        exact delivers ⟨dispatcher, member⟩
  · exact Or.inr (delivering split)

/-- Unless a thread asks for a turn from a state listener of the same transfer, or delivers an event
while it has that turn, it never stands before a turn that it has. -/
theorem Reachable.not_reenters {s : Session} (reach : Reachable s) {thread transfer : Nat}
    (modest : ¬ s.Presumes thread transfer) (apart : ¬ s.Delivering thread transfer) :
    ¬ s.Reenters thread transfer := by
  intro reenters
  exact (reach.cause_of_reenters reenters).elim modest apart

/-! Runs of a script. -/

theorem Reachable.settle {s : Session} (reach : Reachable s) (fuel : Nat) : Reachable (settle fuel s) := by
  induction fuel generalizing s with
  | zero => exact reach
  | succ fuel ih =>
    cases ticked : s.tick with
    | none => simpa [Session.settle, ticked] using reach
    | some t =>
      obtain ⟨thread, -, stepped⟩ := List.exists_of_findSome?_eq_some ticked
      simpa [Session.settle, ticked] using ih (.next thread reach stepped)

/-- Takes the steps of a script, as long as the main thread has done with the one before. -/
def attempt? (fuel : Nat) : Session → List Step → Option Session
  | s, [] => some s
  | s, step :: rest =>
    match s.frames mainThread with
    | [] => attempt? fuel (settle fuel (s.submit step)) rest
    | _ :: _ => none

theorem Reachable.attempt {s t : Session} (reach : Reachable s) {fuel : Nat} {steps : List Step}
    (attempted : attempt? fuel s steps = some t) : Reachable t := by
  induction steps generalizing s with
  | nil =>
    cases Option.some.inj attempted
    exact reach
  | cons step rest ih =>
    unfold attempt? at attempted
    split at attempted
    case h_1 idle => exact ih (.settle (.submit step reach idle) fuel) attempted
    case h_2 => cases attempted

/-- A progress listener completes the transfer once it has heard that the transfer has started. -/
def completing (plan : ExecutorPlan) : List Step :=
  [.executor "x" plan, .transfer "t" "f" .upload none (some "x") none,
    .listener "l" .progress (some "Started") 1 [.setState "t" .completed] none true, .add "t" "l",
    .setState "t" .inProgress]

/-- The executor holds the emptying. When it is run later, the listener asks for a turn that is free. -/
theorem not_reenters_held : ∃ s t : Session,
    attempt? 60 (start false) (completing (.scripted [] .hold)) = some s ∧
    settle 8 (s.submit (.runHeld "x" 0)) = t ∧
    (∃ pass, t.frames 0 = [.transition 0 (.enter (.move .completed)), .steps (.listener "l") [] 1,
      .conclude none, .chain (.dispatcher 0) (.lifecycle .started) pass, .dispatch 0 .reached,
      .yield (.truth true), .steps .main [] 1]) ∧
    ¬ t.Presumes 0 0 ∧ ¬ t.Delivering 0 0 ∧ ¬ t.Reenters 0 0 := by
  have ran : ∃ s t : Session, attempt? 60 (start false) (completing (.scripted [] .hold)) = some s ∧
      s.frames mainThread = [] ∧ settle 8 (s.submit (.runHeld "x" 0)) = t ∧
      ∃ pass, t.frames 0 = [.transition 0 (.enter (.move .completed)), .steps (.listener "l") [] 1,
        .conclude none, .chain (.dispatcher 0) (.lifecycle .started) pass, .dispatch 0 .reached,
        .yield (.truth true), .steps .main [] 1] :=
    ⟨_, _, rfl, rfl, rfl, _, rfl⟩
  obtain ⟨s, t, ran, idle, settled, pass, stack⟩ := ran
  have modest : ¬ t.Presumes 0 0 := by
    rintro ⟨goal, inner, state, visit, below, split, -⟩
    have member : .registry (.transfer 0) 0 state visit ∈ t.frames 0 := by simp [split]
    simp [stack] at member
  have apart : ¬ t.Delivering 0 0 := by
    rintro ⟨above, dispatcher, inner, point, below, split, inside⟩
    have member : .transition 0 point ∈ t.frames 0 := by simp [split]
    simp [stack] at member
    cases member
    cases inside
  have reach : t.Reachable := by
    rw [← settled]
    exact .settle (.submit _ (.attempt (.start false) ran) idle) 8
  exact ⟨s, t, ran, settled, ⟨pass, stack⟩, modest, apart, reach.not_reenters modest apart⟩

/-- The executor runs at once what it is offered. There is no state listener at all, and yet the thread
comes to stand before the turn that it has. -/
theorem reenters_inline : ¬ ∀ s : Session, s.Reachable → (∀ o ∈ s.observers, o.kind ≠ .state) →
    ∀ thread transfer, ¬ s.Reenters thread transfer := by
  intro claim
  have ran : ∃ s : Session, attempt? 60 (start false) (completing .sameThread) = some s ∧
      s.observers.toList.map (·.kind) = [.progress] ∧ s.turnOf 0 = some 0 ∧
      ∃ rest, s.frames 0 = .transition 0 (.enter (.move .completed)) :: rest :=
    ⟨_, rfl, rfl, rfl, _, rfl⟩
  obtain ⟨s, ran, kinds, turn, rest, stack⟩ := ran
  refine claim s (.attempt (.start false) ran) ?_ 0 0 ⟨turn, _, rest, stack⟩
  intro o member same
  have listed : o.kind ∈ s.observers.toList.map (·.kind) := List.mem_map_of_mem (by simpa using member)
  rw [kinds, same] at listed
  simp at listed

/-- A full executor does the same. -/
example : (attempt? 60 (start false) (completing (.scripted [] .full))).map (·.turnOf 0) =
    some (some 0) := rfl

end TransferLifecycle.Session
