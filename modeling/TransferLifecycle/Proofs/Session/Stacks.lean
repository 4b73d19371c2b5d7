import TransferLifecycle.Proofs.Session.Frames

/-! What one step does to the stack of the thread that takes it. The topmost activity gives way to
others, and those below stay as they are. A pass stays below the listeners that it calls, and what
comes of a firing leads to the delivery of an event or to nothing. -/
namespace TransferLifecycle.Session

def Activity.fires : Activity → Bool
  | .dispatch _ .reached => false
  | .fire _ _ | .dispatch _ _ | .yield _ | .contain => true
  | .offer _ (.drain _) | .submit _ (.drain _) _ | .task (.drain _) => true
  | _ => false

/-- All of it is on the way to a delivery, or above a delivery that is. -/
def Delivers (above : List Activity) : Prop :=
  (∀ activity ∈ above, activity.fires = true) ∨
    ∃ outer dispatcher inner, above = outer ++ .dispatch dispatcher .reached :: inner ∧
      ∀ activity ∈ inner, activity.fires = true

def Waits (added : List Activity) : Prop := ∀ activity ∈ added, activity.inside = false

/-- What comes in the place of an activity: a pass stays below what it calls, and a firing leads to
a delivery. -/
structure Follows (a : Activity) (added : List Activity) : Prop where
  visits : ∀ registry transfer state pass, a = .registry registry transfer state pass →
    added = [] ∨ ∃ inner pass, added = inner ++ [.registry registry transfer state pass]
  delivers : a.fires = true ∨ (∃ dispatcher, a = .dispatch dispatcher .reached) → Delivers added

structure Replaces (a : Activity) (added : List Activity) : Prop extends Follows a added where
  waits : Waits added

def Activity.plain : Activity → Bool
  | .registry _ _ _ _ | .dispatch _ _ => false
  | _ => true

theorem Replaces.nil (a : Activity) : Replaces a [] where
  visits _ _ _ _ _ := Or.inl rfl
  delivers _ := Or.inl fun _ member => nomatch member
  waits _ member := nomatch member

theorem Replaces.of_plain {a : Activity} (plain : a.plain = true) {added : List Activity}
    (waits : Waits added) (fires : a.fires = true → ∀ activity ∈ added, activity.fires = true) :
    Replaces a added where
  visits := by
    rintro registry transfer state pass rfl
    cases plain
  delivers := by
    rintro (firing | ⟨dispatcher, rfl⟩)
    · exact Or.inl (fires firing)
    · cases plain
  waits := waits

theorem Replaces.of_idle {a : Activity} (plain : a.plain = true) (idle : a.fires = false)
    {added : List Activity} (waits : Waits added) : Replaces a added := by
  refine .of_plain plain waits fun firing => ?_
  rw [idle] at firing
  cases firing

inductive Layer where
  | script | delivery | hosting | waiting

def Activity.layer : Activity → Layer
  | .steps _ _ _ | .call _ _ | .conclude _ | .yield _ | .bindUnit _ _ | .bindHandle _
  | .fireMany _ _ _ _ | .loop _ _ => .script
  | .chain _ _ _ | .registry _ _ _ _ | .transition _ _ | .fire _ _ | .dispatch _ _ => .delivery
  | .offer _ _ | .submit _ _ _ | .task _ | .contain | .hold _ | .awaitGate _ | .shutdown _ _
  | .reportShutdown _ | .awaitLanes _ | .join _ _ | .worker _ _ _ | .runtimeWorker _ => .hosting
  | .wait _ | .answerWait _ _ | .query _ _ | .judge | .openGate _ | .newGate | .monitor _ _
  | .consult _ _ | .turn _ _ | .drive _ _ | .settleWait _ _ | .reportHandle _ | .reportFailed _
  | .reportMonitor _ _ => .waiting

/-- The session becomes another one, with the stack of a thread put in the place of what it was. -/
def Lands (s : Session) (me : Nat) (rest : List Activity) (holds : List Activity → Prop) (t : Session) :
    Prop :=
  ∃ m added mode, Calm s m ∧ holds added ∧ t = m.put me (added ++ rest) mode

section

variable {s m t : Session} {me : Nat} {rest : List Activity} {holds : List Activity → Prop}

theorem Lands.mono {more : List Activity → Prop} (lands : Lands s me rest holds t)
    (weaker : ∀ added, holds added → more added) : Lands s me rest more t := by
  obtain ⟨m, added, mode, calm, held, same⟩ := lands
  exact ⟨m, added, mode, calm, weaker added held, same⟩

theorem Lands.give (calm : Calm s m) (nothing : holds []) (reply : Reply) :
    Lands s me rest holds (m.give me rest reply) :=
  ⟨m, [], _, calm, nothing, rfl⟩

theorem Lands.raise (calm : Calm s m) (nothing : holds []) (panic : String) :
    Lands s me rest holds (m.raise me rest panic) :=
  ⟨m, [], _, calm, nothing, rfl⟩

theorem Lands.run (calm : Calm s m) (added : List Activity) (held : holds added) :
    Lands s me rest holds (m.run me (added ++ rest)) :=
  ⟨m, added, _, calm, held, rfl⟩

theorem Lands.follow {point question result : Type} {frame : point → Activity}
    {asked : question → Activity} {reply : result → Reply} {next : Next point question result}
    (calm : Calm s m) (nothing : holds []) (goto : ∀ p, next = .goto p → holds [frame p])
    (ask : ∀ q p, next = .ask q p → holds [asked q, frame p])
    (followed : m.follow me rest frame asked reply next = some t) : Lands s me rest holds t := by
  cases next with
  | goto p =>
    cases Option.some.inj followed
    exact .run calm [frame p] (goto p rfl)
  | ask q p =>
    cases Option.some.inj followed
    exact .run calm [asked q, frame p] (ask q p rfl)
  | done r =>
    cases Option.some.inj followed
    exact .give calm nothing _
  | blocked => cases followed

@[simp] theorem waits_nil : Waits [] := fun _ member => nomatch member

@[simp] theorem waits_cons {a : Activity} {added : List Activity} :
    Waits (a :: added) ↔ a.inside = false ∧ Waits added := by
  simp [Waits]

end

/-! Beginnings of steps. -/

def Begins (s : Session) (me : Nat) (rest : List Activity) (begun : Except String Session) : Prop :=
  ∀ t, begun = .ok t → Lands s me rest Waits t

section

variable {s m : Session} {me : Nat} {rest : List Activity}

theorem Begins.bind_of {α : Type} {x : Except String α} {f : α → Except String Session}
    (goes : ∀ a, x = .ok a → Begins s me rest (f a)) : Begins s me rest (x >>= f) := by
  intro t begun
  cases x with
  | error name => cases begun
  | ok a => exact goes a rfl t begun

theorem Begins.bind {α : Type} {x : Except String α} {f : α → Except String Session}
    (goes : ∀ a, Begins s me rest (f a)) : Begins s me rest (x >>= f) :=
  .bind_of fun a _ => goes a

theorem Begins.error {name : String} : Begins s me rest (.error name) := nofun

theorem Begins.ok {t : Session} (lands : Lands s me rest Waits t) : Begins s me rest (.ok t) := by
  intro _ same
  cases same
  exact lands

theorem Begins.give (calm : Calm s m) {reply : Reply} :
    Begins s me rest (.ok (m.give me rest reply)) :=
  .ok (.give calm waits_nil reply)

theorem Begins.run (calm : Calm s m) (added : List Activity) (waits : Waits added) :
    Begins s me rest (.ok (m.run me (added ++ rest))) :=
  .ok (.run calm added waits)

end

private theorem begins_inform (s : Session) (me : Nat) (rest : List Activity) (target : String) :
    Begins s me rest (s.inform me rest target) := by
  unfold inform
  split <;> (try split) <;> first
    | exact .give (.refl s)
    | exact .error
    | exact .run (.refl s) [_, _] (by simp)

private theorem begins_wait (s : Session) (me : Nat) (rest : List Activity) (arming : Arming)
    (kind : Option WaitKind) (activity : Activity) (waits : activity.inside = false) :
    Begins s me rest (.ok (s.beginWait me rest arming kind activity)) := by
  refine .run ?_ [activity, _] (waits_cons.mpr ⟨waits, by simp⟩)
  split
  · exact s.calm_setToken me true
  · exact .refl s

theorem inside_firing {s : Session} {target : String} {event : Event} {activity : Activity}
    (firing : s.firing target event = .ok activity) : activity.inside = false := by
  unfold Session.firing at firing
  split at firing
  case h_2 l _ => cases l <;> cases firing <;> rfl
  all_goals cases firing <;> rfl

inductive Area where
  | executors | listeners | transfers | threads | units

def Step.area : Step → Area
  | .executor _ _ | .submit _ _ _ _ _ | .runHeld _ _ | .executorInfo _ | .poolBlock _
  | .poolRelease _ _ | .poolShutdown _ | .poolInfo _ _ | .sharedSame | .outsideRuntime
  | .runtimeStop _ => .executors
  | .listener _ _ _ _ _ _ _ | .chainListener _ _ | .listenerInfo _ | .add _ _ | .remove _ _
  | .addCoded _ _ _ _ _ _ _ | .chain _ | .dispatcher _ _ | .registry _ | .fire _ _
  | .fireMany _ _ _ _ | .info _ => .listeners
  | .transfer _ _ _ _ _ _ | .setState _ _ | .notify _ _ _ | .addBytes _ _ | .setTotal _ _
  | .setMonitor _ _ | .wait _ _ _ | .startWait _ _ _ => .transfers
  | .startUnitWait _ _ | .interruptWaiter _ | .join _ | .parallel _ | .loop _ _ | .interrupt
  | .isInterrupted | .takeInterrupt | .interruptDebug | .interruptElsewhere _ => .threads
  | .unit _ _ | .succeed _ | .cancel _ | .fail _ _ | .unitWait _ _ | .spawn _ _ _
  | .fixedHandle _ _ _ _ | .monitor _ _ _ | .advance _ _ | .seal _ | .currentHandle _ _
  | .scriptedMonitor _ _ _ | .awaitNext _ _ => .units

section

variable (s : Session) (me : Nat) (rest : List Activity) {step : Step}

private theorem begins_executors (about : step.area = .executors) : Begins s me rest (s.begin? me rest step) := by
  cases step with
  | executor id plan =>
    refine .give ?_
    exact (s.calm_prepare me plan).trans (.of_rows rfl rfl)
  | submit => exact .bind fun _ => .run (.refl s) [_] (by simp)
  | runHeld executor index =>
    refine .bind fun x => ?_
    split
    · split
      · refine .run ?_ [_, _] (by simp)
        exact .of_rows rfl rfl
      · exact .give (.refl s)
    · exact .error
  | executorInfo executor =>
    refine .bind fun x => ?_
    split <;> first | exact .give (.refl s) | exact .error
  | poolBlock executor =>
    refine .bind fun x => .run ?_ [_, _] (by simp)
    exact .of_rows rfl rfl
  | poolRelease executor count =>
    refine .bind fun x => .give ?_
    exact s.calm_openGates _
  | poolShutdown executor =>
    refine .bind fun x => .run ?_ [_, _] (by simp)
    exact s.calm_openGates _
  | poolInfo => exact .bind fun _ => .give (.refl s)
  | sharedSame | outsideRuntime => exact .give (.refl s)
  | runtimeStop executor =>
    refine .bind fun x => ?_
    split
    · refine .give ?_
      exact .of_rows rfl rfl
    · exact .error
  | _ => cases about

private theorem begins_listeners (about : step.area = .listeners) : Begins s me rest (s.begin? me rest step) := by
  cases step with
  | listenerInfo => exact .bind fun _ => .give (.refl s)
  | listener | chain | registry =>
    refine .give ?_
    exact .of_rows rfl rfl
  | chainListener | dispatcher =>
    refine .bind fun _ => .give ?_
    exact .of_rows rfl rfl
  | add target listener =>
    refine .bind fun l => .bind fun place => .give ?_
    exact s.calm_addAt place
  | remove target listener =>
    refine .bind fun l => .bind fun place => .give ?_
    exact s.calm_removeAt place
  | addCoded transfer id trigger times actions panic silent =>
    refine .bind fun t => ?_
    split
    rename_i o made new
    cases new
    split
    · refine .give ((Calm.trans ?_ (calm_updateChain _ _ _)).bind _ _)
      exact .of_rows rfl rfl
    · exact .error
  | fire target event =>
    refine .bind_of fun activity fired => .run (.refl s) [activity] ?_
    exact waits_cons.mpr ⟨inside_firing fired, waits_nil⟩
  | fireMany target kind first last => exact .bind fun _ => .run (.refl s) [_] (by simp)
  | info target => exact begins_inform s me rest target
  | _ => cases about

private theorem begins_transfers (about : step.area = .transfers) : Begins s me rest (s.begin? me rest step) := by
  cases step with
  | wait => exact .bind fun _ => begins_wait s me rest _ _ _ rfl
  | transfer id description direction total executor stateListener =>
    refine .bind fun x => .bind fun o => .give ?_
    exact (s.calm_newTransfer _).trans (.of_rows rfl rfl)
  | setState transfer state => exact .bind fun t => .run (.refl s) [_] (by simp)
  | notify transfer state registry =>
    cases registry with
    | none => exact .bind fun t => .run (.refl s) [_, _] (by simp)
    | some registry => exact .bind fun t => .bind fun r => .run (.refl s) [_] (by simp)
  | addBytes transfer bytes =>
    refine .bind fun t => .run ?_ [_] (by simp)
    exact s.calm_modifyTransfer t _ fun _ => rfl
  | setTotal transfer total =>
    refine .bind fun t => .give ?_
    exact s.calm_modifyTransfer t _ fun _ => rfl
  | setMonitor transfer monitor =>
    refine .bind fun t => .bind fun m => .give ?_
    exact s.calm_modifyTransfer t _ fun _ => rfl
  | startWait id transfer kind =>
    refine .bind fun t => .give ?_
    exact (s.calm_begun _ (by simp)).trans (.of_rows rfl rfl)
  | _ => cases about

private theorem begins_threads (about : step.area = .threads) : Begins s me rest (s.begin? me rest step) := by
  cases step with
  | join => exact .bind fun _ => .run (.refl s) [_] (by simp)
  | isInterrupted | interruptDebug => exact .give (.refl s)
  | startUnitWait id unit =>
    refine .bind fun h => .give ?_
    exact (s.calm_begun _ (by simp)).trans (.of_rows rfl rfl)
  | interruptWaiter waiter =>
    refine .bind fun w => .give ?_
    exact s.calm_setToken _ _
  | parallel lanes =>
    refine .run ?_ [_] (by simp)
    exact s.calm_spawnLanes lanes
  | loop times steps => exact .run (.refl s) [_] (by simp)
  | interrupt | takeInterrupt =>
    refine .give ?_
    exact s.calm_setToken _ _
  | interruptElsewhere own =>
    cases own with
    | true => exact .give (.refl s)
    | false => exact .give (s.calm_setToken mainThread true)
  | _ => cases about

private theorem begins_units (about : step.area = .units) : Begins s me rest (s.begin? me rest step) := by
  cases step with
  | unitWait | awaitNext => exact .bind fun _ => begins_wait s me rest _ _ _ rfl
  | fixedHandle =>
    refine .give ?_
    exact .of_rows rfl rfl
  | unit id succeeded =>
    have made : Calm s s.newUnit.2 := .of_rows rfl rfl
    refine .give ?_
    cases succeeded with
    | true => exact (made.trans (calm_finishUnit _ _ .success)).trans (.of_rows rfl rfl)
    | false => exact made.trans (.of_rows rfl rfl)
  | succeed unit | cancel unit =>
    refine .bind fun u => .give ?_
    exact s.calm_finishUnit u _
  | fail unit cause =>
    refine .bind fun u => .give (Calm.trans ?_ (calm_finishUnit _ u _))
    exact .of_rows rfl rfl
  | spawn executor id work =>
    refine .bind fun x => .run ?_ [_, _] (by simp)
    exact .of_rows rfl rfl
  | monitor id unit single =>
    refine .bind fun h => .give ?_
    exact (s.calm_newUnitMonitor h single).trans (.of_rows rfl rfl)
  | advance monitor unit => exact .bind fun m => .bind fun h => .run (.refl s) [_] (by simp)
  | «seal» monitor => exact .bind fun m => .run (.refl s) [_] (by simp)
  | currentHandle monitor id => exact .bind fun m => .run (.refl s) [_, _] (by simp)
  | scriptedMonitor id handles done =>
    refine .bind fun h => .give ?_
    exact .of_rows rfl rfl
  | _ => cases about

theorem begins (step : Step) : Begins s me rest (s.begin? me rest step) := by
  cases about : step.area with
  | executors => exact begins_executors s me rest about
  | listeners => exact begins_listeners s me rest about
  | transfers => exact begins_transfers s me rest about
  | threads => exact begins_threads s me rest about
  | units => exact begins_units s me rest about

end

theorem lands_begin (s : Session) (me : Nat) (rest : List Activity) (step : Step) :
    Lands s me rest Waits (s.begin me rest step) := by
  unfold begin
  split
  case h_1 t begun => exact begins s me rest step t begun
  case h_2 => exact .give (.refl s) waits_nil _

end TransferLifecycle.Session
