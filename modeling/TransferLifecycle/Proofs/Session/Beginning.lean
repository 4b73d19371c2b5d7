import TransferLifecycle.Proofs.Session.Operations

/-! What the beginning of a step does to the side of the waits: it begins the operation of the step, if
there is one, and nothing else. -/
namespace TransferLifecycle.Session

section

variable (s : Session) (me : Nat)

theorem waitSide_setToken (thread : Nat) (value : Bool) :
    (s.setToken thread value).waitSide = s.waitSide.setToken thread value := by
  rw [waitSide, attentions_setToken]
  rfl

theorem backs_setToken (thread : Nat) (value : Bool) : (s.setToken thread value).backs = s.backs :=
  map_modify_eq (fun thread : Thread => back thread.stack) (fun t => { t with token := value })
    (fun _ => rfl) s.threads thread

theorem waitSide_finishUnit (id : Nat) (outcome : Outcome) :
    (s.finishUnit id outcome).2.waitSide = s.waitSide.finishUnit id outcome := by
  have units : s.waitSide.units[id]? = s.units[id]? := rfl
  cases found : s.units[id]? with
  | none => simp only [finishUnit, WaitSide.finishUnit, units, found]
  | some c =>
    simp only [finishUnit, WaitSide.finishUnit, units, found]
    rfl

theorem backs_finishUnit (id : Nat) (outcome : Outcome) : (s.finishUnit id outcome).2.backs = s.backs := by
  unfold finishUnit
  split <;> rfl

private theorem beside_finishUnit (id : Nat) (outcome : Outcome) :
    Beside s me (some (.finish id outcome)) (s.finishUnit id outcome).2 :=
  .of_side (s.waitSide_finishUnit id outcome) (s.backs_finishUnit id outcome)

private theorem beside_fail (id : Nat) (cause : FaultShape) :
    Beside s me (some (.fail id cause))
      ((s.failure cause).2.finishUnit id (.failure (s.failure cause).1)).2 :=
  .of_side (waitSide_finishUnit _ id _) (backs_finishUnit _ id _)

private theorem beside_token (thread : Nat) (value : Bool) :
    Beside s me (some (.token thread value)) (s.setToken thread value) :=
  .of_side (s.waitSide_setToken thread value) (s.backs_setToken thread value)

theorem beside_log (thread : Nat) (notices : List Notice) : Beside s me none (s.log thread notices) :=
  .of_side (s.sides_log thread notices).1 (s.sides_log thread notices).2

theorem beside_modifyTransfer (id : Nat) (change : Transfer → Transfer)
    (keeps : ∀ transfer, (change transfer).monitor = transfer.monitor) :
    Beside s me none { s with transfers := s.transfers.modify id change } := by
  have attached : (s.transfers.modify id change).map (·.monitor) = s.attached :=
    map_modify_eq _ change keeps s.transfers id
  refine .of_side ?_ rfl
  rw [waitSide, Session.attached, attached]
  rfl

private theorem beside_attach (id : Nat) (m : Monitor) :
    Beside s me (some (.attach id m)) (s.updateTransfer id fun t => { t with monitor := some m }) := by
  have attached : (s.transfers.modify id fun t => { t with monitor := some m }).map (·.monitor) =
      s.attached.modify id fun _ => some m :=
    map_modify_of (·.monitor) (fun t => { t with monitor := some m }) (fun _ => some m) (fun _ => rfl)
      s.transfers id
  refine .of_side ?_ rfl
  rw [waitSide, Session.attached, updateTransfer, attached]
  rfl

theorem beside_updateChain (change : ListenerList Listener → ListenerList Listener) (chain : ChainRef) :
    Beside s me none (s.updateChain change chain) := by
  cases chain <;> exact ⟨rfl, id⟩

theorem beside_updateRegistry (change : ListenerList Nat → ListenerList Nat) (registry : RegistryRef) :
    Beside s me none (s.updateRegistry change registry) := by
  cases registry with
  | registry id => exact ⟨rfl, fun layered => layered⟩
  | transfer id => exact s.beside_modifyTransfer me id _ fun _ => rfl

private theorem beside_addAt (place : Place) : Beside s me none (s.addAt place) := by
  cases place with
  | chain chain l => exact s.beside_updateChain me _ chain
  | registry registry o => exact s.beside_updateRegistry me _ registry

private theorem beside_removeAt (place : Place) : Beside s me none (s.removeAt place).2 := by
  cases place with
  | chain chain l => exact s.beside_updateChain me _ chain
  | registry registry o => exact s.beside_updateRegistry me _ registry

private theorem beside_openGates (gates : List Nat) : Beside s me none (s.openGates gates) := by
  induction gates generalizing s with
  | nil => exact .refl s me
  | cons gate rest ih =>
    have opened : Beside s me none (s.openGate gate) := ⟨rfl, id⟩
    exact opened.trans (ih (s.openGate gate))

private theorem beside_newTransfer (settings : Settings Nat Nat) :
    Beside s me (some .transfer) (s.newTransfer settings).2 := by
  refine .of_side ?_ rfl
  simp only [newTransfer, newDispatcher, waitSide, attached, Array.map_push]
  rfl

private theorem beside_newUnitMonitor (h : Handle) (single : Bool) :
    Beside s me (some (.monitor h single)) (s.newUnitMonitor h single).2 := by
  cases single with
  | false => exact ⟨rfl, id⟩
  | true =>
    refine .of_side ?_ (backs_finishUnit s.newUnit.2 _ .success)
    exact congrArg (·.newMonitor { current := h, isSealed := true, gate := .unit s.units.size })
      (waitSide_finishUnit s.newUnit.2 _ .success)

/-! Threads that are begun. -/

private theorem waitSide_begun (new : Thread) :
    { s with threads := s.threads.push new }.waitSide = s.waitSide.begin new.attention := by
  simp only [waitSide, attentions, Array.map_push]
  rfl

private theorem layered_begun (layered : s.Layered) (new : Thread)
    (apart : ∀ activity ∈ back new.stack, activity.attends = false) :
    { s with threads := s.threads.push new }.Layered := by
  intro stack member
  simp only [backs, Array.map_push, Array.mem_push] at member
  obtain old | rfl := member
  · exact layered stack old
  · exact apart

private theorem beside_startWait (awaited : Awaited) (name : Option String) :
    Beside s me (some (.startWait awaited)) (s.spawn name [awaited.activity]).2 where
  side := by
    cases awaited <;> exact waitSide_begun s _
  layered layered := by
    cases awaited <;> exact layered_begun s layered _ (List.forall_mem_nil _)

private theorem beside_begun (new : Thread) (token : new.token = false)
    (apart : ∀ activity ∈ new.stack, activity.attends = false) :
    Beside s me (some (.threads 1)) { s with threads := s.threads.push new } where
  side := by
    rw [waitSide_begun, Thread.attention, front_eq_nil apart, token]
    rfl
  layered layered := by
    refine layered_begun s layered new ?_
    rwa [back_eq_self (front_eq_nil apart)]

private theorem beside_foldl {β γ : Type} {step : γ × Session → β → γ × Session}
    (begun : ∀ before item, Beside before.2 me (some (.threads 1)) (step before item).2) (items : List β)
    (before : γ × Session) :
    Beside before.2 me (some (.threads items.length)) (items.foldl step before).2 := by
  induction items generalizing before with
  | nil => exact ⟨rfl, id⟩
  | cons item rest ih =>
    have later := ih (step before item)
    refine ⟨later.side.trans ?_, later.layered ∘ (begun before item).layered⟩
    rw [(begun before item).side]
    rfl

theorem beside_newPool (settings : PoolSettings) :
    Beside s me (some (.threads settings.workerCount)) (s.newPool settings).2 := by
  rw [← List.length_range (n := settings.workerCount)]
  refine (beside_foldl me ?started (List.range settings.workerCount) ([], s)).also ⟨rfl, id⟩
  intro before id
  exact before.2.beside_begun me _ rfl (by simp [Activity.attends])

private theorem beside_spawnLanes (lanes : List (List Step)) :
    Beside s me (some (.threads lanes.length)) (s.spawnLanes lanes).2 := by
  refine beside_foldl me ?started lanes ([], s)
  intro before lane
  exact before.2.beside_begun me _ rfl (by simp [Activity.attends])

private theorem beside_newRuntime : Beside s me (some (.threads 1)) s.newRuntime.2 :=
  have worker := s.beside_begun me
    { name := some "tokio-rt-worker", stack := [.runtimeWorker s.runtimes.size], inRuntime := true } rfl
    (by simp [Activity.attends])
  worker.also ⟨rfl, id⟩

/-! Beginnings of steps. -/

/-- Where a step begins at all, it begins the operation; otherwise there is none. -/
def Opens (s : Session) (me : Nat) (rest : List Activity) (operation : Option Operation) :
    Except String Session → Prop
  | .ok t => Leads s me rest operation t
  | .error _ => operation = none

end

section

variable {s m : Session} {me : Nat} {rest : List Activity} {operation : Option Operation}

theorem Opens.lookup {α : Type} {x : Except String α} {f : α → Except String Session}
    {g : α → Option Operation} (goes : ∀ a, Opens s me rest (g a) (f a)) :
    Opens s me rest (x.toOption >>= g) (x >>= f) := by
  cases x with
  | error name => rfl
  | ok a => exact goes a

theorem Opens.bind_of {α : Type} {x : Except String α} {f : α → Except String Session}
    (goes : ∀ a, x = .ok a → Opens s me rest none (f a)) : Opens s me rest none (x >>= f) := by
  cases x with
  | error name => rfl
  | ok a => exact goes a rfl

theorem Opens.bind {α : Type} {x : Except String α} {f : α → Except String Session}
    (goes : ∀ a, Opens s me rest none (f a)) : Opens s me rest none (x >>= f) :=
  .bind_of fun a _ => goes a

theorem Opens.give (beside : Beside s me operation m) (nothing : added operation s.waitSide = [])
    {reply : Reply} : Opens s me rest operation (.ok (m.give me rest reply)) :=
  Leads.give beside nothing reply

theorem Opens.tell (beside : Beside s me none m) {reply : Reply} :
    Opens s me rest none (.ok (m.give me rest reply)) :=
  .give beside rfl

theorem Opens.run (beside : Beside s me operation m) (others : List Activity)
    (apart : ∀ activity ∈ others, activity.attends = false) :
    Opens s me rest operation (.ok (m.run me (added operation s.waitSide ++ (others ++ rest)))) :=
  Leads.run beside others apart

private theorem Opens.go (beside : Beside s me none m) (others : List Activity)
    (apart : ∀ activity ∈ others, activity.attends = false) :
    Opens s me rest none (.ok (m.run me (others ++ rest))) :=
  Leads.run beside others apart

theorem Opens.begin {step : Step} (opens : Opens s me rest operation (s.begin? me rest step)) :
    Leads s me rest operation (s.begin me rest step) := by
  unfold Session.begin
  cases begun : s.begin? me rest step with
  | ok t => rwa [begun] at opens
  | error name =>
    rw [begun] at opens
    cases opens
    exact .give (.refl s me) rfl _

end

theorem attends_firing {s : Session} {target : String} {event : Event} {activity : Activity}
    (firing : s.firing target event = .ok activity) : activity.attends = false := by
  unfold Session.firing at firing
  split at firing
  case h_2 l _ => cases l <;> cases firing <;> rfl
  all_goals cases firing <;> rfl

section

variable (s : Session) (me : Nat) (rest : List Activity)

private theorem opens_wait (awaited : Awaited) (kind : Option WaitKind) (arming : Arming) :
    Opens s me rest (some (.wait awaited kind arming))
      (.ok (s.beginWait me rest arming kind awaited.activity)) := by
  refine .run (.of_side ?_ ?_) [] (List.forall_mem_nil _)
  · by_cases armed : arming.armed = true <;> simp [armed, effect, Operation.apply, waitSide_setToken]
  · split
    · exact s.backs_setToken me true
    · rfl

private theorem opens_inform (target : String) :
    Opens s me rest (s.operation? me (.info target)) (s.inform me rest target) := by
  cases found : s.object? target with
  | none =>
    simp only [operation?, inform, found]
    rfl
  | some object =>
    cases object with
    | chain | registry | dispatcher | transfer | unit =>
      simp only [operation?, inform, found]
      split <;> first | exact .tell (.refl s me) | rfl
    | handle h =>
      simp only [operation?, inform, found]
      refine .run ?_ [] (List.forall_mem_nil _)
      exact .of_side rfl rfl
    | monitor m =>
      cases m with
      | scripted id =>
        simp only [operation?, inform, found]
        rfl
      | units id =>
        simp only [operation?, inform, found]
        cases here : s.monitors[id]? with
        | none => rfl
        | some m =>
          have frames : added (some (.askMonitor id)) s.waitSide =
              [.monitor id (.enter .isDone), .reportMonitor id (s.unitMonitorDebug m)] := by
            have row : s.waitSide.monitors[id]? = some m := here
            simp only [added, Option.elim_some, Operation.frames, row]
            rfl
          have runs : Opens s me rest (some (.askMonitor id)) _ := .run (.of_side rfl rfl) [] (List.forall_mem_nil _)
          rwa [frames] at runs
    | executor | listener | waiter =>
      simp only [operation?, inform, found]
      rfl

/-! `lookup` where the operation depends on what a name stands for, `bind` where there is none anyway. -/

variable {step : Step}

private theorem opens_executors (about : step.area = .executors) :
    Opens s me rest (s.operation? me step) (s.begin? me rest step) := by
  cases step with
  | executor id plan =>
    cases plan with
    | pool settings =>
      have begun : Beside s me (some (.threads settings.workerCount)) (s.prepare me (.pool settings)).2 :=
        (s.beside_log me me _).trans (beside_newPool _ me settings)
      refine .give ?_ rfl
      exact begun.also (.of_side rfl rfl)
    | runtime =>
      refine .give ?_ rfl
      exact (s.beside_newRuntime me).also (.of_side rfl rfl)
    | scripted | sameThread | sharedPool =>
      refine .tell ?_
      exact .of_side rfl rfl
  | submit => exact .bind fun _ => .go (.refl s me) [_] (by simp [Activity.attends])
  | runHeld executor index =>
    refine .bind fun x => ?_
    split
    · split
      · refine .go ?_ [_, _] (by simp [Activity.attends])
        exact .of_side rfl rfl
      · exact .tell (.refl s me)
    · rfl
  | executorInfo executor =>
    refine .bind fun x => ?_
    split <;> first | exact .tell (.refl s me) | rfl
  | poolBlock executor =>
    refine .bind fun x => .go ?_ [_, _] (by simp [Activity.attends])
    exact .of_side rfl rfl
  | poolRelease executor count =>
    refine .bind fun x => .tell ?_
    exact s.beside_openGates me _
  | poolShutdown executor =>
    refine .bind fun x => .go ?_ [_, _] (by simp [Activity.attends])
    exact s.beside_openGates me _
  | poolInfo => exact .bind fun _ => .tell (.refl s me)
  | sharedSame | outsideRuntime => exact .tell (.refl s me)
  | runtimeStop executor =>
    refine .bind fun x => ?_
    split
    · refine .tell ?_
      exact .of_side rfl rfl
    · rfl
  | _ => cases about

private theorem opens_listeners (about : step.area = .listeners) :
    Opens s me rest (s.operation? me step) (s.begin? me rest step) := by
  cases step with
  | listenerInfo => exact .bind fun _ => .tell (.refl s me)
  | listener | chain | registry =>
    refine .tell ?_
    exact .of_side rfl rfl
  | chainListener | dispatcher =>
    refine .bind fun _ => .tell ?_
    exact .of_side rfl rfl
  | add target listener =>
    refine .bind fun l => .bind fun place => .tell ?_
    exact s.beside_addAt me place
  | remove target listener =>
    refine .bind fun l => .bind fun place => .tell ?_
    exact s.beside_removeAt me place
  | addCoded transfer id trigger times actions panic silent =>
    refine .bind fun t => ?_
    split
    rename_i o made new
    cases new
    split
    · refine .tell (Beside.bind (Beside.trans ?_ (beside_updateChain _ me _ _)) _ _)
      exact .of_side rfl rfl
    · rfl
  | fire target event =>
    refine .bind_of fun activity fired => .go (.refl s me) [activity] ?_
    simpa using attends_firing fired
  | fireMany target kind first last =>
    exact .bind fun _ => .go (.refl s me) [_] (by simp [Activity.attends])
  | info target => exact s.opens_inform me rest target
  | _ => cases about

private theorem opens_transfers (about : step.area = .transfers) :
    Opens s me rest (s.operation? me step) (s.begin? me rest step) := by
  cases step with
  | wait transfer kind arming =>
    exact .lookup fun t => s.opens_wait me rest (.transfer t) (some kind) arming
  | transfer id description direction total executor stateListener =>
    refine .lookup fun x => .lookup fun o => .give ?_ rfl
    exact (s.beside_newTransfer me _).bind _ _
  | setState transfer state =>
    exact .bind fun t => .go (.refl s me) [_] (by simp [Activity.attends])
  | notify transfer state registry =>
    cases registry with
    | none => exact .bind fun t => .go (.refl s me) [_, _] (by simp [Activity.attends])
    | some registry =>
      exact .bind fun t => .bind fun r => .go (.refl s me) [_] (by simp [Activity.attends])
  | addBytes transfer bytes =>
    refine .bind fun t => .go ?_ [_] (by simp [Activity.attends])
    exact s.beside_modifyTransfer me t _ fun _ => rfl
  | setTotal transfer total =>
    refine .bind fun t => .tell ?_
    exact s.beside_modifyTransfer me t _ fun _ => rfl
  | setMonitor transfer monitor =>
    refine .lookup fun t => .lookup fun m => .give ?_ rfl
    exact s.beside_attach me t m
  | startWait id transfer kind =>
    refine .lookup fun t => .give ?_ rfl
    exact (s.beside_startWait me (.transfer t) none).bind _ _
  | _ => cases about

private theorem opens_threads (about : step.area = .threads) :
    Opens s me rest (s.operation? me step) (s.begin? me rest step) := by
  cases step with
  | join => exact .bind fun _ => .go (.refl s me) [_] (by simp [Activity.attends])
  | isInterrupted | interruptDebug => exact .tell (.refl s me)
  | startUnitWait id unit =>
    refine .lookup fun h => .give ?_ rfl
    exact (s.beside_startWait me (.handle h) none).bind _ _
  | interruptWaiter waiter =>
    refine .lookup fun w => .give ?_ rfl
    exact s.beside_token me w.1 true
  | parallel lanes => exact .run (s.beside_spawnLanes me lanes) [_] (by simp [Activity.attends])
  | loop times steps => exact .go (.refl s me) [_] (by simp [Activity.attends])
  | interrupt =>
    refine .give ?_ rfl
    exact s.beside_token me me true
  | takeInterrupt =>
    refine .give ?_ rfl
    exact s.beside_token me me false
  | interruptElsewhere own =>
    cases own with
    | true => exact .tell (.refl s me)
    | false =>
      refine .give ?_ rfl
      exact s.beside_token me mainThread true
  | _ => cases about

private theorem opens_units (about : step.area = .units) :
    Opens s me rest (s.operation? me step) (s.begin? me rest step) := by
  cases step with
  | unitWait unit arming => exact .lookup fun h => s.opens_wait me rest (.handle h) none arming
  | awaitNext monitor arming => exact .lookup fun m => s.opens_wait me rest (.turn m) none arming
  | fixedHandle =>
    refine .give ?_ rfl
    exact .of_side rfl rfl
  | unit id succeeded =>
    refine .give ?_ rfl
    cases succeeded with
    | true =>
      refine Beside.bind (.of_side ?_ ?_) _ _
      · exact waitSide_finishUnit s.newUnit.2 _ .success
      · exact backs_finishUnit s.newUnit.2 _ .success
    | false => exact .of_side rfl rfl
  | succeed unit | cancel unit =>
    refine .lookup fun u => .give ?_ rfl
    exact s.beside_finishUnit me u _
  | fail unit cause =>
    refine .lookup fun u => .give ?_ rfl
    exact s.beside_fail me u cause
  | spawn executor id work =>
    refine .lookup fun x => .run ?_ [_, _] (by simp [Activity.attends])
    exact .of_side rfl rfl
  | monitor id unit single =>
    refine .lookup fun h => .give ?_ rfl
    exact (s.beside_newUnitMonitor me h single).bind _ _
  | advance monitor unit =>
    refine .lookup fun m => .lookup fun h => .run ?_ [] (List.forall_mem_nil _)
    exact .of_side rfl rfl
  | «seal» monitor =>
    refine .lookup fun m => .run ?_ [] (List.forall_mem_nil _)
    exact .of_side rfl rfl
  | currentHandle monitor id =>
    refine .lookup fun m => .run ?_ [_] (by simp [Activity.attends])
    exact .of_side rfl rfl
  | scriptedMonitor id handles done =>
    refine .lookup fun h => .give ?_ rfl
    exact .of_side rfl rfl
  | _ => cases about

theorem opens (step : Step) : Opens s me rest (s.operation? me step) (s.begin? me rest step) := by
  cases about : step.area with
  | executors => exact s.opens_executors me rest about
  | listeners => exact s.opens_listeners me rest about
  | transfers => exact s.opens_transfers me rest about
  | threads => exact s.opens_threads me rest about
  | units => exact s.opens_units me rest about

theorem leads_begin (step : Step) :
    Leads s me rest (s.operation? me step) (s.begin me rest step) :=
  (s.opens me rest step).begin

end

end TransferLifecycle.Session
