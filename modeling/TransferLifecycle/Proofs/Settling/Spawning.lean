import TransferLifecycle.Proofs.Settling.Agreement

/-! Units that are spawned. The executor decides once about the offer, and there is a handle only if it accepts.
The work is run once at most, and what is then told to the unit is how the work has ended. -/
namespace TransferLifecycle.Settling

def Ending.Makes : Ending → Outcome → Prop
  | .returned, outcome => outcome = .success
  | .failed cause, outcome => ∃ address, outcome = .failure ⟨.mk address cause⟩
  | .panicked, outcome => ∃ address, outcome = .failure ⟨.mk address panicFault⟩

theorem Ending.makes_outcome (work : Ending) (next : Nat) : work.Makes (work.attempt.outcome next).1 := by
  cases work with
  | returned => rfl
  | failed | panicked => exact ⟨next, rfl⟩

namespace Deed

def ran? : Deed → Option Ending
  | ran _ work => some work
  | _ => none

def settled? : Deed → Option (Outcome × Bool)
  | settled _ outcome first => some (outcome, first)
  | _ => none

def refused? : Deed → Option Refusal
  | refused _ reason => some reason
  | _ => none

end Deed

namespace Task

def runs : Task → List Ending
  | worked work _ | settled work _ _ => [work]
  | unmade | queued _ | dropped => []

def settlements : Task → List (Outcome × Bool)
  | settled _ outcome first => [(outcome, first)]
  | _ => []

def Fits : Task → Prop
  | worked work outcome | settled work outcome _ => work.Makes outcome
  | unmade | queued _ | dropped => True

end Task

def about {β : Type} (unit : Nat) (kind : Deed → Option β) (history : List Deed) : List β :=
  history.filterMap fun deed => if deed.unit = unit then kind deed else none

section

variable {β : Type} {unit : Nat} {kind : Deed → Option β}

@[simp] theorem about_nil : about unit kind [] = [] := rfl

@[simp] theorem about_append (history news : List Deed) :
    about unit kind (history ++ news) = about unit kind history ++ about unit kind news :=
  List.filterMap_append

@[simp] theorem about_singleton (deed : Deed) :
    about unit kind [deed] = if deed.unit = unit then (kind deed).toList else [] := by
  by_cases same : deed.unit = unit
  · cases told : kind deed <;> simp [about, same, told]
  · simp [about, same]

theorem mem_about {history : List Deed} {x : β} :
    x ∈ about unit kind history ↔ ∃ deed ∈ history, deed.unit = unit ∧ kind deed = some x := by
  simp [about]

end

namespace System

variable {s t : System} {action : Action} {unit : Nat}

/-- Whether there is a handle, by what has become of the offer. -/
structure Offered (s : System) (unit : Nat) : Prop where
  fresh : s.store.made ≤ unit → s.offers unit = .unmade ∧ unit ∉ s.store.handles
  handed : unit ∈ s.store.handles → s.offers unit = .unmade ∨ s.offers unit = .decided .accepts
  refused : ∀ reason ∈ about unit Deed.refused? s.history, s.offers unit = .decided (.refuses reason)

/-- What has been told of the work, by what has become of it. -/
structure Worked (s : System) (unit : Nat) : Prop where
  fresh : s.store.made ≤ unit → s.tasks unit = .unmade
  runs : about unit Deed.ran? s.history = (s.tasks unit).runs
  settlements : about unit Deed.settled? s.history = (s.tasks unit).settlements
  fits : (s.tasks unit).Fits

theorem Offered.frame (offered : s.Offered unit) (made : s.store.made ≤ t.store.made)
    (handed : unit ∈ t.store.handles → unit ∈ s.store.handles) (offer : t.offers unit = s.offers unit)
    (told : about unit Deed.refused? t.history = about unit Deed.refused? s.history) : t.Offered unit where
  fresh new := by
    obtain ⟨unmade, absent⟩ := offered.fresh (Nat.le_trans made new)
    exact ⟨offer.trans unmade, fun here => absent (handed here)⟩
  handed here := by
    rw [offer]
    exact offered.handed (handed here)
  refused := by
    rw [told, offer]
    exact offered.refused

theorem Worked.frame (worked : s.Worked unit) (made : s.store.made ≤ t.store.made)
    (task : t.tasks unit = s.tasks unit)
    (runs : about unit Deed.ran? t.history = about unit Deed.ran? s.history)
    (settlements : about unit Deed.settled? t.history = about unit Deed.settled? s.history) :
    t.Worked unit where
  fresh new := task.trans (worked.fresh (Nat.le_trans made new))
  runs := by rw [runs, task, worked.runs]
  settlements := by rw [settlements, task, worked.settlements]
  fits := by
    rw [task]
    exact worked.fits

theorem Offered.decide (offered : s.Offered unit) {other : Nat} (offer : s.offers other = .pending)
    (verdict : Verdict) {deeds : List Deed} (told : t.history = s.history ++ deeds)
    (made : t.store.made = s.store.made) (offers : t.offers = (s.setOffer other (.decided verdict)).offers)
    (handed : unit ∈ t.store.handles → unit ∈ s.store.handles ∨ unit = other ∧ verdict = .accepts)
    (refused : ∀ reason ∈ about unit Deed.refused? deeds, unit = other ∧ verdict = .refuses reason) :
    t.Offered unit := by
  have mine (same : unit = other) : t.offers unit = .decided verdict := by
    rw [offers]
    exact if_pos same
  -- An offer that is not pending is another one than that which is decided.
  have others (apart : s.offers unit ≠ .pending) : unit ≠ other ∧ t.offers unit = s.offers unit := by
    have elsewhere : unit ≠ other := fun same => apart (same ▸ offer)
    rw [offers]
    exact ⟨elsewhere, if_neg elsewhere⟩
  constructor
  case fresh =>
    intro new
    obtain ⟨unmade, absent⟩ := offered.fresh (made ▸ new)
    obtain ⟨elsewhere, same⟩ := others (by simp [unmade])
    refine ⟨same.trans unmade, fun member => ?_⟩
    exact (handed member).elim absent fun now => elsewhere now.1
  case handed =>
    intro member
    obtain old | ⟨here, rfl⟩ := handed member
    · have before := offered.handed old
      have apart : s.offers unit ≠ .pending := by
        obtain unmade | accepted := before
        · simp [unmade]
        · simp [accepted]
      rw [(others apart).2]
      exact before
    · exact Or.inr (mine here)
  case refused =>
    intro reason member
    rw [told, about_append] at member
    obtain old | now := List.mem_append.mp member
    · have before := offered.refused reason old
      rw [(others (by simp [before])).2]
      exact before
    · obtain ⟨here, rfl⟩ := refused reason now
      exact mine here

theorem Steps.offered (steps : s.Steps action t) (offered : ∀ unit, s.Offered unit) (unit : Nat) :
    t.Offered unit := by
  have here := offered unit
  cases steps with
  | create =>
    constructor
    case fresh =>
      intro new
      obtain ⟨unmade, absent⟩ := here.fresh (Nat.le_of_succ_le new)
      refine ⟨unmade, fun member => ?_⟩
      obtain old | same := List.mem_append.mp member
      · exact absent old
      · exact absurd new (by simp [List.mem_singleton.mp same, newUnit, addHandle])
    case handed =>
      intro member
      obtain old | same := List.mem_append.mp member
      · exact here.handed old
      · exact Or.inl (here.fresh (Nat.le_of_eq (List.mem_singleton.mp same).symm)).1
    case refused => exact here.refused
  | @clone handle source there =>
    refine here.frame (Nat.le_refl _) (fun member => ?_) rfl rfl
    obtain old | same := List.mem_append.mp member
    · exact old
    · exact List.mem_singleton.mp same ▸ List.mem_of_getElem? there
  | attempt | ask | run | settle =>
    exact here.frame (Nat.le_refl _) id rfl (by simp [tell, finish, setTask, Deed.refused?])
  | wait | judge | interrupt | drop => exact here.frame (Nat.le_refl _) id rfl rfl
  | step found acts =>
    cases acts with
    | _ => exact here.frame (Nat.le_refl _) id rfl (by simp [tell, Deed.refused?])
  | @spawn work =>
    by_cases same : unit = s.store.made
    · obtain ⟨unmade, absent⟩ := here.fresh (Nat.le_of_eq same.symm)
      constructor
      case fresh =>
        intro new
        exact absurd new (by simp [setTask, setOffer, newUnit, same])
      case handed =>
        intro member
        exact absurd member absent
      case refused =>
        intro reason told
        have before := here.refused reason told
        rw [unmade] at before
        cases before
    · exact here.frame (Nat.le_succ _) id (by simp [setTask, setOffer, newUnit, same]) rfl
  | @accept other offer =>
    refine here.decide offer .accepts rfl rfl rfl (fun member => ?_) (by simp [Deed.refused?])
    exact (List.mem_append.mp member).imp_right fun same => ⟨List.mem_singleton.mp same, rfl⟩
  | @refuse other reason offer =>
    refine here.decide offer (.refuses reason) rfl rfl rfl Or.inl fun told member => ?_
    obtain ⟨deed, only, same, mine⟩ := mem_about.mp member
    cases List.mem_singleton.mp only
    cases mine
    exact ⟨same.symm, rfl⟩
  | panic offer => exact here.decide offer .panics (List.append_nil _).symm rfl rfl Or.inl (by simp)

theorem Worked.turn (worked : s.Worked unit) {other : Nat} {task : Task} {deeds : List Deed}
    (known : s.tasks other ≠ .unmade) (made : t.store.made = s.store.made)
    (tasks : t.tasks = (s.setTask other task).tasks) (told : t.history = s.history ++ deeds)
    (silent : other ≠ unit → about unit Deed.ran? deeds = [] ∧ about unit Deed.settled? deeds = [])
    (runs : (s.tasks other).runs ++ about other Deed.ran? deeds = task.runs)
    (settlements : (s.tasks other).settlements ++ about other Deed.settled? deeds = task.settlements)
    (fits : (s.tasks other).Fits → task.Fits) : t.Worked unit := by
  by_cases same : other = unit
  · subst same
    have now : t.tasks other = task := by
      rw [tasks]
      exact if_pos rfl
    constructor
    case fresh =>
      intro new
      exact absurd (worked.fresh (made ▸ new)) known
    case runs => rw [told, about_append, worked.runs, runs, now]
    case settlements => rw [told, about_append, worked.settlements, settlements, now]
    case fits =>
      rw [now]
      exact fits worked.fits
  · obtain ⟨noRuns, noSettlements⟩ := silent same
    refine worked.frame (Nat.le_of_eq made.symm) ?_ ?_ ?_
    · rw [tasks]
      exact if_neg (Ne.symm same)
    · rw [told, about_append, noRuns, List.append_nil]
    · rw [told, about_append, noSettlements, List.append_nil]

theorem Steps.worked (steps : s.Steps action t) (worked : ∀ unit, s.Worked unit) (unit : Nat) :
    t.Worked unit := by
  have here := worked unit
  cases steps with
  | create => exact here.frame (Nat.le_succ _) rfl rfl rfl
  | clone | wait | judge | interrupt | panic => exact here.frame (Nat.le_refl _) rfl rfl rfl
  | attempt | ask | accept | refuse =>
    exact here.frame (Nat.le_refl _) rfl (by simp [tell, finish, addHandle, setOffer, Deed.ran?])
      (by simp [tell, finish, addHandle, setOffer, Deed.settled?])
  | step found acts =>
    cases acts with
    | _ => exact here.frame (Nat.le_refl _) rfl (by simp [tell, Deed.ran?]) (by simp [tell, Deed.settled?])
  | @spawn work =>
    by_cases same : unit = s.store.made
    · have unmade := here.fresh (Nat.le_of_eq same.symm)
      have now : ((s.newUnit.setOffer s.store.made .pending).setTask s.store.made (.queued work)).tasks unit =
          .queued work := if_pos same
      constructor
      case fresh =>
        intro new
        exact absurd new (by simp [setTask, setOffer, newUnit, same])
      case runs =>
        rw [now]
        exact here.runs.trans (by rw [unmade]; rfl)
      case settlements =>
        rw [now]
        exact here.settlements.trans (by rw [unmade]; rfl)
      case fits =>
        rw [now]
        exact trivial
    · exact here.frame (Nat.le_succ _) (by simp [setTask, setOffer, newUnit, same]) rfl rfl
  | @run other work outcome next task tried =>
    refine here.turn (by simp [task]) rfl rfl rfl (fun apart => ?_) ?_ ?_ fun _ => ?_
    · simp [Deed.unit, apart]
    · simp [task, Task.runs, Deed.unit, Deed.ran?]
    · simp [task, Task.settlements, Deed.settled?]
    · have makes := work.makes_outcome s.store.next
      rwa [tried] at makes
  | @drop other work task =>
    refine here.turn (by simp [task]) rfl rfl (List.append_nil _).symm (fun _ => ⟨rfl, rfl⟩) ?_ ?_ fun _ => trivial
    · simp [task, Task.runs]
    · simp [task, Task.settlements]
  | @settle other work outcome task =>
    refine here.turn (by simp [task]) rfl rfl rfl (fun apart => ?_) ?_ ?_ fun fits => ?_
    · simp [Deed.unit, apart]
    · simp [task, Task.runs, Deed.ran?]
    · simp [task, Task.settlements, Deed.unit, Deed.settled?]
    · rwa [task] at fits

theorem Reachable.offered (reach : s.Reachable) (unit : Nat) : s.Offered unit := by
  refine reach.invariant (fun s => ∀ unit, s.Offered unit) ?start ?step unit
  case start =>
    intro unit
    exact ⟨fun _ => ⟨rfl, nofun⟩, nofun, nofun⟩
  case step =>
    intro s action t _ offered steps
    exact steps.offered offered

theorem Reachable.worked (reach : s.Reachable) (unit : Nat) : s.Worked unit := by
  refine reach.invariant (fun s => ∀ unit, s.Worked unit) ?start ?step unit
  case start =>
    intro unit
    exact ⟨fun _ => rfl, rfl, rfl, trivial⟩
  case step =>
    intro s action t _ worked steps
    exact steps.worked worked

theorem Reachable.refused (reach : s.Reachable) {reason : Refusal} (told : .refused unit reason ∈ s.history) :
    unit ∉ s.store.handles := by
  intro here
  have decided := (reach.offered unit).refused reason (mem_about.mpr ⟨_, told, rfl, rfl⟩)
  obtain unmade | accepted := (reach.offered unit).handed here
  · simp [unmade] at decided
  · simp [accepted] at decided

theorem Reachable.settled (reach : s.Reachable) {outcome : Outcome} {first : Bool}
    (told : .settled unit outcome first ∈ s.history) :
    ∃ work, about unit Deed.ran? s.history = [work] ∧ work.Makes outcome ∧
      about unit Deed.settled? s.history = [(outcome, first)] := by
  have worked := reach.worked unit
  have member : (outcome, first) ∈ (s.tasks unit).settlements := by
    rw [← worked.settlements]
    exact mem_about.mpr ⟨_, told, rfl, rfl⟩
  have fits := worked.fits
  have runs := worked.runs
  have settlements := worked.settlements
  cases task : s.tasks unit with
  | settled work made was =>
    rw [task] at member fits runs settlements
    cases List.mem_singleton.mp member
    exact ⟨work, runs, fits, settlements⟩
  | _ =>
    rw [task] at member
    cases member

theorem Reachable.once (reach : s.Reachable) (unit : Nat) : (about unit Deed.ran? s.history).length ≤ 1 := by
  rw [(reach.worked unit).runs]
  cases s.tasks unit <;> simp [Task.runs]

end System

end TransferLifecycle.Settling
