import TransferLifecycle.Proofs.Monitoring.Knowledge

/-! What can be relied on when a wait reports success. The transfer is done, but a failure may
have been noticed only after the wait was handed its last handle; the wait then overlooks it, for
it asks whether the transfer is done and not how it ended. -/
namespace TransferLifecycle.Monitoring

open UnitMonitor (Operation Question Answer Result Point Moves)
open Wait (Drive Turn)

/-- What has been told since the strand at a place was last handed a handle. -/
def tell (place : Nat) (told : List Deed) : Option Nat × Deed → List Deed
  | (teller, deed) =>
    match deed with
    | .handed _ => if teller = some place then [] else told ++ [deed]
    | _ => told ++ [deed]

def System.since (s : System) (place : Nat) : List Deed := s.history.foldl (tell place) []

def World.Succeeded (w : World) : Prop :=
  w.monitor.isSealed = true ∧ (w.completions w.monitor.current).outcome = some .success ∧
    w.monitor.failed = none

def World.LatchedIn (w : World) (told : List Deed) : Prop :=
  ∀ unit, w.monitor.failed = some unit → .latched unit ∈ told

/-- How far the last turn of a wait has come: it was handed a handle, the handle has been waited
on, or the transfer has been found done. -/
inductive Phase where
  | none
  | handed (h : Handle)
  | heard
  | done

def Caller.phase : Caller → Phase
  | .wait _ .inquiring => .heard
  | _ => .none

def Stage.phase : Stage → Phase
  | .turning _ (.await h) | .awaiting _ _ h => .handed h
  | .turning _ .inquire => .heard
  | .calling caller _ _ | .asking caller _ _ _ => caller.phase
  | .turning _ (.leave (.ok true)) | .driving (.leave (.ok ())) | .waited (.ok ()) => .done
  | _ => .none

def Phase.Sound (w : World) (told : List Deed) : Phase → Prop
  | .none => True
  | .handed h => ∀ unit, w.monitor.failed = some unit → h = unit ∨ .latched unit ∈ told
  | .heard => w.LatchedIn told
  | .done => w.Done ∧ w.LatchedIn told

theorem World.LatchedIn.append {w later : World} {told deeds : List Deed} (latched : w.LatchedIn told)
    (latches : ∀ unit, later.monitor.failed = some unit →
      w.monitor.failed = some unit ∨ .latched unit ∈ deeds) : later.LatchedIn (told ++ deeds) := by
  intro unit failed
  obtain before | now := latches unit failed
  · exact List.mem_append_left _ (latched unit before)
  · exact List.mem_append_right _ now

theorem Phase.Sound.append {w later : World} {told deeds : List Deed} {phase : Phase}
    (sound : phase.Sound w told) (lasts : w.Lasts later)
    (latches : ∀ unit, later.monitor.failed = some unit →
      w.monitor.failed = some unit ∨ .latched unit ∈ deeds) : phase.Sound later (told ++ deeds) := by
  cases phase with
  | none => trivial
  | handed h =>
    intro unit failed
    obtain before | now := latches unit failed
    · exact (sound unit before).imp_right (List.mem_append_left _)
    · exact Or.inr (List.mem_append_right _ now)
  | heard => exact World.LatchedIn.append sound latches
  | done => exact ⟨lasts.done sound.1, sound.2.append latches⟩

variable {me thread : Nat} {w : World} {stage : Stage} {e : Effect}

private theorem foldl_tell_append (place : Nat) (teller : Option Nat) (told deeds : List Deed)
    (unhanded : teller = some place → ∀ h, .handed h ∉ deeds) :
    (deeds.map (teller, ·)).foldl (tell place) told = told ++ deeds := by
  induction deeds generalizing told with
  | nil => simp
  | cons deed rest ih =>
    have first : tell place told (teller, deed) = told ++ [deed] := by
      cases deed with
      | handed h =>
        have other : teller ≠ some place := by
          intro same
          exact unhanded same h List.mem_cons_self
        simp [tell, other]
      | _ => rfl
    have others : teller = some place → ∀ h, .handed h ∉ rest := by
      intro same h member
      exact unhanded same h (List.mem_cons_of_mem _ member)
    rw [List.map_cons, List.foldl_cons, first, ih _ others, List.append_assoc, List.singleton_append]

private theorem unhanded_of_moves {me : Nat} {m m' : UnitMonitor Handle} {point : Point Handle}
    {next : Next (Point Handle) (Question Handle) (Result Handle)} (moves : Moves me m point m' next)
    (goes : ∀ result, next ≠ .done result) (h : Handle) : .handed h ∉ deedsOf m point := by
  cases moves with
  | leave => exact (goes _ rfl).elim
  | _ => simp [deedsOf]

theorem Stage.Acts.sound (acts : stage.Acts me thread w e) (formed : stage.Formed)
    (known : stage.Known w) (latched : ∀ unit, w.monitor.failed = some unit → w.Failed unit)
    {told : List Deed} (sound : stage.phase.Sound w told) :
    e.stage.phase.Sound e.world ((e.deeds.map (some me, ·)).foldl (tell me) told) := by
  have lasts := acts.lasts formed known
  have latches : ∀ unit, e.world.monitor.failed = some unit →
      w.monitor.failed = some unit ∨ .latched unit ∈ e.deeds := by
    intro unit failed
    exact (acts.latches known failed).imp_right (·.1)
  cases acts with
  | goto moves =>
    rw [foldl_tell_append _ _ _ _ fun _ => unhanded_of_moves moves nofun]
    exact sound.append lasts latches
  | ask moves =>
    rw [foldl_tell_append _ _ _ _ fun _ => unhanded_of_moves moves nofun]
    exact sound.append lasts latches
  | answer =>
    rw [foldl_tell_append _ _ _ _ fun _ _ => List.not_mem_nil]
    exact sound.append lasts latches
  | @leave caller op result =>
    obtain ⟨makes, gives⟩ := formed
    cases caller with
    | itself => trivial
    | wait drive turn =>
      obtain ⟨rfl, ⟨rfl, rfl⟩ | ⟨rfl, rfl⟩⟩ := makes
      · cases result with
        | handle h =>
          intro unit failed
          exact Or.inl (known unit failed)
        | _ => cases gives
      · cases result with
        | truth b => cases b with
          | true => exact ⟨known, sound⟩
          | false => trivial
        | _ => cases gives
  | @finished drive turn h outcome some =>
    obtain ⟨rfl, rfl⟩ := formed
    cases outcome with
    | success =>
      intro unit failed
      -- A latched unit has failed, so the handle that succeeded is another one.
      obtain rfl | told := sound unit failed
      · have both := latched h failed
        simp [World.Failed, Completion.isFailed, some] at both
      · exact told
    | failure | cancellation => trivial
  | @finishTurn drive result =>
    obtain ⟨rfl, -⟩ := formed
    cases result with
    | ok b => cases b with
      | true => exact sound
      | false => trivial
    | error error => cases error <;> trivial
  | interrupted =>
    obtain ⟨rfl, rfl⟩ := formed
    trivial
  | attach | begin | fetch => trivial
  | @report result => cases result with
    | ok _ => exact sound
    | error _ => trivial
  | await | inquire => exact sound

namespace System

private theorem since_effect_of_ne (s : System) {acting place : Nat} (thread : Nat) (e : Effect)
    (other : acting ≠ place) : (s.effect acting thread e).since place = s.since place ++ e.deeds := by
  rw [since, effect, List.foldl_append, ← since, foldl_tell_append]
  intro same
  exact (other (Option.some.inj same)).elim

private theorem mem_of_tell {place : Nat} {told : List Deed} {teller : Option Nat} {now deed : Deed}
    (member : deed ∈ tell place told (teller, now)) : deed ∈ told ++ [now] := by
  cases now with
  | handed h =>
    simp only [tell] at member
    split at member
    · cases member
    · exact member
  | _ => exact member

private theorem mem_deeds_of_since {s : System} {place : Nat} {deed : Deed} (told : deed ∈ s.since place) :
    deed ∈ s.deeds := by
  have among (history : List (Option Nat × Deed)) (before : List Deed)
      (member : deed ∈ history.foldl (tell place) before) : deed ∈ before ++ history.map (·.2) := by
    induction history generalizing before with
    | nil => simpa using member
    | cons entry rest ih =>
      rw [List.map_cons, ← List.singleton_append, ← List.append_assoc]
      obtain old | new := List.mem_append.mp (ih _ member)
      · exact List.mem_append_left _ (mem_of_tell old)
      · exact List.mem_append_right _ new
  exact among s.history [] told

theorem Reachable.sound {s : System} (reach : s.Reachable) {place : Nat} {strand : Strand}
    (found : s.strands[place]? = some strand) : strand.stage.phase.Sound s.world (s.since place) := by
  refine reach.invariant (fun s => ∀ place strand, s.strands[place]? = some strand →
    strand.stage.phase.Sound s.world (s.since place))
    ?start ?begin ?finish ?interrupt ?step place strand found
  case start =>
    intro units first place strand found
    cases found
  case begin =>
    intro s new ih fresh place strand found
    obtain old | rfl := found_begin found
    · exact ih place strand old
    · obtain atStart | ⟨op, atStart⟩ := fresh <;> rw [atStart] <;> trivial
  case finish =>
    intro s id outcome ih place strand found
    have lasts := (World.grows_finish s.world (.unit id) outcome).lasts rfl
    rw [← List.append_nil ((s.change _).since place)]
    exact (ih place strand found).append lasts fun _ failed => Or.inl failed
  case interrupt =>
    intro s thread ih place strand found
    rw [← List.append_nil ((s.change _).since place)]
    exact (ih place strand found).append (World.Lasts.of_eq rfl rfl) fun _ failed => Or.inl failed
  case step =>
    intro s acting strand e reach ih here acts place other found
    have member := List.mem_of_getElem? here
    have formed := reach.formed member
    have known := reach.known member
    obtain ⟨rfl, rfl⟩ | ⟨elsewhere, old⟩ := found_effect here found
    · -- Being handed a handle is the only deed that starts the account of the strand afresh.
      rw [since, effect, List.foldl_append]
      exact acts.sound formed known (fun _ failed => (reach.latched failed).2) (ih acting strand here)
    · rw [since_effect_of_ne s _ e elsewhere]
      refine (ih place other old).append (acts.lasts formed known) ?_
      intro unit failed
      exact (acts.latches known failed).imp_right (·.1)

private theorem Reachable.done_of_waited {s : System} (reach : s.Reachable) {place thread : Nat}
    (found : s.strands[place]? = some ⟨thread, .waited (.ok ())⟩) :
    s.world.Done ∧ s.world.LatchedIn (s.since place) :=
  reach.sound found

end System

private theorem exception_eq_ok_none {result : Except WaitError Unit} (ok : Wait.exception result = .ok none) :
    result = .ok () := by
  unfold Wait.exception at ok
  split at ok <;> simp_all

private theorem World.Done.succeeded_iff {w : World} (done : w.Done) :
    w.Succeeded ↔ w.monitor.failed = none ∧ ¬ w.Failed w.monitor.current := by
  constructor
  · rintro ⟨-, success, none⟩
    refine ⟨none, ?_⟩
    simp [Failed, Completion.isFailed, success]
  · rintro ⟨none, unfailed⟩
    obtain ⟨unit, failed⟩ | ⟨closed, finished⟩ := done
    · rw [none] at failed
      cases failed
    · refine ⟨closed, ?_, none⟩
      obtain ⟨outcome, some⟩ := Option.isSome_iff_exists.mp finished
      unfold Failed Completion.isFailed at unfailed
      cases outcome with
      | success => exact some
      | _ => simp [some] at unfailed

namespace System

/-- A wait reports success only of a transfer that is done. It has overlooked a failure exactly if
one was latched after the wait was handed its last handle, or if the last unit has failed. Where no
unit that ever was current has failed, the report is right. -/
theorem Reachable.waited {s : System} (reach : s.Reachable) {place thread : Nat}
    {result : Except WaitError Unit} (found : s.strands[place]? = some ⟨thread, .waited result⟩)
    (ok : result = .ok () ∨ Wait.exception result = .ok none) :
    s.world.Done ∧
    (s.world.Succeeded ↔
      (∀ unit, .latched unit ∉ s.since place) ∧ ¬ s.world.Failed s.world.monitor.current) ∧
    ((∀ unit, .current unit ∈ s.deeds → ¬ s.world.Failed unit) → s.world.Succeeded) := by
  obtain rfl : result = .ok () := ok.elim id exception_eq_ok_none
  obtain ⟨done, latched⟩ := reach.done_of_waited found
  have unlatched : s.world.monitor.failed = none ↔ ∀ unit, .latched unit ∉ s.since place := by
    constructor
    · intro none unit told
      rw [reach.failed_of_told (mem_deeds_of_since told)] at none
      cases none
    · intro untold
      cases failed : s.world.monitor.failed with
      | none => rfl
      | some unit => exact (untold unit (latched unit failed)).elim
  refine ⟨done, by rw [done.succeeded_iff, unlatched], ?_⟩
  intro unfailed
  refine done.succeeded_iff.mpr ⟨?_, unfailed _ reach.current_told⟩
  cases failed : s.world.monitor.failed with
  | none => rfl
  | some unit =>
    obtain ⟨told, has_failed⟩ := reach.latched failed
    exact (unfailed unit told has_failed).elim

/-- The first unit succeeds while a thread waits on it, the monitor is advanced to a unit that has
been canceled, and the thread asks whether the transfer is done. -/
def overlooking : List Action :=
  [.wait 0] ++ steps 0 13 ++ [.finish 0 .success] ++ steps 0 1 ++ [.finish 1 .cancellation] ++
    [.call 1 (.advance (.unit 1))] ++ steps 1 10 ++ steps 0 10

theorem not_waited_succeeded : ¬ ∀ s : System, s.Reachable → ∀ place thread : Nat,
    s.strands[place]? = some ⟨thread, .waited (.ok ())⟩ → s.world.Succeeded := by
  intro claim
  have ran : ∃ s, run? (new (fun _ => {}) 0) overlooking = some s ∧
      s.strands[0]? = some ⟨0, .waited (.ok ())⟩ ∧ s.world.monitor.failed = some (.unit 1) :=
    ⟨_, rfl, rfl, rfl⟩
  obtain ⟨s, ran, found, failed⟩ := ran
  obtain ⟨-, -, none⟩ := claim s (.run (.start _ 0) overlooking ran) 0 0 found
  rw [none] at failed
  cases failed

/-- The only unit succeeds while a thread waits on it, and the monitor is sealed. -/
def completing : List Action :=
  [.wait 0] ++ steps 0 13 ++ [.finish 0 .success] ++ steps 0 1 ++ [.call 1 .seal] ++ steps 1 4 ++
    steps 0 12

theorem waited_completing : ∃ s, run? (new (fun _ => {}) 0) completing = some s ∧
    s.strands[0]? = some ⟨0, .waited (.ok ())⟩ ∧ s.world.Succeeded := by
  have ran : ∃ s, run? (new (fun _ => {}) 0) completing = some s ∧
      s.strands[0]? = some ⟨0, .waited (.ok ())⟩ ∧
      s.deeds = [.current (.unit 0), .handed (.unit 0)] ∧
      (s.world.completions (.unit 0)).outcome = some .success :=
    ⟨_, rfl, rfl, rfl, rfl⟩
  obtain ⟨s, ran, found, deeds, success⟩ := ran
  obtain ⟨-, -, right⟩ := Reachable.waited (.run (.start _ 0) completing ran) found (Or.inl rfl)
  refine ⟨s, ran, found, right ?_⟩
  intro unit told failed
  rw [deeds] at told
  obtain rfl : unit = .unit 0 := by simpa using told
  simp [World.Failed, Completion.isFailed, success] at failed

end System

end TransferLifecycle.Monitoring
