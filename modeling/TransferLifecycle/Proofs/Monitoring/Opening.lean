import TransferLifecycle.Proofs.Monitoring.Knowledge

/-! Which gates are open. The gates are made one after another. The one that the monitor hands out is
shut until the monitor is sealed, and all before it are open; only an advance or a seal that is under
way may still owe the opening of one. -/
namespace TransferLifecycle.Monitoring

open UnitMonitor (Operation Question Answer Result Point Moves)

/-- The gate to hand out is the one with this number, and no gate is open too early. -/
structure World.Gated (w : World) (number : Nat) : Prop where
  gate : w.monitor.gate = .gate number
  unborn : ∀ later, number < later → ¬ w.Finished (.gate later)
  shut : w.monitor.isSealed = false → ¬ w.Finished (.gate number)

structure World.Tidy (w : World) (number : Nat) : Prop where
  gates : w.gates = number + 1
  past : ∀ earlier < number, w.Finished (.gate earlier)
  closed : w.monitor.isSealed = true → w.Finished (.gate number)

/-- How far the operation at a stage has come with the gates. -/
def Stage.Owes (w : World) (number : Nat) : Stage → Prop
  | .calling _ _ (.install h) =>
    h = .gate (number + 1) ∧ w.gates = number + 2 ∧ w.monitor.isSealed = false ∧
      ∀ earlier < number, w.Finished (.gate earlier)
  | .asking _ _ (.openGate h) (.opening (.truth _)) =>
    ∃ last, number = last + 1 ∧ h = .gate last ∧ w.gates = number + 1 ∧
      w.monitor.isSealed = false ∧ ∀ earlier < last, w.Finished (.gate earlier)
  | .asking _ _ (.openGate h) (.opening _) =>
    h = .gate number ∧ w.gates = number + 1 ∧ w.monitor.isSealed = true ∧
      ∀ earlier < number, w.Finished (.gate earlier)
  | _ => w.Tidy number

def Ends (op : Operation Handle) : Point Handle → Prop
  | .opening (.truth true) | .leave (.truth true) => ∃ unit, op = .advance unit
  | _ => False

def Stage.Ending : Stage → Prop
  | .calling _ op point | .asking _ op _ point => Ends op point
  | _ => False

structure World.Keeps (w later : World) : Prop where
  gate : later.monitor.gate = w.monitor.gate
  isSealed : later.monitor.isSealed = w.monitor.isSealed
  gates : later.gates = w.gates
  finished : ∀ number, later.Finished (.gate number) ↔ w.Finished (.gate number)

section

variable {w later : World} {number : Nat}

theorem World.Keeps.of_eq (gate : later.monitor.gate = w.monitor.gate)
    (isSealed : later.monitor.isSealed = w.monitor.isSealed) (gates : later.gates = w.gates)
    (same : later.completions = w.completions) : w.Keeps later where
  gate := gate
  isSealed := isSealed
  gates := gates
  finished number := by rw [World.Finished, World.Finished, same]

private theorem World.keeps_finish (w : World) (id : Nat) (outcome : Outcome) :
    w.Keeps (w.finish (.unit id) outcome) where
  gate := rfl
  isSealed := rfl
  gates := rfl
  finished number := by simp [Finished, finish]

theorem World.Gated.keep (gated : w.Gated number) (keeps : w.Keeps later) : later.Gated number where
  gate := keeps.gate.trans gated.gate
  unborn g greater := by
    rw [keeps.finished]
    exact gated.unborn g greater
  shut opened := by
    rw [keeps.isSealed] at opened
    rw [keeps.finished]
    exact gated.shut opened

theorem World.Tidy.keep (tidy : w.Tidy number) (keeps : w.Keeps later) : later.Tidy number where
  gates := keeps.gates.trans tidy.gates
  past g less := (keeps.finished g).mpr (tidy.past g less)
  closed sealed_ := (keeps.finished number).mpr (tidy.closed (keeps.isSealed.symm.trans sealed_))

theorem Stage.Owes.keep {stage : Stage} (owes : stage.Owes w number) (keeps : w.Keeps later) :
    stage.Owes later number := by
  unfold Stage.Owes at owes ⊢
  split at owes
  · obtain ⟨h, gates, opened, past⟩ := owes
    exact ⟨h, keeps.gates.trans gates, keeps.isSealed.trans opened,
      fun g less => (keeps.finished g).mpr (past g less)⟩
  · obtain ⟨last, number, h, gates, opened, past⟩ := owes
    exact ⟨last, number, h, keeps.gates.trans gates, keeps.isSealed.trans opened,
      fun g less => (keeps.finished g).mpr (past g less)⟩
  · obtain ⟨h, gates, closed, past⟩ := owes
    exact ⟨h, keeps.gates.trans gates, keeps.isSealed.trans closed,
      fun g less => (keeps.finished g).mpr (past g less)⟩
  · exact owes.keep keeps

private theorem World.finished_finish (w : World) (h k : Handle) (outcome : Outcome) :
    (w.finish h outcome).Finished k ↔ k = h ∨ w.Finished k := by
  by_cases same : k = h
  · subst same
    cases ended : (w.completions k).outcome <;>
      simp [Finished, finish, Completion.finish, Completion.isFinished, ended]
  · simp [Finished, finish, same]

end

variable {me thread : Nat} {w : World} {stage : Stage} {e : Effect} {number : Nat}

theorem Stage.Acts.keeps (acts : stage.Acts me thread w e) (formed : stage.Formed)
    (outside : stage.inside = false) : w.Keeps e.world := by
  cases acts with
  | goto moves => cases moves with
    | enter free => exact .of_eq rfl rfl rfl rfl
    | _ => cases outside
  | ask moves => cases moves <;> cases outside
  | answer =>
    rw [Stage.inside, formed.inside_of_asking] at outside
    cases outside
  | leave => cases outside
  | _ => exact .of_eq rfl rfl rfl rfl

private theorem Stage.owes_of_outside (outside : stage.inside = false) (formed : stage.Formed) :
    stage.Owes w number = w.Tidy number := by
  cases stage with
  | calling caller op point => cases point with
    | enter => rfl
    | _ => cases outside
  | asking caller op question point =>
    rw [Stage.inside, formed.inside_of_asking] at outside
    cases outside
  | _ => rfl

theorem Ends.inside {op : Operation Handle} {point : Point Handle} (ends : Ends op point) :
    Monitoring.inside point = true := by
  cases point with
  | enter => cases ends
  | _ => rfl

theorem Stage.Ending.inside (ending : stage.Ending) : stage.inside = true := by
  cases stage with
  | calling caller op point => exact Ends.inside ending
  | asking caller op question point => exact Ends.inside ending
  | _ => cases ending

/-- After the step the same gate is handed out, or the next one. -/
def Effect.Advances (e : Effect) (stage : Stage) (number : Nat) : Prop :=
  e.world.Gated number ∧ e.stage.Owes e.world number ∧ (e.stage.Ending → stage.Ending) ∨
    e.world.Gated (number + 1) ∧ e.stage.Owes e.world (number + 1)

private theorem Effect.advances_of_tidy (gated : w.Gated number) (tidy : w.Tidy number) (keeps : w.Keeps e.world)
    (owes : e.stage.Owes e.world number = e.world.Tidy number) (ending : e.stage.Ending → stage.Ending) :
    e.Advances stage number := by
  refine Or.inl ⟨gated.keep keeps, ?_, ending⟩
  rw [owes]
  exact tidy.keep keeps

/-- A gate that is being opened has been replaced, or the monitor has been sealed. -/
theorem Stage.Owes.opening {caller : Caller} {op : Operation Handle} {h : Handle} {result : Result Handle}
    (owes : (Stage.asking caller op (.openGate h) (.opening result)).Owes w number) :
    ∃ gate ≤ number, h = .gate gate ∧ w.gates = number + 1 ∧
      (w.monitor.isSealed = true ↔ gate = number) ∧
      ∀ earlier < number, earlier = gate ∨ w.Finished (.gate earlier) := by
  cases result with
  | truth b =>
    obtain ⟨last, rfl, rfl, gates, opened, past⟩ := owes
    refine ⟨last, Nat.le_succ last, rfl, gates, ?_, ?_⟩
    · rw [opened]
      exact iff_of_false Bool.false_ne_true (Nat.succ_ne_self last).symm
    · intro earlier less
      obtain less | same := Nat.lt_succ_iff_lt_or_eq.mp less
      · exact Or.inr (past earlier less)
      · exact Or.inl same
  | nothing | handle =>
    obtain ⟨rfl, gates, closed, past⟩ := owes
    exact ⟨number, Nat.le_refl number, rfl, gates, iff_of_true closed rfl,
      fun earlier less => Or.inr (past earlier less)⟩

private theorem Effect.advances_of_opening {caller : Caller} {op : Operation Handle} {h : Handle}
    {result : Result Handle} (gated : w.Gated number)
    (owes : (Stage.asking caller op (.openGate h) (.opening result)).Owes w number) :
    Effect.Advances ⟨w.finish h .success, .calling caller op (.leave result), []⟩
      (.asking caller op (.openGate h) (.opening result)) number := by
  have ending : (Stage.calling caller op (.leave result)).Ending →
      (Stage.asking caller op (.openGate h) (.opening result)).Ending := by
    cases result with
    | truth b => cases b <;> exact id
    | _ => exact id
  obtain ⟨gate, le, rfl, gates, closed, past⟩ := owes.opening
  refine Or.inl ⟨⟨gated.gate, ?unborn, ?shut⟩, ⟨gates, ?past, ?closed⟩, ending⟩
  case unborn =>
    intro later greater
    rw [World.finished_finish]
    rintro (same | finished)
    · exact Nat.not_le_of_gt greater (Handle.gate.inj same ▸ le)
    · exact gated.unborn later greater finished
  case shut =>
    intro opened
    rw [World.finished_finish]
    rintro (same | finished)
    · exact Bool.eq_false_iff.mp opened (closed.mpr (Handle.gate.inj same).symm)
    · exact gated.shut opened finished
  case past =>
    intro earlier less
    exact (World.finished_finish ..).mpr ((past earlier less).imp_left (congrArg Handle.gate))
  case closed =>
    intro isSealed
    exact (World.finished_finish ..).mpr (Or.inl (congrArg Handle.gate (closed.mp isSealed).symm))

theorem Stage.Acts.advances (acts : stage.Acts me thread w e) (formed : stage.Formed)
    (known : stage.Known w) (inside : stage.inside = true) (gated : w.Gated number)
    (owes : stage.Owes w number) : e.Advances stage number := by
  cases acts with
  | goto moves => cases moves with
    | enter free => cases inside
    | doneByFailure failed =>
      obtain ⟨rfl, -⟩ := formed.2
      exact Effect.advances_of_tidy gated owes (.of_eq rfl rfl rfl rfl) rfl nofun
    | @answer o isFinished other =>
      obtain ⟨rfl, rfl | rfl⟩ := formed.2
      · cases isFinished <;>
          exact Effect.advances_of_tidy gated owes (.of_eq rfl rfl rfl rfl) rfl nofun
      · exact (other rfl).elim
    | _ => exact Effect.advances_of_tidy gated owes (.of_eq rfl rfl rfl rfl) rfl False.elim
  | ask moves => cases moves with
    | «seal» =>
      refine Or.inl ⟨⟨gated.gate, gated.unborn, nofun⟩, ?_, False.elim⟩
      exact ⟨gated.gate, owes.gates, rfl, owes.past⟩
    | install =>
      obtain ⟨rfl, gates, opened, past⟩ := owes
      refine Or.inr ⟨⟨rfl, ?_, ?_⟩, ?_⟩
      · intro later greater
        exact gated.unborn later (Nat.lt_of_succ_lt greater)
      · intro _
        exact gated.unborn (number + 1) (Nat.lt_succ_self number)
      · exact ⟨number, rfl, gated.gate, gates, opened, past⟩
    | _ => exact Effect.advances_of_tidy gated owes (.of_eq rfl rfl rfl rfl) rfl False.elim
  | @leave caller op result =>
    have outside := Caller.inside_give caller result
    refine Effect.advances_of_tidy gated owes (.of_eq rfl rfl rfl rfl) ?_ ?_
    · exact Stage.owes_of_outside outside (Caller.formed_give formed.1 formed.2)
    · intro ending
      rw [ending.inside] at outside
      cases outside
  | @answer caller op question point =>
    obtain ⟨-, belongs, asks⟩ := formed
    cases question with
    | isFailed h => cases point with
      | judging o => exact Effect.advances_of_tidy gated owes (.of_eq rfl rfl rfl rfl) rfl False.elim
      | _ => cases asks
    | isFinished h => cases point with
      | looking o => exact Effect.advances_of_tidy gated owes (.of_eq rfl rfl rfl rfl) rfl False.elim
      | _ => cases asks
    | newGate => cases point with
      | awaitGate =>
        obtain ⟨unit, rfl⟩ := belongs
        have opened := known.1 unit rfl
        refine Or.inl ⟨⟨gated.gate, gated.unborn, gated.shut⟩, ⟨?_, ?_, opened, owes.past⟩, False.elim⟩
        · exact congrArg Handle.gate owes.gates
        · exact congrArg Nat.succ owes.gates
      | _ => cases asks
    | openGate h => cases point with
      | opening result => exact Effect.advances_of_opening gated owes
      | _ => cases asks
  | _ => cases inside

theorem Stage.Acts.enters (acts : stage.Acts me thread w e) (formed : stage.Formed)
    (outside : stage.inside = false) (entered : e.stage.inside = true) :
    w.monitor.holder = none ∧ (∀ number, e.stage.Owes e.world number = e.world.Tidy number) ∧
      ¬ e.stage.Ending := by
  cases acts with
  | goto moves => cases moves with
    | enter free => exact ⟨free, fun _ => rfl, id⟩
    | _ => cases outside
  | ask moves => cases moves <;> cases outside
  | answer =>
    rw [Stage.inside, formed.inside_of_asking] at outside
    cases outside
  | leave => cases outside
  | _ => cases entered

def Stage.Sealing : Stage → Prop
  | .calling _ op point | .asking _ op _ point => op = .seal ∧ Monitoring.inside point = true
  | _ => False

/-- Only the seal itself leaves a gate of a sealed monitor shut. -/
theorem Stage.Owes.tidy (owes : stage.Owes w number) (formed : stage.Formed)
    (closed : w.monitor.isSealed = true) (settled : ¬ stage.Sealing) : w.Tidy number := by
  unfold Stage.Owes at owes
  split at owes
  · rw [owes.2.2.1] at closed
    cases closed
  · obtain ⟨last, -, -, -, opened, -⟩ := owes
    rw [opened] at closed
    cases closed
  · rename_i caller op h result other
    obtain ⟨-, ⟨gives, -, notHandle⟩, -⟩ := formed
    refine absurd ⟨?_, rfl⟩ settled
    cases op <;> cases result <;> simp_all [Gives]
  · exact owes

namespace System

structure Gated (s : System) (number : Nat) : Prop where
  world : s.world.Gated number
  tidy : s.world.monitor.holder = none → s.world.Tidy number
  owes : ∀ strand ∈ s.strands, strand.stage.inside = true → strand.stage.Owes s.world number

variable {s t : System}

theorem Gated.change {world : World} (gated : s.Gated number) (keeps : s.world.Keeps world)
    (same : world.monitor = s.world.monitor) : (s.change world).Gated number where
  world := gated.world.keep keeps
  tidy free := (gated.tidy (same ▸ free)).keep keeps
  owes strand member inside := (gated.owes strand member inside).keep keeps

theorem Gated.begin {strand : Strand} (gated : s.Gated number) (fresh : Fresh strand) :
    (s.begin strand).Gated number where
  world := gated.world
  tidy := gated.tidy
  owes other member inside := by
    obtain old | same := List.mem_append.mp member
    · exact gated.owes other old inside
    · rw [List.mem_singleton.mp same, fresh.outside] at inside
      cases inside

theorem Reachable.alone (reach : s.Reachable) {one other : Nat} {first second : Strand}
    (here : s.strands[one]? = some first) (inside : first.stage.inside = true)
    (there : s.strands[other]? = some second) (also_inside : second.stage.inside = true) :
    one = other := by
  have held := (reach.exclusive one).mpr ⟨first, here, inside⟩
  have also_held := (reach.exclusive other).mpr ⟨second, there, also_inside⟩
  exact Option.some.inj (held.symm.trans also_held)

theorem Reachable.held (reach : s.Reachable) {place : Nat} {strand : Strand}
    (found : s.strands[place]? = some strand) :
    s.world.monitor.holder = some place ↔ strand.stage.inside = true := by
  rw [reach.exclusive place]
  simp [found]

/-- While an operation is under way, nobody else owes anything. -/
theorem Reachable.gated_of_inside (reach : s.Reachable) {place : Nat} {strand : Strand}
    (found : s.strands[place]? = some strand)
    (acts : strand.stage.Acts place strand.thread s.world e) (inside : strand.stage.inside = true)
    (world : e.world.Gated number) (owes : e.stage.Owes e.world number) :
    (s.effect place strand.thread e).Gated number := by
  refine ⟨world, ?tidy, ?owes⟩
  case tidy =>
    intro free
    have left : e.stage.inside = false := by
      refine Bool.eq_false_iff.mpr fun still => ?_
      have kept := (acts.holder (reach.held found)).1.mpr still
      rw [effect] at free
      rw [free] at kept
      cases kept
    rwa [Stage.owes_of_outside left (acts.formed (reach.formed (List.mem_of_getElem? found)))] at owes
  case owes =>
    intro other there now
    obtain ⟨at_, here⟩ := List.mem_iff_getElem?.mp there
    obtain ⟨-, rfl⟩ | ⟨elsewhere, old⟩ := found_effect found here
    · exact owes
    · exact absurd (reach.alone found inside old now) elsewhere

private theorem Reachable.gated_of_outside (reach : s.Reachable) (gated : s.Gated number) {place : Nat}
    {strand : Strand} (found : s.strands[place]? = some strand)
    (acts : strand.stage.Acts place strand.thread s.world e) (outside : strand.stage.inside = false) :
    (s.effect place strand.thread e).Gated number := by
  have formed := reach.formed (List.mem_of_getElem? found)
  have held := reach.held found
  have keeps := acts.keeps formed outside
  refine ⟨gated.world.keep keeps, ?tidy, ?owes⟩
  case tidy =>
    intro free
    have before : s.world.monitor.holder = none := by
      cases holder : s.world.monitor.holder with
      | none => rfl
      | some other =>
        have elsewhere : place ≠ other := by
          rintro rfl
          rw [held.mp holder] at outside
          cases outside
        have still := ((acts.holder held).2 other elsewhere).mpr holder
        rw [effect] at free
        rw [free] at still
        cases still
    exact (gated.tidy before).keep keeps
  case owes =>
    intro other there now
    obtain ⟨at_, here⟩ := List.mem_iff_getElem?.mp there
    obtain ⟨-, rfl⟩ | ⟨elsewhere, old⟩ := found_effect found here
    · obtain ⟨free, owes, -⟩ := acts.enters formed outside now
      change e.stage.Owes e.world number
      rw [owes]
      exact (gated.tidy free).keep keeps
    · exact (gated.owes other (List.mem_of_getElem? old) now).keep keeps

private theorem Reachable.gated_effect (reach : s.Reachable) (gated : s.Gated number) {place : Nat}
    {strand : Strand} (found : s.strands[place]? = some strand)
    (acts : strand.stage.Acts place strand.thread s.world e) :
    (s.effect place strand.thread e).Gated number ∧ (e.stage.Ending → strand.stage.Ending) ∨
      (s.effect place strand.thread e).Gated (number + 1) := by
  have member := List.mem_of_getElem? found
  have formed := reach.formed member
  cases inside : strand.stage.inside with
  | true =>
    obtain ⟨world, owes, ending⟩ | ⟨world, owes⟩ :=
      acts.advances formed (reach.known member) inside gated.world (gated.owes strand member inside)
    · exact Or.inl ⟨reach.gated_of_inside found acts inside world owes, ending⟩
    · exact Or.inr (reach.gated_of_inside found acts inside world owes)
  | false =>
    refine Or.inl ⟨reach.gated_of_outside gated found acts inside, fun ending => ?_⟩
    obtain ⟨-, -, free⟩ := acts.enters formed inside ending.inside
    exact absurd ending free

/-- The gate had been put in place before the advance that is under way, if any. -/
structure Behind (s : System) (gate number : Nat) : Prop where
  le : gate ≤ number
  lt : ∀ strand ∈ s.strands, strand.stage.Ending → gate < number

/-- The gates are made one at a time, and one that is in place stays behind the next. -/
theorem Reachable.gated_next (reach : s.Reachable) (gated : s.Gated number) {action : Action}
    (performed : s.perform? action = some t) :
    ∃ next, number ≤ next ∧ t.Gated next ∧ ∀ gate, s.Behind gate number → t.Behind gate next := by
  have begun : ∀ strand, Fresh strand → (s.begin strand).Gated number ∧
      ∀ gate, s.Behind gate number → (s.begin strand).Behind gate number := by
    intro strand fresh
    refine ⟨gated.begin fresh, fun gate behind => ⟨behind.le, ?_⟩⟩
    intro other member ending
    obtain old | same := List.mem_append.mp member
    · exact behind.lt other old ending
    · rw [List.mem_singleton.mp same] at ending
      have inside := ending.inside
      rw [fresh.outside] at inside
      cases inside
  cases action with
  | call thread op =>
    cases Option.some.inj performed
    exact ⟨number, Nat.le_refl _, begun _ (Or.inr ⟨op, rfl⟩)⟩
  | wait thread =>
    cases Option.some.inj performed
    exact ⟨number, Nat.le_refl _, begun _ (Or.inl rfl)⟩
  | step place =>
    obtain ⟨strand, e, found, acts, rfl⟩ := acts_of_perform performed
    obtain ⟨same, ending⟩ | next := reach.gated_effect gated found acts
    · refine ⟨number, Nat.le_refl _, same, fun gate behind => ⟨behind.le, ?_⟩⟩
      intro other member now
      obtain old | rfl := List.mem_or_eq_of_mem_set member
      · exact behind.lt other old now
      · exact behind.lt strand (List.mem_of_getElem? found) (ending now)
    · refine ⟨number + 1, Nat.le_succ _, next, fun gate behind => ⟨Nat.le_succ_of_le behind.le, ?_⟩⟩
      intro _ _ _
      exact Nat.lt_succ_of_le behind.le
  | finish id outcome =>
    cases Option.some.inj performed
    exact ⟨number, Nat.le_refl _, gated.change (World.keeps_finish s.world id outcome) rfl,
      fun _ behind => ⟨behind.le, behind.lt⟩⟩
  | interrupt thread =>
    cases Option.some.inj performed
    exact ⟨number, Nat.le_refl _, gated.change (.of_eq rfl rfl rfl rfl) rfl,
      fun _ behind => ⟨behind.le, behind.lt⟩⟩

theorem Reachable.gated (reach : s.Reachable) : ∃ number, s.Gated number := by
  induction reach with
  | start units first =>
    have shut : ∀ gate, ¬ (new units first).world.Finished (.gate gate) := by
      intro gate finished
      cases finished
    refine ⟨0, ⟨rfl, fun gate _ => shut gate, fun _ => shut 0⟩, fun _ => ⟨rfl, ?_, ?_⟩, ?_⟩
    · intro earlier less
      exact absurd less (Nat.not_lt_zero earlier)
    · intro closed
      cases closed
    · intro strand member
      cases member
  | next action before performed ih =>
    obtain ⟨number, gated⟩ := ih
    obtain ⟨next, -, gated, -⟩ := before.gated_next gated performed
    exact ⟨next, gated⟩

theorem Reachable.shut (reach : s.Reachable) (opened : s.world.monitor.isSealed = false) :
    ¬ s.world.Finished s.world.monitor.gate := by
  obtain ⟨number, gated⟩ := reach.gated
  rw [gated.world.gate]
  exact gated.world.shut opened

theorem Reachable.all_open (reach : s.Reachable) (closed : s.world.monitor.isSealed = true)
    (settled : ∀ strand ∈ s.strands, ¬ strand.stage.Sealing) {gate : Nat} (made : gate < s.world.gates) :
    s.world.Finished (.gate gate) := by
  obtain ⟨number, gated⟩ := reach.gated
  have tidy : s.world.Tidy number := by
    cases holder : s.world.monitor.holder with
    | none => exact gated.tidy holder
    | some place =>
      obtain ⟨strand, found, inside⟩ := (reach.exclusive place).mp holder
      have member := List.mem_of_getElem? found
      exact (gated.owes strand member inside).tidy (reach.formed member) closed (settled strand member)
  rw [tidy.gates] at made
  obtain less | rfl := Nat.lt_succ_iff_lt_or_eq.mp made
  · exact tidy.past gate less
  · exact tidy.closed closed

end System

end TransferLifecycle.Monitoring
