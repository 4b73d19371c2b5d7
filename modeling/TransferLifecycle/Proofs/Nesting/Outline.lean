import TransferLifecycle.Proofs.Nesting.Stack

/-! What a run is apart from the answers of the executor. An emptying that runs inside the offer and one
that its producer makes in its stead do the same between the same two points; what surrounds them is
left out of the outline. A step of a machine either leaves the outline as it is, and there are few of
these in a row, or makes the step that the outline determines. -/
namespace TransferLifecycle.Nesting

open Dispatch

variable {α : Type}

def veiled (d : Dispatcher α) : Dispatcher α := { d with rejected := 0 }

def veil (e : Effect α) : Effect α := { e with core := veiled e.core }

/-- The strand as it stands once the executor has answered and has come back. -/
def plain : Strand α → Strand α
  | .offering | .queued | .standing .overflow | .standing .announceInline => .standing (.take .deliver)
  | .accepted | .standing .finished => .ended
  | strand => strand

/-- How many steps a strand can make at most, itself included, before its outline changes. -/
def weight : Strand α → Nat
  | .offering => 6
  | .accepted | .standing .overflow => 3
  | .queued | .standing .announceInline | .standing .finished => 2
  | _ => 1

def rank : List (Nat × Strand α) → Nat
  | [] => 0
  | (_, strand) :: below => weight strand + rank below

/-- The frames below the top, without the firings that wait for the executor. -/
def bare (below : List (Nat × Strand α)) : List (Nat × Strand α) :=
  below.filter fun frame => !waits frame.2

def bared : List (Nat × Strand α) → List (Nat × Strand α)
  | [] => []
  | (d, strand) :: below => (d, plain strand) :: bare below

structure Outline (α : Type) where
  cores : Nat → Dispatcher α
  stack : List (Nat × Strand α)
  history : List (Observation α)
  halted : Bool

namespace Outline

def see (o : Outline α) (sight : Sight α) : Outline α :=
  { o with history := o.history ++ [⟨sight, fun d => figuresOf (o.cores d)⟩] }

def notice (o : Outline α) (dispatcher : Nat) : Strand α → Outline α
  | .calling listener event _ => o.see (.called dispatcher listener event)
  | _ => o

def put (o : Outline α) (dispatcher : Nat) (d : Dispatcher α) : Outline α :=
  { o with cores := fun other => if other = dispatcher then veiled d else o.cores other }

def change (o : Outline α) (dispatcher : Nat) (list : ListenerList α) (sight : Sight α) : Outline α :=
  (o.put dispatcher { o.cores dispatcher with chain := list }).see sight

def after (o : Outline α) (dispatcher : Nat) (below : List (Nat × Strand α)) (e : Effect α) :
    Outline α :=
  ({ o with stack := (dispatcher, plain e.strand) :: below }.put dispatcher e.core).notice dispatcher
    e.strand

def obey [BEq α] (o : Outline α) : Command α → Option (Outline α)
  | .fire dispatcher event =>
    some { o with stack := (dispatcher, .standing (.arrive event)) :: o.stack }
  | .add dispatcher listener =>
    some (o.change dispatcher ((o.cores dispatcher).chain.add listener) .added)
  | .remove dispatcher listener =>
    let (found, list) := (o.cores dispatcher).chain.remove listener
    some (o.change dispatcher list (.removed found))
  | .leave panicked =>
    match o.stack with
    | [] => some { o with halted := true }
    | (dispatcher, strand) :: below =>
      (strand.act? (o.cores dispatcher) (.finishCall panicked)).map (o.after dispatcher below)

def step [BEq α] (program : Program α) (o : Outline α) : Option (Outline α) :=
  if o.halted then none
  else match o.stack with
    | [] => o.obey (program o.history)
    | (dispatcher, strand) :: below =>
      if calls strand then o.obey (program o.history)
      else if ends strand then some ({ o with stack := below }.see .returned)
      else (strand.act? (o.cores dispatcher) .move).map (o.after dispatcher below)

end Outline

def Machine.frame (m : Machine α) (frame : Nat × Nat) : Nat × Strand α := (frame.1, m.strand frame)

def Machine.outline (m : Machine α) : Outline α where
  cores d := veiled (m.systems d).core
  stack := bared (m.stack.map m.frame)
  history := m.history
  halted := m.halted

/-! The refusals counted so far make no difference to a strand. -/

private theorem act_veiled (d : Dispatcher α) (strand : Strand α) (act : Act) :
    (strand.act? (veiled d) act).map veil = (strand.act? d act).map veil := by
  cases strand with
  | standing point => cases act with
    | move =>
      cases point with
      | arrive event =>
        cases empty : d.chain.isEmpty <;>
          simp [Strand.act?, step, Strand.follow, veiled, veil, Point.deeds, empty]
      | check event =>
        cases closed : d.closed <;>
          simp [Strand.act?, step, Strand.follow, veiled, veil, Point.deeds, closed]
      | claim | reclaim =>
        cases scheduled : d.scheduled <;>
          simp [Strand.act?, step, Strand.follow, veiled, veil, Point.deeds, scheduled]
      | take fate | recheck fate =>
        cases queue : d.queue <;>
          simp [Strand.act?, step, Strand.follow, veiled, veil, Point.deeds, queue]
      | inHand fate event => cases fate <;> rfl
      | count fate => cases fate <;> rfl
      | _ => rfl
    | _ => rfl
  | passing event pass => cases act with
    | move =>
      simp only [Strand.act?, veiled]
      split <;> rfl
    | _ => rfl
  | _ => cases act <;> rfl

private theorem act_veiled_of_act {d : Dispatcher α} {strand : Strand α} {act : Act} {e : Effect α}
    (acted : strand.act? d act = some e) :
    ∃ same, strand.act? (veiled d) act = some same ∧ veil same = veil e := by
  have both := act_veiled d strand act
  rw [acted] at both
  obtain ⟨same, acted, equal⟩ := Option.map_eq_some_iff.mp both
  exact ⟨same, acted, equal⟩

private theorem calls_plain (strand : Strand α) : calls (plain strand) = calls strand := by
  cases strand with
  | standing point => cases point <;> rfl
  | _ => rfl

inductive Silent (d : Dispatcher α) (strand : Strand α) (e : Effect α) : Prop where
  | quiet (core : veiled e.core = veiled d) (begun : e.begun = []) (same : plain e.strand = plain strand)
    (less : weight e.strand < weight strand)
  | handOver (core : e.core = d) (offering : strand = .offering) (begun : e.begun = [.queued])
    (accepted : e.strand = .accepted)

theorem silent_or_plain {d : Dispatcher α} {strand : Strand α} {accepts : Bool} {e : Effect α}
    (acts : strand.Acts d (due accepts strand) e) :
    Silent d strand e ∨ plain strand = strand ∧ due accepts strand = .move ∧ e.begun = [] := by
  generalize same : due accepts strand = act at acts
  cases acts with
  | accept => exact Or.inl (.handOver rfl rfl rfl rfl)
  | refuseFull | comeBack | finish | start | overflow | announceInline =>
    exact Or.inl (.quiet rfl rfl rfl (by simp [weight]))
  | refuseStopped => cases accepts <;> cases same
  | finishCall => cases same
  | _ => exact Or.inr ⟨rfl, rfl, rfl⟩

private theorem Outline.notice_of_not_calls {strand : Strand α} (silent : calls strand = false) (o : Outline α)
    (d : Nat) : o.notice d strand = o := by
  cases strand with
  | calling => cases silent
  | _ => rfl

namespace Machine

variable {m n : Machine α} {frame : Nat × Nat} {rest : List (Nat × Nat)} {act : Act} {e : Effect α}

private theorem outline_notice (d : Nat) (strand : Strand α) :
    (m.notice d strand).outline = m.outline.notice d strand := by
  cases strand <;> rfl

private theorem frames_after : (m.after frame e).stack.map (m.after frame e).frame =
    (m.moved frame e).stack.map (m.moved frame e).frame := by
  rw [Machine.after, stack_notice]
  apply List.map_congr_left
  intro other _
  rw [Machine.frame, strand_notice]
  rfl

private theorem cores_moved (d : Nat) : veiled ((m.moved frame e).systems d).core =
    if d = frame.1 then veiled e.core else veiled (m.systems d).core := by
  unfold moved push
  rw [systems_put]
  split <;> rfl

private theorem frames_moved [BEq α] (sound : m.Sound) (top : m.stack = frame :: rest)
    (acted : (m.strand frame).act? (m.systems frame.1).core act = some e) :
    (m.moved frame e).stack.map (m.moved frame e).frame =
      (m.fresh frame e).map (fun new => (new.1, .queued)) ++ (frame.1, e.strand) :: rest.map m.frame := by
  have acts := Strand.acts acted
  have moved (other : Nat × Nat) : (m.moved frame e).strand other = (m.after frame e).strand other :=
    (strand_notice _ _ other).symm
  rw [show (m.moved frame e).stack = m.fresh frame e ++ m.stack from rfl, top, List.map_append,
    List.map_cons]
  congr 1
  · apply List.map_congr_left
    intro new began
    rw [Machine.frame, moved, strand_after_fresh acts began]
  · congr 1
    · rw [Machine.frame, moved, strand_after_self (found_of_act acted)]
    · apply List.map_congr_left
      intro lower below
      rw [Machine.frame, moved, sound.strand_below top acts below]
      rfl

theorem outline_moved [BEq α] (sound : m.Sound) (top : m.stack = frame :: rest)
    (acted : (m.strand frame).act? (m.systems frame.1).core act = some e) (begun : e.begun = []) :
    (m.after frame e).outline = m.outline.after frame.1 (bare (rest.map m.frame)) e := by
  have frames := frames_moved sound top acted
  rw [fresh, begun, List.map_nil, List.map_nil, List.nil_append] at frames
  rw [Machine.after, outline_notice, Outline.after]
  congr 1
  unfold outline Outline.put
  simp only [cores_moved, frames]
  rfl

theorem outline_silent [BEq α] (sound : m.Sound) (top : m.stack = frame :: rest)
    (calling : calls (m.strand frame) = false)
    (acted : (m.strand frame).act? (m.systems frame.1).core act = some e)
    (silent : Silent (m.systems frame.1).core (m.strand frame) e) :
    (m.after frame e).outline = m.outline ∧
      rank ((m.after frame e).stack.map (m.after frame e).frame) < rank (m.stack.map m.frame) := by
  have frames := frames_moved sound top acted
  have before : m.stack.map m.frame = (frame.1, m.strand frame) :: rest.map m.frame := by
    rw [top, List.map_cons]
    rfl
  have cores (same : veiled e.core = veiled (m.systems frame.1).core) :
      (fun d => veiled ((m.moved frame e).systems d).core) = fun d => veiled (m.systems d).core := by
    funext d
    rw [cores_moved]
    split
    · next here => rw [here, same]
    · rfl
  rw [frames_after, frames, before]
  cases silent with
  | quiet core begun same less =>
    have uncalled : calls e.strand = false := by rw [← calls_plain, same, calls_plain, calling]
    rw [fresh, begun, List.map_nil, List.map_nil, List.nil_append] at frames ⊢
    constructor
    · rw [Machine.after, outline_notice, Outline.notice_of_not_calls uncalled]
      unfold outline
      rw [cores core, frames, before, bared, bared, same]
      rfl
    · exact Nat.add_lt_add_right less _
  | handOver core offering begun accepted =>
    rw [fresh, begun, List.map_singleton, List.map_singleton, List.singleton_append, accepted] at frames ⊢
    constructor
    · rw [Machine.after, accepted, outline_notice, Outline.notice_of_not_calls rfl]
      unfold outline
      rw [cores (congrArg veiled core), frames, before, offering]
      rfl
    · rw [offering]
      simp only [rank, weight]
      omega

private theorem Outline.after_congr {same : Effect α} (equal : veil same = veil e) (o : Outline α) (d : Nat)
    (below : List (Nat × Strand α)) : o.after d below same = o.after d below e := by
  have strand : (veil same).strand = (veil e).strand := congrArg Effect.strand equal
  have core : (veil same).core = (veil e).core := congrArg Effect.core equal
  simp only [veil] at strand core
  simp only [Outline.after, Outline.put, strand, core]

private theorem outline_put (d : Nat) {s : System α} (strands : s.strands = (m.systems d).strands) :
    (m.put d s).outline = m.outline.put d s.core := by
  have cores : (fun other => veiled ((m.put d s).systems other).core) =
      fun other => if other = d then veiled s.core else veiled (m.systems other).core := by
    funext other
    rw [systems_put]
    split <;> rfl
  have frames : (m.put d s).stack.map (m.put d s).frame = m.stack.map m.frame := by
    apply List.map_congr_left
    intro frame _
    rw [Machine.frame, Machine.frame, strand, strand, systems_put]
    split
    · next here => rw [strands, here]
    · rfl
  unfold outline
  rw [cores, frames]
  rfl

private theorem outline_change (d : Nat) (list : ListenerList α) (sight : Sight α) :
    (m.change d list sight).outline = m.outline.change d list sight := by
  have put := outline_put (m := m) d (s := (m.systems d).change list) rfl
  exact congrArg (Outline.see · sight) put

private theorem bare_of_calls (frame : Nat × Strand α) (calling : calls frame.2 = true)
    (below : List (Nat × Strand α)) : bare (frame :: below) = bared (frame :: below) := by
  obtain ⟨d, strand⟩ := frame
  cases strand with
  | calling => rfl
  | _ => cases calling

private theorem bare_of_turn (turn : m.Turn) : bare (m.stack.map m.frame) = bared (m.stack.map m.frame) := by
  cases top : m.stack with
  | nil => rfl
  | cons frame rest => exact bare_of_calls (m.frame frame) (turn frame (by rw [top]; rfl)) _

private theorem outline_launch [BEq α] (sound : m.Sound) (turn : m.Turn) (d : Nat) (event : Event) :
    (m.launch d event).outline =
      { m.outline with stack := (d, .standing (.arrive event)) :: m.outline.stack } := by
  have cores : (fun other => veiled ((m.launch d event).systems other).core) =
      fun other => veiled (m.systems other).core := by
    funext other
    rw [launch, push, systems_put]
    split
    · next here =>
      rw [here]
      rfl
    · rfl
  have frames : (m.launch d event).stack.map (m.launch d event).frame =
      (d, .standing (.arrive event)) :: m.stack.map m.frame := by
    rw [show (m.launch d event).stack = (d, (m.systems d).strands.length) :: m.stack from rfl,
      List.map_cons, Machine.frame, strand_launch, if_pos rfl]
    congr 1
    apply List.map_congr_left
    intro frame old
    have other : frame ≠ (d, (m.systems d).strands.length) := by
      rintro rfl
      exact Nat.lt_irrefl _ (sound.inside _ old)
    rw [Machine.frame, strand_launch, if_neg other]
    rfl
  unfold outline
  rw [cores, frames, bared, bare_of_turn turn]
  rfl

variable [BEq α] {program : Program α}

private theorem step_of_turn (turn : m.Turn) (opened : m.halted = false) :
    m.outline.step program = m.outline.obey (program m.history) := by
  cases top : m.stack with
  | nil => simp [Outline.step, outline, opened, top, bared]
  | cons frame rest =>
    have calling := turn frame (by rw [top]; rfl)
    simp [Outline.step, outline, opened, top, bared, Machine.frame, calls_plain, calling]

omit [BEq α] in
private theorem stack_of_ended (top : m.stack = frame :: rest) (ended : m.strand frame = .ended) :
    m.outline.stack = (frame.1, .ended) :: bare (rest.map m.frame) := by
  rw [outline, top, List.map_cons, bared, Machine.frame, ended]
  rfl

omit [BEq α] in
theorem outline_waiting {next : Nat × Nat} (top : m.stack = frame :: next :: rest)
    (ended : m.strand frame = .ended) (waiting : waits (m.strand next) = true)
    (same : frame.1 = next.1) :
    (m.back (next :: rest)).outline = m.outline ∧
      rank ((m.back (next :: rest)).stack.map (m.back (next :: rest)).frame) <
        rank (m.stack.map m.frame) := by
  have accepted : m.strand next = .accepted := by
    cases stands : m.strand next with
    | accepted => rfl
    | _ =>
      rw [stands] at waiting
      cases waiting
  have now : bared ((next :: rest).map m.frame) = m.outline.stack := by
    rw [stack_of_ended top ended, List.map_cons, bared, Machine.frame, accepted, same]
    rfl
  rw [back, if_pos waiting]
  constructor
  · exact congrArg (fun frames => { m.outline with stack := frames }) now
  · rw [top]
    change rank _ < weight (m.strand frame) + rank _
    rw [ended]
    exact Nat.lt_add_of_pos_left Nat.one_pos

private theorem outline_back (sound : m.Sound) (opened : m.halted = false) (top : m.stack = frame :: rest)
    (ended : m.strand frame = .ended) :
    (m.back rest).outline = m.outline ∧
        rank ((m.back rest).stack.map (m.back rest).frame) < rank (m.stack.map m.frame) ∨
      m.outline.step program = some (m.back rest).outline := by
  have stepped : m.outline.step program =
      some ({ m.outline with stack := bare (rest.map m.frame) }.see .returned) := by
    simp [Outline.step, stack_of_ended top ended, show m.outline.halted = false from opened, calls, ends]
  cases rest with
  | nil => exact Or.inr stepped
  | cons next below =>
    have borne := sound.borne
    rw [top] at borne
    obtain calling | ⟨waiting, same⟩ := (List.isChain_cons.mp borne).1 next rfl
    · refine Or.inr ?_
      have unwaiting : waits (m.strand next) = false := by
        cases stands : m.strand next with
        | calling => rfl
        | _ =>
          rw [stands] at calling
          cases calling
      rw [stepped, back, unwaiting, List.map_cons, bare_of_calls (m.frame next) calling]
      rfl
    · exact Or.inl (outline_waiting top ended waiting same)

/-- A step leaves the outline as it is or makes the step that the outline determines. -/
theorem outline_steps (sound : m.Sound) (opened : m.halted = false) (steps : Steps program m n) :
    n.outline = m.outline ∧ rank (n.stack.map n.frame) < rank (m.stack.map m.frame) ∨
      m.outline.step program = some n.outline := by
  cases steps with
  | fire turn told =>
    refine Or.inr ?_
    rw [step_of_turn turn opened, told, outline_launch sound turn]
    rfl
  | add turn told | remove turn told =>
    refine Or.inr ?_
    rw [step_of_turn turn opened, told, outline_change]
    rfl
  | finish told empty =>
    refine Or.inr ?_
    simp [Outline.step, outline, opened, empty, bared, Outline.obey, told]
  | @leave panicked frame rest e told top calling acted =>
    have turn : m.Turn := by simpa [Turn, top] using calling
    have begun : e.begun = [] := by
      generalize m.strand frame = strand at acted
      cases Strand.acts acted
      rfl
    obtain ⟨same, acted', equal⟩ := act_veiled_of_act acted
    have here : plain (m.strand frame) = m.strand frame := by
      cases stands : m.strand frame with
      | calling => rfl
      | _ =>
        rw [stands] at calling
        cases calling
    refine Or.inr ?_
    rw [step_of_turn turn opened, told, outline_moved sound top acted begun,
      ← Outline.after_congr equal]
    simp [Outline.obey, outline, top, bared, Machine.frame, here, acted']
  | @back frame rest top ended => exact outline_back sound opened top ended
  | @act frame rest e accepts top calling ended acted =>
    obtain silent | ⟨here, moves, begun⟩ := silent_or_plain (Strand.acts acted)
    · exact Or.inl (outline_silent sound top calling acted silent)
    · refine Or.inr ?_
      rw [moves] at acted
      obtain ⟨same, acted', equal⟩ := act_veiled_of_act acted
      rw [outline_moved sound top acted begun, ← Outline.after_congr equal]
      simp [Outline.step, outline, opened, top, bared, Machine.frame, here, calling, ended, acted']

end Machine

end TransferLifecycle.Nesting
