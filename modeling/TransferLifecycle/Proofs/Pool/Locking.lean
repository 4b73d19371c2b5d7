import TransferLifecycle.Proofs.Pool.Interleaving

/-! Who has the lock, and what is told of a submission. Submissions share the lock and a shutdown that
starts has it alone, so the flag stands still while a submission is under way: what the submission
found when it took the lock is what it acts upon. -/
namespace TransferLifecycle.Pool

def tally {β : Type} (f : β → Nat) (list : List β) : Nat := list.foldr (fun x n => f x + n) 0

section Tally

variable {β : Type} {f : β → Nat} {list : List β}

@[simp] theorem tally_nil : tally f [] = 0 := rfl

@[simp] theorem tally_cons (x : β) : tally f (x :: list) = f x + tally f list := rfl

theorem tally_append (more : List β) : tally f (list ++ more) = tally f list + tally f more := by
  induction list with
  | nil => simp
  | cons head rest ih =>
    rw [List.cons_append, tally_cons, tally_cons, ih, Nat.add_assoc]

theorem tally_set {place : Nat} {old : β} (found : list[place]? = some old) (new : β) :
    tally f (list.set place new) + f old = tally f list + f new := by
  induction list generalizing place with
  | nil => simp at found
  | cons head rest ih => cases place with
    | zero =>
      obtain rfl := Option.some.inj found
      rw [List.set_cons_zero, tally_cons, tally_cons]
      omega
    | succ place =>
      have later := ih found
      rw [List.set_cons_succ, tally_cons, tally_cons]
      omega

theorem tally_add (f g : β → Nat) :
    (tally (fun x => f x + g x) list) = tally f list + tally g list := by
  induction list with
  | nil => rfl
  | cons head rest ih =>
    rw [tally_cons, tally_cons, tally_cons, ih]
    omega

theorem le_tally {x : β} (member : x ∈ list) : f x ≤ tally f list := by
  induction member with
  | head rest => exact Nat.le_add_right _ _
  | tail head _ ih => exact Nat.le_trans ih (Nat.le_add_left _ _)

private theorem exists_of_tally_pos (pos : 0 < tally f list) : ∃ x ∈ list, 0 < f x := by
  induction list with
  | nil => cases pos
  | cons head rest ih =>
    by_cases here : 0 < f head
    · exact ⟨head, List.mem_cons_self, here⟩
    · rw [tally_cons] at pos
      obtain ⟨x, member, some⟩ := ih (by omega)
      exact ⟨x, List.mem_cons_of_mem _ member, some⟩

theorem tally_eq_zero (none : ∀ x ∈ list, f x = 0) : tally f list = 0 := by
  refine Nat.eq_zero_of_not_pos fun pos => ?_
  obtain ⟨x, member, some⟩ := exists_of_tally_pos pos
  rw [none x member] at some
  cases some

theorem tally_replicate (n : Nat) (x : β) : tally f (List.replicate n x) = n * f x := by
  induction n with
  | zero => exact (Nat.zero_mul _).symm
  | succ n ih =>
    rw [List.replicate_succ, tally_cons, ih, Nat.succ_mul]
    omega

end Tally

namespace System

def weigh (s : System) (f : Strand → Nat) : Nat := tally f s.strands

variable {s : System} {f : Strand → Nat} {place : Nat} {strand : Strand}

theorem weigh_effect (found : s.strands[place]? = some strand) (e : Effect) :
    (s.effect place e).weigh f + f strand = s.weigh f + f e.strand :=
  tally_set found e.strand

theorem weigh_begin (strand : Strand) : (s.begin strand).weigh f = s.weigh f + f strand :=
  tally_append [strand]

theorem le_weigh (f : Strand → Nat) (found : s.strands[place]? = some strand) :
    f strand ≤ s.weigh f :=
  le_tally (List.mem_of_getElem? found)

private theorem true_of_weigh {flag : Bool} {view : Strand → Bool}
    (counted : flag.toNat = s.weigh fun strand => (view strand).toNat)
    (found : s.strands[place]? = some strand) (seen : view strand = true) : flag = true := by
  have some := le_weigh (fun strand => (view strand).toNat) found
  rw [← counted, seen] at some
  cases flag with
  | true => rfl
  | false => cases some

theorem exists_of_weigh_pos {view : Strand → Bool}
    (pos : 0 < s.weigh fun strand => (view strand).toNat) :
    ∃ (place : Nat) (strand : Strand), s.strands[place]? = some strand ∧ view strand = true := by
  obtain ⟨strand, member, some⟩ := exists_of_tally_pos pos
  obtain ⟨place, found⟩ := List.mem_iff_getElem?.mp member
  refine ⟨place, strand, found, ?_⟩
  cases seen : view strand with
  | true => rfl
  | false =>
    rw [seen] at some
    cases some

end System

def Strand.shares : Strand → Bool
  | .submitting .check | .submitting .send | .submitting (.leave _) => true
  | _ => false

def Strand.excludes : Strand → Bool
  | .stopping .mark | .stopping (.leave _) => true
  | _ => false

def Strand.leads : Strand → Bool
  | .stopping (.leave true) | .stopping .begin | .stopping (.signal _) | .stopping (.join _)
  | .returned true => true
  | _ => false

variable {me : Nat} {p : Pool Nat} {strand : Strand} {act : Act} {e : Effect}

theorem Strand.Acts.shares (acts : strand.Acts me p act e)
    (held : strand.shares = true → 0 < p.submitting) :
    e.core.submitting + strand.shares.toNat = p.submitting + e.strand.shares.toNat := by
  cases acts with
  | answer =>
    have some := held rfl
    change p.submitting - 1 + 1 = p.submitting + 0
    omega
  | _ => rfl

theorem Strand.Acts.excludes (acts : strand.Acts me p act e)
    (held : strand.excludes = true → p.exclusive = true) :
    e.core.exclusive.toNat + strand.excludes.toNat = p.exclusive.toNat + e.strand.excludes.toNat := by
  cases acts with
  | exclude shared => simp [Strand.excludes, shared]
  | lead | turnBack => simp [Strand.excludes, held rfl]
  | _ => rfl

theorem Strand.Acts.leads (acts : strand.Acts me p act e) :
    e.core.shuttingDown.toNat + strand.leads.toNat =
      p.shuttingDown.toNat + e.strand.leads.toNat := by
  cases acts with
  | mark opened => simp [Strand.leads, opened]
  | markAgain closing => simp [Strand.leads, closing]
  | _ => rfl

theorem Strand.Acts.apart (acts : strand.Acts me p act e)
    (apart : p.exclusive = true → p.submitting = 0) (alone : e.core.exclusive = true) :
    e.core.submitting = 0 := by
  cases acts with
  | enter shared =>
    rw [shared] at alone
    cases alone
  | answer =>
    have none := apart alone
    change p.submitting - 1 = 0
    omega
  | exclude shared idle => exact idle
  | lead | turnBack => cases alone
  | _ => exact apart alone

theorem Strand.Acts.flag (acts : strand.Acts me p act e) :
    e.core.shuttingDown = p.shuttingDown ∨
      strand.excludes = true ∧ p.shuttingDown = false ∧ e.core.shuttingDown = true := by
  cases acts with
  | mark opened => exact Or.inr ⟨rfl, opened, rfl⟩
  | markAgain closing => exact Or.inl closing.symm
  | _ => exact Or.inl rfl

def verdict : Except Refusal Unit → List Deed
  | .ok () => [.entered false, .accepted]
  | .error .queueFull => [.entered false, .refused .queueFull]
  | .error .shuttingDown => [.entered true, .refused .shuttingDown]

/-- What has been told of a submission by the time it stands where it stands. -/
def Strand.story (closing : Bool) : Strand → Option (List Deed)
  | .submitting .enter => some []
  | .submitting .check => some [.entered closing]
  | .submitting .send => some [.entered false]
  | .submitting (.leave result) | .answered result => some (verdict result)
  | _ => none

private theorem Strand.story_of_silent {closing later : Bool} (silent : strand.shares = false) :
    strand.story later = strand.story closing := by
  cases strand with
  | submitting point => cases point <;> first | rfl | cases silent
  | _ => rfl

theorem Strand.Acts.story (acts : strand.Acts me p act e) {told after : List Deed}
    (before : ∀ deeds ∈ strand.story p.shuttingDown, told = deeds)
    (here : after ∈ e.strand.story e.core.shuttingDown) : told ++ e.deeds = after := by
  cases acts with
  | enter | send | overflow =>
    obtain rfl := Option.some.inj here
    rw [before _ rfl]
    rfl
  | findClosing flagged | findOpen flagged =>
    obtain rfl := Option.some.inj here
    rw [before _ rfl, flagged]
    rfl
  | answer =>
    obtain rfl := Option.some.inj here
    rw [before _ rfl]
    exact List.append_nil _
  | _ => cases here

namespace System

variable {s : System}

structure Locked (s : System) : Prop where
  shared : s.core.submitting = s.weigh fun strand => strand.shares.toNat
  alone : s.core.exclusive.toNat = s.weigh fun strand => strand.excludes.toNat
  apart : s.core.exclusive = true → s.core.submitting = 0
  led : s.core.shuttingDown.toNat = s.weigh fun strand => strand.leads.toNat

theorem weigh_workers (f : Strand → Nat) (settings : PoolSettings) (none : f (.working .start) = 0) :
    (new settings).weigh f = 0 := by
  apply tally_eq_zero
  intro strand member
  rw [List.eq_of_mem_replicate member]
  exact none

private theorem Locked.submitting_pos (locked : s.Locked) {place : Nat} {strand : Strand}
    (found : s.strands[place]? = some strand) (shares : strand.shares = true) :
    0 < s.core.submitting := by
  have counted := le_weigh (fun strand => strand.shares.toNat) found
  rw [locked.shared]
  rw [shares] at counted
  exact counted

private theorem Locked.exclusive_of_excludes (locked : s.Locked) {place : Nat} {strand : Strand}
    (found : s.strands[place]? = some strand) (excludes : strand.excludes = true) :
    s.core.exclusive = true :=
  true_of_weigh locked.alone found excludes

theorem Locked.flag_of_leads (locked : s.Locked) {place : Nat} {strand : Strand}
    (found : s.strands[place]? = some strand) (leads : strand.leads = true) :
    s.core.shuttingDown = true :=
  true_of_weigh locked.led found leads

private theorem Locked.disjoint (locked : s.Locked) {i j : Nat} {x y : Strand}
    (first : s.strands[i]? = some x) (second : s.strands[j]? = some y)
    (excludes : x.excludes = true) (shares : y.shares = true) : False := by
  have none := locked.apart (locked.exclusive_of_excludes first excludes)
  have some := locked.submitting_pos second shares
  omega

theorem Reachable.locked (reach : s.Reachable) : s.Locked := by
  refine reach.invariant Locked ?start ?begin ?act
  case start =>
    intro settings _
    refine ⟨?_, ?_, nofun, ?_⟩ <;> rw [weigh_workers _ _ rfl] <;> rfl
  case begin =>
    intro s strand _ ih fresh
    obtain ⟨shared, alone, apart, led⟩ := ih
    refine ⟨?_, ?_, apart, ?_⟩ <;> rw [weigh_begin]
    · obtain rfl | rfl := fresh <;> exact shared
    · obtain rfl | rfl := fresh <;> exact alone
    · obtain rfl | rfl := fresh <;> exact led
  case act =>
    intro s place strand act e _ ih found acts
    have shares := acts.shares (ih.submitting_pos found)
    have excludes := acts.excludes (ih.exclusive_of_excludes found)
    have leads := acts.leads
    have shared := weigh_effect (f := fun strand => strand.shares.toNat) found e
    have alone := weigh_effect (f := fun strand => strand.excludes.toNat) found e
    have led := weigh_effect (f := fun strand => strand.leads.toNat) found e
    rw [← ih.shared] at shared
    rw [← ih.alone] at alone
    rw [← ih.led] at led
    have core : (s.effect place e).core = e.core := rfl
    constructor
    · rw [core]
      omega
    · rw [core]
      omega
    · exact acts.apart ih.apart
    · rw [core]
      omega

private theorem Reachable.flag_of_shares (reach : s.Reachable) {acting place : Nat} {x y : Strand} {act : Act}
    {e : Effect} (here : s.strands[acting]? = some x) (acts : x.Acts acting s.core act e)
    (found : s.strands[place]? = some y) (shares : y.shares = true) :
    e.core.shuttingDown = s.core.shuttingDown := by
  obtain same | ⟨excludes, -⟩ := acts.flag
  · exact same
  · exact (reach.locked.disjoint here found excludes shares).elim

theorem Reachable.story (reach : s.Reachable) {place : Nat} {strand : Strand} {deeds : List Deed}
    (found : s.strands[place]? = some strand) (here : deeds ∈ strand.story s.core.shuttingDown) :
    s.deedsOf place = deeds := by
  refine reach.invariant (fun s => ∀ place strand deeds, s.strands[place]? = some strand →
    deeds ∈ strand.story s.core.shuttingDown → s.deedsOf place = deeds)
    ?start ?begin ?act place strand deeds found here
  case start =>
    intro settings _ place strand deeds found here
    rw [List.eq_of_mem_replicate (List.mem_of_getElem? found)] at here
    cases here
  case begin =>
    intro s new reach ih fresh place strand deeds found here
    obtain old | ⟨rfl, rfl⟩ := found_begin found
    · exact ih place strand deeds old here
    · have nothing := reach.deedsOf_eq_nil (Nat.le_refl s.strands.length)
      obtain rfl | rfl := fresh
      · obtain rfl := Option.some.inj here
        exact nothing
      · cases here
  case act =>
    intro s acting strand act e reach ih found acts place other deeds there here
    rw [deedsOf_effect]
    obtain ⟨rfl, rfl⟩ | ⟨elsewhere, old⟩ := found_effect found there
    · rw [if_pos rfl]
      refine acts.story ?_ here
      intro before told
      exact ih acting strand before found told
    · rw [if_neg elsewhere, List.append_nil]
      -- A story speaks of the flag only while its strand shares the lock.
      have same : other.story s.core.shuttingDown = other.story e.core.shuttingDown := by
        cases shares : other.shares with
        | false => exact Strand.story_of_silent shares
        | true => rw [reach.flag_of_shares found acts old shares]
      exact ih place other deeds old (same ▸ here)

theorem Reachable.open_of_send (reach : s.Reachable) {place : Nat}
    (found : s.strands[place]? = some (.submitting .send)) : s.core.shuttingDown = false := by
  refine reach.invariant (fun s => ∀ place, s.strands[place]? = some (.submitting .send) →
    s.core.shuttingDown = false) ?start ?begin ?act place found
  case start =>
    intro settings _ place found
    cases List.eq_of_mem_replicate (List.mem_of_getElem? found)
  case begin =>
    intro s new _ ih fresh place found
    obtain old | ⟨-, same⟩ := found_begin found
    · exact ih place old
    · obtain rfl | rfl := fresh <;> cases same
  case act =>
    intro s acting strand act e reach ih found acts place there
    obtain ⟨rfl, same⟩ | ⟨-, old⟩ := found_effect found there
    · cases acts with
      | findOpen opened => exact opened
      | _ => cases same
    · exact (reach.flag_of_shares found acts old rfl).trans (ih place old)

end System

end TransferLifecycle.Pool
