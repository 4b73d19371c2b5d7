import TransferLifecycle.Proofs.Pool.Signals

/-! No run of acts goes on for ever, and none stops early. Each act uses up some of a finite effort that
the strands and the queued jobs have left, and where no strand can act every call is over, every
accepted task has finished, and every worker is gone or waits at an empty queue. -/
namespace TransferLifecycle

def Job.effort {τ : Type} : Job τ → Nat
  | .run _ => 4
  | .stop => 1

namespace Pool

/-- A bound on the acts that the strand has left, beside those for the jobs that are queued already. -/
def Strand.effort (workers : Nat) : Strand → Nat
  | .submitting .enter => 8
  | .submitting .check => 7
  | .submitting .send => 6
  | .submitting (.leave _) => 1
  | .stopping .enter => 3 * workers + 6
  | .stopping .mark => 3 * workers + 5
  | .stopping (.leave _) => 3 * workers + 4
  | .stopping .begin => 3 * workers + 3
  | .stopping (.signal left) => 2 * left + workers + 2
  | .stopping (.join id) => workers - id + 1
  | .working .start => 4
  | .working .receive => 3
  | .running _ => 6
  | .working .contain => 5
  | .working .count => 4
  | .working .signalled => 2
  | .working .exit => 1
  | .working .running | .answered _ | .returned _ | .exited => 0

def Strand.staying : Strand → Bool
  | .working .signalled | .working .exit => false
  | .working _ | .running _ => true
  | _ => false

inductive Strand.Resting (p : Pool Nat) : Strand → Prop where
  | answered {result} : Resting p (.answered result)
  | returned {first} : Resting p (.returned first)
  | idle (empty : p.queue = []) : Resting p (.working .receive)
  | exited : Resting p .exited

variable {me : Nat} {p : Pool Nat} {strand : Strand} {act : Act} {e : Effect}

theorem Strand.Acts.effort (acts : strand.Acts me p act e) :
    e.strand.effort p.workers.length + tally Job.effort e.core.queue <
      strand.effort p.workers.length + tally Job.effort p.queue := by
  cases acts with
  | send | signal =>
    simp only [Strand.effort, tally_append, tally_cons, tally_nil, Job.effort]
    omega
  | take front | receiveStop front =>
    simp only [Strand.effort, front, tally_cons, Job.effort]
    omega
  | join present =>
    have inside := (List.getElem?_eq_some_iff.mp present).1
    simp only [Strand.effort]
    omega
  | _ =>
    simp only [Strand.effort, updateWorker]
    omega

theorem Strand.works_eq (strand : Strand) :
    strand.works.toNat = strand.staying.toNat + strand.dismissed.toNat := by
  cases strand with
  | working point => cases point <;> rfl
  | _ => rfl

theorem Strand.Acts.capacity (acts : strand.Acts me p act e) : e.core.capacity = p.capacity := by
  cases acts <;> rfl

theorem Strand.Acts.ne_running (acts : strand.Acts me p act e) : e.strand ≠ .working .running := by
  cases acts <;> exact nofun

theorem Strand.act_of_staying (me : Nat) (p : Pool Nat) (staying : strand.staying = true)
    (running : strand ≠ .working .running) :
    (∃ act e, strand.act? me p act = some e) ∨ strand = .working .receive ∧ p.queue = [] := by
  cases strand with
  | running task => exact Or.inl ⟨.finish false, _, rfl⟩
  | working point => cases point with
    | receive => cases front : p.queue with
      | nil => exact Or.inr ⟨rfl, rfl⟩
      | cons job rest => cases job with
        | run task =>
          exact Or.inl ⟨.move, _, by simp [act?, Loop.step, Loop.follow, front]; rfl⟩
        | stop => exact Or.inl ⟨.move, _, by simp [act?, Loop.step, Loop.follow, front]; rfl⟩
    | running => exact (running rfl).elim
    | start | contain | count => exact Or.inl ⟨.move, _, rfl⟩
    | signalled | exit => cases staying
  | submitting | answered | stopping | returned | exited => cases staying

private theorem Strand.act_of_shares (me : Nat) (p : Pool Nat) (shares : strand.shares = true) :
    ∃ e, strand.act? me p .move = some e := by
  cases strand with
  | submitting point => cases point with
    | check => exact ⟨_, rfl⟩
    | send => by_cases room : p.queue.length < p.capacity <;>
        exact ⟨_, by simp [act?, Submit.step, Submit.follow, room]; rfl⟩
    | leave result => exact ⟨_, rfl⟩
    | enter => cases shares
  | _ => cases shares

private theorem Strand.act_of_excludes (me : Nat) (p : Pool Nat) (excludes : strand.excludes = true) :
    ∃ e, strand.act? me p .move = some e := by
  cases strand with
  | stopping point => cases point with
    | mark => exact ⟨_, rfl⟩
    | leave first => cases first <;> exact ⟨_, rfl⟩
    | _ => cases excludes
  | _ => cases excludes

namespace System

variable {s t : System}

def effort (s : System) : Nat :=
  s.weigh (·.effort s.core.workers.length) + tally Job.effort s.core.queue

private theorem effort_effect {place : Nat} (found : s.strands[place]? = some strand)
    (acts : strand.Acts place s.core act e) : (s.effect place e).effort < s.effort := by
  have moved := weigh_effect (f := (·.effort s.core.workers.length)) found e
  have less := acts.effort
  unfold effort
  rw [show (s.effect place e).core = e.core from rfl, acts.workers_length]
  omega

theorem length_le_effort {acts : List (Nat × Act)}
    (ran : s.run? (acts.map fun (place, act) => .act place act) = some t) :
    acts.length + t.effort ≤ s.effort := by
  induction acts generalizing s with
  | nil =>
    cases Option.some.inj ran
    exact Nat.le_of_eq (Nat.zero_add _)
  | cons head rest ih =>
    obtain ⟨middle, performed, ran⟩ := Option.bind_eq_some_iff.mp ran
    obtain ⟨strand, e, found, acts, rfl⟩ := acts_of_perform performed
    have later := ih ran
    have less := effort_effect found acts
    rw [List.length_cons]
    omega

def Still (s : System) : Prop := ∀ place act, s.perform? (.act place act) = none

theorem Still.act? (still : s.Still) {place : Nat} (found : s.strands[place]? = some strand)
    (act : Act) : strand.act? place s.core act = none := by
  cases acted : strand.act? place s.core act with
  | none => rfl
  | some e =>
    have stuck := still place act
    simp [perform?, found, acted] at stuck

theorem Reachable.room (reach : s.Reachable) : 0 < s.core.capacity := by
  refine reach.invariant (fun s => 0 < s.core.capacity) ?start ?begin ?act
  case start =>
    intro settings room
    exact room
  case begin =>
    intro s strand _ ih _
    exact ih
  case act =>
    intro s place strand act e _ ih _ acts
    exact Nat.lt_of_lt_of_eq ih acts.capacity.symm

private theorem Reachable.weigh_works (reach : s.Reachable) :
    (s.weigh fun strand => strand.works.toNat) = s.core.workers.length := by
  refine reach.invariant (fun s => (s.weigh fun strand => strand.works.toNat) =
    s.core.workers.length) ?start ?begin ?act
  case start =>
    intro settings _
    rw [new, Pool.new, weigh, List.length_replicate, tally_replicate]
    exact Nat.mul_one _
  case begin =>
    intro s strand _ ih fresh
    rw [weigh_begin]
    obtain rfl | rfl := fresh <;> exact ih
  case act =>
    intro s place strand act e _ ih found acts
    have moved := weigh_effect (f := fun strand => strand.works.toNat) found e
    rw [acts.works] at moved
    rw [show (s.effect place e).core = e.core from rfl, acts.workers_length]
    omega

theorem Reachable.ne_running (reach : s.Reachable) {place : Nat}
    (found : s.strands[place]? = some strand) : strand ≠ .working .running := by
  refine reach.invariant (fun s => ∀ place strand, s.strands[place]? = some strand →
    strand ≠ .working .running) ?start ?begin ?act place strand found
  case start =>
    intro settings _ place strand found
    rw [List.eq_of_mem_replicate (List.mem_of_getElem? found)]
    exact nofun
  case begin =>
    intro s new _ ih fresh place strand found
    obtain old | ⟨-, rfl⟩ := found_begin found
    · exact ih place strand old
    · obtain rfl | rfl := fresh <;> exact nofun
  case act =>
    intro s acting strand act e _ ih found acts place other there
    obtain ⟨-, rfl⟩ | ⟨-, old⟩ := found_effect found there
    · exact acts.ne_running
    · exact ih place other old

/-- Once the flag is up, a worker that stays is one for whom a signal waits or is owed. -/
theorem Reachable.staying_eq (reach : s.Reachable) (closing : s.core.shuttingDown = true) :
    (s.weigh fun strand => strand.staying.toNat) =
      s.core.stops + s.weigh (·.owed s.core.workers.length) := by
  have sent := reach.signals_eq
  have works := reach.weigh_works
  have parts : (s.weigh fun strand => strand.works.toNat) =
      (s.weigh fun strand => strand.staying.toNat) + s.weigh fun strand => strand.dismissed.toNat := by
    unfold weigh
    rw [← tally_add]
    exact congrArg (tally · s.strands) (funext Strand.works_eq)
  rw [closing, Bool.toNat_true, Nat.one_mul] at sent
  omega

private theorem Still.owed_eq_zero (still : s.Still) (room : s.core.queue.length < s.core.capacity) :
    s.weigh (·.owed s.core.workers.length) = 0 := by
  apply tally_eq_zero
  intro strand member
  obtain ⟨place, found⟩ := List.mem_iff_getElem?.mp member
  have stuck := still.act? found .move
  cases strand with
  | stopping point => cases point with
    | leave first => cases first <;> cases stuck
    | begin => cases stuck
    | signal left => cases left with
      | zero => rfl
      | succ left => simp [Strand.act?, Shutdown.step, Shutdown.follow, room] at stuck
    | enter | mark | join => rfl
  | _ => rfl

theorem Reachable.queue_nil (reach : s.Reachable) (still : s.Still) {place : Nat}
    (found : s.strands[place]? = some strand) (staying : strand.staying = true) :
    strand = .working .receive ∧ s.core.queue = [] := by
  obtain ⟨act, e, acted⟩ | idle :=
    Strand.act_of_staying place s.core staying (reach.ne_running found)
  · rw [still.act? found] at acted
    cases acted
  · exact idle

private theorem Reachable.not_stuck_signal (reach : s.Reachable) (still : s.Still) {place left : Nat}
    (found : s.strands[place]? = some (.stopping (.signal (left + 1)))) : False := by
  have closing := reach.locked.flag_of_leads found rfl
  have owed := le_weigh (·.owed s.core.workers.length) found
  have stay := reach.staying_eq closing
  have some : 0 < s.weigh fun strand => strand.staying.toNat := by
    have own : (Strand.stopping (.signal (left + 1))).owed s.core.workers.length = left + 1 := rfl
    omega
  -- The signal is for a worker that stays, and a worker that stays has emptied the queue.
  obtain ⟨there, worker, stands, staying⟩ := exists_of_weigh_pos some
  obtain ⟨-, empty⟩ := reach.queue_nil still stands staying
  have none := still.owed_eq_zero (by rw [empty]; exact reach.room)
  rw [none] at owed
  cases owed

private theorem Reachable.not_stuck_join (reach : s.Reachable) (still : s.Still) {place id : Nat}
    (found : s.strands[place]? = some (.stopping (.join id))) : False := by
  have stuck := still.act? found .move
  cases present : s.core.workers[id]? with
  | none => simp [Strand.act?, Shutdown.step, Shutdown.follow, present] at stuck
  | some worker =>
    cases exited : worker.exited with
    | true => simp [Strand.act?, Shutdown.step, Shutdown.follow, present, exited] at stuck
    | false =>
      obtain ⟨strand, stands, gone⟩ := reach.staffed.worker id worker present
      have works := (reach.staffed.inside id strand stands).mpr
        (List.getElem?_eq_some_iff.mp present).1
      cases staying : strand.staying with
      | true =>
        -- The worker stays for want of a signal, but none is queued and none is owed.
        obtain ⟨-, empty⟩ := reach.queue_nil still stands staying
        have some := le_weigh (fun strand => strand.staying.toNat) stands
        have owed := still.owed_eq_zero (by rw [empty]; exact reach.room)
        have stay := reach.staying_eq (reach.locked.flag_of_leads found rfl)
        rw [stay, owed, stops, empty, staying] at some
        cases some
      | false =>
        have moves := still.act? stands .move
        cases strand with
        | working point => cases point with
          | signalled | exit => cases moves
          | _ => cases staying
        | running task => cases staying
        | exited =>
          rw [exited] at gone
          cases gone
        | _ => cases works

theorem Reachable.resting (reach : s.Reachable) (still : s.Still) {place : Nat}
    (found : s.strands[place]? = some strand) : strand.Resting s.core := by
  have alone : s.core.exclusive = false := by
    cases exclusive : s.core.exclusive with
    | false => rfl
    | true =>
      have held := reach.locked.alone
      rw [exclusive] at held
      obtain ⟨there, holder, holds, excludes⟩ :=
        exists_of_weigh_pos (Nat.lt_of_lt_of_eq Nat.one_pos held)
      obtain ⟨e, acted⟩ := Strand.act_of_excludes there s.core excludes
      rw [still.act? holds] at acted
      cases acted
  have idle : s.core.submitting = 0 := by
    refine Nat.eq_zero_of_not_pos fun some => ?_
    rw [reach.locked.shared] at some
    obtain ⟨there, holder, holds, shares⟩ := exists_of_weigh_pos some
    obtain ⟨e, acted⟩ := Strand.act_of_shares there s.core shares
    rw [still.act? holds] at acted
    cases acted
  have stuck := still.act? found .move
  cases strand with
  | submitting point => cases point with
    | enter => simp [Strand.act?, Submit.step, Submit.follow, alone] at stuck
    | check | leave => cases stuck
    | send =>
      have shares : Strand.shares (.submitting .send) = true := rfl
      obtain ⟨e, acted⟩ := Strand.act_of_shares place s.core shares
      rw [stuck] at acted
      cases acted
  | stopping point => cases point with
    | enter => simp [Strand.act?, Shutdown.step, Shutdown.follow, alone, idle] at stuck
    | mark | begin => cases stuck
    | leave first => cases first <;> cases stuck
    | signal left => cases left with
      | zero => cases stuck
      | succ left => exact (reach.not_stuck_signal still found).elim
    | join id => exact (reach.not_stuck_join still found).elim
  | working point => cases point with
    | signalled | exit => cases stuck
    | _ =>
      obtain ⟨same, empty⟩ := reach.queue_nil still found rfl
      rw [same]
      exact .idle empty
  | running task =>
    obtain ⟨same, -⟩ := reach.queue_nil still found rfl
    cases same
  | answered => exact .answered
  | returned => exact .returned
  | exited => exact .exited

end System

end Pool

end TransferLifecycle
