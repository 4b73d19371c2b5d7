/-! Ordered lists of listeners, removable by identity. The entries stand in a vector that
snapshots may share: a change writes in place only while no snapshot holds the vector, and
otherwise continues on a copy, so that a snapshot never changes. -/
namespace TransferLifecycle

/-- A view of a list as of one moment, named by the vector it holds. -/
structure Snapshot where
  vector : Nat
  deriving DecidableEq, Repr

theorem unleased_lt {α : Type} : ∀ v ∈ ([] : List Nat), v < (#[[]] : Array (List α)).size := nofun

structure ListenerList (α : Type) where
  vectors : Array (List α) := #[[]]
  /-- The vector that the list itself holds. -/
  current : Nat := 0
  /-- The vectors that outstanding snapshots hold, one entry for each snapshot. -/
  leases : List Nat := []
  current_lt : current < vectors.size := by exact Nat.zero_lt_one
  leases_lt : ∀ v ∈ leases, v < vectors.size := by exact unleased_lt

namespace ListenerList

variable {α : Type}

def contents (l : ListenerList α) (vector : Nat) : List α := l.vectors[vector]?.getD []

def toList (l : ListenerList α) : List α := l.contents l.current

def view (l : ListenerList α) (s : Snapshot) : List α := l.contents s.vector

def Held (l : ListenerList α) (s : Snapshot) : Prop := s.vector ∈ l.leases

def copy (l : ListenerList α) (change : List α → List α) : ListenerList α where
  vectors := l.vectors.push (change l.toList)
  current := l.vectors.size
  leases := l.leases
  current_lt := by simp
  leases_lt v held := by simpa using Nat.lt_succ_of_lt (l.leases_lt v held)

def write (l : ListenerList α) (change : List α → List α) : ListenerList α where
  vectors := l.vectors.modify l.current change
  current := l.current
  leases := l.leases
  current_lt := by simpa using l.current_lt
  leases_lt := by simpa using l.leases_lt

/-- Changes the entries, on a copy if a snapshot holds them. -/
def mutate (l : ListenerList α) (change : List α → List α) : ListenerList α :=
  if l.leases.contains l.current then l.copy change else l.write change

def add (l : ListenerList α) (x : α) : ListenerList α := l.mutate (· ++ [x])

/-- Removes the first entry identical to `x`; answers whether there was one. -/
def remove [BEq α] (l : ListenerList α) (x : α) : Bool × ListenerList α :=
  if l.toList.contains x then (true, l.mutate (·.erase x)) else (false, l)

def snapshot (l : ListenerList α) : Snapshot × ListenerList α :=
  (⟨l.current⟩,
    { l with
      leases := l.current :: l.leases
      leases_lt := by simpa using ⟨l.current_lt, l.leases_lt⟩ })

def release (l : ListenerList α) (s : Snapshot) : ListenerList α :=
  { l with
    leases := l.leases.erase s.vector
    leases_lt := fun v held => l.leases_lt v (List.mem_of_mem_erase held) }

def length (l : ListenerList α) : Nat := l.toList.length

def isEmpty (l : ListenerList α) : Bool := l.toList.isEmpty

def debug (l : ListenerList α) : String := "ListenerList \x7b len: " ++ toString l.length ++ " \x7d"

@[simp] theorem toList_mutate (l : ListenerList α) (change : List α → List α) :
    (l.mutate change).toList = change l.toList := by
  unfold mutate
  split
  · simp [copy, toList, contents]
  · simp [write, toList, contents, Array.getElem_modify, l.current_lt]

/-- A change leaves what a snapshot shows as it was. -/
theorem view_mutate (l : ListenerList α) (change : List α → List α) {s : Snapshot}
    (held : l.Held s) : (l.mutate change).view s = l.view s := by
  have inside := l.leases_lt _ held
  unfold mutate
  split
  · simp [copy, view, contents, Array.getElem?_push, Nat.ne_of_lt inside]
  · rename_i free
    have other : l.current ≠ s.vector := fun same => free (by simpa [same, Held] using held)
    simp [write, view, contents, Array.getElem?_modify, other]

@[simp] theorem leases_mutate (l : ListenerList α) (change : List α → List α) :
    (l.mutate change).leases = l.leases := by
  unfold mutate
  split <;> rfl

@[simp] theorem toList_add (l : ListenerList α) (x : α) : (l.add x).toList = l.toList ++ [x] := by
  simp [add]

@[simp] theorem toList_remove [BEq α] [LawfulBEq α] (l : ListenerList α) (x : α) :
    (l.remove x).2.toList = l.toList.erase x := by
  unfold remove
  split
  · simp
  · rename_i absent
    rw [List.erase_of_not_mem (by simpa using absent)]

@[simp] theorem found_remove [BEq α] (l : ListenerList α) (x : α) :
    (l.remove x).1 = l.toList.contains x := by
  unfold remove
  split <;> simp_all

@[simp] theorem toList_snapshot (l : ListenerList α) : l.snapshot.2.toList = l.toList := rfl

@[simp] theorem view_snapshot (l : ListenerList α) : l.snapshot.2.view l.snapshot.1 = l.toList := rfl

@[simp] theorem toList_release (l : ListenerList α) (s : Snapshot) :
    (l.release s).toList = l.toList := rfl

@[simp] theorem view_release (l : ListenerList α) (s t : Snapshot) :
    (l.release s).view t = l.view t := rfl

@[simp] theorem toList_empty : ({} : ListenerList α).toList = [] := rfl

end ListenerList

end TransferLifecycle
