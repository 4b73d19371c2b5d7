import TransferLifecycle.ListenerList

/-! A listener list that is worked on by hand, with the snapshots kept of it. A snapshot is
kept under a key; a newer one takes its place. -/
namespace TransferLifecycle

structure Roster (α : Type) where
  list : ListenerList α := {}
  kept : List (α × Snapshot) := []

namespace Roster

inductive Action (α : Type) where
  | add (x : α)
  | remove (x : α)
  | keep (key : α)
  | view (key : α)
  | drop (key : α)

inductive Reply (α : Type) where
  | nothing
  | removed (found : Bool)
  | entries (entries : List α)

variable {α : Type} [BEq α]

def release (r : Roster α) (key : α) : Roster α :=
  match r.kept.lookup key with
  | some snapshot =>
    { list := r.list.release snapshot, kept := r.kept.filter fun entry => !(entry.1 == key) }
  | none => r

def act (r : Roster α) : Action α → Reply α × Roster α
  | .add x => (.nothing, { r with list := r.list.add x })
  | .remove x =>
    let (found, list) := r.list.remove x
    (.removed found, { r with list := list })
  | .keep key =>
    let (snapshot, list) := r.list.snapshot
    let r := { r with list := list }.release key
    (.nothing, { r with kept := (key, snapshot) :: r.kept })
  | .view key =>
    match r.kept.lookup key with
    | some snapshot => (.entries (r.list.view snapshot), r)
    | none => (.nothing, r)
  | .drop key => (.nothing, r.release key)

end Roster

end TransferLifecycle
