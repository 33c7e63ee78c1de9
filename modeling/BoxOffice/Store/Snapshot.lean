import BoxOffice.Store.Tables

/-! The plainest store with blocks: entering a block copies all tables, and rolling it back puts the
copy in their place. -/
namespace BoxOffice

structure Snapshots where
  tables : Tables
  copies : List Tables
  deriving DecidableEq, Repr

namespace Snapshots

def empty : Snapshots :=
  ⟨.empty, []⟩

def call (c : StoreCall) (s : Snapshots) : Except Failure c.Answer × Snapshots :=
  let (answer, edits) := s.tables.plan c
  (answer, { s with tables := edits.foldl Tables.edit s.tables })

def enter (s : Snapshots) : Snapshots :=
  { s with copies := s.tables :: s.copies }

def leave (s : Snapshots) : Snapshots :=
  { s with copies := s.copies.tail }

def rollBack (s : Snapshots) : Snapshots :=
  match s.copies with
  | [] => s
  | copy :: copies => ⟨copy, copies⟩

end Snapshots

instance : RecordStore Snapshots where
  empty := .empty
  call := Snapshots.call
  enter := Snapshots.enter
  commit s := .ok s.leave
  rollBack := Snapshots.rollBack
  names := blockMethod :: StoreCall.methods
  interrupted _ _ _ := none
  barrier _ := none
  extent s := s.tables.extent

end BoxOffice
