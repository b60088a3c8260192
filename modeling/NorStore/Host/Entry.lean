/-
# What stands at a path

A path of the host names a file, a directory, or nothing.
-/

import NorStore.Flash.Cells

namespace NorStore.Host

/-- What stands at a path. -/
inductive Entry where
  | absent
  | file (content : Flash.Cells)
  | directory
deriving DecidableEq, Repr

/-- The bytes of a file. -/
def Entry.content? : Entry → Option Flash.Cells
  | absent => none
  | file content => some content
  | directory => none

/-- Whether a path names anything. -/
def Entry.isPresent : Entry → Bool
  | absent => false
  | file _ => true
  | directory => true

end NorStore.Host
