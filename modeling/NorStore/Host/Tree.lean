/-
# The file tree of the host

A path is followed part by part. An empty part and a single dot stay, two dots lead one
directory up, and any other part leads to the entry of that name; each of them can only
be followed from a directory. So a path that ends in a slash or a dot names a directory
or nothing. A path that is too long is not followed at all, also where a shorter spelling
of it would lead somewhere.

Writing a file creates the directories its path names before the last part, also when
the file cannot be created in the end. Each is named by the beginning of the path, as it
is spelled there. The root and its directories come with the host: nothing can be added
to the root.
-/

import NorStore.Host.Entry

namespace NorStore.Host

/-- The names that lead to an entry from the root. -/
abbrev Place := List String

/-- Directories and files, and the directory in which relative paths start. -/
structure Tree where
  home : Place := []
  held : List (Place × Entry) := []

/-- Why a path leads nowhere: there is nothing on the way, or something else than a
directory, or a name or the path itself is too long. -/
inductive PathFault where
  | lacking
  | blocked
deriving DecidableEq, Repr

namespace Tree

/-- A name of more bytes than this names nothing. -/
def nameLimit : Nat := 255

/-- A path of as many bytes as this, or more, names nothing. -/
def pathLimit : Nat := 4096

/-- The entry at a place. -/
def entry (tree : Tree) (place : Place) : Entry :=
  if place = [] then .directory else (tree.held.lookup place).getD .absent

/-- The tree with another entry at a place. -/
def put (tree : Tree) (place : Place) (entry : Entry) : Tree :=
  { tree with held := (place, entry) :: tree.held.filter (·.1 ≠ place) }

@[simp] theorem entry_put_self (tree : Tree) {place : Place} (entry : Entry)
    (inside : place ≠ []) : (tree.put place entry).entry place = entry := by
  simp [Tree.entry, put, inside]

private theorem lookup_filter_of_ne {place other : Place} (different : other ≠ place)
    (held : List (Place × Entry)) :
    (held.filter (·.1 ≠ place)).lookup other = held.lookup other := by
  induction held with
  | nil => rfl
  | cons first rest ih =>
    obtain ⟨name, present⟩ := first
    by_cases same : name = place
    · subst same
      rw [List.filter_cons_of_neg (by simp), ih, List.lookup_cons, beq_false_of_ne different]
    · rw [List.filter_cons_of_pos (by simpa using same), List.lookup_cons, List.lookup_cons, ih]

/-- Putting an entry leaves the others as they are. -/
theorem entry_put_of_ne (tree : Tree) {place other : Place} (entry : Entry)
    (different : other ≠ place) : (tree.put place entry).entry other = tree.entry other := by
  simp only [Tree.entry, put, List.lookup_cons, beq_false_of_ne different]
  rw [lookup_filter_of_ne different]

/-- The parts of a path. That of an absolute path starts with an empty part. -/
def parts (path : String) : List String := path.splitOn "/"

/-- The path with the given parts. -/
def join (path : List String) : String := String.intercalate "/" path

/-- Whether a part of a path leaves one where one is. -/
def stays (part : String) : Bool := part = "" || part = "."

/-- The parts of a path before the last one that leads somewhere, from its end. -/
def above (path : String) : List String := ((parts path).reverse.dropWhile stays).drop 1

/-- Where a path starts. -/
def start (tree : Tree) (path : String) : Place := if path.startsWith "/" then [] else tree.home

/-- Where a part of a path leads from a directory. -/
def step (here : Place) (part : String) : Place :=
  if stays part then here
  else if part = ".." then here.dropLast
  else here ++ [part]

/-- Where the parts of a path lead. There need not be an entry in the end. -/
def follow (tree : Tree) (here : Place) : List String → Except PathFault Place
  | [] => .ok here
  | part :: rest =>
    match tree.entry here with
    | .absent => .error .lacking
    | .file _ => .error .blocked
    | .directory =>
      if nameLimit < part.utf8ByteSize then .error .blocked
      else tree.follow (step here part) rest

/-- Where a path leads, if it is not too long. There need not be an entry in the end. -/
def resolve (tree : Tree) (here : Place) (path : List String) : Except PathFault Place :=
  if pathLimit ≤ (join path).utf8ByteSize then .error .blocked else tree.follow here path

/-- What a path names. -/
def look (tree : Tree) (path : String) : Entry :=
  match tree.resolve (tree.start path) (parts path) with
  | .ok place => tree.entry place
  | .error _ => .absent

/-- Put a new entry in a directory. -/
def create (tree : Tree) (place : Place) (entry : Entry) : Except PathFault Tree :=
  if place.length < 2 then .error .blocked else .ok (tree.put place entry)

/-- See to it that a path names a directory, if the one it is in exists. -/
def makeDirectory (tree : Tree) (here : Place) (path : List String) : Except PathFault Tree := do
  let place ← tree.resolve here path
  match tree.entry place with
  | .directory => return tree
  | .file _ => throw .blocked
  | .absent => tree.create place .directory

/-- See to it that a path, given from its end, names a directory. The result tells
whether it does. Parts at the end that stay are left out. -/
def makeDirectories (here : Place) : List String → Tree → Bool × Tree
  | [], tree => (true, tree)
  | last :: above, tree =>
    if stays last then makeDirectories here above tree
    else match tree.makeDirectory here (last :: above).reverse with
    | .ok reached => (true, reached)
    | .error .blocked => (false, tree)
    | .error .lacking =>
      match makeDirectories here above tree with
      | (false, reached) => (false, reached)
      | (true, reached) =>
        match reached.makeDirectory here (last :: above).reverse with
        | .ok made => (true, made)
        | .error _ => (false, reached)

/-- Write a file. The result tells whether it was written. -/
def writeFile (tree : Tree) (path : String) (content : Flash.Cells) : Bool × Tree :=
  let here := tree.start path
  match makeDirectories here (above path) tree with
  | (false, reached) => (false, reached)
  | (true, reached) =>
    match reached.resolve here (parts path) with
    | .error _ => (false, reached)
    | .ok place =>
      match reached.entry place with
      | .directory => (false, reached)
      | .file _ => (true, reached.put place (.file content))
      | .absent =>
        match reached.create place (.file content) with
        | .ok written => (true, written)
        | .error _ => (false, reached)

end Tree

end NorStore.Host
