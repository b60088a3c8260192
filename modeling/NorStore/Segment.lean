/-
# Segments

A segment is one kind of state that a node keeps on flash. There are seven, in a
fixed order that every boot shares; tables with one cell per segment are kept as
structures, so that looking a segment up cannot miss.
-/

namespace NorStore

/-- The kinds of state a node keeps on flash. -/
inductive Segment where
  | networkImage
  | applicationData
  | security
  | uniqueId
  | isiConnectionTable
  | isiPersistentState
  | nodeDefinition
deriving DecidableEq, Repr

namespace Segment

/-- Every segment, in the order in which they are placed and stored. -/
def all : List Segment :=
  [networkImage, applicationData, security, uniqueId, isiConnectionTable, isiPersistentState,
    nodeDefinition]

/-- The place of a segment in `all`. -/
def ordinal : Segment → Nat
  | networkImage => 0
  | applicationData => 1
  | security => 2
  | uniqueId => 3
  | isiConnectionTable => 4
  | isiPersistentState => 5
  | nodeDefinition => 6

/-- The segment at a place, if there is one. -/
def ofOrdinal? (place : Nat) : Option Segment := all[place]?

/-- The name of a segment in reports and on command lines. -/
def name : Segment → String
  | networkImage => "network-image"
  | applicationData => "application-data"
  | security => "security"
  | uniqueId => "unique-id"
  | isiConnectionTable => "isi-connection-table"
  | isiPersistentState => "isi-persistent-state"
  | nodeDefinition => "node-definition"

instance : ToString Segment := ⟨name⟩

/-- The segment of a name, which has to be spelled exactly. -/
def ofName? (text : String) : Option Segment := all.find? (·.name == text)

/-- What to say about a text that names no segment. -/
def unknownMessage (text : String) : String := s!"unknown segment type: {text}"

/-- The entries of a list in the order of their segments. Entries of one segment
keep the order in which they were given. -/
def sortBy {α : Type} (segmentOf : α → Segment) (entries : List α) : List α :=
  all.flatMap fun segment => entries.filter (segmentOf · = segment)

/-- The segments that occur in a list, each once, in order. -/
def distinct (listed : List Segment) : List Segment := all.filter (· ∈ listed)

theorem mem_all (segment : Segment) : segment ∈ all := by
  cases segment <;> decide

theorem ofOrdinal?_ordinal (segment : Segment) : ofOrdinal? segment.ordinal = some segment := by
  cases segment <;> rfl

theorem ofName?_name (segment : Segment) : ofName? segment.name = some segment := by
  cases segment <;> decide

theorem name_injective {first second : Segment} (same : first.name = second.name) :
    first = second := by
  have := ofName?_name first
  rw [same, ofName?_name second] at this
  exact (Option.some.inj this).symm

/-- One cell per segment. -/
structure Table (α : Type) where
  networkImage : α
  applicationData : α
  security : α
  uniqueId : α
  isiConnectionTable : α
  isiPersistentState : α
  nodeDefinition : α
deriving DecidableEq, Repr

namespace Table

variable {α β : Type}

/-- The table with the same content in every cell. -/
def replicate (content : α) : Table α := ⟨content, content, content, content, content, content, content⟩

/-- The content of a segment's cell. -/
def get (table : Table α) : Segment → α
  | .networkImage => table.networkImage
  | .applicationData => table.applicationData
  | .security => table.security
  | .uniqueId => table.uniqueId
  | .isiConnectionTable => table.isiConnectionTable
  | .isiPersistentState => table.isiPersistentState
  | .nodeDefinition => table.nodeDefinition

/-- The table with the content of one cell replaced. -/
def set (table : Table α) (segment : Segment) (content : α) : Table α :=
  match segment with
  | .networkImage => { table with networkImage := content }
  | .applicationData => { table with applicationData := content }
  | .security => { table with security := content }
  | .uniqueId => { table with uniqueId := content }
  | .isiConnectionTable => { table with isiConnectionTable := content }
  | .isiPersistentState => { table with isiPersistentState := content }
  | .nodeDefinition => { table with nodeDefinition := content }

/-- The table whose cells are made from those of another one. -/
def map (change : α → β) (table : Table α) : Table β :=
  ⟨change table.networkImage, change table.applicationData, change table.security,
    change table.uniqueId, change table.isiConnectionTable, change table.isiPersistentState,
    change table.nodeDefinition⟩

@[simp] theorem get_map (change : α → β) (table : Table α) (segment : Segment) :
    (table.map change).get segment = change (table.get segment) := by
  cases segment <;> rfl

@[simp] theorem get_replicate (content : α) (segment : Segment) :
    (replicate content).get segment = content := by
  cases segment <;> rfl

@[simp] theorem get_set_self (table : Table α) (segment : Segment) (content : α) :
    (table.set segment content).get segment = content := by
  cases segment <;> rfl

theorem get_set_of_ne (table : Table α) {changed asked : Segment} (content : α)
    (other : asked ≠ changed) : (table.set changed content).get asked = table.get asked := by
  cases changed <;> cases asked <;> first | rfl | exact absurd rfl other

/-- Tables with the same cells are the same. -/
theorem ext_get {first second : Table α} (same : ∀ segment, first.get segment = second.get segment) :
    first = second := by
  cases first
  cases second
  simp only [mk.injEq]
  exact ⟨same .networkImage, same .applicationData, same .security, same .uniqueId,
    same .isiConnectionTable, same .isiPersistentState, same .nodeDefinition⟩

/-- The segments whose cells are filled, in order. -/
def filled (table : Table (Option α)) : List Segment := all.filter (table.get · |>.isSome)

/-- The contents of the filled cells, in the order of their segments. -/
def toList (table : Table (Option α)) : List α := all.filterMap table.get

end Table

end Segment

end NorStore
