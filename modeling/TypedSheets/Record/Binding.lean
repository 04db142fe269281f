import TypedSheets.Record.Value

/-!
# Binding columns to members

Rows can be loaded into entities of the caller's own. An `EntityType` says what members an entity
has and how a member is set; a `Binding` says which member, by its slot, the value of a column goes
to.
-/

namespace TypedSheets

/-- How entities of a type are filled with values. -/
structure EntityType (α : Type) where
  /-- The members in order of their slots; none if members are addressed by column. -/
  memberNames : List String
  initial : α
  /-- Stores a value in the member at a slot, or says why the member cannot hold it. -/
  setMember : α → Nat → Value → Except String α

/-- The slot for each column, for those that have one. -/
structure Binding where
  slots : List (Option Nat)
  deriving DecidableEq, Repr

/-- Equality of texts up to the case of ASCII letters. -/
def sameIgnoringCase (s t : String) : Bool :=
  s.toList.map Char.toLower == t.toList.map Char.toLower

namespace Binding

/-- Every column goes to the slot of its own position. -/
def positional (s : TableSchema) : Binding :=
  ⟨(List.range s.columns.length).map some⟩

/-- A column goes to the first member of its name in any ASCII letter case. -/
def byName (s : TableSchema) (members : List String) : Binding :=
  ⟨s.columns.map fun c => members.findIdx? (sameIgnoringCase · c.name)⟩

/-- The binding for entities with the given members. -/
def forMembers (s : TableSchema) (members : List String) : Binding :=
  if members = [] then positional s else byName s members

/-- The slot that the value of a column goes to. -/
def slot? (b : Binding) (column : Nat) : Option Nat :=
  (b.slots[column]?).join

/-- The number of columns that go to some slot. -/
def boundCount (b : Binding) : Nat :=
  b.slots.countP (·.isSome)

end Binding

end TypedSheets
