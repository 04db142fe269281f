import TypedSheets.Descriptor.Basic
import TypedSheets.Log.Event

/-!
# The descriptor registry

A `Registry` holds one descriptor for an entity at most. It is a list of descriptors of different
entities, looked up by `get?`; `get?_put` says what putting a descriptor into it changes.
-/

namespace TypedSheets

/-- Descriptors of different entities. -/
structure Registry where
  descriptors : List Descriptor := []
  deriving Repr

namespace Registry

/-- The registry without descriptors. -/
def empty : Registry := {}

/-- The descriptor of an entity. -/
def get? (r : Registry) (entity : String) : Option Descriptor :=
  r.descriptors.find? (·.entity == entity)

/-- Whether an entity has a descriptor. -/
def contains (r : Registry) (entity : String) : Bool :=
  (r.get? entity).isSome

/-- Stores a descriptor in place of the one of its entity. -/
def put (r : Registry) (d : Descriptor) : Registry :=
  ⟨d :: r.descriptors.filter (·.entity != d.entity)⟩

/-- The number of descriptors. -/
def size (r : Registry) : Nat :=
  r.descriptors.length

/-- The descriptors in order of their entities. -/
def toList (r : Registry) : List Descriptor :=
  r.descriptors.mergeSort fun a b => decide (¬ b.entity < a.entity)

/-- What is reported when a registry is emptied. -/
def flushEvent (r : Registry) : Event :=
  ⟨.registryFlushed, [("flushed", toString r.size)]⟩

theorem get?_put (r : Registry) (d : Descriptor) (entity : String) :
    (r.put d).get? entity = if entity = d.entity then some d else r.get? entity := by
  unfold get? put
  by_cases h : entity = d.entity
  · subst h; simp
  · have hne : (d.entity == entity) = false := by simp [Ne.symm h]
    simp only [List.find?_cons, hne, if_neg h, List.find?_filter]
    congr 1
    funext x
    by_cases hx : x.entity = entity
    · simp [hx, h]
    · simp [hx]

end Registry

end TypedSheets
