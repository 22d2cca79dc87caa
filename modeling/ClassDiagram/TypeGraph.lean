import ClassDiagram.Descriptor

/-!
# The Types of a Diagram

A `TypeGraph` is the list of types that a diagram shows, in the order in which they were first
reached. No two of them have the same name: a type whose name is already there is not added again
and the first one keeps its place.
-/

namespace ClassDiagram

/-- Types in the order of their arrival, told apart by their names. -/
@[ext] structure TypeGraph where
  types : List Descriptor := []
  names_nodup : (types.map (·.name)).Nodup := by simp

namespace TypeGraph

/-- The graph without types. -/
def empty : TypeGraph := { types := [], names_nodup := List.nodup_nil }

/-- The names of the types, in order. -/
def names (g : TypeGraph) : List String := g.types.map (·.name)

/-- Whether a type of this name is there. -/
def contains (g : TypeGraph) (name : String) : Bool := g.types.any (·.name = name)

/-- The number of types. -/
def size (g : TypeGraph) : Nat := g.types.length

/-- Whether there are no types. -/
def isEmpty (g : TypeGraph) : Bool := g.types.isEmpty

theorem contains_iff {g : TypeGraph} {name : String} : g.contains name ↔ name ∈ g.names := by
  simp [contains, names]

/-- Adds a type at the end, unless its name is already there. -/
def insert (g : TypeGraph) (t : Descriptor) : TypeGraph :=
  if h : g.contains t.name then g
  else
    { types := g.types ++ [t]
      names_nodup := by
        rw [contains_iff] at h
        simp only [List.map_append, List.map_cons, List.map_nil, List.nodup_append]
        exact ⟨g.names_nodup, by simp, fun a ha b hb hab => h (by simp_all [names])⟩ }

/-! ### What insertion does -/

theorem types_insert (g : TypeGraph) (t : Descriptor) :
    (g.insert t).types = if t.name ∈ g.names then g.types else g.types ++ [t] := by
  simp only [insert, ← contains_iff]
  split <;> rfl

theorem names_insert (g : TypeGraph) (t : Descriptor) :
    (g.insert t).names = if t.name ∈ g.names then g.names else g.names ++ [t.name] := by
  by_cases h : t.name ∈ g.names
  · rw [names, types_insert, if_pos h, if_pos h, names]
  · rw [names, types_insert, if_neg h, if_neg h, names, List.map_append, List.map_singleton]

theorem insert_of_mem {g : TypeGraph} {t : Descriptor} (h : t.name ∈ g.names) :
    g.insert t = g :=
  TypeGraph.ext (by rw [types_insert, if_pos h])

end TypeGraph

end ClassDiagram
