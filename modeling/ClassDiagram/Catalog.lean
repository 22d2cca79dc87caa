import ClassDiagram.Descriptor

/-!
# Catalogs

A `Catalog` is a table of types by name. A later entry of the same name replaces the earlier one
and keeps its place, so names occur once and the last write counts.
-/

namespace ClassDiagram

/-- Where types come from: what each name stands for, if it stands for anything. -/
abbrev Source := String → Option Descriptor

/-- Puts an entry in the place of the one with the same name, or at the end. The first component is
the entry that it takes the place of. -/
def replaceEntry (t : Descriptor) : List Descriptor → Option Descriptor × List Descriptor
  | [] => (none, [t])
  | e :: es =>
    if e.name = t.name then (some e, t :: es)
    else ((replaceEntry t es).1, e :: (replaceEntry t es).2)

theorem names_replaceEntry (t : Descriptor) (es : List Descriptor) :
    (replaceEntry t es).2.map (·.name) =
      if t.name ∈ es.map (·.name) then es.map (·.name) else es.map (·.name) ++ [t.name] := by
  induction es with
  | nil => simp [replaceEntry]
  | cons e es ih =>
    by_cases h : e.name = t.name
    · simp [replaceEntry, h]
    · have h' : ¬ t.name = e.name := fun hn => h hn.symm
      simp only [replaceEntry, h, if_false, List.map_cons, ih, List.mem_cons, h', false_or]
      split <;> rfl

theorem find?_replaceEntry (t : Descriptor) (name : String) (es : List Descriptor) :
    (replaceEntry t es).2.find? (·.name = name) =
      if t.name = name then some t else es.find? (·.name = name) := by
  induction es with
  | nil => simp [replaceEntry]
  | cons e es ih =>
    by_cases h : e.name = t.name
    · by_cases hn : t.name = name
      · simp [replaceEntry, h, hn]
      · simp [replaceEntry, h, hn]
    · simp only [replaceEntry, h, if_false, List.find?_cons, ih]
      by_cases hn : t.name = name
      · have he : ¬ e.name = name := fun he => h (he.trans hn.symm)
        simp [hn, he]
      · simp [hn]

/-- A table of types, one entry a name. -/
@[ext] structure Catalog where
  entries : List Descriptor := []
  names_nodup : (entries.map (·.name)).Nodup := by simp

namespace Catalog

/-- The catalog without entries. -/
def empty : Catalog := { entries := [], names_nodup := List.nodup_nil }

/-- The entry of a name. -/
def resolve (c : Catalog) : Source := fun name => c.entries.find? (·.name = name)

/-- The number of entries. -/
def size (c : Catalog) : Nat := c.entries.length

/-- Whether there are no entries. -/
def isEmpty (c : Catalog) : Bool := c.entries.isEmpty

/-- The entry that a new one takes the place of, and the catalog with the new one. -/
def replace (c : Catalog) (t : Descriptor) : Option Descriptor × Catalog :=
  ((replaceEntry t c.entries).1,
    { entries := (replaceEntry t c.entries).2
      names_nodup := by
        have hn := c.names_nodup
        rw [names_replaceEntry]
        split
        · exact hn
        · rename_i h
          rw [List.nodup_append]
          exact ⟨hn, by simp, fun a ha b hb hab => h (by simp_all)⟩ })

/-- Adds an entry, in the place of the one with the same name if there is one. -/
def insert (c : Catalog) (t : Descriptor) : Catalog := (c.replace t).2

theorem resolve_insert (c : Catalog) (t : Descriptor) (name : String) :
    (c.insert t).resolve name = if t.name = name then some t else c.resolve name :=
  find?_replaceEntry t name c.entries

theorem resolve_insert_of_ne {c : Catalog} {t : Descriptor} {name : String}
    (h : name ≠ t.name) : (c.insert t).resolve name = c.resolve name := by
  rw [resolve_insert, if_neg (Ne.symm h)]

/-- Adds entries one after another. -/
def insertAll (c : Catalog) (ts : List Descriptor) : Catalog := ts.foldl insert c

/-- The catalog of a list of types, where the last of each name counts. -/
def ofList (ts : List Descriptor) : Catalog := insertAll empty ts

end Catalog

end ClassDiagram
