import ClassDiagram.Catalog
import ClassDiagram.Error
import ClassDiagram.Json.Reader

/-!
# The Catalog Format

A catalog text is a JSON record with the single member `types`, a list of type records. The layouts
of the records are `fileLayout`, `typeLayout`, `fieldLayout` and `methodLayout`; only names, and the
type of a field, have to be given. A text whose reading fails adds nothing to a catalog.
-/

namespace ClassDiagram

open Json (Fault Layout Reader)

namespace Catalog

/-- Reads the kind of a type. -/
def kindReader : Reader TypeKind := .choice (TypeKind.all.map fun k => (k.keyword, k))

/-- Reads a modifier. -/
def modifierReader : Reader Modifier := .choice (Modifier.all.map fun m => (m.word, m))

/-- The record of a field. -/
def fieldLayout : Layout Field where
  title := "FieldDescriptor"
  blank := { name := "", typeName := "" }
  slots :=
    [{ key := "name", required := true, value := Reader.text.map fun v f => { f with name := v } },
      { key := "type", required := true
        value := Reader.text.map fun v f => { f with typeName := v } },
      { key := "modifiers", required := false
        value := modifierReader.listOf.map fun v f => { f with modifiers := v } }]

/-- The record of a method. -/
def methodLayout : Layout Method where
  title := "MethodDescriptor"
  blank := { name := "" }
  slots :=
    [{ key := "name", required := true, value := Reader.text.map fun v m => { m with name := v } },
      { key := "parameters", required := false
        value := Reader.text.listOf.map fun v m => { m with parameters := v } },
      { key := "modifiers", required := false
        value := modifierReader.listOf.map fun v m => { m with modifiers := v } }]

/-- The record of a type. -/
def typeLayout : Layout Descriptor where
  title := "TypeDescriptor"
  blank := { name := "" }
  slots :=
    [{ key := "name", required := true, value := Reader.text.map fun v t => { t with name := v } },
      { key := "kind", required := false, value := kindReader.map fun v t => { t with kind := v } },
      { key := "superclass", required := false
        value := Reader.optionalText.map fun v t => { t with superclass := v } },
      { key := "interfaces", required := false
        value := Reader.text.listOf.map fun v t => { t with interfaces := v } },
      { key := "fields", required := false
        value := fieldLayout.reader.listOf.map fun v t => { t with fields := v } },
      { key := "methods", required := false
        value := methodLayout.reader.listOf.map fun v t => { t with methods := v } }]

/-- The record of a whole catalog. -/
def fileLayout : Layout (List Descriptor) where
  title := "CatalogFile"
  blank := []
  slots :=
    [{ key := "types", required := false
       value := typeLayout.reader.listOf.map fun v _ => v }]

/-- The types that a catalog text lists. -/
def decode (text : String) : Except Fault (List Descriptor) := fileLayout.reader.readAll text

/-- Adds the types of a catalog text. The first component is the number of types in the text,
repeated names included, or why it cannot be read. The text is decoded before any of its types is
added. -/
def extend (c : Catalog) (text : String) : Except Error Nat × Catalog :=
  match decode text with
  | .error f => (.error (.catalog f.message), c)
  | .ok ts => (.ok ts.length, c.insertAll ts)

/-- A text that cannot be read adds nothing. -/
theorem snd_extend_of_failed {c : Catalog} {text : String} {e : Error}
    (h : (c.extend text).1 = .error e) : (c.extend text).2 = c := by
  unfold extend at h ⊢
  cases hd : decode text with
  | error f => rfl
  | ok ts =>
    rw [hd] at h
    cases h

/-- The catalog of a text. -/
def ofText (text : String) : Except Error Catalog :=
  let r := extend empty text
  r.1.map fun _ => r.2

end Catalog

end ClassDiagram
