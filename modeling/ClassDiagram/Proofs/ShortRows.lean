import ClassDiagram.Proofs.CatalogForm
import ClassDiagram.Proofs.Json.Break

/-!
# Rows in Catalogs

Any record of a catalog text may be a row and any word the only key of an object, in every mixture:
the text says the same as if it were written in objects and strings alone. A row that does not reach
the parts that have to be given is refused, with its length and the length that it may have, as soon
as the reader comes to it (`decode_mixed`).
-/

namespace ClassDiagram

open Json

/-- A type that is a short row, or has a field or a method that is one. -/
def Descriptor.ShortRows : Breaks :=
  RecordBreaks Descriptor.parts (ShortRow "TypeDescriptor" Descriptor.parts 1) fun key =>
    if key = "fields" then
      ListBreaks (RecordForm Field.parts) (ShortRow "FieldDescriptor" Field.parts 2)
    else if key = "methods" then
      ListBreaks (RecordForm Method.parts) (ShortRow "MethodDescriptor" Method.parts 1)
    else fun _ _ => False

namespace Catalog

/-- A catalog with a type in it that is a short row or has one in it. -/
def ShortRows : Breaks :=
  RecordBreaks parts (fun _ _ => False) fun _ =>
    ListBreaks (RecordForm Descriptor.parts) Descriptor.ShortRows

theorem fieldLayout_stops :
    fieldLayout.reader.Stops (ShortRow "FieldDescriptor" Field.parts 2) :=
  fieldLayout_serves.stops_shortRow (by decide) (by simp [Field.parts])

theorem methodLayout_stops :
    methodLayout.reader.Stops (ShortRow "MethodDescriptor" Method.parts 1) :=
  methodLayout_serves.stops_shortRow (by decide) (by simp [Method.parts])

theorem typeLayout_stops : typeLayout.reader.Stops Descriptor.ShortRows := by
  have hown : typeLayout.reader.Stops (ShortRow "TypeDescriptor" Descriptor.parts 1) :=
    typeLayout_serves.stops_shortRow (by decide) (by simp [Descriptor.parts])
  have hfields := fieldLayout_stops.listOf fieldLayout_serves.reads
  have hmethods := methodLayout_stops.listOf methodLayout_serves.reads
  refine typeLayout_serves.stops hown ?_
  simp only [typeLayout, List.forall_mem_cons]
  exact ⟨Reader.stops_nowhere _, Reader.stops_nowhere _, Reader.stops_nowhere _,
    Reader.stops_nowhere _, hfields.map _, hmethods.map _, List.forall_mem_nil _⟩

theorem fileLayout_stops : fileLayout.reader.Stops ShortRows := by
  refine fileLayout_serves.stops (Reader.stops_nowhere _) ?_
  simp only [fileLayout, List.forall_mem_cons]
  exact ⟨(typeLayout_stops.listOf typeLayout_serves.reads).map _, List.forall_mem_nil _⟩

theorem decode_of_shortRow {text : String} {b t rest : List Char} {f : Fault}
    (htext : text.toList = b ++ t ++ rest) (hb : Blank b) (ht : ShortRows t f) :
    decode text = .error f := by
  rw [decode, Reader.readAll, htext, fileLayout_stops.fails ht hb]

/-- **Rows and objects say the same.** A text of any mixture of the two is read as the types that it
stands for. If a row is too short, the text is refused, whatever follows the row. -/
theorem decode_mixed (c : Catalog) :
    (∀ ts v text, Form .mixed ts v → Writes v text →
      decode text = .ok ts ∧ extend c text = (.ok ts.length, c.insertAll ts) ∧
        ofText text = .ok (ofList ts)) ∧
    ∀ text b t rest n title k, text.toList = b ++ t ++ rest → Blank b →
      ShortRows t (.invalidLength n title k) →
        ∃ fault, fault = "invalid length " ++ toString n ++ ", expected struct " ++ title ++
            " with " ++ toString k ++ " elements" ∧
          extend c text = (.error (.catalog fault), c) ∧
          ofText text = .error (.catalog fault) := by
  constructor
  · intro ts v text hv ht
    have hdecode : decode text = .ok ts := decode_of_form hv ht
    exact ⟨hdecode, extend_of_decode hdecode c, ofText_of_decode hdecode⟩
  · intro text b t rest n title k htext hb ht
    have hdecode := decode_of_shortRow htext hb ht
    refine ⟨_, rfl, extend_of_fault hdecode c, ?_⟩
    rw [ofText, extend_of_fault hdecode]
    rfl

/-- Two types, the second of them without anything to say but its name. -/
def rowTypes : List Descriptor :=
  [{ name := "A", kind := .interfaceType, fields := [{ name := "f", typeName := "int" }]
     methods := [{ name := "m", modifiers := [.static] }] }, { name := "B" }]

/-- The catalog of the types in rows, but for the field and the kind, and with most rows cut off. -/
def rows : Value :=
  .list [.list [
    .list [.string "A", .record [("interface", .null)], .null, .list [],
      .list [.record [("type", .string "int"), ("name", .string "f")]],
      .list [.list [.string "m", .list [], .list [.string "static"]]]],
    .list [.string "B"]]]

def rowsText : String :=
  "[[[\"A\",\x7b\"interface\":null\x7d,null,[],[\x7b\"type\":\"int\",\"name\":\"f\"\x7d]," ++
  "[[\"m\",[],[\"static\"]]]],[\"B\"]]]"

theorem form_rows : Form .mixed rowTypes rows := by
  have hfield : ObjectForm Field.parts .mixed { name := "f", typeName := "int" }
      [("type", .string "int"), ("name", .string "f")] := by
    refine ⟨?_, by decide, ?_⟩
    · simp [Field.parts, RecordPart.Shows, TextForm]
    · simp [Field.parts, RecordPart.Omissible]
  have hmethod : RowForm { name := "m", modifiers := [.static] } Method.parts
      [.string "m", .list [], .list [.string "static"]] :=
    .cons rfl <| .cons ⟨[], rfl, .nil⟩ <| .cons ⟨_, rfl, .cons .string .nil⟩ <| .cut (by simp)
  have hA : RowForm rowTypes[0] Descriptor.parts _ :=
    .cons rfl <| .cons .object <| .cons rfl <| .cons ⟨[], rfl, .nil⟩ <|
      .cons ⟨_, rfl, .cons (.object hfield) .nil⟩ <| .cons ⟨_, rfl, .cons (.row hmethod) .nil⟩ <|
      .cut (by simp)
  have hB : RowForm rowTypes[1] Descriptor.parts [.string "B"] :=
    .cons rfl <| .cut (by simp [RecordPart.Omissible, rowTypes])
  exact .row <| .cons ⟨_, rfl, .cons (.row hA) (.cons (.row hB) .nil)⟩ <| .cut (by simp)

set_option maxRecDepth 2000 in
theorem writes_rowsText : Writes rows rowsText := by
  have hkind : Spells (.record [("interface", .null)]) _ :=
    .object (.last .nil (Plain.spellsMember (by decide) .null) .nil)
  have hfield : Spells (.record [("type", .string "int"), ("name", .string "f")]) _ :=
    .object <|
      .more .nil (Plain.spellsMember (by decide) (Plain.spells (by decide))) .nil <|
      .last .nil (Plain.spellsMember (by decide) (Plain.spells (by decide))) .nil
  have hmethod : Spells (.list [.string "m", .list [], .list [.string "static"]]) _ :=
    .list <|
      .more .nil (Plain.spells (by decide)) .nil <| .more .nil (.emptyList .nil) .nil <|
      .last .nil (.list (.last .nil (Plain.spells (by decide)) .nil)) .nil
  have hA : Spells (.list [.string "A", _, .null, .list [], .list [_], .list [_]]) _ :=
    .list <|
      .more .nil (Plain.spells (by decide)) .nil <| .more .nil hkind .nil <|
      .more .nil .null .nil <| .more .nil (.emptyList .nil) .nil <|
      .more .nil (.list (.last .nil hfield .nil)) .nil <|
      .last .nil (.list (.last .nil hmethod .nil)) .nil
  have hB : Spells (.list [.string "B"]) _ := .list (.last .nil (Plain.spells (by decide)) .nil)
  have hcatalog : Spells rows _ :=
    .list (.last .nil (.list (.more .nil hA .nil (.last .nil hB .nil))) .nil)
  have hwrites := writes_ofList .nil hcatalog .nil
  refine cast (congrArg (Writes _) ?_) hwrites
  decide

/-- The second of two types has a field without a type, and the text goes on as it likes. -/
def shortText : String := "\x7b\"types\":[[\"A\"],\x7b\"fields\":[[\"f\"]?"

theorem shortRows_shortText :
    ∃ t, ShortRows t (.invalidLength 1 "FieldDescriptor" 3) ∧
      shortText.toList = [] ++ t ++ ['?'] := by
  have hrow : Spells (.list [.string "f"]) _ := .list (.last .nil (Plain.spells (by decide)) .nil)
  have hfield : ShortRow "FieldDescriptor" Field.parts 2 _ (.invalidLength 1 "FieldDescriptor" 3) :=
    .row (by decide) (.cons ⟨"f", rfl⟩ .nil) hrow
  have hlist : ListBreaks (RecordForm Field.parts) (ShortRow "FieldDescriptor" Field.parts 2) _ _ :=
    .element .nil (.nil .first) .nil hfield
  have hB : Descriptor.ShortRows _ _ :=
    .object (p := Descriptor.parts[4]) objectStart_nil (.nil .first) .nil (List.getElem_mem _)
      List.not_mem_nil (show Plain "fields" by decide).spellsText .nil .nil hlist
  have hA : RecordForm Descriptor.parts .mixed { name := "A" } (.list [.string "A"]) :=
    .row <| .cons rfl <| .cut (by simp [RecordPart.Omissible])
  have hspells : Spells (.list [.string "A"]) _ :=
    .list (.last .nil (Plain.spells (by decide)) .nil)
  have hstart : Begun Spells true [.list [.string "A"]] _ :=
    .cons .first .nil hspells (.nil (.next .nil))
  have htypes : ShortRows _ _ :=
    .object (p := parts[0]) objectStart_nil (.nil .first) .nil (List.getElem_mem _)
      List.not_mem_nil (show Plain "types" by decide).spellsText .nil .nil
      (.element (.cons hA .nil) hstart .nil hB)
  exact ⟨_, htypes, by decide⟩

theorem decode_mixed_rows :
    Form .mixed rowTypes rows ∧ Writes rows rowsText ∧
      extend (ofList rowTypes) rowsText = (.ok 2, insertAll (ofList rowTypes) rowTypes) ∧
      (∃ t, ShortRows t (.invalidLength 1 "FieldDescriptor" 3) ∧
        shortText.toList = [] ++ t ++ ['?']) ∧
      extend (ofList rowTypes) shortText =
        (.error (.catalog "invalid length 1, expected struct FieldDescriptor with 3 elements"),
          ofList rowTypes) := by
  refine ⟨form_rows, writes_rowsText, ?_, shortRows_shortText, ?_⟩
  · exact ((decode_mixed (ofList rowTypes)).1 _ _ _ form_rows writes_rowsText).2.1
  · obtain ⟨t, ht, htext⟩ := shortRows_shortText
    obtain ⟨fault, rfl, hextend, -⟩ :=
      (decode_mixed (ofList rowTypes)).2 shortText [] t ['?'] 1 _ 3 htext .nil ht
    exact hextend

end Catalog

end ClassDiagram
