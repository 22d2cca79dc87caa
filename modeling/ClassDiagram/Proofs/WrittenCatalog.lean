import ClassDiagram.Catalog.Format
import ClassDiagram.Proofs.Json.ReadRecord

/-!
# Written Catalogs

The JSON value of a list of types (`Catalog.json`) has every key of every record, in the order of
declaration. Each layout takes the value of its record for the record, from the fields up to the
whole catalog (`fieldLayout_takes`, …, `fileLayout_takes`), so reading undoes writing: however the
value of a list of types is spelt, decoding gives the list back (`decode_written`). Every list of
types can be written (`exists_written`).
-/

namespace ClassDiagram

open Json

/-! ### The value of a catalog -/

/-- The value of a list of texts. -/
def Json.Value.strings (ws : List String) : Value := .list (ws.map .string)

/-- The value of a kind. -/
def TypeKind.json (k : TypeKind) : Value := .string k.keyword

/-- The value of a modifier. -/
def Modifier.json (m : Modifier) : Value := .string m.word

/-- The value of a field. -/
def Field.json (f : Field) : Value :=
  .record [("name", .string f.name), ("type", .string f.typeName),
    ("modifiers", .list (f.modifiers.map Modifier.json))]

/-- The value of a method. -/
def Method.json (m : Method) : Value :=
  .record [("name", .string m.name), ("parameters", .strings m.parameters),
    ("modifiers", .list (m.modifiers.map Modifier.json))]

/-- The value of a superclass, if there is one. -/
def superclassJson (superclass : Option String) : Value := superclass.elim .null .string

/-- The value of a type. -/
def Descriptor.json (t : Descriptor) : Value :=
  .record [("name", .string t.name), ("kind", t.kind.json),
    ("superclass", superclassJson t.superclass), ("interfaces", .strings t.interfaces),
    ("fields", .list (t.fields.map Field.json)), ("methods", .list (t.methods.map Method.json))]

namespace Catalog

/-- The value of a catalog that lists these types. -/
def json (ts : List Descriptor) : Value := .record [("types", .list (ts.map Descriptor.json))]

/-! ### Every catalog can be written -/

theorem exists_spells_modifiers (modifiers : List Modifier) :
    ∃ t, Spells (.list (modifiers.map Modifier.json)) t := by
  have hword : ∀ m : Modifier, ∃ t, Spells m.json t := fun m => exists_spells_string m.word
  exact exists_spells_map hword modifiers

theorem exists_spells_strings (ws : List String) : ∃ t, Spells (.strings ws) t :=
  exists_spells_map exists_spells_string ws

theorem exists_spells_superclass (superclass : Option String) :
    ∃ t, Spells (superclassJson superclass) t := by
  cases superclass with
  | none => exact ⟨_, .null⟩
  | some w => exact exists_spells_string w

theorem exists_spells_field (f : Field) : ∃ t, Spells f.json t := by
  apply exists_spells_record
  simp only [List.forall_mem_cons]
  exact ⟨exists_spells_string f.name, exists_spells_string f.typeName,
    exists_spells_modifiers f.modifiers, List.forall_mem_nil _⟩

theorem exists_spells_method (m : Method) : ∃ t, Spells m.json t := by
  apply exists_spells_record
  simp only [List.forall_mem_cons]
  exact ⟨exists_spells_string m.name, exists_spells_strings m.parameters,
    exists_spells_modifiers m.modifiers, List.forall_mem_nil _⟩

theorem exists_spells_type (u : Descriptor) : ∃ t, Spells u.json t := by
  apply exists_spells_record
  simp only [List.forall_mem_cons]
  exact ⟨exists_spells_string u.name, exists_spells_string u.kind.keyword,
    exists_spells_superclass u.superclass, exists_spells_strings u.interfaces,
    exists_spells_map exists_spells_field u.fields,
    exists_spells_map exists_spells_method u.methods, List.forall_mem_nil _⟩

/-- Every list of types can be written, whatever characters its names are made of. -/
theorem exists_written (ts : List Descriptor) : ∃ text, Writes (json ts) text := by
  have hts : ∃ t, Spells (json ts) t := by
    apply exists_spells_record
    simp only [List.forall_mem_cons]
    exact ⟨exists_spells_map exists_spells_type ts, List.forall_mem_nil _⟩
  obtain ⟨t, ht⟩ := hts
  exact ⟨_, writes_ofList .nil ht .nil⟩

/-! ### What the readers take -/

theorem kindReader_takes (k : TypeKind) : kindReader.Takes k.json k := by
  apply Reader.takes_choice
  cases k <;> decide

theorem modifierReader_takes (m : Modifier) : modifierReader.Takes m.json m := by
  apply Reader.takes_choice
  cases m <;> decide

theorem superclass_takes (superclass : Option String) :
    Reader.optionalText.Takes (superclassJson superclass) superclass := by
  cases superclass with
  | none => exact Reader.takes_optionalText_null
  | some w => exact Reader.takes_optionalText w

theorem strings_takes (ws : List String) : Reader.text.listOf.Takes (.strings ws) ws :=
  Reader.takes_listOf_map Reader.takes_text ws

theorem fieldLayout_takes (f : Field) : fieldLayout.reader.Takes f.json f := by
  apply Layout.takes_record (by decide)
  apply Layout.Matches.store (Reader.takes_text f.name)
  apply Layout.Matches.store (Reader.takes_text f.typeName)
  apply Layout.Matches.store (Reader.takes_listOf_map modifierReader_takes f.modifiers)
  exact .nil

theorem methodLayout_takes (m : Method) : methodLayout.reader.Takes m.json m := by
  apply Layout.takes_record (by decide)
  apply Layout.Matches.store (Reader.takes_text m.name)
  apply Layout.Matches.store (strings_takes m.parameters)
  apply Layout.Matches.store (Reader.takes_listOf_map modifierReader_takes m.modifiers)
  exact .nil

theorem typeLayout_takes (t : Descriptor) : typeLayout.reader.Takes t.json t := by
  apply Layout.takes_record (by decide)
  apply Layout.Matches.store (Reader.takes_text t.name)
  apply Layout.Matches.store (kindReader_takes t.kind)
  apply Layout.Matches.store (superclass_takes t.superclass)
  apply Layout.Matches.store (strings_takes t.interfaces)
  apply Layout.Matches.store (Reader.takes_listOf_map fieldLayout_takes t.fields)
  apply Layout.Matches.store (Reader.takes_listOf_map methodLayout_takes t.methods)
  exact .nil

theorem fileLayout_takes (ts : List Descriptor) : fileLayout.reader.Takes (json ts) ts := by
  apply Layout.takes_record (by decide)
  apply Layout.Matches.store (Reader.takes_listOf_map typeLayout_takes ts)
  exact .nil

/-- **Reading undoes writing.** Every text that writes a catalog of these types is read as these
types, in their order and with repetitions. So it adds as many to any catalog as it lists, and the
catalog of the text is the one of the list. -/
theorem decode_written {ts : List Descriptor} {text : String} (h : Writes (json ts) text)
    (c : Catalog) :
    decode text = .ok ts ∧ extend c text = (.ok ts.length, c.insertAll ts) ∧
      ofText text = .ok (ofList ts) := by
  have hdecode : decode text = .ok ts := (fileLayout_takes ts).readAll h
  have hextend : ∀ c, extend c text = (.ok ts.length, c.insertAll ts) := by
    intro c
    rw [extend, hdecode]
  refine ⟨hdecode, hextend c, ?_⟩
  rw [ofText, hextend]
  rfl

/-- A type with odd names: they are made of a smiley, a quote, the null character and a slash. -/
def oddity : Descriptor where
  name := "😀\""
  kind := .interfaceType
  interfaces := ["\x00", "/"]
  methods := [{ name := "m", modifiers := [.static] }]

/-- An odd way to write a catalog of the type. -/
def oddText : String :=
  "\n\x7b \"types\" : [\t\x7b\"n\\u0061me\":\"\\uD83d\\uDE00\\\"\",\"kind\":\"interface\"," ++
  "\"superclass\":null,\"interfaces\":[\"\\u0000\" , \"\\/\"],\"fields\":[ ],\"methods\":" ++
  "[\x7b\"name\":\"m\",\"parameters\":[],\"modifiers\":[\"static\"]\x7d]\x7d]\x7d\r"

/-- The text is spelt from the symbols up: first those that are not written as they are, then the
strings, lists and objects around them. -/
theorem writes_oddText : Writes (json [oddity]) oddText := by
  have hzero : HexDigit 0 '0' := by decide
  have hspace : Blank [' '] := by decide
  have htab : Blank ['\t'] := by decide
  have hletter : SpellsSymbol (.char 'a') ['\\', 'u', '0', '0', '6', '1'] :=
    .unit (.digits hzero hzero (show HexDigit 6 '6' by decide) (show HexDigit 1 '1' by decide))
  have hkey : SpellsText (symbols "name") _ :=
    .cons (.raw (c := 'n') (by decide) (by decide) (by decide)) <|
      .cons hletter (show Plain "me" by decide).spellsText
  have hhigh : SpellsUnit 0xD83D ['D', '8', '3', 'd'] :=
    .digits (show HexDigit 13 'D' by decide) (show HexDigit 8 '8' by decide)
      (show HexDigit 3 '3' by decide) (show HexDigit 13 'd' by decide)
  have hlow : SpellsUnit 0xDE00 ['D', 'E', '0', '0'] :=
    .digits (show HexDigit 13 'D' by decide) (show HexDigit 14 'E' by decide) hzero hzero
  have hsmiley : SpellsSymbol (.char '😀') _ :=
    .pair (by decide) (by decide) (by decide) (by decide) (by decide) hhigh hlow
  have hquote : SpellsSymbol (.char '"') ['\\', '"'] := .short (by decide)
  have hslash : SpellsSymbol (.char '/') ['\\', '/'] := .short (by decide)
  have hnull : SpellsSymbol (.char '\x00') ['\\', 'u', '0', '0', '0', '0'] :=
    .unit (.digits hzero hzero hzero hzero)
  have hname : Spells (.string oddity.name) _ := .text (.cons hsmiley (.cons hquote .nil))
  have hinterfaces : Spells (.strings oddity.interfaces) _ :=
    .list (.more .nil (.text (.cons hnull .nil)) hspace
      (.last hspace (.text (.cons hslash .nil)) .nil))
  have hmethod : Spells (Method.json { name := "m", modifiers := [.static] }) _ :=
    .object <|
      .more .nil (Plain.spellsMember (by decide) (Plain.spells (by decide))) .nil <|
      .more .nil (Plain.spellsMember (by decide) (.emptyList .nil)) .nil <|
      .last .nil (Plain.spellsMember (by decide)
        (.list (.last .nil (Plain.spells (by decide)) .nil))) .nil
  have htype : Spells oddity.json _ :=
    .object <|
      .more .nil (.member hkey .nil .nil hname) .nil <|
      .more .nil (Plain.spellsMember (by decide) (Plain.spells (by decide))) .nil <|
      .more .nil (Plain.spellsMember (by decide) .null) .nil <|
      .more .nil (Plain.spellsMember (by decide) hinterfaces) .nil <|
      .more .nil (Plain.spellsMember (by decide) (.emptyList hspace)) .nil <|
      .last .nil (Plain.spellsMember (by decide) (.list (.last .nil hmethod .nil))) .nil
  have hcatalog : Spells (json [oddity]) _ :=
    .object (.last hspace (.member (Plain.spellsText (by decide)) hspace hspace
      (.list (.last htab htype .nil))) .nil)
  have hwrites := writes_ofList (show Blank ['\n'] by decide) hcatalog
    (show Blank ['\r'] by decide)
  refine cast (congrArg (Writes _) ?_) hwrites
  decide +kernel

theorem decode_written_oddity : Writes (json [oddity]) oddText ∧
    decode oddText = .ok [oddity] ∧
      extend (ofList [{ name := "/" }]) oddText =
        (.ok 1, insertAll (ofList [{ name := "/" }]) [oddity]) ∧
      ofText oddText = .ok (ofList [oddity]) :=
  ⟨writes_oddText, decode_written writes_oddText _⟩

end Catalog

end ClassDiagram
