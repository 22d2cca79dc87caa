import ClassDiagram.Proofs.Json.ReadRows
import ClassDiagram.Proofs.WrittenCatalog

/-!
# Forms of Catalogs

The parts of the records of a catalog, and the JSON values that stand for a list of types
(`Catalog.Form`); every list has one (`form_json`). Each layout serves the parts of its record, from
the fields up to the whole catalog, so decoding succeeds exactly on the spellings of the forms
(`decode_eq_ok_iff`).

It follows that only JSON is accepted (`writes_of_accepted`), and that it does not matter in which
order the keys of an object stand, whether a default is written out, and what members of other keys
there are (`decode_plain`).
-/

namespace ClassDiagram

open Json

/-! ### The parts of the records -/

/-- The forms of a kind. -/
def TypeKind.Form (style : Style) (k : TypeKind) : Value → Prop := WordForm style k.keyword

/-- The forms of a modifier. -/
def Modifier.Form (style : Style) (m : Modifier) : Value → Prop := WordForm style m.word

/-- The parts of a field. -/
def Field.parts : List (RecordPart Field) :=
  [{ key := "name", get := Field.name, form := TextForm },
    { key := "type", get := Field.typeName, form := TextForm },
    { key := "modifiers", get := Field.modifiers, form := ListForm Modifier.Form
      default := some [] }]

/-- The parts of a method. -/
def Method.parts : List (RecordPart Method) :=
  [{ key := "name", get := Method.name, form := TextForm },
    { key := "parameters", get := Method.parameters, form := ListForm TextForm
      default := some [] },
    { key := "modifiers", get := Method.modifiers, form := ListForm Modifier.Form
      default := some [] }]

/-- The parts of a type. -/
def Descriptor.parts : List (RecordPart Descriptor) :=
  [{ key := "name", get := Descriptor.name, form := TextForm },
    { key := "kind", get := Descriptor.kind, form := TypeKind.Form, default := some .classType },
    { key := "superclass", get := Descriptor.superclass, form := OptionalTextForm
      default := some none },
    { key := "interfaces", get := Descriptor.interfaces, form := ListForm TextForm
      default := some [] },
    { key := "fields", get := Descriptor.fields, form := ListForm (RecordForm Field.parts)
      default := some [] },
    { key := "methods", get := Descriptor.methods, form := ListForm (RecordForm Method.parts)
      default := some [] }]

namespace Catalog

/-- The parts of a whole catalog. -/
def parts : List (RecordPart (List Descriptor)) :=
  [{ key := "types", get := id, form := ListForm (RecordForm Descriptor.parts)
     default := some [] }]

/-- The forms of a catalog that lists these types. -/
def Form : Style → List Descriptor → Value → Prop := RecordForm parts

/-! ### The mixed style -/

theorem lenient_kind : Lenient TypeKind.Form := lenient_word TypeKind.keyword

theorem lenient_modifiers : Lenient (ListForm Modifier.Form) :=
  Lenient.listOf (lenient_word Modifier.word)

theorem lenient_fieldParts : ∀ p ∈ Field.parts, Lenient p.form := by
  simp only [Field.parts, List.forall_mem_cons]
  exact ⟨lenient_text, lenient_text, lenient_modifiers, List.forall_mem_nil _⟩

theorem lenient_methodParts : ∀ p ∈ Method.parts, Lenient p.form := by
  simp only [Method.parts, List.forall_mem_cons]
  exact ⟨lenient_text, lenient_text.listOf, lenient_modifiers, List.forall_mem_nil _⟩

theorem lenient_typeParts : ∀ p ∈ Descriptor.parts, Lenient p.form := by
  simp only [Descriptor.parts, List.forall_mem_cons]
  exact ⟨lenient_text, lenient_kind, lenient_optionalText, lenient_text.listOf,
    (lenient_record lenient_fieldParts).listOf, (lenient_record lenient_methodParts).listOf,
    List.forall_mem_nil _⟩

theorem lenient_parts : ∀ p ∈ parts, Lenient p.form := by
  simp only [parts, List.forall_mem_cons]
  exact ⟨(lenient_record lenient_typeParts).listOf, List.forall_mem_nil _⟩

/-! ### Every list of types has a form -/

theorem listForm_map {α : Type} {form : Style → α → Value → Prop} {style : Style} {json : α → Value}
    (h : ∀ a, form style a (json a)) (as : List α) :
    ListForm form style as (.list (as.map json)) :=
  ⟨_, rfl, List.forall₂_map_right_iff.mpr (List.forall₂_same.mpr fun a _ => h a)⟩

theorem form_modifiers (style : Style) (modifiers : List Modifier) :
    ListForm Modifier.Form style modifiers (.list (modifiers.map Modifier.json)) :=
  listForm_map (fun _ => .string) modifiers

theorem form_strings (style : Style) (ws : List String) :
    ListForm TextForm style ws (.strings ws) :=
  listForm_map (fun _ => rfl) ws

theorem form_superclass (style : Style) (superclass : Option String) :
    OptionalTextForm style superclass (superclassJson superclass) := by
  cases superclass with
  | none => exact rfl
  | some w => exact rfl

theorem form_field (style : Style) (f : Field) : RecordForm Field.parts style f f.json := by
  have hmodifiers := form_modifiers style f.modifiers
  refine .object ⟨?_, ?_, ?_⟩
  · simpa [Field.parts, RecordPart.Shows, TextForm] using hmodifiers
  · change (List.filter _ ["name", "type", "modifiers"]).Nodup
    decide
  · simp [Field.parts]

theorem form_method (style : Style) (m : Method) : RecordForm Method.parts style m m.json := by
  have hparameters := form_strings style m.parameters
  have hmodifiers := form_modifiers style m.modifiers
  refine .object ⟨?_, ?_, ?_⟩
  · simpa [Method.parts, RecordPart.Shows, TextForm] using ⟨hparameters, hmodifiers⟩
  · change (List.filter _ ["name", "parameters", "modifiers"]).Nodup
    decide
  · simp [Method.parts]

theorem form_type (style : Style) (t : Descriptor) :
    RecordForm Descriptor.parts style t t.json := by
  have hkind : TypeKind.Form style t.kind t.kind.json := .string
  have hsuperclass := form_superclass style t.superclass
  have hinterfaces := form_strings style t.interfaces
  have hfields := listForm_map (form_field style) t.fields
  have hmethods := listForm_map (form_method style) t.methods
  refine .object ⟨?_, ?_, ?_⟩
  · simpa [Descriptor.parts, RecordPart.Shows, TextForm] using
      ⟨hkind, hsuperclass, hinterfaces, hfields, hmethods⟩
  · change (List.filter _
      ["name", "kind", "superclass", "interfaces", "fields", "methods"]).Nodup
    decide
  · simp [Descriptor.parts]

/-- The value with every key in the order of declaration is one of the forms of a catalog. -/
theorem form_json (style : Style) (ts : List Descriptor) : Form style ts (json ts) := by
  have htypes := listForm_map (form_type style) ts
  refine .object ⟨?_, ?_, ?_⟩
  · simpa [parts, RecordPart.Shows] using htypes
  · change (List.filter _ ["types"]).Nodup
    decide
  · simp [parts]

/-! ### What the readers read -/

theorem lookup_words {β : Type} {word : β → String} (hword : ∀ {a b}, word a = word b → a = b)
    (all : List β) (w : String) (a : β) :
    (all.map fun b => (word b, b)).lookup w = some a ↔ a ∈ all ∧ w = word a := by
  induction all with
  | nil => simp
  | cons b all ih =>
    rw [List.map_cons, List.lookup_cons]
    by_cases hw : w = word b
    · subst hw
      simp only [beq_self_eq_true, Option.some.injEq, List.mem_cons]
      constructor
      · rintro rfl
        exact ⟨.inl rfl, rfl⟩
      · rintro ⟨-, h⟩
        exact hword h
    · simp only [beq_eq_false_iff_ne.mpr hw, ih, List.mem_cons]
      constructor
      · rintro ⟨h, rfl⟩
        exact ⟨.inr h, rfl⟩
      · rintro ⟨rfl | h, rfl⟩
        · exact absurd rfl hw
        · exact ⟨h, rfl⟩

theorem kindReader_reads : kindReader.Reads TypeKind.Form := by
  refine Reader.reads_choice fun w k => ?_
  rw [lookup_words TypeKind.keyword_injective, and_iff_right k.mem_all]

theorem modifierReader_reads : modifierReader.Reads Modifier.Form := by
  refine Reader.reads_choice fun w m => ?_
  rw [lookup_words Modifier.word_injective, and_iff_right m.mem_all]

theorem fieldLayout_serves : fieldLayout.Serves Field.parts where
  slots := by
    refine .cons (Slot.serves_map rfl rfl Reader.reads_text ?_) <|
      .cons (Slot.serves_map rfl rfl Reader.reads_text ?_) <|
      .cons (Slot.serves_map rfl rfl modifierReader_reads.listOf ?_) .nil
    all_goals exact fun _ => ⟨fun _ => rfl, by simp [Field.parts]⟩
  nodup := by decide
  blank := by simp [Field.parts, fieldLayout]
  ext := by
    rintro ⟨n, t, m⟩ ⟨n', t', m'⟩ h
    simpa [Field.parts] using h

theorem methodLayout_serves : methodLayout.Serves Method.parts where
  slots := by
    refine .cons (Slot.serves_map rfl rfl Reader.reads_text ?_) <|
      .cons (Slot.serves_map rfl rfl Reader.reads_text.listOf ?_) <|
      .cons (Slot.serves_map rfl rfl modifierReader_reads.listOf ?_) .nil
    all_goals exact fun _ => ⟨fun _ => rfl, by simp [Method.parts]⟩
  nodup := by decide
  blank := by simp [Method.parts, methodLayout]
  ext := by
    rintro ⟨n, p, m⟩ ⟨n', p', m'⟩ h
    simpa [Method.parts] using h

theorem typeLayout_serves : typeLayout.Serves Descriptor.parts where
  slots := by
    refine .cons (Slot.serves_map rfl rfl Reader.reads_text ?_) <|
      .cons (Slot.serves_map rfl rfl kindReader_reads ?_) <|
      .cons (Slot.serves_map rfl rfl Reader.reads_optionalText ?_) <|
      .cons (Slot.serves_map rfl rfl Reader.reads_text.listOf ?_) <|
      .cons (Slot.serves_map rfl rfl fieldLayout_serves.reads.listOf ?_) <|
      .cons (Slot.serves_map rfl rfl methodLayout_serves.reads.listOf ?_) .nil
    all_goals exact fun _ => ⟨fun _ => rfl, by simp [Descriptor.parts]⟩
  nodup := by decide
  blank := by simp [Descriptor.parts, typeLayout]
  ext := by
    rintro ⟨n, k, s, i, f, m⟩ ⟨n', k', s', i', f', m'⟩ h
    simpa [Descriptor.parts] using h

theorem fileLayout_serves : fileLayout.Serves parts where
  slots := by
    refine .cons (Slot.serves_map rfl rfl typeLayout_serves.reads.listOf ?_) .nil
    exact fun _ => ⟨fun _ => rfl, by simp [parts]⟩
  nodup := by decide
  blank := by simp [parts, fileLayout]
  ext := by simp [parts]

/-! ### Decoding -/

/-- Decoding succeeds on the texts that write a form of a catalog, and on no other text. -/
theorem decode_eq_ok_iff {text : String} {ts : List Descriptor} :
    decode text = .ok ts ↔ ∃ v, Form .mixed ts v ∧ Writes v text :=
  fileLayout_serves.reads.readAll_eq_ok_iff

theorem decode_of_form {style : Style} {ts : List Descriptor} {v : Value} {text : String}
    (hv : Form style ts v) (ht : Writes v text) : decode text = .ok ts :=
  (fileLayout_serves.reads.takes hv).readAll ht

theorem extend_of_decode {text : String} {ts : List Descriptor} (h : decode text = .ok ts)
    (c : Catalog) : extend c text = (.ok ts.length, c.insertAll ts) := by
  rw [extend, h]

theorem ofText_of_decode {text : String} {ts : List Descriptor} (h : decode text = .ok ts) :
    ofText text = .ok (ofList ts) := by
  rw [ofText, extend_of_decode h]
  rfl

theorem extend_of_fault {text : String} {f : Fault} (h : decode text = .error f) (c : Catalog) :
    extend c text = (.error (.catalog f.message), c) := by
  rw [extend, h]

theorem exists_decode_of_extend {c : Catalog} {text : String} {n : Nat}
    (h : (extend c text).1 = .ok n) : ∃ ts, decode text = .ok ts := by
  cases hd : decode text with
  | ok ts => exact ⟨ts, rfl⟩
  | error f =>
    rw [extend_of_fault hd] at h
    cases h

theorem exists_decode_of_ofText {c : Catalog} {text : String} (h : ofText text = .ok c) :
    ∃ ts, decode text = .ok ts := by
  cases hextend : (extend empty text).1 with
  | ok n => exact exists_decode_of_extend hextend
  | error e =>
    rw [ofText, hextend] at h
    cases h

/-- **Only JSON is accepted.** A text from which types can be read is one object or one list in the
notation, from its first character to its last, up to blanks around it. This goes for the values of
unknown keys as well, since they are part of the object. -/
theorem writes_of_accepted {text : String}
    (h : (∃ c n, (extend c text).1 = .ok n) ∨ ∃ c, ofText text = .ok c) :
    ∃ v, Writes v text ∧ ((∃ ms, v = .object ms) ∨ ∃ vs, v = .list vs) := by
  obtain ⟨ts, hdecode⟩ : ∃ ts, decode text = .ok ts := by
    rcases h with ⟨c, n, hextend⟩ | ⟨c, hofText⟩
    · exact exists_decode_of_extend hextend
    · exact exists_decode_of_ofText hofText
  obtain ⟨v, hform, hwrites⟩ := decode_eq_ok_iff.mp hdecode
  cases hform with
  | object => exact ⟨_, hwrites, .inl ⟨_, rfl⟩⟩
  | row => exact ⟨_, hwrites, .inr ⟨_, rfl⟩⟩

/-- **Key order, unknown keys and written-out defaults do not matter.** In each of its objects, a
text may have the known keys in any order, may leave out those that have their defaults, and may
have members of any other keys, repeated or not, with any values whatsoever. The keys themselves are
texts, as those of a `Json.Value.record` are; what the values hold need not be. -/
theorem decode_plain {ts : List Descriptor} {v : Value} {text : String} (hv : Form .plain ts v)
    (ht : Writes v text) (c : Catalog) :
    decode text = .ok ts ∧ extend c text = (.ok ts.length, c.insertAll ts) ∧
      ofText text = .ok (ofList ts) := by
  have hdecode : decode text = .ok ts := decode_of_form hv ht
  exact ⟨hdecode, extend_of_decode hdecode c, ofText_of_decode hdecode⟩

/-- A type with a method. -/
def scrambledTypes : List Descriptor := [{ name := "A", methods := [{ name := "m" }] }]

/-- The members of the method: modifiers that need not be written out, an unknown key with a large
number inside, and the name at the end. -/
def scrambledMethod : List (String × Value) :=
  [("modifiers", .list []),
    ("y", .record [("z", .number ['-', '0', '.', '5', 'E', '9', '9', '9'])]),
    ("name", .string "m")]

/-- The members of the type: the methods in front of the name, and an unknown key twice, once with a
lone surrogate. -/
def scrambledType : List (String × Value) :=
  [("methods", .list [.record scrambledMethod]), ("x", .null), ("name", .string "A"),
    ("x", .list [.list [], .text [.half 0xD800]])]

/-- A catalog of the type with unknown members on both sides. -/
def scrambled : Value :=
  .record [("x", .boolean true), ("types", .list [.record scrambledType]), ("x", .null)]

def scrambledText : String :=
  "\x7b\"x\":true,\"types\":[\x7b\"methods\":[\x7b\"modifiers\":[],\"y\":" ++
  "\x7b\"z\":-0.5E999\x7d,\"name\":\"m\"\x7d],\"x\":null,\"name\":\"A\",\"x\":" ++
  "[[],\"\\ud800\"]\x7d],\"x\":null\x7d"

theorem form_scrambled : Form .plain scrambledTypes scrambled := by
  have hmethod : ObjectForm Method.parts .plain { name := "m" } scrambledMethod := by
    refine ⟨?_, by decide, ?_⟩
    · simp [Method.parts, scrambledMethod, RecordPart.Shows, TextForm, ListForm]
    · simp [Method.parts, scrambledMethod, RecordPart.Omissible]
  have hmethods : ListForm (RecordForm Method.parts) .plain [{ name := "m" }]
      (.list [.record scrambledMethod]) := ⟨_, rfl, .cons (.object hmethod) .nil⟩
  have htype : ObjectForm Descriptor.parts .plain { name := "A", methods := [{ name := "m" }] }
      scrambledType := by
    refine ⟨?_, by decide, ?_⟩
    · simpa [Descriptor.parts, scrambledType, RecordPart.Shows, TextForm] using hmethods
    · simp [Descriptor.parts, scrambledType, RecordPart.Omissible]
  have htypes : ListForm (RecordForm Descriptor.parts) .plain scrambledTypes
      (.list [.record scrambledType]) := ⟨_, rfl, .cons (.object htype) .nil⟩
  refine .object ⟨?_, by decide, ?_⟩
  · simpa [parts, RecordPart.Shows] using htypes
  · simp [parts]

theorem spells_half : SpellsSymbol (.half 0xD800) ['\\', 'u', 'd', '8', '0', '0'] :=
  .half (by decide) (by decide) <|
    .digits (show HexDigit 13 'd' by decide) (show HexDigit 8 '8' by decide)
      (show HexDigit 0 '0' by decide) (show HexDigit 0 '0' by decide)

set_option maxRecDepth 2000 in
theorem writes_scrambledText : Writes scrambled scrambledText := by
  have hnumber : Spells (.number ['-', '0', '.', '5', 'E', '9', '9', '9']) _ :=
    .number (@SpellsNumber.parts ['-'] ['0'] ['.', '5'] ['E', '9', '9', '9'] (by decide)
      (.inl rfl) (.inr ⟨['5'], ⟨by simp, by simp⟩, rfl⟩)
      (.inr ⟨'E', by decide, [], by decide, ['9', '9', '9'], ⟨by simp, by simp⟩, rfl⟩))
  have hmethod : Spells (.record scrambledMethod) _ :=
    .object <|
      .more .nil (Plain.spellsMember (by decide) (.emptyList .nil)) .nil <|
      .more .nil (Plain.spellsMember (by decide)
        (.object (.last .nil (Plain.spellsMember (by decide) hnumber) .nil))) .nil <|
      .last .nil (Plain.spellsMember (by decide) (Plain.spells (by decide))) .nil
  have hlist : Spells (.list [.list [], .text [.half 0xD800]]) _ :=
    .list (.more .nil (.emptyList .nil) .nil
      (.last .nil (.text (.cons spells_half .nil)) .nil))
  have htype : Spells (.record scrambledType) _ :=
    .object <|
      .more .nil (Plain.spellsMember (by decide) (.list (.last .nil hmethod .nil))) .nil <|
      .more .nil (Plain.spellsMember (by decide) .null) .nil <|
      .more .nil (Plain.spellsMember (by decide) (Plain.spells (by decide))) .nil <|
      .last .nil (Plain.spellsMember (by decide) hlist) .nil
  have hcatalog : Spells scrambled _ :=
    .object <|
      .more .nil (Plain.spellsMember (by decide) .true) .nil <|
      .more .nil (Plain.spellsMember (by decide) (.list (.last .nil htype .nil))) .nil <|
      .last .nil (Plain.spellsMember (by decide) .null) .nil
  have hwrites := writes_ofList .nil hcatalog .nil
  refine cast (congrArg (Writes _) ?_) hwrites
  decide

theorem decode_scrambledText : decode scrambledText = .ok scrambledTypes :=
  decode_of_form form_scrambled writes_scrambledText

theorem decode_plain_scrambled :
    Form .plain scrambledTypes scrambled ∧ Writes scrambled scrambledText ∧
      decode scrambledText = .ok scrambledTypes ∧
      extend empty scrambledText = (.ok 1, empty.insertAll scrambledTypes) ∧
      ofText scrambledText = .ok (ofList scrambledTypes) :=
  ⟨form_scrambled, writes_scrambledText, decode_plain form_scrambled writes_scrambledText empty⟩

theorem writes_of_accepted_scrambled :
    extend empty scrambledText = (.ok 1, empty.insertAll scrambledTypes) ∧
    ∃ v, Writes v scrambledText ∧ ((∃ ms, v = .object ms) ∨ ∃ vs, v = .list vs) := by
  have hextend := extend_of_decode decode_scrambledText empty
  exact ⟨hextend, writes_of_accepted (.inl ⟨empty, 1, congrArg Prod.fst hextend⟩)⟩

/-- A catalog without types, but with a key that is no text: a surrogate stands alone in it. -/
def halfKeyedText : String := "\x7b\"\\ud800\":null,\"types\":[]\x7d"

theorem writes_halfKeyedText :
    Writes (.object [([.half 0xD800], .null), (symbols "types", .list [])]) halfKeyedText := by
  have hkey : SpellsText [.half 0xD800] _ := .cons spells_half .nil
  have hcatalog : Spells (.object [([.half 0xD800], .null), (symbols "types", .list [])]) _ :=
    .object <|
      .more .nil (.member hkey .nil .nil .null) .nil <|
      .last .nil (Plain.spellsMember (by decide) (.emptyList .nil)) .nil
  have hwrites := writes_ofList .nil hcatalog .nil
  refine cast (congrArg (Writes _) ?_) hwrites
  decide

/-- A key that is no text is refused, although it is none of the known keys, the rest is in order,
and the value of an unknown key may be such a string. -/
theorem decode_halfKeyed :
    (∀ w, symbols w ≠ [.half 0xD800]) ∧ Form .plain [] (.record [("types", .list [])]) ∧
      Writes (.object [([.half 0xD800], .null), (symbols "types", .list [])]) halfKeyedText ∧
      decode halfKeyedText = .error .unfinishedSurrogate := by
  refine ⟨?_, .object ⟨?_, by decide, ?_⟩, writes_halfKeyedText, ?_⟩
  · intro w h
    obtain ⟨c, -, hc⟩ := List.map_eq_singleton_iff.mp h
    cases hc
  · simp [parts, RecordPart.Shows, ListForm]
  · simp [parts]
  · have hmember : ∀ d s, fileLayout.readMember d ('\\' :: "ud800\"".toList ++ s) =
        .error .unfinishedSurrogate := by
      intro d s
      rw [Layout.readMember, List.cons_append, readText_fault rfl]
    have htext : halfKeyedText.toList =
        '{' :: ([] ++ ([] ++ '"' :: ('\\' :: "ud800\"".toList ++
          ":null,\"types\":[]\x7d".toList))) := by decide
    have hread : fileLayout.reader.read halfKeyedText.toList = .error .unfinishedSurrogate := by
      rw [htext]
      exact Layout.readMembers_fault (hmember _ _) .first .nil
    rw [decode, Reader.readAll, hread]

end Catalog

end ClassDiagram
