import ClassDiagram.Proofs.CatalogHistory
import ClassDiagram.Proofs.Json.KeyFault

/-!
# Faulty Keys in Catalogs

A catalog text is made of objects of four sorts (`RecordSort`), and each of them stands in its place
between the text in front of it and the text behind it (`ObjectIn`); every object that there is in
the value has such a place (`HasObject.exists_objectIn`). The places are found from the outside in:
within an object, the members and elements in front of the inner one are in order, so the reader
gets past them and comes to it as if nothing had been before (`RecordSort.Lists.within`). This holds
at every depth (`ObjectIn.fails`), so that a fault in the keys of an object is the fault of the
whole text (`step_faultyKeys`).
-/

namespace ClassDiagram

open Json

/-! ### Sorts of objects -/

/-- The sorts of objects in a catalog text. -/
inductive RecordSort
  | catalog
  | type
  | field
  | method

namespace RecordSort

/-- What an object of the sort stands for. -/
abbrev Held : RecordSort → Type
  | catalog => List Descriptor
  | type => Descriptor
  | field => Field
  | method => Method

/-- The known keys, in the order of declaration. -/
def keys : RecordSort → List String
  | catalog => ["types"]
  | type => ["name", "kind", "superclass", "interfaces", "fields", "methods"]
  | field => ["name", "type", "modifiers"]
  | method => ["name", "parameters", "modifiers"]

/-- The keys without a default, in the order of declaration. -/
def required : RecordSort → List String
  | catalog => []
  | type => ["name"]
  | field => ["name", "type"]
  | method => ["name"]

/-- The objects of the one sort list objects of the other under the key. -/
inductive Lists : RecordSort → String → RecordSort → Prop
  | types : Lists catalog "types" type
  | fields : Lists type "fields" field
  | methods : Lists type "methods" method

def parts : (sort : RecordSort) → List (RecordPart sort.Held)
  | catalog => Catalog.parts
  | type => Descriptor.parts
  | field => Field.parts
  | method => Method.parts

def layout : (sort : RecordSort) → Layout sort.Held
  | catalog => Catalog.fileLayout
  | type => Catalog.typeLayout
  | field => Catalog.fieldLayout
  | method => Catalog.methodLayout

theorem keys_parts (sort : RecordSort) : Json.keys sort.parts = sort.keys := by
  cases sort with
  | _ => rfl

theorem requiredKeys_parts (sort : RecordSort) : requiredKeys sort.parts = sort.required := by
  cases sort with
  | _ => rfl

theorem serves (sort : RecordSort) : sort.layout.Serves sort.parts := by
  cases sort with
  | catalog => exact Catalog.fileLayout_serves
  | type => exact Catalog.typeLayout_serves
  | field => exact Catalog.fieldLayout_serves
  | method => exact Catalog.methodLayout_serves

theorem lenient (sort : RecordSort) : ∀ p ∈ sort.parts, Lenient p.form := by
  cases sort with
  | catalog => exact Catalog.lenient_parts
  | type => exact Catalog.lenient_typeParts
  | field => exact Catalog.lenient_fieldParts
  | method => exact Catalog.lenient_methodParts

end RecordSort

/-! ### Places in a text -/

/-- The text of an object from its opening brace up to an element of one of its lists: the members
in front, the key of the list, and the elements in front. -/
inductive UpTo (ms : List (String × Value)) (key : String) (vs : List Value) : List Char → Prop
  | element {front b k b' b'' front' b₃ : List Char} :
      Begun (SpellsMember Spells) true (ms.map fun m => (symbols m.1, m.2)) front → Blank b →
        SpellsText (symbols key) k → Blank b' → Blank b'' → Begun Spells true vs front' →
        Blank b₃ →
        UpTo ms key vs ('{' :: (front ++ (b ++ '"' :: (k ++ '"' ::
          (b' ++ ':' :: (b'' ++ '[' :: (front' ++ b₃)))))))

/-- The text of the value has an object of the sort with these members. The text consists of what
stands before it, its own text, and what stands after it. -/
inductive ObjectIn (v : Value) (text : String) :
    RecordSort → List (String × Value) → List Char → List Char → List Char → Prop
  | whole {ms : List (String × Value)} {b t b' : List Char} :
      v = .record ms → Blank b → Spells (.record ms) t → Blank b' → text.toList = b ++ t ++ b' →
        ObjectIn v text .catalog ms b t b'
  | listed {outer inner : RecordSort} {key : String} {ms₁ ms₂ ms : List (String × Value)}
      {vs₁ vs₂ : List Value} {before object after front t back : List Char} :
      outer.Lists key inner →
        ObjectIn v text outer (ms₁ ++ (key, .list (vs₁ ++ .record ms :: vs₂)) :: ms₂) before object
          after →
        UpTo ms₁ key vs₁ front → Spells (.record ms) t → object = front ++ t ++ back →
        ObjectIn v text inner ms (before ++ front) t (back ++ after)

theorem ObjectIn.spells {v : Value} {text : String} {sort : RecordSort}
    {ms : List (String × Value)} {before object after : List Char}
    (h : ObjectIn v text sort ms before object after) :
    Spells (.record ms) object ∧ text.toList = before ++ object ++ after := by
  induction h with
  | whole _ _ ht _ htext => exact ⟨ht, htext⟩
  | listed _ _ _ ht hobject ih => exact ⟨ht, by simp [ih.2, hobject]⟩

/-- The value has an object of the sort with these members. -/
inductive HasObject (v : Value) : RecordSort → List (String × Value) → Prop
  | whole {ms : List (String × Value)} : v = .record ms → HasObject v .catalog ms
  | listed {outer inner : RecordSort} {key : String} {ms₁ ms₂ ms : List (String × Value)}
      {vs₁ vs₂ : List Value} :
      outer.Lists key inner →
        HasObject v outer (ms₁ ++ (key, .list (vs₁ ++ .record ms :: vs₂)) :: ms₂) →
        HasObject v inner ms

/-- The text of an object with a list can be cut at every element of the list. -/
theorem exists_upTo {ms₁ ms₂ : List (String × Value)} {key : String} {vs₁ vs₂ : List Value}
    {v : Value} {t : List Char}
    (h : Spells (.record (ms₁ ++ (key, .list (vs₁ ++ v :: vs₂)) :: ms₂)) t) :
    ∃ front u back, UpTo ms₁ key vs₁ front ∧ Spells v u ∧ t = front ++ u ++ back := by
  rw [Value.record, List.map_append, List.map_cons] at h
  obtain ⟨s, rfl, hs⟩ := rest_of_spells_object h
  obtain ⟨front, b, m, back, hfront, hb, hm, rfl⟩ := hs.begun
  cases hm with
  | @member _ _ k b' b'' t hk hb' hb'' ht =>
    obtain ⟨s, rfl, hvs⟩ := rest_of_spells_list ht
    obtain ⟨front', b₃, u, back', hfront', hb₃, hu, rfl⟩ := hvs.begun
    exact ⟨_, u, back' ++ back, .element hfront hb hk hb' hb'' hfront' hb₃, hu, by simp⟩

/-- Every object of a value has its place in every text of the value. -/
theorem HasObject.exists_objectIn {v : Value} {sort : RecordSort} {ms : List (String × Value)}
    (h : HasObject v sort ms) {text : String} (ht : Writes v text) :
    ∃ before object after, ObjectIn v text sort ms before object after := by
  induction h with
  | whole he =>
    subst he
    obtain ⟨b, t, b', hb, ht, hb', htext⟩ := ht
    exact ⟨b, t, b', .whole rfl hb ht hb' htext⟩
  | listed hl _ ih =>
    obtain ⟨before, object, after, houter⟩ := ih
    obtain ⟨front, u, back, hfront, hu, hobject⟩ := exists_upTo houter.spells.1
    exact ⟨_, u, _, .listed hl houter hfront hu hobject⟩

/-! ### The way to an object -/

namespace RecordSort

variable {outer inner : RecordSort} {key : String}

/-- The list is one of the parts of the outer object. -/
theorem Lists.part (h : Lists outer key inner) :
    ∃ p ∈ outer.parts, p.key = key ∧ ∀ {style : Style} {a : outer.Held} {v : Value},
      p.Shows style a v → ∃ as, ListForm (RecordForm inner.parts) style as v := by
  cases h with
  | types => exact ⟨Catalog.parts[0], List.getElem_mem _, rfl, fun h => ⟨_, h⟩⟩
  | fields => exact ⟨Descriptor.parts[4], List.getElem_mem _, rfl, fun h => ⟨_, h⟩⟩
  | methods => exact ⟨Descriptor.parts[5], List.getElem_mem _, rfl, fun h => ⟨_, h⟩⟩

/-- An object breaks off in an element of one of its lists. -/
def Within (outer : RecordSort) (key : String) (inner : RecordSort) (breaks : Breaks) : Breaks :=
  RecordBreaks outer.parts (fun _ _ => False) fun k t f =>
    k = key ∧ ListBreaks (RecordForm inner.parts) breaks t f

/-- Where the reader of the inner objects stops, there stops the one of the outer object. -/
theorem Lists.stops (h : Lists outer key inner) {breaks : Breaks}
    (hinner : inner.layout.reader.Stops breaks) :
    outer.layout.reader.Stops (outer.Within key inner breaks) := by
  have hlist := hinner.listOf inner.serves.reads
  have hslots : ∀ slot ∈ outer.layout.slots, slot.key = key →
      slot.value.Stops (ListBreaks (RecordForm inner.parts) breaks) := by
    cases h with
    | types =>
      simp only [layout, Catalog.fileLayout, List.forall_mem_cons]
      exact ⟨fun _ => hlist.map _, List.forall_mem_nil _⟩
    | fields =>
      simp only [layout, Catalog.typeLayout, List.forall_mem_cons]
      refine ⟨?_, ?_, ?_, ?_, fun _ => hlist.map _, ?_, List.forall_mem_nil _⟩
      all_goals exact fun hkey => absurd hkey (by decide)
    | methods =>
      simp only [layout, Catalog.typeLayout, List.forall_mem_cons]
      refine ⟨?_, ?_, ?_, ?_, ?_, fun _ => hlist.map _, List.forall_mem_nil _⟩
      all_goals exact fun hkey => absurd hkey (by decide)
  refine outer.serves.stops (Reader.stops_nowhere _) fun slot hslot => ⟨?_, ?_⟩
  · rintro t f ⟨hkey, ht⟩
    exact (hslots slot hslot hkey).opens ht
  · rintro t f b ⟨hkey, ht⟩
    exact (hslots slot hslot hkey).fails ht

variable {style : Style} {a : outer.Held} {ms₁ ms₂ : List (String × Value)} {v : Value}
  {vs₁ vs₂ : List Value}

/-- The elements of a list in an object are forms, the one in question and those in front of it. -/
theorem Lists.elements (h : Lists outer key inner)
    (ha : ObjectForm outer.parts style a (ms₁ ++ (key, .list (vs₁ ++ v :: vs₂)) :: ms₂)) :
    (∃ as, List.Forall₂ (RecordForm inner.parts style) as vs₁) ∧
      ∃ b, RecordForm inner.parts style b v := by
  obtain ⟨p, hp, rfl, hlist⟩ := h.part
  obtain ⟨as, vs, he, has⟩ :=
    hlist (ha.shows p hp _ (List.mem_append_right _ List.mem_cons_self))
  cases he
  have hfront := List.forall₂_take_append _ _ _ has
  have hback := List.forall₂_drop_append _ _ _ has
  obtain ⟨b, -, hb, -, -⟩ := List.forall₂_cons_right_iff.mp hback
  exact ⟨⟨_, hfront⟩, b, hb⟩

/-- An object that is in order up to an element of one of its lists breaks off where the element
does. -/
theorem Lists.within (h : Lists outer key inner)
    (ha : ObjectForm outer.parts style a (ms₁ ++ (key, .list (vs₁ ++ v :: vs₂)) :: ms₂))
    {front : List Char} (hfront : UpTo ms₁ key vs₁ front) {breaks : Breaks} {t : List Char}
    {f : Fault} (ht : breaks t f) : outer.Within key inner breaks (front ++ t) f := by
  obtain ⟨⟨as, has⟩, -⟩ := h.elements ha
  have hlenient := lenient_record inner.lenient
  have hstart := ha.start outer.lenient (List.sublist_append_left ms₁ _)
  obtain ⟨p, hp, rfl, -⟩ := h.part
  have hnew := ha.not_mem_front (mem_keys hp)
  cases hfront with
  | element hms hb hk hb' hb'' hvs hb₃ =>
    have hlist : ListBreaks (RecordForm inner.parts) breaks _ f :=
      .element (has.imp fun _ _ hv => hlenient hv) hvs hb₃ ht
    have hobject : outer.Within p.key inner breaks _ f :=
      .object hstart hms hb hp hnew hk hb' hb'' ⟨rfl, hlist⟩
    simpa using hobject

end RecordSort

namespace ObjectIn

variable {v : Value} {text : String} {sort : RecordSort} {ms : List (String × Value)}
  {before object after : List Char} {style : Style} {ts : List Descriptor}

/-- Every object of a form stands for a record. -/
theorem form (hv : Catalog.Form style ts v) (h : ObjectIn v text sort ms before object after) :
    ∃ a, ObjectForm sort.parts style a ms := by
  induction h with
  | whole he =>
    subst he
    exact ⟨ts, objectForm_of_record hv⟩
  | listed hl _ _ _ _ ih =>
    obtain ⟨a, ha⟩ := ih
    obtain ⟨-, b, hb⟩ := hl.elements ha
    exact ⟨b, objectForm_of_record hb⟩

/-- The reader comes to every object of a form: where the reader of the object stops, the whole text
is refused. -/
theorem fails (hv : Catalog.Form style ts v) (h : ObjectIn v text sort ms before object after)
    {breaks : Breaks} (hstops : sort.layout.reader.Stops breaks) {t : List Char} {f : Fault}
    (ht : breaks t f) (rest : List Char) :
    Catalog.fileLayout.reader.read (before ++ t ++ rest) = .error f := by
  -- from the inside out: the outer object breaks off where the inner one does, at the same fault
  induction h generalizing breaks t with
  | whole _ hb => exact hstops.fails ht hb rest
  | @listed _ _ _ _ _ _ _ _ before _ _ _ _ _ hl h hfront _ _ ih =>
    obtain ⟨a, ha⟩ := h.form hv
    have hread := ih (hl.stops hstops) (hl.within ha hfront ht)
    rwa [← List.append_assoc before] at hread

/-- A text that has a fault in the keys of the object, in its place, has that fault. -/
theorem decode_of_keyFault (hv : Catalog.Form style ts v)
    (h : ObjectIn v text sort ms before object after) {t : List Char} {f : Fault}
    (ht : KeyFault sort.parts t f) (rest : List Char) {text' : String}
    (htext : text'.toList = before ++ t ++ rest) :
    Catalog.decode text' = .error f := by
  rw [Catalog.decode, Reader.readAll, htext, h.fails hv sort.serves.stops_keyFault ht]

end ObjectIn

/-- **Repeated and missing keys are named.** Let a text be in order and have an object somewhere. If
the object goes on behind some of its members with a comma and a known key of one of them, the text
is refused for the repeated key, whatever follows its closing quote. If members are left out of the
object that have to be there, the text is refused for the first of these in the order of
declaration. The catalog stays as it was. -/
theorem step_faultyKeys (c : Catalog) {style : Style} {ts : List Descriptor} {v : Value}
    {text : String} {sort : RecordSort} {ms : List (String × Value)}
    {before object after : List Char} (hv : Catalog.Form style ts v)
    (h : ObjectIn v text sort ms before object after) :
    (∀ ms₁ ms₂ front b key k rest text', ms = ms₁ ++ ms₂ →
      Separated (SpellsMember Spells) (ms₁.map fun m => (symbols m.1, m.2)) front → Blank b →
      key ∈ sort.keys → key ∈ ms₁.map (·.1) → SpellsText (symbols key) k →
      text'.toList = before ++ '{' :: (front ++ ',' :: (b ++ '"' :: (k ++ '"' :: rest))) →
        c.step (.extend text') = (.failed (.catalog ("duplicate field `" ++ key ++ "`")), c)) ∧
    ∀ (removed : List String) key object' text', sort.required.find? (· ∈ removed) = some key →
      Spells (.record (ms.filter (·.1 ∉ removed))) object' →
      text'.toList = before ++ object' ++ after →
        c.step (.extend text') = (.failed (.catalog ("missing field `" ++ key ++ "`")), c) := by
  obtain ⟨a, ha⟩ := h.form hv
  constructor
  · rintro ms₁ ms₂ front b key k rest text' rfl hfront hb hkey hmem hk htext
    have hstart := ha.start sort.lenient (List.sublist_append_left ms₁ ms₂)
    have hbegun := hfront.begun .first
    rw [List.nil_append] at hbegun
    have hfault := KeyFault.repeated hstart hbegun hb (sort.keys_parts ▸ hkey) hmem hk
    refine Catalog.step_extend_of_fault (h.decode_of_keyFault hv hfault rest ?_)
    rw [htext]
    simp
  · intro removed key object' text' hkey hobject htext
    have hstart : ObjectStart sort.parts (ms.filter (·.1 ∉ removed)) :=
      ha.start sort.lenient List.filter_sublist
    rw [← sort.requiredKeys_parts, ← ha.find?_missing] at hkey
    have hfault := KeyFault.missing hstart hkey hobject
    exact Catalog.step_extend_of_fault (h.decode_of_keyFault hv hfault after htext)

/-- Two types, the second of them with a field. -/
def fieldTypes : List Descriptor :=
  [{ name := "A" }, { name := "B", fields := [{ name := "f", typeName := "int" }] }]

/-- The members of the field. -/
def fieldMembers : List (String × Value) := [("name", .string "f"), ("type", .string "int")]

/-- The members of the second type. -/
def fieldOwner : List (String × Value) :=
  [("fields", .list [.record fieldMembers]), ("name", .string "B")]

def fieldCatalog : Value :=
  .record [("types", .list [.record [("name", .string "A")], .record fieldOwner])]

def fieldText : String :=
  "\x7b\"types\":[\x7b\"name\":\"A\"\x7d,\x7b\"fields\":[" ++
  "\x7b\"name\":\"f\",\"type\":\"int\"\x7d],\"name\":\"B\"\x7d]\x7d"

/-- The text goes on behind the name of the field with another name, and then as it likes. -/
def renamedText : String :=
  "\x7b\"types\":[\x7b\"name\":\"A\"\x7d,\x7b\"fields\":[\x7b\"name\":\"f\",\"name\"?"

/-- The field without its members. -/
def blankFieldText : String :=
  "\x7b\"types\":[\x7b\"name\":\"A\"\x7d,\x7b\"fields\":[\x7b\x7d],\"name\":\"B\"\x7d]\x7d"

theorem form_fieldCatalog : Catalog.Form .plain fieldTypes fieldCatalog := by
  have hfield : ObjectForm Field.parts .plain { name := "f", typeName := "int" } fieldMembers := by
    refine ⟨?_, by decide, ?_⟩
    · simp [Field.parts, fieldMembers, RecordPart.Shows, TextForm]
    · simp [Field.parts, fieldMembers, RecordPart.Omissible]
  have hfields : ListForm (RecordForm Field.parts) .plain [{ name := "f", typeName := "int" }]
      (.list [.record fieldMembers]) := ⟨_, rfl, .cons (.object hfield) .nil⟩
  have hA : ObjectForm Descriptor.parts .plain { name := "A" } [("name", .string "A")] := by
    refine ⟨?_, by decide, ?_⟩
    · simp [Descriptor.parts, RecordPart.Shows, TextForm]
    · simp [Descriptor.parts, RecordPart.Omissible]
  have hB : ObjectForm Descriptor.parts .plain
      { name := "B", fields := [{ name := "f", typeName := "int" }] } fieldOwner := by
    refine ⟨?_, by decide, ?_⟩
    · simpa [Descriptor.parts, fieldOwner, RecordPart.Shows, TextForm] using hfields
    · simp [Descriptor.parts, fieldOwner, RecordPart.Omissible]
  have htypes : ListForm (RecordForm Descriptor.parts) .plain fieldTypes _ :=
    ⟨_, rfl, .cons (.object hA) (.cons (.object hB) .nil)⟩
  refine .object ⟨?_, by decide, ?_⟩
  · simpa [Catalog.parts, RecordPart.Shows] using htypes
  · simp [Catalog.parts]

set_option maxRecDepth 2000 in
theorem objectIn_fieldText :
    ∃ before object after,
      ObjectIn fieldCatalog fieldText .field fieldMembers before object after ∧
        before = "\x7b\"types\":[\x7b\"name\":\"A\"\x7d,\x7b\"fields\":[".toList ∧
        after = "],\"name\":\"B\"\x7d]\x7d".toList := by
  have hfield : Spells (.record fieldMembers) _ :=
    .object <|
      .more .nil (Plain.spellsMember (by decide) (Plain.spells (by decide))) .nil <|
      .last .nil (Plain.spellsMember (by decide) (Plain.spells (by decide))) .nil
  have hA : Spells (.record [("name", .string "A")]) _ :=
    .object (.last .nil (Plain.spellsMember (by decide) (Plain.spells (by decide))) .nil)
  have hB : Spells (.record fieldOwner) _ :=
    .object <|
      .more .nil (Plain.spellsMember (by decide) (.list (.last .nil hfield .nil))) .nil <|
      .last .nil (Plain.spellsMember (by decide) (Plain.spells (by decide))) .nil
  have hcatalog : Spells fieldCatalog _ :=
    .object (.last .nil (Plain.spellsMember (by decide)
      (.list (.more .nil hA .nil (.last .nil hB .nil)))) .nil)
  have htypes : UpTo [] "types" [.record [("name", .string "A")]] _ :=
    .element (.nil .first) .nil (show Plain "types" by decide).spellsText .nil .nil
      (.cons .first .nil hA (.nil (.next .nil))) .nil
  have hfields : UpTo [] "fields" [] _ :=
    .element (.nil .first) .nil (show Plain "fields" by decide).spellsText .nil .nil
      (.nil .first) .nil
  have hwhole : ObjectIn fieldCatalog fieldText .catalog
      ([] ++ ("types", .list ([.record [("name", .string "A")]] ++ .record fieldOwner :: [])) :: [])
      [] _ [] := .whole rfl .nil hcatalog .nil (by decide)
  have howner : ObjectIn fieldCatalog fieldText .type
      ([] ++ ("fields", .list ([] ++ .record fieldMembers :: [])) :: [("name", .string "B")])
      _ _ ("]\x7d".toList ++ []) := .listed .types hwhole htypes hB (by decide)
  have hplace : ObjectIn fieldCatalog fieldText .field fieldMembers _ _
      ("],\"name\":\"B\"\x7d".toList ++ ("]\x7d".toList ++ [])) :=
    .listed .fields howner hfields hfield (by decide)
  exact ⟨_, _, _, hplace, by decide, by decide⟩

theorem step_faultyKeys_field :
    Catalog.Form .plain fieldTypes fieldCatalog ∧
      (∃ before object after,
        ObjectIn fieldCatalog fieldText .field fieldMembers before object after) ∧
      (Catalog.ofList fieldTypes).step (.extend renamedText) =
        (.failed (.catalog "duplicate field `name`"), Catalog.ofList fieldTypes) ∧
      (Catalog.ofList fieldTypes).step (.extend blankFieldText) =
        (.failed (.catalog "missing field `name`"), Catalog.ofList fieldTypes) := by
  obtain ⟨_, object, _, hplace, rfl, rfl⟩ := objectIn_fieldText
  obtain ⟨hrepeated, hmissing⟩ :=
    step_faultyKeys (Catalog.ofList fieldTypes) form_fieldCatalog hplace
  refine ⟨form_fieldCatalog, ⟨_, _, _, hplace⟩, ?_, ?_⟩
  · have hname : Separated (SpellsMember Spells) [(symbols "name", .string "f")] _ :=
      .last .nil (Plain.spellsMember (by decide) (Plain.spells (by decide))) .nil
    exact hrepeated [("name", .string "f")] [("type", .string "int")] _ [] "name" _ ['?'] _ rfl
      hname .nil (by decide) (by decide) (show Plain "name" by decide).spellsText (by decide)
  · exact hmissing ["type", "name"] "name" ['{', '}'] _ (by decide) (.emptyObject .nil)
      (by decide)

end ClassDiagram
