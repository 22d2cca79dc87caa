import ClassDiagram.Proofs.Json.Spelling
import Mathlib.Data.List.Forall2

/-!
# Forms of Data

What a JSON value has to look like to stand for data of a known sort. A record is a list of parts,
each known under a key (`RecordPart`). It is written as an object that has its keys in any order,
may leave out a part that holds its default, and may have any other members besides (`ObjectForm`);
or as a row, the list of what its parts hold in the order of declaration, which may be cut off where
only defaults are left (`RowForm`). Which of the two a text may choose is its `Style`.

As with the rules of the notation, nothing here refers to a reader.
-/

namespace ClassDiagram.Json

variable {α : Type}

/-- The forms that a text may choose from. -/
inductive Style
  /-- Records are objects, and words are strings. -/
  | plain
  /-- Records may be rows as well, and words objects with the word as their only key. -/
  | mixed

/-! ### Texts, words and lists -/

/-- The form of a text. -/
def TextForm (_ : Style) (w : String) (v : Value) : Prop := v = .string w

/-- The forms of a text that may be absent. -/
def OptionalTextForm (style : Style) : Option String → Value → Prop
  | none, v => v = .null
  | some w, v => TextForm style w v

/-- The forms of a word of a closed vocabulary. -/
inductive WordForm : Style → String → Value → Prop
  | string {style : Style} {w : String} : WordForm style w (.string w)
  | object {w : String} : WordForm .mixed w (.record [(w, .null)])

/-- The forms of a list, by those of its elements. -/
def ListForm (form : Style → α → Value → Prop) (style : Style) (as : List α) (v : Value) : Prop :=
  ∃ vs, v = .list vs ∧ List.Forall₂ (form style) as vs

/-! ### Records -/

/-- A part of a record. -/
structure RecordPart (α : Type) where
  {Held : Type}
  key : String
  /-- What a record holds in the part. -/
  get : α → Held
  /-- The values that may stand for it. -/
  form : Style → Held → Value → Prop
  /-- What a record holds there if nothing is said of it. Without it, the part has to be given. -/
  default : Option Held := none

namespace RecordPart

/-- The value stands for what the record holds in the part. -/
def Shows (p : RecordPart α) (style : Style) (a : α) (v : Value) : Prop := p.form style (p.get a) v

/-- The record holds the default in the part, so nothing has to be said of it. -/
def Omissible (p : RecordPart α) (a : α) : Prop := p.default = some (p.get a)

end RecordPart

/-- The keys of the parts of a record. -/
def keys (parts : List (RecordPart α)) : List String := parts.map (·.key)

/-- The keys of the parts that have to be given, in the order of declaration. -/
def requiredKeys (parts : List (RecordPart α)) : List String :=
  keys (parts.filter (·.default.isNone))

/-- The members of an object that stands for a record. Each part has at most one member, which shows
what the record holds there, and members of other keys mean nothing. -/
structure ObjectForm (parts : List (RecordPart α)) (style : Style) (a : α)
    (ms : List (String × Value)) : Prop where
  shows : ∀ p ∈ parts, ∀ v, (p.key, v) ∈ ms → p.Shows style a v
  once : ((ms.map (·.1)).filter (· ∈ keys parts)).Nodup
  omitted : ∀ p ∈ parts, p.key ∉ ms.map (·.1) → p.Omissible a

/-- The row of a record: the values of its parts, up to where only defaults are left. -/
inductive RowForm (a : α) : List (RecordPart α) → List Value → Prop
  | cut {parts : List (RecordPart α)} : (∀ p ∈ parts, p.Omissible a) → RowForm a parts []
  | cons {p : RecordPart α} {parts : List (RecordPart α)} {v : Value} {vs : List Value} :
      p.Shows .mixed a v → RowForm a parts vs → RowForm a (p :: parts) (v :: vs)

/-- The forms of a record. -/
inductive RecordForm (parts : List (RecordPart α)) : Style → α → Value → Prop
  | object {style : Style} {a : α} {ms : List (String × Value)} :
      ObjectForm parts style a ms → RecordForm parts style a (.record ms)
  | row {a : α} {vs : List Value} : RowForm a parts vs → RecordForm parts .mixed a (.list vs)

/-! ### Values that are objects -/

theorem symbols_injective {k k' : String} (h : symbols k = symbols k') : k = k' :=
  String.toList_inj.mp ((List.map_inj_right fun _ _ hc => Symbol.char.inj hc).mp h)

theorem Value.record_injective {ms ms' : List (String × Value)}
    (h : Value.record ms = Value.record ms') : ms = ms' := by
  refine (List.map_inj_right fun m m' hm => ?_).mp (Value.object.inj h)
  obtain ⟨hkey, hvalue⟩ := Prod.mk.inj hm
  exact Prod.ext (symbols_injective hkey) hvalue

theorem objectForm_of_record {parts : List (RecordPart α)} {style : Style} {a : α}
    {ms : List (String × Value)} (h : RecordForm parts style a (.record ms)) :
    ObjectForm parts style a ms := by
  generalize hv : Value.record ms = v at h
  cases h with
  | object h => exact Value.record_injective hv ▸ h
  | row => cases hv

/-! ### From one style to the other -/

/-- A form of any style is a form of the mixed one. -/
def Lenient (form : Style → α → Value → Prop) : Prop :=
  ∀ ⦃style a v⦄, form style a v → form .mixed a v

theorem lenient_text : Lenient TextForm := fun _ _ _ h => h

theorem lenient_optionalText : Lenient OptionalTextForm := by
  intro style w v h
  cases w with
  | none => exact h
  | some w => exact h

theorem lenient_word (word : α → String) : Lenient fun style a => WordForm style (word a) := by
  intro style a v h
  cases h with
  | string => exact .string
  | object => exact .object

theorem Lenient.listOf {form : Style → α → Value → Prop} (h : Lenient form) :
    Lenient (ListForm form) := by
  rintro style as _ ⟨vs, rfl, hvs⟩
  exact ⟨vs, rfl, hvs.imp fun _ _ hv => h hv⟩

theorem lenient_record {parts : List (RecordPart α)} (h : ∀ p ∈ parts, Lenient p.form) :
    Lenient (RecordForm parts) := by
  intro style a v ha
  cases ha with
  | object hms =>
    exact .object ⟨fun p hp w hw => h p hp (hms.shows p hp w hw), hms.once, hms.omitted⟩
  | row hrow => exact .row hrow

end ClassDiagram.Json
