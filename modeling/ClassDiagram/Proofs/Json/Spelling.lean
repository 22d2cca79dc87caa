/-!
# Spellings of JSON Values

A `Value` is what a JSON text says, and `Spells v t` holds if the text `t` says it. One value has
many spellings: blanks may stand on both sides of every value, key, comma and colon, and each
character of a string may be written as it is, by a short escape or by the units of its code point
in hexadecimal digits of either case.

These are the rules of the notation alone. Nothing here refers to a reader, and a text that no rule
makes says nothing.
-/

namespace ClassDiagram.Json

/-! ### Values -/

/-- What a string is made of. Only the spelling of a unit can stand for half of a surrogate pair;
a string with such a half is JSON, but no text. -/
inductive Symbol
  | char (c : Char)
  | half (unit : Nat)

/-- A JSON value. Numbers are known by their digits, and the members of an object keep their order;
keys may be repeated. -/
inductive Value
  | null
  | boolean (b : Bool)
  | number (digits : List Char)
  | text (symbols : List Symbol)
  | list (values : List Value)
  | object (members : List (List Symbol × Value))

/-- The symbols of a text. -/
def symbols (s : String) : List Symbol := s.toList.map .char

/-- The value that is a text. -/
def Value.string (s : String) : Value := .text (symbols s)

/-- The value that is an object with these members. -/
def Value.record (members : List (String × Value)) : Value :=
  .object (members.map fun m => (symbols m.1, m.2))

/-! ### Blanks -/

/-- A text of blanks only, or an empty one. -/
def Blank (t : List Char) : Prop := ∀ c ∈ t, c ∈ [' ', '\t', '\n', '\r']

instance (t : List Char) : Decidable (Blank t) := List.decidableBAll _ t

theorem Blank.nil : Blank [] := by decide

theorem Blank.append {b b' : List Char} (hb : Blank b) (hb' : Blank b') : Blank (b ++ b') := by
  intro c hc
  rcases List.mem_append.mp hc with hc | hc
  · exact hb c hc
  · exact hb' c hc

/-! ### Strings -/

/-- A hexadecimal digit of either case. -/
def HexDigit (n : Nat) (c : Char) : Prop := n < 16 ∧ (c = n.digitChar ∨ c = n.digitChar.toUpper)

instance (n : Nat) (c : Char) : Decidable (HexDigit n c) := by unfold HexDigit; infer_instance

theorem HexDigit.lower {n : Nat} (h : n < 16) : HexDigit n n.digitChar := ⟨h, .inl rfl⟩

/-- Four hexadecimal digits. -/
inductive SpellsUnit : Nat → List Char → Prop
  | digits {k l m n : Nat} {a b c d : Char} :
      HexDigit k a → HexDigit l b → HexDigit m c → HexDigit n d →
        SpellsUnit (((k * 16 + l) * 16 + m) * 16 + n) [a, b, c, d]

/-- The letters of the short escapes, and what they stand for. -/
def shortEscapes : List (Char × Char) :=
  [('"', '"'), ('\\', '\\'), ('/', '/'), ('b', '\x08'), ('f', '\x0c'), ('n', '\n'), ('r', '\r'),
    ('t', '\t')]

/-- A symbol of a string. Quotes, backslashes and control characters have to be escaped, and a
character beyond sixteen bits is spelt in units by a surrogate pair. -/
inductive SpellsSymbol : Symbol → List Char → Prop
  | raw {c : Char} : c ≠ '"' → c ≠ '\\' → 0x20 ≤ c.toNat → SpellsSymbol (.char c) [c]
  | short {letter c : Char} : (letter, c) ∈ shortEscapes → SpellsSymbol (.char c) ['\\', letter]
  | unit {c : Char} {t : List Char} :
      SpellsUnit c.toNat t → SpellsSymbol (.char c) ('\\' :: 'u' :: t)
  | pair {c : Char} {high low : Nat} {t t' : List Char} :
      0xD800 ≤ high → high ≤ 0xDBFF → 0xDC00 ≤ low → low ≤ 0xDFFF →
      c.toNat = 0x10000 + (high - 0xD800) * 0x400 + (low - 0xDC00) →
      SpellsUnit high t → SpellsUnit low t' →
        SpellsSymbol (.char c) ('\\' :: 'u' :: t ++ '\\' :: 'u' :: t')
  | half {unit : Nat} {t : List Char} :
      0xD800 ≤ unit → unit ≤ 0xDFFF → SpellsUnit unit t →
        SpellsSymbol (.half unit) ('\\' :: 'u' :: t)

/-- The symbols of a string, one after another. -/
inductive SpellsText : List Symbol → List Char → Prop
  | nil : SpellsText [] []
  | cons {x : Symbol} {xs : List Symbol} {t ts : List Char} :
      SpellsSymbol x t → SpellsText xs ts → SpellsText (x :: xs) (t ++ ts)

/-! ### Numbers -/

/-- One or more decimal digits. -/
def Digits (t : List Char) : Prop := t ≠ [] ∧ ∀ c ∈ t, '0' ≤ c ∧ c ≤ '9'

/-- A number: a sign, a whole part without needless zeros, a fraction and an exponent. -/
inductive SpellsNumber : List Char → Prop
  | parts {sign whole fraction exponent : List Char} :
      sign ∈ [[], ['-']] →
      whole = ['0'] ∨ Digits whole ∧ whole.head? ≠ some '0' →
      (fraction = [] ∨ ∃ t, Digits t ∧ fraction = '.' :: t) →
      (exponent = [] ∨ ∃ e ∈ ['e', 'E'], ∃ plus ∈ [[], ['+'], ['-']], ∃ t, Digits t ∧
        exponent = e :: plus ++ t) →
        SpellsNumber (sign ++ whole ++ fraction ++ exponent)

/-! ### Lists and objects -/

/-- One or more elements with commas in between, each of them between blanks. -/
inductive Separated {α : Type} (r : α → List Char → Prop) : List α → List Char → Prop
  | last {a : α} {b t b' : List Char} :
      Blank b → r a t → Blank b' → Separated r [a] (b ++ t ++ b')
  | more {a : α} {as : List α} {b t b' ts : List Char} :
      Blank b → r a t → Blank b' → Separated r as ts →
        Separated r (a :: as) (b ++ t ++ b' ++ ',' :: ts)

/-- A member of an object: its key, a colon and its value. -/
inductive SpellsMember (r : Value → List Char → Prop) : List Symbol × Value → List Char → Prop
  | member {key : List Symbol} {v : Value} {k b b' t : List Char} :
      SpellsText key k → Blank b → Blank b' → r v t →
        SpellsMember r (key, v) ('"' :: k ++ '"' :: b ++ ':' :: b' ++ t)

/-- The text says the value. -/
inductive Spells : Value → List Char → Prop
  | null : Spells .null ['n', 'u', 'l', 'l']
  | true : Spells (.boolean true) ['t', 'r', 'u', 'e']
  | false : Spells (.boolean false) ['f', 'a', 'l', 's', 'e']
  | number {t : List Char} : SpellsNumber t → Spells (.number t) t
  | text {xs : List Symbol} {t : List Char} :
      SpellsText xs t → Spells (.text xs) ('"' :: t ++ ['"'])
  | emptyList {b : List Char} : Blank b → Spells (.list []) ('[' :: b ++ [']'])
  | list {vs : List Value} {t : List Char} :
      Separated Spells vs t → Spells (.list vs) ('[' :: t ++ [']'])
  | emptyObject {b : List Char} : Blank b → Spells (.object []) ('{' :: b ++ ['}'])
  | object {ms : List (List Symbol × Value)} {t : List Char} :
      Separated (SpellsMember Spells) ms t → Spells (.object ms) ('{' :: t ++ ['}'])

/-- A text that says the value and nothing else, up to blanks in front and behind. -/
def Writes (v : Value) (text : String) : Prop :=
  ∃ b t b', Blank b ∧ Spells v t ∧ Blank b' ∧ text.toList = b ++ t ++ b'

theorem writes_ofList {v : Value} {b t b' : List Char} (hb : Blank b) (ht : Spells v t)
    (hb' : Blank b') : Writes v (String.ofList (b ++ t ++ b')) :=
  ⟨b, t, b', hb, ht, hb', String.toList_ofList⟩

/-! ### Values that can be written -/

/-- A character is written as it is where this is allowed, and else by a short escape or in
hexadecimal digits. -/
theorem exists_spellsSymbol (c : Char) : ∃ t, SpellsSymbol (.char c) t := by
  by_cases hq : c = '"'
  · exact ⟨_, .short (hq ▸ show ('"', '"') ∈ shortEscapes by decide)⟩
  by_cases hb : c = '\\'
  · exact ⟨_, .short (hb ▸ show ('\\', '\\') ∈ shortEscapes by decide)⟩
  by_cases hc : 0x20 ≤ c.toNat
  · exact ⟨[c], .raw hq hb hc⟩
  · have hzero : HexDigit 0 '0' := .lower (by decide)
    have hunit := SpellsUnit.digits hzero hzero (.lower (show c.toNat / 16 < 16 by omega))
      (.lower (show c.toNat % 16 < 16 by omega))
    rw [show ((0 * 16 + 0) * 16 + c.toNat / 16) * 16 + c.toNat % 16 = c.toNat by omega] at hunit
    exact ⟨_, .unit hunit⟩

/-- A text without characters that have to be escaped. -/
def Plain (w : String) : Prop := ∀ c ∈ w.toList, c ≠ '"' ∧ c ≠ '\\' ∧ 0x20 ≤ c.toNat

instance (w : String) : Decidable (Plain w) := List.decidableBAll _ w.toList

/-- A plain text may be written as it is. -/
theorem Plain.spellsText {w : String} (h : Plain w) : SpellsText (symbols w) w.toList := by
  rw [Plain] at h
  rw [symbols]
  generalize w.toList = cs at h
  induction cs with
  | nil => exact .nil
  | cons c cs ih =>
    obtain ⟨⟨hq, hb, hc⟩, hcs⟩ := List.forall_mem_cons.mp h
    exact .cons (.raw hq hb hc) (ih hcs)

theorem Plain.spells {w : String} (h : Plain w) : Spells (.string w) ('"' :: w.toList ++ ['"']) :=
  .text h.spellsText

theorem Plain.spellsMember {key : String} {v : Value} {t : List Char} (h : Plain key)
    (hv : Spells v t) :
    SpellsMember Spells (symbols key, v) ('"' :: key.toList ++ '"' :: [] ++ ':' :: [] ++ t) :=
  .member h.spellsText .nil .nil hv

theorem exists_spellsText (w : String) : ∃ t, SpellsText (symbols w) t := by
  have hall : ∀ cs : List Char, ∃ t, SpellsText (cs.map .char) t := by
    intro cs
    induction cs with
    | nil => exact ⟨[], .nil⟩
    | cons c cs ih =>
      obtain ⟨t, ht⟩ := exists_spellsSymbol c
      obtain ⟨ts, hts⟩ := ih
      exact ⟨t ++ ts, .cons ht hts⟩
  exact hall w.toList

theorem exists_separated {α : Type} {r : α → List Char → Prop} (a : α) (as : List α)
    (h : ∀ b ∈ a :: as, ∃ t, r b t) : ∃ t, Separated r (a :: as) t := by
  induction as generalizing a with
  | nil =>
    obtain ⟨t, ht⟩ := h a List.mem_cons_self
    exact ⟨_, .last .nil ht .nil⟩
  | cons b as ih =>
    obtain ⟨t, ht⟩ := h a List.mem_cons_self
    obtain ⟨ts, hts⟩ := ih b fun c hc => h c (List.mem_cons_of_mem a hc)
    exact ⟨_, .more .nil ht .nil hts⟩

theorem exists_spells_string (w : String) : ∃ t, Spells (.string w) t := by
  obtain ⟨t, ht⟩ := exists_spellsText w
  exact ⟨_, .text ht⟩

theorem exists_spells_list {vs : List Value} (h : ∀ v ∈ vs, ∃ t, Spells v t) :
    ∃ t, Spells (.list vs) t := by
  cases vs with
  | nil => exact ⟨_, .emptyList .nil⟩
  | cons v vs =>
    obtain ⟨t, ht⟩ := exists_separated v vs h
    exact ⟨_, .list ht⟩

theorem exists_spells_map {α : Type} {json : α → Value} (h : ∀ a, ∃ t, Spells (json a) t)
    (as : List α) : ∃ t, Spells (.list (as.map json)) t := by
  refine exists_spells_list fun v hv => ?_
  obtain ⟨a, -, rfl⟩ := List.mem_map.mp hv
  exact h a

theorem exists_spells_record {ms : List (String × Value)} (h : ∀ m ∈ ms, ∃ t, Spells m.2 t) :
    ∃ t, Spells (.record ms) t := by
  have hmembers : ∀ m ∈ ms.map fun m => (symbols m.1, m.2), ∃ t, SpellsMember Spells m t := by
    intro m hm
    obtain ⟨n, hn, rfl⟩ := List.mem_map.mp hm
    obtain ⟨k, hk⟩ := exists_spellsText n.1
    obtain ⟨t, ht⟩ := h n hn
    exact ⟨_, .member hk .nil .nil ht⟩
  cases ms with
  | nil => exact ⟨_, .emptyObject .nil⟩
  | cons m ms =>
    obtain ⟨t, ht⟩ := exists_separated _ _ hmembers
    exact ⟨_, .object ht⟩

end ClassDiagram.Json
