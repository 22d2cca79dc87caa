import ClassDiagram.Json.Number
import ClassDiagram.Json.Skip

/-!
# Readers of Known Shapes

A `Reader` takes a value of a known shape off the front of a text, in one pass, and stops at the
first fault. There are readers of strings (`text`), of strings that may be absent (`optionalText`),
of words of a closed vocabulary (`choice`), of lists (`listOf`) and of records (`Layout.reader`).

A record is an object whose keys are known, in any order and with unknown members in between, or a
list of the values alone in the order of the layout. Each value is read as a change to the record,
which starts as `Layout.blank`; so a member that is left out keeps the value it has there.
-/

namespace ClassDiagram.Json

/-- A way to take a value off the front of a text. -/
structure Reader (α : Type) where
  read : List Char → Except Fault (α × List Char)
  /-- Every value takes up some of the text. -/
  shorter : ∀ {s r : List Char} {v : α}, read s = .ok (v, r) → r.length < s.length

/-! ### Faults of another type -/

/-- The fault of a value that is not of the wanted type. The value is read to its end first if it is
a word, a number or a string, and then its own faults come first. -/
def mismatch (wanted : String) : List Char → Fault
  | [] => .endOfValue
  | '[' :: _ => .invalidType .sequence wanted
  | '{' :: _ => .invalidType .map wanted
  | '"' :: s =>
    match readText [] s with
    | .ok (value, _) => .invalidType (.text value) wanted
    | .error f => f
  | 'n' :: s => word ['u', 'l', 'l'] s .null
  | 't' :: s => word ['r', 'u', 'e'] s (.boolean true)
  | 'f' :: s => word ['a', 'l', 's', 'e'] s (.boolean false)
  | c :: s =>
    if c = '-' || Text.isDigit c then
      match readNumeral (c :: s) >>= Numeral.found with
      | .ok found => .invalidType found wanted
      | .error f => f
    else .expectedValue
where
  /-- The fault of a word, if it is spelt out. -/
  word (letters s : List Char) (found : Found) : Fault :=
    match skipWord letters s with
    | .ok _ => .invalidType found wanted
    | .error f => f

/-! ### Strings -/

/-- A string; the text begins with no blank. -/
def takeText (wanted : String) : List Char → Except Fault (String × List Char)
  | '"' :: s => readText [] s
  | s => .error (mismatch wanted s)

theorem length_takeText {wanted w : String} {s r : List Char} (h : takeText wanted s = .ok (w, r)) :
    r.length < s.length := by
  unfold takeText at h
  split at h
  · have := length_readText h
    simp only [List.length_cons]
    omega
  · simp at h

namespace Reader

/-- Reads a string. -/
def text : Reader String where
  read s := takeText "a string" (skipBlanks s)
  shorter h := Nat.lt_of_lt_of_le (length_takeText h) (length_skipBlanks _)

/-- The string in the place of which `null` may stand; the text begins with no blank. -/
def takeOptionalText : List Char → Except Fault (Option String × List Char)
  | 'n' :: s => (skipWord ['u', 'l', 'l'] s).map fun r => (none, r)
  | s => (takeText "a string" s).map fun p => (some p.1, p.2)

theorem length_takeOptionalText {s r : List Char} {w : Option String}
    (h : takeOptionalText s = .ok (w, r)) : r.length < s.length := by
  unfold takeOptionalText at h
  split at h
  · obtain ⟨q, hq, he⟩ := map_ok h
    have := length_skipWord hq
    simp_all only [Prod.mk.injEq, List.length_cons]
    omega
  · obtain ⟨q, hq, he⟩ := map_ok h
    have := length_takeText (w := q.1) (r := q.2) hq
    simp_all only [Prod.mk.injEq]

/-- Reads a string, or `null` for none. -/
def optionalText : Reader (Option String) where
  read s := takeOptionalText (skipBlanks s)
  shorter h := Nat.lt_of_lt_of_le (length_takeOptionalText h) (length_skipBlanks _)

/-- Reads a value and applies a function to it. -/
def map {α β : Type} (f : α → β) (p : Reader α) : Reader β where
  read s := (p.read s).map fun v => (f v.1, v.2)
  shorter h := by
    obtain ⟨q, hq, he⟩ := map_ok h
    have := p.shorter (v := q.1) (r := q.2) hq
    simp_all only [Prod.mk.injEq]

end Reader

/-! ### Vocabularies -/

/-- The meaning of a word of a vocabulary. -/
def meaning {α : Type} (words : List (String × α)) (w : String) : Except Fault α :=
  match words.lookup w with
  | some v => .ok v
  | none => .error (.unknownVariant w (words.map (·.1)))

/-- A word of a vocabulary; the text begins behind its opening quote. -/
def takeWord {α : Type} (words : List (String × α)) (s : List Char) :
    Except Fault (α × List Char) := do
  let (w, r) ← readText [] s
  let v ← meaning words w
  return (v, r)

/-- A word of a vocabulary as the first key of an object; the text begins behind the opening
brace. -/
def takeKey {α : Type} (words : List (String × α)) (s : List Char) :
    Except Fault (α × List Char) :=
  match skipBlanks s with
  | [] => .error .endOfObject
  | '"' :: r => takeWord words r
  | '}' :: _ => .error .expectedValue
  | _ => .error .keyNotText

/-- The text behind `null`; the text begins with no blank. -/
def takeNull : List Char → Except Fault (List Char)
  | 'n' :: s => skipWord ['u', 'l', 'l'] s
  | s => .error (mismatch "unit" s)

/-- The text behind the brace that closes an object of one member. -/
def closeSingle (s : List Char) : Except Fault (List Char) :=
  match skipBlanks s with
  | [] => .error .endOfObject
  | '}' :: r => .ok r
  | _ => .error .expectedValue

/-- A word of a vocabulary, or an object with the word as its only key and `null` as its value; the
text begins with no blank. -/
def takeChoice {α : Type} (words : List (String × α)) :
    List Char → Except Fault (α × List Char)
  | [] => .error .endOfValue
  | '"' :: s => takeWord words s
  | '{' :: s => do
    let (v, r) ← takeKey words s
    let r ← skipColon r
    let r ← takeNull (skipBlanks r)
    let r ← closeSingle r
    return (v, r)
  | _ => .error .expectedValue

theorem length_takeWord {α : Type} {words : List (String × α)} {s r : List Char} {v : α}
    (h : takeWord words s = .ok (v, r)) : r.length < s.length := by
  obtain ⟨p, hp, h⟩ := bind_ok h
  obtain ⟨q, hq, h⟩ := bind_ok h
  have := length_readText (w := p.1) (r := p.2) hp
  simp only [pure, Except.pure, Except.ok.injEq, Prod.mk.injEq] at h
  rw [← h.2]
  exact this

theorem length_takeKey {α : Type} {words : List (String × α)} {s r : List Char} {v : α}
    (h : takeKey words s = .ok (v, r)) : r.length < s.length := by
  simp only [takeKey] at h
  split at h
  · simp at h
  · rename_i hs
    have := length_takeWord h
    have := length_of_skipBlanks hs
    omega
  · simp at h
  · simp at h

theorem length_takeNull {s r : List Char} (h : takeNull s = .ok r) : r.length < s.length := by
  unfold takeNull at h
  split at h
  · have := length_skipWord h
    simp only [List.length_cons]
    omega
  · simp at h

theorem length_closeSingle {s r : List Char} (h : closeSingle s = .ok r) :
    r.length < s.length := by
  simp only [closeSingle] at h
  split at h
  · simp at h
  · rename_i hs
    simp only [Except.ok.injEq] at h
    exact h ▸ length_of_skipBlanks hs
  · simp at h

theorem length_takeChoice {α : Type} {words : List (String × α)} {s r : List Char} {v : α}
    (h : takeChoice words s = .ok (v, r)) : r.length < s.length := by
  unfold takeChoice at h
  split at h
  · simp at h
  · have := length_takeWord h
    simp only [List.length_cons]
    omega
  · rename_i s
    obtain ⟨p, hp, h⟩ := bind_ok h
    obtain ⟨a, ha, h⟩ := bind_ok h
    obtain ⟨b, hb, h⟩ := bind_ok h
    obtain ⟨c, hc, h⟩ := bind_ok h
    have := length_takeKey (v := p.1) (r := p.2) hp
    have := length_skipColon ha
    have := length_takeNull hb
    have := length_skipBlanks a
    have := length_closeSingle hc
    simp only [pure, Except.pure, Except.ok.injEq, Prod.mk.injEq] at h
    simp only [List.length_cons, ← h.2]
    omega
  · simp at h

/-- Reads a word of a closed vocabulary. -/
def Reader.choice {α : Type} (words : List (String × α)) : Reader α where
  read s := takeChoice words (skipBlanks s)
  shorter h := Nat.lt_of_lt_of_le (length_takeChoice h) (length_skipBlanks _)

/-! ### Lists -/

/-- What stands between two elements of a list or an object. -/
inductive Next
  /-- Another element begins here. -/
  | element (rest : List Char)
  /-- The bracket has been closed. -/
  | closed (rest : List Char)

/-- Finds the next element of a list; `first` holds right behind the opening bracket. -/
def nextElement (first : Bool) (s : List Char) : Except Fault Next :=
  match skipBlanks s with
  | [] => .error .endOfList
  | ']' :: r => .ok (.closed r)
  | c :: r =>
    if first then .ok (.element (c :: r))
    else if c = ',' then
      match skipBlanks r with
      | [] => .error .endOfValue
      | ']' :: _ => .error .trailingComma
      | r => .ok (.element r)
    else .error .expectedCommaOrBracket

/-- The text behind the bracket that closes a list in which no element is left to read. -/
def closeList (s : List Char) : Except Fault (List Char) :=
  match skipBlanks s with
  | [] => .error .endOfList
  | ']' :: r => .ok r
  | ',' :: r =>
    match skipBlanks r with
    | ']' :: _ => .error .trailingComma
    | _ => .error .trailingCharacters
  | _ => .error .trailingCharacters

theorem length_nextElement_element {first : Bool} {s r : List Char}
    (h : nextElement first s = .ok (.element r)) : r.length ≤ s.length := by
  have hs := length_skipBlanks s
  simp only [nextElement] at h
  split at h
  · simp at h
  · simp at h
  · rename_i c q _ hc
    rw [hc] at hs
    split at h
    · simp only [Except.ok.injEq, Next.element.injEq] at h
      rw [← h]
      exact hs
    · split at h
      · have hq := length_skipBlanks q
        split at h
        · simp at h
        · simp at h
        · simp only [Except.ok.injEq, Next.element.injEq] at h
          simp only [List.length_cons] at hs
          subst h
          omega
      · simp at h

theorem length_nextElement_closed {first : Bool} {s r : List Char}
    (h : nextElement first s = .ok (.closed r)) : r.length < s.length := by
  simp only [nextElement] at h
  split at h
  · simp at h
  · rename_i hs
    simp only [Except.ok.injEq, Next.closed.injEq] at h
    exact h ▸ length_of_skipBlanks hs
  · split at h
    · simp at h
    · split at h
      · split at h <;> simp at h
      · simp at h

theorem length_closeList {s r : List Char} (h : closeList s = .ok r) : r.length < s.length := by
  simp only [closeList] at h
  split at h
  · simp at h
  · rename_i hs
    simp only [Except.ok.injEq] at h
    exact h ▸ length_of_skipBlanks hs
  · split at h <;> simp at h
  · simp at h

/-- The elements of a list up to its closing bracket. `front` holds those read so far, the last
first. -/
def readElements {α : Type} (p : Reader α) (first : Bool) (front : List α) (s : List Char) :
    Except Fault (List α × List Char) :=
  match _ : nextElement first s with
  | .error f => .error f
  | .ok (.closed r) => .ok (front.reverse, r)
  | .ok (.element r) =>
    match _ : p.read r with
    | .error f => .error f
    | .ok (v, q) => readElements p false (v :: front) q
termination_by s.length
decreasing_by
  have := length_nextElement_element ‹nextElement first s = .ok (.element r)›
  have := p.shorter ‹p.read r = .ok (v, q)›
  omega

theorem length_readElements {α : Type} {p : Reader α} {first : Bool} {front vs : List α}
    {s r : List Char} (h : readElements p first front s = .ok (vs, r)) : r.length < s.length := by
  fun_induction readElements p first front s with
  | case1 => simp at h
  | case2 _ _ _ _ hn =>
    simp only [Except.ok.injEq, Prod.mk.injEq] at h
    rw [← h.2]
    exact length_nextElement_closed hn
  | case3 => simp at h
  | case4 _ _ _ _ hn _ _ hv ih =>
    have := length_nextElement_element hn
    have := p.shorter hv
    have := ih h
    omega

/-- A list; the text begins with no blank. -/
def takeList {α : Type} (p : Reader α) : List Char → Except Fault (List α × List Char)
  | '[' :: s => readElements p true [] s
  | s => .error (mismatch "a sequence" s)

theorem length_takeList {α : Type} {p : Reader α} {s r : List Char} {vs : List α}
    (h : takeList p s = .ok (vs, r)) : r.length < s.length := by
  unfold takeList at h
  split at h
  · have := length_readElements h
    simp only [List.length_cons]
    omega
  · simp at h

/-- Reads a list. -/
def Reader.listOf {α : Type} (p : Reader α) : Reader (List α) where
  read s := takeList p (skipBlanks s)
  shorter h := Nat.lt_of_lt_of_le (length_takeList h) (length_skipBlanks _)

/-! ### Records -/

/-- A member that a record may have. -/
structure Slot (α : Type) where
  key : String
  /-- Whether a record without it is at fault. -/
  required : Bool
  /-- Reads the value of the member, as a change to the record. -/
  value : Reader (α → α)

/-- The members of a record in the order of their declaration, and the record without any. -/
structure Layout (α : Type) where
  title : String
  blank : α
  slots : List (Slot α)

/-- A record that is being read, and the known keys it has had so far. -/
structure Draft (α : Type) where
  record : α
  seen : List String

namespace Layout

variable {α : Type}

/-- The slot of a key. -/
def slot? (l : Layout α) (key : String) : Option (Slot α) := l.slots.find? (·.key = key)

/-- The first required member that a record has not had. -/
def missing? (l : Layout α) (seen : List String) : Option (Slot α) :=
  l.slots.find? fun slot => slot.required && !seen.contains slot.key

/-- Finds the next key of an object, the text behind its opening quote; `first` holds right behind
the opening brace. -/
def nextKey (first : Bool) (s : List Char) : Except Fault Next :=
  match skipBlanks s with
  | [] => .error .endOfObject
  | '}' :: r => .ok (.closed r)
  | c :: r =>
    if first then
      if c = '"' then .ok (.element r) else .error .keyNotText
    else if c = ',' then
      match skipBlanks r with
      | [] => .error .endOfValue
      | '}' :: _ => .error .trailingComma
      | '"' :: r => .ok (.element r)
      | _ => .error .keyNotText
    else .error .expectedCommaOrBrace

/-- Reads one member; the text begins behind the opening quote of its key. A known key that the
record has had before is at fault as soon as it has been read. -/
def readMember (l : Layout α) (d : Draft α) (s : List Char) :
    Except Fault (Draft α × List Char) :=
  match readText [] s with
  | .error f => .error f
  | .ok (key, r) =>
    match l.slot? key with
    | none => (skipColon r >>= skipValue).map fun r => (d, r)
    | some slot =>
      if d.seen.contains key then .error (.duplicateField key)
      else
        (skipColon r >>= slot.value.read).map fun p =>
          ({ record := p.1 d.record, seen := key :: d.seen }, p.2)

theorem length_nextKey_element {first : Bool} {s r : List Char}
    (h : nextKey first s = .ok (.element r)) : r.length < s.length := by
  have hs := length_skipBlanks s
  simp only [nextKey] at h
  split at h
  · simp at h
  · simp at h
  · rename_i c q _ hc
    rw [hc, List.length_cons] at hs
    split at h
    · split at h
      · simp only [Except.ok.injEq, Next.element.injEq] at h
        subst h
        omega
      · simp at h
    · split at h
      · have hq := length_skipBlanks q
        split at h
        · simp at h
        · simp at h
        · rename_i hk
          simp only [Except.ok.injEq, Next.element.injEq] at h
          subst h
          rw [hk, List.length_cons] at hq
          omega
        · simp at h
      · simp at h

theorem length_nextKey_closed {first : Bool} {s r : List Char}
    (h : nextKey first s = .ok (.closed r)) : r.length < s.length := by
  simp only [nextKey] at h
  split at h
  · simp at h
  · rename_i hs
    simp only [Except.ok.injEq, Next.closed.injEq] at h
    exact h ▸ length_of_skipBlanks hs
  · split at h
    · split at h <;> simp at h
    · split at h
      · split at h <;> simp at h
      · simp at h

theorem length_readMember {l : Layout α} {d e : Draft α} {s r : List Char}
    (h : l.readMember d s = .ok (e, r)) : r.length < s.length := by
  simp only [readMember] at h
  split at h
  · simp at h
  · rename_i hk
    have := length_readText hk
    split at h
    · obtain ⟨b, hb, he⟩ := map_ok h
      obtain ⟨a, ha, hb⟩ := bind_ok hb
      have := length_skipColon ha
      have := length_skipValue hb
      simp only [Prod.mk.injEq] at he
      rw [← he.2]
      omega
    · rename_i slot _
      split at h
      · simp at h
      · obtain ⟨b, hb, he⟩ := map_ok h
        obtain ⟨a, ha, hb⟩ := bind_ok hb
        have := length_skipColon ha
        have := slot.value.shorter (v := b.1) (r := b.2) hb
        simp only [Prod.mk.injEq] at he
        rw [← he.2]
        omega

/-- Reads the members of an object up to its closing brace. -/
def readMembers (l : Layout α) (first : Bool) (d : Draft α) (s : List Char) :
    Except Fault (α × List Char) :=
  match _ : nextKey first s with
  | .error f => .error f
  | .ok (.closed r) =>
    match l.missing? d.seen with
    | some slot => .error (.missingField slot.key)
    | none => .ok (d.record, r)
  | .ok (.element r) =>
    match _ : l.readMember d r with
    | .error f => .error f
    | .ok (e, q) => readMembers l false e q
termination_by s.length
decreasing_by
  have := length_nextKey_element ‹nextKey first s = .ok (.element r)›
  have := length_readMember ‹l.readMember d r = .ok (e, q)›
  omega

theorem length_readMembers {l : Layout α} {first : Bool} {d : Draft α} {v : α} {s r : List Char}
    (h : l.readMembers first d s = .ok (v, r)) : r.length < s.length := by
  fun_induction readMembers l first d s with
  | case1 => simp at h
  | case2 => simp at h
  | case3 _ _ _ _ hn =>
    simp only [Except.ok.injEq, Prod.mk.injEq] at h
    rw [← h.2]
    exact length_nextKey_closed hn
  | case4 => simp at h
  | case5 _ _ _ _ hn _ _ hm ih =>
    have := length_nextKey_element hn
    have := length_readMember hm
    have := ih h
    omega

/-- Reads the values of the given slots from the elements of a list, of which `index` have been read
before, up to its closing bracket. Slots without an element keep what the record has. -/
def readSlots (l : Layout α) (index : Nat) (record : α) :
    List (Slot α) → List Char → Except Fault (α × List Char)
  | [], s => (closeList s).map fun r => (record, r)
  | slot :: slots, s =>
    match nextElement (index = 0) s with
    | .error f => .error f
    | .ok (.closed r) =>
      match (slot :: slots).findIdx? (·.required) with
      | some i => .error (.invalidLength (index + i) l.title l.slots.length)
      | none => .ok (record, r)
    | .ok (.element r) =>
      match slot.value.read r with
      | .error f => .error f
      | .ok (change, r) => readSlots l (index + 1) (change record) slots r

theorem length_readSlots {l : Layout α} {slots : List (Slot α)} {index : Nat} {record v : α}
    {s r : List Char} (h : l.readSlots index record slots s = .ok (v, r)) :
    r.length < s.length := by
  induction slots generalizing index record s with
  | nil =>
    obtain ⟨q, hq, he⟩ := map_ok h
    simp only [Prod.mk.injEq] at he
    exact he.2 ▸ length_closeList hq
  | cons slot slots ih =>
    simp only [readSlots] at h
    split at h
    · simp at h
    · rename_i hn
      split at h
      · simp at h
      · simp only [Except.ok.injEq, Prod.mk.injEq] at h
        exact h.2 ▸ length_nextElement_closed hn
    · rename_i hn
      split at h
      · simp at h
      · rename_i hv
        have := length_nextElement_element hn
        have := slot.value.shorter hv
        have := ih h
        omega

/-- A record; the text begins with no blank. -/
def takeRecord (l : Layout α) : List Char → Except Fault (α × List Char)
  | '[' :: s => l.readSlots 0 l.blank l.slots s
  | '{' :: s => l.readMembers true { record := l.blank, seen := [] } s
  | s => .error (mismatch ("struct " ++ l.title) s)

theorem length_takeRecord {l : Layout α} {v : α} {s r : List Char}
    (h : l.takeRecord s = .ok (v, r)) : r.length < s.length := by
  unfold takeRecord at h
  split at h
  · have := length_readSlots h
    simp only [List.length_cons]
    omega
  · have := length_readMembers h
    simp only [List.length_cons]
    omega
  · simp at h

/-- Reads a record. -/
def reader (l : Layout α) : Reader α where
  read s := l.takeRecord (skipBlanks s)
  shorter h := Nat.lt_of_lt_of_le (length_takeRecord h) (length_skipBlanks _)

end Layout

/-- Reads a text that holds one value and nothing else. -/
def Reader.readAll {α : Type} (p : Reader α) (s : String) : Except Fault α :=
  match p.read s.toList with
  | .error f => .error f
  | .ok (v, r) => if skipBlanks r = [] then .ok v else .error .trailingCharacters

end ClassDiagram.Json
