import ClassDiagram.Json.Fault
import ClassDiagram.Text.Integer

/-!
# Lexemes of JSON

Blanks, words, strings and numbers, each taken off the front of a text given as its characters. A
reader of a lexeme returns what it means, if that matters, and the text behind it, which is
shorter; the lemmas named `length_…` say so.

A string is read in one of two ways: `readText` decodes it, `skipText` only finds its end and so
lets surrogates pass that stand alone.
-/

namespace ClassDiagram.Json

/-! ### Blanks and words -/

/-- The four blank characters. -/
def isBlank (c : Char) : Bool := c = ' ' || c = '\t' || c = '\n' || c = '\r'

/-- The text without the blanks at its front. -/
def skipBlanks (s : List Char) : List Char := s.dropWhile isBlank

theorem length_skipBlanks (s : List Char) : (skipBlanks s).length ≤ s.length :=
  (List.dropWhile_sublist isBlank).length_le

theorem length_of_skipBlanks {s r : List Char} {c : Char} (h : skipBlanks s = c :: r) :
    r.length < s.length := by
  have := length_skipBlanks s
  rw [h, List.length_cons] at this
  omega

/-- The text behind a word that has to stand at its front. -/
def skipWord : List Char → List Char → Except Fault (List Char)
  | [], s => .ok s
  | _ :: _, [] => .error .endOfValue
  | c :: word, d :: s => if d = c then skipWord word s else .error .expectedWord

theorem length_skipWord {word s r : List Char} (h : skipWord word s = .ok r) :
    r.length ≤ s.length := by
  induction word generalizing s with
  | nil => simp [skipWord] at h; simp [h]
  | cons c word ih =>
    cases s with
    | nil => simp [skipWord] at h
    | cons d s =>
      simp only [skipWord] at h
      split at h
      · have := ih h
        simp only [List.length_cons]
        omega
      · simp at h

/-- The text behind the colon between a key and its value. -/
def skipColon (s : List Char) : Except Fault (List Char) :=
  match skipBlanks s with
  | [] => .error .endOfObject
  | ':' :: r => .ok r
  | _ => .error .expectedColon

theorem length_skipColon {s r : List Char} (h : skipColon s = .ok r) : r.length < s.length := by
  simp only [skipColon] at h
  split at h
  · simp at h
  · rename_i hs
    simp only [Except.ok.injEq] at h
    exact h ▸ length_of_skipBlanks hs
  · simp at h

/-! ### Escapes -/

/-- The number of bytes of a text in UTF-8. -/
def utf8Length (s : List Char) : Nat := (String.ofList s).utf8ByteSize

/-- The unit that four hexadecimal digits spell. A text of fewer than four bytes ends too early;
otherwise whatever stands in the place of a digit is at fault. -/
def readUnit : List Char → Except Fault (Nat × List Char)
  | a :: b :: c :: d :: r =>
    match Text.hexDigit? a, Text.hexDigit? b, Text.hexDigit? c, Text.hexDigit? d with
    | some a, some b, some c, some d => .ok (((a * 16 + b) * 16 + c) * 16 + d, r)
    | _, _, _, _ => .error .invalidEscape
  | s => .error (if utf8Length s < 4 then .endOfText else .invalidEscape)

theorem length_readUnit {s r : List Char} {u : Nat} (h : readUnit s = .ok (u, r)) :
    r.length < s.length := by
  unfold readUnit at h
  split at h
  · split at h
    · simp only [Except.ok.injEq, Prod.mk.injEq] at h
      simp only [← h.2, List.length_cons]
      omega
    · simp at h
  · simp at h

/-- A unit that begins a surrogate pair. -/
def IsHighSurrogate (u : Nat) : Prop := 0xD800 ≤ u ∧ u ≤ 0xDBFF

/-- A unit that ends a surrogate pair. -/
def IsLowSurrogate (u : Nat) : Prop := 0xDC00 ≤ u ∧ u ≤ 0xDFFF

instance (u : Nat) : Decidable (IsHighSurrogate u) := inferInstanceAs (Decidable (_ ∧ _))

instance (u : Nat) : Decidable (IsLowSurrogate u) := inferInstanceAs (Decidable (_ ∧ _))

/-- The character that a surrogate pair stands for. -/
def joinSurrogates (high low : Nat) : Char :=
  Char.ofNat (0x10000 + (high - 0xD800) * 0x400 + (low - 0xDC00))

/-- The second half of a surrogate pair, which has to be an escape again. -/
def readLowSurrogate (high : Nat) : List Char → Except Fault (Char × List Char)
  | [] => .error .endOfText
  | ['\\'] => .error .endOfText
  | '\\' :: 'u' :: s =>
    match readUnit s with
    | .error f => .error f
    | .ok (low, r) =>
      if IsLowSurrogate low then .ok (joinSurrogates high low, r) else .error .loneSurrogate
  | _ => .error .unfinishedSurrogate

theorem length_readLowSurrogate {high : Nat} {s r : List Char} {c : Char}
    (h : readLowSurrogate high s = .ok (c, r)) : r.length < s.length := by
  unfold readLowSurrogate at h
  split at h
  · simp at h
  · simp at h
  · split at h
    · simp at h
    · rename_i hu
      split at h
      · simp only [Except.ok.injEq, Prod.mk.injEq] at h
        have := length_readUnit hu
        simp only [List.length_cons, ← h.2]
        omega
      · simp at h
  · simp at h

/-- The character that an escape of one letter stands for. -/
def shortEscape? : Char → Option Char
  | '"' => some '"'
  | '\\' => some '\\'
  | '/' => some '/'
  | 'b' => some '\x08'
  | 'f' => some '\x0c'
  | 'n' => some '\n'
  | 'r' => some '\r'
  | 't' => some '\t'
  | _ => none

/-- The character that an escape stands for; the text begins behind the backslash. -/
def readEscape : List Char → Except Fault (Char × List Char)
  | [] => .error .endOfText
  | 'u' :: s =>
    match readUnit s with
    | .error f => .error f
    | .ok (u, r) =>
      if IsLowSurrogate u then .error .loneSurrogate
      else if IsHighSurrogate u then readLowSurrogate u r
      else .ok (Char.ofNat u, r)
  | c :: r =>
    match shortEscape? c with
    | some d => .ok (d, r)
    | none => .error .invalidEscape

theorem length_readEscape {s r : List Char} {c : Char} (h : readEscape s = .ok (c, r)) :
    r.length < s.length := by
  unfold readEscape at h
  split at h
  · simp at h
  · split at h
    · simp at h
    · rename_i hu
      have hlt := length_readUnit hu
      split at h
      · simp at h
      · split at h
        · have := length_readLowSurrogate h
          simp only [List.length_cons]
          omega
        · simp only [Except.ok.injEq, Prod.mk.injEq] at h
          simp only [List.length_cons, ← h.2]
          omega
  · split at h
    · simp only [Except.ok.injEq, Prod.mk.injEq] at h
      simp [← h.2]
    · simp at h

/-- The text behind an escape, whatever it stands for; the text begins behind the backslash. -/
def skipEscape : List Char → Except Fault (List Char)
  | [] => .error .endOfText
  | 'u' :: s => (readUnit s).map (·.2)
  | c :: r => if (shortEscape? c).isSome then .ok r else .error .invalidEscape

theorem length_skipEscape {s r : List Char} (h : skipEscape s = .ok r) : r.length < s.length := by
  unfold skipEscape at h
  split at h
  · simp at h
  · rename_i s
    cases hu : readUnit s with
    | error f => simp [hu, Except.map] at h
    | ok p =>
      have := length_readUnit (u := p.1) (r := p.2) hu
      simp only [hu, Except.map, Except.ok.injEq] at h
      simp only [List.length_cons, ← h]
      omega
  · split at h
    · simp only [Except.ok.injEq] at h
      simp [← h]
    · simp at h

/-! ### Strings -/

/-- A character that may not stand in a string as it is. -/
def isControl (c : Char) : Bool := c.toNat < 0x20

/-- The string up to its closing quote; the text begins behind the opening one. `front` holds the
characters read so far, the last first. -/
def readText (front : List Char) (s : List Char) : Except Fault (String × List Char) :=
  match s with
  | [] => .error .endOfText
  | '"' :: r => .ok (String.ofList front.reverse, r)
  | '\\' :: s =>
    match _ : readEscape s with
    | .error f => .error f
    | .ok (c, r) => readText (c :: front) r
  | c :: r => if isControl c then .error .controlCharacter else readText (c :: front) r
termination_by s.length
decreasing_by
  · have := length_readEscape ‹readEscape s = .ok (c, r)›
    simp only [List.length_cons]
    omega
  · simp

theorem length_readText {front s r : List Char} {w : String} (h : readText front s = .ok (w, r)) :
    r.length < s.length := by
  fun_induction readText front s with
  | case1 => simp at h
  | case2 => simp_all
  | case3 => simp at h
  | case4 _ _ _ _ hc ih =>
    have := ih h
    have := length_readEscape hc
    simp only [List.length_cons]
    omega
  | case5 => simp at h
  | case6 _ _ _ _ _ _ ih =>
    have := ih h
    simp only [List.length_cons]
    omega

/-- The text behind the closing quote of a string; the text begins behind the opening one. -/
def skipText (s : List Char) : Except Fault (List Char) :=
  match s with
  | [] => .error .endOfText
  | '"' :: r => .ok r
  | '\\' :: s =>
    match _ : skipEscape s with
    | .error f => .error f
    | .ok r => skipText r
  | c :: r => if isControl c then .error .controlCharacter else skipText r
termination_by s.length
decreasing_by
  · have := length_skipEscape ‹skipEscape s = .ok r›
    simp only [List.length_cons]
    omega
  · simp

theorem length_skipText {s r : List Char} (h : skipText s = .ok r) : r.length < s.length := by
  fun_induction skipText s with
  | case1 => simp at h
  | case2 => simp_all
  | case3 => simp at h
  | case4 _ _ hc ih =>
    have := ih h
    have := length_skipEscape hc
    simp only [List.length_cons]
    omega
  | case5 => simp at h
  | case6 _ _ _ _ _ ih =>
    have := ih h
    simp only [List.length_cons]
    omega

/-! ### Numbers -/

/-- The text behind the digits at its front. -/
def skipDigits (s : List Char) : List Char := s.dropWhile Text.isDigit

theorem length_skipDigits (s : List Char) : (skipDigits s).length ≤ s.length :=
  (List.dropWhile_sublist Text.isDigit).length_le

/-- The text behind one or more digits. -/
def skipDigits1? : List Char → Option (List Char)
  | c :: s => if Text.isDigit c then some (skipDigits s) else none
  | [] => none

/-- The text behind the digits of a whole part, which begins with zero only if it is zero. -/
def skipWhole? : List Char → Option (List Char)
  | '0' :: s => if s.head?.any Text.isDigit then none else some s
  | s => skipDigits1? s

/-- The text behind a fraction, if there is one. -/
def skipFraction? : List Char → Option (List Char)
  | '.' :: s => skipDigits1? s
  | s => some s

/-- The text without the sign at its front. -/
def skipSign : List Char → List Char
  | '+' :: s => s
  | '-' :: s => s
  | s => s

/-- The text behind an exponent, if there is one. -/
def skipExponent? : List Char → Option (List Char)
  | 'e' :: s => skipDigits1? (skipSign s)
  | 'E' :: s => skipDigits1? (skipSign s)
  | s => some s

/-- The text behind an unsigned number. -/
def skipUnsigned? (s : List Char) : Option (List Char) :=
  ((skipWhole? s).bind skipFraction?).bind skipExponent?

/-- The text without the minus at its front. -/
def skipMinus : List Char → List Char
  | '-' :: s => s
  | s => s

/-- The text behind a number of any size. -/
def skipNumber (s : List Char) : Except Fault (List Char) :=
  match skipUnsigned? (skipMinus s) with
  | some r => .ok r
  | none => .error .invalidNumber

theorem length_skipDigits1? {s r : List Char} (h : skipDigits1? s = some r) :
    r.length < s.length := by
  unfold skipDigits1? at h
  split at h
  · rename_i c s
    split at h
    · have := length_skipDigits s
      simp only [Option.some.injEq] at h
      simp only [List.length_cons, ← h]
      omega
    · simp at h
  · simp at h

theorem length_skipWhole? {s r : List Char} (h : skipWhole? s = some r) :
    r.length < s.length := by
  unfold skipWhole? at h
  split at h
  · split at h
    · simp at h
    · simp only [Option.some.injEq] at h
      simp [← h]
  · exact length_skipDigits1? h

theorem length_skipFraction? {s r : List Char} (h : skipFraction? s = some r) :
    r.length ≤ s.length := by
  unfold skipFraction? at h
  split at h
  · have := length_skipDigits1? h
    simp only [List.length_cons]
    omega
  · simp only [Option.some.injEq] at h
    simp [h]

theorem length_skipSign (s : List Char) : (skipSign s).length ≤ s.length := by
  unfold skipSign
  split <;> simp

theorem length_skipExponent? {s r : List Char} (h : skipExponent? s = some r) :
    r.length ≤ s.length := by
  unfold skipExponent? at h
  split at h
  · rename_i s
    have := length_skipDigits1? h
    have := length_skipSign s
    simp only [List.length_cons]
    omega
  · rename_i s
    have := length_skipDigits1? h
    have := length_skipSign s
    simp only [List.length_cons]
    omega
  · simp only [Option.some.injEq] at h
    simp [h]

theorem length_skipUnsigned? {s r : List Char} (h : skipUnsigned? s = some r) :
    r.length < s.length := by
  simp only [skipUnsigned?, Option.bind_eq_some_iff] at h
  obtain ⟨b, ⟨a, ha, hb⟩, hr⟩ := h
  have := length_skipWhole? ha
  have := length_skipFraction? hb
  have := length_skipExponent? hr
  omega

theorem length_skipMinus (s : List Char) : (skipMinus s).length ≤ s.length := by
  unfold skipMinus
  split <;> simp

theorem length_skipNumber {s r : List Char} (h : skipNumber s = .ok r) : r.length < s.length := by
  simp only [skipNumber] at h
  split at h
  · rename_i hs
    have := length_skipUnsigned? hs
    have := length_skipMinus s
    simp only [Except.ok.injEq] at h
    subst h
    omega
  · simp at h

end ClassDiagram.Json
