import ClassDiagram.Text.Integer
import ClassDiagram.Text.Pattern.Mode

/-!
# Signs

A `Sign` is what a backslash and the characters behind it stand for, or a character without a
meaning of its own. In the spaced mode blanks and comments may stand in front of a sign and between
the digits of one; `unspaced` skips them.
-/

namespace ClassDiagram.Text

/-! ### Blanks and comments -/

/-- The ranges of the characters with the property `White_Space`, which Unicode has not changed
since its version 6.3. Both ends of a range belong to it. -/
def blankRanges : List (Nat × Nat) :=
  [(0x9, 0xd), (0x20, 0x20), (0x85, 0x85), (0xa0, 0xa0), (0x1680, 0x1680), (0x2000, 0x200a),
    (0x2028, 0x2029), (0x202f, 0x202f), (0x205f, 0x205f), (0x3000, 0x3000)]

/-- Whether a character is blank. -/
def isBlank (c : Char) : Bool :=
  blankRanges.any fun range => range.1 ≤ c.toNat && c.toNat ≤ range.2

namespace Pattern

/-- A text without the blanks and comments at its front. A comment goes from `#` to the end of the
line; `comment` says that the text begins within one. -/
def behindBlanks (comment : Bool) : List Char → List Char
  | [] => []
  | c :: s =>
    if comment then behindBlanks (c ≠ '\n') s
    else if isBlank c then behindBlanks false s
    else if c = '#' then behindBlanks true s
    else c :: s

/-- A text without the blanks and comments at its front if the mode has them. -/
def unspaced (m : Mode) (s : List Char) : List Char := if m.spaced then behindBlanks false s else s

theorem length_behindBlanks (comment : Bool) (s : List Char) :
    (behindBlanks comment s).length ≤ s.length := by
  induction s generalizing comment with
  | nil => exact Nat.le_refl _
  | cons c s ih =>
    unfold behindBlanks
    split
    · exact Nat.le_succ_of_le (ih _)
    · split
      · exact Nat.le_succ_of_le (ih _)
      · split
        · exact Nat.le_succ_of_le (ih _)
        · exact Nat.le_refl _

theorem length_unspaced (m : Mode) (s : List Char) : (unspaced m s).length ≤ s.length := by
  unfold unspaced
  split
  · exact length_behindBlanks false s
  · exact Nat.le_refl _

theorem length_of_unspaced {m : Mode} {s r : List Char} {c : Char} (h : unspaced m s = c :: r) :
    r.length < s.length := by
  have hle := length_unspaced m s
  rw [h] at hle
  exact hle

/-! ### Signs -/

/-- A character, or what a backslash makes of those behind it. -/
inductive Sign
  /-- A character; `byte` says whether two digits spell it. -/
  | character (c : Char) (byte : Bool)
  /-- A set of characters, or if `negated` all others. -/
  | set (negated : Bool) (s : CharSet)
  | place (p : Place)

/-- A number in so many hexadecimal digits, of which `value` has been read, and what is behind
it. -/
def hexadecimal? (m : Mode) : Nat → Nat → List Char → Option (Nat × List Char)
  | 0, value, s => some (value, unspaced m s)
  | n + 1, value, s =>
    match unspaced m s with
    | [] => none
    | c :: r => (hexDigit? c).bind fun d => hexadecimal? m n (16 * value + d) r

theorem length_hexadecimal? {m : Mode} {n value code : Nat} {s r : List Char}
    (h : hexadecimal? m n value s = some (code, r)) : r.length ≤ s.length := by
  fun_induction hexadecimal? m n value s with
  | case1 value s =>
    simp only [Option.some.injEq, Prod.mk.injEq] at h
    exact h.2 ▸ length_unspaced m s
  | case2 => simp at h
  | case3 n value s c t hs ih =>
    obtain ⟨d, -, hd⟩ := Option.bind_eq_some_iff.1 h
    exact Nat.le_trans (ih d hd) (Nat.le_of_lt (length_of_unspaced hs))

/-- The character with a code, if there is one. -/
def ofCode? (code : Nat) : Option Char := if code.isValidChar then some (Char.ofNat code) else none

/-- The character that so many digits spell, and what is behind them. -/
def spelt? (m : Mode) (n : Nat) (s : List Char) : Option (Sign × List Char) := do
  let (code, r) ← hexadecimal? m n 0 s
  let c ← ofCode? code
  return (.character c (n = 2), r)

/-- What a backslash makes of a single character behind it. One that is neither a letter nor a digit
of ASCII loses its meaning. -/
def letterSign? (c : Char) : Option Sign :=
  match c with
  | 'd' => some (.set false .digits)
  | 'D' => some (.set true .digits)
  | 's' => some (.set false .blanks)
  | 'S' => some (.set true .blanks)
  | 'w' => some (.set false .wordLetters)
  | 'W' => some (.set true .wordLetters)
  | 'A' => some (.place .textStart)
  | 'z' => some (.place .textEnd)
  | 'b' => some (.place .wordBorder)
  | 'B' => some (.place .noWordBorder)
  | '<' => some (.place .wordStart)
  | '>' => some (.place .wordEnd)
  | 'a' => some (.character '\x07' false)
  | 't' => some (.character '\t' false)
  | 'n' => some (.character '\n' false)
  | 'v' => some (.character '\x0b' false)
  | 'f' => some (.character '\x0c' false)
  | 'r' => some (.character '\r' false)
  | c => if c.isAlphanum || 0x80 ≤ c.toNat then none else some (.character c false)

/-- What a backslash makes of the characters behind it, and what follows them. -/
def escaped? (m : Mode) : List Char → Option (Sign × List Char)
  | [] => none
  | 'x' :: s => spelt? m 2 s
  | 'u' :: s => spelt? m 4 s
  | 'U' :: s => spelt? m 8 s
  | c :: s => (letterSign? c).map (·, s)

theorem length_spelt? {m : Mode} {n : Nat} {sign : Sign} {s r : List Char}
    (h : spelt? m n s = some (sign, r)) : r.length ≤ s.length := by
  obtain ⟨⟨code, t⟩, ht, h⟩ := Option.bind_eq_some_iff.1 h
  obtain ⟨c, -, h⟩ := Option.bind_eq_some_iff.1 h
  simp only [Option.pure_def, Option.some.injEq, Prod.mk.injEq] at h
  exact h.2 ▸ length_hexadecimal? ht

theorem length_escaped? {m : Mode} {sign : Sign} {s r : List Char}
    (h : escaped? m s = some (sign, r)) : r.length < s.length := by
  unfold escaped? at h
  split at h
  · simp at h
  · exact Nat.lt_succ_of_le (length_spelt? h)
  · exact Nat.lt_succ_of_le (length_spelt? h)
  · exact Nat.lt_succ_of_le (length_spelt? h)
  · obtain ⟨a, -, ha⟩ := Option.map_eq_some_iff.1 h
    simp only [Prod.mk.injEq] at ha
    simp [← ha.2]

/-- The pattern of a sign. -/
def Sign.pattern? (m : Mode) : Sign → Option Pattern
  | character c byte => (m.character? c byte).map .oneOf
  | set negated s => (m.set? negated s).map .oneOf
  | place p => (m.place? p).map .place

end Pattern

end ClassDiagram.Text
