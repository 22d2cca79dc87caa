import ClassDiagram.Text.Integer

/-!
# Written Numbers

`isNumber` holds of the texts that spell a number in decimal digits, with an optional sign, an
optional point and an optional exponent, and of the words for what is no real number.
-/

namespace ClassDiagram.Text

/-- A text without the digits at its front, if there are any. -/
def behindDigits? (s : List Char) : Option (List Char) :=
  if s.head?.any isDigit then some (s.dropWhile isDigit) else none

/-- A text without the sign at its front. -/
def behindSign : List Char → List Char
  | '-' :: s => s
  | '+' :: s => s
  | s => s

/-- Whether a text is the exponent of a number, or empty. -/
def isExponent : List Char → Bool
  | [] => true
  | c :: s => (c = 'e' || c = 'E') && behindDigits? (behindSign s) == some []

/-- Whether a text is a number without a sign: digits with an optional point behind, between or in
front of them, and an optional exponent. -/
def isUnsignedNumber (s : List Char) : Bool :=
  match behindDigits? s, s with
  | some ('.' :: r), _ => isExponent ((behindDigits? r).getD r)
  | some r, _ => isExponent r
  | none, '.' :: r => (behindDigits? r).any isExponent
  | none, _ => false

/-- The words for what is no real number. -/
def unrealWords : List String := ["inf", "infinity", "nan"]

/-- Whether a text is a number. -/
def isNumber (s : List Char) : Bool :=
  let s := behindSign s
  unrealWords.contains (String.ofList s).toLower || isUnsignedNumber s

end ClassDiagram.Text
