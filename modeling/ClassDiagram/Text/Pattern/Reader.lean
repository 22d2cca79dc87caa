import ClassDiagram.Text.Numeral
import ClassDiagram.Text.Pattern.Bracket

/-!
# Written Patterns

`ofText?` reads the written form of a `Pattern`. A repetition takes what stands right in front of
it, a bar all that stands around it up to the parentheses. Between parentheses, letters behind a
question mark change the mode up to the closing one. A pattern is refused if it is nested more
deeply than `depthLimit`.
-/

namespace ClassDiagram.Text.Pattern

/-! ### Tokens -/

/-- How often something is repeated. -/
inductive Repetition
  | star
  | plus
  | optional
deriving DecidableEq

/-- The repetition of a pattern. -/
def Repetition.apply (greedy : Bool) : Repetition → Pattern → Pattern
  | star, p => .star p greedy
  | plus, p => .plus p greedy
  | optional, p => .optional p greedy

/-- What is written in a pattern. -/
inductive Token
  | part (p : Nested Pattern)
  /-- A group opens, with the mode within it and its name if it has one. -/
  | opening (m : Mode) (name : Option String)
  | closing
  | bar
  | repeated (r : Repetition) (greedy : Bool)
  /-- The mode changes. -/
  | switch (m : Mode)

/-- Whether a text may be the name of a group. -/
def isName : List Char → Bool
  | [] => false
  | c :: s =>
    (c = '_' || isLetter c) &&
      s.all fun c => c = '_' || c = '.' || c = '[' || c = ']' || isAlphanumeric c

/-- The opening of a group with a name, from the name on, and what follows it. -/
def namedGroup? (m : Mode) (s : List Char) : Option (Token × List Char) :=
  let name := s.takeWhile (· ≠ '>')
  match s.dropWhile (· ≠ '>') with
  | [] => none
  | _ :: r => if isName name then some (.opening m (some (String.ofList name)), r) else none

/-- The opening of a group without a name or a change of the mode, from the letters on, and what
follows it. -/
def switchedGroup? (m : Mode) (s : List Char) : Option (Token × List Char) :=
  let letters := s.takeWhile fun c => c ≠ ':' && c ≠ ')'
  (m.switched? letters).bind fun m =>
    match s.dropWhile fun c => c ≠ ':' && c ≠ ')' with
    | ':' :: r => some (.opening m none, r)
    | ')' :: r => if letters.isEmpty then none else some (.switch m, r)
    | _ => none

/-- What an opening parenthesis begins, and what follows it. -/
def group? (m : Mode) (s : List Char) : Option (Token × List Char) :=
  match unspaced m s with
  | '?' :: 'P' :: '<' :: r => namedGroup? m r
  | '?' :: '<' :: r => namedGroup? m r
  | '?' :: r => switchedGroup? m r
  | r => some (.opening m none, r)

/-- A repetition, and what follows it. A question mark behind it swaps the preference. -/
def repetition (m : Mode) (r : Repetition) : List Char → Token × List Char
  | '?' :: s => (.repeated r m.sparing, s)
  | s => (.repeated r (!m.sparing), s)

/-- A part that takes one character, if there is a set for it. -/
def Token.ofSet? (set : Option CharSet) : Option Token :=
  set.map fun set => .part { value := .oneOf set }

/-- The first token of a text, and what follows it. Repetitions between braces are none. -/
def token? (m : Mode) : List Char → Option (Token × List Char)
  | [] => none
  | '(' :: s => group? m s
  | ')' :: s => some (.closing, s)
  | '|' :: s => some (.bar, s)
  | '*' :: s => some (repetition m .star s)
  | '+' :: s => some (repetition m .plus s)
  | '?' :: s => some (repetition m .optional s)
  | '\x7b' :: _ => none
  | '[' :: s => (bracket? m s).map fun (set, r) => (.part (set.map .oneOf), r)
  | '.' :: s => (Token.ofSet? m.point?).map (·, s)
  | '^' :: s => some (.part { value := .place m.start }, s)
  | '$' :: s => some (.part { value := .place m.finish }, s)
  | s => (sign? m s).bind fun (sign, r) =>
    (sign.pattern? m).map fun p => (.part { value := p }, r)

theorem length_namedGroup? {m : Mode} {token : Token} {s r : List Char}
    (h : namedGroup? m s = some (token, r)) : r.length < s.length := by
  unfold namedGroup? at h
  dsimp only at h
  split at h
  · simp at h
  · rename_i c t ht
    have := (ht ▸ List.dropWhile_sublist (· ≠ '>')).length_le
    split at h
    · simp only [Option.some.injEq, Prod.mk.injEq] at h
      exact h.2 ▸ this
    · simp at h

theorem length_switchedGroup? {m : Mode} {token : Token} {s r : List Char}
    (h : switchedGroup? m s = some (token, r)) : r.length < s.length := by
  obtain ⟨n, -, h⟩ := Option.bind_eq_some_iff.1 h
  have hle := (s.dropWhile_sublist fun c => c ≠ ':' && c ≠ ')').length_le
  split at h
  · rename_i t ht
    simp only [Option.some.injEq, Prod.mk.injEq] at h
    rw [ht] at hle
    exact h.2 ▸ hle
  · rename_i t ht
    split at h
    · simp at h
    · simp only [Option.some.injEq, Prod.mk.injEq] at h
      rw [ht] at hle
      exact h.2 ▸ hle
  · simp at h

theorem length_group? {m : Mode} {token : Token} {s r : List Char}
    (h : group? m s = some (token, r)) : r.length ≤ s.length := by
  have hle := length_unspaced m s
  unfold group? at h
  split at h
  · rename_i t ht
    have := length_namedGroup? h
    simp only [ht, List.length_cons] at hle
    omega
  · rename_i t ht
    have := length_namedGroup? h
    simp only [ht, List.length_cons] at hle
    omega
  · rename_i t ht
    have := length_switchedGroup? h
    simp only [ht, List.length_cons] at hle
    omega
  · simp only [Option.some.injEq, Prod.mk.injEq] at h
    exact h.2 ▸ hle

theorem length_repetition {m : Mode} {rep : Repetition} {token : Token} {s r : List Char}
    (h : repetition m rep s = (token, r)) : r.length ≤ s.length := by
  unfold repetition at h
  split at h
  · simp only [Prod.mk.injEq] at h
    simp [← h.2]
  · simp only [Prod.mk.injEq] at h
    simp [← h.2]

theorem length_token? {m : Mode} {token : Token} {s r : List Char}
    (h : token? m s = some (token, r)) : r.length < s.length := by
  unfold token? at h
  split at h
  · simp at h
  · exact Nat.lt_succ_of_le (length_group? h)
  · simp_all
  · simp_all
  · exact Nat.lt_succ_of_le (length_repetition (Option.some.inj h))
  · exact Nat.lt_succ_of_le (length_repetition (Option.some.inj h))
  · exact Nat.lt_succ_of_le (length_repetition (Option.some.inj h))
  · simp at h
  · obtain ⟨⟨set, t⟩, ht, ha⟩ := Option.map_eq_some_iff.1 h
    simp only [Prod.mk.injEq] at ha
    exact Nat.lt_succ_of_lt (ha.2 ▸ length_bracket? ht)
  · obtain ⟨a, -, ha⟩ := Option.map_eq_some_iff.1 h
    simp only [Prod.mk.injEq] at ha
    simp [← ha.2]
  · simp_all
  · simp_all
  · obtain ⟨⟨sign, t⟩, ht, h⟩ := Option.bind_eq_some_iff.1 h
    obtain ⟨a, -, ha⟩ := Option.map_eq_some_iff.1 h
    simp only [Prod.mk.injEq] at ha
    exact ha.2 ▸ length_sign? ht

/-! ### Nesting -/

/-- A part of a pattern. A change of the mode is one that cannot be repeated. -/
structure RecordPart where
  pattern : Nested Pattern
  repeatable : Bool := true

/-- A group up to a place in it, with the mode that holds behind it: what stands in front of the
last bar, the last choice first, and what stands behind it, the last part first. -/
structure Group where
  outside : Mode
  choices : List (Nested Pattern) := []
  parts : List RecordPart := []

namespace Group

/-- What stands behind the last bar. -/
def last (g : Group) : Nested Pattern := .together .seq .empty (g.parts.map (·.pattern))

/-- The pattern, if it ends here. -/
def pattern (g : Group) : Nested Pattern := .together .choice .empty (g.last :: g.choices)

/-- Adds a part. -/
def push (g : Group) (p : RecordPart) : Group := { g with parts := p :: g.parts }

/-- Adds a bar. -/
def bar (g : Group) : Group := { g with choices := g.last :: g.choices, parts := [] }

/-- Repeats the last part, if there is one that can be repeated. -/
def repeated? (g : Group) (r : Repetition) (greedy : Bool) : Option Group :=
  match g.parts with
  | [] => none
  | p :: ps =>
    if p.repeatable then
      some { g with parts := { pattern := p.pattern.above (r.apply greedy) } :: ps }
    else none

end Group

/-- The pattern whose rest is a text, within a group and those around it. No two groups have the
same name; `names` are those that are taken. -/
def nest? (names : List String) (outer : List Group) (g : Group) (m : Mode) (s : List Char) :
    Option (Nested Pattern) :=
  if (unspaced m s).isEmpty then if outer.isEmpty then some g.pattern else none
  else
    match _ : token? m (unspaced m s) with
    | none => none
    | some (.part p, r) => nest? names outer (g.push { pattern := p }) m r
    | some (.opening n name, r) =>
      if names.any (some · = name) then none
      else nest? (name.toList ++ names) (g :: outer) { outside := m } n r
    | some (.closing, r) =>
      match outer with
      | [] => none
      | o :: outer => nest? names outer (o.push { pattern := g.pattern.above id }) g.outside r
    | some (.bar, r) => nest? names outer g.bar m r
    | some (.repeated rep greedy, r) =>
      match g.repeated? rep greedy with
      | none => none
      | some g => nest? names outer g m r
    | some (.switch n, r) =>
      nest? names outer (g.push { pattern := { value := .empty }, repeatable := false }) n r
termination_by s.length
decreasing_by
  all_goals
    exact Nat.lt_of_lt_of_le (length_token? ‹token? m (unspaced m s) = _›) (length_unspaced m s)

/-- The greatest depth of a pattern. -/
def depthLimit : Nat := 250

/-- The pattern that a text spells, if it spells one. -/
def ofText? (text : String) : Option Pattern :=
  (nest? [] [] { outside := {} } {} text.toList).bind fun p =>
    if p.depth ≤ depthLimit then some p.value else none

end ClassDiagram.Text.Pattern
