import ClassDiagram.Text.Pattern.Sign

/-!
# Sets between Brackets

A set may be written between square brackets: the characters in it side by side, ranges with a
hyphen, named sets such as `[:digit:]`, further brackets, and operators between two such sets. `&&`
is for what belongs to both, `--` for what belongs to the first alone, `~~` for what belongs to just
one; they are taken from the left to the right. A `^` at the front stands for all other characters.
`bracket?` reads such a set.

What is nested too deeply is refused, so a `Nested` thing knows how deeply it is nested. What stands
alone is no deeper than itself; things side by side are one level deeper than the deepest of them.
-/

namespace ClassDiagram.Text.Pattern

/-! ### Nested things -/

/-- A thing, and how deeply it is nested. -/
structure Nested (α : Type) where
  value : α
  depth : Nat := 0

namespace Nested

variable {α β : Type}

/-- What is made of a thing, on its level. -/
def map (f : α → β) (a : Nested α) : Nested β := { value := f a.value, depth := a.depth }

/-- What is made of a thing, one level above it. -/
def above (f : α → β) (a : Nested α) : Nested β := { value := f a.value, depth := a.depth + 1 }

/-- What is made of two things, one level above both. -/
def aboveBoth (f : α → α → α) (a b : Nested α) : Nested α :=
  { value := f a.value b.value, depth := max a.depth b.depth + 1 }

/-- What is made of things side by side, the last one first. -/
def together (f : α → α → α) (nothing : α) : List (Nested α) → Nested α
  | [] => { value := nothing }
  | [a] => a
  | a :: as =>
    { value := as.foldl (fun behind front => f front.value behind) a.value
      depth := as.foldl (fun depth front => max depth front.depth) a.depth + 1 }

end Nested

/-! ### Items -/

/-- The sign at the front of a text, and what follows it. -/
def sign? (m : Mode) : List Char → Option (Sign × List Char)
  | [] => none
  | '\\' :: s => escaped? m s
  | c :: s => some (.character c false, s)

/-- The set of a sign between brackets. -/
def Sign.members? (m : Mode) : Sign → Option CharSet
  | character c _ => m.range? c c
  | set negated s => m.set? negated s
  | place _ => none

/-- The set between two signs. -/
def between? (m : Mode) : Sign → Sign → Option CharSet
  | .character first _, .character last _ => m.range? first last
  | _, _ => none

/-- The first character of a text, or in the spaced mode the first one that is not blank and does
not open a comment. -/
def ahead? (m : Mode) (s : List Char) : Option Char :=
  if m.spaced then
    match s.filter (!isBlank ·) with
    | '#' :: r => r.head?
    | r => r.head?
  else s.head?

/-- The set at the front of a text, and what follows it: those between two signs with a hyphen in
the middle, else those of one sign. A hyphen in front of the closing bracket or of another hyphen is
not in the middle. -/
def item? (m : Mode) (s : List Char) : Option (CharSet × List Char) :=
  (sign? m s).bind fun (first, r) =>
    match unspaced m r with
    | '-' :: t =>
      if ahead? m t = some ']' ∨ ahead? m t = some '-' then (first.members? m).map (·, r)
      else (sign? m (unspaced m t)).bind fun (last, r) => (between? m first last).map (·, r)
    | _ => (first.members? m).map (·, r)

/-- A named set between colons from the first colon on, or if a `^` says so all other characters,
and what follows its closing bracket. -/
def named? : List Char → Option ((Bool × CharSet) × List Char)
  | ':' :: s =>
    let negated := s.head? = some '^'
    let name := if negated then s.drop 1 else s
    match name.dropWhile (· ≠ ':') with
    | ':' :: ']' :: r =>
      (CharSet.ofName? (String.ofList (name.takeWhile (· ≠ ':')))).map fun set =>
        ((negated, set), r)
    | _ => none
  | _ => none

theorem length_sign? {m : Mode} {sign : Sign} {s r : List Char} (h : sign? m s = some (sign, r)) :
    r.length < s.length := by
  unfold sign? at h
  split at h
  · simp at h
  · exact Nat.lt_succ_of_lt (length_escaped? h)
  · simp only [Option.some.injEq, Prod.mk.injEq] at h
    simp [← h.2]

theorem length_item? {m : Mode} {set : CharSet} {s r : List Char}
    (h : item? m s = some (set, r)) : r.length < s.length := by
  obtain ⟨⟨first, t⟩, ht, h⟩ := Option.bind_eq_some_iff.1 h
  have hlt := length_sign? ht
  dsimp only at h
  split at h
  · rename_i u hu
    have hu := length_of_unspaced hu
    split at h
    · obtain ⟨a, -, ha⟩ := Option.map_eq_some_iff.1 h
      simp only [Prod.mk.injEq] at ha
      exact ha.2 ▸ hlt
    · obtain ⟨⟨last, v⟩, hv, h⟩ := Option.bind_eq_some_iff.1 h
      obtain ⟨a, -, ha⟩ := Option.map_eq_some_iff.1 h
      simp only [Prod.mk.injEq] at ha
      have := ha.2 ▸ length_sign? hv
      have := length_unspaced m u
      omega
  · obtain ⟨a, -, ha⟩ := Option.map_eq_some_iff.1 h
    simp only [Prod.mk.injEq] at ha
    exact ha.2 ▸ hlt

theorem length_named? {set : Bool × CharSet} {s r : List Char} (h : named? s = some (set, r)) :
    r.length < s.length := by
  unfold named? at h
  split at h
  · rename_i s
    dsimp only at h
    split at h
    · rename_i t ht
      obtain ⟨a, -, ha⟩ := Option.map_eq_some_iff.1 h
      simp only [Prod.mk.injEq] at ha
      have hle : (if s.head? = some '^' then s.drop 1 else s).length ≤ s.length := by
        split <;> simp
      have := (ht ▸ List.dropWhile_sublist (· ≠ ':')).length_le
      simp only [List.length_cons, ← ha.2] at *
      omega
    · simp at h
  · simp at h

/-! ### Tokens -/

/-- An operator between two sets. -/
inductive Operator
  | inter
  | diff
  | differ
deriving DecidableEq

/-- What an operator makes of two sets. -/
def Operator.apply : Operator → CharSet → CharSet → CharSet
  | inter => .inter
  | diff => .diff
  | differ => .differ

/-- The operator at the front of a text, and what follows it. -/
def operator? : List Char → Option (Operator × List Char)
  | '&' :: '&' :: s => some (.inter, s)
  | '-' :: '-' :: s => some (.diff, s)
  | '~' :: '~' :: s => some (.differ, s)
  | _ => none

theorem length_operator? {o : Operator} {s r : List Char} (h : operator? s = some (o, r)) :
    r.length < s.length := by
  unfold operator? at h
  split at h
  · simp only [Option.some.injEq, Prod.mk.injEq] at h
    simp only [← h.2, List.length_cons]
    omega
  · simp only [Option.some.injEq, Prod.mk.injEq] at h
    simp only [← h.2, List.length_cons]
    omega
  · simp only [Option.some.injEq, Prod.mk.injEq] at h
    simp only [← h.2, List.length_cons]
    omega
  · simp at h

/-- What is written between brackets. -/
inductive Bracket.Token
  | opening (negated : Bool)
  | closing
  | operator (o : Operator)
  /-- A set; `leading` says whether it is a hyphen behind which others may come. -/
  | members (set : CharSet) (leading : Bool)

/-- An open bracket: what stands in front of the last operator in it, and the sets behind that, the
last one first. `fresh` says whether nothing but hyphens stands in it. -/
structure Bracket where
  negated : Bool
  left : Option (Operator × Nested CharSet) := none
  items : List (Nested CharSet) := []
  fresh : Bool := true

namespace Bracket

/-- Adds a set. -/
def push (b : Bracket) (set : Nested CharSet) (fresh : Bool) : Bracket :=
  { b with items := set :: b.items, fresh }

/-- The set up to here. -/
def operand (b : Bracket) : Nested CharSet :=
  let right := Nested.together .union .empty b.items
  match b.left with
  | none => right
  | some (o, left) => left.aboveBoth o.apply right

/-- Adds an operator. -/
def operate (b : Bracket) (o : Operator) : Bracket :=
  { negated := b.negated, left := some (o, b.operand), fresh := false }

/-- The set, if the bracket closes here. -/
def close? (b : Bracket) (m : Mode) : Option (Nested CharSet) :=
  (m.negated? b.negated b.operand.value).map fun set => b.operand.above fun _ => set

/-- The first token of a text that stands between brackets, and what follows it. Hyphens at the
front belong to the set, and so does a closing bracket there. -/
def token? (b : Bracket) (m : Mode) (s : List Char) : Option (Token × List Char) :=
  match unspaced m s with
  | [] => none
  | c :: r =>
    if b.fresh ∧ c = '-' then (m.members? (.single '-')).map (.members · true, r)
    else if b.fresh ∧ b.items.isEmpty ∧ c = ']' then
      (m.members? (.single ']')).map (.members · false, r)
    else if c = ']' then some (.closing, r)
    else if c = '[' then
      match named? r with
      | some ((negated, set), t) =>
        ((m.members? set).bind (m.negated? negated)).map (.members · false, t)
      | none =>
        match unspaced m r with
        | '^' :: t => some (.opening true, t)
        | t => some (.opening false, t)
    else
      match operator? (c :: r) with
      | some (o, t) => some (.operator o, t)
      | none => (item? m (c :: r)).map fun (set, t) => (.members set false, t)

theorem length_token? {b : Bracket} {m : Mode} {token : Token} {s r : List Char}
    (h : b.token? m s = some (token, r)) : r.length < s.length := by
  unfold token? at h
  split at h
  · simp at h
  · rename_i c t hs
    have hlt := length_of_unspaced hs
    have hle := hs ▸ length_unspaced m s
    split at h
    · obtain ⟨a, -, ha⟩ := Option.map_eq_some_iff.1 h
      simp_all
    · split at h
      · obtain ⟨a, -, ha⟩ := Option.map_eq_some_iff.1 h
        simp_all
      · split at h
        · simp_all
        · split at h
          · split at h
            · rename_i hn
              obtain ⟨a, -, ha⟩ := Option.map_eq_some_iff.1 h
              have := length_named? hn
              simp only [Prod.mk.injEq] at ha
              have := ha.2 ▸ this
              omega
            · have := length_unspaced m t
              split at h
              · simp_all
                omega
              · simp_all
                omega
          · split at h
            · rename_i ho
              have := length_operator? ho
              simp_all
              omega
            · obtain ⟨⟨set, u⟩, hi, ha⟩ := Option.map_eq_some_iff.1 h
              have := length_item? hi
              simp_all
              omega

/-- The set from a place in an open bracket on, and what follows its closing bracket; `outer` are
the brackets around it. -/
def read? (m : Mode) (outer : List Bracket) (b : Bracket) (s : List Char) :
    Option (Nested CharSet × List Char) :=
  match _ : b.token? m s with
  | none => none
  | some (.opening negated, r) => read? m (b :: outer) { negated } r
  | some (.operator o, r) => read? m outer (b.operate o) r
  | some (.members set leading, r) => read? m outer (b.push { value := set } leading) r
  | some (.closing, r) =>
    match b.close? m, outer with
    | none, _ => none
    | some set, [] => some (set, r)
    | some set, o :: outer => read? m outer (o.push set false) r
termination_by s.length
decreasing_by all_goals exact length_token? ‹b.token? m s = _›

theorem length_read? {m : Mode} {outer : List Bracket} {b : Bracket} {set : Nested CharSet}
    {s r : List Char} (h : read? m outer b s = some (set, r)) : r.length < s.length := by
  fun_induction read? m outer b s with
  | case1 => simp at h
  | case2 _ _ _ _ _ ht ih => exact Nat.lt_trans (ih h) (length_token? ht)
  | case3 _ _ _ _ _ ht ih => exact Nat.lt_trans (ih h) (length_token? ht)
  | case4 _ _ _ _ _ _ ht ih => exact Nat.lt_trans (ih h) (length_token? ht)
  | case5 => simp at h
  | case6 _ _ _ ht =>
    simp only [Option.some.injEq, Prod.mk.injEq] at h
    exact h.2 ▸ length_token? ht
  | case7 _ _ _ ht _ _ _ _ ih => exact Nat.lt_trans (ih h) (length_token? ht)

end Bracket

/-- The set between brackets from right behind the opening one, and what follows the closing
one. -/
def bracket? (m : Mode) (s : List Char) : Option (Nested CharSet × List Char) :=
  match unspaced m s with
  | '^' :: r => Bracket.read? m [] { negated := true } r
  | r => Bracket.read? m [] { negated := false } r

theorem length_bracket? {m : Mode} {set : Nested CharSet} {s r : List Char}
    (h : bracket? m s = some (set, r)) : r.length < s.length := by
  have hle := length_unspaced m s
  unfold bracket? at h
  split at h
  · rename_i hs
    exact Nat.lt_trans (Bracket.length_read? h) (length_of_unspaced hs)
  · exact Nat.lt_of_lt_of_le (Bracket.length_read? h) hle

end ClassDiagram.Text.Pattern
