import ClassDiagram.Json.Lexeme

/-!
# Skipping a Value

A value that nobody wants is only checked for being JSON. `Skip.step` takes one scalar, one opening
or closing bracket, or one separator with what follows it, off the front of the text, and
`Skip.run` repeats this until the value is complete. The brackets that are still open are a list,
so values of any nesting depth are skipped alike.
-/

namespace ClassDiagram.Json

/-- The two sorts of brackets. -/
inductive Bracket
  | square
  | curly
deriving DecidableEq

namespace Skip

/-- Where a skipped value stands; `outer` are the brackets that are still open, the inmost first. -/
inductive State
  /-- In front of a value. -/
  | value (outer : List Bracket)
  /-- Right behind an opening bracket. -/
  | opened (bracket : Bracket) (outer : List Bracket)
  /-- Right behind a value. -/
  | behind (outer : List Bracket)
deriving DecidableEq

/-- Takes a scalar or an opening bracket; the text begins with no blank. -/
def takeValue (outer : List Bracket) : List Char → Except Fault (State × List Char)
  | [] => .error .endOfValue
  | '[' :: s => .ok (.opened .square outer, s)
  | '{' :: s => .ok (.opened .curly outer, s)
  | '"' :: s => (skipText s).map fun r => (.behind outer, r)
  | 'n' :: s => (skipWord ['u', 'l', 'l'] s).map fun r => (.behind outer, r)
  | 't' :: s => (skipWord ['r', 'u', 'e'] s).map fun r => (.behind outer, r)
  | 'f' :: s => (skipWord ['a', 'l', 's', 'e'] s).map fun r => (.behind outer, r)
  | c :: s =>
    if c = '-' || Text.isDigit c then (skipNumber (c :: s)).map fun r => (.behind outer, r)
    else .error .expectedValue

/-- Takes a key and its colon; the text begins with no blank. -/
def takeKey (outer : List Bracket) : List Char → Except Fault (State × List Char)
  | [] => .error .endOfObject
  | '"' :: s =>
    match skipText s with
    | .error f => .error f
    | .ok r => (skipColon r).map fun r => (.value (.curly :: outer), r)
  | _ => .error .keyNotText

/-- Takes what comes next. -/
def step (state : State) (s : List Char) : Except Fault (State × List Char) :=
  match state with
  | .value outer => takeValue outer (skipBlanks s)
  | .opened .square outer =>
    match skipBlanks s with
    | [] => .error .endOfList
    | ']' :: r => .ok (.behind outer, r)
    | r => takeValue (.square :: outer) r
  | .opened .curly outer =>
    match skipBlanks s with
    | [] => .error .endOfObject
    | '}' :: r => .ok (.behind outer, r)
    | r => takeKey outer r
  | .behind [] => .ok (.behind [], s)
  | .behind (.square :: outer) =>
    match skipBlanks s with
    | [] => .error .endOfList
    | ',' :: r => takeValue (.square :: outer) (skipBlanks r)
    | ']' :: r => .ok (.behind outer, r)
    | _ => .error .expectedCommaOrBracket
  | .behind (.curly :: outer) =>
    match skipBlanks s with
    | [] => .error .endOfObject
    | ',' :: r => takeKey outer (skipBlanks r)
    | '}' :: r => .ok (.behind outer, r)
    | _ => .error .expectedCommaOrBrace

theorem length_takeValue {outer : List Bracket} {s r : List Char} {state : State}
    (h : takeValue outer s = .ok (state, r)) : r.length < s.length := by
  unfold takeValue at h
  split at h
  · simp at h
  · simp_all
  · simp_all
  · obtain ⟨q, hq, he⟩ := map_ok h
    have := length_skipText hq
    simp_all only [Prod.mk.injEq, List.length_cons]
    omega
  · obtain ⟨q, hq, he⟩ := map_ok h
    have := length_skipWord hq
    simp_all only [Prod.mk.injEq, List.length_cons]
    omega
  · obtain ⟨q, hq, he⟩ := map_ok h
    have := length_skipWord hq
    simp_all only [Prod.mk.injEq, List.length_cons]
    omega
  · obtain ⟨q, hq, he⟩ := map_ok h
    have := length_skipWord hq
    simp_all only [Prod.mk.injEq, List.length_cons]
    omega
  · split at h
    · obtain ⟨q, hq, he⟩ := map_ok h
      have := length_skipNumber hq
      simp_all only [Prod.mk.injEq]
    · simp at h

theorem length_takeKey {outer : List Bracket} {s r : List Char} {state : State}
    (h : takeKey outer s = .ok (state, r)) : r.length < s.length := by
  unfold takeKey at h
  split at h
  · simp at h
  · split at h
    · simp at h
    · rename_i hs
      obtain ⟨q, hq, he⟩ := map_ok h
      have := length_skipText hs
      have := length_skipColon hq
      simp_all only [Prod.mk.injEq, List.length_cons]
      omega
  · simp at h

/-- Every step but the one of a complete value takes something off the text. -/
theorem length_step {state next : State} {s r : List Char} (hb : state ≠ .behind [])
    (h : step state s = .ok (next, r)) : r.length < s.length := by
  unfold step at h
  have hs := length_skipBlanks s
  split at h
  · have := length_takeValue h
    omega
  · split at h
    · simp at h
    · rename_i hc
      have := length_of_skipBlanks hc
      simp_all
    · have := length_takeValue h
      omega
  · split at h
    · simp at h
    · rename_i hc
      have := length_of_skipBlanks hc
      simp_all
    · have := length_takeKey h
      omega
  · exact absurd rfl hb
  · split at h
    · simp at h
    · rename_i q hc
      have := length_of_skipBlanks hc
      have := length_takeValue h
      have := length_skipBlanks q
      omega
    · rename_i hc
      have := length_of_skipBlanks hc
      simp_all
    · simp at h
  · split at h
    · simp at h
    · rename_i q hc
      have := length_of_skipBlanks hc
      have := length_takeKey h
      have := length_skipBlanks q
      omega
    · rename_i hc
      have := length_of_skipBlanks hc
      simp_all
    · simp at h

/-- The text behind the value that is begun. -/
def run (state : State) (s : List Char) : Except Fault (List Char) :=
  if _ : state = .behind [] then .ok s
  else
    match _ : step state s with
    | .error f => .error f
    | .ok (next, r) => run next r
termination_by s.length
decreasing_by exact length_step ‹¬state = .behind []› ‹step state s = .ok (next, r)›

theorem length_run {state : State} {s r : List Char} (h : run state s = .ok r) :
    r.length ≤ s.length := by
  fun_induction run state s with
  | case1 => simp_all
  | case2 => simp at h
  | case3 _ _ hb _ _ hs ih =>
    have := ih h
    have := length_step hb hs
    omega

end Skip

/-- The text behind a value of any sort. -/
def skipValue (s : List Char) : Except Fault (List Char) := Skip.run (.value []) s

theorem length_skipValue {s r : List Char} (h : skipValue s = .ok r) : r.length ≤ s.length :=
  Skip.length_run h

end ClassDiagram.Json
