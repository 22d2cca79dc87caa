import ClassDiagram.Json.Skip
import ClassDiagram.Proofs.Json.ReadRecord

/-!
# Skipping Spelt Values

A value that nobody wants is skipped however it is spelt (`skipValue_spelt`): whatever brackets are
open around it, `Skip.run` goes on behind it (`Skip.run_spelt`). This is an induction on the
spelling, which has one case for each rule of the notation and so reaches any depth of nesting. A
number has no end of its own; it is skipped only where something stands behind it that could not go
on with it (`Ends`).
-/

namespace ClassDiagram.Json

/-! ### Strings -/

theorem skipEscape_unit {u : Nat} {t : List Char} (h : SpellsUnit u t) (rest : List Char) :
    skipEscape ('u' :: (t ++ rest)) = .ok rest := by
  rw [skipEscape, readUnit_of_spells h]
  rfl

theorem skipEscape_short {letter c : Char} (h : (letter, c) ∈ shortEscapes) (rest : List Char) :
    skipEscape (letter :: rest) = .ok rest := by
  obtain ⟨hshort, hu⟩ := shortEscape?_eq_some h
  rw [skipEscape]
  · rw [hshort]
    rfl
  · exact hu

theorem skipText_escape {s r : List Char} (h : skipEscape s = .ok r) :
    skipText ('\\' :: s) = skipText r := by
  rw [skipText]
  split
  · next f hf => rw [h] at hf; cases hf
  · next q hq => rw [h] at hq; cases hq; rfl

theorem skipText_raw {s : List Char} {c : Char} (hq : c ≠ '"') (hb : c ≠ '\\')
    (hc : 0x20 ≤ c.toNat) : skipText (c :: s) = skipText s := by
  have hcontrol : isControl c = false := by
    rw [isControl, decide_eq_false_iff_not]
    omega
  rw [skipText]
  · simp [hcontrol]
  · exact hq
  · exact hb

/-- Every spelling of a symbol is skipped, half a surrogate pair as well. -/
theorem skipText_symbol {x : Symbol} {t : List Char} (h : SpellsSymbol x t) (rest : List Char) :
    skipText (t ++ rest) = skipText rest := by
  cases h with
  | raw hq hb hc => exact skipText_raw hq hb hc
  | short h => exact skipText_escape (skipEscape_short h rest)
  | unit h => exact skipText_escape (skipEscape_unit h rest)
  | @pair _ _ _ t t' _ _ _ _ _ ht ht' =>
    rw [List.append_assoc, List.cons_append, List.cons_append,
      skipText_escape (skipEscape_unit ht _)]
    exact skipText_escape (skipEscape_unit ht' rest)
  | half _ _ h => exact skipText_escape (skipEscape_unit h rest)

theorem skipText_spelt {xs : List Symbol} {t : List Char} (h : SpellsText xs t)
    (rest : List Char) : skipText (t ++ '"' :: rest) = .ok rest := by
  induction h with
  | nil => rw [List.nil_append, skipText]
  | cons hx _ ih => rw [List.append_assoc, skipText_symbol hx, ih]

/-! ### Numbers -/

/-- What may stand behind a value: nothing, a blank, a comma or a closing bracket. -/
def Ends (rest : List Char) : Prop := ∀ c ∈ rest.head?, ¬ Opens c

theorem ends_nil : Ends [] := by
  intro c hc
  cases hc

theorem ends_cons {c : Char} (hc : ¬ Opens c) (s : List Char) : Ends (c :: s) := by
  intro d hd
  cases hd
  exact hc

theorem not_opens_blank {c : Char} (hc : c ∈ [' ', '\t', '\n', '\r']) : ¬ Opens c := by
  rintro ⟨hblank, -⟩
  rw [isBlank_iff.mpr hc] at hblank
  cases hblank

/-- Blanks may stand in between. -/
theorem Ends.append {b rest : List Char} (hb : Blank b) (h : Ends rest) : Ends (b ++ rest) := by
  cases b with
  | nil => exact h
  | cons c b => exact ends_cons (not_opens_blank (hb c List.mem_cons_self)) _

/-- No digit stands at the front. -/
def NoDigit (s : List Char) : Prop := ∀ c ∈ s.head?, Text.isDigit c = false

theorem noDigit_cons {c : Char} (hc : Text.isDigit c = false) (s : List Char) :
    NoDigit (c :: s) := by
  intro d hd
  cases hd
  exact hc

theorem isDigit_iff {c : Char} : Text.isDigit c = true ↔ '0' ≤ c ∧ c ≤ '9' := by
  rw [Text.isDigit, Bool.and_eq_true, decide_eq_true_iff, decide_eq_true_iff]

/-- Neither a digit nor the sign of a fraction or an exponent stands behind a value. -/
theorem Ends.head {rest : List Char} (h : Ends rest) :
    NoDigit rest ∧ ∀ c ∈ rest.head?, c ≠ '.' ∧ c ≠ 'e' ∧ c ≠ 'E' := by
  constructor
  · intro c hc
    rw [← Bool.not_eq_true, isDigit_iff]
    intro hdigit
    exact h c hc (opens_of_digit hdigit)
  · intro c hc
    have hne : ∀ d, Opens d → c ≠ d := by
      rintro d hd rfl
      exact h c hc hd
    exact ⟨hne '.' (by decide), hne 'e' (by decide), hne 'E' (by decide)⟩

theorem skipDigits_append {t s : List Char} (ht : ∀ c ∈ t, '0' ≤ c ∧ c ≤ '9') (hs : NoDigit s) :
    skipDigits (t ++ s) = s := by
  rw [skipDigits, List.dropWhile_append_of_pos fun c hc => isDigit_iff.mpr (ht c hc)]
  cases s with
  | nil => rfl
  | cons c s => rw [List.dropWhile_cons_of_neg (by rw [hs c rfl]; decide)]

theorem skipDigits1?_append {t s : List Char} (ht : Digits t) (hs : NoDigit s) :
    skipDigits1? (t ++ s) = some s := by
  obtain ⟨hne, hall⟩ := ht
  obtain ⟨c, t, rfl⟩ := List.exists_cons_of_ne_nil hne
  obtain ⟨hc, ht⟩ := List.forall_mem_cons.mp hall
  rw [List.cons_append, skipDigits1?, if_pos (isDigit_iff.mpr hc), skipDigits_append ht hs]

theorem skipWhole?_append {t s : List Char} (ht : t = ['0'] ∨ Digits t ∧ t.head? ≠ some '0')
    (hs : NoDigit s) : skipWhole? (t ++ s) = some s := by
  rcases ht with rfl | ⟨ht, hzero⟩
  · rw [List.singleton_append, skipWhole?]
    cases s with
    | nil => rfl
    | cons c s => simp [hs c rfl]
  · rw [skipWhole?, skipDigits1?_append ht hs]
    obtain ⟨hne, -⟩ := ht
    obtain ⟨c, t, rfl⟩ := List.exists_cons_of_ne_nil hne
    rintro r hr
    obtain ⟨rfl, -⟩ := List.cons.inj hr
    exact hzero rfl

theorem skipFraction?_append {t s : List Char} (ht : t = [] ∨ ∃ u, Digits u ∧ t = '.' :: u)
    (hs : NoDigit s) (hpoint : ∀ c ∈ s.head?, c ≠ '.') : skipFraction? (t ++ s) = some s := by
  rcases ht with rfl | ⟨u, hu, rfl⟩
  · rw [List.nil_append, skipFraction?]
    rintro r rfl
    exact hpoint '.' rfl rfl
  · rw [List.cons_append, skipFraction?, skipDigits1?_append hu hs]

/-- The sign of an exponent is skipped; digits have none. -/
theorem skipSign_append {plus t : List Char} (hplus : plus ∈ [[], ['+'], ['-']]) (ht : Digits t)
    (s : List Char) : skipSign (plus ++ t ++ s) = t ++ s := by
  simp only [List.mem_cons, List.not_mem_nil, or_false] at hplus
  rcases hplus with rfl | rfl | rfl
  · obtain ⟨hne, hall⟩ := ht
    obtain ⟨c, t, rfl⟩ := List.exists_cons_of_ne_nil hne
    have hne : ∀ d r, ¬ ('0' ≤ d ∧ d ≤ '9') → c :: (t ++ s) ≠ d :: r := by
      rintro d r hd hcons
      obtain ⟨rfl, -⟩ := List.cons.inj hcons
      exact hd (hall c List.mem_cons_self)
    rw [List.nil_append, List.cons_append, skipSign]
    · exact fun r => hne '+' r (by decide)
    · exact fun r => hne '-' r (by decide)
  · rfl
  · rfl

theorem skipExponent?_append {t s : List Char}
    (ht : t = [] ∨ ∃ e ∈ ['e', 'E'], ∃ plus ∈ [[], ['+'], ['-']], ∃ u, Digits u ∧
      t = e :: plus ++ u)
    (hs : NoDigit s) (hletter : ∀ c ∈ s.head?, c ≠ 'e' ∧ c ≠ 'E') :
    skipExponent? (t ++ s) = some s := by
  rcases ht with rfl | ⟨e, he, plus, hplus, u, hu, rfl⟩
  · rw [List.nil_append, skipExponent?]
    · rintro r rfl
      exact (hletter 'e' rfl).1 rfl
    · rintro r rfl
      exact (hletter 'E' rfl).2 rfl
  · have hskip : skipDigits1? (skipSign (plus ++ u ++ s)) = some s := by
      rw [skipSign_append hplus hu, skipDigits1?_append hu hs]
    simp only [List.mem_cons, List.not_mem_nil, or_false] at he
    rcases he with rfl | rfl
    · exact hskip
    · exact hskip

theorem skipMinus_append {sign t : List Char} (hsign : sign ∈ [[], ['-']])
    (ht : t.head? ≠ some '-') : skipMinus (sign ++ t) = t := by
  simp only [List.mem_cons, List.not_mem_nil, or_false] at hsign
  rcases hsign with rfl | rfl
  · rw [List.nil_append, skipMinus]
    rintro r rfl
    exact ht rfl
  · rfl

/-- A number is skipped if nothing stands behind it that could go on with it. -/
theorem skipNumber_spelt {t rest : List Char} (h : SpellsNumber t) (hrest : Ends rest) :
    skipNumber (t ++ rest) = .ok rest := by
  obtain @⟨sign, whole, fraction, exponent, hsign, hwhole, hfraction, hexponent⟩ := h
  obtain ⟨hdigit, hmarks⟩ := hrest.head
  have hbehind : NoDigit (exponent ++ rest) ∧ ∀ c ∈ (exponent ++ rest).head?, c ≠ '.' := by
    rcases hexponent with rfl | ⟨e, he, plus, -, u, -, rfl⟩
    · exact ⟨hdigit, fun c hc => (hmarks c hc).1⟩
    · simp only [List.mem_cons, List.not_mem_nil, or_false] at he
      constructor
      · rcases he with rfl | rfl
        · exact noDigit_cons (by decide) _
        · exact noDigit_cons (by decide) _
      · intro c hc
        cases hc
        rcases he with rfl | rfl
        · decide
        · decide
  have hfront : NoDigit (fraction ++ (exponent ++ rest)) := by
    rcases hfraction with rfl | ⟨u, -, rfl⟩
    · exact hbehind.1
    · exact noDigit_cons (by decide) _
  have hminus : (whole ++ (fraction ++ (exponent ++ rest))).head? ≠ some '-' := by
    rcases hwhole with rfl | ⟨⟨hne, hall⟩, -⟩
    · simp
    · obtain ⟨c, u, rfl⟩ := List.exists_cons_of_ne_nil hne
      rintro hc
      cases hc
      exact absurd (hall '-' List.mem_cons_self) (by decide)
  have hunsigned : skipUnsigned? (whole ++ (fraction ++ (exponent ++ rest))) = some rest := by
    rw [skipUnsigned?, skipWhole?_append hwhole hfront, Option.bind_some,
      skipFraction?_append hfraction hbehind.1 hbehind.2, Option.bind_some,
      skipExponent?_append hexponent hdigit fun c hc => (hmarks c hc).2]
  have htext : sign ++ whole ++ fraction ++ exponent ++ rest =
      sign ++ (whole ++ (fraction ++ (exponent ++ rest))) := by
    simp only [List.append_assoc]
  rw [skipNumber, htext, skipMinus_append hsign hminus, hunsigned]

/-- A number begins with its sign or a digit. -/
theorem SpellsNumber.front {c : Char} {s : List Char} (h : SpellsNumber (c :: s)) :
    c = '-' ∨ Text.isDigit c = true := by
  generalize ht : c :: s = t at h
  obtain @⟨sign, whole, fraction, exponent, hsign, hwhole, -, -⟩ := h
  simp only [List.mem_cons, List.not_mem_nil, or_false] at hsign
  rcases hsign with rfl | rfl
  · right
    rcases hwhole with rfl | ⟨⟨hne, hall⟩, -⟩
    · obtain ⟨rfl, -⟩ := List.cons.inj ht
      decide
    · obtain ⟨d, u, rfl⟩ := List.exists_cons_of_ne_nil hne
      obtain ⟨rfl, -⟩ := List.cons.inj ht
      exact isDigit_iff.mpr (hall c List.mem_cons_self)
  · left
    obtain ⟨rfl, -⟩ := List.cons.inj ht
    rfl

/-! ### Values -/

/-- One or more elements begin with one, behind blanks. -/
theorem Separated.front {α : Type} {r : α → List Char → Prop} {as : List α} {t : List Char}
    (h : Separated r as t) : ∃ a b u s, Blank b ∧ r a u ∧ t = b ++ (u ++ s) := by
  cases h with
  | @last a b u b' hb ha _ => exact ⟨a, b, u, b', hb, ha, List.append_assoc b u b'⟩
  | @more a as b u b' ts hb ha _ _ =>
    refine ⟨a, b, u, b' ++ ',' :: ts, hb, ha, ?_⟩
    simp only [List.append_assoc]

namespace Skip

/-- Goes on in front of a key. -/
def runKey (outer : List Bracket) (s : List Char) : Except Fault (List Char) :=
  takeKey outer (skipBlanks s) >>= fun next => run next.1 next.2

theorem run_eq {state : State} (h : state ≠ .behind []) (s : List Char) :
    run state s = step state s >>= fun next => run next.1 next.2 := by
  rw [run, dif_neg h]
  split
  · next f hf => rw [hf]; rfl
  · next next r hr => rw [hr]; rfl

theorem run_complete (s : List Char) : run (.behind []) s = .ok s := by
  rw [run, dif_pos rfl]

/-- Blanks in front of the next step are skipped. -/
theorem run_blanks {state : State} (h : state ≠ .behind []) {b : List Char} (hb : Blank b)
    (s : List Char) : run state (b ++ s) = run state s := by
  have hstep : step state (b ++ s) = step state s := by
    match state with
    | .value _ => rw [step, step, skipBlanks_append hb]
    | .opened .square _ => rw [step, step, skipBlanks_append hb]
    | .opened .curly _ => rw [step, step, skipBlanks_append hb]
    | .behind [] => exact absurd rfl h
    | .behind (.square :: _) => rw [step, step, skipBlanks_append hb]
    | .behind (.curly :: _) => rw [step, step, skipBlanks_append hb]
  rw [run_eq h, run_eq h, hstep]

theorem runKey_blanks (outer : List Bracket) {b : List Char} (hb : Blank b) (s : List Char) :
    runKey outer (b ++ s) = runKey outer s := by
  rw [runKey, runKey, skipBlanks_append hb]

section Separators
variable (outer : List Bracket)

/-! #### Lists, one separator at a time -/

theorem run_openSquare (s : List Char) :
    run (.value outer) ('[' :: s) = run (.opened .square outer) s := by
  rw [run_eq (by simp), step, skipBlanks_cons (by decide)]
  rfl

theorem run_emptySquare (s : List Char) :
    run (.opened .square outer) (']' :: s) = run (.behind outer) s := by
  rw [run_eq (by simp), step, skipBlanks_cons (by decide)]
  rfl

theorem run_firstElements {vs : List Value} {t : List Char} (h : Separated Spells vs t)
    (s : List Char) :
    run (.opened .square outer) (t ++ s) = run (.value (.square :: outer)) (t ++ s) := by
  obtain ⟨v, b, u, r, hb, hu, rfl⟩ := h.front
  obtain ⟨c, u, rfl, hblank, -, hbracket, -⟩ := hu.head
  rw [List.append_assoc, run_blanks (by simp) hb, run_blanks (by simp) hb, List.append_assoc,
    List.cons_append, run_eq (by simp), run_eq (by simp), step, step, skipBlanks_cons hblank]
  simp [hbracket]

theorem run_nextElement (s : List Char) :
    run (.behind (.square :: outer)) (',' :: s) = run (.value (.square :: outer)) s := by
  rw [run_eq (by simp), run_eq (by simp), step, step, skipBlanks_cons (by decide)]
  rfl

theorem run_closeSquare (s : List Char) :
    run (.behind (.square :: outer)) (']' :: s) = run (.behind outer) s := by
  rw [run_eq (by simp), step, skipBlanks_cons (by decide)]
  rfl

/-! #### Objects, one separator at a time -/

theorem run_openCurly (s : List Char) :
    run (.value outer) ('{' :: s) = run (.opened .curly outer) s := by
  rw [run_eq (by simp), step, skipBlanks_cons (by decide)]
  rfl

theorem run_emptyCurly (s : List Char) :
    run (.opened .curly outer) ('}' :: s) = run (.behind outer) s := by
  rw [run_eq (by simp), step, skipBlanks_cons (by decide)]
  rfl

theorem run_firstMembers {ms : List (List Symbol × Value)} {t : List Char}
    (h : Separated (SpellsMember Spells) ms t) (s : List Char) :
    run (.opened .curly outer) (t ++ s) = runKey outer (t ++ s) := by
  obtain ⟨m, b, u, r, hb, hu, rfl⟩ := h.front
  cases hu with
  | member =>
    rw [List.append_assoc, run_blanks (by simp) hb, runKey_blanks outer hb, run_eq (by simp), step,
      runKey]
    simp only [List.cons_append, skipBlanks_cons (show isBlank '"' = false by decide)]
    rfl

theorem run_nextKey (s : List Char) :
    run (.behind (.curly :: outer)) (',' :: s) = runKey outer s := by
  rw [run_eq (by simp), step, runKey, skipBlanks_cons (by decide)]
  rfl

theorem run_closeCurly (s : List Char) :
    run (.behind (.curly :: outer)) ('}' :: s) = run (.behind outer) s := by
  rw [run_eq (by simp), step, skipBlanks_cons (by decide)]
  rfl

/-- A key is skipped with its colon. -/
theorem runKey_key {key : List Symbol} {k b : List Char} (hk : SpellsText key k) (hb : Blank b)
    (s : List Char) :
    runKey outer ('"' :: (k ++ '"' :: (b ++ ':' :: s))) = run (.value (.curly :: outer)) s := by
  rw [runKey, skipBlanks_cons (by decide), takeKey, skipText_spelt hk]
  simp only [skipColon_append hb]
  rfl

/-! #### Scalars -/

theorem run_scalar {c : Char} (hc : isBlank c = false) {s rest : List Char}
    (h : takeValue outer (c :: s) = .ok (.behind outer, rest)) :
    run (.value outer) (c :: s) = run (.behind outer) rest := by
  rw [run_eq (by simp), step, skipBlanks_cons hc, h]
  rfl

theorem takeValue_text {xs : List Symbol} {t : List Char} (h : SpellsText xs t)
    (rest : List Char) :
    takeValue outer ('"' :: (t ++ '"' :: rest)) = .ok (.behind outer, rest) := by
  rw [takeValue, skipText_spelt h]
  rfl

theorem takeValue_number {c : Char} {s rest : List Char} (h : SpellsNumber (c :: s))
    (hrest : Ends rest) : takeValue outer (c :: (s ++ rest)) = .ok (.behind outer, rest) := by
  have hc : c = '-' ∨ Text.isDigit c = true := h.front
  have hne : ∀ d, d ≠ '-' → Text.isDigit d = false → c ≠ d := by
    rintro d hd hd' rfl
    rcases hc with hc | hc
    · exact hd hc
    · rw [hd'] at hc
      cases hc
  have hskip : skipNumber (c :: (s ++ rest)) = .ok rest := skipNumber_spelt h hrest
  rw [takeValue, hskip]
  · simp [hc]
    rfl
  · exact hne '[' (by decide) (by decide)
  · exact hne '{' (by decide) (by decide)
  · exact hne '"' (by decide) (by decide)
  · exact hne 'n' (by decide) (by decide)
  · exact hne 't' (by decide) (by decide)
  · exact hne 'f' (by decide) (by decide)

end Separators

mutual

/-- **Every spelling of a value is skipped**, whatever brackets are open around it. -/
theorem run_spelt {v : Value} {t : List Char} : Spells v t →
    ∀ (outer : List Bracket) (rest : List Char), Ends rest →
      run (.value outer) (t ++ rest) = run (.behind outer) rest
  | .null, outer, _, _ => run_scalar outer (by decide) rfl
  | .true, outer, _, _ => run_scalar outer (by decide) rfl
  | .false, outer, _, _ => run_scalar outer (by decide) rfl
  | .number h, outer, rest, hrest => by
    obtain ⟨c, s, rfl, hblank, -⟩ := h.head
    exact run_scalar outer hblank (takeValue_number outer h hrest)
  | @Spells.text _ t h, outer, rest, _ => by
    have htext : '"' :: t ++ ['"'] ++ rest = '"' :: (t ++ '"' :: rest) := by simp
    rw [htext]
    exact run_scalar outer (by decide) (takeValue_text outer h rest)
  | @Spells.emptyList b hb, outer, rest, _ => by
    calc run (.value outer) ('[' :: b ++ [']'] ++ rest)
        = run (.value outer) ('[' :: (b ++ ']' :: rest)) := by simp
      _ = run (.behind outer) rest := by
          rw [run_openSquare, run_blanks (by simp) hb, run_emptySquare]
  | @Spells.list _ t h, outer, rest, _ => by
    calc run (.value outer) ('[' :: t ++ [']'] ++ rest)
        = run (.value outer) ('[' :: (t ++ ']' :: rest)) := by simp
      _ = run (.value (.square :: outer)) (t ++ ']' :: rest) := by
          rw [run_openSquare, run_firstElements outer h]
      _ = run (.behind outer) rest := run_elements h outer rest
  | @Spells.emptyObject b hb, outer, rest, _ => by
    calc run (.value outer) ('{' :: b ++ ['}'] ++ rest)
        = run (.value outer) ('{' :: (b ++ '}' :: rest)) := by simp
      _ = run (.behind outer) rest := by
          rw [run_openCurly, run_blanks (by simp) hb, run_emptyCurly]
  | @Spells.object _ t h, outer, rest, _ => by
    calc run (.value outer) ('{' :: t ++ ['}'] ++ rest)
        = run (.value outer) ('{' :: (t ++ '}' :: rest)) := by simp
      _ = runKey outer (t ++ '}' :: rest) := by
          rw [run_openCurly, run_firstMembers outer h]
      _ = run (.behind outer) rest := run_members h outer rest

/-- The elements of a list are skipped with the bracket behind them. -/
theorem run_elements {vs : List Value} {t : List Char} : Separated Spells vs t →
    ∀ (outer : List Bracket) (rest : List Char),
      run (.value (.square :: outer)) (t ++ ']' :: rest) = run (.behind outer) rest
  | @Separated.last _ _ _ b t b' hb h hb', outer, rest => by
    have hend : Ends (b' ++ ']' :: rest) := (ends_cons (by decide) rest).append hb'
    calc run (.value (.square :: outer)) (b ++ t ++ b' ++ ']' :: rest)
        = run (.value (.square :: outer)) (b ++ (t ++ (b' ++ ']' :: rest))) := by simp
      _ = run (.behind (.square :: outer)) (b' ++ ']' :: rest) := by
          rw [run_blanks (by simp) hb, run_spelt h _ _ hend]
      _ = run (.behind outer) rest := by rw [run_blanks (by simp) hb', run_closeSquare]
  | @Separated.more _ _ _ _ b t b' ts hb h hb' hs, outer, rest => by
    have hend : Ends (b' ++ ',' :: (ts ++ ']' :: rest)) := (ends_cons (by decide) _).append hb'
    calc run (.value (.square :: outer)) (b ++ t ++ b' ++ ',' :: ts ++ ']' :: rest)
        = run (.value (.square :: outer)) (b ++ (t ++ (b' ++ ',' :: (ts ++ ']' :: rest)))) := by
          simp
      _ = run (.behind (.square :: outer)) (b' ++ ',' :: (ts ++ ']' :: rest)) := by
          rw [run_blanks (by simp) hb, run_spelt h _ _ hend]
      _ = run (.value (.square :: outer)) (ts ++ ']' :: rest) := by
          rw [run_blanks (by simp) hb', run_nextElement]
      _ = run (.behind outer) rest := run_elements hs outer rest

/-- The members of an object are skipped with the brace behind them. -/
theorem run_members {ms : List (List Symbol × Value)} {t : List Char} :
    Separated (SpellsMember Spells) ms t →
      ∀ (outer : List Bracket) (rest : List Char),
        runKey outer (t ++ '}' :: rest) = run (.behind outer) rest
  | @Separated.last _ _ _ b t b' hb h hb', outer, rest => by
    have hend : Ends (b' ++ '}' :: rest) := (ends_cons (by decide) rest).append hb'
    calc runKey outer (b ++ t ++ b' ++ '}' :: rest)
        = runKey outer (b ++ (t ++ (b' ++ '}' :: rest))) := by simp
      _ = run (.behind (.curly :: outer)) (b' ++ '}' :: rest) := by
          rw [runKey_blanks outer hb, run_member h _ _ hend]
      _ = run (.behind outer) rest := by rw [run_blanks (by simp) hb', run_closeCurly]
  | @Separated.more _ _ _ _ b t b' ts hb h hb' hs, outer, rest => by
    have hend : Ends (b' ++ ',' :: (ts ++ '}' :: rest)) := (ends_cons (by decide) _).append hb'
    calc runKey outer (b ++ t ++ b' ++ ',' :: ts ++ '}' :: rest)
        = runKey outer (b ++ (t ++ (b' ++ ',' :: (ts ++ '}' :: rest)))) := by simp
      _ = run (.behind (.curly :: outer)) (b' ++ ',' :: (ts ++ '}' :: rest)) := by
          rw [runKey_blanks outer hb, run_member h _ _ hend]
      _ = runKey outer (ts ++ '}' :: rest) := by rw [run_blanks (by simp) hb', run_nextKey]
      _ = run (.behind outer) rest := run_members hs outer rest

/-- A member is skipped with its key and its colon. -/
theorem run_member {m : List Symbol × Value} {t : List Char} : SpellsMember Spells m t →
    ∀ (outer : List Bracket) (rest : List Char), Ends rest →
      runKey outer (t ++ rest) = run (.behind (.curly :: outer)) rest
  | @SpellsMember.member _ _ _ k b b' t hk hb hb' h, outer, rest, hrest => by
    calc runKey outer ('"' :: k ++ '"' :: b ++ ':' :: b' ++ t ++ rest)
        = runKey outer ('"' :: (k ++ '"' :: (b ++ ':' :: (b' ++ (t ++ rest))))) := by simp
      _ = run (.behind (.curly :: outer)) rest := by
          rw [runKey_key outer hk hb, run_blanks (by simp) hb', run_spelt h _ _ hrest]

end

end Skip

/-- A spelt value is skipped, and what stands behind it is left. -/
theorem skipValue_spelt {v : Value} {b t rest : List Char} (hb : Blank b) (h : Spells v t)
    (hrest : Ends rest) : skipValue (b ++ t ++ rest) = .ok rest := by
  rw [skipValue, List.append_assoc, Skip.run_blanks (by simp) hb, Skip.run_spelt h [] rest hrest,
    Skip.run_complete]

end ClassDiagram.Json
