import ClassDiagram.Json.Reader
import ClassDiagram.Proofs.Json.ReadText
import Mathlib.Data.List.Forall2

/-!
# Reading Spelt Values

A reader `Takes` a value for a result if it reads every spelling of the value so, with blanks in
front and anything behind. There is one such statement for each way to make a reader, and what a
reader of lists takes follows from what the reader of its elements takes.

The elements of a list are read one by one. In front of each stands the comma behind the one before,
or nothing at all (`Lead`); one step reads one element (`readElements_step`), and the run is an
induction on the spelling (`readElements_run`).
-/

namespace ClassDiagram.Json

variable {α β : Type}

/-! ### What a spelling begins with -/

/-- A character that ends no value and separates none. -/
def Opens (c : Char) : Prop := isBlank c = false ∧ c ≠ ',' ∧ c ≠ ']' ∧ c ≠ '}'

instance (c : Char) : Decidable (Opens c) := by unfold Opens; infer_instance

theorem opens_of_digit {c : Char} (h : '0' ≤ c ∧ c ≤ '9') : Opens c := by
  have hne : ∀ d, ¬ ('0' ≤ d ∧ d ≤ '9') → c ≠ d := by
    rintro d hd rfl
    exact hd h
  have hblank : isBlank c = false := by
    simp [isBlank, hne ' ' (by decide), hne '\t' (by decide), hne '\n' (by decide),
      hne '\r' (by decide)]
  exact ⟨hblank, hne ',' (by decide), hne ']' (by decide), hne '}' (by decide)⟩

theorem Digits.head {t : List Char} (h : Digits t) : ∃ c s, t = c :: s ∧ Opens c := by
  obtain ⟨hne, hall⟩ := h
  obtain ⟨c, s, rfl⟩ := List.exists_cons_of_ne_nil hne
  exact ⟨c, s, rfl, opens_of_digit (hall c List.mem_cons_self)⟩

theorem SpellsNumber.head {t : List Char} (h : SpellsNumber t) : ∃ c s, t = c :: s ∧ Opens c := by
  obtain @⟨sign, whole, fraction, exponent, hs, hw, -, -⟩ := h
  have hwhole : ∃ c s, whole = c :: s ∧ Opens c := by
    rcases hw with rfl | ⟨hd, -⟩
    · exact ⟨'0', [], rfl, by decide⟩
    · exact hd.head
  obtain ⟨c, s, rfl, hc⟩ := hwhole
  simp only [List.mem_cons, List.not_mem_nil, or_false] at hs
  rcases hs with rfl | rfl
  · exact ⟨c, s ++ fraction ++ exponent, by simp, hc⟩
  · exact ⟨'-', c :: s ++ fraction ++ exponent, by simp, by decide⟩

/-- A value begins with a character that opens one. -/
theorem Spells.head {v : Value} {t : List Char} (h : Spells v t) :
    ∃ c s, t = c :: s ∧ Opens c := by
  cases h with
  | number hn => exact hn.head
  | _ => exact ⟨_, _, rfl, by decide⟩

/-! ### Readers and the values they take -/

/-- The reader reads every spelling of the value as the result. -/
def Reader.Takes (p : Reader α) (v : Value) (a : α) : Prop :=
  ∀ b t rest, Blank b → Spells v t → p.read (b ++ t ++ rest) = .ok (a, rest)

theorem skipBlanks_spelt {b : List Char} (hb : Blank b) {c : Char} (hc : isBlank c = false)
    (s rest : List Char) : skipBlanks (b ++ c :: s ++ rest) = c :: (s ++ rest) := by
  rw [List.append_assoc, skipBlanks_append hb, List.cons_append, skipBlanks_cons hc]

theorem takeText_spelt {w : String} {t : List Char} (ht : SpellsText (symbols w) t)
    (wanted : String) (rest : List Char) :
    takeText wanted ('"' :: (t ++ ['"'] ++ rest)) = .ok (w, rest) := by
  rw [takeText, List.append_assoc, List.singleton_append]
  exact readText_spelt ht rest

theorem Reader.takes_text (w : String) : Reader.text.Takes (.string w) w := by
  intro b t rest hb ht
  cases ht with
  | text ht =>
    change takeText "a string" (skipBlanks _) = _
    rw [List.cons_append, skipBlanks_spelt hb (by decide), takeText_spelt ht]

theorem Reader.takes_optionalText_null : Reader.optionalText.Takes .null none := by
  intro b t rest hb ht
  cases ht with
  | null =>
    change takeOptionalText (skipBlanks _) = _
    rw [skipBlanks_spelt hb (by decide)]
    rfl

theorem Reader.takes_optionalText (w : String) :
    Reader.optionalText.Takes (.string w) (some w) := by
  intro b t rest hb ht
  cases ht with
  | text ht =>
    change takeOptionalText (skipBlanks _) = _
    rw [List.cons_append, skipBlanks_spelt hb (by decide), takeOptionalText,
      takeText_spelt ht]
    · rfl
    · simp

theorem Reader.Takes.map {p : Reader α} {v : Value} {a : α} (h : p.Takes v a) (f : α → β) :
    (p.map f).Takes v (f a) := by
  intro b t rest hb ht
  change (p.read _).map _ = _
  rw [h b t rest hb ht]
  rfl

theorem Reader.takes_choice {words : List (String × α)} {w : String} {a : α}
    (h : words.lookup w = some a) : (Reader.choice words).Takes (.string w) a := by
  intro b t rest hb ht
  cases ht with
  | @text _ t ht =>
    change takeChoice words (skipBlanks _) = _
    have hmeaning : meaning words w = .ok a := by
      simp only [meaning, h]
    rw [List.cons_append, skipBlanks_spelt hb (by decide), takeChoice, List.append_assoc,
      List.singleton_append, takeWord, readText_spelt ht]
    change (meaning words w >>= fun v => pure (v, rest)) = _
    rw [hmeaning]
    rfl

/-! ### Lists -/

/-- What may stand in front of an element or a member: nothing in front of the first one, and else
the comma behind the one before. -/
inductive Lead : Bool → List Char → Prop
  | first : Lead true []
  | next {b : List Char} : Blank b → Lead false (b ++ [','])

theorem nextElement_append {b : List Char} (hb : Blank b) (first : Bool) (s : List Char) :
    nextElement first (b ++ s) = nextElement first s := by
  rw [nextElement, nextElement, skipBlanks_append hb]

theorem nextElement_closed (first : Bool) (s : List Char) :
    nextElement first (']' :: s) = .ok (.closed s) := by
  rw [nextElement, skipBlanks_cons (by decide)]
  rfl

theorem nextElement_lead {first : Bool} {lead b : List Char} {c : Char} (hl : Lead first lead)
    (hb : Blank b) (hc : Opens c) (s : List Char) :
    nextElement first (lead ++ (b ++ c :: s)) = .ok (.element (c :: s)) := by
  obtain ⟨hblank, -, hbracket, -⟩ := hc
  cases hl with
  | first =>
    rw [List.nil_append, nextElement_append hb, nextElement, skipBlanks_cons hblank]
    simp
  | next hb' =>
    rw [List.append_assoc, nextElement_append hb', nextElement, List.singleton_append,
      skipBlanks_cons (by decide)]
    simp [skipBlanks_append hb, skipBlanks_cons hblank, hbracket]

theorem readElements_eq (p : Reader α) (first : Bool) (front : List α) (s : List Char) :
    readElements p first front s =
      match nextElement first s with
      | .error f => .error f
      | .ok (.closed r) => .ok (front.reverse, r)
      | .ok (.element r) =>
        match p.read r with
        | .error f => .error f
        | .ok (v, q) => readElements p false (v :: front) q := by
  rw [readElements]
  split
  · next f hn => rw [hn]
  · next r hn => rw [hn]
  · next r hn =>
    simp only [hn]
    split
    · next f hv => rw [hv]
    · next v q hv => rw [hv]

theorem readElements_blanks {b : List Char} (hb : Blank b) (p : Reader α) (first : Bool)
    (front : List α) (s : List Char) :
    readElements p first front (b ++ s) = readElements p first front s := by
  rw [readElements_eq, readElements_eq p first front s, nextElement_append hb]

/-- One step of reading a list reads one element, with the comma and the blanks in front of it. -/
theorem readElements_step {p : Reader α} {v : Value} {a : α} (hp : p.Takes v a) {first : Bool}
    {lead b t : List Char} (hl : Lead first lead) (hb : Blank b) (ht : Spells v t) (front : List α)
    (rest : List Char) :
    readElements p first front (lead ++ (b ++ t ++ rest)) =
      readElements p false (a :: front) rest := by
  have hread : p.read (t ++ rest) = .ok (a, rest) := hp [] t rest .nil ht
  obtain ⟨c, s, rfl, hc⟩ := ht.head
  rw [readElements_eq, List.append_assoc, List.cons_append, nextElement_lead hl hb hc]
  rw [List.cons_append] at hread
  simp only [hread]

/-- Reading the elements of a list goes on behind them with their results. -/
theorem readElements_run {p : Reader α} {vs : List Value} {t : List Char}
    (ht : Separated Spells vs t) {as : List α} (hp : List.Forall₂ p.Takes vs as) {first : Bool}
    {lead : List Char} (hl : Lead first lead) (front : List α) (rest : List Char) :
    readElements p first front (lead ++ (t ++ rest)) =
      readElements p false (as.reverse ++ front) rest := by
  induction ht generalizing as first lead front with
  | @last v b t b' hb hv hb' =>
    obtain ⟨a, _, ha, hnil, rfl⟩ := List.forall₂_cons_left_iff.mp hp
    obtain rfl := List.forall₂_nil_left_iff.mp hnil
    rw [List.append_assoc, readElements_step ha hl hb hv, readElements_blanks hb']
    rfl
  | @more v vs b t b' ts hb hv hb' _ ih =>
    obtain ⟨a, as, ha, has, rfl⟩ := List.forall₂_cons_left_iff.mp hp
    rw [List.append_assoc, List.append_assoc, readElements_step ha hl hb hv]
    calc readElements p false (a :: front) (b' ++ (',' :: ts ++ rest))
        = readElements p false (a :: front) (b' ++ [','] ++ (ts ++ rest)) := by simp
      _ = readElements p false (as.reverse ++ a :: front) rest := ih has (.next hb') _
      _ = readElements p false ((a :: as).reverse ++ front) rest := by simp

theorem readElements_closed (p : Reader α) (first : Bool) (front : List α) (rest : List Char) :
    readElements p first front (']' :: rest) = .ok (front.reverse, rest) := by
  rw [readElements_eq, nextElement_closed]

/-- A reader of lists takes a list whose elements the reader of elements takes. -/
theorem Reader.takes_listOf {p : Reader α} {vs : List Value} {as : List α}
    (h : List.Forall₂ p.Takes vs as) : p.listOf.Takes (.list vs) as := by
  intro b t rest hb ht
  change takeList p (skipBlanks _) = _
  cases ht with
  | @emptyList b' hb' =>
    obtain rfl := List.forall₂_nil_left_iff.mp h
    rw [List.cons_append, skipBlanks_spelt hb (by decide), takeList, List.append_assoc,
      readElements_blanks hb']
    exact readElements_closed p true [] rest
  | @list _ t ht =>
    rw [List.cons_append, skipBlanks_spelt hb (by decide), takeList, List.append_assoc]
    calc readElements p true [] (t ++ ([']'] ++ rest))
        = readElements p false (as.reverse ++ []) (']' :: rest) :=
          readElements_run ht h .first [] _
      _ = .ok (as, rest) := by rw [readElements_closed, List.append_nil, List.reverse_reverse]

theorem Reader.takes_listOf_map {p : Reader α} {json : α → Value} (h : ∀ a, p.Takes (json a) a)
    (as : List α) : p.listOf.Takes (.list (as.map json)) as :=
  takes_listOf (List.forall₂_map_left_iff.mpr (List.forall₂_same.mpr fun a _ => h a))

/-! ### Whole texts -/

/-- Every text that writes a value is read as what the reader takes the value for. -/
theorem Reader.Takes.readAll {p : Reader α} {v : Value} {a : α} (h : p.Takes v a) {text : String}
    (ht : Writes v text) : p.readAll text = .ok a := by
  obtain ⟨b, t, b', hb, hv, hb', htext⟩ := ht
  have hend : skipBlanks b' = [] := by
    rw [← List.append_nil b', skipBlanks_append hb']
    rfl
  rw [Reader.readAll, htext, h b t b' hb hv]
  simp [hend]

end ClassDiagram.Json
