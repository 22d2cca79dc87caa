import ClassDiagram.Proofs.Json.SkipValue
import Mathlib.Data.List.TakeWhile

/-!
# What Reading Takes Off a Text

The converse of reading spelt values: whatever a reader has taken off the front of a text is a
spelling of what it has read (`spelt_of_readText`), and whatever has been skipped is a spelling of
some value (`spelt_of_skipValue`). So nothing that breaks a rule of the notation gets past either of
them.

Skipping is followed step by step. What a state still asks of the text (`Skip.Completes`) is put
together from what the next state asks and what the step has taken (`Skip.completes_of_step`), and a
run that ends leaves nothing to ask.
-/

namespace ClassDiagram.Json

/-! ### Blanks, words and colons -/

theorem exists_blank_append (s : List Char) : ∃ b, Blank b ∧ s = b ++ skipBlanks s := by
  refine ⟨s.takeWhile isBlank, ?_, List.takeWhile_append_dropWhile.symm⟩
  intro c hc
  exact isBlank_iff.mp (List.mem_takeWhile_imp hc)

theorem skipBlanks_eq_nil_iff {s : List Char} : skipBlanks s = [] ↔ Blank s := by
  constructor
  · intro h
    obtain ⟨b, hb, hs⟩ := exists_blank_append s
    rw [h, List.append_nil] at hs
    exact hs ▸ hb
  · intro h
    rw [← List.append_nil s, skipBlanks_append h]
    rfl

theorem eq_append_of_skipWord {word s r : List Char} (h : skipWord word s = .ok r) :
    s = word ++ r := by
  induction word generalizing s with
  | nil =>
    cases h
    rfl
  | cons c word ih =>
    cases s with
    | nil => cases h
    | cons d s =>
      rw [skipWord] at h
      split at h
      · next hd => rw [hd, ih h, List.cons_append]
      · cases h

theorem spelt_of_skipColon {s r : List Char} (h : skipColon s = .ok r) :
    ∃ b, Blank b ∧ s = b ++ ':' :: r := by
  obtain ⟨b, hb, hs⟩ := exists_blank_append s
  rw [skipColon] at h
  split at h
  · cases h
  · next q hq =>
    cases h
    exact ⟨b, hb, hq ▸ hs⟩
  · cases h

/-! ### Units and escapes -/

/-- The digits are the sixteen characters for which this has been checked one by one. -/
theorem hexDigit_of_hexDigit? {c : Char} {n : Nat} (h : Text.hexDigit? c = some n) :
    HexDigit n c := by
  have hall : ∀ m < 128, ∀ n ∈ Text.hexDigit? (Char.ofNat m), HexDigit n (Char.ofNat m) := by
    decide +kernel
  have hle : ∀ d : Char, c ≤ d → c.toNat ≤ d.toNat := fun d hd => hd
  have hc : c.toNat < 128 := by
    have hf := h
    rw [Text.hexDigit?] at hf
    split at hf
    · next hc => exact Nat.lt_of_le_of_lt (hle _ hc.2) (by decide)
    · split at hf
      · next hc => exact Nat.lt_of_le_of_lt (hle _ hc.2) (by decide)
      · split at hf
        · next hc => exact Nat.lt_of_le_of_lt (hle _ hc.2) (by decide)
        · cases hf
  have hdigit := hall c.toNat hc n
  rw [Char.ofNat_toNat] at hdigit
  exact hdigit h

theorem spelt_of_readUnit {s r : List Char} {u : Nat} (h : readUnit s = .ok (u, r)) :
    u < 0x10000 ∧ ∃ t, SpellsUnit u t ∧ s = t ++ r := by
  unfold readUnit at h
  split at h
  · split at h
    · next a b c d ha hb hc hd =>
      have hka := hexDigit_of_hexDigit? ha
      have hkb := hexDigit_of_hexDigit? hb
      have hkc := hexDigit_of_hexDigit? hc
      have hkd := hexDigit_of_hexDigit? hd
      cases h
      refine ⟨?_, _, .digits hka hkb hkc hkd, rfl⟩
      have := hka.1
      have := hkb.1
      have := hkc.1
      have := hkd.1
      omega
    · cases h
  · cases h

theorem mem_shortEscapes_of_shortEscape? {letter c : Char} (h : shortEscape? letter = some c) :
    (letter, c) ∈ shortEscapes := by
  unfold shortEscape? at h
  split at h
  · cases h; decide
  · cases h; decide
  · cases h; decide
  · cases h; decide
  · cases h; decide
  · cases h; decide
  · cases h; decide
  · cases h; decide
  · cases h

/-- A number of sixteen bits that is no half of a surrogate pair is a character. -/
theorem toNat_ofNat {u : Nat} (hu : u < 0x10000) (hlow : ¬ IsLowSurrogate u)
    (hhigh : ¬ IsHighSurrogate u) : (Char.ofNat u).toNat = u := by
  unfold IsLowSurrogate at hlow
  unfold IsHighSurrogate at hhigh
  have hvalid : u.isValidChar := by
    unfold Nat.isValidChar
    omega
  rw [Char.ofNat, dif_pos hvalid]
  rfl

theorem toNat_joinSurrogates {high low : Nat} (hhigh : IsHighSurrogate high)
    (hlow : IsLowSurrogate low) :
    (joinSurrogates high low).toNat = 0x10000 + (high - 0xD800) * 0x400 + (low - 0xDC00) := by
  obtain ⟨hh, hh'⟩ := hhigh
  obtain ⟨hl, hl'⟩ := hlow
  have hvalid : (0x10000 + (high - 0xD800) * 0x400 + (low - 0xDC00)).isValidChar := by
    unfold Nat.isValidChar
    omega
  rw [joinSurrogates, Char.ofNat, dif_pos hvalid]
  rfl

theorem spelt_of_readLowSurrogate {high : Nat} {s r : List Char} {c : Char}
    (hhigh : IsHighSurrogate high) (h : readLowSurrogate high s = .ok (c, r)) :
    ∃ low t, IsLowSurrogate low ∧ SpellsUnit low t ∧ s = '\\' :: 'u' :: t ++ r ∧
      c.toNat = 0x10000 + (high - 0xD800) * 0x400 + (low - 0xDC00) := by
  unfold readLowSurrogate at h
  split at h
  · cases h
  · cases h
  · split at h
    · cases h
    · next low q hu =>
      obtain ⟨-, t, ht, rfl⟩ := spelt_of_readUnit hu
      split at h
      · next hlow =>
        rw [Except.ok.injEq, Prod.mk.injEq] at h
        obtain ⟨rfl, rfl⟩ := h
        exact ⟨low, t, hlow, ht, rfl, toNat_joinSurrogates hhigh hlow⟩
      · cases h
  · cases h

theorem spelt_of_readEscape {s r : List Char} {c : Char} (h : readEscape s = .ok (c, r)) :
    ∃ t, SpellsSymbol (.char c) ('\\' :: t) ∧ s = t ++ r := by
  unfold readEscape at h
  split at h
  · cases h
  · split at h
    · cases h
    · next u q hu =>
      obtain ⟨hlt, t, ht, rfl⟩ := spelt_of_readUnit hu
      split at h
      · cases h
      · next hlow =>
        split at h
        · next hhigh =>
          obtain ⟨low, t', ⟨hl, hl'⟩, ht', rfl, hc⟩ := spelt_of_readLowSurrogate hhigh h
          obtain ⟨hh, hh'⟩ := hhigh
          refine ⟨'u' :: t ++ '\\' :: 'u' :: t', .pair hh hh' hl hl' hc ht ht', ?_⟩
          simp
        · next hhigh =>
          cases h
          rw [← toNat_ofNat hlt hlow hhigh] at ht
          exact ⟨'u' :: t, .unit ht, rfl⟩
  · next letter q _ =>
    split at h
    · next d hd =>
      cases h
      exact ⟨[letter], .short (mem_shortEscapes_of_shortEscape? hd), rfl⟩
    · cases h

theorem spelt_of_skipEscape {s r : List Char} (h : skipEscape s = .ok r) :
    ∃ x t, SpellsSymbol x ('\\' :: t) ∧ s = t ++ r := by
  unfold skipEscape at h
  split at h
  · cases h
  · next s =>
    obtain ⟨⟨u, q⟩, hu, rfl⟩ := map_ok h
    obtain ⟨hlt, t, ht, rfl⟩ := spelt_of_readUnit hu
    by_cases hhalf : IsHighSurrogate u ∨ IsLowSurrogate u
    · have hbounds : 0xD800 ≤ u ∧ u ≤ 0xDFFF := by
        unfold IsHighSurrogate IsLowSurrogate at hhalf
        omega
      exact ⟨.half u, 'u' :: t, .half hbounds.1 hbounds.2 ht, rfl⟩
    · obtain ⟨hhigh, hlow⟩ := not_or.mp hhalf
      rw [← toNat_ofNat hlt hlow hhigh] at ht
      exact ⟨.char (Char.ofNat u), 'u' :: t, .unit ht, rfl⟩
  · next letter q _ =>
    split at h
    · next hsome =>
      obtain ⟨c, hc⟩ := Option.isSome_iff_exists.mp hsome
      cases h
      exact ⟨.char c, [letter], .short (mem_shortEscapes_of_shortEscape? hc), rfl⟩
    · cases h

/-! ### Strings -/

theorem spellsSymbol_raw {c : Char} (hq : c ≠ '"') (hb : c ≠ '\\') (hc : ¬ isControl c = true) :
    SpellsSymbol (.char c) [c] := by
  rw [isControl, decide_eq_true_iff, Nat.not_lt] at hc
  exact .raw hq hb hc

theorem spelt_of_readText_front {front s r : List Char} {w : String}
    (h : readText front s = .ok (w, r)) :
    ∃ cs t, SpellsText (cs.map .char) t ∧ s = t ++ '"' :: r ∧
      w = String.ofList (front.reverse ++ cs) := by
  fun_induction readText front s with
  | case1 => cases h
  | case2 front q =>
    cases h
    exact ⟨[], [], .nil, rfl, by rw [List.append_nil]⟩
  | case3 => cases h
  | case4 front s c q hc ih =>
    obtain ⟨cs, t, ht, rfl, rfl⟩ := ih h
    obtain ⟨u, hu, rfl⟩ := spelt_of_readEscape hc
    refine ⟨c :: cs, '\\' :: u ++ t, .cons hu ht, ?_, ?_⟩
    · rw [List.cons_append, List.cons_append, List.append_assoc]
    · rw [List.reverse_cons, List.append_assoc, List.singleton_append]
  | case5 => cases h
  | case6 front c q hq hb hc ih =>
    obtain ⟨cs, t, ht, rfl, rfl⟩ := ih h
    refine ⟨c :: cs, [c] ++ t, .cons (spellsSymbol_raw hq hb hc) ht, rfl, ?_⟩
    rw [List.reverse_cons, List.append_assoc, List.singleton_append]

/-- What has been read as a text is a spelling of the text. -/
theorem spelt_of_readText {s r : List Char} {w : String} (h : readText [] s = .ok (w, r)) :
    ∃ t, SpellsText (symbols w) t ∧ s = t ++ '"' :: r := by
  obtain ⟨cs, t, ht, hs, rfl⟩ := spelt_of_readText_front h
  refine ⟨t, ?_, hs⟩
  rw [symbols, String.toList_ofList]
  exact ht

/-- What has been skipped as a string is a spelling of one. -/
theorem spelt_of_skipText {s r : List Char} (h : skipText s = .ok r) :
    ∃ xs t, SpellsText xs t ∧ s = t ++ '"' :: r := by
  fun_induction skipText s with
  | case1 => cases h
  | case2 q =>
    cases h
    exact ⟨[], [], .nil, rfl⟩
  | case3 => cases h
  | case4 s q hs ih =>
    obtain ⟨xs, t, ht, rfl⟩ := ih h
    obtain ⟨x, u, hu, rfl⟩ := spelt_of_skipEscape hs
    refine ⟨x :: xs, '\\' :: u ++ t, .cons hu ht, ?_⟩
    rw [List.cons_append, List.cons_append, List.append_assoc]
  | case5 => cases h
  | case6 c q hq hb hc ih =>
    obtain ⟨xs, t, ht, rfl⟩ := ih h
    exact ⟨.char c :: xs, [c] ++ t, .cons (spellsSymbol_raw hq hb hc) ht, rfl⟩

/-! ### Numbers -/

theorem digits_append_skipDigits (s : List Char) :
    ∃ t, (∀ c ∈ t, '0' ≤ c ∧ c ≤ '9') ∧ s = t ++ skipDigits s := by
  refine ⟨s.takeWhile Text.isDigit, ?_, List.takeWhile_append_dropWhile.symm⟩
  intro c hc
  exact isDigit_iff.mp (List.mem_takeWhile_imp hc)

theorem spelt_of_skipDigits1? {s r : List Char} (h : skipDigits1? s = some r) :
    ∃ t, Digits t ∧ s = t ++ r := by
  unfold skipDigits1? at h
  split at h
  · next c s =>
    split at h
    · next hc =>
      obtain ⟨t, ht, hs⟩ := digits_append_skipDigits s
      cases h
      refine ⟨c :: t, ⟨by simp, ?_⟩, congrArg (c :: ·) hs⟩
      exact List.forall_mem_cons.mpr ⟨isDigit_iff.mp hc, ht⟩
    · cases h
  · cases h

theorem spelt_of_skipWhole? {s r : List Char} (h : skipWhole? s = some r) :
    ∃ t, (t = ['0'] ∨ Digits t ∧ t.head? ≠ some '0') ∧ s = t ++ r := by
  unfold skipWhole? at h
  split at h
  · split at h
    · cases h
    · cases h
      exact ⟨['0'], .inl rfl, rfl⟩
  · next hzero =>
    obtain ⟨t, ht, rfl⟩ := spelt_of_skipDigits1? h
    refine ⟨t, .inr ⟨ht, ?_⟩, rfl⟩
    intro hhead
    obtain ⟨u, rfl⟩ := List.head?_eq_some_iff.mp hhead
    exact hzero (u ++ r) rfl

theorem spelt_of_skipFraction? {s r : List Char} (h : skipFraction? s = some r) :
    ∃ t, (t = [] ∨ ∃ u, Digits u ∧ t = '.' :: u) ∧ s = t ++ r := by
  unfold skipFraction? at h
  split at h
  · obtain ⟨u, hu, rfl⟩ := spelt_of_skipDigits1? h
    exact ⟨'.' :: u, .inr ⟨u, hu, rfl⟩, rfl⟩
  · cases h
    exact ⟨[], .inl rfl, rfl⟩

theorem exists_sign_append (s : List Char) :
    ∃ plus ∈ [[], ['+'], ['-']], s = plus ++ skipSign s := by
  unfold skipSign
  split
  · exact ⟨['+'], by decide, rfl⟩
  · exact ⟨['-'], by decide, rfl⟩
  · exact ⟨[], by decide, rfl⟩

theorem spelt_of_skipExponent? {s r : List Char} (h : skipExponent? s = some r) :
    ∃ t, (t = [] ∨ ∃ e ∈ ['e', 'E'], ∃ plus ∈ [[], ['+'], ['-']], ∃ u, Digits u ∧
      t = e :: plus ++ u) ∧ s = t ++ r := by
  have hletter : ∀ e ∈ ['e', 'E'], ∀ s, skipDigits1? (skipSign s) = some r →
      ∃ t, (t = [] ∨ ∃ e ∈ ['e', 'E'], ∃ plus ∈ [[], ['+'], ['-']], ∃ u, Digits u ∧
        t = e :: plus ++ u) ∧ e :: s = t ++ r := by
    intro e he s hs
    obtain ⟨plus, hplus, hsign⟩ := exists_sign_append s
    obtain ⟨u, hu, hdigits⟩ := spelt_of_skipDigits1? hs
    refine ⟨e :: plus ++ u, .inr ⟨e, he, plus, hplus, u, hu, rfl⟩, ?_⟩
    rw [hsign, hdigits, List.append_assoc, List.cons_append]
  unfold skipExponent? at h
  split at h
  · exact hletter 'e' (by decide) _ h
  · exact hletter 'E' (by decide) _ h
  · cases h
    exact ⟨[], .inl rfl, rfl⟩

theorem exists_minus_append (s : List Char) :
    ∃ sign ∈ [[], ['-']], s = sign ++ skipMinus s := by
  unfold skipMinus
  split
  · exact ⟨['-'], by decide, rfl⟩
  · exact ⟨[], by decide, rfl⟩

/-- What has been skipped as a number is one, however large. -/
theorem spelt_of_skipNumber {s r : List Char} (h : skipNumber s = .ok r) :
    ∃ t, SpellsNumber t ∧ s = t ++ r := by
  obtain ⟨sign, hsign, hs⟩ := exists_minus_append s
  rw [skipNumber] at h
  split at h
  · next q hq =>
    cases h
    rw [skipUnsigned?, Option.bind_eq_some_iff] at hq
    obtain ⟨s₂, hq, hexponent⟩ := hq
    obtain ⟨s₁, hwhole, hfraction⟩ := Option.bind_eq_some_iff.mp hq
    obtain ⟨whole, hw, hs₀⟩ := spelt_of_skipWhole? hwhole
    obtain ⟨fraction, hf, hs₁⟩ := spelt_of_skipFraction? hfraction
    obtain ⟨exponent, he, hs₂⟩ := spelt_of_skipExponent? hexponent
    refine ⟨sign ++ whole ++ fraction ++ exponent, .parts hsign hw hf he, ?_⟩
    rw [hs, hs₀, hs₁, hs₂]
    simp only [List.append_assoc]
  · cases h

/-! ### What is left of a list or an object -/

/-- The text up to the bracket that closes a list, and the elements in it. It begins right behind
the opening bracket (`first`) or behind an element. -/
inductive Rest {α : Type} (r : α → List Char → Prop) (close : Char) (first : Bool) :
    List α → List Char → Prop
  | closed {b : List Char} : Blank b → Rest r close first [] (b ++ [close])
  | more {as : List α} {lead t : List Char} :
      Lead first lead → Separated r as t → Rest r close first as (lead ++ t ++ [close])

/-- One step back: an element, in front of what is left behind it. -/
theorem Rest.cons {α : Type} {r : α → List Char → Prop} {close : Char} {first : Bool} {a : α}
    {as : List α} {lead b t u : List Char} (hl : Lead first lead) (hb : Blank b) (ht : r a t)
    (hu : Rest r close false as u) : Rest r close first (a :: as) (lead ++ (b ++ (t ++ u))) := by
  cases hu with
  | @closed b' hb' =>
    have h : Rest r close first [a] _ := .more hl (.last hb ht hb')
    simpa using h
  | @more _ lead' w hl' hs =>
    cases hl' with
    | @next b' hb' =>
      have h : Rest r close first (a :: as) _ := .more hl (.more hb ht hb' hs)
      simpa using h

theorem Rest.spells_list {vs : List Value} {t : List Char} (h : Rest Spells ']' true vs t) :
    Spells (.list vs) ('[' :: t) := by
  cases h with
  | closed hb => exact .emptyList hb
  | more hl hs =>
    cases hl
    exact .list hs

theorem Rest.spells_object {ms : List (List Symbol × Value)} {t : List Char}
    (h : Rest (SpellsMember Spells) '}' true ms t) : Spells (.object ms) ('{' :: t) := by
  cases h with
  | closed hb => exact .emptyObject hb
  | more hl hs =>
    cases hl
    exact .object hs

/-! ### Skipped values -/

namespace Skip

/-- The character that closes a bracket. -/
def closing : Bracket → Char
  | .square => ']'
  | .curly => '}'

/-- What is left in a bracket that is open. -/
def Inside : Bracket → Bool → List Char → Prop
  | .square, first, t => ∃ vs, Rest Spells ']' first vs t
  | .curly, first, t => ∃ ms, Rest (SpellsMember Spells) '}' first ms t

/-- Behind a value, the text `s` closes every bracket that is open and leaves `r`. -/
def Closes : List Bracket → List Char → List Char → Prop
  | [], s, r => s = r
  | bracket :: outer, s, r => ∃ t s', Inside bracket false t ∧ s = t ++ s' ∧ Closes outer s' r

/-- The text `s` goes on as the state asks and leaves `r`. -/
def Completes : State → List Char → List Char → Prop
  | .value outer, s, r =>
    ∃ b v t s', Blank b ∧ Spells v t ∧ s = b ++ (t ++ s') ∧ Closes outer s' r
  | .opened bracket outer, s, r => ∃ t s', Inside bracket true t ∧ s = t ++ s' ∧ Closes outer s' r
  | .behind outer, s, r => Closes outer s r

variable {outer : List Bracket} {first : Bool} {lead b t s q r : List Char}

/-- An element, in front of what closes its list. -/
theorem inside_square {v : Value} (hl : Lead first lead) (hb : Blank b) (ht : Spells v t)
    (h : Closes (.square :: outer) s r) :
    ∃ t' s', Inside .square first t' ∧ lead ++ (b ++ (t ++ s)) = t' ++ s' ∧ Closes outer s' r := by
  obtain ⟨u, s', ⟨vs, hu⟩, rfl, hclose⟩ := h
  exact ⟨_, s', ⟨v :: vs, hu.cons hl hb ht⟩, by simp, hclose⟩

/-- A member, in front of what closes its object. -/
theorem inside_curly {m : List Symbol × Value} (hl : Lead first lead) (hb : Blank b)
    (ht : SpellsMember Spells m t) (h : Closes (.curly :: outer) s r) :
    ∃ t' s', Inside .curly first t' ∧ lead ++ (b ++ (t ++ s)) = t' ++ s' ∧ Closes outer s' r := by
  obtain ⟨u, s', ⟨ms, hu⟩, rfl, hclose⟩ := h
  exact ⟨_, s', ⟨m :: ms, hu.cons hl hb ht⟩, by simp, hclose⟩

/-- The character that closes a list or an object, behind blanks. -/
theorem inside_closing (bracket : Bracket) (hb : Blank b) (h : Closes outer q r) :
    ∃ t s', Inside bracket first t ∧ b ++ closing bracket :: q = t ++ s' ∧ Closes outer s' r := by
  refine ⟨b ++ [closing bracket], q, ?_, by simp, h⟩
  cases bracket with
  | square => exact ⟨[], .closed hb⟩
  | curly => exact ⟨[], .closed hb⟩

/-- The scalar or the opening bracket that has been taken begins a value. -/
theorem completes_of_takeValue {next : State} (h : takeValue outer s = .ok (next, q))
    (hnext : Completes next q r) : ∃ v t s', Spells v t ∧ s = t ++ s' ∧ Closes outer s' r := by
  unfold takeValue at h
  split at h
  · cases h
  · cases h
    obtain ⟨t, s', ⟨vs, ht⟩, rfl, hclose⟩ := hnext
    exact ⟨.list vs, '[' :: t, s', ht.spells_list, rfl, hclose⟩
  · cases h
    obtain ⟨t, s', ⟨ms, ht⟩, rfl, hclose⟩ := hnext
    exact ⟨.object ms, '{' :: t, s', ht.spells_object, rfl, hclose⟩
  · obtain ⟨q', hq, he⟩ := map_ok h
    cases he
    obtain ⟨xs, t, ht, rfl⟩ := spelt_of_skipText hq
    exact ⟨.text xs, '"' :: t ++ ['"'], q, .text ht, by simp, hnext⟩
  · obtain ⟨q', hq, he⟩ := map_ok h
    cases he
    rw [eq_append_of_skipWord hq]
    exact ⟨.null, _, q, .null, rfl, hnext⟩
  · obtain ⟨q', hq, he⟩ := map_ok h
    cases he
    rw [eq_append_of_skipWord hq]
    exact ⟨.boolean true, _, q, .true, rfl, hnext⟩
  · obtain ⟨q', hq, he⟩ := map_ok h
    cases he
    rw [eq_append_of_skipWord hq]
    exact ⟨.boolean false, _, q, .false, rfl, hnext⟩
  · split at h
    · obtain ⟨q', hq, he⟩ := map_ok h
      cases he
      obtain ⟨t, ht, hs⟩ := spelt_of_skipNumber hq
      exact ⟨.number t, t, q, .number ht, hs, hnext⟩
    · cases h

/-- The key that has been taken begins a member. -/
theorem completes_of_takeKey {next : State} (h : takeKey outer s = .ok (next, q))
    (hnext : Completes next q r) :
    ∃ m t s', SpellsMember Spells m t ∧ s = t ++ s' ∧ Closes (.curly :: outer) s' r := by
  unfold takeKey at h
  split at h
  · cases h
  · split at h
    · cases h
    · next q₁ hkey =>
      obtain ⟨q₂, hcolon, he⟩ := map_ok h
      cases he
      obtain ⟨xs, k, hk, rfl⟩ := spelt_of_skipText hkey
      obtain ⟨b, hb, rfl⟩ := spelt_of_skipColon hcolon
      obtain ⟨b', v, t, s', hb', ht, rfl, hclose⟩ := hnext
      exact ⟨(xs, v), _, s', .member hk hb hb' ht, by simp, hclose⟩
  · cases h

/-- One step back: what a state asks for is what the step has taken and what the next state asks
for. -/
theorem completes_of_step {state next : State} (h : step state s = .ok (next, q))
    (hnext : Completes next q r) : Completes state s r := by
  obtain ⟨b, hb, hs⟩ := exists_blank_append s
  unfold step at h
  split at h
  · obtain ⟨v, t, s', ht, hq, hclose⟩ := completes_of_takeValue h hnext
    exact ⟨b, v, t, s', hb, ht, hq ▸ hs, hclose⟩
  · split at h
    · cases h
    · next hq =>
      cases h
      rw [hs, hq]
      exact inside_closing .square hb hnext
    · obtain ⟨v, t, s', ht, hq, hclose⟩ := completes_of_takeValue h hnext
      rw [hs, hq]
      exact inside_square .first hb ht hclose
  · split at h
    · cases h
    · next hq =>
      cases h
      rw [hs, hq]
      exact inside_closing .curly hb hnext
    · obtain ⟨m, t, s', ht, hq, hclose⟩ := completes_of_takeKey h hnext
      rw [hs, hq]
      exact inside_curly .first hb ht hclose
  · cases h
    exact hnext
  · split at h
    · cases h
    · next q₁ hq₁ =>
      obtain ⟨b', hb', hs'⟩ := exists_blank_append q₁
      obtain ⟨v, t, s', ht, hq, hclose⟩ := completes_of_takeValue h hnext
      rw [hs, hq₁, hs', hq, List.append_cons]
      exact inside_square (.next hb) hb' ht hclose
    · next hq =>
      cases h
      rw [hs, hq]
      exact inside_closing .square hb hnext
    · cases h
  · split at h
    · cases h
    · next q₁ hq₁ =>
      obtain ⟨b', hb', hs'⟩ := exists_blank_append q₁
      obtain ⟨m, t, s', ht, hq, hclose⟩ := completes_of_takeKey h hnext
      rw [hs, hq₁, hs', hq, List.append_cons]
      exact inside_curly (.next hb) hb' ht hclose
    · next hq =>
      cases h
      rw [hs, hq]
      exact inside_closing .curly hb hnext
    · cases h

theorem completes_of_run {state : State} (h : run state s = .ok r) : Completes state s r := by
  fun_induction run state s with
  | case1 s =>
    cases h
    exact rfl
  | case2 => cases h
  | case3 _ _ _ _ _ hstep ih => exact completes_of_step hstep (ih h)

end Skip

/-- What has been skipped as a value is a spelling of one. -/
theorem spelt_of_skipValue {s r : List Char} (h : skipValue s = .ok r) :
    ∃ b v t, Blank b ∧ Spells v t ∧ s = b ++ (t ++ r) := by
  obtain ⟨b, v, t, s', hb, ht, hs, rfl⟩ := Skip.completes_of_run h
  exact ⟨b, v, t, hb, ht, hs⟩

/-- **Skipping knows the notation.** A text is JSON if and only if skipping one value leaves no more
than blanks of it. -/
theorem exists_writes_iff {text : String} :
    (∃ v, Writes v text) ↔ ∃ r, skipValue text.toList = .ok r ∧ skipBlanks r = [] := by
  constructor
  · rintro ⟨v, b, t, b', hb, ht, hb', htext⟩
    have hends : Ends b' := List.append_nil b' ▸ Ends.append hb' ends_nil
    exact ⟨b', htext ▸ skipValue_spelt hb ht hends, skipBlanks_eq_nil_iff.mpr hb'⟩
  · rintro ⟨r, hskip, hr⟩
    obtain ⟨b, v, t, hb, ht, htext⟩ := spelt_of_skipValue hskip
    exact ⟨v, b, t, r, hb, ht, skipBlanks_eq_nil_iff.mp hr, by rw [htext, List.append_assoc]⟩

end ClassDiagram.Json
