import ClassDiagram.Json.Lexeme
import ClassDiagram.Proofs.Json.Spelling

/-!
# Reading Spelt Strings

Every spelling of a text is read as the text (`readText_spelt`), by induction on its symbols: one
symbol, however it is spelt, adds its character to what has been read so far (`readText_symbol`).
-/

namespace ClassDiagram.Json

/-! ### Blanks -/

theorem isBlank_iff {c : Char} : isBlank c ↔ c ∈ [' ', '\t', '\n', '\r'] := by
  simp [isBlank, or_assoc]

theorem skipBlanks_append {b : List Char} (hb : Blank b) (s : List Char) :
    skipBlanks (b ++ s) = skipBlanks s :=
  List.dropWhile_append_of_pos fun c hc => isBlank_iff.mpr (hb c hc)

theorem skipBlanks_cons {c : Char} (hc : isBlank c = false) (s : List Char) :
    skipBlanks (c :: s) = c :: s := by
  simp [skipBlanks, hc]

/-! ### Units and escapes -/

theorem hexDigit?_eq_some {n : Nat} {c : Char} (h : HexDigit n c) : Text.hexDigit? c = some n := by
  obtain ⟨hn, hc⟩ := h
  have hall : ∀ n < 16, Text.hexDigit? n.digitChar = some n ∧
      Text.hexDigit? n.digitChar.toUpper = some n := by decide
  rcases hc with rfl | rfl
  · exact (hall n hn).1
  · exact (hall n hn).2

theorem readUnit_of_spells {u : Nat} {t : List Char} (h : SpellsUnit u t) (rest : List Char) :
    readUnit (t ++ rest) = .ok (u, rest) := by
  cases h with
  | digits ha hb hc hd =>
    simp [readUnit, hexDigit?_eq_some ha, hexDigit?_eq_some hb, hexDigit?_eq_some hc,
      hexDigit?_eq_some hd]

theorem shortEscape?_eq_some {letter c : Char} (h : (letter, c) ∈ shortEscapes) :
    shortEscape? letter = some c ∧ letter ≠ 'u' := by
  have hall : ∀ p ∈ shortEscapes, shortEscape? p.1 = some p.2 ∧ p.1 ≠ 'u' := by decide
  exact hall _ h

theorem readEscape_short {letter c : Char} (h : (letter, c) ∈ shortEscapes) (rest : List Char) :
    readEscape (letter :: rest) = .ok (c, rest) := by
  obtain ⟨hshort, hu⟩ := shortEscape?_eq_some h
  rw [readEscape]
  · rw [hshort]
  · exact hu

theorem readEscape_unit {c : Char} {t : List Char} (h : SpellsUnit c.toNat t) (rest : List Char) :
    readEscape ('u' :: (t ++ rest)) = .ok (c, rest) := by
  rw [readEscape, readUnit_of_spells h]
  have hvalid : c.toNat < 0xD800 ∨ 0xDFFF < c.toNat ∧ c.toNat < 0x110000 := c.valid
  have hlow : ¬ IsLowSurrogate c.toNat := by
    unfold IsLowSurrogate
    omega
  have hhigh : ¬ IsHighSurrogate c.toNat := by
    unfold IsHighSurrogate
    omega
  simp only [if_neg hlow, if_neg hhigh, Char.ofNat_toNat]

theorem readEscape_pair {c : Char} {high low : Nat} {t t' : List Char} (hh : 0xD800 ≤ high)
    (hh' : high ≤ 0xDBFF) (hl : 0xDC00 ≤ low) (hl' : low ≤ 0xDFFF)
    (hc : c.toNat = 0x10000 + (high - 0xD800) * 0x400 + (low - 0xDC00))
    (ht : SpellsUnit high t) (ht' : SpellsUnit low t') (rest : List Char) :
    readEscape ('u' :: (t ++ '\\' :: 'u' :: (t' ++ rest))) = .ok (c, rest) := by
  have hnotlow : ¬ IsLowSurrogate high := by
    unfold IsLowSurrogate
    omega
  have hjoin : joinSurrogates high low = c := by
    rw [joinSurrogates, ← hc, Char.ofNat_toNat]
  rw [readEscape, readUnit_of_spells ht]
  simp only [if_neg hnotlow, if_pos (show IsHighSurrogate high from ⟨hh, hh'⟩)]
  rw [readLowSurrogate, readUnit_of_spells ht']
  simp only [if_pos (show IsLowSurrogate low from ⟨hl, hl'⟩), hjoin]

/-! ### Strings -/

theorem readText_escape {front s r : List Char} {c : Char} (h : readEscape s = .ok (c, r)) :
    readText front ('\\' :: s) = readText (c :: front) r := by
  rw [readText]
  split
  · next f hf => rw [h] at hf; cases hf
  · next d q hd => rw [h] at hd; cases hd; rfl

theorem readText_fault {front s : List Char} {f : Fault} (h : readEscape s = .error f) :
    readText front ('\\' :: s) = .error f := by
  rw [readText]
  split
  · next g hg => rw [h] at hg; cases hg; rfl
  · next d q hd => rw [h] at hd; cases hd

theorem readText_raw {front s : List Char} {c : Char} (hq : c ≠ '"') (hb : c ≠ '\\')
    (hc : 0x20 ≤ c.toNat) : readText front (c :: s) = readText (c :: front) s := by
  have hcontrol : isControl c = false := by
    rw [isControl, decide_eq_false_iff_not]
    omega
  rw [readText]
  · simp [hcontrol]
  · exact hq
  · exact hb

/-- Every spelling of a character is read as the character. -/
theorem readText_symbol {c : Char} {t : List Char} (h : SpellsSymbol (.char c) t)
    (front rest : List Char) : readText front (t ++ rest) = readText (c :: front) rest := by
  cases h with
  | raw hq hb hc => exact readText_raw hq hb hc
  | short h => exact readText_escape (readEscape_short h rest)
  | unit h => exact readText_escape (readEscape_unit h rest)
  | @pair _ high low t t' hh hh' hl hl' hc ht ht' =>
    rw [List.append_assoc, List.cons_append, List.cons_append]
    exact readText_escape (readEscape_pair hh hh' hl hl' hc ht ht' rest)

theorem readText_of_spells {xs : List Symbol} {t : List Char} (h : SpellsText xs t)
    (rest : List Char) : ∀ (cs front : List Char), xs = cs.map .char →
      readText front (t ++ '"' :: rest) = .ok (String.ofList (front.reverse ++ cs), rest) := by
  induction h with
  | nil =>
    intro cs front hcs
    obtain rfl : cs = [] := List.map_eq_nil_iff.mp hcs.symm
    rw [List.nil_append, readText, List.append_nil]
  | @cons x xs t ts hx _ ih =>
    intro cs front hcs
    obtain ⟨c, cs, rfl, rfl, rfl⟩ := List.map_eq_cons_iff.mp hcs.symm
    rw [List.append_assoc, readText_symbol hx, ih cs (c :: front) rfl, List.reverse_cons,
      List.append_assoc, List.singleton_append]

/-- **Every spelling of a text is read as the text.** -/
theorem readText_spelt {w : String} {t : List Char} (h : SpellsText (symbols w) t)
    (rest : List Char) : readText [] (t ++ '"' :: rest) = .ok (w, rest) := by
  have hread := readText_of_spells h rest w.toList [] rfl
  rwa [List.reverse_nil, List.nil_append, String.ofList_toList] at hread

end ClassDiagram.Json
