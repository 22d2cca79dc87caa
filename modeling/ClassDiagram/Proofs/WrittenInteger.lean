import ClassDiagram.Proofs.SwitchReaders
import Mathlib.Data.List.Induction
import Mathlib.Data.Nat.Digits.Defs

/-!
# Written Integers

`SpellsInteger n t` says without a reader that the text `t` is the integer `n`: decimal digits, any
number of leading zeros among them, behind at most one sign. Reading agrees with it on all integers
that fit and refuses all other texts (`int32?_eq_some_iff`), so what a switch reads is the value of
its word and never a part of it (`integer_exact`). One text of every integer is its `toString`
(`spellsInteger_toString`).
-/

namespace ClassDiagram

namespace Text

variable {c : Char} {d : Nat} {t : List Char}

/-! ### Spellings -/

/-- One or more decimal digits, the most significant first, and the number that they stand for. -/
inductive SpellsNatural : Nat → List Char → Prop
  | digits {ds : List Nat} :
      ds ≠ [] → (∀ d ∈ ds, d < 10) →
        SpellsNatural (Nat.ofDigits 10 ds.reverse) (ds.map Nat.digitChar)

/-- Decimal digits behind at most one sign, and the integer that they stand for. -/
inductive SpellsInteger : Int → List Char → Prop
  | unsigned {n : Nat} {t : List Char} : SpellsNatural n t → SpellsInteger n t
  | plus {n : Nat} {t : List Char} : SpellsNatural n t → SpellsInteger n ('+' :: t)
  | minus {n : Nat} {t : List Char} : SpellsNatural n t → SpellsInteger (-n) ('-' :: t)

/-- One more digit at the end makes ten times the number, and the digit. -/
theorem SpellsNatural.concat {n : Nat} (h : SpellsNatural n t) (hd : d < 10) :
    SpellsNatural (10 * n + d) (t ++ [d.digitChar]) := by
  cases h with
  | @digits ds hne hall =>
    have hall' : ∀ e ∈ ds ++ [d], e < 10 := by
      intro e he
      rcases List.mem_append.mp he with he | he
      · exact hall e he
      · rw [List.mem_singleton.mp he]
        exact hd
    have hspells := SpellsNatural.digits (List.append_ne_nil_of_left_ne_nil hne [d]) hall'
    have hvalue : Nat.ofDigits 10 (ds ++ [d]).reverse = 10 * Nat.ofDigits 10 ds.reverse + d := by
      rw [List.reverse_concat, Nat.ofDigits_cons]
      exact Nat.add_comm d _
    rwa [List.map_append, List.map_singleton, hvalue] at hspells

theorem spellsNatural_digit (hd : d < 10) : SpellsNatural d [d.digitChar] := by
  have hspells := SpellsNatural.digits (List.cons_ne_nil d []) (by simpa using hd)
  rwa [List.reverse_singleton, Nat.ofDigits_singleton] at hspells

theorem spellsNatural_toDigits (n : Nat) : SpellsNatural n (Nat.toDigits 10 n) := by
  induction n using Nat.strong_induction_on with
  | _ n ih =>
    by_cases hn : n < 10
    · rw [Nat.toDigits_of_lt_base hn]
      exact spellsNatural_digit hn
    · rw [Nat.toDigits_of_base_le (by decide) (by omega)]
      have hspells := (ih (n / 10) (by omega)).concat (Nat.mod_lt n (by decide : 0 < 10))
      rwa [Nat.div_add_mod] at hspells

/-- The text that stands for an integer elsewhere is a spelling of it. -/
theorem spellsInteger_toString (n : Int) : SpellsInteger n (toString n).toList := by
  rw [Int.toString_eq_repr, Int.repr_eq_if]
  split
  · next hn =>
    have hspells := SpellsInteger.unsigned (spellsNatural_toDigits n.toNat)
    rwa [Int.toNat_of_nonneg hn, ← Nat.toList_repr] at hspells
  · next hn =>
    have hspells := SpellsInteger.minus (spellsNatural_toDigits (-n).toNat)
    rw [Int.toNat_of_nonneg (by omega), Int.neg_neg, ← Nat.toList_repr] at hspells
    rw [String.toList_append]
    exact hspells

/-! ### Reading -/

theorem isDigit_iff_exists : isDigit c ↔ ∃ d < 10, d.digitChar = c := by
  have hbounds : isDigit c ↔ 48 ≤ c.toNat ∧ c.toNat ≤ 57 := by
    rw [isDigit, Bool.and_eq_true, decide_eq_true_iff, decide_eq_true_iff]
    exact Iff.rfl
  rw [hbounds]
  constructor
  · rintro ⟨hle, hge⟩
    refine ⟨c.toNat - 48, by omega, Char.toNat_inj.mp ?_⟩
    rw [Nat.toNat_digitChar_of_lt_ten (by omega)]
    omega
  · rintro ⟨d, hd, rfl⟩
    rw [Nat.toNat_digitChar_of_lt_ten hd]
    omega

theorem digitValue_digitChar (hd : d < 10) : digitValue d.digitChar = d :=
  Nat.toNat_digitChar_sub_48_of_lt_ten hd

theorem decimalValue_concat (t : List Char) (c : Char) :
    decimalValue (t ++ [c]) = 10 * decimalValue t + digitValue c := by
  rw [decimalValue, List.foldl_append]
  rfl

/-- The value of a run of digits, as it is read, is the number of these digits. -/
theorem decimalValue_map_digitChar {ds : List Nat} (hds : ∀ d ∈ ds, d < 10) :
    decimalValue (ds.map Nat.digitChar) = Nat.ofDigits 10 ds.reverse := by
  induction ds using List.reverseRecOn with
  | nil => rfl
  | append_singleton ds d ih =>
    have hd : d < 10 := hds d (List.mem_append_right _ List.mem_cons_self)
    have hds' : ∀ e ∈ ds, e < 10 := fun e he => hds e (List.mem_append_left _ he)
    rw [List.map_append, List.map_singleton, decimalValue_concat, ih hds', digitValue_digitChar hd,
      List.reverse_concat, Nat.ofDigits_cons]
    exact Nat.add_comm _ d

/-- A text of digits only is made of the digits that it is read as. -/
theorem exists_digits (h : ∀ c ∈ t, isDigit c) :
    ∃ ds : List Nat, (∀ d ∈ ds, d < 10) ∧ ds.map Nat.digitChar = t := by
  induction t with
  | nil => exact ⟨[], List.forall_mem_nil _, rfl⟩
  | cons c t ih =>
    obtain ⟨hc, ht⟩ := List.forall_mem_cons.mp h
    obtain ⟨d, hd, rfl⟩ := isDigit_iff_exists.mp hc
    obtain ⟨ds, hds, rfl⟩ := ih ht
    exact ⟨d :: ds, List.forall_mem_cons.mpr ⟨hd, hds⟩, rfl⟩

theorem natural?_eq_some_iff {n : Nat} : natural? t = some n ↔ SpellsNatural n t := by
  rw [natural?, Option.ite_none_right_eq_some, Option.some_inj, List.all_eq_true]
  constructor
  · rintro ⟨⟨hne, hall⟩, rfl⟩
    obtain ⟨ds, hds, rfl⟩ := exists_digits hall
    rw [decimalValue_map_digitChar hds]
    exact .digits (fun h => hne (h ▸ rfl)) hds
  · rintro ⟨hne, hds⟩
    refine ⟨⟨?_, ?_⟩, decimalValue_map_digitChar hds⟩
    · exact mt List.map_eq_nil_iff.mp hne
    · intro c hc
      obtain ⟨d, hd, rfl⟩ := List.mem_map.mp hc
      exact isDigit_iff_exists.mpr ⟨d, hds d hd, rfl⟩

/-- Digits do not begin with a sign. -/
theorem SpellsNatural.head {n : Nat} (h : SpellsNatural n (c :: t)) : isDigit c := by
  have hread := natural?_eq_some_iff.mpr h
  rw [natural?, Option.ite_none_right_eq_some] at hread
  exact List.all_eq_true.mp hread.1.2 c List.mem_cons_self

/-- What is made of the number behind a sign. -/
theorem map_natural?_eq_some_iff {f : Int → Int} {k : Int} :
    (do let n ← natural? t; pure (n : Int)).map f = some k ↔
      ∃ n : Nat, SpellsNatural n t ∧ f n = k := by
  rw [Option.map_eq_some_iff]
  constructor
  · rintro ⟨m, hm, rfl⟩
    obtain ⟨n, hn, he⟩ := Option.bind_eq_some_iff.mp hm
    cases he
    exact ⟨n, natural?_eq_some_iff.mp hn, rfl⟩
  · rintro ⟨n, hn, rfl⟩
    exact ⟨n, Option.bind_eq_some_iff.mpr ⟨n, natural?_eq_some_iff.mpr hn, rfl⟩, rfl⟩

theorem integer?_eq_some_iff {n : Int} : integer? t = some n ↔ SpellsInteger n t := by
  unfold integer?
  split
  · rw [map_natural?_eq_some_iff]
    constructor
    · rintro ⟨k, hk, rfl⟩
      exact .minus hk
    · intro h
      cases h with
      | unsigned h => exact absurd h.head (by decide)
      | minus h => exact ⟨_, h, rfl⟩
  · rw [map_natural?_eq_some_iff]
    constructor
    · rintro ⟨k, hk, rfl⟩
      exact .plus hk
    · intro h
      cases h with
      | unsigned h => exact absurd h.head (by decide)
      | plus h => exact ⟨_, h, rfl⟩
  · next hminus hplus =>
    rw [map_natural?_eq_some_iff]
    constructor
    · rintro ⟨k, hk, rfl⟩
      exact .unsigned hk
    · intro h
      cases h with
      | unsigned h => exact ⟨_, h, rfl⟩
      | plus h => exact absurd rfl (hplus _)
      | minus h => exact absurd rfl (hminus _)

/-- **Reading agrees with spelling** on the integers that fit, and reads no other text. -/
theorem int32?_eq_some_iff {w : String} {n : Int} :
    int32? w = some n ↔ SpellsInteger n w.toList ∧ Fits32 n := by
  rw [int32?, Option.filter_eq_some_iff, integer?_eq_some_iff, decide_eq_true_iff]

end Text

namespace Switches

open Text (SpellsInteger)

/-- **Integers are read exactly.** The word behind a switch gives the integer that it spells if that
lies in the range of 32 bits, which every integer of the range does in its own text, and there is
no other way for it to give one: all other words, of any length, are refused. -/
theorem integer_exact {s : Switches} {switch w : String} {before ws : List String}
    (hwords : s.words = before ++ switch :: w :: ws) (hbefore : switch ∉ before) (default : Int) :
    (∀ n, s.integer switch default = .ok n ↔
      SpellsInteger n w.toList ∧ -2147483648 ≤ n ∧ n ≤ 2147483647) ∧
    ((¬ ∃ n, SpellsInteger n w.toList ∧ -2147483648 ≤ n ∧ n ≤ 2147483647) →
      s.integer switch default = .error (.notAnInteger switch)) ∧
    ∀ n, -2147483648 ≤ n → n ≤ 2147483647 → w = toString n → s.integer switch default = .ok n := by
  have hbehind : Behind switch s.words (some (w :: ws)) := hwords ▸ .present hbefore
  have hok : ∀ n, s.integer switch default = .ok n ↔
      SpellsInteger n w.toList ∧ -2147483648 ≤ n ∧ n ≤ 2147483647 := by
    intro n
    rw [integer_eq_ok_iff, ← Text.Fits32, ← Text.int32?_eq_some_iff]
    constructor
    · rintro (h | ⟨h, hread⟩)
      · cases h.wordsAfter_eq.symm.trans hbehind.wordsAfter_eq
      · cases h.wordsAfter_eq.symm.trans hbehind.wordsAfter_eq
        exact hread
    · exact .next hbehind
  refine ⟨hok, ?_, ?_⟩
  · intro hnone
    refine IntegerFault.integer_eq (.next hbehind ?_) default
    refine Option.eq_none_iff_forall_ne_some.mpr fun n hn => ?_
    exact hnone ⟨n, Text.int32?_eq_some_iff.mp hn⟩
  · rintro n hle hge rfl
    exact (hok n).mpr ⟨Text.spellsInteger_toString n, hle, hge⟩

/-- The least integer with leading zeros, and one more than the greatest. -/
def extremeWords : List String := ["-v", "2147483648", "-d", "-0002147483648", "-d", "7"]

theorem integer_exact_extremes :
    "-d" ∉ ["-v", "2147483648"] ∧ SpellsInteger (-2147483648) "-0002147483648".toList ∧
      integer ⟨extremeWords⟩ "-d" 1 = .ok (-2147483648) ∧
      SpellsInteger 2147483648 "2147483648".toList ∧
      integer ⟨extremeWords⟩ "-v" 0 = .error (.notAnInteger "-v") := by
  have hnew : "-d" ∉ ["-v", "2147483648"] := by decide
  have hleast : SpellsInteger (-2147483648) "-0002147483648".toList :=
    Text.integer?_eq_some_iff.mp (by decide)
  have hlarge : SpellsInteger 2147483648 "2147483648".toList :=
    Text.integer?_eq_some_iff.mp (by decide)
  refine ⟨hnew, hleast, ?_, hlarge, ?_⟩
  · exact ((integer_exact (s := ⟨extremeWords⟩) rfl hnew 1).1 _).mpr ⟨hleast, by decide, by decide⟩
  · refine (integer_exact (s := ⟨extremeWords⟩) rfl (List.not_mem_nil (a := "-v")) 0).2.1 ?_
    rintro ⟨n, hn, -, hge⟩
    have he := Text.integer?_eq_some_iff.mpr hlarge
    rw [Text.integer?_eq_some_iff.mpr hn, Option.some_inj] at he
    omega

end Switches

end ClassDiagram
