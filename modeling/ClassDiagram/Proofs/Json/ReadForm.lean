import ClassDiagram.Proofs.Json.Consumed
import ClassDiagram.Proofs.Json.Form

/-!
# Reading Forms

A reader `Reads` the forms of some sort of data if it takes every form of every value, and if all
that it ever takes off a text is a spelling of such a form. There is one such statement for each way
to make a reader; the one for records is a module of its own.
-/

namespace ClassDiagram.Json

variable {α : Type}

/-- The reader reads all forms of the data, in every spelling, and nothing else. -/
structure Reader.Reads (p : Reader α) (form : Style → α → Value → Prop) : Prop where
  takes : ∀ {style : Style} {a : α} {v : Value}, form style a v → p.Takes v a
  only : ∀ {s r : List Char} {a : α}, p.read s = .ok (a, r) →
    ∃ b v t, Blank b ∧ Spells v t ∧ form .mixed a v ∧ s = b ++ (t ++ r)

/-! ### Texts -/

theorem spelt_of_takeText {wanted w : String} {s r : List Char}
    (h : takeText wanted s = .ok (w, r)) : ∃ t, Spells (.string w) t ∧ s = t ++ r := by
  unfold takeText at h
  split at h
  · obtain ⟨t, ht, rfl⟩ := spelt_of_readText h
    exact ⟨'"' :: t ++ ['"'], .text ht, by simp⟩
  · cases h

theorem Reader.reads_text : Reader.text.Reads TextForm where
  takes := by
    rintro style w v rfl
    exact Reader.takes_text w
  only := by
    intro s r w h
    obtain ⟨b, hb, hs⟩ := exists_blank_append s
    obtain ⟨t, ht, hq⟩ := spelt_of_takeText h
    exact ⟨b, .string w, t, hb, ht, rfl, hq ▸ hs⟩

theorem Reader.reads_optionalText : Reader.optionalText.Reads OptionalTextForm where
  takes := by
    intro style w v h
    cases w with
    | none =>
      cases h
      exact Reader.takes_optionalText_null
    | some w =>
      cases h
      exact Reader.takes_optionalText w
  only := by
    intro s r w h
    obtain ⟨b, hb, hs⟩ := exists_blank_append s
    change takeOptionalText (skipBlanks s) = _ at h
    unfold takeOptionalText at h
    split at h
    · next q hq =>
      obtain ⟨q', hword, he⟩ := map_ok h
      cases he
      refine ⟨b, .null, _, hb, .null, rfl, ?_⟩
      rw [hs, hq, eq_append_of_skipWord hword]
      rfl
    · obtain ⟨⟨w, q⟩, htext, he⟩ := map_ok h
      cases he
      obtain ⟨t, ht, hq⟩ := spelt_of_takeText htext
      exact ⟨b, .string w, t, hb, ht, rfl, hq ▸ hs⟩

/-! ### Vocabularies -/

section Vocabulary
variable {words : List (String × α)} {w : String} {a : α}

theorem meaning_eq_ok_iff : meaning words w = .ok a ↔ words.lookup w = some a := by
  unfold meaning
  cases words.lookup w with
  | none => simp
  | some b => simp

theorem takeWord_spelt (ha : words.lookup w = some a) {t : List Char}
    (ht : SpellsText (symbols w) t) (rest : List Char) :
    takeWord words (t ++ '"' :: rest) = .ok (a, rest) := by
  rw [takeWord, readText_spelt ht]
  change (meaning words w >>= fun v => pure (v, rest)) = _
  rw [meaning_eq_ok_iff.mpr ha]
  rfl

theorem spelt_of_takeWord {s r : List Char} (h : takeWord words s = .ok (a, r)) :
    ∃ w t, words.lookup w = some a ∧ SpellsText (symbols w) t ∧ s = t ++ '"' :: r := by
  obtain ⟨⟨w, q⟩, hread, h⟩ := bind_ok h
  obtain ⟨b, hmeaning, h⟩ := bind_ok h
  cases h
  obtain ⟨t, ht, hs⟩ := spelt_of_readText hread
  exact ⟨w, t, meaning_eq_ok_iff.mp hmeaning, ht, hs⟩

/-- A list of one element is the element between blanks. -/
theorem Separated.single {β : Type} {r : β → List Char → Prop} {x : β} {t : List Char}
    (h : Separated r [x] t) : ∃ b u b', Blank b ∧ r x u ∧ Blank b' ∧ t = b ++ u ++ b' := by
  cases h with
  | last hb hu hb' => exact ⟨_, _, _, hb, hu, hb', rfl⟩
  | more _ _ _ hs => cases hs

theorem takeKey_spelt (ha : words.lookup w = some a) {b t : List Char} (hb : Blank b)
    (ht : SpellsText (symbols w) t) (rest : List Char) :
    takeKey words (b ++ '"' :: (t ++ '"' :: rest)) = .ok (a, rest) := by
  rw [takeKey, skipBlanks_append hb, skipBlanks_cons (by decide)]
  exact takeWord_spelt ha ht rest

theorem spelt_of_takeKey {s r : List Char} (h : takeKey words s = .ok (a, r)) :
    ∃ w b t, words.lookup w = some a ∧ Blank b ∧ SpellsText (symbols w) t ∧
      s = b ++ '"' :: (t ++ '"' :: r) := by
  obtain ⟨b, hb, hs⟩ := exists_blank_append s
  rw [takeKey] at h
  split at h
  · cases h
  · next q hq =>
    obtain ⟨w, t, hw, ht, rfl⟩ := spelt_of_takeWord h
    exact ⟨w, b, t, hw, hb, ht, hq ▸ hs⟩
  · cases h
  · cases h

theorem takeNull_spelt {b : List Char} (hb : Blank b) (rest : List Char) :
    takeNull (skipBlanks (b ++ 'n' :: 'u' :: 'l' :: 'l' :: rest)) = .ok rest := by
  rw [skipBlanks_append hb, skipBlanks_cons (by decide)]
  rfl

theorem spelt_of_takeNull {s r : List Char} (h : takeNull (skipBlanks s) = .ok r) :
    ∃ b, Blank b ∧ s = b ++ 'n' :: 'u' :: 'l' :: 'l' :: r := by
  obtain ⟨b, hb, hs⟩ := exists_blank_append s
  unfold takeNull at h
  split at h
  · next q hq =>
    refine ⟨b, hb, ?_⟩
    rw [hs, hq, eq_append_of_skipWord h]
    rfl
  · cases h

theorem closeSingle_append {b : List Char} (hb : Blank b) (rest : List Char) :
    closeSingle (b ++ '}' :: rest) = .ok rest := by
  rw [closeSingle, skipBlanks_append hb, skipBlanks_cons (by decide)]
  rfl

theorem spelt_of_closeSingle {s r : List Char} (h : closeSingle s = .ok r) :
    ∃ b, Blank b ∧ s = b ++ '}' :: r := by
  obtain ⟨b, hb, hs⟩ := exists_blank_append s
  rw [closeSingle] at h
  split at h
  · cases h
  · next q hq =>
    cases h
    exact ⟨b, hb, hq ▸ hs⟩
  · cases h

/-- A word may be the only key of an object. -/
theorem takeChoice_object (ha : words.lookup w = some a) {t : List Char}
    (ht : Spells (.record [(w, .null)]) t) (rest : List Char) :
    takeChoice words (t ++ rest) = .ok (a, rest) := by
  change Spells (.object [(symbols w, .null)]) t at ht
  cases ht with
  | object hs =>
    obtain ⟨b, u, b', hb, hu, hb', rfl⟩ := hs.single
    cases hu with
    | @member _ _ k c c' n hk hc hc' hn =>
      cases hn
      have htext :
          '{' :: (b ++ ('"' :: k ++ '"' :: c ++ ':' :: c' ++ ['n', 'u', 'l', 'l']) ++ b') ++
              ['}'] ++ rest =
            '{' :: (b ++ '"' :: (k ++ '"' :: (c ++ ':' :: (c' ++ 'n' :: 'u' :: 'l' :: 'l' ::
              (b' ++ '}' :: rest))))) := by simp
      rw [htext, takeChoice, takeKey_spelt ha hb hk]
      simp only [bind, Except.bind, skipColon_append hc, takeNull_spelt hc',
        closeSingle_append hb']
      rfl

/-- What has been taken as a word of the vocabulary is a form of one. -/
theorem spelt_of_takeChoice {s r : List Char} (h : takeChoice words s = .ok (a, r)) :
    ∃ w v t, words.lookup w = some a ∧ Spells v t ∧ WordForm .mixed w v ∧ s = t ++ r := by
  unfold takeChoice at h
  split at h
  · cases h
  · obtain ⟨w, t, hw, ht, rfl⟩ := spelt_of_takeWord h
    exact ⟨w, .string w, '"' :: t ++ ['"'], hw, .text ht, .string, by simp⟩
  · obtain ⟨⟨x, q₁⟩, hkey, h⟩ := bind_ok h
    obtain ⟨q₂, hcolon, h⟩ := bind_ok h
    obtain ⟨q₃, hnull, h⟩ := bind_ok h
    obtain ⟨q₄, hclose, h⟩ := bind_ok h
    cases h
    obtain ⟨w, b, k, hw, hb, hk, rfl⟩ := spelt_of_takeKey hkey
    obtain ⟨c, hc, rfl⟩ := spelt_of_skipColon hcolon
    obtain ⟨c', hc', rfl⟩ := spelt_of_takeNull hnull
    obtain ⟨b', hb', rfl⟩ := spelt_of_closeSingle hclose
    have hobject : Spells (.record [(w, .null)]) _ :=
      .object (.last hb (.member hk hc hc' .null) hb')
    exact ⟨w, _, _, hw, hobject, .object, by simp⟩
  · cases h

end Vocabulary

/-- A reader of a vocabulary reads the words that stand for something. -/
theorem Reader.reads_choice {words : List (String × α)} {word : α → String}
    (hwords : ∀ w a, words.lookup w = some a ↔ w = word a) :
    (Reader.choice words).Reads fun style a => WordForm style (word a) where
  takes := by
    intro style a v h
    have ha : words.lookup (word a) = some a := (hwords _ a).mpr rfl
    cases h with
    | string => exact Reader.takes_choice ha
    | object =>
      intro b t rest hb ht
      change takeChoice words (skipBlanks _) = _
      obtain ⟨c, s, rfl, hc, -⟩ := ht.head
      rw [skipBlanks_spelt hb hc]
      exact takeChoice_object ha ht rest
  only := by
    intro s r a h
    obtain ⟨b, hb, hs⟩ := exists_blank_append s
    obtain ⟨w, v, t, hw, ht, hv, hq⟩ := spelt_of_takeChoice h
    obtain rfl := (hwords w a).mp hw
    exact ⟨b, v, t, hb, ht, hv, hq ▸ hs⟩

/-! ### Lists -/

theorem spelt_of_nextElement_closed {first : Bool} {s r : List Char}
    (h : nextElement first s = .ok (.closed r)) : ∃ b, Blank b ∧ s = b ++ ']' :: r := by
  obtain ⟨b, hb, hs⟩ := exists_blank_append s
  rw [nextElement] at h
  split at h
  · cases h
  · next q hq =>
    cases h
    exact ⟨b, hb, hq ▸ hs⟩
  · split at h
    · cases h
    · split at h
      · split at h
        · cases h
        · cases h
        · cases h
      · cases h

theorem spelt_of_nextElement_element {first : Bool} {s r : List Char}
    (h : nextElement first s = .ok (.element r)) :
    ∃ lead b, Lead first lead ∧ Blank b ∧ s = lead ++ (b ++ r) := by
  obtain ⟨b, hb, hs⟩ := exists_blank_append s
  rw [nextElement] at h
  split at h
  · cases h
  · cases h
  · next c q _ hq =>
    split at h
    · next hfirst =>
      cases h
      subst hfirst
      exact ⟨[], b, .first, hb, hq ▸ hs⟩
    · next hfirst =>
      split at h
      · next hc =>
        obtain ⟨b', hb', hs'⟩ := exists_blank_append q
        split at h
        · cases h
        · cases h
        · cases h
          rw [Bool.not_eq_true] at hfirst
          subst hfirst
          refine ⟨b ++ [','], b', .next hb, hb', ?_⟩
          rw [hs, hq, hc, ← hs', List.append_cons]
      · cases h

/-- What has been read of a list up to its closing bracket. -/
theorem rest_of_readElements {p : Reader α} {form : Style → α → Value → Prop} (hp : p.Reads form)
    {first : Bool} {front as : List α} {s r : List Char}
    (h : readElements p first front s = .ok (as, r)) :
    ∃ bs vs t, as = front.reverse ++ bs ∧ List.Forall₂ (form .mixed) bs vs ∧
      Rest Spells ']' first vs t ∧ s = t ++ r := by
  fun_induction readElements p first front s with
  | case1 => cases h
  | case2 first front s q hn =>
    cases h
    obtain ⟨b, hb, rfl⟩ := spelt_of_nextElement_closed hn
    exact ⟨[], [], b ++ [']'], by simp, .nil, .closed hb, by simp⟩
  | case3 => cases h
  | case4 first front s q hn a q' hv ih =>
    obtain ⟨bs, vs, t, rfl, hforms, hrest, rfl⟩ := ih h
    obtain ⟨lead, b, hl, hb, rfl⟩ := spelt_of_nextElement_element hn
    obtain ⟨b', v, u, hb', hu, hform, rfl⟩ := hp.only hv
    refine ⟨a :: bs, v :: vs, lead ++ (b ++ b' ++ (u ++ t)), by simp, .cons hform hforms, ?_, ?_⟩
    · exact hrest.cons hl (hb.append hb') hu
    · simp

/-- A reader of lists reads the forms of lists whose elements the reader of elements reads. -/
theorem Reader.Reads.listOf {p : Reader α} {form : Style → α → Value → Prop} (hp : p.Reads form) :
    p.listOf.Reads (ListForm form) where
  takes := by
    rintro style as v ⟨vs, rfl, h⟩
    exact Reader.takes_listOf (h.flip.imp fun _ _ => hp.takes)
  only := by
    intro s r as h
    obtain ⟨b, hb, hs⟩ := exists_blank_append s
    change takeList p (skipBlanks s) = _ at h
    unfold takeList at h
    split at h
    · next q hq =>
      obtain ⟨bs, vs, t, rfl, hforms, hrest, rfl⟩ := rest_of_readElements hp h
      refine ⟨b, .list vs, '[' :: t, hb, hrest.spells_list, ⟨vs, rfl, hforms⟩, ?_⟩
      rw [hs, hq, List.cons_append]
    · cases h

/-! ### Whole texts -/

/-- A reader of forms accepts a text if and only if the text writes one of them. -/
theorem Reader.Reads.readAll_eq_ok_iff {p : Reader α} {form : Style → α → Value → Prop}
    (hp : p.Reads form) {text : String} {a : α} :
    p.readAll text = .ok a ↔ ∃ v, form .mixed a v ∧ Writes v text := by
  constructor
  · intro h
    rw [readAll] at h
    split at h
    · cases h
    · next x r hread =>
      split at h
      · next hend =>
        cases h
        obtain ⟨b, v, t, hb, ht, hform, hs⟩ := hp.only hread
        exact ⟨v, hform, b, t, r, hb, ht, skipBlanks_eq_nil_iff.mp hend,
          by rw [hs, List.append_assoc]⟩
      · cases h
  · rintro ⟨v, hform, ht⟩
    exact (hp.takes hform).readAll ht

end ClassDiagram.Json
