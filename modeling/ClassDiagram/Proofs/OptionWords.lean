import ClassDiagram.Options
import Mathlib.Data.List.TakeWhile

/-!
# How Options Are Written

An option is written in one word or in two (`Item`), and behind the options there is nothing, the
first switch, or a `--` and any words (`Ending`). To read such words is to take the items one after
another (`scan_items_eq_ok_iff`), and all words that are accepted are of this form (`made_of_scan`).

A value in a word of its own is judged late, when it is known what comes next. That makes no
difference to words that are accepted in the end (`scan_eq_ok_iff`).
-/

namespace ClassDiagram.Options

variable {d d₁ : Draft} {o : Options} {w : String}

/-! ### Kinds of words -/

/-- The word begins with a dash. -/
def Dashed (w : String) : Prop := w.toList.head? = some '-'

instance : DecidablePred Dashed := fun _ => inferInstanceAs (Decidable (_ = _))

/-- The word is no option, and does not end the options either. -/
structure Free (w : String) : Prop where
  ne : w ≠ "--"
  plain : classify w = .plain

theorem dashed_word (option : ValueOption) : Dashed option.word := by
  cases option <;> decide

theorem dashed_flagWord (option : FlagOption) : Dashed option.word := by
  cases option <;> decide

theorem fst_splitAttached (w : String) :
    (splitAttached w).1 = String.ofList (w.toList.takeWhile (· ≠ '=')) := by
  unfold splitAttached
  split <;> rfl

/-- What stands in front of a `=` begins as the word does. -/
theorem dashed_of_splitAttached (h : Dashed (splitAttached w).1) : Dashed w := by
  rw [Dashed, fst_splitAttached, String.toList_ofList] at h
  unfold Dashed
  cases hw : w.toList with
  | nil => simp [hw] at h
  | cons c cs =>
    rw [hw, List.takeWhile_cons] at h
    split at h
    · exact h
    · simp at h

/-- A word that does not begin with a dash is free. -/
theorem free_of_not_dashed (h : ¬ Dashed w) : Free w := by
  refine ⟨?_, ?_⟩
  · rintro rfl
    exact h (by decide)
  · have hvalue : ∀ option : ValueOption, option.word ≠ (splitAttached w).1 := fun option he =>
      h (dashed_of_splitAttached (he ▸ dashed_word option))
    have hflag : ∀ option : FlagOption, option.word ≠ (splitAttached w).1 := fun option he =>
      h (dashed_of_splitAttached (he ▸ dashed_flagWord option))
    unfold classify
    simp only [List.find?_cons, hvalue, hflag, decide_false, List.find?_nil]
    unfold Dashed at h
    split
    · next hw => simp [hw] at h
    · rfl

/-- A text with another one attached to it, if there is one. -/
def joinAttached (front : String) : Option String → String
  | none => front
  | some text => front ++ "=" ++ text

theorem joinAttached_splitAttached (w : String) :
    joinAttached (splitAttached w).1 (splitAttached w).2 = w := by
  have hw := List.takeWhile_append_dropWhile (p := (· ≠ '=')) (l := w.toList)
  have hne := List.head?_dropWhile_not (· ≠ '=') w.toList
  rw [← String.toList_inj]
  unfold splitAttached
  dsimp only
  split
  · next hd =>
    rw [hd, List.append_nil] at hw
    rw [joinAttached, String.toList_ofList, hw]
  · next c text hd =>
    rw [hd] at hw hne
    obtain rfl : c = '=' := by simpa using hne
    simpa [joinAttached] using hw

theorem splitAttached_joinAttached {front : String} (h : '=' ∉ front.toList)
    (text : Option String) : splitAttached (joinAttached front text) = (front, text) := by
  have hfront : ∀ c ∈ front.toList, decide (c ≠ '=') = true := fun c hc => by
    simpa using fun he : c = '=' => h (he ▸ hc)
  unfold splitAttached
  cases text with
  | none =>
    rw [joinAttached, List.takeWhile_eq_self_iff.mpr hfront, List.dropWhile_eq_nil_iff.mpr hfront]
    simp
  | some text =>
    simp only [joinAttached, String.toList_append, List.append_assoc]
    rw [List.takeWhile_append_of_pos hfront, List.dropWhile_append_of_pos hfront]
    simp

theorem classify_joinAttached (option : ValueOption) (text : Option String) :
    classify (joinAttached option.word text) = .value option text := by
  unfold classify
  rw [splitAttached_joinAttached (by cases option <;> decide)]
  cases option <;> rfl

theorem classify_word (option : ValueOption) : classify option.word = .value option none :=
  classify_joinAttached option none

theorem classify_attached (option : ValueOption) (text : String) :
    classify (option.word ++ "=" ++ text) = .value option (some text) :=
  classify_joinAttached option (some text)

/-- What a word can be: an option with a value, one without, or free. The options that tell about
the program have short spellings as well. -/
theorem classify_cases (w : String) :
    (∃ option text, classify w = .value option text ∧ w = joinAttached option.word text) ∨
      (∃ option text, classify w = .flag option text ∧
        (option = .noBuiltin → w = joinAttached option.word text)) ∨
      classify w = .plain := by
  have hw := joinAttached_splitAttached w
  unfold classify
  dsimp only
  split
  · next option hfind =>
    have hword : option.word = (splitAttached w).1 := by simpa using List.find?_some hfind
    exact Or.inl ⟨option, _, rfl, by rw [hword, hw]⟩
  · split
    · next option hfind =>
      have hword : option.word = (splitAttached w).1 := by simpa using List.find?_some hfind
      exact Or.inr (Or.inl ⟨option, _, rfl, fun _ => by rw [hword, hw]⟩)
    · split
      · next c _ _ =>
        cases hc : shortOption? c with
        | none => exact Or.inr (Or.inr rfl)
        | some option =>
          have hne : option ≠ .noBuiltin := by
            rintro rfl
            unfold shortOption? at hc
            split at hc <;> cases hc
          dsimp only
          split
          · exact Or.inr (Or.inl ⟨option, none, rfl, fun he => absurd he hne⟩)
          · exact Or.inr (Or.inr rfl)
      · exact Or.inr (Or.inr rfl)

/-! ### Judging early -/

/-- A value that waits may as well be judged at once. -/
theorem scan_eq_ok_iff {pending : Option Pending} (hp : ∀ p ∈ pending, p.value.isSome)
    (ws : List String) :
    scan d pending ws = .ok o ↔ ∃ d₁, settle d pending = .ok d₁ ∧ scan d₁ none ws = .ok o := by
  cases ws with
  | nil =>
    unfold scan
    cases settle d pending <;> simp [settle, Except.map]
  | cons w ws =>
    unfold scan
    split
    · cases settle d pending <;> simp [settle, Except.map]
    · cases hw : classify w with
      | value option attached =>
        cases attached <;> cases settle d pending <;> simp [settle, bind, Except.bind]
      | flag option attached =>
        cases attached <;> cases settle d pending <;> simp [settle]
      | plain =>
        match pending with
        | none => simp [settle]
        | some { option, value := none } => simp at hp
        | some { option, value := some value } =>
          cases hc : d.choose option value <;> simp [settle, hc, Except.map]

/-- A word that is free goes to the option that waits for it. -/
theorem scan_waiting {option : ValueOption} (hw : Free w) (ws : List String) :
    scan d (some { option }) (w :: ws) = scan d (some { option, value := some w }) ws := by
  rw [scan, if_neg hw.ne, hw.plain]

/-- An option that waits gets a free word, or the words are not accepted. -/
theorem exists_free_of_scan {option : ValueOption} {ws : List String}
    (h : scan d (some { option }) ws = .ok o) :
    ∃ text rest, ws = text :: rest ∧ Free text ∧
      scan d (some { option, value := some text }) rest = .ok o := by
  cases ws with
  | nil => cases h
  | cons w ws =>
    by_cases hend : w = "--"
    · subst hend
      cases h
    · rcases classify_cases w with ⟨_, text, hw, -⟩ | ⟨_, text, hw, -⟩ | hw
      · rw [scan.eq_def] at h
        simp [hend, hw, settle] at h
        cases text <;> simp [bind, Except.bind] at h
      · rw [scan.eq_def] at h
        simp [hend, hw, settle] at h
        cases text <;> simp at h
      · exact ⟨w, ws, rfl, ⟨hend, hw⟩, by rwa [scan_waiting ⟨hend, hw⟩] at h⟩

/-! ### Items -/

/-- An option as it is written, with its value if it has one. -/
inductive Item
  | noBuiltin
  /-- The value is attached to the option with `=`, or it is the next word. -/
  | value (option : ValueOption) (text : String) (attached : Bool)
deriving DecidableEq

namespace Item

/-- The words of an item. -/
def words : Item → List String
  | noBuiltin => [FlagOption.noBuiltin.word]
  | value option text true => [option.word ++ "=" ++ text]
  | value option text false => [option.word, text]

/-- A value in a word of its own is in a free word. -/
def Readable : Item → Prop
  | value _ text false => Free text
  | _ => True

end Item

/-- The draft with one more item. -/
def Draft.take (d : Draft) : Item → Except OptionFault Draft
  | .noBuiltin =>
    if d.noBuiltin then .error (.repeated FlagOption.noBuiltin.word)
    else .ok { d with noBuiltin := true }
  | .value option text _ => d.choose option text

theorem scan_noBuiltin (d : Draft) (ws : List String) :
    scan d none (FlagOption.noBuiltin.word :: ws) =
      match d.take .noBuiltin with
      | .error f => .error f
      | .ok d => scan d none ws := by
  have hword : classify FlagOption.noBuiltin.word = .flag .noBuiltin none := by decide
  conv => lhs; unfold scan
  rw [if_neg (by decide), hword, Draft.take]
  simp only [settle]
  split <;> rfl

theorem scan_attached (d : Draft) (option : ValueOption) (text : String) (ws : List String) :
    scan d none ((option.word ++ "=" ++ text) :: ws) =
      match d.choose option text with
      | .error f => .error f
      | .ok d => scan d none ws := by
  have hne : option.word ++ "=" ++ text ≠ "--" := by
    intro h
    have hplain : classify "--" = .plain := by decide
    rw [← h, classify_attached] at hplain
    cases hplain
  conv => lhs; unfold scan
  rw [if_neg hne, classify_attached]
  rfl

theorem scan_apart (d : Draft) (option : ValueOption) {text : String} (ht : Free text)
    (ws : List String) :
    scan d none (option.word :: text :: ws) = scan d (some { option, value := some text }) ws := by
  rw [← scan_waiting ht]
  unfold scan
  rw [if_neg (by cases option <;> decide), classify_word]
  rfl

/-- **One item is read** as what it chooses. -/
theorem scan_item_eq_ok_iff {item : Item} (hi : item.Readable) (ws : List String) :
    scan d none (item.words ++ ws) = .ok o ↔
      ∃ d₁, d.take item = .ok d₁ ∧ scan d₁ none ws = .ok o := by
  match item with
  | .noBuiltin =>
    rw [Item.words, List.singleton_append, scan_noBuiltin]
    cases d.take .noBuiltin <;> simp
  | .value option text true =>
    rw [Item.words, List.singleton_append, scan_attached, Draft.take]
    cases d.choose option text <;> simp
  | .value option text false =>
    rw [Item.words, List.cons_append, List.singleton_append, scan_apart _ _ hi,
      scan_eq_ok_iff (by simp)]
    rfl

/-! ### Whole command lines -/

/-- What stands behind the options, and the switches in it: nothing, words of which the first is
such a word as `first` says, or a `--` and any words. -/
inductive Ending (first : String → Prop) : List String → List String → Prop
  | nothing : Ending first [] []
  | switches {w : String} {ws : List String} : first w → Ending first (w :: ws) (w :: ws)
  | separated {ws : List String} : Ending first ("--" :: ws) ws

theorem Ending.mono {first second : String → Prop} {tail switches : List String}
    (h : Ending first tail switches) (hw : ∀ w, first w → second w) :
    Ending second tail switches := by
  cases h with
  | nothing => exact .nothing
  | switches h => exact .switches (hw _ h)
  | separated => exact .separated

theorem scan_ending {tail switches : List String} (h : Ending Free tail switches) :
    scan d none tail = .ok (d.finish switches) := by
  cases h with
  | nothing => rfl
  | switches h =>
    unfold scan
    rw [if_neg h.ne, h.plain]
    rfl
  | separated =>
    unfold scan
    rw [if_pos rfl]
    rfl

/-- **All items are read** one after another. -/
theorem scan_items_eq_ok_iff {items : List Item} {tail switches : List String}
    (hitems : ∀ item ∈ items, item.Readable) (htail : Ending Free tail switches) :
    scan d none (items.flatMap Item.words ++ tail) = .ok o ↔
      ∃ d₁, items.foldlM Draft.take d = .ok d₁ ∧ o = d₁.finish switches := by
  induction items generalizing d with
  | nil => simp [scan_ending htail, pure, Except.pure, eq_comm]
  | cons item items ih =>
    obtain ⟨hitem, hitems⟩ := List.forall_mem_cons.mp hitems
    rw [List.flatMap_cons, List.append_assoc, scan_item_eq_ok_iff hitem, List.foldlM_cons]
    cases d.take item with
    | error f => simp [bind, Except.bind]
    | ok d₁ => simp [bind, Except.bind, ih hitems]

/-- Words of which items and an ending are left. -/
def Made (ws : List String) : Prop :=
  ∃ (items : List Item) (tail switches : List String), (∀ item ∈ items, item.Readable) ∧
    Ending Free tail switches ∧ ws = items.flatMap Item.words ++ tail

theorem Made.cons {ws : List String} {item : Item} (hi : item.Readable) (h : Made ws) :
    Made (item.words ++ ws) := by
  obtain ⟨items, tail, switches, hitems, htail, rfl⟩ := h
  refine ⟨item :: items, tail, switches, List.forall_mem_cons.mpr ⟨hi, hitems⟩, htail, ?_⟩
  rw [List.flatMap_cons, List.append_assoc]

/-- **Words that are accepted** are made of items and an ending. -/
theorem made_of_scan (ws : List String) (d : Draft) (h : scan d none ws = .ok o) : Made ws := by
  match ws with
  | [] => exact ⟨[], [], [], by simp, .nothing, rfl⟩
  | w :: ws =>
    by_cases hend : w = "--"
    · exact ⟨[], _, ws, by simp, .separated, by rw [hend]; rfl⟩
    · rcases classify_cases w with ⟨option, text, hw, hspelt⟩ | ⟨option, text, hw, hspelt⟩ | hw
      · cases text with
        | none =>
          have hwait : scan d (some { option }) ws = .ok o := by
            rw [← h, scan.eq_def d none]
            simp [hend, hw, settle]
          obtain ⟨text, rest, rfl, ht, hrest⟩ := exists_free_of_scan hwait
          obtain ⟨d₁, -, hrest⟩ := (scan_eq_ok_iff (by simp) rest).mp hrest
          have hmade : Made ((Item.value option text false).words ++ rest) :=
            (made_of_scan rest d₁ hrest).cons ht
          rwa [hspelt]
        | some text =>
          rw [hspelt, joinAttached, scan_attached] at h
          cases hc : d.choose option text with
          | error f => simp [hc] at h
          | ok d₁ =>
            rw [hc] at h
            have hmade : Made ((Item.value option text true).words ++ ws) :=
              (made_of_scan ws d₁ h).cons trivial
            rwa [hspelt]
      · have hflag : option = .noBuiltin ∧ text = none := by
          rw [scan.eq_def] at h
          simp only [if_neg hend, hw, settle] at h
          cases text with
          | some text => cases h
          | none =>
            cases option with
            | noBuiltin => exact ⟨rfl, rfl⟩
            | help => cases h
            | version => cases h
        obtain ⟨rfl, rfl⟩ := hflag
        rw [hspelt rfl, joinAttached, scan_noBuiltin] at h
        cases hd : d.take .noBuiltin with
        | error f => simp [hd] at h
        | ok d₁ =>
          rw [hd] at h
          have hmade : Made (Item.noBuiltin.words ++ ws) := (made_of_scan ws d₁ h).cons trivial
          rwa [hspelt rfl]
      · exact ⟨[], _, _, by simp, .switches ⟨hend, hw⟩, rfl⟩
termination_by ws.length

end ClassDiagram.Options
