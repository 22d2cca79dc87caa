import ClassDiagram.Switches

/-!
# What Stands behind a Switch

A switch counts where it first occurs, and the words behind that place are all that any reader looks
at. `Behind` tells of this place by how it splits the words, without a search: the part in front
does not have the switch. There is one such place at most, and the search finds it
(`rest?_eq_iff`), so the readers draw the line in the same place (`readers_agree`).

`Gives` and `IntegerFault` are the two sides of reading an integer, in terms of that place. A list
switch takes its words one by one, which comes to the first of them up to its bound
(`ListBound.gather_eq`).
-/

namespace ClassDiagram

/-! ### Counting words -/

namespace ListBound

/-- The part of the words that a bound lets through, where so many have been taken before. -/
def clip : ListBound → Nat → List String → List String
  | unbounded, _, words => words
  | atMost n, taken, words => words.take (n - taken)

theorem clip_cons (bound : ListBound) (taken : Nat) (w : String) (ws : List String) :
    bound.clip taken (w :: ws) =
      if bound.allows taken then w :: bound.clip (taken + 1) ws else [] := by
  cases bound with
  | unbounded => rfl
  | atMost n =>
    by_cases h : taken < n
    · have hleft : n - taken = n - (taken + 1) + 1 := by omega
      simp [clip, allows, h, hleft]
    · have hleft : n - taken = 0 := by omega
      simp [clip, allows, h, hleft]

/-- **The loop takes the clip.** The words that are gathered are those that the bound lets through
behind the items that are there already. -/
theorem gather_eq (bound : ListBound) (items words : List String) :
    bound.gather items words = items ++ bound.clip items.length words := by
  induction words generalizing items with
  | nil => cases bound <;> simp [gather, clip]
  | cons w ws ih =>
    rw [gather, clip_cons]
    split
    · rw [ih, List.length_append, List.append_assoc]
      rfl
    · rw [List.append_nil]

end ListBound

namespace Switches

variable {s : Switches} {switch w : String} {words ws : List String} {r : Option (List String)}

/-! ### The first occurrence -/

/-- The words behind the first occurrence of a switch, or `none` where it does not occur. -/
inductive Behind (switch : String) : List String → Option (List String) → Prop
  | absent {words : List String} : switch ∉ words → Behind switch words none
  | present {before ws : List String} :
      switch ∉ before → Behind switch (before ++ switch :: ws) (some ws)

/-- Another word in front makes no difference. -/
theorem Behind.cons (h : Behind switch words r) (hw : w ≠ switch) :
    Behind switch (w :: words) r := by
  have hcons : ∀ {l : List String}, switch ∉ l → switch ∉ w :: l := by
    intro l hl hmem
    rcases List.mem_cons.mp hmem with he | hmem
    · exact hw he.symm
    · exact hl hmem
  cases h with
  | absent hn => exact .absent (hcons hn)
  | @present before ws hn => exact @present switch (w :: before) ws (hcons hn)

theorem behind_wordsAfter (switch : String) :
    ∀ words : List String, Behind switch words (wordsAfter switch words)
  | [] => .absent List.not_mem_nil
  | w :: words => by
    unfold wordsAfter
    by_cases hw : w = switch
    · rw [if_pos hw, hw]
      exact @Behind.present switch [] words List.not_mem_nil
    · rw [if_neg hw]
      exact (behind_wordsAfter switch words).cons hw

theorem wordsAfter_append {before : List String} (h : switch ∉ before) (words : List String) :
    wordsAfter switch (before ++ words) = wordsAfter switch words := by
  induction before with
  | nil => rfl
  | cons w before ih =>
    have hw : w ≠ switch := fun he => h (he ▸ List.mem_cons_self)
    rw [List.cons_append, wordsAfter, if_neg hw]
    exact ih fun hmem => h (List.mem_cons_of_mem _ hmem)

theorem Behind.wordsAfter_eq (h : Behind switch words r) : wordsAfter switch words = r := by
  cases h with
  | absent hn =>
    have hnil := wordsAfter_append hn []
    rwa [List.append_nil] at hnil
  | present hn => rw [wordsAfter_append hn, wordsAfter, if_pos rfl]

/-- **The search finds the first occurrence.** -/
theorem rest?_eq_iff : s.rest? switch = r ↔ Behind switch s.words r := by
  constructor
  · rintro rfl
    exact behind_wordsAfter switch s.words
  · exact fun h => h.wordsAfter_eq

/-- What stands behind a switch is determined by the words. -/
theorem exists_behind_iff (switch : String) (words : List String) :
    ∃ r, ∀ r', Behind switch words r' ↔ r' = r := by
  refine ⟨wordsAfter switch words, fun r' => ⟨fun h => h.wordsAfter_eq.symm, ?_⟩⟩
  rintro rfl
  exact behind_wordsAfter switch words

/-! ### Integers -/

/-- The integer that a switch gives: the one that the next word spells, or the default where the
switch does not occur. -/
inductive Gives (switch : String) (words : List String) (default : Int) : Int → Prop
  | absent : Behind switch words none → Gives switch words default default
  | next {w : String} {ws : List String} {n : Int} :
      Behind switch words (some (w :: ws)) → Text.int32? w = some n → Gives switch words default n

/-- Why a switch gives no integer. -/
inductive IntegerFault (switch : String) (words : List String) : Error → Prop
  | last : Behind switch words (some []) → IntegerFault switch words (.missingValue switch)
  | next {w : String} {ws : List String} :
      Behind switch words (some (w :: ws)) → Text.int32? w = none →
        IntegerFault switch words (.notAnInteger switch)

theorem Gives.integer_eq {default n : Int} (h : Gives switch s.words default n) :
    s.integer switch default = .ok n := by
  unfold integer
  cases h with
  | absent hbehind => rw [rest?_eq_iff.mpr hbehind]
  | next hbehind hw =>
    rw [rest?_eq_iff.mpr hbehind]
    simp only [hw]

theorem IntegerFault.integer_eq {e : Error} (h : IntegerFault switch s.words e) (default : Int) :
    s.integer switch default = .error e := by
  unfold integer
  cases h with
  | last hbehind => rw [rest?_eq_iff.mpr hbehind]
  | next hbehind hw =>
    rw [rest?_eq_iff.mpr hbehind]
    simp only [hw]

/-- An integer switch gives an integer, or there is a reason why not. -/
theorem gives_or_fault (switch : String) (words : List String) (default : Int) :
    (∃ n, Gives switch words default n) ∨ ∃ e, IntegerFault switch words e := by
  obtain ⟨r, hr⟩ := exists_behind_iff switch words
  have hbehind := (hr r).mpr rfl
  match r with
  | none => exact Or.inl ⟨default, .absent hbehind⟩
  | some [] => exact Or.inr ⟨_, .last hbehind⟩
  | some (w :: ws) =>
    cases hw : Text.int32? w with
    | none => exact Or.inr ⟨_, .next hbehind hw⟩
    | some n => exact Or.inl ⟨n, .next hbehind hw⟩

theorem integer_eq_ok_iff {default n : Int} :
    s.integer switch default = .ok n ↔ Gives switch s.words default n := by
  refine ⟨fun h => ?_, Gives.integer_eq⟩
  rcases gives_or_fault switch s.words default with ⟨m, hm⟩ | ⟨e, he⟩
  · rw [hm.integer_eq, Except.ok.injEq] at h
    rwa [← h]
  · rw [he.integer_eq] at h
    cases h

theorem integer_eq_error_iff {default : Int} {e : Error} :
    s.integer switch default = .error e ↔ IntegerFault switch s.words e := by
  refine ⟨fun h => ?_, fun h => h.integer_eq default⟩
  rcases gives_or_fault switch s.words default with ⟨m, hm⟩ | ⟨f, hf⟩
  · rw [hm.integer_eq] at h
    cases h
  · rw [hf.integer_eq, Except.error.injEq] at h
    rwa [← h]

theorem Gives.unique {default m n : Int} (hm : Gives switch words default m)
    (hn : Gives switch words default n) : m = n := by
  have hread : (⟨words⟩ : Switches).integer switch default = .ok m := hm.integer_eq
  rw [hn.integer_eq, Except.ok.injEq] at hread
  exact hread.symm

/-! ### Lists -/

/-- Why a list switch gives no words, however many it may take. -/
inductive ListFault (switch : String) (words : List String) : Error → Prop
  | absent : Behind switch words none → ListFault switch words (.expectedParameter switch)
  | last : Behind switch words (some []) → ListFault switch words (.missingValue switch)

theorem list_unbounded_eq_ok_iff :
    s.list switch .unbounded = .ok ws ↔ ws ≠ [] ∧ Behind switch s.words (some ws) := by
  rw [← rest?_eq_iff]
  simp only [list, ListBound.gather_eq, List.nil_append, ListBound.clip]
  rcases s.rest? switch with _ | _ | ⟨w, tail⟩
  · simp
  · simp [eq_comm]
  · simp only [Except.ok.injEq, Option.some.injEq]
    constructor
    · rintro rfl
      exact ⟨List.cons_ne_nil w tail, rfl⟩
    · exact fun h => h.2

theorem ListFault.list_eq {e : Error} (h : ListFault switch s.words e) :
    s.list switch .unbounded = .error e := by
  unfold list
  cases h with
  | absent hbehind => rw [rest?_eq_iff.mpr hbehind]
  | last hbehind =>
    rw [rest?_eq_iff.mpr hbehind]
    rfl

theorem list_unbounded_eq_error_iff {e : Error} :
    s.list switch .unbounded = .error e ↔ ListFault switch s.words e := by
  refine ⟨fun h => ?_, ListFault.list_eq⟩
  obtain ⟨r, hr⟩ := exists_behind_iff switch s.words
  have hbehind := (hr r).mpr rfl
  have hfault : ∀ e', ListFault switch s.words e' → e' = e := by
    intro e' h'
    rw [h'.list_eq, Except.error.injEq] at h
    exact h
  rcases r with _ | _ | ⟨w, ws⟩
  · exact hfault _ (.absent hbehind) ▸ .absent hbehind
  · exact hfault _ (.last hbehind) ▸ .last hbehind
  · rw [list_unbounded_eq_ok_iff.mpr ⟨List.cons_ne_nil w ws, hbehind⟩] at h
    cases h

/-! ### All readers -/

/-- **The readers agree.** The words have one place where the switch first occurs, or none; without
it all readers have their defaults and the list is missed; at the last word no reader finds a
value, whatever it is content with; and before that each reader takes its part of the same words. -/
theorem readers_agree (s : Switches) (switch : String) :
    ∃ r, (∀ r', Behind switch s.words r' ↔ r' = r) ∧
      match r with
      | none =>
        s.has switch = false ∧ (∀ default, s.integer switch default = .ok default) ∧
          (∀ default joined, s.text switch default joined = .ok default) ∧
          ∀ bound, s.list switch bound = .error (.expectedParameter switch)
      | some [] =>
        s.has switch = true ∧
          (∀ default, s.integer switch default = .error (.missingValue switch)) ∧
          (∀ default joined, s.text switch default joined = .error (.missingValue switch)) ∧
          ∀ bound, s.list switch bound = .error (.missingValue switch)
      | some (w :: ws) =>
        s.has switch = true ∧
          (∀ default, s.integer switch default =
            match Text.int32? w with
            | some n => .ok n
            | none => .error (.notAnInteger switch)) ∧
          (∀ default, s.text switch default false = .ok (some w)) ∧
          (∀ default, s.text switch default true = .ok (some (" ".intercalate (w :: ws)))) ∧
          s.list switch .unbounded = .ok (w :: ws) ∧
          s.list switch (.atMost 0) = .error (.missingValue switch) ∧
          ∀ n, s.list switch (.atMost (n + 1)) =
            .ok ((w :: ws).take (min (n + 1) (w :: ws).length)) := by
  obtain ⟨r, hr⟩ := exists_behind_iff switch s.words
  refine ⟨r, hr, ?_⟩
  have hrest : s.rest? switch = r := rest?_eq_iff.mpr ((hr r).mpr rfl)
  simp only [has, integer, text, list, hrest, ListBound.gather_eq, List.nil_append]
  rcases r with _ | _ | ⟨w, ws⟩
  · simp
  · refine ⟨rfl, fun _ => rfl, fun _ _ => rfl, fun bound => ?_⟩
    cases bound <;> simp [ListBound.clip]
  · refine ⟨rfl, fun _ => rfl, fun _ => rfl, fun _ => rfl, rfl, rfl, fun n => ?_⟩
    have htake : (w :: ws).take (n + 1) = (w :: ws).take (min (n + 1) (w :: ws).length) := by
      rw [List.take_eq_take_iff]
      omega
    rw [← htake]
    rfl

end Switches

end ClassDiagram
