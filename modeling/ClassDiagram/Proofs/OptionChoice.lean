import ClassDiagram.Proofs.OptionWords
import Mathlib.Data.Option.Basic

/-!
# What Options Choose

Whatever is chosen, and however it is written, is what is read: the options in any order, each value
attached to its option or in the next word, and all words behind them as they are
(`ofWords_written`).

The items that are still to come say what a draft lacks (`Draft.Lacks`). Each item that is taken
leaves less to come (`Draft.Lacks.take`), and in the end the draft is the choice itself.
-/

namespace ClassDiagram

theorem Log.Threshold.ofWord?_word (t : Threshold) : ofWord? t.word = some t := by
  cases t with
  | off => decide
  | upTo level => cases level <;> decide

theorem Log.Threshold.word_injective : Function.Injective word := fun t u h =>
  Option.some.inj (by rw [← ofWord?_word, h, ofWord?_word])

theorem Log.Format.ofWord?_word (f : Format) : ofWord? f.word = some f := by
  cases f <;> decide

theorem Log.Format.word_injective : Function.Injective word := fun f g h =>
  Option.some.inj (by rw [← ofWord?_word, h, ofWord?_word])

namespace Options

variable {d d' : Draft} {items : List Item}

/-- The text that an item has for an option. -/
def Item.textFor? (option : ValueOption) : Item → Option String
  | .noBuiltin => none
  | .value o text _ => if o = option then some text else none

/-- The items to come are what `d` lacks to be `d'`: catalogs behind those that are there, and each
other option once, if `d'` has it and `d` has not. -/
structure Draft.Lacks (d : Draft) (items : List Item) (d' : Draft) : Prop where
  catalogs : d.catalogs ++ items.filterMap (Item.textFor? .catalog) = d'.catalogs
  noBuiltin : d.noBuiltin.toNat + items.count .noBuiltin = d'.noBuiltin.toNat
  logLevel : (d.logLevel.map (·.word)).toList ++ items.filterMap (Item.textFor? .logLevel) =
    (d'.logLevel.map (·.word)).toList
  logFormat : (d.logFormat.map (·.word)).toList ++ items.filterMap (Item.textFor? .logFormat) =
    (d'.logFormat.map (·.word)).toList

/-- Where one more value comes, there has been none, and it is the only one. -/
theorem eq_none_of_toList_append {α β : Type} {f : α → β} {a b : Option α} {v : β} {rest : List β}
    (h : (a.map f).toList ++ v :: rest = (b.map f).toList) :
    a = none ∧ rest = [] ∧ ∃ t, b = some t ∧ f t = v := by
  cases a <;> cases b <;> simp_all

namespace Draft.Lacks

theorem take {item : Item} (h : d.Lacks (item :: items) d') (hne : "" ∉ d'.catalogs) :
    ∃ d₁, d.take item = .ok d₁ ∧ d₁.Lacks items d' := by
  obtain ⟨hcatalogs, hbuiltin, hlevel, hformat⟩ := h
  match item with
  | .noBuiltin =>
    have hcount : d.noBuiltin = false := by
      cases hd : d.noBuiltin with
      | false => rfl
      | true =>
        have := Bool.toNat_le d'.noBuiltin
        simp [hd] at hbuiltin
        omega
    refine ⟨{ d with noBuiltin := true }, by simp [Draft.take, hcount], hcatalogs, ?_, hlevel,
      hformat⟩
    rw [← hbuiltin, hcount]
    simp
    omega
  | .value .catalog path _ =>
    have hpath : path ≠ "" := by
      rintro rfl
      exact hne (hcatalogs ▸ by simp [Item.textFor?])
    refine ⟨{ d with catalogs := d.catalogs ++ [path] }, by simp [Draft.take, choose, hpath], ?_,
      by simpa using hbuiltin, hlevel, hformat⟩
    rw [← hcatalogs]
    simp [Item.textFor?]
  | .value .logLevel text _ =>
    obtain ⟨hnone, hrest, t, ht, rfl⟩ := eq_none_of_toList_append hlevel
    refine ⟨{ d with logLevel := some t }, ?_, hcatalogs, by simpa using hbuiltin, ?_, hformat⟩
    · simp [Draft.take, choose, hnone, Log.Threshold.ofWord?_word]
    · rw [hrest, ht, List.append_nil]
  | .value .logFormat text _ =>
    obtain ⟨hnone, hrest, f, hf, rfl⟩ := eq_none_of_toList_append hformat
    refine ⟨{ d with logFormat := some f }, ?_, hcatalogs, by simpa using hbuiltin, hlevel, ?_⟩
    · simp [Draft.take, choose, hnone, Log.Format.ofWord?_word]
    · rw [hrest, hf, List.append_nil]

theorem eq_of_nil (h : d.Lacks [] d') : d = d' := by
  obtain ⟨hcatalogs, hbuiltin, hlevel, hformat⟩ := h
  simp only [List.filterMap_nil, List.append_nil, List.count_nil, Nat.add_zero] at *
  have hb : d.noBuiltin = d'.noBuiltin := by
    revert hbuiltin
    cases d.noBuiltin <;> cases d'.noBuiltin <;> decide
  have hl : d.logLevel = d'.logLevel :=
    Option.map_injective Log.Threshold.word_injective (by simpa using congrArg List.head? hlevel)
  have hf : d.logFormat = d'.logFormat :=
    Option.map_injective Log.Format.word_injective (by simpa using congrArg List.head? hformat)
  cases d
  cases d'
  simp_all

/-- **What is lacking is taken**, in whatever order it comes. -/
theorem takeAll (h : d.Lacks items d') (hne : "" ∉ d'.catalogs) :
    items.foldlM Draft.take d = .ok d' := by
  induction items generalizing d with
  | nil => exact congrArg Except.ok h.eq_of_nil
  | cons item items ih =>
    obtain ⟨d₁, htake, hlacks⟩ := h.take hne
    rw [List.foldlM_cons, htake]
    exact ih hlacks

end Draft.Lacks

/-- The items choose these catalogs, in their order, and these of the options that can be chosen
once. -/
structure Chooses (items : List Item) (paths : List String) (noBuiltin : Bool)
    (level : Option Log.Threshold) (format : Option Log.Format) : Prop where
  catalogs : items.filterMap (Item.textFor? .catalog) = paths
  noBuiltin : items.count .noBuiltin = noBuiltin.toNat
  logLevel : items.filterMap (Item.textFor? .logLevel) = (level.map (·.word)).toList
  logFormat : items.filterMap (Item.textFor? .logFormat) = (format.map (·.word)).toList

/-- A word that begins the switches: one of the three switches, or no dash in front. -/
def OpensSwitches (w : String) : Prop := w ∈ ["-d", "-v", "-c"] ∨ ¬ Dashed w

theorem OpensSwitches.free {w : String} (h : OpensSwitches w) : Free w := by
  rcases h with h | h
  · simp only [List.mem_cons, List.not_mem_nil, or_false] at h
    rcases h with rfl | rfl | rfl <;> exact ⟨by decide, by decide⟩
  · exact free_of_not_dashed h

/-- **Options are read as they are chosen.** They are accepted in any order, with each value
attached to its option or, where it does not begin with a dash, in the next word; what is not chosen
has its standard value; and the words behind the options are the switches, whatever they are. -/
theorem ofWords_written {items : List Item} {paths : List String} {noBuiltin : Bool}
    {level : Option Log.Threshold} {format : Option Log.Format} {tail switches : List String}
    (hchoice : Chooses items paths noBuiltin level format) (hpaths : ∀ path ∈ paths, path ≠ "")
    (happart : ∀ option text, .value option text false ∈ items → ¬ Dashed text)
    (htail : Ending OpensSwitches tail switches) :
    ofWords (items.flatMap Item.words ++ tail) =
      .ok { catalogs := paths, noBuiltin, logLevel := level.getD (.upTo .warn),
            logFormat := format.getD .compact, switches } := by
  have hreadable : ∀ item ∈ items, item.Readable := by
    intro item hitem
    match item with
    | .noBuiltin => trivial
    | .value _ _ true => trivial
    | .value option text false => exact free_of_not_dashed (happart option text hitem)
  have hlacks : Draft.Lacks {} items ⟨paths, noBuiltin, level, format⟩ :=
    ⟨hchoice.catalogs, by simpa using hchoice.noBuiltin, hchoice.logLevel, hchoice.logFormat⟩
  have hne : "" ∉ paths := fun hmem => hpaths "" hmem rfl
  have hfree : Ending Free tail switches := htail.mono fun _ => OpensSwitches.free
  exact (scan_items_eq_ok_iff hreadable hfree).mpr ⟨_, hlacks.takeAll hne, rfl⟩

/-- Two catalogs with other options in between, and switches that look like options. -/
theorem ofWords_written_interleaved :
    ofWords ["--catalog", "a=b.json", "--log-level=off", "--no-builtin", "--catalog=-x", "-c", "--",
        "--catalog", "-h"] =
      .ok { catalogs := ["a=b.json", "-x"], noBuiltin := true, logLevel := .off,
            switches := ["-c", "--", "--catalog", "-h"] } := by
  have hchoice : Chooses [.value .catalog "a=b.json" false, .value .logLevel "off" true, .noBuiltin,
      .value .catalog "-x" true] ["a=b.json", "-x"] true (some .off) none :=
    ⟨by decide, by decide, by decide, by decide⟩
  have hopens : OpensSwitches "-c" := Or.inl (by decide)
  refine ofWords_written hchoice (by decide) (fun option text hmem => ?_) (.switches hopens)
  obtain ⟨-, rfl⟩ : option = .catalog ∧ text = "a=b.json" := by simpa using hmem
  decide

end Options

end ClassDiagram
