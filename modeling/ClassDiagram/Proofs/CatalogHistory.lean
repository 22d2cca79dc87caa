import ClassDiagram.Files
import ClassDiagram.Proofs.ShortRows
import Mathlib.Data.Finset.Card

/-!
# The History of a Catalog

Types come into a catalog one by one, by texts and by files, in any order and with any failures in
between. Each step adds the types that it writes (`snd_step`), and one that fails writes none. So
after any history, the catalog is the one of the list of all types that have been written
(`after_eq_ofList`), in which the last of each name counts (`history`).

What a step has to answer is `Answers`: a text or a file that lists types is answered with their
number, and every other with the reason why it cannot be read (`fst_step_eq_iff`).
-/

namespace ClassDiagram

open Json (Fault)

namespace Catalog

/-! ### Writing a type -/

theorem fst_replaceEntry (t : Descriptor) (es : List Descriptor) :
    (replaceEntry t es).1 = es.find? (·.name = t.name) := by
  induction es with
  | nil => rfl
  | cons e es ih =>
    by_cases h : e.name = t.name
    · simp [replaceEntry, h]
    · simp [replaceEntry, h, ih]

/-- The entry that a new one takes the place of is the one of its name. -/
theorem fst_replace (c : Catalog) (t : Descriptor) : (c.replace t).1 = c.resolve t.name :=
  fst_replaceEntry t c.entries

theorem resolve_insertAll (c : Catalog) (ts : List Descriptor) (name : String) :
    (c.insertAll ts).resolve name = (ts.reverse.find? (·.name = name)).or (c.resolve name) := by
  induction ts generalizing c with
  | nil => rfl
  | cons t ts ih =>
    change ((c.insert t).insertAll ts).resolve name = _
    rw [ih, resolve_insert, List.reverse_cons, List.find?_append, Option.or_assoc]
    by_cases h : t.name = name
    · simp [h]
    · simp [h]

theorem resolve_ofList (ts : List Descriptor) (name : String) :
    (ofList ts).resolve name = ts.reverse.find? (·.name = name) := by
  rw [ofList, resolve_insertAll]
  exact Option.or_none

/-! ### The last of a name -/

/-- The last type of a name in a list. -/
def LastOf (name : String) (ts : List Descriptor) (t : Descriptor) : Prop :=
  ∃ before behind, ts = before ++ t :: behind ∧ t.name = name ∧ ∀ u ∈ behind, u.name ≠ name

theorem find?_reverse_eq_some_iff {name : String} {ts : List Descriptor} {t : Descriptor} :
    ts.reverse.find? (·.name = name) = some t ↔ LastOf name ts t := by
  simp only [List.find?_eq_some_iff_append, decide_eq_true_eq, Bool.not_eq_true',
    decide_eq_false_iff_not]
  constructor
  · rintro ⟨hname, behind, before, hts, hbehind⟩
    refine ⟨before.reverse, behind.reverse, ?_, hname,
      fun u hu => hbehind u (List.mem_reverse.mp hu)⟩
    rw [← List.reverse_reverse ts, hts]
    simp
  · rintro ⟨before, behind, rfl, hname, hbehind⟩
    exact ⟨hname, behind.reverse, before.reverse, by simp,
      fun u hu => hbehind u (List.mem_reverse.mp hu)⟩

/-- A name stands for its last type in the list. -/
theorem resolve_ofList_eq_some_iff {ts : List Descriptor} {name : String} {t : Descriptor} :
    (ofList ts).resolve name = some t ↔ LastOf name ts t := by
  rw [resolve_ofList, find?_reverse_eq_some_iff]

/-- A name stands for nothing if the list has no type of it. -/
theorem resolve_ofList_eq_none_iff {ts : List Descriptor} {name : String} :
    (ofList ts).resolve name = none ↔ ∀ t ∈ ts, t.name ≠ name := by
  rw [resolve_ofList]
  simp

theorem mem_names_iff {c : Catalog} {name : String} :
    name ∈ c.entries.map (·.name) ↔ (c.resolve name).isSome := by
  simp [resolve]

/-- A catalog has as many entries as names have been written. -/
theorem size_ofList (ts : List Descriptor) :
    (ofList ts).size = (ts.map (·.name)).toFinset.card := by
  have hnames : ((ofList ts).entries.map (·.name)).toFinset = (ts.map (·.name)).toFinset := by
    ext name
    rw [List.mem_toFinset, List.mem_toFinset, mem_names_iff, resolve_ofList]
    simp
  rw [← hnames, List.toFinset_card_of_nodup (ofList ts).names_nodup, List.length_map, size]

/-! ### Catalog files -/

section Files
variable {files : Files} {path : String} {ts : List Descriptor} {e : Error}

/-- The file at the path can be read, and lists these types. -/
def Lists (files : Files) (path : String) (ts : List Descriptor) : Prop :=
  ∃ text, files path = .ok text ∧ decode text = .ok ts

/-- The file at the path cannot be loaded: the system does not give its text, or the text is no
catalog. -/
inductive Refuses (files : Files) (path : String) : Error → Prop
  | unreadable {fault : FileFault} : files path = .error fault →
      Refuses files path (.io fault.message)
  | malformed {text : String} {fault : Json.Fault} : files path = .ok text →
      decode text = .error fault → Refuses files path (.catalog (path ++ ": " ++ fault.message))

theorem read_eq_ok_iff : read files path = .ok ts ↔ Lists files path ts := by
  unfold read Lists
  cases files path with
  | error fault => simp
  | ok text =>
    simp only [Except.ok.injEq, exists_eq_left']
    cases decode text <;> simp [Except.mapError]

theorem read_eq_error_iff : read files path = .error e ↔ Refuses files path e := by
  constructor
  · intro h
    unfold read at h
    cases hfile : files path with
    | error fault =>
      rw [hfile] at h
      cases h
      exact .unreadable hfile
    | ok text =>
      cases hd : decode text with
      | error fault =>
        simp only [hfile, hd] at h
        cases h
        exact .malformed hfile hd
      | ok ts =>
        simp only [hfile, hd] at h
        cases h
  · rintro (hfile | ⟨hfile, hd⟩)
    · rw [read, hfile]
    · simp only [read, hfile, hd]
      rfl

theorem load_of_lists (c : Catalog) (h : Lists files path ts) :
    c.load files path = (.ok ts.length, c.insertAll ts) := by
  obtain ⟨text, hfile, hd⟩ := h
  simp only [load, hfile, extend_of_decode hd]
  rfl

theorem load_of_refuses (c : Catalog) (h : Refuses files path e) :
    c.load files path = (.error e, c) := by
  cases h with
  | unreadable hfile => rw [load, hfile]
  | malformed hfile hd =>
    simp only [load, hfile, extend_of_fault hd]
    rfl

theorem not_refuses_of_lists (h : Lists files path ts) : ¬ Refuses files path e := fun he => by
  have hread := read_eq_error_iff.mpr he
  rw [read_eq_ok_iff.mpr h] at hread
  cases hread

/-- A file is loaded or refused. -/
theorem lists_or_refuses (files : Files) (path : String) :
    (∃ ts, Lists files path ts) ∨ ∃ e, Refuses files path e := by
  cases h : read files path with
  | ok ts => exact Or.inl ⟨ts, read_eq_ok_iff.mp h⟩
  | error e => exact Or.inr ⟨e, read_eq_error_iff.mp h⟩

end Files

/-! ### Steps -/

/-- What can be done to a catalog. A file is read in the file system as it is at the time. -/
inductive Step
  | insert (t : Descriptor)
  | extend (text : String)
  | load (files : Files) (path : String)

/-- What a step gives back. -/
inductive Answer
  /-- The entry that the new one has taken the place of. -/
  | replaced (before : Option Descriptor)
  /-- The number of types that have been added. -/
  | added (count : Nat)
  | failed (e : Error)

/-- The types that a step writes. A text is read as a whole or not at all. -/
def Step.written : Step → List Descriptor
  | .insert t => [t]
  | .extend text => (decode text).toOption.getD []
  | .load files path =>
    ((files path).toOption.bind fun text => (decode text).toOption).getD []

/-- The answer of adding several types at once. -/
def Answer.ofAddition : Except Error Nat → Answer
  | .ok count => .added count
  | .error e => .failed e

/-- Takes a step. -/
def step (c : Catalog) : Step → Answer × Catalog
  | .insert t => (.replaced (c.replace t).1, (c.replace t).2)
  | .extend text => (.ofAddition (c.extend text).1, (c.extend text).2)
  | .load files path => (.ofAddition (c.load files path).1, (c.load files path).2)

/-- What a step has to answer: a new type, what its name stood for; a text or a file, the number of
types in it, repetitions included, or why it cannot be read. -/
inductive Answers (c : Catalog) : Step → Answer → Prop
  | replaced (t : Descriptor) : Answers c (.insert t) (.replaced (c.resolve t.name))
  | extended {text : String} {ts : List Descriptor} : decode text = .ok ts →
      Answers c (.extend text) (.added ts.length)
  | faulty {text : String} {f : Fault} : decode text = .error f →
      Answers c (.extend text) (.failed (.catalog f.message))
  | loaded {files : Files} {path : String} {ts : List Descriptor} : Lists files path ts →
      Answers c (.load files path) (.added ts.length)
  | refused {files : Files} {path : String} {e : Error} : Refuses files path e →
      Answers c (.load files path) (.failed e)

section Reading
variable {c : Catalog} {files : Files} {path text : String} {ts : List Descriptor} {f : Fault}
  {e : Error}

theorem Step.written_extend_of_decode (h : decode text = .ok ts) :
    (extend text).written = ts := by
  rw [written, h]
  rfl

theorem Step.written_extend_of_fault (h : decode text = .error f) :
    (extend text).written = [] := by
  rw [written, h]
  rfl

theorem Step.written_load_of_lists (h : Lists files path ts) :
    (load files path).written = ts := by
  obtain ⟨text, hfile, hd⟩ := h
  simp [written, hfile, hd, Except.toOption]

theorem Step.written_load_of_refuses (h : Refuses files path e) :
    (load files path).written = [] := by
  cases h with
  | unreadable hfile => simp [written, hfile, Except.toOption]
  | malformed hfile hd => simp [written, hfile, hd, Except.toOption]

theorem step_extend_of_decode (h : decode text = .ok ts) :
    c.step (.extend text) = (.added ts.length, c.insertAll ts) := by
  rw [step, extend_of_decode h]
  rfl

theorem step_extend_of_fault (h : decode text = .error f) :
    c.step (.extend text) = (.failed (.catalog f.message), c) := by
  rw [step, extend_of_fault h]
  rfl

theorem step_load_of_lists (h : Lists files path ts) :
    c.step (.load files path) = (.added ts.length, c.insertAll ts) := by
  rw [step, load_of_lists c h]
  rfl

theorem step_load_of_refuses (h : Refuses files path e) :
    c.step (.load files path) = (.failed e, c) := by
  rw [step, load_of_refuses c h]
  rfl

end Reading

/-- What a step does: it gives the answer that it has to give, and adds the types that it writes. -/
theorem step_spec (c : Catalog) (s : Step) :
    c.Answers s (c.step s).1 ∧ (c.step s).2 = c.insertAll s.written := by
  cases s with
  | insert t =>
    refine ⟨?_, rfl⟩
    rw [step, fst_replace]
    exact .replaced t
  | extend text =>
    cases h : decode text with
    | ok ts =>
      rw [step_extend_of_decode h, Step.written_extend_of_decode h]
      exact ⟨.extended h, rfl⟩
    | error f =>
      rw [step_extend_of_fault h, Step.written_extend_of_fault h]
      exact ⟨.faulty h, rfl⟩
  | load files path =>
    rcases lists_or_refuses files path with ⟨ts, h⟩ | ⟨e, h⟩
    · rw [step_load_of_lists h, Step.written_load_of_lists h]
      exact ⟨.loaded h, rfl⟩
    · rw [step_load_of_refuses h, Step.written_load_of_refuses h]
      exact ⟨.refused h, rfl⟩

/-- A step adds the types that it writes. -/
theorem snd_step (c : Catalog) (s : Step) : (c.step s).2 = c.insertAll s.written :=
  (step_spec c s).2

/-- A step gives the answer that it has to give, and no other. -/
theorem fst_step_eq_iff {c : Catalog} {s : Step} {a : Answer} :
    (c.step s).1 = a ↔ c.Answers s a := by
  constructor
  · rintro rfl
    exact (step_spec c s).1
  · intro h
    cases h with
    | replaced t => rw [step, fst_replace]
    | extended h => rw [step_extend_of_decode h]
    | faulty h => rw [step_extend_of_fault h]
    | loaded h => rw [step_load_of_lists h]
    | refused h => rw [step_load_of_refuses h]

theorem Answer.ofAddition_eq_failed_iff {r : Except Error Nat} {e : Error} :
    ofAddition r = .failed e ↔ r = .error e := by
  cases r <;> simp [ofAddition]

/-- A step that fails leaves the catalog as it is. -/
theorem snd_step_of_failed {c : Catalog} {s : Step} {e : Error} (h : (c.step s).1 = .failed e) :
    (c.step s).2 = c := by
  cases s with
  | insert t => cases h
  | extend text => exact snd_extend_of_failed (Answer.ofAddition_eq_failed_iff.mp h)
  | load files path => exact snd_load_of_failed (Answer.ofAddition_eq_failed_iff.mp h)

/-! ### Histories -/

/-- The catalog after a history that begins without types. -/
def after (steps : List Step) : Catalog := steps.foldl (fun c s => (c.step s).2) empty

/-- All types written in a history, in their order. -/
def written (steps : List Step) : List Descriptor := steps.flatMap Step.written

theorem foldl_step (c : Catalog) (steps : List Step) :
    steps.foldl (fun c s => (c.step s).2) c = c.insertAll (written steps) := by
  induction steps generalizing c with
  | nil => rfl
  | cons s steps ih =>
    rw [List.foldl_cons, ih, snd_step]
    simp only [written, List.flatMap_cons, insertAll, List.foldl_append]

/-- A history comes down to the types written in it. -/
theorem after_eq_ofList (steps : List Step) : after steps = ofList (written steps) :=
  foldl_step empty steps

/-- **The last write counts.** After any history, a name stands for the type of that name that was
written last, and for nothing if there has been none, and there are as many entries as names have
been written. The next step answers accordingly: a new type with what its name stood for, a text or
file from which types can be read with their number, repetitions included, and any other with its
fault. A step that fails changes nothing. -/
theorem history (steps : List Step) :
    (∀ name t, (after steps).resolve name = some t ↔ LastOf name (written steps) t) ∧
    (∀ name, (after steps).resolve name = none ↔ ∀ t ∈ written steps, t.name ≠ name) ∧
    (after steps).size = ((written steps).map (·.name)).toFinset.card ∧
    (∀ s a, ((after steps).step s).1 = a ↔ (after steps).Answers s a) ∧
    ∀ s e, ((after steps).step s).1 = .failed e → ((after steps).step s).2 = after steps := by
  refine ⟨fun name t => ?_, fun name => ?_, ?_, fun s a => fst_step_eq_iff,
    fun s e => snd_step_of_failed⟩
  · rw [after_eq_ofList, resolve_ofList_eq_some_iff]
  · rw [after_eq_ofList, resolve_ofList_eq_none_iff]
  · rw [after_eq_ofList, size_ofList]

/-- A file system without files. -/
def noFiles : Files := fun _ => .error .notFound

/-- A history with a name that is written twice and with two failures: a text that goes wrong behind
its first type, and a file that is no text. -/
def rewriting : List Step :=
  [.insert { name := "A", kind := .enumType }, .extend scrambledText, .extend shortText,
    .load (fun _ => .error .invalidText) "types.json", .insert { name := "B" }]

theorem decode_shortText : decode shortText = .error (.invalidLength 1 "FieldDescriptor" 3) := by
  obtain ⟨t, ht, htext⟩ := shortRows_shortText
  exact decode_of_shortRow htext .nil ht

theorem written_rewriting : written rewriting =
    [{ name := "A", kind := .enumType }, { name := "A", methods := [{ name := "m" }] },
      { name := "B" }] := by
  simp only [written, rewriting, List.flatMap_cons,
    Step.written_extend_of_decode decode_scrambledText,
    Step.written_extend_of_fault decode_shortText]
  rfl

theorem history_rewriting :
    (after rewriting).resolve "A" = some { name := "A", methods := [{ name := "m" }] } ∧
      (after rewriting).resolve "C" = none ∧ (after rewriting).size = 2 ∧
      ((after rewriting).step (.insert { name := "A" })).1 =
        .replaced (some { name := "A", methods := [{ name := "m" }] }) ∧
      ((after rewriting).step (.extend scrambledText)).1 = .added 1 ∧
      (∃ e, ((after rewriting).step (.extend shortText)).1 = .failed e) ∧
      ((after rewriting).step (.extend shortText)).2 = after rewriting ∧
      (∀ count, ((after rewriting).step (.load noFiles "types.json")).1 ≠ .added count) ∧
      ((after rewriting).step (.load noFiles "types.json")).1 =
        .failed (.io "No such file or directory (os error 2)") := by
  obtain ⟨hsome, hnone, hsize, hanswer, hfailed⟩ := history rewriting
  have hA : (after rewriting).resolve "A" =
      some { name := "A", methods := [{ name := "m" }] } := by
    rw [hsome, written_rewriting]
    exact ⟨[_], [_], rfl, rfl, by decide⟩
  have hshort := (hanswer (.extend shortText) _).mpr (.faulty decode_shortText)
  have hmissing : Refuses noFiles "types.json" (.io "No such file or directory (os error 2)") :=
    @Refuses.unreadable noFiles "types.json" .notFound rfl
  refine ⟨hA, ?_, ?_, ?_, ?_, ⟨_, hshort⟩, hfailed _ _ hshort, fun count h => ?_, ?_⟩
  · rw [hnone, written_rewriting]
    decide
  · rw [hsize, written_rewriting]
    decide
  · rw [hanswer, ← hA]
    exact .replaced _
  · exact (hanswer _ _).mpr (.extended decode_scrambledText)
  · cases (hanswer _ _).mp h with
    | loaded hlists => exact not_refuses_of_lists hlists hmissing
  · exact (hanswer _ _).mpr (.refused hmissing)

end Catalog

end ClassDiagram
