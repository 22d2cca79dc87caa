import ClassDiagram.Script
import Mathlib.Data.List.Infix

/-!
# Array Markers in Shown Names

A type name is shown without its array markers. They are left out in one pass, so a text may be cut
anywhere but inside of a marker (`dropArrayMarkers_append`), and each marker that the name has is
gone (`displayName_append_marker`). What is left can come together, though: a `[` and an `L` that
had only markers between them (`tornMarker`) stand side by side and read as a marker of their own.

That is the only way a marker gets into a shown name (`marker_infix_dropArrayMarkers_iff`), and the
only reason why a second pass would change something (`displayName_exact`). Of the names of arrays
it concerns those with two or more dimensions whose class has a name that begins with `L`
(`marked_displayName_arrayName_iff`).
-/

namespace ClassDiagram

variable {a b cs : List Char} {c : Char} {name : String} {n : Nat}

/-! ### Whole markers and torn ones -/

/-- What marks an array of objects. -/
def arrayMarker : List Char := ['[', 'L']

/-- `n` markers and the second character of one more behind them. -/
def looseEnd : Nat → List Char
  | 0 => ['L']
  | n + 1 => arrayMarker ++ looseEnd n

/-- A marker whose two characters are held apart by `n` other markers; `tornMarker 0` is whole. -/
def tornMarker (n : Nat) : List Char := '[' :: looseEnd n

/-- An array marker is somewhere in the name. -/
def Marked (name : String) : Prop := arrayMarker <:+: name.toList

/-- A marker with others inside of it is somewhere in the name. -/
def Torn (name : String) : Prop := ∃ n, tornMarker (n + 1) <:+: name.toList

instance (name : String) : Decidable (Marked name) := by unfold Marked; infer_instance

theorem arrayMarker_prefix_cons_iff : arrayMarker <+: c :: cs ↔ c = '[' ∧ ['L'] <+: cs := by
  rw [arrayMarker, List.cons_prefix_cons, eq_comm]

/-! ### One pass -/

theorem dropArrayMarkers_marker_append (cs : List Char) :
    dropArrayMarkers (arrayMarker ++ cs) = dropArrayMarkers cs := by
  rw [arrayMarker, List.cons_append, List.cons_append, List.nil_append, dropArrayMarkers]

/-- A character at which no marker begins is kept. -/
theorem dropArrayMarkers_cons (h : ¬ arrayMarker <+: c :: cs) :
    dropArrayMarkers (c :: cs) = c :: dropArrayMarkers cs := by
  rw [dropArrayMarkers]
  rintro rest rfl rfl
  exact h (List.prefix_append arrayMarker rest)

/-- A text can be cut in front of anything that is no second character of a marker. -/
theorem dropArrayMarkers_append (hb : ¬ ['L'] <+: b) :
    dropArrayMarkers (a ++ b) = dropArrayMarkers a ++ dropArrayMarkers b := by
  fun_induction dropArrayMarkers a with
  | case1 cs ih => exact ih
  | case2 c cs hc ih =>
    have hmarker : ¬ arrayMarker <+: c :: (cs ++ b) := by
      rw [arrayMarker_prefix_cons_iff]
      rintro ⟨rfl, hL⟩
      cases cs with
      | nil => exact hb hL
      | cons d cs =>
        obtain ⟨rfl, -⟩ := List.cons_prefix_cons.mp hL
        exact hc cs rfl rfl
    rw [List.cons_append, dropArrayMarkers_cons hmarker, ih, List.cons_append]
  | case3 => rfl

/-- A marker is left out wherever it stands, and it is a place to cut. -/
theorem dropArrayMarkers_append_marker_append (a b : List Char) :
    dropArrayMarkers (a ++ (arrayMarker ++ b)) = dropArrayMarkers a ++ dropArrayMarkers b := by
  rw [dropArrayMarkers_append (by simp [arrayMarker]), dropArrayMarkers_marker_append]

/-- Nothing but texts without a marker is kept as a whole. -/
theorem dropArrayMarkers_eq_self_iff : dropArrayMarkers cs = cs ↔ ¬ arrayMarker <:+: cs := by
  fun_induction dropArrayMarkers cs with
  | case1 cs =>
    refine iff_of_false (fun h => ?_) (not_not_intro (List.prefix_append arrayMarker cs).isInfix)
    have hlength := (dropArrayMarkers_sublist cs).length_le
    rw [h, List.length_cons, List.length_cons] at hlength
    omega
  | case2 c cs hc ih =>
    have hmarker : ¬ arrayMarker <+: c :: cs := by
      rw [arrayMarker_prefix_cons_iff]
      rintro ⟨rfl, rest, rfl⟩
      exact hc rest rfl rfl
    rw [List.cons_inj_right, ih, List.infix_cons_iff, or_iff_right hmarker]
  | case3 => simp [arrayMarker]

/-! ### What comes together -/

theorem dropArrayMarkers_looseEnd_append (n : Nat) (cs : List Char) :
    dropArrayMarkers (looseEnd n ++ cs) = 'L' :: dropArrayMarkers cs := by
  induction n with
  | zero => exact dropArrayMarkers_cons (by simp [arrayMarker])
  | succ n ih => rw [looseEnd, List.append_assoc, dropArrayMarkers_marker_append, ih]

/-- Of a torn marker its own two characters are left, side by side. -/
theorem dropArrayMarkers_tornMarker_append (n : Nat) (cs : List Char) :
    dropArrayMarkers (tornMarker (n + 1) ++ cs) = arrayMarker ++ dropArrayMarkers cs := by
  rw [tornMarker, List.cons_append, dropArrayMarkers_cons (by simp [arrayMarker, looseEnd]),
    dropArrayMarkers_looseEnd_append]
  rfl

/-- What is left begins with an `L` if the text does, behind any number of markers. -/
theorem prefix_dropArrayMarkers_iff :
    ['L'] <+: dropArrayMarkers cs ↔ ∃ n, looseEnd n <+: cs := by
  constructor
  · intro h
    fun_induction dropArrayMarkers cs with
    | case1 cs ih =>
      obtain ⟨n, rest, rfl⟩ := ih h
      exact ⟨n + 1, rest, rfl⟩
    | case2 c cs _ =>
      obtain ⟨rfl, -⟩ := List.cons_prefix_cons.mp h
      exact ⟨0, cs, rfl⟩
    | case3 => simp at h
  · rintro ⟨n, rest, rfl⟩
    rw [dropArrayMarkers_looseEnd_append]
    exact List.prefix_append ['L'] _

/-- **A marker is left over** if and only if one had others inside of it. -/
theorem marker_infix_dropArrayMarkers_iff :
    arrayMarker <:+: dropArrayMarkers cs ↔ ∃ n, tornMarker (n + 1) <:+: cs := by
  constructor
  · intro h
    fun_induction dropArrayMarkers cs with
    | case1 cs ih =>
      obtain ⟨n, hn⟩ := ih h
      exact ⟨n, List.infix_cons (List.infix_cons hn)⟩
    | case2 c cs hc ih =>
      rcases List.infix_cons_iff.mp h with hpre | hrest
      · obtain ⟨rfl, hL⟩ := arrayMarker_prefix_cons_iff.mp hpre
        obtain ⟨n, rest, rfl⟩ := prefix_dropArrayMarkers_iff.mp hL
        cases n with
        -- the two characters were side by side before, so the pass would have taken them
        | zero => exact (hc rest rfl rfl).elim
        | succ n => exact ⟨n, (List.prefix_append (tornMarker (n + 1)) rest).isInfix⟩
      · obtain ⟨n, hn⟩ := ih hrest
        exact ⟨n, List.infix_cons hn⟩
    | case3 => simp [arrayMarker] at h
  · rintro ⟨n, a, b, rfl⟩
    rw [List.append_assoc, dropArrayMarkers_append (by simp [tornMarker]),
      dropArrayMarkers_tornMarker_append]
    exact ⟨dropArrayMarkers a, dropArrayMarkers b, List.append_assoc ..⟩

/-! ### Shown names -/

theorem displayName_eq_self_iff : displayName name = name ↔ ¬ Marked name := by
  rw [← String.toList_inj, toList_displayName, dropArrayMarkers_eq_self_iff, Marked]

theorem marked_displayName_iff : Marked (displayName name) ↔ Torn name := by
  rw [Marked, toList_displayName, marker_infix_dropArrayMarkers_iff, Torn]

/-- A marker is left out wherever it stands in a name, and what is before it and behind it is shown
on its own. -/
theorem displayName_append_marker (before after : String) :
    displayName (before ++ "[L" ++ after) = displayName before ++ displayName after := by
  have hmarker : "[L".toList = arrayMarker := by decide
  rw [← String.toList_inj]
  simp only [String.toList_append, toList_displayName, hmarker, List.append_assoc,
    dropArrayMarkers_append_marker_append]

/-- **Which names are shown without a marker.** The shown name has one if and only if the name has
one with others inside of it, and those are also the names for which showing the shown name once
more changes something. A name is shown as it is if and only if it has no marker at all. -/
theorem displayName_exact (name : String) :
    (Marked (displayName name) ↔ Torn name) ∧
      (displayName (displayName name) = displayName name ↔ ¬ Torn name) ∧
      (displayName name = name ↔ ¬ Marked name) := by
  refine ⟨marked_displayName_iff, ?_, displayName_eq_self_iff⟩
  rw [displayName_eq_self_iff, marked_displayName_iff]

/-- **A shown name can have a marker**, and be shown otherwise the next time: that of the arrays of
arrays of a class `Library`. -/
theorem displayName_leaves_marker :
    Marked (displayName "[[LLibrary;") ∧
      displayName (displayName "[[LLibrary;") ≠ displayName "[[LLibrary;" := by
  decide

/-! ### Arrays of a class -/

/-- The name of the arrays of a class: a bracket for each dimension, `L`, the class, a semicolon. -/
def arrayName (dimensions : Nat) (className : String) : String :=
  String.ofList (List.replicate dimensions '[' ++ 'L' :: (className.toList ++ [';']))

theorem not_marker_infix_of_not_mem (h : '[' ∉ cs) : ¬ arrayMarker <:+: cs :=
  fun hpart => h (hpart.subset (by simp [arrayMarker]))

theorem marker_infix_replicate_append_iff (h : '[' ∉ cs) :
    arrayMarker <:+: List.replicate n '[' ++ cs ↔ 1 ≤ n ∧ ['L'] <+: cs := by
  induction n with
  | zero => simpa using not_marker_infix_of_not_mem h
  | succ n ih =>
    rw [List.replicate_succ, List.cons_append, List.infix_cons_iff, arrayMarker_prefix_cons_iff, ih]
    cases n <;> simp [List.replicate_succ]

/-- The marker of an array goes and the brackets of its outer dimensions stay. -/
theorem displayName_arrayName (h : '[' ∉ name.toList) :
    displayName (arrayName (n + 1) name) =
      String.ofList (List.replicate n '[' ++ (name.toList ++ [';'])) := by
  have hclass : '[' ∉ name.toList ++ [';'] := by simpa using h
  have hbrackets : ¬ arrayMarker <:+: List.replicate n '[' := fun hpart => by
    simpa using hpart.subset (show 'L' ∈ arrayMarker by decide)
  have hsplit : List.replicate (n + 1) '[' ++ 'L' :: (name.toList ++ [';']) =
      List.replicate n '[' ++ (arrayMarker ++ (name.toList ++ [';'])) := by
    rw [List.replicate_succ', List.append_assoc, arrayMarker]
    rfl
  rw [displayName, arrayName, String.toList_ofList, hsplit, dropArrayMarkers_append_marker_append,
    dropArrayMarkers_eq_self_iff.mpr hbrackets,
    dropArrayMarkers_eq_self_iff.mpr (not_marker_infix_of_not_mem hclass)]

/-- **Which arrays are shown with a marker:** those of two or more dimensions whose class has a name
that begins with `L`. -/
theorem marked_displayName_arrayName_iff (h : '[' ∉ name.toList) :
    Marked (displayName (arrayName (n + 1) name)) ↔ 1 ≤ n ∧ ['L'] <+: name.toList := by
  have hinitial : ['L'] <+: name.toList ++ [';'] ↔ ['L'] <+: name.toList := by
    cases name.toList <;> simp
  rw [displayName_arrayName h, Marked, String.toList_ofList,
    marker_infix_replicate_append_iff (by simpa using h), hinitial]

example : displayName (arrayName 2 "Library") = "[Library;" := by decide

end ClassDiagram
