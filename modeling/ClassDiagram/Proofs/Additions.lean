import ClassDiagram.Journal
import ClassDiagram.Proofs.FirstOccurrences
import ClassDiagram.Proofs.Invariants

/-!
# The Log Tells the Order of the Graph

A collection logs each type that it adds, requested types each time they are requested. Without the
events whose name has been told before, what is left are the types of the graph in their order; and
only requests are told again, never an ancestor (`additions_in_order`).

The log is made of the record of steps, and there it is an invariant of every step: the names that
are told first are those of the graph, an ancestor is new when it is reached, and its child stands
before it (`Chronicle`).
-/

namespace ClassDiagram

/-- The name of the type that a step adds to the graph, or finds there when it is requested. -/
def Step.added? : Step → Option String
  | .requested name => some name
  | .reached _ name _ _ => some name
  | _ => none

namespace Collection

variable {s : Settings} {l : Lineage} {roots : List String} {w w' : Walk}

/-! ### What holds at every step -/

/-- The names that steps add, in the order of the steps; these are given with the latest first. -/
def addedNames (record : List Step) : List String := record.reverse.filterMap Step.added?

/-- No ancestor is reached whose name has been added before. The latest step comes first. -/
def AncestorsNew : List Step → Prop
  | [] => True
  | .reached _ name _ _ :: earlier => name ∉ addedNames earlier ∧ AncestorsNew earlier
  | _ :: earlier => AncestorsNew earlier

theorem addedNames_cons (step : Step) (earlier : List Step) :
    addedNames (step :: earlier) = addedNames earlier ++ step.added?.toList := by
  rw [addedNames, List.reverse_cons, List.filterMap_append]
  cases h : step.added? <;> simp [addedNames, h]

/-- The record agrees with the graph. -/
structure Chronicle (w : Walk) : Prop where
  names : (addedNames w.history).eraseDups = w.graph.names
  new : AncestorsNew w.history
  below : ∀ l name child remaining, .reached l name child remaining ∈ w.history →
    [child, name].Sublist w.graph.names

namespace Chronicle

theorem mem_addedNames (h : Chronicle w) {name : String} :
    name ∈ addedNames w.history ↔ name ∈ w.graph.names := by
  rw [← h.names, List.mem_eraseDups]

/-- A step that adds nothing. -/
theorem cons_other (h : Chronicle w) {step : Step} (hg : w'.graph = w.graph)
    (hh : w'.history = step :: w.history) (hstep : step.added? = none) : Chronicle w' := by
  refine ⟨?_, ?_, fun l name child remaining hm => ?_⟩
  · rw [hg, hh, addedNames_cons, hstep, ← h.names, Option.toList_none, List.append_nil]
  · rw [hh]
    cases step with
    | reached => cases hstep
    | _ => exact h.new
  · rw [hh, List.mem_cons] at hm
    rw [hg]
    refine h.below l name child remaining (hm.resolve_left ?_)
    rintro rfl
    cases hstep

theorem request (h : Chronicle w) {name : String} {t : Descriptor} (ht : t.name = name) :
    Chronicle (w.request name t) := by
  refine ⟨?_, h.new, fun l n child remaining hm => ?_⟩
  · rw [Walk.history_request, addedNames_cons, Step.added?, Option.toList_some, eraseDups_concat,
      Walk.graph_request, TypeGraph.names_insert, ht, h.names]
    simp only [h.mem_addedNames]
  · rw [Walk.history_request, List.mem_cons] at hm
    have hold := h.below l n child remaining (hm.resolve_left nofun)
    rw [Walk.graph_request]
    exact hold.trans ((w.graph.prefix_insert t).map _).sublist

theorem reach (h : Chronicle w) (l : Lineage) (p : Descriptor) {child : Descriptor}
    (remaining : Nat) (hchild : child.name ∈ w.graph.names) :
    Chronicle (w.reach l p child remaining) := by
  by_cases hp : w.graph.contains p.name
  · rw [Walk.reach, if_pos hp]
    exact h
  · have hnew : p.name ∉ w.graph.names := fun hmem => hp (TypeGraph.contains_iff.mpr hmem)
    have hhist : (w.reach l p child remaining).history =
        .reached l p.name child.name remaining :: w.history := by
      rw [Walk.history_reach, if_neg hp]
    have hnames : (w.reach l p child remaining).graph.names = w.graph.names ++ [p.name] := by
      rw [Walk.graph_reach, TypeGraph.names_insert, if_neg hnew]
    refine ⟨?_, ?_, fun l' n c r hm => ?_⟩
    · rw [hhist, hnames, addedNames_cons, Step.added?, Option.toList_some, eraseDups_concat,
        if_neg (by rwa [h.mem_addedNames]), h.names]
    · rw [hhist]
      exact ⟨by rwa [h.mem_addedNames], h.new⟩
    · rw [hnames]
      rw [hhist, List.mem_cons] at hm
      rcases hm with he | hm
      · cases he
        exact (List.singleton_sublist.mpr hchild).append (List.Sublist.refl [p.name])
      · exact (h.below l' n c r hm).trans (List.sublist_append_left _ _)

end Chronicle

theorem kept_chronicle (c : Catalog) : Kept c.resolve s roots Chronicle where
  request _ ht h := h.request (Catalog.name_of_resolve ht)
  note hq h := by
    refine h.cons_other rfl rfl ?_
    rename_i step
    cases step with
    | missing | left | spared => rfl
    | requested | reached | entered => cases hq
  reach _ _ _ hchild h := h.reach _ _ _ hchild
  enter _ _ _ h := h.cons_other (Walk.graph_enter ..) (Walk.history_enter ..) rfl

theorem chronicle_addRoots (c : Catalog) : Chronicle (addRoots c.resolve s roots {}).1 :=
  kept_addRoots (kept_chronicle c) ⟨rfl, trivial, by simp⟩

end Collection

/-! ### Events -/

/-- The text that an event tells by a name. -/
def Log.Event.text? (e : Log.Event) (name : String) : Option String :=
  match e.fields.lookup name with
  | some (.text t) => some t
  | _ => none

namespace Journal

open Log

/-- Whether an event tells that a type is requested. -/
def tellsRequest (e : Event) : Bool := e.message = "Adding root type"

/-- Whether an event tells that an ancestor is added. -/
def tellsAncestor (e : Event) : Bool :=
  e.message = "Adding superclass" || e.message = "Adding interface"

/-- The events of a collection that tell of types being added. -/
def additions (source : Source) (s : Settings) (roots : List String) : List Event :=
  ((Collection.steps source s roots).filterMap stepEvent?).filter fun e =>
    tellsRequest e || tellsAncestor e

/-- The events of a log whose name no earlier one tells. -/
def firstTold (log : List Event) : List Event :=
  log.eraseDupsBy fun later earlier => later.text? "name" == earlier.text? "name"

theorem firstTold_concat (log : List Event) (e : Event) :
    firstTold (log ++ [e]) =
      if e.text? "name" ∈ log.map (·.text? "name") then firstTold log else firstTold log ++ [e] :=
  eraseDupsBy_concat (fun e : Event => e.text? "name") log e

/-- The type above which an ancestor is added. -/
def below? (e : Event) : Option String :=
  if e.message = "Adding superclass" then e.text? "child" else e.text? "implementor"

/-- The event of a step that adds a type. -/
def addition? (step : Step) : Option Event :=
  (stepEvent? step).filter fun e => tellsRequest e || tellsAncestor e

theorem addition?_cases {step : Step} {e : Event} (h : addition? step = some e) :
    (∃ name, step = .requested name ∧ tellsAncestor e = false) ∨
      ∃ l name child remaining, step = .reached l name child remaining ∧
        tellsAncestor e = true ∧ e.text? "name" = some name ∧ below? e = some child := by
  cases step with
  | requested name =>
    cases h
    exact Or.inl ⟨name, rfl, by simp [tellsAncestor]⟩
  | reached l name child remaining =>
    cases l <;> cases h <;> exact Or.inr ⟨_, _, _, _, rfl, by simp [tellsAncestor], rfl, rfl⟩
  | missing l => cases l <;> cases h
  | spared l => cases l <;> cases h
  | entered => cases h
  | left => cases h

theorem map_addition? (step : Step) :
    (addition? step).map (·.text? "name") = step.added?.map some := by
  cases step with
  | requested => rfl
  | reached l => cases l <;> rfl
  | missing l => cases l <;> rfl
  | spared l => cases l <;> rfl
  | entered | left => rfl

/-- The additions of a record, which is given with the latest step first. -/
def toldOf (record : List Step) : List Event := record.reverse.filterMap addition?

theorem additions_eq (source : Source) (s : Settings) (roots : List String) :
    additions source s roots = toldOf (Collection.addRoots source s roots {}).1.history :=
  List.filter_filterMap

theorem toldOf_cons (step : Step) (earlier : List Step) :
    toldOf (step :: earlier) = toldOf earlier ++ (addition? step).toList := by
  rw [toldOf, List.reverse_cons, List.filterMap_append]
  cases h : addition? step <;> simp [toldOf, h]

theorem map_toldOf (record : List Step) :
    (toldOf record).map (·.text? "name") = (Collection.addedNames record).map some := by
  rw [toldOf, Collection.addedNames, List.map_filterMap, List.map_filterMap]
  simp only [map_addition?]

/-- Only requests are left out behind earlier events. -/
theorem filter_firstTold {record : List Step} (h : Collection.AncestorsNew record) :
    (firstTold (toldOf record)).filter tellsAncestor = (toldOf record).filter tellsAncestor := by
  induction record with
  | nil => rfl
  | cons step earlier ih =>
    rw [toldOf_cons]
    cases he : addition? step with
    | none =>
      rw [Option.toList_none, List.append_nil]
      refine ih ?_
      cases step with
      | reached => exact h.2
      | _ => exact h
    | some e =>
      rw [Option.toList_some, firstTold_concat, map_toldOf, List.filter_append]
      rcases addition?_cases he with ⟨name, rfl, hrequest⟩ | ⟨l, name, child, r, rfl, -, hname, -⟩
      · have hold := ih h
        split <;> simp [hrequest, hold]
      · have hnew : e.text? "name" ∉ (Collection.addedNames earlier).map some := by
          rw [hname]
          simpa using h.1
        rw [if_neg hnew, List.filter_append, ih h.2]

theorem map_firstTold {w : Walk} (h : Collection.Chronicle w) :
    (firstTold (toldOf w.history)).map (·.text? "name") = w.graph.names.map some := by
  rw [firstTold, map_eraseDupsBy (fun e : Event => e.text? "name"), map_toldOf,
    eraseDups_map (fun _ _ _ _ => Option.some.inj), h.names]

theorem nodup_firstTold {w : Walk} (h : Collection.Chronicle w) :
    ((firstTold (toldOf w.history)).map (·.text? "name")).Nodup := by
  rw [map_firstTold h]
  exact w.graph.names_nodup.map fun _ _ => Option.some.inj

/-- An ancestor is told of once, if it is first told of as an ancestor. -/
theorem filter_told {w : Walk} (h : Collection.Chronicle w) {e : Event}
    (he : e ∈ firstTold (toldOf w.history)) (hancestor : tellsAncestor e) :
    (toldOf w.history).filter (fun e' => tellsAncestor e' && e'.text? "name" == e.text? "name") =
      [e] := by
  have honly := filter_key_eq_singleton (nodup_firstTold h) he
  simp only [Bool.and_comm (tellsAncestor _)]
  rw [← List.filter_filter, ← filter_firstTold h.new, List.filter_filter]
  simp only [Bool.and_comm _ (tellsAncestor _)]
  rw [← List.filter_filter, honly, List.filter_cons_of_pos hancestor, List.filter_nil]

/-- An ancestor is told to be above a type that stands before it. -/
theorem below_told {w : Walk} (h : Collection.Chronicle w) {e : Event}
    (he : e ∈ toldOf w.history) (hancestor : tellsAncestor e) :
    ∃ name child, e.text? "name" = some name ∧ below? e = some child ∧
      [child, name].Sublist w.graph.names := by
  obtain ⟨step, hstep, hadds⟩ := List.mem_filterMap.mp he
  rcases addition?_cases hadds with ⟨_, -, hrequest⟩ | ⟨l, name, child, r, rfl, -, hname, hbelow⟩
  · rw [hancestor] at hrequest
    cases hrequest
  · exact ⟨name, child, hname, hbelow, h.below l name child r (List.mem_reverse.mp hstep)⟩

/-- **The log tells the order of the graph.** Of the events of a collection that tell of types being
added, those whose name has not been told before tell the names of the graph, in its order. No event
of an ancestor is left out so. A type that is first told of as an ancestor is told of as one just
once, and what it is told to be above is a type that stands before it in the graph. -/
theorem additions_in_order (c : Catalog) (s : Settings) {roots : List String}
    (hall : ∀ name ∈ roots, (c.resolve name).isSome) :
    ∃ g, Collection.collect c.resolve s roots = .ok g ∧
      (firstTold (additions c.resolve s roots)).map (·.text? "name") = g.names.map some ∧
      (firstTold (additions c.resolve s roots)).filter tellsAncestor =
        (additions c.resolve s roots).filter tellsAncestor ∧
      ∀ e ∈ firstTold (additions c.resolve s roots), tellsAncestor e →
        (additions c.resolve s roots).filter
            (fun e' => tellsAncestor e' && e'.text? "name" == e.text? "name") = [e] ∧
          ∃ name child, e.text? "name" = some name ∧ below? e = some child ∧
            [child, name].Sublist g.names := by
  have hc : Collection.Chronicle (Collection.addRoots c.resolve s roots {}).1 :=
    Collection.chronicle_addRoots c
  refine ⟨_, Collection.collect_eq_ok_iff.mpr ⟨hall, rfl⟩, ?_⟩
  rw [additions_eq]
  refine ⟨map_firstTold hc, filter_firstTold hc.new, fun e he hancestor => ?_⟩
  have hmem := (eraseDupsBy_sublist (fun e : Event => e.text? "name") _).subset he
  exact ⟨filter_told hc he hancestor, below_told hc hmem hancestor⟩

/-- Interfaces that go round and are reached by several ways. -/
def roundabout : Catalog := .ofList
  [{ name := "Impl", superclass := some "Base", interfaces := ["Left", "Right"] },
    { name := "Base", interfaces := ["Right"] }, { name := "Left", interfaces := ["Top"] },
    { name := "Right", interfaces := ["Top", "Left"] }, { name := "Top", interfaces := ["Left"] }]

/-- `Top` is first reached above `Left`. That it is requested then, and `Impl` once more, are told
again. -/
theorem additions_in_order_roundabout :
    ∃ g, Collection.collect roundabout.resolve { depth := 3 } ["Impl", "Top", "Impl"] = .ok g ∧
      g.names = ["Impl", "Base", "Left", "Top", "Right"] ∧
      (additions roundabout.resolve { depth := 3 } ["Impl", "Top", "Impl"]).filter
          (fun e => tellsAncestor e && e.text? "name" == some "Top") =
        [⟨.debug, .collector, "Adding interface",
          [("name", .text "Top"), ("implementor", .text "Left"), ("depth", .number 2)]⟩] := by
  have hall : ∀ name ∈ ["Impl", "Top", "Impl"], (roundabout.resolve name).isSome := by decide
  obtain ⟨g, hg, hnames, -, honce⟩ := additions_in_order roundabout { depth := 3 } hall
  refine ⟨g, hg, ?_, ?_⟩
  · refine List.map_injective_iff.mpr (fun _ _ => Option.some.inj) (hnames.symm.trans ?_)
    decide
  · exact (honce ⟨.debug, .collector, "Adding interface",
      [("name", .text "Top"), ("implementor", .text "Left"), ("depth", .number 2)]⟩ (by decide)
      (by decide)).1

end Journal

end ClassDiagram
