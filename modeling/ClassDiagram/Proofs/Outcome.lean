import ClassDiagram.Command
import ClassDiagram.Proofs.CatalogHistory
import ClassDiagram.Proofs.Requested

/-!
# What a Run Comes To

A run that shows no diagram has one cause, and where there are several the order of the stages
decides (`execute_precedence`): a request that cannot be read, the first catalog file that cannot be
loaded, the first requested type that is defined nowhere. What a stage behind the one that fails
would have found is never looked at.

The layers of a catalog are the built-in types and then those of each file, and of all definitions
of a name the last one counts (`catalog_of_lists`).
-/

namespace ClassDiagram

variable {files : Files} {path : String} {ts : List Descriptor} {e : Error}

namespace Command

open Catalog (Lists Refuses resolve_ofList_eq_none_iff)

variable {o : Options}

/-! ### Loading files -/

/-- Files that can all be loaded add their types one after another. -/
theorem loadFiles_of_lists {paths : List String} {layers : List (List Descriptor)}
    (h : List.Forall₂ (Lists files) paths layers) (c : Catalog) :
    loadFiles files paths c = .ok (c.insertAll layers.flatten) := by
  induction h generalizing c with
  | nil => rfl
  | cons hlists _ ih =>
    rw [loadFiles, Catalog.load_of_lists c hlists]
    simp only [ih, List.flatten_cons, Catalog.insertAll, List.foldl_append]

/-- Loading ends at the first file that cannot be loaded. -/
theorem loadFiles_of_refuses {before : List String} (after : List String)
    (hbefore : ∀ p ∈ before, ∃ ts, Lists files p ts) (h : Refuses files path e) (c : Catalog) :
    loadFiles files (before ++ path :: after) c = .error { file := some path, error := e } := by
  induction before generalizing c with
  | nil => rw [List.nil_append, loadFiles, Catalog.load_of_refuses c h]
  | cons p before ih =>
    obtain ⟨⟨ts, hts⟩, hbefore⟩ := List.forall_mem_cons.mp hbefore
    rw [List.cons_append, loadFiles, Catalog.load_of_lists c hts]
    exact ih hbefore _

/-- If any file cannot be loaded, there is a first one. -/
theorem exists_first_refused : ∀ {paths : List String},
    (∃ path ∈ paths, ∀ ts, ¬ Lists files path ts) →
      ∃ before path after e, paths = before ++ path :: after ∧
        (∀ p ∈ before, ∃ ts, Lists files p ts) ∧ Refuses files path e
  | [], ⟨_, hmem, _⟩ => nomatch hmem
  | p :: paths, ⟨path, hmem, hnone⟩ => by
    rcases Catalog.lists_or_refuses files p with ⟨ts, hts⟩ | ⟨e, he⟩
    · have hrest : path ∈ paths := by
        rcases List.mem_cons.mp hmem with rfl | hmem
        · exact absurd hts (hnone ts)
        · exact hmem
      obtain ⟨before, path, after, e, rfl, hbefore, he⟩ :=
        exists_first_refused ⟨path, hrest, hnone⟩
      exact ⟨p :: before, path, after, e, rfl, List.forall_mem_cons.mpr ⟨⟨ts, hts⟩, hbefore⟩, he⟩
    · exact ⟨[], p, paths, e, rfl, by simp, he⟩

/-! ### Layers -/

/-- All definitions of types, in the order in which they come into the catalog. -/
def definitions (o : Options) (layers : List (List Descriptor)) : List Descriptor :=
  (if o.noBuiltin then [] else Builtin.types) ++ layers.flatten

theorem baseCatalog_eq (o : Options) :
    baseCatalog o = .ofList (if o.noBuiltin then [] else Builtin.types) := by
  unfold baseCatalog
  split <;> rfl

theorem catalog_of_lists {layers : List (List Descriptor)}
    (h : List.Forall₂ (Lists files) o.catalogs layers) :
    catalog o files = .ok (.ofList (definitions o layers)) := by
  rw [catalog, loadFiles_of_lists h, baseCatalog_eq, definitions]
  simp only [Catalog.ofList, Catalog.insertAll, List.foldl_append]

/-! ### The order of the stages -/

theorem execute_of_ofSwitches {r : Request} (h : Request.ofSwitches ⟨o.switches⟩ = .ok r) :
    execute o files =
      match catalog o files with
      | .error f => .error f
      | .ok c =>
        match r.diagram c.resolve with
        | .error error => .error { error }
        | .ok script => .ok (.diagram script) := by
  have hne : Switches.isEmpty ⟨o.switches⟩ = false := by
    cases hs : o.switches with
    | nil =>
      rw [hs] at h
      cases h
    | cons w ws => rfl
  simp only [execute, hne, h]
  rfl

theorem execute_of_requestError (hne : o.switches ≠ [])
    (h : Request.ofSwitches ⟨o.switches⟩ = .error e) : execute o files = .error { error := e } := by
  have hempty : Switches.isEmpty ⟨o.switches⟩ = false := List.isEmpty_eq_false_iff.mpr hne
  simp only [execute, hempty, h]
  rfl

theorem execute_eq_usage_iff : execute o files = .ok .usage ↔ o.switches = [] := by
  constructor
  · intro h
    cases hs : o.switches with
    | nil => rfl
    | cons w ws =>
      exfalso
      cases hr : Request.ofSwitches ⟨o.switches⟩ with
      | error e =>
        rw [execute_of_requestError (by simp [hs]) hr] at h
        cases h
      | ok r =>
        rw [execute_of_ofSwitches hr] at h
        cases hc : catalog o files with
        | error f => simp [hc] at h
        | ok c => cases hd : r.diagram c.resolve <;> simp [hc, hd] at h
  · intro h
    simp [execute, Switches.isEmpty, h]

/-- The first catalog file that cannot be loaded ends a run. -/
theorem execute_of_refuses {r : Request} {before after : List String}
    (hr : Request.ofSwitches ⟨o.switches⟩ = .ok r)
    (hcatalogs : o.catalogs = before ++ path :: after)
    (hbefore : ∀ p ∈ before, ∃ ts, Lists files p ts) (he : Refuses files path e) :
    execute o files = .error { file := some path, error := e } := by
  have hload : catalog o files = .error { file := some path, error := e } := by
    rw [catalog, hcatalogs]
    exact loadFiles_of_refuses after hbefore he _
  rw [execute_of_ofSwitches hr, hload]

/-- If all files are loaded, the diagram decides. -/
theorem execute_of_lists {r : Request} {layers : List (List Descriptor)}
    (hr : Request.ofSwitches ⟨o.switches⟩ = .ok r)
    (hlayers : List.Forall₂ (Lists files) o.catalogs layers) :
    execute o files =
      match diagram (Catalog.ofList (definitions o layers)).resolve r.settings r.roots with
      | .error error => .error { error }
      | .ok script => .ok (.diagram script) := by
  rw [execute_of_ofSwitches hr, catalog_of_lists hlayers]
  rfl

/-- A request for a type that is not defined has no diagram, because of the first such type. -/
theorem diagram_of_missing {ts : List Descriptor} {s : Settings} {roots : List String}
    (hmissing : ∃ name ∈ roots, ∀ t ∈ ts, t.name ≠ name) :
    ∃ before name after, roots = before ++ name :: after ∧
      (∀ n ∈ before, ∃ t ∈ ts, t.name = n) ∧ (∀ t ∈ ts, t.name ≠ name) ∧
      diagram (Catalog.ofList ts).resolve s roots = .error (.unresolvedType name) := by
  have hsource : ∃ name ∈ roots, (Catalog.ofList ts).resolve name = none := by
    obtain ⟨name, hname, hnone⟩ := hmissing
    exact ⟨name, hname, resolve_ofList_eq_none_iff.mpr hnone⟩
  obtain ⟨e, he⟩ := (Collection.exists_collect_eq_error_iff (s := s)).mpr hsource
  obtain ⟨before, name, after, hroots, hbefore, hnone, rfl⟩ :=
    Collection.collect_eq_error_iff_first.mp he
  refine ⟨before, name, after, hroots, fun n hn => ?_, resolve_ofList_eq_none_iff.mp hnone,
    diagram_eq_error_iff.mpr he⟩
  simpa [resolve_ofList_eq_none_iff] using hbefore n hn

/-- A request for types that are all defined has a diagram. -/
theorem diagram_of_defined {ts : List Descriptor} (s : Settings) {roots : List String}
    (hall : ∀ name ∈ roots, ∃ t ∈ ts, t.name = name) :
    ∃ script, diagram (Catalog.ofList ts).resolve s roots = .ok script := by
  have hsome : ∀ name ∈ roots, ((Catalog.ofList ts).resolve name).isSome := by
    intro name hname
    rw [Option.isSome_iff_ne_none, ne_eq, resolve_ofList_eq_none_iff]
    simpa using hall name hname
  exact ⟨_, diagram_eq_ok_iff.mpr ⟨_, Collection.collect_eq_ok_iff.mpr ⟨hsome, rfl⟩, rfl⟩⟩

/-- **The order of the causes.** Without switches there is the usage text. Else a request that
cannot be read is the error, whatever the options and the files are; else the first catalog file
that cannot be loaded is; else the first requested type that no layer of the catalog defines is;
else there is the diagram of a catalog in which a name stands for its last definition. -/
theorem execute_precedence (o : Options) (files : Files) :
    (execute o files = .ok .usage ↔ o.switches = []) ∧
    (∀ e, o.switches ≠ [] → Request.ofSwitches ⟨o.switches⟩ = .error e →
      ∀ catalogs noBuiltin files',
        execute { o with catalogs, noBuiltin } files' = .error { error := e }) ∧
    ∀ r, Request.ofSwitches ⟨o.switches⟩ = .ok r →
      ((∃ path ∈ o.catalogs, ∀ ts, ¬ Lists files path ts) →
        ∃ before path after e f, o.catalogs = before ++ path :: after ∧
          (∀ p ∈ before, ∃ ts, Lists files p ts) ∧ Refuses files path e ∧
          execute o files = .error f ∧ f.error = e ∧
          ["Failed to load catalog '" ++ path ++ "'", e.message] <+: f.chain) ∧
      ∀ layers, List.Forall₂ (Lists files) o.catalogs layers →
        ((∃ name ∈ r.roots, ∀ t ∈ definitions o layers, t.name ≠ name) →
          ∃ before name after, r.roots = before ++ name :: after ∧
            (∀ n ∈ before, ∃ t ∈ definitions o layers, t.name = n) ∧
            (∀ t ∈ definitions o layers, t.name ≠ name) ∧
            execute o files = .error { error := .unresolvedType name }) ∧
        ((∀ name ∈ r.roots, ∃ t ∈ definitions o layers, t.name = name) →
          ∃ (c : Catalog) (script : Script),
            (∀ name, c.resolve name = (definitions o layers).reverse.find? (·.name = name)) ∧
            diagram c.resolve r.settings r.roots = .ok script ∧
            execute o files = .ok (.diagram script)) := by
  refine ⟨execute_eq_usage_iff, fun e hne he catalogs noBuiltin files' => ?_,
    fun r hr => ⟨fun hrefused => ?_, fun layers hlayers => ⟨fun hmissing => ?_, fun hall => ?_⟩⟩⟩
  · exact execute_of_requestError (o := { o with catalogs, noBuiltin }) hne he
  · obtain ⟨before, path, after, e, hcatalogs, hbefore, he⟩ := exists_first_refused hrefused
    exact ⟨before, path, after, e, _, hcatalogs, hbefore, he,
      execute_of_refuses hr hcatalogs hbefore he, rfl, List.prefix_append _ _⟩
  · obtain ⟨before, name, after, hroots, hbefore, hnone, hdiagram⟩ :=
      diagram_of_missing (s := r.settings) hmissing
    refine ⟨before, name, after, hroots, hbefore, hnone, ?_⟩
    rw [execute_of_lists hr hlayers, hdiagram]
  · obtain ⟨script, hdiagram⟩ := diagram_of_defined r.settings hall
    refine ⟨_, script, fun name => Catalog.resolve_ofList _ name, hdiagram, ?_⟩
    rw [execute_of_lists hr hlayers, hdiagram]

/-- One file that lists the type `A`, and one that goes wrong in it. No other path leads to a
file. -/
def shelf : Files := fun path =>
  if path = "a.json" then .ok Catalog.scrambledText
  else if path = "b.json" then .ok Catalog.shortText
  else .error .notFound

theorem lists_shelf : Lists shelf "a.json" Catalog.scrambledTypes :=
  ⟨_, rfl, Catalog.decode_scrambledText⟩

theorem not_lists_shelf (ts : List Descriptor) : ¬ Lists shelf "b.json" ts := by
  rintro ⟨text, htext, hdecode⟩
  obtain rfl : Catalog.shortText = text := Except.ok.inj htext
  rw [Catalog.decode_shortText] at hdecode
  cases hdecode

/-- Options for a run without built-in types. -/
def bare (catalogs switches : List String) : Options := { catalogs, noBuiltin := true, switches }

/-- Each cause is reported while those behind it are there as well. -/
theorem execute_precedence_shelf :
    execute (bare ["b.json"] []) shelf = .ok .usage ∧
    execute (bare ["b.json"] ["-d", "-c", "B"]) shelf = .error { error := .notAnInteger "-d" } ∧
    (∃ f, execute (bare ["a.json", "b.json", "c.json"] ["-c", "B"]) shelf = .error f ∧
      ["Failed to load catalog 'b.json'", f.error.message] <+: f.chain) ∧
    execute (bare ["a.json"] ["-c", "A", "B", "C"]) shelf =
      .error { error := .unresolvedType "B" } ∧
    ∃ script, execute (bare ["a.json"] ["-c", "A"]) shelf = .ok (.diagram script) := by
  have hlayers : List.Forall₂ (Lists shelf) ["a.json"] [Catalog.scrambledTypes] :=
    .cons lists_shelf .nil
  have hA : { name := "A", methods := [{ name := "m" }] } ∈
      definitions (bare ["a.json"] []) [Catalog.scrambledTypes] := by decide
  refine ⟨(execute_precedence _ shelf).1.mpr rfl, ?_, ?_, ?_, ?_⟩
  · exact (execute_precedence (bare [] ["-d", "-c", "B"]) shelf).2.1 _ (by decide) rfl
      ["b.json"] true shelf
  · obtain ⟨before, path, after, e, f, hpaths, hbefore, hrefuses, hf, rfl, hchain⟩ :=
      ((execute_precedence (bare ["a.json", "b.json", "c.json"] ["-c", "B"]) shelf).2.2 _ rfl).1
        ⟨"b.json", by decide, not_lists_shelf⟩
    obtain rfl : path = "b.json" := by
      match before, hpaths with
      | [], hpaths =>
        obtain rfl : "a.json" = path := (List.cons.inj hpaths).1
        exact absurd hrefuses (Catalog.not_refuses_of_lists lists_shelf)
      | [_], hpaths => exact (List.cons.inj (List.cons.inj hpaths).2).1.symm
      | _ :: q :: _, hpaths =>
        obtain rfl : "b.json" = q := (List.cons.inj (List.cons.inj hpaths).2).1
        obtain ⟨ts, hts⟩ := hbefore "b.json" (by simp)
        exact absurd hts (not_lists_shelf ts)
    exact ⟨f, hf, hchain⟩
  · obtain ⟨before, name, after, hroots, hbefore, hnone, hf⟩ :=
      (((execute_precedence (bare ["a.json"] ["-c", "A", "B", "C"]) shelf).2.2 _ rfl).2 _ hlayers).1
        ⟨"B", by decide, by decide⟩
    obtain rfl : name = "B" := by
      match before, hroots with
      | [], hroots =>
        obtain rfl : "A" = name := (List.cons.inj hroots).1
        exact absurd rfl (hnone _ hA)
      | [_], hroots => exact (List.cons.inj (List.cons.inj hroots).2).1.symm
      | _ :: q :: _, hroots =>
        obtain rfl : "B" = q := (List.cons.inj (List.cons.inj hroots).2).1
        exact absurd (hbefore "B" (by simp)) (by decide)
    exact hf
  · obtain ⟨_, script, -, -, hscript⟩ :=
      (((execute_precedence (bare ["a.json"] ["-c", "A"]) shelf).2.2 _ rfl).2 _ hlayers).2
        (by decide)
    exact ⟨script, hscript⟩

end Command

end ClassDiagram
