import ClassDiagram.Diagram
import ClassDiagram.Proofs.Members
import Mathlib.Data.List.Find

/-!
# What a Diagram Looks Up

A collection looks up the requested names and the names of the direct supertypes of what belongs to
the diagram, and no others. Two sources that agree on these (`Agrees`) are walked in the same way,
step by step and budget by budget (`addRoots_eq`), and the script is written from the graph alone.
So a catalog entry under any other name changes nothing, the types of fields included
(`diagram_insert_unrelated`).
-/

namespace ClassDiagram

namespace Collection

variable {source source' : Source} {s : Settings} {l : Lineage} {roots : List String}

/-- The sources give the same for all that a collection looks up. -/
structure Agrees (source source' : Source) (s : Settings) (roots : List String) : Prop where
  requested : ∀ name ∈ roots, source' name = source name
  parents : ∀ t, Belongs source s roots t → ∀ l, ∀ name ∈ Lineage.parents s l t,
    source' name = source name

theorem Agrees.parent_eq {name m : String} {k : Nat} {root child : Descriptor}
    (ha : Agrees source source' s roots) (hname : name ∈ roots) (hroot : source name = some root)
    (hk : Chain (Parent source s l) k root child) (hd : k ≤ s.depth)
    (hm : m ∈ Lineage.parents s l child) : source' m = source m := by
  have hchild : Belongs source s roots child := ⟨name, hname, root, hroot, l, k, hd, hk⟩
  exact ha.parents child hchild l m hm

/-- **A run looks up parents of types that belong to the diagram only.** -/
theorem Climb.agrees {names : List String} {name : String} {remaining k : Nat}
    {root child : Descriptor} {w w' : Walk} (h : Climb source s l remaining child names w w')
    (ha : Agrees source source' s roots) (hname : name ∈ roots) (hroot : source name = some root)
    (hk : Chain (Parent source s l) k root child) (hd : k + remaining ≤ s.depth) :
    Climb source' s l remaining child names w w' := by
  induction h generalizing k with
  | done => exact .done
  | missing hm hn _ ih =>
    have hm' := ha.parent_eq hname hroot hk (by omega) hm
    exact .missing hm (hm'.trans hn) (ih hk hd)
  | spared hm hp hcov _ ih =>
    have hm' := ha.parent_eq hname hroot hk (by omega) hm
    exact .spared hm (hm'.trans hp) hcov (ih hk hd)
  | @expanded remaining child p m _ _ _ _ hm hp hallows _ _ ih₁ ih₂ =>
    have hm' := ha.parent_eq hname hroot hk (by omega) hm
    have hparent : Parent source s l child p := parent_iff.mpr ⟨m, hm, hp⟩
    exact .expanded hm (hm'.trans hp) hallows (ih₁ (hk.tail hparent) (by omega)) (ih₂ hk hd)

theorem ascendRoot_eq {name : String} {t : Descriptor} (ha : Agrees source source' s roots)
    (hname : name ∈ roots) (ht : source name = some t) (w : Walk) :
    ascendRoot source' s l t w = ascendRoot source s l t w := by
  have hrun : ∀ w, ascend source' s l s.depth t w = ascend source s l s.depth t w := by
    intro w
    have hc : Climb source s l s.depth t (above s l s.depth t) w (ascend source s l s.depth t w) :=
      climb_ascend _ _ _
    exact (climb_ascend _ _ _).unique (hc.agrees ha hname ht (.refl t) (by omega))
  unfold ascendRoot
  rw [hrun]

theorem addRoots_eq (ha : Agrees source source' s roots) :
    ∀ (names : List String) (w : Walk), names ⊆ roots →
      addRoots source' s names w = addRoots source s names w
  | [], _, _ => rfl
  | name :: names, w, hsub => by
    obtain ⟨hname, hnames⟩ := List.cons_subset.mp hsub
    unfold addRoots
    rw [ha.requested name hname]
    cases ht : source name with
    | none => rfl
    | some t =>
      have hroot : addRoot source' s name t w = addRoot source s name t w := by
        unfold addRoot
        rw [ascendRoot_eq ha hname ht, ascendRoot_eq ha hname ht]
      show addRoots source' s names (addRoot source' s name t w) = _
      rw [hroot]
      exact addRoots_eq ha names _ hnames

/-- Sources that agree on what is looked up give the same collection. -/
theorem collect_eq_of_agrees (ha : Agrees source source' s roots) :
    collect source' s roots = collect source s roots := by
  unfold collect
  rw [addRoots_eq ha roots {} (List.Subset.refl _)]

/-- Whether a collection fails, and for which name, is a matter of the requested names alone. -/
theorem collect_error_of_roots {e : Error} (hroots : ∀ name ∈ roots, source' name = source name)
    (h : collect source s roots = .error e) : collect source' s roots = .error e := by
  obtain ⟨name, hfind, he⟩ := collect_eq_error_iff.mp h
  refine collect_eq_error_iff.mpr ⟨name, ?_, he⟩
  rw [← hfind]
  refine List.find?_congr fun n hn => ?_
  rw [hroots n hn]

end Collection

/-! ### Catalog entries -/

/-- A type whose name no collected type has as a direct supertype is not looked up. -/
theorem Catalog.agrees_insert {c : Catalog} {s : Settings} {roots : List String} {t : Descriptor}
    {g : TypeGraph} (ht : t.name ∉ roots) (hg : Collection.collect c.resolve s roots = .ok g)
    (hsuper : ∀ u ∈ g.types, u.superclass ≠ some t.name ∧ t.name ∉ u.interfaces) :
    Collection.Agrees c.resolve (c.insert t).resolve s roots := by
  obtain ⟨hall, rfl⟩ := Collection.collect_eq_ok_iff.mp hg
  refine ⟨fun name hname => resolve_insert_of_ne fun h => ht (h ▸ hname), ?_⟩
  intro u hu l name hname
  obtain ⟨hsup, hint⟩ :=
    hsuper u ((Collection.mem_types_iff_belongs (c.unambiguous_resolve id) hall).mpr hu)
  refine resolve_insert_of_ne fun h => ?_
  subst h
  cases l with
  | superclass => exact hsup (Lineage.mem_parents_superclass.mp hname).1
  | interface => exact hint hname

/-- **Unrelated entries change nothing.** With a type in the catalog that is not asked for, a
request fails as it failed before; and it gives the same script as before if no collected type has
the new one as a direct supertype. -/
theorem diagram_insert_unrelated (c : Catalog) (s : Settings) {roots : List String}
    {t : Descriptor} (ht : t.name ∉ roots) :
    (∀ e, diagram c.resolve s roots = .error e →
        diagram (c.insert t).resolve s roots = .error e) ∧
      ∀ script, diagram c.resolve s roots = .ok script →
        ∃ g, Collection.collect c.resolve s roots = .ok g ∧
          ((∀ u ∈ g.types, u.superclass ≠ some t.name ∧ t.name ∉ u.interfaces) →
            diagram (c.insert t).resolve s roots = .ok script) := by
  constructor
  · intro e he
    rw [diagram_eq_error_iff] at he ⊢
    refine Collection.collect_error_of_roots (fun name hname => ?_) he
    exact Catalog.resolve_insert_of_ne fun h => ht (h ▸ hname)
  · intro script hscript
    obtain ⟨g, hg, rfl⟩ := diagram_eq_ok_iff.mp hscript
    refine ⟨g, hg, fun hsuper => ?_⟩
    have ha := Catalog.agrees_insert ht hg hsuper
    exact diagram_eq_ok_iff.mpr ⟨g, (Collection.collect_eq_of_agrees ha).trans hg, rfl⟩

/-- A `Car` has an `Engine`, and its superclass is unknown. -/
def garage : Catalog := .ofList
  [{ name := "Car", superclass := some "Vehicle", interfaces := ["Wheeled"]
     fields := [{ name := "motor", typeName := "Engine" }] },
    { name := "Wheeled", interfaces := ["Wheeled"] }, { name := "Engine" }]

/-- Another entry for `Engine`, which is the type of a field only. -/
theorem diagram_insert_unrelated_garage :
    (∃ script, diagram garage.resolve { depth := 9 } ["Car"] = .ok script ∧
      diagram (garage.insert { name := "Engine", superclass := some "Car" }).resolve { depth := 9 }
        ["Car"] = .ok script) ∧
      diagram (garage.insert { name := "Vehicle" }).resolve { depth := 9 } ["Car", "Bus"] =
        .error (.unresolvedType "Bus") := by
  have hcar : "Engine" ∉ ["Car"] := by decide
  have hbus : "Vehicle" ∉ ["Car", "Bus"] := by decide
  constructor
  · obtain ⟨g, hg, hsame⟩ := (diagram_insert_unrelated garage { depth := 9 }
      (t := { name := "Engine", superclass := some "Car" }) hcar).2 _ rfl
    refine ⟨_, rfl, hsame ?_⟩
    obtain rfl := Except.ok.inj hg
    decide
  · exact (diagram_insert_unrelated garage { depth := 9 } (t := { name := "Vehicle" }) hbus).1 _ rfl

end ClassDiagram
