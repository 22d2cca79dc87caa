import ClassDiagram.Diagram
import ClassDiagram.Proofs.Climb

/-!
# Ancestors Are Linked to Requested Types

The collection decides by looking names up, the script decides again by what is in the graph; both
come to the same edges. From every type of a diagram that nobody asked for, drawn edges of one kind
lead down to a requested type, in no more steps than the depth (`ancestors_linked`).

When a type is first reached, the expansions that are going on are such a chain, and all their types
are in the graph: they stand before the new type (`Linked`). They need not stand in the order of the
chain, for an expansion may go through a type that has come into the diagram on another way
(`ancestors_linked_out_of_order`).
-/

namespace ClassDiagram

/-- One type stands before another in a graph, and so do their blocks in its script. -/
def TypeGraph.Before (g : TypeGraph) (u t : Descriptor) : Prop := [u, t].Sublist g.types

/-- A script draws an edge of this kind from one type up to another. -/
def Script.Draws (script : Script) (kind : RelationKind) (u v : Descriptor) : Prop :=
  (Relation.mk kind v.name u.name).line ∈ script.relations

/-- The kind of the edges that a lineage follows. -/
def Lineage.edge : Lineage → RelationKind
  | .superclass => .extension
  | .interface => .implementation

namespace TypeGraph

variable {g g' : TypeGraph} {t u p : Descriptor}

instance : Decidable (g.Before u t) := by unfold Before; infer_instance

instance {script : Script} {kind : RelationKind} : Decidable (script.Draws kind u t) := by
  unfold Script.Draws; infer_instance

theorem Before.mono (h : g.Before u t) (hg : g.types <+: g'.types) : g'.Before u t :=
  h.trans hg.sublist

theorem Before.mem (h : g.Before u t) : u ∈ g.types ∧ t ∈ g.types :=
  ⟨h.subset (by simp), h.subset (by simp)⟩

/-- A new type comes behind all others. -/
theorem before_insert (hu : u ∈ g.types) (hp : p.name ∉ g.names) : (g.insert p).Before u p := by
  rw [Before, types_insert, if_neg hp]
  exact (List.singleton_sublist.mpr hu).append (List.Sublist.refl [p])

end TypeGraph

namespace Collection

variable {source : Source} {s : Settings} {l : Lineage} {w w' : Walk}

/-- A step up between types of a graph. -/
def Inside (source : Source) (s : Settings) (l : Lineage) (g : TypeGraph) (u v : Descriptor) :
    Prop :=
  Parent source s l u v ∧ u ∈ g.types ∧ v ∈ g.types

theorem Inside.mono {g g' : TypeGraph} (hg : g.types <+: g'.types) {u v : Descriptor}
    (h : Inside source s l g u v) : Inside source s l g' u v :=
  ⟨h.1, hg.subset h.2.1, hg.subset h.2.2⟩

/-- A type has been asked for, or ends a chain from such a type, within the depth and through types
that stand before it. -/
def Links (source : Source) (s : Settings) (roots : List String) (g : TypeGraph) (t : Descriptor) :
    Prop :=
  (∃ name ∈ roots, source name = some t) ∨
    ∃ l, ∃ name ∈ roots, ∃ root k, source name = some root ∧ 1 ≤ k ∧ k ≤ s.depth ∧
      Chain (fun u v => Inside source s l g u v ∧ g.Before u t) k root t

section Links

variable {roots : List String} {g g' : TypeGraph} {name : String} {k : Nat}
  {root child p t : Descriptor}

theorem Links.mono (h : Links source s roots g t) (hg : g.types <+: g'.types) :
    Links source s roots g' t := by
  rcases h with hr | ⟨l, n, hn, r, k, hr, hk, hd, hc⟩
  · exact Or.inl hr
  · exact Or.inr ⟨l, n, hn, r, k, hr, hk, hd, hc.mono fun _ _ h => ⟨h.1.mono hg, h.2.mono hg⟩⟩

theorem Links.defines (h : Links source s roots g t) : source.Defines t := by
  rcases h with ⟨name, -, ht⟩ | ⟨l, name, -, root, k, hroot, -, -, hc⟩
  · exact ⟨name, ht⟩
  · exact (hc.mono fun _ _ h => h.1.1).defines ⟨name, hroot⟩

/-- All types of a graph are linked to requested ones. -/
def Linked (source : Source) (s : Settings) (roots : List String) (g : TypeGraph) : Prop :=
  ∀ t ∈ g.types, Links source s roots g t

namespace Linked

/-- A type whose name is in the graph is there itself. -/
theorem mem_insert (hs : source.Unambiguous) (h : Linked source s roots g)
    (hp : source.Defines p) : p ∈ (g.insert p).types := by
  by_cases hn : p.name ∈ g.names
  · obtain ⟨q, hq, hqp⟩ := List.mem_map.mp hn
    rw [← hs q p (h q hq).defines hp hqp]
    exact (g.prefix_insert q).subset hq
  · exact TypeGraph.mem_types_insert.mpr (Or.inr ⟨hn, rfl⟩)

/-- A graph stays linked with a new type that is linked. -/
theorem insert (h : Linked source s roots g)
    (hnew : p.name ∉ g.names → Links source s roots (g.insert p) p) :
    Linked source s roots (g.insert p) := by
  intro t ht
  rcases TypeGraph.mem_types_insert.mp ht with ht | ⟨hn, rfl⟩
  · exact (h t ht).mono (g.prefix_insert p)
  · exact hnew hn

/-- A parent of a type at the end of a chain is linked by that chain. -/
theorem insert_parent (hs : source.Unambiguous) (h : Linked source s roots g)
    (hname : name ∈ roots) (hroot : source name = some root)
    (hk : Chain (Inside source s l g) k root child) (hd : k + 1 ≤ s.depth)
    (hchild : child ∈ g.types) (hp : Parent source s l child p) :
    Linked source s roots (g.insert p) := by
  refine h.insert fun hnew => ?_
  have hg := g.prefix_insert p
  have hbelow := hk.mono fun u v huv =>
    And.intro (huv.mono hg) (TypeGraph.before_insert (p := p) huv.2.1 hnew)
  refine Or.inr ⟨l, name, hname, root, k + 1, hroot, by omega, hd, hbelow.tail ⟨⟨hp, ?_⟩, ?_⟩⟩
  · exact ⟨hg.subset hchild, h.mem_insert hs hp.defines⟩
  · exact TypeGraph.before_insert hchild hnew

end Linked

end Links

theorem Climb.linked {roots names : List String} {name : String} {remaining k : Nat}
    {root child : Descriptor} (h : Climb source s l remaining child names w w')
    (hs : source.Unambiguous) (hname : name ∈ roots) (hroot : source name = some root)
    (hk : Chain (Inside source s l w.graph) k root child) (hd : k + remaining ≤ s.depth)
    (hchild : child ∈ w.graph.types) (hw : Linked source s roots w.graph) :
    Linked source s roots w'.graph := by
  induction h generalizing k with
  | done => exact hw
  | missing _ _ _ ih => exact ih hk hd hchild hw
  | @spared remaining child p _ _ w _ hm hp _ _ ih =>
    have hg := w.graph.prefix_insert p
    have hw₁ := hw.insert_parent hs hname hroot hk (by omega) hchild (parent_iff.mpr ⟨_, hm, hp⟩)
    rw [Walk.graph_note, Walk.graph_reach] at ih
    exact ih (hk.mono fun _ _ h => h.mono hg) hd (hg.subset hchild) hw₁
  | @expanded remaining child p _ _ w w₁ _ hm hp _ hc₁ _ ih₁ ih₂ =>
    have hpar := parent_iff.mpr ⟨_, hm, hp⟩
    have hg := w.graph.prefix_insert p
    have hw₁ := hw.insert_parent hs hname hroot hk (by omega) hchild hpar
    have hpin := hw.mem_insert hs hpar.defines
    have hk₁ := (hk.mono fun _ _ h => h.mono hg).tail ⟨hpar, hg.subset hchild, hpin⟩
    rw [Walk.graph_enter, Walk.graph_reach] at ih₁
    have hg₁ := hc₁.grows.types
    rw [Walk.graph_enter, Walk.graph_reach] at hg₁
    have hg₂ := hg.trans hg₁
    rw [Walk.graph_note] at ih₂
    exact ih₂ (hk.mono fun _ _ h => h.mono hg₂) hd (hg₂.subset hchild)
      (ih₁ hk₁ (by omega) hpin hw₁)

theorem linked_addRoots (hs : source.Unambiguous) (roots : List String) :
    Linked source s roots (addRoots source s roots {}).1.graph := by
  refine addRoots_invariant (P := fun w => Linked source s roots w.graph)
    (fun name hname t w ht hw => ?_) (fun name hname t w l ht hmem hw => ?_) _
    (by simp [Linked, TypeGraph.empty])
  · rw [Walk.graph_request]
    exact hw.insert fun _ => Or.inl ⟨name, hname, ht⟩
  · rcases ascendRoot_cases source s l t w with ⟨-, h⟩ | ⟨-, w₁, hc, h⟩
    · rwa [h]
    · have htin := hw.mem_insert hs ⟨name, ht⟩
      rw [TypeGraph.insert_of_mem hmem] at htin
      rw [h, Walk.graph_note]
      exact hc.linked hs hname ht (.refl t) (by omega) (by rwa [Walk.graph_enter])
        (by rwa [Walk.graph_enter])

end Collection

/-! ### Drawn edges -/

/-- A step up inside of a graph is drawn. Without depth nothing is drawn. -/
theorem Collection.Inside.draws {c : Catalog} {s : Settings} {l : Lineage} {g : TypeGraph}
    {u v : Descriptor} (h : Inside c.resolve s l g u v) (hd : 1 ≤ s.depth) :
    (Script.ofGraph s g).Draws l.edge u v := by
  obtain ⟨hp, hu, hv⟩ := h
  refine RelationSet.mem_lines_ofList.mpr ⟨_, List.mem_flatMap.mpr ⟨u, hu, ?_⟩, rfl⟩
  refine mem_relationsOf.mpr ⟨by omega, ?_⟩
  cases hp with
  | superclass hsup hname hv' =>
    obtain rfl := Catalog.name_of_resolve hv'
    exact .inl (mem_extensionOf.mpr ⟨v.name, hsup, List.mem_map_of_mem hv, hname, rfl⟩)
  | interface hname hv' =>
    obtain rfl := Catalog.name_of_resolve hv'
    exact .inr (.inl (mem_implementationsOf.mpr ⟨v.name, hname, rfl⟩))

/-- **Ancestors are linked.** From each type of a diagram that is not asked for, edges of one kind
lead down to one that is, within the depth and through types that stand before it. -/
theorem ancestors_linked (c : Catalog) (s : Settings) {roots : List String} {script : Script}
    (h : diagram c.resolve s roots = .ok script) :
    ∃ g, Collection.collect c.resolve s roots = .ok g ∧
      script.blocks = g.types.map (Block.ofType s.verbosity) ∧
      ∀ t ∈ g.types, t.name ∉ roots →
        ∃ l, ∃ name ∈ roots, ∃ root k, c.resolve name = some root ∧ 1 ≤ k ∧ k ≤ s.depth ∧
          Chain (fun u v => g.Before u t ∧ script.Draws (Lineage.edge l) u v) k root t := by
  obtain ⟨g, hg, rfl⟩ : ∃ g, Collection.collect c.resolve s roots = .ok g ∧
      Script.ofGraph s g = script := by
    unfold diagram at h
    cases hc : Collection.collect c.resolve s roots with
    | error e => rw [hc] at h; cases h
    | ok g => rw [hc] at h; exact ⟨g, rfl, Except.ok.inj h⟩
  refine ⟨g, hg, rfl, fun t ht hroots => ?_⟩
  have hlinked := Collection.linked_addRoots (s := s) (c.unambiguous_resolve id) roots
  obtain ⟨-, rfl⟩ := Collection.collect_eq_ok_iff.mp hg
  rcases hlinked t ht with ⟨name, hname, ht⟩ | ⟨l, name, hname, root, k, hroot, hk, hd, hc⟩
  · exact absurd (Catalog.name_of_resolve ht ▸ hname) hroots
  · exact ⟨l, name, hname, root, k, hroot, hk, hd,
      hc.mono fun u v huv => ⟨huv.2, huv.1.draws (by omega)⟩⟩

/-! ### The order of a chain -/

/-- `U` comes in by way of `S` and `X`, with no depth left; `T` by way of `P` and `U`. -/
def tangle : Catalog := .ofList
  [{ name := "R", interfaces := ["S", "P"] }, { name := "S", interfaces := ["X"] },
    { name := "X", interfaces := ["U"] }, { name := "P", interfaces := ["U"] },
    { name := "U", interfaces := ["T"] }, { name := "T" }]

theorem ancestors_linked_tangle :
    ∃ g script, Collection.collect tangle.resolve { depth := 3 } ["R"] = .ok g ∧
      diagram tangle.resolve { depth := 3 } ["R"] = .ok script ∧ { name := "T" } ∈ g.types ∧
      ∃ l, ∃ name ∈ ["R"], ∃ root k, tangle.resolve name = some root ∧ 1 ≤ k ∧ k ≤ 3 ∧
        Chain (fun u v => g.Before u { name := "T" } ∧ script.Draws (Lineage.edge l) u v) k root
          { name := "T" } := by
  let g := (Collection.addRoots tangle.resolve { depth := 3 } ["R"] {}).1.graph
  have hscript : diagram tangle.resolve { depth := 3 } ["R"] =
      .ok (Script.ofGraph { depth := 3 } g) := rfl
  obtain ⟨g', hg, -, hlinked⟩ := ancestors_linked tangle { depth := 3 } hscript
  obtain rfl : g = g' := Except.ok.inj hg
  have ht : { name := "T" } ∈ g.types := by decide
  exact ⟨g, _, hg, hscript, ht, hlinked _ ht (by decide)⟩

/-- How far up from `R` a type is by steps to types that stand behind. -/
def tangleHeight (t : Descriptor) : Nat :=
  ([("S", 1), ("P", 1), ("X", 2), ("U", 3), ("T", 4)].lookup t.name).getD 0

/-- **Chains need not keep the order of the types.** Only a chain of four steps leads to `T` through
types each of which stands before the next, and the depth is three. -/
theorem ancestors_linked_out_of_order :
    ∃ g script, Collection.collect tangle.resolve { depth := 3 } ["R"] = .ok g ∧
      diagram tangle.resolve { depth := 3 } ["R"] = .ok script ∧
      script.blocks = g.types.map (Block.ofType .hidden) ∧
      ∃ t ∈ g.types, t.name ∉ ["R"] ∧
        ¬ ∃ l, ∃ name ∈ ["R"], ∃ root k, tangle.resolve name = some root ∧ 1 ≤ k ∧ k ≤ 3 ∧
          Chain (fun u v => g.Before u v ∧ script.Draws (Lineage.edge l) u v) k root t := by
  let g := (Collection.addRoots tangle.resolve { depth := 3 } ["R"] {}).1.graph
  let script := Script.ofGraph { depth := 3 } g
  refine ⟨g, script, rfl, rfl, rfl, { name := "T" }, by decide, by decide, ?_⟩
  rintro ⟨l, name, hname, root, k, hroot, -, hk, hc⟩
  have hall : ∀ kind ∈ [RelationKind.extension, .implementation], ∀ u ∈ g.types, ∀ v ∈ g.types,
      g.Before u v ∧ script.Draws kind u v → tangleHeight v ≤ tangleHeight u + 1 := by
    decide
  have hkind : l.edge ∈ [RelationKind.extension, .implementation] := by cases l <;> decide
  -- each step of an ordered chain gains one at most, and `T` is four above `R`
  have hle := hc.le_add (f := tangleHeight) fun u v h =>
    hall _ hkind u h.1.mem.1 v h.1.mem.2 h
  have hends : tangleHeight root = 0 ∧ tangleHeight { name := "T" } = 4 := by
    obtain rfl : name = "R" := by simpa using hname
    rw [tangleHeight, Catalog.name_of_resolve hroot]
    decide
  omega

end ClassDiagram
