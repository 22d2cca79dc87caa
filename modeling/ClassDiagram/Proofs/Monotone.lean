import ClassDiagram.Diagram
import ClassDiagram.Proofs.Members

/-!
# Asking for More

A request that asks for more, be it depth, requested types or ways past universal roots, loses
nothing of what a smaller one shows: all its blocks and all its edges are there (`diagram_mono`).

The two collections may come to a type in another order and with other depth left, so they cannot be
compared step by step. Both are known by the chains that lead to their types, and a chain of the
smaller request is one of the larger request (`Belongs.mono`). An edge is drawn between types of the
graph, so it is drawn in a larger graph as well (`relationsOf_mono`).
-/

namespace ClassDiagram

/-- `s'` asks for all that `s` asks for; both show the same members of a type. -/
structure Settings.Narrower (s s' : Settings) : Prop where
  depth : s.depth ≤ s'.depth
  verbosity : s'.verbosity = s.verbosity
  universalRoots : s'.universalRoots ⊆ s.universalRoots

variable {source : Source} {s s' : Settings} {roots roots' : List String}

/-! ### More types -/

theorem Parent.mono {l : Lineage} {t p : Descriptor} (hs : s.Narrower s')
    (h : Parent source s l t p) : Parent source s' l t p := by
  cases h with
  | superclass hsup hname hp =>
    exact .superclass hsup (fun hmem => hname (hs.universalRoots hmem)) hp
  | interface hname hp => exact .interface hname hp

theorem Collection.Belongs.mono {t : Descriptor} (hs : s.Narrower s') (hroots : roots ⊆ roots')
    (h : Belongs source s roots t) : Belongs source s' roots' t := by
  obtain ⟨name, hname, root, hroot, l, k, hk, hc⟩ := h
  have hc' : Chain (Parent source s' l) k root t := hc.mono fun _ _ hp => hp.mono hs
  exact ⟨name, hroots hname, root, hroot, l, k, Nat.le_trans hk hs.depth, hc'⟩

/-- A collection that asks for more succeeds only if the smaller one does, and has its types. -/
theorem Collection.collect_mono (hsource : source.Unambiguous) {g' : TypeGraph}
    (hs : s.Narrower s') (hroots : roots ⊆ roots') (h : collect source s' roots' = .ok g') :
    ∃ g, collect source s roots = .ok g ∧ g.types ⊆ g'.types := by
  obtain ⟨hall', rfl⟩ := collect_eq_ok_iff.mp h
  have hall : ∀ name ∈ roots, (source name).isSome := fun name hname => hall' name (hroots hname)
  refine ⟨_, collect_eq_ok_iff.mpr ⟨hall, rfl⟩, fun t ht => ?_⟩
  have hbelongs : Belongs source s roots t := (mem_types_iff_belongs hsource hall).mp ht
  exact (mem_types_iff_belongs hsource hall').mpr (hbelongs.mono hs hroots)

/-! ### More edges -/

theorem TypeGraph.names_subset {g g' : TypeGraph} (h : g.types ⊆ g'.types) : g.names ⊆ g'.names :=
  List.map_subset _ h

theorem relationsOf_mono {g g' : TypeGraph} (hs : s.Narrower s') (hg : g.types ⊆ g'.types)
    (t : Descriptor) : relationsOf s g t ⊆ relationsOf s' g' t := by
  intro r hr
  have hnames := TypeGraph.names_subset hg
  rw [mem_relationsOf] at hr ⊢
  obtain ⟨hd, hr⟩ := hr
  have hd' : s'.depth ≠ 0 := by
    have := hs.depth
    omega
  refine ⟨hd', ?_⟩
  rcases hr with hr | hr | hr
  · left
    obtain ⟨p, hsup, hp, hroot, rfl⟩ := mem_extensionOf.mp hr
    have hroot' : p ∉ s'.universalRoots := fun hmem => hroot (hs.universalRoots hmem)
    exact mem_extensionOf.mpr ⟨p, hsup, hnames hp, hroot', rfl⟩
  · right; left
    exact hr
  · right; right
    obtain ⟨f, hf, hmem, hne, rfl⟩ := mem_compositionsOf.mp hr
    exact mem_compositionsOf.mpr ⟨f, hf, hnames hmem, hne, rfl⟩

/-- The script of a larger graph has the blocks and the lines of the smaller one. -/
theorem Script.ofGraph_mono {g g' : TypeGraph} (hs : s.Narrower s') (hg : g.types ⊆ g'.types) :
    (ofGraph s g).blocks ⊆ (ofGraph s' g').blocks ∧
      (ofGraph s g).relations ⊆ (ofGraph s' g').relations := by
  constructor
  · intro b hb
    obtain ⟨t, ht, rfl⟩ := List.mem_map.mp hb
    rw [← hs.verbosity]
    exact List.mem_map_of_mem (hg ht)
  · intro line hline
    obtain ⟨r, hr, rfl⟩ := RelationSet.mem_lines_ofList.mp hline
    obtain ⟨t, ht, hrt⟩ := List.mem_flatMap.mp hr
    refine RelationSet.mem_lines_ofList.mpr ⟨r, ?_, rfl⟩
    exact List.mem_flatMap.mpr ⟨t, hg ht, relationsOf_mono hs hg t hrt⟩

/-! ### More of a diagram -/

/-- **Diagrams are monotone.** Where a request succeeds that asks for more, the smaller one
succeeds, and its blocks and its relation lines are all in the larger script. -/
theorem diagram_mono (c : Catalog) {script' : Script} (hs : s.Narrower s')
    (hroots : roots ⊆ roots') (h : diagram c.resolve s' roots' = .ok script') :
    ∃ script, diagram c.resolve s roots = .ok script ∧
      script.blocks ⊆ script'.blocks ∧ script.relations ⊆ script'.relations := by
  obtain ⟨g', hg', rfl⟩ := diagram_eq_ok_iff.mp h
  obtain ⟨g, hg, hsub⟩ :=
    Collection.collect_mono (c.unambiguous_resolve id) hs hroots hg'
  exact ⟨_, diagram_eq_ok_iff.mpr ⟨g, hg, rfl⟩, Script.ofGraph_mono hs hsub⟩

/-- From `Ship` the walk comes to `Deck` on a long way, with no depth left for `Plank`. -/
def shipyard : Catalog := .ofList
  [{ name := "Ship", superclass := some "Base", interfaces := ["Float"] },
    { name := "Base", superclass := some "Hull" }, { name := "Float", interfaces := ["Raft"] },
    { name := "Raft", interfaces := ["Float", "Deck"] },
    { name := "Deck", interfaces := ["Plank"] }, { name := "Plank" },
    { name := "Hull", superclass := some "Ship", interfaces := ["Deck"]
      fields := [{ name := "top", typeName := "Deck" }] }]

theorem diagram_mono_shipyard :
    ∃ script', diagram shipyard.resolve { depth := 3, universalRoots := [] }
        ["Ship", "Hull", "Ship"] = .ok script' ∧
      ∃ script, diagram shipyard.resolve { depth := 2, universalRoots := ["Base"] } ["Hull"] =
          .ok script ∧
        script.blocks ⊆ script'.blocks ∧ script.relations ⊆ script'.relations ∧
        ["Deck *-- Hull", "Plank <|.. Deck"] ⊆ script.relations := by
  have hs : Settings.Narrower { depth := 2, universalRoots := ["Base"] }
      { depth := 3, universalRoots := [] } := ⟨by decide, rfl, List.nil_subset _⟩
  have hroots : ["Hull"] ⊆ ["Ship", "Hull", "Ship"] := by decide
  obtain ⟨script, hsmall, hblocks, hrelations⟩ := diagram_mono shipyard hs hroots rfl
  refine ⟨_, rfl, script, hsmall, hblocks, hrelations, ?_⟩
  obtain rfl := Except.ok.inj hsmall
  decide

end ClassDiagram
