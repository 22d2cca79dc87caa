import ClassDiagram.Proofs.FirstOccurrences
import ClassDiagram.Script

/-!
# The Edges of a Script

Behind the blocks a script has the lines of its edges. `linesOf` says which lines one type brings,
in words of the descriptor and the graph; the script has those of all types, in the order of the
graph, each line at its first occurrence only, and none without depth (`relations_exact`).

A line is a text, so different edges can have the same line, and then it is drawn for the first of
them. What is said of the ends of edges is therefore said of every edge that is inserted
(`Relation.WellDrawn`), and every line is that of such an edge.
-/

namespace ClassDiagram

variable {s : Settings} {g : TypeGraph} {t : Descriptor}

/-! ### First occurrences -/

/-- Insertion keeps the first occurrence of each line. -/
theorem RelationSet.lines_ofList (rs : List Relation) :
    (ofList rs).lines = (rs.map Relation.line).eraseDups := by
  induction rs using List.reverseRecOn with
  | nil => rfl
  | append_singleton rs r ih =>
    have hstep : ofList (rs ++ [r]) = (ofList rs).insert r := by
      rw [ofList, List.foldl_append]
      rfl
    rw [hstep, lines_insert, ih, List.map_append, List.map_singleton, eraseDups_concat]
    simp only [List.mem_eraseDups]

/-! ### The lines of one type -/

/-- The lines that a type brings: one for its superclass if that is in the graph and no universal
root, one for each direct interface, and one for each field whose type is another type of the
graph. -/
def linesOf (s : Settings) (g : TypeGraph) (t : Descriptor) : List String :=
  ((t.superclass.toList.filter fun p => p ∈ g.names ∧ p ∉ s.universalRoots).map
      fun p => p ++ " <|-- " ++ t.name) ++
    (t.interfaces.map fun i => i ++ " <|.. " ++ t.name) ++
    (((t.fields.map (·.typeName)).filter fun f => f ∈ g.names ∧ f ≠ t.name).map
      fun f => f ++ " *-- " ++ t.name)

theorem Relation.line_eq_append (r : Relation) {arrow : String}
    (h : " " ++ r.kind.arrow ++ " " = arrow) : r.line = r.head ++ arrow ++ r.tail := by
  rw [line, ← h]
  simp only [String.append_assoc]

theorem map_line_extensionOf :
    (extensionOf s g t).map Relation.line =
      (t.superclass.toList.filter fun p => p ∈ g.names ∧ p ∉ s.universalRoots).map
        fun p => p ++ " <|-- " ++ t.name := by
  unfold extensionOf
  cases t.superclass with
  | none => rfl
  | some p =>
    by_cases hp : p ∈ g.names ∧ p ∉ s.universalRoots
    · have hdrawn : (g.contains p && !s.isUniversalRoot p) = true := by
        simpa [TypeGraph.contains_iff, Settings.isUniversalRoot] using hp
      have hline : (Relation.mk .extension p t.name).line = p ++ " <|-- " ++ t.name :=
        Relation.line_eq_append _ rfl
      simp [hdrawn, hp, hline]
    · have hdrawn : ¬ (g.contains p && !s.isUniversalRoot p) = true := by
        simpa [TypeGraph.contains_iff, Settings.isUniversalRoot] using hp
      simp [hdrawn, hp]

theorem map_line_implementationsOf :
    (implementationsOf t).map Relation.line =
      t.interfaces.map fun i => i ++ " <|.. " ++ t.name := by
  rw [implementationsOf, List.map_map]
  exact List.map_congr_left fun i _ => Relation.line_eq_append ⟨.implementation, i, t.name⟩ rfl

theorem map_line_compositionsOf :
    (compositionsOf g t).map Relation.line =
      ((t.fields.map (·.typeName)).filter fun f => f ∈ g.names ∧ f ≠ t.name).map
        fun f => f ++ " *-- " ++ t.name := by
  have hdrawn : ∀ f : Field, (f.typeName ≠ t.name && g.contains f.typeName) =
      decide (f.typeName ∈ g.names ∧ f.typeName ≠ t.name) := by
    intro f
    rw [Bool.eq_iff_iff]
    simp [TypeGraph.contains_iff, and_comm]
  rw [compositionsOf, List.map_map, List.filter_map, List.map_map,
    List.filter_congr fun f _ => hdrawn f]
  exact List.map_congr_left fun f _ =>
    Relation.line_eq_append ⟨.composition, f.typeName, t.name⟩ rfl

theorem map_line_relationsOf (hd : s.depth ≠ 0) :
    (relationsOf s g t).map Relation.line = linesOf s g t := by
  rw [relationsOf, if_neg hd, List.map_append, List.map_append, map_line_extensionOf,
    map_line_implementationsOf, map_line_compositionsOf, linesOf]

/-! ### The ends of edges -/

/-- Both ends of an edge are declared, that of an interface apart; no edge leads up to a universal
root, and no type holds itself. -/
structure Relation.WellDrawn (s : Settings) (g : TypeGraph) (r : Relation) : Prop where
  tail : r.tail ∈ g.names
  head : r.kind ≠ .implementation → r.head ∈ g.names
  not_universal : r.kind = .extension → r.head ∉ s.universalRoots
  not_self : r.kind = .composition → r.head ≠ r.tail

theorem wellDrawn_of_mem {r : Relation} (ht : t ∈ g.types) (hr : r ∈ relationsOf s g t) :
    r.WellDrawn s g := by
  have htail : t.name ∈ g.names := List.mem_map_of_mem ht
  rcases (mem_relationsOf.mp hr).2 with hr | hr | hr
  · obtain ⟨p, -, hp, hroot, rfl⟩ := mem_extensionOf.mp hr
    exact ⟨htail, fun _ => hp, fun _ => hroot, nofun⟩
  · obtain ⟨i, -, rfl⟩ := mem_implementationsOf.mp hr
    exact ⟨htail, fun hkind => absurd rfl hkind, nofun, nofun⟩
  · obtain ⟨f, -, hf, hne, rfl⟩ := mem_compositionsOf.mp hr
    exact ⟨htail, fun _ => hf, nofun, fun _ => hne⟩

/-! ### The section -/

theorem relations_ofGraph :
    (Script.ofGraph s g).relations =
      if s.depth = 0 then [] else (g.types.flatMap (linesOf s g)).eraseDups := by
  rw [Script.ofGraph, RelationSet.lines_ofList, List.map_flatMap]
  split
  · next hd =>
    have hnone : ∀ t, (relationsOf s g t).map Relation.line = [] := by
      intro t
      rw [relationsOf, if_pos hd, List.map_nil]
    have hall : g.types.flatMap (fun t => (relationsOf s g t).map Relation.line) = [] :=
      List.flatMap_eq_nil_iff.mpr fun t _ => hnone t
    rw [hall, List.eraseDups_nil]
  · next hd => simp only [map_line_relationsOf hd]

/-- **The edges of a script.** Between the last block and the end stand the lines of all types in
the order of the graph, each at its first occurrence, and none without depth. All of them are lines
of edges that are well drawn, and no line is there twice. -/
theorem relations_exact (s : Settings) (g : TypeGraph) :
    (Script.ofGraph s g).text =
        String.join ((["@startuml"] ++
          g.types.flatMap (fun t => (Block.ofType s.verbosity t).lines) ++
          (Script.ofGraph s g).relations ++ ["@enduml"]).map (· ++ "\n")) ∧
      (Script.ofGraph s g).relations =
        (if s.depth = 0 then [] else (g.types.flatMap (linesOf s g)).eraseDups) ∧
      (Script.ofGraph s g).relations.Nodup ∧
      (∀ line ∈ (Script.ofGraph s g).relations,
        ∃ r ∈ g.types.flatMap (relationsOf s g), r.line = line) ∧
      ∀ r ∈ g.types.flatMap (relationsOf s g), r.WellDrawn s g := by
  refine ⟨?_, relations_ofGraph, RelationSet.lines_nodup _, ?_, ?_⟩
  · have hblocks : (Script.ofGraph s g).blocks.flatMap Block.lines =
        g.types.flatMap fun t => (Block.ofType s.verbosity t).lines :=
      List.flatMap_map _ _ _
    rw [Script.text, Script.lines, hblocks]
    rfl
  · intro line hline
    exact RelationSet.mem_lines_ofList.mp hline
  · intro r hr
    obtain ⟨t, ht, hrt⟩ := List.mem_flatMap.mp hr
    exact wellDrawn_of_mem ht hrt

end ClassDiagram
