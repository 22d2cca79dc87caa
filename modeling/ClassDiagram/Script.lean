import ClassDiagram.Relation
import ClassDiagram.Settings
import ClassDiagram.TypeGraph

/-!
# Diagram Scripts

A script has one `Block` per type and, behind all blocks, one line per relation. `Script.lines` is
its list of lines and `Script.text` what is printed. A block depends on the verbosity alone
(`Block.ofType`), the relations on depth and universal roots alone (`relationsOf`).
-/

namespace ClassDiagram

/-! ### Members -/

/-- The modifiers that have a glyph, the strongest first. -/
def glyphRules : List (Modifier × String) :=
  [(.privateAccess, "-"), (.protectedAccess, "#"), (.publicAccess, "+"),
    (.abstract, "\x7babstract\x7d"), (.static, "\x7bstatic\x7d")]

/-- The glyph in front of a member: that of its strongest modifier, or none. -/
def glyph (modifiers : List Modifier) : String :=
  ((glyphRules.find? fun rule => modifiers.contains rule.1).map (·.2)).getD ""

/-- Leaves out every array marker `[L`, in one pass from the left. -/
def dropArrayMarkers : List Char → List Char
  | '[' :: 'L' :: cs => dropArrayMarkers cs
  | c :: cs => c :: dropArrayMarkers cs
  | [] => []

/-- Leaving out array markers brings nothing in and keeps the order. -/
theorem dropArrayMarkers_sublist (cs : List Char) : (dropArrayMarkers cs).Sublist cs := by
  fun_induction dropArrayMarkers cs with
  | case1 cs ih => exact (ih.cons 'L').cons '['
  | case2 c cs _ ih => exact ih.cons_cons c
  | case3 => exact List.Sublist.slnil

/-- A type name as a member line shows it. -/
def displayName (typeName : String) : String :=
  String.ofList (dropArrayMarkers typeName.toList)

theorem toList_displayName (typeName : String) :
    (displayName typeName).toList = dropArrayMarkers typeName.toList := by
  rw [displayName, String.toList_ofList]

/-- The line of a field. -/
def Field.line (f : Field) : String :=
  "\t" ++ glyph f.modifiers ++ f.name ++ " " ++ displayName f.typeName

/-- The line of a method. -/
def Method.line (m : Method) : String :=
  "\t" ++ glyph m.modifiers ++ m.name ++ "(" ++
    ", ".intercalate (m.parameters.map displayName) ++ ")"

/-- The members that a limit shows, the first ones. -/
def MemberLimit.shown {α : Type} (limit : MemberLimit) (members : List α) : List α :=
  members.take (limit.clamp members.length)

/-! ### Blocks -/

/-- The declaration of one type. -/
structure Block where
  header : String
  fields : List String
  methods : List String
deriving DecidableEq

namespace Block

/-- The declaration of a type at a verbosity. -/
def ofType (verbosity : Verbosity) (t : Descriptor) : Block where
  header := t.kind.keyword ++ " " ++ t.name ++ " \x7b"
  fields := (verbosity.memberLimit.shown t.fields).map Field.line
  methods := (verbosity.memberLimit.shown t.methods).map Method.line

/-- The lines of a declaration. -/
def lines (b : Block) : List String := b.header :: b.fields ++ b.methods ++ ["\x7d"]

end Block

/-! ### Relations -/

/-- The edge to the superclass, drawn when it is in the diagram and no universal root. -/
def extensionOf (s : Settings) (g : TypeGraph) (t : Descriptor) : List Relation :=
  match t.superclass with
  | some p => if g.contains p && !s.isUniversalRoot p then [⟨.extension, p, t.name⟩] else []
  | none => []

/-- The edges to the direct interfaces, whether they are in the diagram or not. -/
def implementationsOf (t : Descriptor) : List Relation :=
  t.interfaces.map fun i => ⟨.implementation, i, t.name⟩

/-- The edges to the types of the declared fields, shown or not, that are in the diagram. -/
def compositionsOf (g : TypeGraph) (t : Descriptor) : List Relation :=
  (t.fields.filter fun f => f.typeName ≠ t.name && g.contains f.typeName).map
    fun f => ⟨.composition, f.typeName, t.name⟩

/-- The edges that start from one type. Without depth there are none. -/
def relationsOf (s : Settings) (g : TypeGraph) (t : Descriptor) : List Relation :=
  if s.depth = 0 then []
  else extensionOf s g t ++ implementationsOf t ++ compositionsOf g t

/-! ### What is drawn -/

theorem mem_extensionOf {s : Settings} {g : TypeGraph} {t : Descriptor} {r : Relation} :
    r ∈ extensionOf s g t ↔
      ∃ p, t.superclass = some p ∧ p ∈ g.names ∧ p ∉ s.universalRoots ∧
        r = ⟨.extension, p, t.name⟩ := by
  unfold extensionOf
  split
  · next p hp =>
    rw [hp]
    simp [← TypeGraph.contains_iff, Settings.isUniversalRoot, and_assoc]
  · next hp => simp [hp]

theorem mem_implementationsOf {t : Descriptor} {r : Relation} :
    r ∈ implementationsOf t ↔ ∃ i ∈ t.interfaces, r = ⟨.implementation, i, t.name⟩ := by
  simp [implementationsOf, eq_comm]

theorem mem_compositionsOf {g : TypeGraph} {t : Descriptor} {r : Relation} :
    r ∈ compositionsOf g t ↔
      ∃ f ∈ t.fields, f.typeName ∈ g.names ∧ f.typeName ≠ t.name ∧
        r = ⟨.composition, f.typeName, t.name⟩ := by
  simp only [compositionsOf, List.mem_map, List.mem_filter, Bool.and_eq_true, decide_eq_true_eq,
    TypeGraph.contains_iff]
  constructor
  · rintro ⟨f, ⟨hf, hne, hg⟩, rfl⟩
    exact ⟨f, hf, hg, hne, rfl⟩
  · rintro ⟨f, hf, hg, hne, rfl⟩
    exact ⟨f, ⟨hf, hne, hg⟩, rfl⟩

theorem mem_relationsOf {s : Settings} {g : TypeGraph} {t : Descriptor} {r : Relation} :
    r ∈ relationsOf s g t ↔
      s.depth ≠ 0 ∧
        (r ∈ extensionOf s g t ∨ r ∈ implementationsOf t ∨ r ∈ compositionsOf g t) := by
  unfold relationsOf
  split
  · next h => simp [h]
  · next h => simp [h, List.mem_append]

/-! ### Scripts -/

/-- A diagram, ready to be printed. -/
structure Script where
  blocks : List Block
  relations : List String
deriving DecidableEq

namespace Script

/-- The diagram of a graph of types. -/
def ofGraph (s : Settings) (g : TypeGraph) : Script where
  blocks := g.types.map (Block.ofType s.verbosity)
  relations := (RelationSet.ofList (g.types.flatMap (relationsOf s g))).lines

/-- The lines of a script. -/
def lines (s : Script) : List String :=
  "@startuml" :: s.blocks.flatMap Block.lines ++ s.relations ++ ["@enduml"]

/-- The printed form: every line ends with a newline. -/
def text (s : Script) : String := String.join (s.lines.map (· ++ "\n"))

end Script

end ClassDiagram
