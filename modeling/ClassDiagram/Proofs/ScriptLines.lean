import ClassDiagram.Proofs.Edges
import Mathlib.Algebra.GroupWithZero.Nat

/-!
# The Lines of a Script

`scriptLines` says line by line what the script of a graph is, in words of the descriptors and the
settings alone: for each type its header, one line for each member that the verbosity shows
(`Verbosity.shown`) and a brace, and behind all types the lines of the edges.

The printed text is one string, and names are put into it as they are. As long as no name goes over
the end of a line (`Descriptor.OneLine`), no piece that is made of names does, so the text falls
apart at its newlines into just these lines (`split_text`).
-/

namespace ClassDiagram

variable {s : Settings} {g : TypeGraph} {t : Descriptor} {a b w : String}

/-! ### What is printed -/

/-- The number of members of each sort that a type shows of those that it declares. -/
def Verbosity.shown : Verbosity → Nat → Nat
  | .hidden, _ => 0
  | .summary, declared => min 5 declared
  | .full, declared => declared

/-- The lines that declare a type. Those of its members begin with a tab. -/
def Descriptor.lines (v : Verbosity) (t : Descriptor) : List String :=
  [t.kind.keyword ++ " " ++ t.name ++ " \x7b"] ++
    (t.fields.take (v.shown t.fields.length)).map (fun f =>
      "\t" ++ (glyph f.modifiers ++ f.name ++ " " ++ displayName f.typeName)) ++
    (t.methods.take (v.shown t.methods.length)).map (fun m =>
      "\t" ++ (glyph m.modifiers ++ m.name ++ "(" ++
        ", ".intercalate (m.parameters.map displayName) ++ ")")) ++
    ["\x7d"]

/-- The lines of the edges between types, without repetition. -/
def edgeLines (s : Settings) (g : TypeGraph) : List String :=
  if s.depth = 0 then [] else (g.types.flatMap (linesOf s g)).eraseDups

/-- The lines of the script of a graph. -/
def scriptLines (s : Settings) (g : TypeGraph) : List String :=
  ["@startuml"] ++ g.types.flatMap (Descriptor.lines s.verbosity) ++ edgeLines s g ++ ["@enduml"]

theorem clamp_memberLimit (v : Verbosity) (n : Nat) : v.memberLimit.clamp n = v.shown n := by
  cases v with
  | hidden => rfl
  | summary => exact Nat.min_comm n 5
  | full => rfl

theorem shown_le (v : Verbosity) (n : Nat) : v.shown n ≤ n := by
  cases v with
  | hidden => exact Nat.zero_le n
  | summary => exact Nat.min_le_right 5 n
  | full => exact Nat.le_refl n

theorem lines_ofType (v : Verbosity) (t : Descriptor) :
    (Block.ofType v t).lines = t.lines v := by
  have hfield : Field.line = fun f =>
      "\t" ++ (glyph f.modifiers ++ f.name ++ " " ++ displayName f.typeName) := by
    funext f
    simp only [Field.line, String.append_assoc]
  have hmethod : Method.line = fun m =>
      "\t" ++ (glyph m.modifiers ++ m.name ++ "(" ++
        ", ".intercalate (m.parameters.map displayName) ++ ")") := by
    funext m
    simp only [Method.line, String.append_assoc]
  rw [Block.ofType, Block.lines, MemberLimit.shown, MemberLimit.shown, clamp_memberLimit,
    clamp_memberLimit, hfield, hmethod]
  rfl

/-- The script of a graph has the lines that the descriptors and the settings say. -/
theorem lines_ofGraph (s : Settings) (g : TypeGraph) :
    (Script.ofGraph s g).lines = scriptLines s g := by
  have hblocks : (Script.ofGraph s g).blocks.flatMap Block.lines =
      g.types.flatMap (Descriptor.lines s.verbosity) := by
    rw [Script.ofGraph, List.flatMap_map]
    exact congrArg (List.flatMap · g.types) (funext (lines_ofType s.verbosity))
  rw [Script.lines, hblocks, relations_ofGraph]
  rfl

theorem length_lines (v : Verbosity) (t : Descriptor) :
    (t.lines v).length = 2 + v.shown t.fields.length + v.shown t.methods.length := by
  have hfields := Nat.min_eq_left (shown_le v t.fields.length)
  have hmethods := Nat.min_eq_left (shown_le v t.methods.length)
  simp only [Descriptor.lines, List.length_append, List.length_map, List.length_take,
    List.length_singleton, hfields, hmethods]
  omega

/-! ### Pieces of lines -/

/-- A text without a newline. -/
def OneLine (w : String) : Prop := '\n' ∉ w.toList

instance (w : String) : Decidable (OneLine w) := inferInstanceAs (Decidable (¬ _))

theorem OneLine.append (ha : OneLine a) (hb : OneLine b) : OneLine (a ++ b) := by
  intro h
  rw [String.toList_append] at h
  exact (List.mem_append.mp h).elim ha hb

theorem OneLine.intercalate {ws : List String} (hw : OneLine w) (h : ∀ a ∈ ws, OneLine a) :
    OneLine (w.intercalate ws) := by
  induction ws with
  | nil =>
    rw [String.intercalate_nil]
    decide
  | cons a ws ih =>
    obtain ⟨ha, hws⟩ := List.forall_mem_cons.mp h
    by_cases hnil : ws = []
    · rw [hnil, String.intercalate_singleton]
      exact ha
    · rw [String.intercalate_cons_of_ne_nil hnil]
      exact (ha.append hw).append (ih hws)

theorem OneLine.displayName (h : OneLine w) : OneLine (displayName w) := by
  intro hmem
  rw [toList_displayName] at hmem
  exact h ((dropArrayMarkers_sublist _).subset hmem)

theorem oneLine_glyph (ms : List Modifier) : OneLine (glyph ms) := by
  have hrules : ∀ rule ∈ glyphRules, OneLine rule.2 := by decide
  unfold glyph
  cases hfind : glyphRules.find? fun rule => ms.contains rule.1 with
  | none => decide
  | some rule => exact hrules rule (List.mem_of_find?_eq_some hfind)

/-! ### Whole lines -/

/-- A line with something in it, and nothing but a line. -/
structure FullLine (w : String) : Prop where
  ne_empty : w ≠ ""
  oneLine : OneLine w

theorem FullLine.append_right (ha : FullLine a) (hb : OneLine b) : FullLine (a ++ b) where
  ne_empty h := ha.ne_empty (String.append_eq_empty_iff.mp h).1
  oneLine := ha.oneLine.append hb

theorem FullLine.append_left (ha : OneLine a) (hb : FullLine b) : FullLine (a ++ b) where
  ne_empty h := hb.ne_empty (String.append_eq_empty_iff.mp h).2
  oneLine := ha.append hb.oneLine

/-- No name in the descriptor goes over the end of a line. -/
structure Descriptor.OneLine (t : Descriptor) : Prop where
  name : ClassDiagram.OneLine t.name
  superclass : ∀ p ∈ t.superclass, ClassDiagram.OneLine p
  interfaces : ∀ i ∈ t.interfaces, ClassDiagram.OneLine i
  fields : ∀ f ∈ t.fields, ClassDiagram.OneLine f.name ∧ ClassDiagram.OneLine f.typeName
  methods : ∀ m ∈ t.methods,
    ClassDiagram.OneLine m.name ∧ ∀ p ∈ m.parameters, ClassDiagram.OneLine p

theorem Descriptor.OneLine.fullLine_lines (ht : t.OneLine) (v : Verbosity) :
    ∀ line ∈ t.lines v, FullLine line := by
  have htab : FullLine "\t" := ⟨by decide, by decide⟩
  have hspace : ClassDiagram.OneLine " " := by decide
  intro line hline
  rcases List.mem_append.mp hline with hline | hline
  · rcases List.mem_append.mp hline with hline | hline
    · rcases List.mem_append.mp hline with hline | hline
      · have hkeyword : FullLine t.kind.keyword := by
          cases t.kind <;> exact ⟨by decide, by decide⟩
        rw [List.mem_singleton.mp hline]
        exact ((hkeyword.append_right hspace).append_right ht.name).append_right (by decide)
      · obtain ⟨f, hf, rfl⟩ := List.mem_map.mp hline
        obtain ⟨hname, htype⟩ := ht.fields f (List.mem_of_mem_take hf)
        have hfront := ((oneLine_glyph f.modifiers).append hname).append hspace
        exact htab.append_right (hfront.append htype.displayName)
    · obtain ⟨m, hm, rfl⟩ := List.mem_map.mp hline
      obtain ⟨hname, hparameters⟩ := ht.methods m (List.mem_of_mem_take hm)
      have hshown : ∀ w ∈ m.parameters.map displayName, ClassDiagram.OneLine w := by
        intro w hw
        obtain ⟨p, hp, rfl⟩ := List.mem_map.mp hw
        exact (hparameters p hp).displayName
      have hfront := ((oneLine_glyph m.modifiers).append hname).append (b := "(") (by decide)
      have hlist := OneLine.intercalate (w := ", ") (by decide) hshown
      exact htab.append_right ((hfront.append hlist).append (by decide))
  · rw [List.mem_singleton.mp hline]
    exact ⟨by decide, by decide⟩

theorem Descriptor.OneLine.fullLine_linesOf (ht : t.OneLine) :
    ∀ line ∈ linesOf s g t, FullLine line := by
  have hedge : ∀ {head arrow}, ClassDiagram.OneLine head → FullLine arrow →
      FullLine (head ++ arrow ++ t.name) :=
    fun hhead harrow => (FullLine.append_left hhead harrow).append_right ht.name
  intro line hline
  rcases List.mem_append.mp hline with hline | hline
  · rcases List.mem_append.mp hline with hline | hline
    · obtain ⟨p, hp, rfl⟩ := List.mem_map.mp hline
      have hsuper := ht.superclass p (Option.mem_toList.mp (List.mem_filter.mp hp).1)
      exact hedge hsuper ⟨by decide, by decide⟩
    · obtain ⟨i, hi, rfl⟩ := List.mem_map.mp hline
      exact hedge (ht.interfaces i hi) ⟨by decide, by decide⟩
  · obtain ⟨w, hw, rfl⟩ := List.mem_map.mp hline
    obtain ⟨f, hf, rfl⟩ := List.mem_map.mp (List.mem_filter.mp hw).1
    exact hedge (ht.fields f hf).2 ⟨by decide, by decide⟩

theorem fullLine_scriptLines (h : ∀ t ∈ g.types, t.OneLine) :
    ∀ line ∈ scriptLines s g, FullLine line := by
  intro line hline
  rcases List.mem_append.mp hline with hline | hline
  · rcases List.mem_append.mp hline with hline | hline
    · rcases List.mem_append.mp hline with hline | hline
      · rw [List.mem_singleton.mp hline]
        exact ⟨by decide, by decide⟩
      · obtain ⟨t, ht, hmem⟩ := List.mem_flatMap.mp hline
        exact (h t ht).fullLine_lines s.verbosity line hmem
    · unfold edgeLines at hline
      split at hline
      · cases hline
      · obtain ⟨t, ht, hmem⟩ := List.mem_flatMap.mp (List.mem_eraseDups.mp hline)
        exact (h t ht).fullLine_linesOf line hmem
  · rw [List.mem_singleton.mp hline]
    exact ⟨by decide, by decide⟩

/-! ### Splitting -/

/-- Lines that end with a newline each are lines between newlines, and one more newline. -/
theorem join_newlines {lines : List String} (h : lines ≠ []) :
    String.join (lines.map (· ++ "\n")) = "\n".intercalate lines ++ "\n" := by
  induction lines with
  | nil => exact absurd rfl h
  | cons line lines ih =>
    rw [List.map_cons, String.join_cons]
    by_cases hnil : lines = []
    · rw [hnil, String.intercalate_singleton]
      exact String.append_empty
    · rw [ih hnil, String.intercalate_cons_of_ne_nil hnil, ← String.append_assoc]

/-- **The lines of a script.** If no name goes over the end of a line, the printed text ends with a
newline, and what is in front of it falls apart at the newlines into the lines of the script. None
of them is empty, and there are as many as markers, headers, braces, shown members and edges. -/
theorem split_text (s : Settings) {g : TypeGraph} (h : ∀ t ∈ g.types, t.OneLine) :
    (∃ body, (Script.ofGraph s g).text = body ++ "\n" ∧
      (body.split '\n').toList.map (·.copy) = scriptLines s g) ∧
    (∀ line ∈ scriptLines s g, line ≠ "") ∧
    (scriptLines s g).length =
      2 + (g.types.map fun t =>
        2 + s.verbosity.shown t.fields.length + s.verbosity.shown t.methods.length).sum +
        (edgeLines s g).length := by
  have hfull := fullLine_scriptLines (s := s) h
  have hne : scriptLines s g ≠ [] := by simp [scriptLines]
  refine ⟨⟨"\n".intercalate (scriptLines s g), ?_, ?_⟩, fun line hl => (hfull line hl).ne_empty, ?_⟩
  · rw [Script.text, lines_ofGraph, join_newlines hne]
  · have hsplit :=
      String.toList_split_intercalate (c := '\n') fun line hl => (hfull line hl).oneLine
    rwa [if_neg hne] at hsplit
  · simp only [scriptLines, List.length_append, List.length_singleton, List.length_flatMap,
      length_lines]
    omega

/-- A class with more members than a summary shows, one of them an array, and all sorts of edges. -/
def bench : Descriptor where
  name := "Bench"
  superclass := some "Tool"
  interfaces := ["Flat"]
  fields := [{ name := "vise", typeName := "Tool", modifiers := [.privateAccess] },
    { name := "rows", typeName := "[LTool;" }, { name := "a", typeName := "int" },
    { name := "b", typeName := "int" }, { name := "c", typeName := "int" },
    { name := "d", typeName := "Tool" }]
  methods := [{ name := "clamp", parameters := ["int", "[LTool;"] }]

/-- The class and the type that it extends and holds. -/
def workshop : TypeGraph :=
  (TypeGraph.empty.insert bench).insert { name := "Tool", kind := .interfaceType }

theorem split_text_workshop :
    (∀ t ∈ workshop.types, t.OneLine) ∧
      (∃ body, (Script.ofGraph { verbosity := .summary } workshop).text = body ++ "\n" ∧
        (body.split '\n').toList.map (·.copy) =
          ["@startuml", "class Bench \x7b", "\t-vise Tool", "\trows Tool;", "\ta int", "\tb int",
            "\tc int", "\tclamp(int, Tool;)", "\x7d", "interface Tool \x7b", "\x7d",
            "Tool <|-- Bench", "Flat <|.. Bench", "Tool *-- Bench", "@enduml"]) ∧
      (scriptLines { verbosity := .summary } workshop).length =
        2 + ((2 + 5 + 1) + (2 + 0 + 0)) + 3 := by
  have hbench : bench.OneLine := ⟨by decide, by decide, by decide, by decide, by decide⟩
  have htool : Descriptor.OneLine { name := "Tool", kind := .interfaceType } :=
    ⟨by decide, by decide, by decide, by decide, by decide⟩
  have hall : ∀ t ∈ workshop.types, t.OneLine :=
    List.forall_mem_cons.mpr ⟨hbench, List.forall_mem_singleton.mpr htool⟩
  obtain ⟨⟨body, htext, hsplit⟩, -, hlength⟩ := split_text { verbosity := .summary } hall
  refine ⟨hall, ⟨body, htext, hsplit.trans ?_⟩, hlength⟩
  decide

end ClassDiagram
