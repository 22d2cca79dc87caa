import ClassDiagram.Descriptor

/-!
# Relations between Types

A `Relation` is one edge of a diagram; its `line` is the text that draws it. A `RelationSet` holds
lines in the order of their arrival, each of them once.
-/

namespace ClassDiagram

/-- How one type is related to another. -/
inductive RelationKind
  | extension
  | implementation
  | composition
deriving DecidableEq

/-- The arrow that draws a relation; its left end is the supertype or the part. -/
def RelationKind.arrow : RelationKind → String
  | .extension => "<|--"
  | .implementation => "<|.."
  | .composition => "*--"

/-- An edge: `tail` extends, implements or holds `head`. -/
structure Relation where
  kind : RelationKind
  head : String
  tail : String
deriving DecidableEq

/-- The text that draws an edge. -/
def Relation.line (r : Relation) : String :=
  r.head ++ " " ++ r.kind.arrow ++ " " ++ r.tail

/-- The drawn edges: distinct lines in the order of their arrival. -/
@[ext] structure RelationSet where
  lines : List String := []
  lines_nodup : lines.Nodup := by simp

namespace RelationSet

/-- Whether an edge with the same line is there. -/
def contains (s : RelationSet) (r : Relation) : Bool := s.lines.contains r.line

/-- Adds an edge at the end, unless its line is already there. The first component is whether it has
been added. -/
def add (s : RelationSet) (r : Relation) : Bool × RelationSet :=
  if h : s.contains r then (false, s)
  else
    (true,
      { lines := s.lines ++ [r.line]
        lines_nodup := by
          simp only [contains, List.contains_iff_mem] at h
          rw [List.nodup_append]
          exact ⟨s.lines_nodup, by simp, fun a ha b hb hab => h (by simp_all)⟩ })

/-- The set with an edge. -/
def insert (s : RelationSet) (r : Relation) : RelationSet := (s.add r).2

/-- The edges of a list, the first of each line. -/
def ofList (l : List Relation) : RelationSet := l.foldl insert {}

/-- The number of lines. -/
def size (s : RelationSet) : Nat := s.lines.length

/-- Whether there are no lines. -/
def isEmpty (s : RelationSet) : Bool := s.lines.isEmpty

/-! ### What insertion does -/

theorem contains_iff {s : RelationSet} {r : Relation} : s.contains r ↔ r.line ∈ s.lines := by
  simp [contains]

theorem fst_add {s : RelationSet} {r : Relation} : (s.add r).1 = true ↔ r.line ∉ s.lines := by
  rw [← contains_iff, add]
  split <;> simp_all

theorem lines_insert (s : RelationSet) (r : Relation) :
    (s.insert r).lines = if r.line ∈ s.lines then s.lines else s.lines ++ [r.line] := by
  simp only [insert, add, ← contains_iff]
  split <;> rfl

theorem mem_lines_foldl (line : String) : ∀ (rs : List Relation) (s : RelationSet),
    line ∈ (rs.foldl insert s).lines ↔ line ∈ s.lines ∨ ∃ r ∈ rs, r.line = line
  | [], s => by simp
  | r :: rs, s => by
    rw [List.foldl_cons, mem_lines_foldl line rs, lines_insert]
    by_cases h : r.line ∈ s.lines
    · rw [if_pos h]
      constructor
      · rintro (hs | ⟨q, hq, rfl⟩)
        · exact Or.inl hs
        · exact Or.inr ⟨q, List.mem_cons_of_mem _ hq, rfl⟩
      · rintro (hs | ⟨q, hq, rfl⟩)
        · exact Or.inl hs
        · rcases List.mem_cons.mp hq with rfl | hq
          · exact Or.inl h
          · exact Or.inr ⟨q, hq, rfl⟩
    · simp [h, or_assoc, eq_comm]

/-- The lines of a list of edges are drawn, and no others. -/
theorem mem_lines_ofList {line : String} {rs : List Relation} :
    line ∈ (ofList rs).lines ↔ ∃ r ∈ rs, r.line = line := by
  rw [ofList, mem_lines_foldl]
  simp

end RelationSet

end ClassDiagram
