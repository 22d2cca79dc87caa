import ClassDiagram.Proofs.Edges

/-!
# Distinct Lines Are Distinct Edges

A set of edges holds lines, so it takes two edges with one line for the same. As long as heads have
no space in them this is right: a line is read back up to its first space, which gives the head, and
then up to the next one, for no arrow has a space either (`Relation.line_eq_iff`). So the set tells
edges apart as they are, through any number of insertions (`distinct_lines`).
-/

namespace ClassDiagram

/-! ### Reading a line back -/

/-- A list is read back up to the first separator. -/
theorem eq_of_append_separator {α : Type} {sep : α} {before before' after after' : List α}
    (h : before ++ sep :: after = before' ++ sep :: after') (hb : sep ∉ before)
    (hb' : sep ∉ before') : before = before' ∧ after = after' := by
  rcases List.append_eq_append_iff.mp h with ⟨more, rfl, hmore⟩ | ⟨more, rfl, hmore⟩
  · cases more with
    | nil => simpa using hmore
    | cons c more =>
      obtain ⟨rfl, -⟩ := List.cons.inj hmore
      exact absurd (by simp) hb'
  · cases more with
    | nil => simpa [eq_comm] using hmore
    | cons c more =>
      obtain ⟨rfl, -⟩ := List.cons.inj hmore
      exact absurd (by simp) hb

theorem RelationKind.arrow_injective {k l : RelationKind} (h : k.arrow = l.arrow) : k = l := by
  cases k <;> cases l <;> first | rfl | exact absurd h (by decide)

theorem RelationKind.space_not_mem_arrow (k : RelationKind) : ' ' ∉ k.arrow.toList := by
  cases k <;> decide

namespace Relation

/-- The head of an edge has no space in it. -/
def HeadSpaceless (r : Relation) : Prop := ' ' ∉ r.head.toList

instance (r : Relation) : Decidable r.HeadSpaceless := by unfold HeadSpaceless; infer_instance

theorem toList_line (r : Relation) :
    r.line.toList = r.head.toList ++ ' ' :: (r.kind.arrow.toList ++ ' ' :: r.tail.toList) := by
  simp [line]

/-- **A line tells its edge.** -/
theorem line_eq_iff {r q : Relation} (hr : r.HeadSpaceless) (hq : q.HeadSpaceless) :
    r.line = q.line ↔ r.kind = q.kind ∧ r.head = q.head ∧ r.tail = q.tail := by
  constructor
  · intro h
    have hlist : r.line.toList = q.line.toList := congrArg String.toList h
    rw [toList_line, toList_line] at hlist
    obtain ⟨hhead, hrest⟩ := eq_of_append_separator hlist hr hq
    obtain ⟨harrow, htail⟩ := eq_of_append_separator hrest r.kind.space_not_mem_arrow
      q.kind.space_not_mem_arrow
    exact ⟨RelationKind.arrow_injective (String.toList_injective harrow),
      String.toList_injective hhead, String.toList_injective htail⟩
  · rintro ⟨hkind, hhead, htail⟩
    rw [line, line, hkind, hhead, htail]

theorem eq_of_line_eq {r q : Relation} (hr : r.HeadSpaceless) (hq : q.HeadSpaceless)
    (h : r.line = q.line) : r = q := by
  obtain ⟨hkind, hhead, htail⟩ := (line_eq_iff hr hq).mp h
  cases r
  cases q
  simp_all

end Relation

/-! ### Edges that are inserted one after another -/

namespace RelationSet

variable {rs : List Relation} {r : Relation}

/-- An edge is new to a set unless it is among those inserted before. -/
theorem fst_add_ofList (h : ∀ q ∈ rs, q.HeadSpaceless) (hr : r.HeadSpaceless) :
    ((ofList rs).add r).1 = true ↔ r ∉ rs := by
  rw [fst_add, mem_lines_ofList, not_iff_not]
  constructor
  · rintro ⟨q, hq, hline⟩
    rwa [← Relation.eq_of_line_eq (h q hq) hr hline]
  · intro hmem
    exact ⟨r, hmem, rfl⟩

theorem lines_ofList_spaceless (h : ∀ q ∈ rs, q.HeadSpaceless) :
    (ofList rs).lines = rs.eraseDups.map Relation.line := by
  rw [lines_ofList]
  exact eraseDups_map fun q hq q' hq' => Relation.eq_of_line_eq (h q hq) (h q' hq')

end RelationSet

/-- **To tell lines apart is to tell edges apart**, as long as no head has a space in it; tails may.
Two such edges have the same line if and only if they are of the same kind and have the same ends.
So when such edges are inserted one after another, each insertion succeeds if and only if that edge
has not been inserted before; the lines in the end are those of the distinct edges in the order of
their first insertion, and the size is the number of distinct edges. -/
theorem distinct_lines :
    (∀ r q : Relation, r.HeadSpaceless → q.HeadSpaceless →
      (r.line = q.line ↔ r.kind = q.kind ∧ r.head = q.head ∧ r.tail = q.tail)) ∧
    ∀ rs : List Relation, (∀ r ∈ rs, r.HeadSpaceless) →
      (∀ before r after, rs = before ++ r :: after →
        (((RelationSet.ofList before).add r).1 = true ↔ r ∉ before)) ∧
      (RelationSet.ofList rs).lines = rs.eraseDups.map Relation.line ∧
      (RelationSet.ofList rs).size = rs.toFinset.card := by
  refine ⟨fun r q => Relation.line_eq_iff, fun rs h => ⟨?_, ?_, ?_⟩⟩
  · rintro before r after rfl
    exact RelationSet.fst_add_ofList (fun q hq => h q (by simp [hq])) (h r (by simp))
  · exact RelationSet.lines_ofList_spaceless h
  · rw [RelationSet.size, RelationSet.lines_ofList_spaceless h, List.length_map,
      length_eraseDups]

/-- All three arrows between the same ends, and ends that look like arrows. -/
def lookalikes : List Relation :=
  [⟨.extension, "A", "B"⟩, ⟨.implementation, "A", "B"⟩, ⟨.composition, "A", "B"⟩,
    ⟨.extension, "A", "B"⟩, ⟨.extension, "<|--", "A <|-- B"⟩, ⟨.implementation, "<|--", "<|.."⟩,
    ⟨.composition, "", "*--"⟩, ⟨.implementation, "<|--", "<|.."⟩]

theorem distinct_lines_lookalikes :
    (∀ r ∈ lookalikes, r.HeadSpaceless) ∧
      Relation.line ⟨.extension, "<|--", "A <|-- B"⟩ ≠ Relation.line ⟨.extension, "<|--", "<|.."⟩ ∧
      ((RelationSet.ofList (lookalikes.take 3)).add ⟨.extension, "A", "B"⟩).1 = false ∧
      (RelationSet.ofList lookalikes).lines =
        ["A <|-- B", "A <|.. B", "A *-- B", "<|-- <|-- A <|-- B", "<|-- <|.. <|..", " *-- *--"] ∧
      (RelationSet.ofList lookalikes).size = 6 := by
  have hall : ∀ r ∈ lookalikes, r.HeadSpaceless := by decide
  obtain ⟨hnew, hlines, hsize⟩ := distinct_lines.2 lookalikes hall
  refine ⟨hall, fun hline => ?_, ?_, ?_, ?_⟩
  · exact absurd ((distinct_lines.1 _ _ (by decide) (by decide)).mp hline).2.2 (by decide)
  · have hseen := hnew (lookalikes.take 3) ⟨.extension, "A", "B"⟩ (lookalikes.drop 4) rfl
    rw [← Bool.not_eq_true, hseen, not_not]
    decide
  · rw [hlines]
    decide
  · rw [hsize]
    decide

/-- With a space in its head an edge can have the line of another one, and is left out behind it. -/
example :
    (RelationSet.ofList
      [⟨.extension, "A", "B <|-- C"⟩, ⟨.extension, "A <|-- B", "C"⟩]).size = 1 := by
  decide

end ClassDiagram
