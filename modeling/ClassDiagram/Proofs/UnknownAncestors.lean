import ClassDiagram.Journal
import ClassDiagram.Proofs.Members

/-!
# Unknown Ancestors

A parent that cannot be resolved is left out of the diagram, with a warning. The warnings of a
collection are those of the parents of all types that are reached before the depth is used up, and
no others (`skipped_exact`).

A warning is told while a type is expanded, and a type may be met without any depth left, or be
spared because it is just being expanded. So that no warning is missing is a statement about the end
of a collection (`missing_of_unknown`), while that none is false holds at every step
(`kept_unknown`).
-/

namespace ClassDiagram

namespace Collection

variable {source : Source} {s : Settings} {l l' : Lineage} {roots : List String}
  {name child : String}

/-! ### No warning is false -/

theorem mem_history_reach {w : Walk} {p t : Descriptor} {remaining : Nat} :
    .missing l name child ∈ (w.reach l' p t remaining).history ↔
      .missing l name child ∈ w.history := by
  rw [Walk.history_reach]
  split <;> simp

/-- **Only unknown parents are missed.** -/
theorem kept_unknown : Kept source s roots fun w =>
    ∀ l name child, .missing l name child ∈ w.history → Unknown source s roots l name child where
  request _ _ h l name child hm := by
    rw [Walk.history_request, List.mem_cons] at hm
    exact h l name child (hm.resolve_left nofun)
  note hquiet h l name child hm := by
    rw [Walk.history_note, List.mem_cons] at hm
    rcases hm with rfl | hm
    · exact hquiet
    · exact h l name child hm
  reach _ _ _ _ h l name child hm := h l name child (mem_history_reach.mp hm)
  enter _ _ _ h l name child hm := by
    rw [Walk.history_enter, List.mem_cons] at hm
    exact h l name child (hm.resolve_left nofun)

theorem unknown_of_missing (hm : .missing l name child ∈ (addRoots source s roots {}).1.history) :
    Unknown source s roots l name child :=
  kept_addRoots kept_unknown nofun l name child hm

/-! ### No warning is missing -/

theorem missing_of_unknown (hs : source.Unambiguous) (hall : ∀ r ∈ roots, (source r).isSome)
    (h : Unknown source s roots l name child) :
    .missing l name child ∈ (addRoots source s roots {}).1.history := by
  obtain ⟨hn, r, hr, root, hroot, k, hk, u, hc, hmem, rfl⟩ := h
  have hcov := (reached_of_chain hs hall hr hroot hc (by omega)).2
  have hleft : s.depth - k = s.depth - (k + 1) + 1 := by omega
  rw [hleft] at hcov
  have hh := handled_of_covers hs (hc.defines ⟨r, hroot⟩) hcov name hmem
  rwa [Handled, hn] at hh

theorem missing_mem_steps_iff (hs : source.Unambiguous) (hall : ∀ r ∈ roots, (source r).isSome) :
    .missing l name child ∈ steps source s roots ↔ Unknown source s roots l name child := by
  rw [steps, List.mem_reverse]
  exact ⟨unknown_of_missing, missing_of_unknown hs hall⟩

end Collection

/-! ### Warnings -/

namespace Journal

open Log

/-- The warning that a parent of `child` is left out. -/
def skipped (name child : String) : Event :=
  ⟨.warn, .collector, "Skipping unresolvable ancestor",
    [("name", .text name), ("child", .text child)]⟩

/-- Nothing else is told in the same words. -/
theorem stepEvent?_eq_some_iff {step : Step} {e : Event}
    (he : e.message = "Skipping unresolvable ancestor") :
    stepEvent? step = some e ↔
      ∃ l name child, step = .missing l name child ∧ e = skipped name child := by
  constructor
  · intro h
    cases step with
    | missing l name child =>
      cases h
      exact ⟨l, name, child, rfl, rfl⟩
    | requested =>
      cases h
      simp at he
    | reached l =>
      cases l <;> cases h <;> simp at he
    | spared l =>
      cases l <;> cases h <;> simp at he
    | entered => cases h
    | left => cases h
  · rintro ⟨l, name, child, rfl, rfl⟩
    rfl

/-- **The warnings of a collection.** The parents that are reported as unknown are, each at least
once, the superclasses of the types that a chain of superclasses reaches in less than the depth, and
the interfaces of the types that a chain of interfaces reaches so, if they are not known; universal
roots are not reported. Nothing else is. -/
theorem skipped_exact {source : Source} (hs : source.Unambiguous) (s : Settings)
    {roots : List String} (hall : ∀ r ∈ roots, (source r).isSome) (e : Event)
    (he : e.message = "Skipping unresolvable ancestor") :
    e ∈ (Collection.steps source s roots).filterMap stepEvent? ↔
      ∃ name u, e = skipped name u.name ∧ source name = none ∧
        ∃ r ∈ roots, ∃ root, source r = some root ∧ ∃ k < s.depth,
          (Chain (Parent source s .superclass) k root u ∧ u.superclass = some name ∧
            name ∉ s.universalRoots) ∨
          (Chain (Parent source s .interface) k root u ∧ name ∈ u.interfaces) := by
  simp only [List.mem_filterMap, stepEvent?_eq_some_iff he]
  constructor
  · rintro ⟨_, hmem, l, name, child, rfl, rfl⟩
    rw [Collection.missing_mem_steps_iff hs hall] at hmem
    obtain ⟨hn, r, hr, root, hroot, k, hk, u, hc, hname, rfl⟩ := hmem
    refine ⟨name, u, rfl, hn, r, hr, root, hroot, k, hk, ?_⟩
    cases l with
    | superclass => exact Or.inl ⟨hc, Lineage.mem_parents_superclass.mp hname⟩
    | interface => exact Or.inr ⟨hc, hname⟩
  · rintro ⟨name, u, rfl, hn, r, hr, root, hroot, k, hk, hc⟩
    have hunknown : ∃ l, Collection.Unknown source s roots l name u.name := by
      rcases hc with ⟨hc, hname⟩ | ⟨hc, hname⟩
      · exact ⟨.superclass, hn, r, hr, root, hroot, k, hk, u, hc,
          Lineage.mem_parents_superclass.mpr hname, rfl⟩
      · exact ⟨.interface, hn, r, hr, root, hroot, k, hk, u, hc, hname, rfl⟩
    obtain ⟨l, hunknown⟩ := hunknown
    exact ⟨_, (Collection.missing_mem_steps_iff hs hall).mpr hunknown, l, name, u.name, rfl, rfl⟩

/-- `Shared` is first met on the detour, with no depth left, and then comes back to it. -/
def gaps : Catalog := .ofList
  [{ name := "Impl", superclass := some "Base", interfaces := ["Detour", "Shared"] },
    { name := "Base", superclass := some "Gone" },
    { name := "Detour", interfaces := ["Shared"] },
    { name := "Shared", interfaces := ["Lost", "Detour"] }]

theorem skipped_exact_gaps :
    skipped "Gone" "Base" ∈
        (Collection.steps gaps.resolve { depth := 2 } ["Impl"]).filterMap stepEvent? ∧
      skipped "Lost" "Shared" ∈
        (Collection.steps gaps.resolve { depth := 2 } ["Impl"]).filterMap stepEvent? := by
  have hs : Source.Unambiguous gaps.resolve := Catalog.unambiguous_resolve _ id
  have hall : ∀ r ∈ ["Impl"], (gaps.resolve r).isSome := by decide
  have hexact := skipped_exact hs { depth := 2 } hall
  have hbase : Chain (Parent gaps.resolve { depth := 2 } .superclass) 1
      { name := "Impl", superclass := some "Base", interfaces := ["Detour", "Shared"] }
      { name := "Base", superclass := some "Gone" } :=
    (Chain.refl _).tail (.superclass rfl (by decide) rfl)
  have hshared : Chain (Parent gaps.resolve { depth := 2 } .interface) 1
      { name := "Impl", superclass := some "Base", interfaces := ["Detour", "Shared"] }
      { name := "Shared", interfaces := ["Lost", "Detour"] } :=
    (Chain.refl _).tail (parent_iff.mpr ⟨"Shared", by decide, rfl⟩)
  constructor
  · refine (hexact (skipped "Gone" "Base") rfl).mpr ?_
    exact ⟨"Gone", _, rfl, rfl, "Impl", by decide, _, rfl, 1, by decide,
      Or.inl ⟨hbase, rfl, by decide⟩⟩
  · refine (hexact (skipped "Lost" "Shared") rfl).mpr ?_
    exact ⟨"Lost", _, rfl, rfl, "Impl", by decide, _, rfl, 1, by decide,
      Or.inr ⟨hshared, by decide⟩⟩

end Journal

end ClassDiagram
