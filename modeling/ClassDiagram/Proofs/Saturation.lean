import ClassDiagram.Diagram
import ClassDiagram.Proofs.Members
import Mathlib.Data.List.Nodup

/-!
# Depth Beyond the Number of Types

More depth than there are types changes nothing in a diagram (`diagram_saturates`), also where
types are their own ancestors.

Two collections at different depths are compared step by step. All budgets of the deeper one are
greater by the difference (`Shifted`), so both spare and expand the same types. They could part only
where the smaller depth runs out, and it never does: the types that are being expanded are distinct
(`Underway`), for each of them is recorded with more depth than is left for anything above it.
-/

namespace ClassDiagram.Collection

variable {source : Source} {s s' : Settings} {l : Lineage} {w w₁ w₂ : Walk} {m : Nat}

/-! ### Expansions under way -/

/-- The expansions of these types are going on, one inside of the other, with `remaining` depth left
for the innermost one; all types are known by some list of names. -/
structure Underway (known : List String) (depth : Nat) (l : Lineage) (w : Walk)
    (path : List String) (remaining : Nat) : Prop where
  nodup : path.Nodup
  known : path ⊆ known
  covered : ∀ name ∈ path, (w.budgets l).Covers name remaining
  length : path.length + remaining = depth + 1

namespace Underway

variable {known path : List String} {depth remaining : Nat}

/-- Distinct types cannot use up as much depth as there are types. -/
theorem pos (h : Underway known depth l w path remaining) (hknown : known.length ≤ depth) :
    1 ≤ remaining := by
  have hle := h.nodup.length_le_of_subset h.known
  have := h.length
  omega

theorem mono (h : Underway known depth l w path remaining) (hg : w.Grows w₁) :
    Underway known depth l w₁ path remaining :=
  ⟨h.nodup, h.known, fun n hn => hg.covers _ _ _ (h.covered n hn), h.length⟩

/-- What is expanded inside of other expansions is none of their types. -/
theorem enter {p : Descriptor} (h : Underway known depth l w path (remaining + 1))
    (child : Descriptor) (k : Nat) (hp : p.name ∈ known)
    (ha : (w.budgets l).allows p.name remaining) :
    Underway known depth l ((w.reach l p child k).enter l p.name remaining) (p.name :: path)
      remaining := by
  have hnew : p.name ∉ path := Budgets.not_mem_of_allows h.covered ha
  refine ⟨List.nodup_cons.mpr ⟨hnew, h.nodup⟩, List.cons_subset.mpr ⟨hp, h.known⟩,
    Walk.covers_reach_enter child k h.covered ha, ?_⟩
  have := h.length
  rw [List.length_cons]
  omega

end Underway

/-! ### Shifted walks -/

/-- The same graph, with all budgets greater by `m`. -/
structure Shifted (m : Nat) (w w₁ : Walk) : Prop where
  graph : w₁.graph = w.graph
  latest : ∀ l name, (w₁.budgets l).latest name = ((w.budgets l).latest name).map (m + ·)

namespace Shifted

theorem covers_iff (h : Shifted m w w₁) {name : String} {remaining : Nat} :
    (w₁.budgets l).Covers name (m + remaining) ↔ (w.budgets l).Covers name remaining := by
  unfold Budgets.Covers
  rw [h.latest]
  cases (w.budgets l).latest name <;> simp

theorem allows_iff (h : Shifted m w w₁) {name : String} {remaining : Nat} :
    (w₁.budgets l).allows name (m + remaining) ↔ (w.budgets l).allows name remaining := by
  rw [Budgets.allows_iff, Budgets.allows_iff, h.covers_iff]

theorem note (h : Shifted m w w₁) (step step' : Step) :
    Shifted m (w.note step) (w₁.note step') :=
  ⟨h.graph, fun l name => by rw [Walk.budgets_note, Walk.budgets_note, h.latest]⟩

theorem request (h : Shifted m w w₁) (name : String) (t : Descriptor) :
    Shifted m (w.request name t) (w₁.request name t) :=
  ⟨by rw [Walk.graph_request, Walk.graph_request, h.graph],
    fun l name => by rw [Walk.budgets_request, Walk.budgets_request, h.latest]⟩

theorem reach (h : Shifted m w w₁) (l : Lineage) (p child : Descriptor) (k k' : Nat) :
    Shifted m (w.reach l p child k) (w₁.reach l p child k') :=
  ⟨by rw [Walk.graph_reach, Walk.graph_reach, h.graph],
    fun l name => by rw [Walk.budgets_reach, Walk.budgets_reach, h.latest]⟩

theorem enter (h : Shifted m w w₁) (l : Lineage) (name : String) (remaining : Nat) :
    Shifted m (w.enter l name remaining) (w₁.enter l name (m + remaining)) := by
  refine ⟨by rw [Walk.graph_enter, Walk.graph_enter, h.graph], fun l' n => ?_⟩
  by_cases hl : l' = l
  · subst hl
    rw [Walk.budgets_enter_self, Walk.budgets_enter_self, Budgets.latest_spend,
      Budgets.latest_spend, h.latest]
    split <;> rfl
  · rw [Walk.budgets_enter_of_ne _ _ _ hl, Walk.budgets_enter_of_ne _ _ _ hl, h.latest]

end Shifted

/-! ### Two collections -/

theorem parents_congr (hu : s'.universalRoots = s.universalRoots) (l : Lineage) (t : Descriptor) :
    l.parents s' t = l.parents s t := by
  cases l with
  | superclass => simp only [Lineage.parents, Settings.isUniversalRoot, hu]
  | interface => rfl

theorem above_congr (hu : s'.universalRoots = s.universalRoots) (l : Lineage) (t : Descriptor)
    {k k' : Nat} (hk : 1 ≤ k) (hk' : 1 ≤ k') : above s' l k' t = above s l k t := by
  cases k with
  | zero => omega
  | succ k =>
    cases k' with
    | zero => omega
    | succ k' => exact parents_congr hu l t

/-- **Runs go the same way** with more depth, as long as their depth does not run out. -/
theorem Climb.shifted {known path names : List String} {remaining : Nat} {child : Descriptor}
    (h : Climb source s l remaining child names w w₁)
    (hu : s'.universalRoots = s.universalRoots)
    (hdef : ∀ t, source.Defines t → t.name ∈ known) (hknown : known.length ≤ s.depth)
    (hpath : Underway known s.depth l w path remaining) (hw : Shifted m w w₂) :
    ∃ w₃, Climb source s' l (m + remaining) child names w₂ w₃ ∧ Shifted m w₁ w₃ := by
  induction h generalizing path w₂ with
  | done => exact ⟨w₂, .done, hw⟩
  | missing hm hn _ ih =>
    obtain ⟨w₃, hc, hw₃⟩ := ih (hpath.mono (.note _ _)) (hw.note _ _)
    exact ⟨w₃, .missing (by rwa [parents_congr hu]) hn hc, hw₃⟩
  | @spared remaining child p _ _ _ _ hm hp hcov _ ih =>
    obtain ⟨w₃, hc, hw₃⟩ := ih (hpath.mono ((Walk.Grows.reach ..).trans (.note _ _)))
      ((hw.reach l p child _ (m + remaining + 1)).note _ (.spared l p.name (m + remaining)))
    exact ⟨w₃, .spared (by rwa [parents_congr hu]) hp (hw.covers_iff.mpr hcov) hc, hw₃⟩
  | @expanded remaining child p _ _ w w₁ _ hm hp ha hc₁ _ ih₁ ih₂ =>
    have hpath₁ := hpath.enter child (remaining + 1) (hdef p ⟨_, hp⟩) ha
    -- `p` has depth left, so both runs expand it to the same names
    have hpos := hpath₁.pos hknown
    obtain ⟨w₃, hc₃, hw₃⟩ :=
      ih₁ hpath₁ ((hw.reach l p child _ (m + remaining + 1)).enter l p.name remaining)
    rw [← above_congr hu l p hpos (show 1 ≤ m + remaining by omega)] at hc₃
    obtain ⟨w₄, hc₄, hw₄⟩ :=
      ih₂ (hpath.mono (Climb.grows_expansion ha hc₁)) (hw₃.note _ (.left l p.name))
    exact ⟨w₄, .expanded (by rwa [parents_congr hu]) hp (hw.allows_iff.mpr ha) hc₃ hc₄, hw₄⟩

theorem shifted_ascendRoot {known : List String} {t : Descriptor}
    (hu : s'.universalRoots = s.universalRoots) (hd : s'.depth = m + s.depth)
    (hdef : ∀ t, source.Defines t → t.name ∈ known) (hknown : known.length ≤ s.depth)
    (ht : source.Defines t) (hw : Shifted m w w₁) :
    Shifted m (ascendRoot source s l t w) (ascendRoot source s' l t w₁) := by
  rcases ascendRoot_cases source s l t w with ⟨hcov, h⟩ | ⟨ha, w₂, hc, h⟩
  · rcases ascendRoot_cases source s' l t w₁ with ⟨-, h'⟩ | ⟨ha', -⟩
    · rwa [h, h']
    · rw [hd, hw.allows_iff, Budgets.allows_iff] at ha'
      exact absurd hcov ha'
  · rcases ascendRoot_cases source s' l t w₁ with ⟨hcov', -⟩ | ⟨-, w₃, hc', h'⟩
    · rw [hd, hw.covers_iff] at hcov'
      exact absurd hcov' (Budgets.allows_iff.mp ha)
    · have hpath : Underway known s.depth l (w.enter l t.name s.depth) [t.name] s.depth := by
        refine ⟨List.nodup_singleton _, by simpa using hdef t ht, fun n hn => ?_, by simp; omega⟩
        rw [List.mem_singleton] at hn
        rw [hn, Walk.budgets_enter_self]
        exact Budgets.covers_spend _ _ _
      have hpos := hpath.pos hknown
      obtain ⟨w₄, hc₄, hw₄⟩ := hc.shifted hu hdef hknown hpath (hw.enter l t.name s.depth)
      rw [← above_congr hu l t hpos (show 1 ≤ m + s.depth by omega), ← hd] at hc₄
      rw [h, h', hc'.unique hc₄]
      exact hw₄.note _ _

theorem shifted_addRoots {known : List String} (hu : s'.universalRoots = s.universalRoots)
    (hd : s'.depth = m + s.depth) (hdef : ∀ t, source.Defines t → t.name ∈ known)
    (hknown : known.length ≤ s.depth) :
    ∀ (names : List String) (w w₁ : Walk), Shifted m w w₁ →
      Shifted m (addRoots source s names w).1 (addRoots source s' names w₁).1
  | [], _, _, hw => hw
  | name :: names, w, w₁, hw => by
    unfold addRoots
    cases ht : source name with
    | none => exact hw
    | some t =>
      have hsup := shifted_ascendRoot (l := .superclass) hu hd hdef hknown ⟨name, ht⟩
        (hw.request name t)
      exact shifted_addRoots hu hd hdef hknown names _ _
        (shifted_ascendRoot (l := .interface) hu hd hdef hknown ⟨name, ht⟩ hsup)

/-- A collection that goes deeper than there are types collects no more. -/
theorem collect_saturates {known roots : List String}
    (hu : s'.universalRoots = s.universalRoots) (hle : s.depth ≤ s'.depth)
    (hdef : ∀ t, source.Defines t → t.name ∈ known) (hknown : known.length ≤ s.depth) :
    collect source s' roots = collect source s roots := by
  have hstart : Shifted (s'.depth - s.depth) {} {} := ⟨rfl, fun l name => by cases l <;> rfl⟩
  have hgraph :=
    (shifted_addRoots hu (by omega) hdef hknown roots {} {} hstart).graph
  have hfailed : (addRoots source s' roots {}).2 = (addRoots source s roots {}).2 := by
    rw [addRoots_snd, addRoots_snd]
  unfold collect
  generalize addRoots source s roots {} = r at hgraph hfailed
  generalize addRoots source s' roots {} = r' at hgraph hfailed
  obtain ⟨w, failed⟩ := r
  obtain ⟨w', failed'⟩ := r'
  obtain rfl : failed' = failed := hfailed
  cases failed' with
  | none => exact congrArg Except.ok hgraph
  | some name => rfl

end ClassDiagram.Collection

namespace ClassDiagram

/-- A script asks of the depth only whether there is any. -/
theorem Script.ofGraph_depth {s : Settings} {g : TypeGraph} {d d' : Nat}
    (h : g.types = [] ∨ 1 ≤ d ∧ 1 ≤ d') :
    ofGraph { s with depth := d } g = ofGraph { s with depth := d' } g := by
  have hrel : g.types.flatMap (relationsOf { s with depth := d } g) =
      g.types.flatMap (relationsOf { s with depth := d' } g) := by
    rcases h with h | ⟨hd, hd'⟩
    · rw [h]
      rfl
    · refine congrArg (List.flatMap · g.types) (funext fun t => ?_)
      rw [relationsOf, relationsOf, if_neg (by show ¬ d = 0; omega),
        if_neg (by show ¬ d' = 0; omega)]
      rfl
  rw [ofGraph, ofGraph, hrel]

/-- **Depth beyond the number of types** changes nothing: not the error, not a line of the
script. -/
theorem diagram_saturates (c : Catalog) (s : Settings) (roots : List String) {d d' : Nat}
    (hd : c.size ≤ d) (hd' : c.size ≤ d') :
    diagram c.resolve { s with depth := d } roots =
      diagram c.resolve { s with depth := d' } roots := by
  have hdef : ∀ t, Source.Defines c.resolve t → t.name ∈ c.entries.map (·.name) := by
    rintro t ⟨name, ht⟩
    exact List.mem_map_of_mem (Catalog.mem_of_resolve ht)
  have hsize : (c.entries.map (·.name)).length = c.size := List.length_map _
  have hcollect : Collection.collect c.resolve { s with depth := d } roots =
      Collection.collect c.resolve { s with depth := d' } roots := by
    rcases Nat.le_total d d' with hle | hle
    · exact Eq.symm (Collection.collect_saturates rfl hle hdef (hsize ▸ hd))
    · exact Collection.collect_saturates rfl hle hdef (hsize ▸ hd')
  unfold diagram
  rw [hcollect]
  cases hg : Collection.collect c.resolve { s with depth := d' } roots with
  | error e => rfl
  | ok g =>
    refine congrArg Except.ok (Script.ofGraph_depth ?_)
    by_cases hc : c.size = 0
    · refine Or.inl (List.eq_nil_iff_forall_not_mem.mpr fun t ht => ?_)
      obtain ⟨-, rfl⟩ := Collection.collect_eq_ok_iff.mp hg
      have hmem := hdef t (Collection.collected_addRoots roots t ht).defines
      rw [List.length_eq_zero_iff.mp hc] at hmem
      exact List.not_mem_nil hmem
    · exact Or.inr ⟨by omega, by omega⟩

/-- Superclasses and interfaces that both go round. -/
def carousel : Catalog := .ofList
  [{ name := "Horse", superclass := some "Swan", interfaces := ["Seat"] },
    { name := "Swan", superclass := some "Horse" }, { name := "Seat", interfaces := ["Pole"] },
    { name := "Pole", interfaces := ["Seat"] }]

theorem diagram_saturates_carousel :
    ∃ script, diagram carousel.resolve { depth := 4294967295 } ["Horse"] = .ok script ∧
      script.blocks.map (·.header) =
        ["class Horse \x7b", "class Swan \x7b", "class Seat \x7b", "class Pole \x7b"] := by
  have hdepth : diagram carousel.resolve { depth := 4 } ["Horse"] =
      diagram carousel.resolve { depth := 4294967295 } ["Horse"] :=
    diagram_saturates carousel {} ["Horse"] (by decide) (by decide)
  exact ⟨_, hdepth.symm, by decide⟩

end ClassDiagram
