import ClassDiagram.Collection
import Mathlib.Data.Nat.Basic
import Mathlib.Tactic.ByContra

/-!
# What Walks Leave Behind

One lemma for each part of a `Walk` and each thing that happens to it. Nothing that happens takes
anything away (`Walk.Grows`): types keep their places, what the budgets cover stays covered, and
the record only gets longer.
-/

namespace ClassDiagram

/-! ### Budgets -/

namespace Budgets

/-- The type has been expanded with at least this much depth. -/
def Covers (b : Budgets) (name : String) (remaining : Nat) : Prop :=
  ∃ spent, b.latest name = some spent ∧ remaining ≤ spent

theorem allows_iff {b : Budgets} {name : String} {remaining : Nat} :
    b.allows name remaining ↔ ¬ b.Covers name remaining := by
  unfold allows Covers
  cases b.latest name <;> simp

theorem latest_spend (b : Budgets) (name m : String) (remaining : Nat) :
    (b.spend name remaining).latest m = if m = name then some remaining else b.latest m := by
  unfold latest spend
  rw [List.lookup_cons]
  by_cases h : m = name
  · simp [h]
  · rw [beq_eq_false_iff_ne.mpr h, if_neg h]

theorem covers_spend (b : Budgets) (name : String) (remaining : Nat) :
    (b.spend name remaining).Covers name remaining :=
  ⟨remaining, by rw [latest_spend, if_pos rfl], le_rfl⟩

theorem Covers.mono {b : Budgets} {name : String} {m n : Nat} (h : b.Covers name n) (hmn : m ≤ n) :
    b.Covers name m := by
  obtain ⟨spent, hs, hn⟩ := h
  exact ⟨spent, hs, Nat.le_trans hmn hn⟩

/-- An expansion that is allowed goes farther than all before. -/
theorem Covers.spend {b : Budgets} {name m : String} {remaining k : Nat} (h : b.Covers m k)
    (ha : b.allows name remaining) : (b.spend name remaining).Covers m k := by
  rw [allows_iff] at ha
  by_cases hm : m = name
  · subst hm
    refine ⟨remaining, by rw [latest_spend, if_pos rfl], ?_⟩
    by_contra hk
    exact ha (h.mono (by omega))
  · obtain ⟨spent, hs, hk⟩ := h
    exact ⟨spent, by rw [latest_spend, if_neg hm, hs], hk⟩

/-- What may be expanded is none of the types that are covered with more depth. -/
theorem not_mem_of_allows {b : Budgets} {path : List String} {name : String} {remaining : Nat}
    (h : ∀ n ∈ path, b.Covers n (remaining + 1)) (ha : b.allows name remaining) : name ∉ path :=
  fun hmem => allows_iff.mp ha ((h name hmem).mono (Nat.le_succ remaining))

end Budgets

/-! ### The parts of a walk -/

namespace Walk

variable (w : Walk) (l : Lineage) (name : String) (remaining : Nat) (step : Step)
variable (t p child : Descriptor)

@[simp] theorem graph_note : (w.note step).graph = w.graph := rfl

@[simp] theorem budgets_note : (w.note step).budgets l = w.budgets l := by cases l <;> rfl

@[simp] theorem graph_request : (w.request name t).graph = w.graph.insert t := rfl

@[simp] theorem budgets_request : (w.request name t).budgets l = w.budgets l := by cases l <;> rfl

@[simp] theorem graph_reach : (w.reach l p child remaining).graph = w.graph.insert p := by
  unfold reach
  split
  · next h => rw [TypeGraph.insert_of_mem (TypeGraph.contains_iff.mp h)]
  · rfl

@[simp] theorem budgets_reach (l' : Lineage) :
    (w.reach l p child remaining).budgets l' = w.budgets l' := by
  unfold reach
  split
  · rfl
  · cases l' <;> rfl

@[simp] theorem graph_enter : (w.enter l name remaining).graph = w.graph := by cases l <;> rfl

@[simp] theorem budgets_enter_self :
    (w.enter l name remaining).budgets l = (w.budgets l).spend name remaining := by
  cases l <;> rfl

@[simp] theorem history_note : (w.note step).history = step :: w.history := rfl

@[simp] theorem history_request : (w.request name t).history = .requested name :: w.history := rfl

@[simp] theorem history_enter :
    (w.enter l name remaining).history = .entered l name remaining :: w.history := by
  cases l <;> rfl

theorem history_reach : (w.reach l p child remaining).history =
    if w.graph.contains p.name then w.history
    else .reached l p.name child.name remaining :: w.history := by
  unfold reach
  split <;> rfl

theorem budgets_enter_of_ne {l l' : Lineage} (h : l' ≠ l) :
    (w.enter l name remaining).budgets l' = w.budgets l' := by
  cases l <;> cases l' <;> first | rfl | exact absurd rfl h

end Walk

/-! ### Growth -/

theorem TypeGraph.prefix_insert (g : TypeGraph) (t : Descriptor) :
    g.types <+: (g.insert t).types := by
  rw [types_insert]
  split
  · exact List.prefix_rfl
  · exact List.prefix_append _ _

theorem TypeGraph.mem_types_insert {g : TypeGraph} {t u : Descriptor} :
    u ∈ (g.insert t).types ↔ u ∈ g.types ∨ t.name ∉ g.names ∧ u = t := by
  rw [types_insert]
  split
  · next h => simp [h]
  · next h => simp [h]

theorem TypeGraph.mem_names_insert (g : TypeGraph) (t : Descriptor) :
    t.name ∈ (g.insert t).names := by
  rw [names_insert]
  split
  · assumption
  · simp

namespace Walk

/-- All that a walk had is still there, in its place. -/
structure Grows (w w' : Walk) : Prop where
  types : w.graph.types <+: w'.graph.types
  covers : ∀ l name remaining, (w.budgets l).Covers name remaining →
    (w'.budgets l).Covers name remaining
  history : w.history <:+ w'.history

namespace Grows

variable {w w₁ w₂ : Walk} {l : Lineage} {name : String} {remaining : Nat}

theorem refl (w : Walk) : Grows w w :=
  ⟨List.prefix_rfl, fun _ _ _ h => h, List.suffix_rfl⟩

theorem trans (h : Grows w w₁) (h' : Grows w₁ w₂) : Grows w w₂ :=
  ⟨h.types.trans h'.types, fun l n r hc => h'.covers l n r (h.covers l n r hc),
    h.history.trans h'.history⟩

theorem mem_types (h : Grows w w₁) {t : Descriptor} (ht : t ∈ w.graph.types) :
    t ∈ w₁.graph.types :=
  h.types.subset ht

theorem mem_names (h : Grows w w₁) (hn : name ∈ w.graph.names) : name ∈ w₁.graph.names := by
  obtain ⟨t, ht, rfl⟩ := List.mem_map.mp hn
  exact List.mem_map_of_mem (h.mem_types ht)

theorem mem_history (h : Grows w w₁) {step : Step} (hs : step ∈ w.history) : step ∈ w₁.history :=
  h.history.subset hs

theorem note (w : Walk) (step : Step) : Grows w (w.note step) :=
  ⟨List.prefix_rfl, fun l _ _ h => by rwa [budgets_note], List.suffix_cons _ _⟩

theorem request (w : Walk) (name : String) (t : Descriptor) : Grows w (w.request name t) :=
  ⟨TypeGraph.prefix_insert _ _, fun l _ _ h => by rwa [budgets_request], List.suffix_cons _ _⟩

theorem reach (w : Walk) (l : Lineage) (p child : Descriptor) (remaining : Nat) :
    Grows w (w.reach l p child remaining) := by
  refine ⟨by rw [graph_reach]; exact TypeGraph.prefix_insert _ _,
    fun l' _ _ h => by rwa [budgets_reach], ?_⟩
  unfold Walk.reach
  split
  · exact List.suffix_rfl
  · exact List.suffix_cons _ _

/-- An expansion may begin only where it is allowed. -/
theorem enter (h : (w.budgets l).allows name remaining) : Grows w (w.enter l name remaining) := by
  refine ⟨by simp, fun l' n r hc => ?_, ?_⟩
  · by_cases hl : l' = l
    · subst hl
      rw [budgets_enter_self]
      exact hc.spend h
    · rwa [budgets_enter_of_ne _ _ _ hl]
  · cases l <;> exact List.suffix_cons _ _

theorem reach_enter {p child : Descriptor} {depth : Nat}
    (h : (w.budgets l).allows p.name remaining) :
    Grows w ((w.reach l p child depth).enter l p.name remaining) :=
  (reach w l p child depth).trans (enter (by rwa [budgets_reach]))

end Grows

/-- An expansion that begins inside of others is covered together with them. -/
theorem covers_reach_enter {w : Walk} {l : Lineage} {p : Descriptor} {remaining : Nat}
    {path : List String} (child : Descriptor) (depth : Nat)
    (h : ∀ n ∈ path, (w.budgets l).Covers n (remaining + 1))
    (ha : (w.budgets l).allows p.name remaining) :
    ∀ n ∈ p.name :: path,
      (((w.reach l p child depth).enter l p.name remaining).budgets l).Covers n remaining := by
  intro n hn
  rcases List.mem_cons.mp hn with rfl | hn
  · rw [budgets_enter_self]
    exact Budgets.covers_spend _ _ _
  · exact (Grows.reach_enter ha).covers _ _ _ ((h n hn).mono (Nat.le_succ remaining))

end Walk

end ClassDiagram
