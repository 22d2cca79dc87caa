import ClassDiagram.Proofs.Climb
import Mathlib.Data.Set.Card

/-!
# Expansions Inside of Expansions

While a type is expanded its parents are, and while these are expanded their parents are. However
deep a collection goes and however the types refer to one another, the expansions that are going on
at the same time are those of distinct types (`active_distinct`), so they are never more than there
are types.

Nothing looks at the expansions that are going on. That none of them begins again inside of itself
follows from the budgets: each type that is being expanded is covered with more depth than is left
for anything above it, and stays so whatever happens meanwhile (`Climb.nested`).
-/

namespace ClassDiagram

/-- Whether a step begins or ends an expansion in a lineage. -/
def Step.moves (l : Lineage) : Step → Bool
  | .entered l' _ _ | .left l' _ => l' = l
  | _ => false

namespace Collection

variable {source : Source} {s : Settings} {l l' : Lineage} {roots path : List String}
  {w w' : Walk}

/-- The types of a lineage whose expansions are going on, the innermost first. The steps so far are
given with the latest first. -/
def active (l : Lineage) : List Step → List String
  | [] => []
  | .entered l' name _ :: earlier =>
    if l' = l then name :: active l earlier else active l earlier
  | .left l' _ :: earlier => if l' = l then (active l earlier).tail else active l earlier
  | _ :: earlier => active l earlier

/-! ### Nested records -/

/-- A record in which only types of the source are expanded, none of them inside of itself, and only
the innermost expansion ends; with the types whose expansions are going on. -/
inductive Nested (source : Source) (l : Lineage) : List String → List Step → Prop
  | nil : Nested source l [] []
  | enter {t : Descriptor} {remaining : Nat} {path : List String} {earlier : List Step} :
      source.Defines t → t.name ∉ path → Nested source l path earlier →
        Nested source l (t.name :: path) (.entered l t.name remaining :: earlier)
  | leave {name : String} {path : List String} {earlier : List Step} :
      Nested source l (name :: path) earlier → Nested source l path (.left l name :: earlier)
  | other {step : Step} {path : List String} {earlier : List Step} :
      step.moves l = false → Nested source l path earlier → Nested source l path (step :: earlier)

namespace Nested

variable {steps earlier : List Step}

theorem active_eq (h : Nested source l path steps) : active l steps = path := by
  induction h with
  | nil => rfl
  | enter _ _ _ ih => simp [active, ih]
  | leave _ ih => simp [active, ih]
  | @other step _ _ hstep _ ih =>
    cases step with
    | requested | reached | missing | spared => exact ih
    | entered | left => simpa [active, show _ ≠ _ from by simpa [Step.moves] using hstep] using ih

theorem nodup (h : Nested source l path steps) : path.Nodup := by
  induction h with
  | nil => exact List.nodup_nil
  | enter _ hnew _ ih => exact List.nodup_cons.mpr ⟨hnew, ih⟩
  | leave _ ih => exact (List.nodup_cons.mp ih).2
  | other _ _ ih => exact ih

theorem defined (h : Nested source l path steps) :
    ∀ name ∈ path, ∃ t, source.Defines t ∧ t.name = name := by
  induction h with
  | nil => simp
  | @enter t _ _ _ ht _ _ ih => exact List.forall_mem_cons.mpr ⟨⟨t, ht, rfl⟩, ih⟩
  | leave _ ih => exact (List.forall_mem_cons.mp ih).2
  | other _ _ ih => exact ih

theorem head?_of_left {name : String} (h : Nested source l path (.left l name :: earlier)) :
    (active l earlier).head? = some name := by
  cases h with
  | leave h => rw [h.active_eq, List.head?_cons]
  | other hstep => simp [Step.moves] at hstep

/-- At every earlier moment the record was nested too. -/
theorem of_suffix (h : Nested source l path steps) (hs : earlier <:+ steps) :
    ∃ path', Nested source l path' earlier := by
  induction h with
  | nil =>
    rw [List.suffix_nil.mp hs]
    exact ⟨[], .nil⟩
  | enter ht hnew h ih =>
    rcases List.suffix_cons_iff.mp hs with rfl | hs
    · exact ⟨_, .enter ht hnew h⟩
    · exact ih hs
  | leave h ih =>
    rcases List.suffix_cons_iff.mp hs with rfl | hs
    · exact ⟨_, .leave h⟩
    · exact ih hs
  | other hstep h ih =>
    rcases List.suffix_cons_iff.mp hs with rfl | hs
    · exact ⟨_, .other hstep h⟩
    · exact ih hs

theorem reach (h : Nested source l path w.history) (l' : Lineage) (p child : Descriptor)
    (remaining : Nat) : Nested source l path (w.reach l' p child remaining).history := by
  rw [Walk.history_reach]
  split
  · exact h
  · exact h.other rfl

theorem enter_self {t : Descriptor} (h : Nested source l path w.history) (ht : source.Defines t)
    (hnew : t.name ∉ path) (remaining : Nat) :
    Nested source l (t.name :: path) (w.enter l t.name remaining).history := by
  rw [Walk.history_enter]
  exact .enter ht hnew h

/-- The other lineage is of no concern. -/
theorem enter_of_ne (h : Nested source l path w.history) (hl : l' ≠ l) (name : String)
    (remaining : Nat) : Nested source l path (w.enter l' name remaining).history := by
  rw [Walk.history_enter]
  exact h.other (by simp [Step.moves, hl])

theorem left_of_ne (h : Nested source l path w.history) (hl : l' ≠ l) (name : String) :
    Nested source l path (w.note (.left l' name)).history :=
  h.other (by simp [Step.moves, hl])

end Nested

/-! ### Runs -/

/-- **A run keeps its record nested.** It leaves the expansions that are going on as they are; those
of its own lineage are covered with the depth of the type that it goes up from. -/
theorem Climb.nested {remaining : Nat} {child : Descriptor} {names : List String}
    (h : Climb source s l' remaining child names w w') (hn : Nested source l path w.history)
    (hcov : l' = l → ∀ name ∈ path, (w.budgets l).Covers name remaining) :
    Nested source l path w'.history := by
  induction h generalizing path with
  | done => exact hn
  | missing _ _ _ ih =>
    exact ih (hn.other rfl) (by rwa [Walk.budgets_note])
  | spared _ _ _ _ ih =>
    exact ih ((hn.reach ..).other rfl) (by rwa [Walk.budgets_note, Walk.budgets_reach])
  | @expanded remaining child p name _ w w₁ _ hm hp ha hc₁ _ ih₁ ih₂ =>
    refine ih₂ ?_ fun hl n hn => (Climb.grows_expansion ha hc₁).covers _ _ _ (hcov hl n hn)
    by_cases hl : l' = l
    · subst hl
      have hnew := Budgets.not_mem_of_allows (hcov rfl) ha
      have hinside := Walk.covers_reach_enter child (remaining + 1) (hcov rfl) ha
      have hbegun := (hn.reach l' p child (remaining + 1)).enter_self ⟨name, hp⟩ hnew remaining
      exact (ih₁ hbegun fun _ => hinside).leave
    · have hbegun := (hn.reach l' p child (remaining + 1)).enter_of_ne hl p.name remaining
      exact (ih₁ hbegun fun h => absurd h hl).left_of_ne hl p.name

theorem nested_addRoots (roots : List String) :
    Nested source l [] (addRoots source s roots {}).1.history := by
  refine addRoots_invariant (P := fun w => Nested source l [] w.history)
    (fun name _ t w _ hw => hw.other rfl) (fun name _ t w l' ht _ hw => ?_) _ .nil
  rcases ascendRoot_cases source s l' t w with ⟨-, h⟩ | ⟨-, w₁, hc, h⟩
  · rwa [h]
  · rw [h]
    by_cases hl : l' = l
    · subst hl
      have hbegun := hw.enter_self ⟨name, ht⟩ List.not_mem_nil s.depth
      refine (hc.nested hbegun fun _ n hn => ?_).leave
      rw [List.mem_singleton.mp hn, Walk.budgets_enter_self]
      exact Budgets.covers_spend _ _ _
    · have hbegun := hw.enter_of_ne hl t.name s.depth
      exact (hc.nested hbegun fun h => absurd h hl).left_of_ne hl t.name

/-! ### The whole collection -/

/-- The types whose expansions are going on after so many steps of a collection. -/
def activeAfter (source : Source) (s : Settings) (roots : List String) (l : Lineage) (n : Nat) :
    List String :=
  active l ((steps source s roots).take n).reverse

theorem nested_take (n : Nat) :
    ∃ path, Nested source l path ((steps source s roots).take n).reverse := by
  have hall : Nested source l [] (addRoots source s roots {}).1.history := nested_addRoots roots
  refine hall.of_suffix ?_
  rw [steps, List.take_reverse, List.reverse_reverse]
  exact List.drop_suffix _ _

/-- **Expansions that are going on at the same time are those of distinct types**, at every moment
of a collection and at any depth. So there are no more of them than there are names of types in the
source. It is always the innermost one that ends. -/
theorem active_distinct (source : Source) (s : Settings) (roots : List String) (l : Lineage)
    (n : Nat) :
    (activeAfter source s roots l n).Nodup ∧
      ((activeAfter source s roots l n).length : ENat) ≤
        {name | ∃ t, source.Defines t ∧ t.name = name}.encard ∧
      ∀ name, (steps source s roots)[n]? = some (.left l name) →
        (activeAfter source s roots l n).head? = some name := by
  obtain ⟨path, hpath⟩ : ∃ path, Nested source l path ((steps source s roots).take n).reverse :=
    nested_take n
  have hnow : activeAfter source s roots l n = path := hpath.active_eq
  refine ⟨by rw [hnow]; exact hpath.nodup, ?_, fun name hleft => ?_⟩
  · have hnames : (path.toFinset : Set String) ⊆ {name | ∃ t, source.Defines t ∧ t.name = name} :=
      fun name hname => hpath.defined name (by simpa using hname)
    have hcard := Set.encard_le_encard hnames
    rw [Set.encard_coe_eq_coe_finsetCard, List.toFinset_card_of_nodup hpath.nodup] at hcard
    rwa [hnow]
  · obtain ⟨path', hpath'⟩ :
        ∃ path, Nested source l path ((steps source s roots).take (n + 1)).reverse :=
      nested_take (n + 1)
    rw [List.take_add_one, hleft, List.reverse_append] at hpath'
    exact hpath'.head?_of_left

/-- Two interfaces that go round, each by two ways. -/
def rally : Catalog := .ofList
  [{ name := "Ping", interfaces := ["Pong", "Pong"] },
    { name := "Pong", interfaces := ["Ping", "Ping"] }]

/-- Both are expanded at once, and neither of them again above the other. -/
example :
    activeAfter rally.resolve { depth := 9 } ["Ping"] .interface 6 = ["Pong", "Ping"] ∧
      (steps rally.resolve { depth := 9 } ["Ping"]).drop 6 =
        [.spared .interface "Ping" 7, .spared .interface "Ping" 7, .left .interface "Pong",
          .spared .interface "Pong" 8, .left .interface "Ping"] := by
  decide

end Collection

end ClassDiagram
