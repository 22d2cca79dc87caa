import ClassDiagram.Proofs.Ancestry
import ClassDiagram.Proofs.Walk

/-!
# Runs of a Walk

`Climb` tells how a walk goes through a list of parents: one constructor for each thing that can
happen at a parent, with the run of the expansion inside. `climb_ascend` is the run of a whole walk,
and `Climb.unique` makes it the only one. What holds of collections is shown by induction on runs,
and from there along the requested types (`addRoots_invariant`, `grows_of_requested`).
-/

namespace ClassDiagram.Collection

variable {source : Source} {s : Settings} {l : Lineage}

/-- The names that a type with this much depth left is expanded to. -/
def above (s : Settings) (l : Lineage) : Nat → Descriptor → List String
  | 0, _ => []
  | _ + 1, t => l.parents s t

/-- A run through parents of `child`, which has `remaining` depth left, from one walk to another. -/
inductive Climb (source : Source) (s : Settings) (l : Lineage) :
    Nat → Descriptor → List String → Walk → Walk → Prop
  | done {remaining : Nat} {child : Descriptor} {w : Walk} : Climb source s l remaining child [] w w
  /-- The parent cannot be resolved. -/
  | missing {remaining : Nat} {child : Descriptor} {name : String} {names : List String}
      {w w' : Walk} :
      name ∈ l.parents s child → source name = none →
      Climb source s l (remaining + 1) child names (w.note (.missing l name child.name)) w' →
        Climb source s l (remaining + 1) child (name :: names) w w'
  /-- The parent has been expanded far enough. -/
  | spared {remaining : Nat} {child p : Descriptor} {name : String} {names : List String}
      {w w' : Walk} :
      name ∈ l.parents s child → source name = some p →
      (w.budgets l).Covers p.name remaining →
      Climb source s l (remaining + 1) child names
        ((w.reach l p child (remaining + 1)).note (.spared l p.name remaining)) w' →
        Climb source s l (remaining + 1) child (name :: names) w w'
  /-- The parent is expanded, which leads to `w₁`. -/
  | expanded {remaining : Nat} {child p : Descriptor} {name : String} {names : List String}
      {w w₁ w' : Walk} :
      name ∈ l.parents s child → source name = some p →
      (w.budgets l).allows p.name remaining →
      Climb source s l remaining p (above s l remaining p)
        ((w.reach l p child (remaining + 1)).enter l p.name remaining) w₁ →
      Climb source s l (remaining + 1) child names (w₁.note (.left l p.name)) w' →
        Climb source s l (remaining + 1) child (name :: names) w w'

/-! ### The run of a walk -/

theorem climb_foldl {remaining : Nat} {child : Descriptor}
    (ih : ∀ p w, Climb source s l remaining p (above s l remaining p) w
      (ascend source s l remaining p w)) :
    ∀ (names : List String) (w : Walk), (∀ name ∈ names, name ∈ l.parents s child) →
      Climb source s l (remaining + 1) child names w
        (names.foldl (visit source l child remaining (ascend source s l remaining)) w)
  | [], _, _ => .done
  | name :: names, w, hnames => by
    have hname := hnames name List.mem_cons_self
    have hrest := climb_foldl ih names
      (visit source l child remaining (ascend source s l remaining) w name)
      fun n hn => hnames n (List.mem_cons_of_mem _ hn)
    rw [List.foldl_cons]
    unfold visit at hrest ⊢
    cases hp : source name with
    | none =>
      rw [hp] at hrest
      exact .missing hname hp hrest
    | some p =>
      rw [hp] at hrest
      simp only [Walk.expand, Walk.budgets_reach] at hrest ⊢
      split at hrest
      · next ha =>
        rw [if_pos ha]
        exact .expanded hname hp ha (ih p _) hrest
      · next ha =>
        rw [if_neg ha]
        rw [Budgets.allows_iff, not_not] at ha
        exact .spared hname hp ha hrest

/-- **The run of a walk.** -/
theorem climb_ascend : ∀ (remaining : Nat) (t : Descriptor) (w : Walk),
    Climb source s l remaining t (above s l remaining t) w (ascend source s l remaining t w)
  | 0, _, _ => .done
  | remaining + 1, t, w =>
    climb_foldl (climb_ascend remaining) (l.parents s t) w fun _ h => h

/-- A walk goes one way only. -/
theorem Climb.unique {remaining : Nat} {t : Descriptor} {names : List String} {w w₁ w₂ : Walk}
    (h₁ : Climb source s l remaining t names w w₁) (h₂ : Climb source s l remaining t names w w₂) :
    w₁ = w₂ := by
  induction h₁ generalizing w₂ with
  | done => cases h₂; rfl
  | missing _ hn _ ih =>
    cases h₂ with
    | missing _ _ h => exact ih h
    | spared _ hp => rw [hn] at hp; cases hp
    | expanded _ hp => rw [hn] at hp; cases hp
  | spared _ hp hc _ ih =>
    cases h₂ with
    | missing _ hn => rw [hn] at hp; cases hp
    | spared _ hq _ h =>
      rw [hp, Option.some.injEq] at hq
      subst hq
      exact ih h
    | expanded _ hq ha =>
      rw [hp, Option.some.injEq] at hq
      subst hq
      exact absurd hc (Budgets.allows_iff.mp ha)
  | expanded _ hp ha _ _ ih₁ ih₂ =>
    cases h₂ with
    | missing _ hn => rw [hn] at hp; cases hp
    | spared _ hq hc =>
      rw [hp, Option.some.injEq] at hq
      subst hq
      exact absurd hc (Budgets.allows_iff.mp ha)
    | expanded _ hq _ h h' =>
      rw [hp, Option.some.injEq] at hq
      subst hq
      rw [← ih₁ h] at h'
      exact ih₂ h'

theorem Climb.grows {remaining : Nat} {t : Descriptor} {names : List String} {w w' : Walk}
    (h : Climb source s l remaining t names w w') : w.Grows w' := by
  induction h with
  | done => exact .refl _
  | missing _ _ _ ih => exact (Walk.Grows.note _ _).trans ih
  | spared _ _ _ _ ih => exact ((Walk.Grows.reach ..).trans (.note _ _)).trans ih
  | expanded _ _ ha _ _ ih₁ ih₂ =>
    exact (((Walk.Grows.reach_enter ha).trans ih₁).trans (.note _ _)).trans ih₂

/-- What an expansion has at its end. -/
theorem Climb.grows_expansion {remaining depth : Nat} {child p : Descriptor} {names : List String}
    {w w₁ : Walk} (ha : (w.budgets l).allows p.name remaining)
    (hc : Climb source s l remaining p names
      ((w.reach l p child depth).enter l p.name remaining) w₁) :
    w.Grows (w₁.note (.left l p.name)) :=
  ((Walk.Grows.reach_enter ha).trans hc.grows).trans (.note _ _)

/-! ### Requested types -/

/-- A walk begins at a requested type, or has been there with the full depth. -/
theorem ascendRoot_cases (source : Source) (s : Settings) (l : Lineage) (t : Descriptor)
    (w : Walk) :
    ((w.budgets l).Covers t.name s.depth ∧ ascendRoot source s l t w = w) ∨
      (w.budgets l).allows t.name s.depth ∧ ∃ w₁,
        Climb source s l s.depth t (above s l s.depth t) (w.enter l t.name s.depth) w₁ ∧
        ascendRoot source s l t w = w₁.note (.left l t.name) := by
  unfold ascendRoot
  split
  · next ha => exact Or.inr ⟨ha, _, climb_ascend _ _ _, rfl⟩
  · next ha =>
    rw [Budgets.allows_iff, not_not] at ha
    exact Or.inl ⟨ha, rfl⟩

theorem grows_ascendRoot (source : Source) (s : Settings) (l : Lineage) (t : Descriptor)
    (w : Walk) : w.Grows (ascendRoot source s l t w) := by
  rcases ascendRoot_cases source s l t w with ⟨-, h⟩ | ⟨ha, w₁, hc, h⟩
  · rw [h]; exact .refl w
  · rw [h]; exact ((Walk.Grows.enter ha).trans hc.grows).trans (.note _ _)

theorem covers_ascendRoot (source : Source) (s : Settings) (l : Lineage) (t : Descriptor)
    (w : Walk) : ((ascendRoot source s l t w).budgets l).Covers t.name s.depth := by
  rcases ascendRoot_cases source s l t w with ⟨hc, h⟩ | ⟨-, w₁, hc, h⟩
  · rwa [h]
  · rw [h, Walk.budgets_note]
    refine hc.grows.covers l _ _ ?_
    rw [Walk.budgets_enter_self]
    exact Budgets.covers_spend _ _ _

theorem grows_addRoot (source : Source) (s : Settings) (name : String) (t : Descriptor)
    (w : Walk) : w.Grows (addRoot source s name t w) :=
  ((Walk.Grows.request w name t).trans (grows_ascendRoot ..)).trans (grows_ascendRoot ..)

theorem grows_addRoots : ∀ (names : List String) (w : Walk),
    w.Grows (addRoots source s names w).1
  | [], w => .refl w
  | name :: names, w => by
    unfold addRoots
    split
    · exact .refl w
    · exact (grows_addRoot ..).trans (grows_addRoots names _)

/-- The one that stops a collection is the first that cannot be resolved. -/
theorem addRoots_snd : ∀ (names : List String) (w : Walk),
    (addRoots source s names w).2 = names.find? fun name => (source name).isNone
  | [], _ => rfl
  | name :: names, w => by
    unfold addRoots
    cases h : source name with
    | none => simp [h]
    | some t => simp [h, addRoots_snd names]

theorem collect_eq_ok_iff {roots : List String} {g : TypeGraph} :
    collect source s roots = .ok g ↔
      (∀ name ∈ roots, (source name).isSome) ∧ (addRoots source s roots {}).1.graph = g := by
  have h : (addRoots source s roots {}).2 = roots.find? fun name => (source name).isNone :=
    addRoots_snd roots {}
  unfold collect
  split
  · next w hw =>
    rw [hw] at h ⊢
    have hall : ∀ name ∈ roots, (source name).isSome := by
      simpa [Option.isSome_iff_ne_none] using List.find?_eq_none.mp h.symm
    simp only [Except.ok.injEq]
    exact ⟨fun hg => ⟨hall, hg⟩, fun hg => hg.2⟩
  · next w name hw =>
    rw [hw] at h
    have hn : source name = none := by simpa using List.find?_some h.symm
    have hm := List.mem_of_find?_eq_some h.symm
    simp only [reduceCtorEq, false_iff, not_and]
    intro hall
    simpa [hn] using hall name hm

/-- A collection fails for the first requested type that does not resolve. -/
theorem collect_eq_error_iff {roots : List String} {e : Error} :
    collect source s roots = .error e ↔
      ∃ name, roots.find? (fun name => (source name).isNone) = some name ∧
        .unresolvedType name = e := by
  rw [← addRoots_snd (s := s) roots {}]
  unfold collect
  split
  · next w hw => simp [hw]
  · next w name hw => simp [hw]

/-- What requests and the walks that begin at them keep holds of the whole collection. -/
theorem addRoots_invariant {P : Walk → Prop} {names : List String}
    (hreq : ∀ name ∈ names, ∀ t w, source name = some t → P w → P (w.request name t))
    (hasc : ∀ name ∈ names, ∀ t w l, source name = some t → t.name ∈ w.graph.names → P w →
      P (ascendRoot source s l t w)) (w : Walk) (hw : P w) : P (addRoots source s names w).1 := by
  induction names generalizing w with
  | nil => exact hw
  | cons name names ih =>
    unfold addRoots
    split
    · exact hw
    · next t ht =>
      refine ih (fun n hn => hreq n (List.mem_cons_of_mem _ hn))
        (fun n hn => hasc n (List.mem_cons_of_mem _ hn)) _ ?_
      have hmem : t.name ∈ (w.request name t).graph.names := TypeGraph.mem_names_insert _ _
      have hname : name ∈ name :: names := List.mem_cons_self
      have hsup := hasc name hname t _ .superclass ht hmem (hreq name hname t w ht hw)
      exact hasc name hname t _ .interface ht ((grows_ascendRoot ..).mem_names hmem) hsup

/-- A collection goes on from where it has added a requested type. -/
theorem grows_of_requested : ∀ {names : List String} {w : Walk} {name : String} {t : Descriptor},
    (∀ n ∈ names, (source n).isSome) → name ∈ names → source name = some t →
      ∃ w₁, (addRoot source s name t w₁).Grows (addRoots source s names w).1
  | n :: names, w, name, t, hall, hname, ht => by
    obtain ⟨u, hu⟩ := Option.isSome_iff_exists.mp (hall n List.mem_cons_self)
    simp only [addRoots, hu]
    rcases List.mem_cons.mp hname with rfl | hname
    · rw [ht, Option.some.injEq] at hu
      subst hu
      exact ⟨w, grows_addRoots _ _⟩
    · exact grows_of_requested (fun m hm => hall m (List.mem_cons_of_mem _ hm)) hname ht

/-- A type that has been requested is in the graph and has been expanded with the full depth. -/
theorem requested_addRoots {names : List String} {w : Walk} {name : String} {t : Descriptor}
    (hall : ∀ n ∈ names, (source n).isSome) (hname : name ∈ names) (ht : source name = some t) :
    t.name ∈ (addRoots source s names w).1.graph.names ∧
      ∀ l, ((addRoots source s names w).1.budgets l).Covers t.name s.depth := by
  obtain ⟨w₁, hg⟩ := grows_of_requested (s := s) (w := w) hall hname ht
  have hsup := grows_ascendRoot source s .superclass t (w₁.request name t)
  have hint := grows_ascendRoot source s .interface t
    (ascendRoot source s .superclass t (w₁.request name t))
  refine ⟨hg.mem_names ((hsup.trans hint).mem_names (TypeGraph.mem_names_insert _ _)),
    fun l => hg.covers _ _ _ ?_⟩
  cases l with
  | superclass => exact hint.covers _ _ _ (covers_ascendRoot ..)
  | interface => exact covers_ascendRoot ..

end ClassDiagram.Collection
