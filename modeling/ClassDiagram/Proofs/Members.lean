import ClassDiagram.Proofs.Invariants
import ClassDiagram.Proofs.Settles
import Mathlib.Data.List.Nodup

/-!
# The Collected Types

A collection shows the requested types and what chains of superclasses, or chains of interfaces,
reach from them within the depth (`collect_members`).

That nothing else is there holds at every moment of a run (`kept_collected`). That all of it is
there holds at the end only, where every recorded expansion has happened (`Climb.settles`): each
step of a chain finds its type expanded with what the chain has left of the depth, however the walk
came there (`reached_of_chain`).
-/

namespace ClassDiagram.Collection

variable {source : Source} {s : Settings} {l : Lineage} {w w₁ w₂ w' : Walk}

/-! ### Nothing else -/

/-- A type that a chain of one lineage reaches from a requested type within the depth. -/
def Belongs (source : Source) (s : Settings) (roots : List String) (t : Descriptor) : Prop :=
  ∃ name ∈ roots, ∃ root, source name = some root ∧
    ∃ l, ∃ k ≤ s.depth, Chain (Parent source s l) k root t

theorem Belongs.defines {roots : List String} {t : Descriptor} (h : Belongs source s roots t) :
    source.Defines t := by
  obtain ⟨name, -, root, hroot, l, k, -, hc⟩ := h
  exact hc.defines ⟨name, hroot⟩

theorem Reaches.belongs {roots : List String} {k : Nat} {t : Descriptor}
    (h : Reaches source s roots l k t) (hk : k ≤ s.depth) : Belongs source s roots t := by
  obtain ⟨name, hname, root, hroot, hc⟩ := h
  exact ⟨name, hname, root, hroot, l, k, hk, hc⟩

/-- All types that a walk has collected belong to the diagram. -/
def Collected (source : Source) (s : Settings) (roots : List String) (w : Walk) : Prop :=
  ∀ t ∈ w.graph.types, Belongs source s roots t

theorem Collected.insert {roots : List String} {p : Descriptor}
    (h : Collected source s roots w) (hp : Belongs source s roots p)
    (hg : w'.graph = w.graph.insert p) : Collected source s roots w' := by
  intro t ht
  rw [hg] at ht
  rcases TypeGraph.mem_types_insert.mp ht with ht | ⟨-, rfl⟩
  · exact h t ht
  · exact hp

theorem kept_collected {roots : List String} :
    Kept source s roots (Collected source s roots) where
  request hname ht h :=
    h.insert ((reaches_requested (l := .superclass) hname ht).belongs (Nat.zero_le _)) rfl
  note _ h := h
  reach hk hp hd _ h := h.insert ((hk.parent hp).belongs (by omega)) (Walk.graph_reach ..)
  enter _ _ _ h := by rwa [Collected, Walk.graph_enter]

theorem collected_addRoots (roots : List String) :
    Collected source s roots (addRoots source s roots {}).1 :=
  kept_addRoots kept_collected (by simp [Collected, TypeGraph.empty])

/-! ### All of it -/

/-- A parent of `child` has been looked up: it is in the diagram and expanded far enough, or its
absence is on record. -/
def Handled (source : Source) (l : Lineage) (w : Walk) (child : Descriptor) (name : String)
    (remaining : Nat) : Prop :=
  match source name with
  | none => .missing l name child.name ∈ w.history
  | some p => p.name ∈ w.graph.names ∧ (w.budgets l).Covers p.name remaining

namespace Handled

variable {child p : Descriptor} {name : String} {remaining : Nat}

theorem of_none (hn : source name = none) (h : .missing l name child.name ∈ w.history) :
    Handled source l w child name remaining := by
  rwa [Handled, hn]

theorem of_some (hp : source name = some p) (hmem : p.name ∈ w.graph.names)
    (hcov : (w.budgets l).Covers p.name remaining) : Handled source l w child name remaining := by
  rw [Handled, hp]
  exact ⟨hmem, hcov⟩

theorem of_spared (hp : source name = some p) (hcov : (w.budgets l).Covers p.name remaining)
    (k : Nat) (step : Step) :
    Handled source l ((w.reach l p child k).note step) child name remaining := by
  refine of_some hp ?_ (by rwa [Walk.budgets_note, Walk.budgets_reach])
  rw [Walk.graph_note, Walk.graph_reach]
  exact TypeGraph.mem_names_insert _ _

theorem of_entered (hp : source name = some p) (w : Walk) (k : Nat) :
    Handled source l ((w.reach l p child k).enter l p.name remaining) child name remaining := by
  refine of_some hp ?_ ?_
  · rw [Walk.graph_enter, Walk.graph_reach]
    exact TypeGraph.mem_names_insert _ _
  · rw [Walk.budgets_enter_self]
    exact Budgets.covers_spend _ _ _

theorem mono (h : Handled source l w child name remaining) (hg : w.Grows w') :
    Handled source l w' child name remaining := by
  cases hp : source name with
  | none =>
    rw [Handled, hp] at h
    exact of_none hp (hg.mem_history h)
  | some p =>
    rw [Handled, hp] at h
    exact of_some hp (hg.mem_names h.1) (hg.covers _ _ _ h.2)

theorem of_le {remaining' : Nat} (h : Handled source l w child name remaining)
    (hle : remaining' ≤ remaining) : Handled source l w child name remaining' := by
  cases hp : source name with
  | none =>
    rw [Handled, hp] at h
    exact of_none hp h
  | some p =>
    rw [Handled, hp] at h
    exact of_some hp h.1 (h.2.mono hle)

end Handled

/-- A type has been expanded with this much depth: all its parents have been looked up. -/
def Expanded (source : Source) (s : Settings) (w : Walk) (l : Lineage) (t : Descriptor)
    (spent : Nat) : Prop :=
  ∀ name ∈ above s l spent t, Handled source l w t name (spent - 1)

theorem lasting_expanded : Lasting (Expanded source s) :=
  fun _ _ _ _ _ hg he name hn => (he name hn).mono hg

/-- **A run settles what it records** and has looked up all the parents it goes through. -/
theorem Climb.settles {remaining : Nat} {child : Descriptor} {names : List String}
    (h : Climb source s l remaining child names w w') (hs : source.Unambiguous) :
    Settles source (Expanded source s) w w' ∧
      ∀ name ∈ names, Handled source l w' child name (remaining - 1) := by
  have hl : Lasting (Expanded source s) := lasting_expanded
  induction h with
  | done => exact ⟨.refl _, by simp⟩
  | missing _ hn hc ih =>
    refine ⟨(Settles.note _ _).trans hl ih.1, List.forall_mem_cons.mpr ⟨?_, ih.2⟩⟩
    exact (Handled.of_none hn List.mem_cons_self).mono hc.grows
  | spared _ hp hcov hc ih =>
    refine ⟨((Settles.reach ..).trans hl (.note _ _)).trans hl ih.1,
      List.forall_mem_cons.mpr ⟨?_, ih.2⟩⟩
    exact (Handled.of_spared hp hcov _ _).mono hc.grows
  | @expanded remaining child p name names w w₁ w' _ hp ha hc₁ hc₂ ih₁ ih₂ =>
    have hrun : Settles source (Expanded source s) (w.reach l p child (remaining + 1)) w₁ :=
      ih₁.1.expansion hs ⟨_, hp⟩ (by rwa [Walk.budgets_reach]) ih₁.2
    refine ⟨(((Settles.reach ..).trans hl hrun).trans hl (.note _ _)).trans hl ih₂.1,
      List.forall_mem_cons.mpr ⟨?_, ih₂.2⟩⟩
    exact (Handled.of_entered hp w (remaining + 1)).mono
      ((hc₁.grows.trans (.note _ _)).trans hc₂.grows)

theorem settles_ascendRoot (hs : source.Unambiguous) (w : Walk) (l : Lineage) (t : Descriptor)
    (ht : source.Defines t) :
    Settles source (Expanded source s) w (ascendRoot source s l t w) := by
  rcases ascendRoot_cases source s l t w with ⟨-, h⟩ | ⟨ha, w₁, hc, h⟩
  · rw [h]
    exact .refl w
  · have hrun := hc.settles hs
    rw [h]
    exact (hrun.1.expansion hs ht ha hrun.2).trans lasting_expanded (.note _ _)

/-- **All parents of a type are looked up** that has been expanded with depth left. -/
theorem handled_of_covers (hs : source.Unambiguous) {roots : List String} {u : Descriptor}
    {remaining : Nat} (hu : source.Defines u)
    (hcov : ((addRoots source s roots {}).1.budgets l).Covers u.name (remaining + 1)) :
    ∀ name ∈ l.parents s u, Handled source l (addRoots source s roots {}).1 u name remaining := by
  intro name hname
  obtain ⟨spent, hsp, hle⟩ := hcov
  have he := settled_addRoots lasting_expanded (settles_ascendRoot hs) hu hsp
  have habove : above s l spent u = l.parents s u := by
    cases spent with
    | zero => omega
    | succ _ => rfl
  exact (he name (by rwa [habove])).of_le (by omega)

/-- What a chain reaches is in the diagram, and expanded with what the chain leaves of the depth. -/
theorem reached_of_chain (hs : source.Unambiguous) {roots : List String} {name : String}
    {root t : Descriptor} {k : Nat} (hall : ∀ n ∈ roots, (source n).isSome) (hname : name ∈ roots)
    (hroot : source name = some root) (hc : Chain (Parent source s l) k root t)
    (hk : k ≤ s.depth) :
    t.name ∈ (addRoots source s roots {}).1.graph.names ∧
      ((addRoots source s roots {}).1.budgets l).Covers t.name (s.depth - k) := by
  induction hc with
  | refl root =>
    obtain ⟨hmem, hcov⟩ := requested_addRoots (s := s) (w := {}) hall hname hroot
    exact ⟨hmem, hcov l⟩
  | @tail k root u p hru hup ih =>
    -- the chain goes on from `u`, so there is depth left for it
    have hcov := (ih hroot (by omega)).2.mono (show s.depth - (k + 1) + 1 ≤ s.depth - k by omega)
    obtain ⟨m, hm, hp⟩ := parent_iff.mp hup
    have hh := handled_of_covers hs (hru.defines ⟨name, hroot⟩) hcov m hm
    rw [Handled, hp] at hh
    exact hh

theorem mem_types_iff_belongs (hs : source.Unambiguous) {roots : List String} {t : Descriptor}
    (hall : ∀ name ∈ roots, (source name).isSome) :
    t ∈ (addRoots source s roots {}).1.graph.types ↔ Belongs source s roots t := by
  refine ⟨collected_addRoots roots t, fun ht => ?_⟩
  obtain ⟨name, hname, root, hroot, l, k, hk, hc⟩ := id ht
  obtain ⟨u, hu, hut⟩ := List.mem_map.mp (reached_of_chain hs hall hname hroot hc hk).1
  rwa [← hs u t (collected_addRoots roots u hu).defines ht.defines hut]

/-- **The collected types** are the requested ones and the ends of chains within the depth, all in
one lineage; each of them is collected once. -/
theorem collect_members (hs : source.Unambiguous) (s : Settings) {roots : List String}
    (hall : ∀ name ∈ roots, (source name).isSome) :
    ∃ g, collect source s roots = .ok g ∧
      (∀ t, t ∈ g.types ↔ ∃ name ∈ roots, ∃ root, source name = some root ∧
        (t = root ∨
          (∃ k, 1 ≤ k ∧ k ≤ s.depth ∧ Chain (Parent source s .superclass) k root t) ∨
          (∃ k, 1 ≤ k ∧ k ≤ s.depth ∧ Chain (Parent source s .interface) k root t))) ∧
      ∀ t ∈ g.types, g.types.count t = 1 := by
  refine ⟨_, collect_eq_ok_iff.mpr ⟨hall, rfl⟩, fun t => ?_, fun t ht => ?_⟩
  · rw [mem_types_iff_belongs hs hall]
    constructor
    · rintro ⟨name, hname, root, hroot, l, k, hk, hc⟩
      refine ⟨name, hname, root, hroot, ?_⟩
      rcases Nat.eq_zero_or_pos k with rfl | hpos
      · cases hc
        exact Or.inl rfl
      · cases l with
        | superclass => exact Or.inr (Or.inl ⟨k, hpos, hk, hc⟩)
        | interface => exact Or.inr (Or.inr ⟨k, hpos, hk, hc⟩)
    · rintro ⟨name, hname, root, hroot, rfl | ⟨k, -, hk, hc⟩ | ⟨k, -, hk, hc⟩⟩
      · exact ⟨name, hname, t, hroot, .superclass, 0, Nat.zero_le _, .refl t⟩
      · exact ⟨name, hname, root, hroot, _, k, hk, hc⟩
      · exact ⟨name, hname, root, hroot, _, k, hk, hc⟩
  · have hnd : (List.map (·.name) (addRoots source s roots {}).1.graph.types).Nodup :=
      (addRoots source s roots {}).1.graph.names_nodup
    exact List.count_eq_one_of_mem (List.Nodup.of_map _ hnd) ht

/-- `Shared` is first reached on the detour, with too little depth left for `Beyond`. From there
the interfaces go round, and the superclass of `Impl` is unknown. `Impl` goes by another name. -/
def detour : Source := fun name =>
  Catalog.resolve (.ofList
    [{ name := "Impl", superclass := some "Gone", interfaces := ["Detour", "Shared"] },
      { name := "Detour", interfaces := ["Shared"] }, { name := "Shared", interfaces := ["Top"] },
      { name := "Top", interfaces := ["Beyond"] }, { name := "Beyond", interfaces := ["Shared"] }])
    (if name = "Old" then "Impl" else name)

theorem collect_members_detour :
    ∃ g, collect detour { depth := 3 } ["Old"] = .ok g ∧
      { name := "Beyond", interfaces := ["Shared"] } ∈ g.types ∧
      g.types.count { name := "Beyond", interfaces := ["Shared"] } = 1 := by
  have hs : Source.Unambiguous detour := Catalog.unambiguous_resolve _ _
  have hall : ∀ name ∈ ["Old"], (detour name).isSome := by decide
  obtain ⟨g, hg, hmem, hcount⟩ := collect_members hs { depth := 3 } hall
  have hup : ∀ t name p, name ∈ t.interfaces → detour name = some p →
      Parent detour { depth := 3 } .interface t p := fun _ _ _ => .interface
  have hshared := (Chain.refl _).tail (hup
    { name := "Impl", superclass := some "Gone", interfaces := ["Detour", "Shared"] }
    "Shared" _ (by decide) rfl)
  have htop := hshared.tail (hup _ "Top" _ (by decide) rfl)
  have hbeyond := htop.tail (hup _ "Beyond" _ (by decide) rfl)
  have hin := (hmem _).mpr
    ⟨"Old", by decide, _, rfl, Or.inr (Or.inr ⟨3, by decide, by decide, hbeyond⟩)⟩
  exact ⟨g, hg, hin, hcount _ hin⟩

end ClassDiagram.Collection
