import ClassDiagram.Proofs.Climb

/-!
# Invariants of a Collection

A walk changes in four ways only: a type is requested, an ancestor is reached, an expansion begins,
or one of the other steps is noted (`Quiet`). `Kept` says what a property of walks has to be kept
by, with all that is known when each of the four happens; what is kept so holds at the end of every
run (`Climb.kept`) and of the whole collection (`kept_addRoots`).

When an ancestor is reached, its child is in the graph, and the steps from a requested type to the
child (`Reaches`) together with the depth that is left make up the whole depth. A parent is missed
only where it is not known (`Unknown`).
-/

namespace ClassDiagram.Collection

variable {source : Source} {s : Settings} {l : Lineage} {roots : List String} {k : Nat}
  {t p : Descriptor}

/-- A chain of this length leads from a requested type to `t`. -/
def Reaches (source : Source) (s : Settings) (roots : List String) (l : Lineage) (k : Nat)
    (t : Descriptor) : Prop :=
  ∃ name ∈ roots, ∃ root, source name = some root ∧ Chain (Parent source s l) k root t

theorem Reaches.parent (h : Reaches source s roots l k t) (hp : Parent source s l t p) :
    Reaches source s roots l (k + 1) p := by
  obtain ⟨name, hname, root, hroot, hc⟩ := h
  exact ⟨name, hname, root, hroot, hc.tail hp⟩

theorem Reaches.defines (h : Reaches source s roots l k t) : source.Defines t := by
  obtain ⟨name, -, root, hroot, hc⟩ := h
  exact hc.defines ⟨name, hroot⟩

theorem reaches_requested {name : String} (hname : name ∈ roots) (ht : source name = some t) :
    Reaches source s roots l 0 t :=
  ⟨name, hname, t, ht, .refl t⟩

/-- `name` is not known and is a parent of `child`, to which a chain leads from a requested type in
less than the depth. -/
def Unknown (source : Source) (s : Settings) (roots : List String) (l : Lineage)
    (name child : String) : Prop :=
  source name = none ∧ ∃ r ∈ roots, ∃ root, source r = some root ∧ ∃ k < s.depth, ∃ u,
    Chain (Parent source s l) k root u ∧ name ∈ l.parents s u ∧ u.name = child

theorem Reaches.unknown {name : String} (h : Reaches source s roots l k t)
    (hname : name ∈ l.parents s t) (hn : source name = none) (hk : k < s.depth) :
    Unknown source s roots l name t.name := by
  obtain ⟨r, hr, root, hroot, hc⟩ := h
  exact ⟨hn, r, hr, root, hroot, k, hk, t, hc, hname, rfl⟩

/-- A step that neither adds a type nor begins an expansion: an expansion ends or is spared, or a
parent is missed that is not known. -/
def Quiet (source : Source) (s : Settings) (roots : List String) : Step → Prop
  | .missing l name child => Unknown source s roots l name child
  | .left .. | .spared .. => True
  | .requested .. | .reached .. | .entered .. => False

/-- All that happens to a walk keeps the property. -/
structure Kept (source : Source) (s : Settings) (roots : List String) (P : Walk → Prop) : Prop where
  request : ∀ {w : Walk} {name : String} {t : Descriptor}, name ∈ roots → source name = some t →
    P w → P (w.request name t)
  note : ∀ {w : Walk} {step : Step}, Quiet source s roots step → P w → P (w.note step)
  reach : ∀ {w : Walk} {l : Lineage} {k remaining : Nat} {child p : Descriptor},
    Reaches source s roots l k child → Parent source s l child p →
    k + (remaining + 1) = s.depth → child.name ∈ w.graph.names →
    P w → P (w.reach l p child (remaining + 1))
  enter : ∀ {w : Walk} {l : Lineage} {k remaining : Nat} {p : Descriptor},
    Reaches source s roots l k p → k + remaining = s.depth →
    (w.budgets l).allows p.name remaining → P w → P (w.enter l p.name remaining)

/-- **A run keeps what each of its steps keeps.** -/
theorem Climb.kept {P : Walk → Prop} {remaining : Nat} {child : Descriptor} {names : List String}
    {w w' : Walk} (h : Climb source s l remaining child names w w')
    (hP : Kept source s roots P) (hk : Reaches source s roots l k child)
    (hd : k + remaining = s.depth) (hchild : child.name ∈ w.graph.names) (hw : P w) : P w' := by
  induction h generalizing k with
  | done => exact hw
  | missing hm hn _ ih =>
    have hunknown := hk.unknown hm hn (by omega)
    exact ih hk hd hchild (hP.note hunknown hw)
  | @spared remaining child p _ _ w _ hm hp _ _ ih =>
    have hpar := parent_iff.mpr ⟨_, hm, hp⟩
    refine ih hk hd ?_ (hP.note trivial (hP.reach hk hpar hd hchild hw))
    exact (Walk.Grows.reach w l p child (remaining + 1)).mem_names hchild
  | @expanded remaining child p _ _ w w₁ _ hm hp ha hc₁ _ ih₁ ih₂ =>
    have hpar := parent_iff.mpr ⟨_, hm, hp⟩
    have hdp : k + 1 + remaining = s.depth := by omega
    have hp₁ : p.name ∈
        ((w.reach l p child (remaining + 1)).enter l p.name remaining).graph.names := by
      rw [Walk.graph_enter, Walk.graph_reach]
      exact TypeGraph.mem_names_insert _ _
    have hw₁ := hP.enter (hk.parent hpar) hdp (by rwa [Walk.budgets_reach])
      (hP.reach hk hpar hd hchild hw)
    refine ih₂ hk hd ((Climb.grows_expansion ha hc₁).mem_names hchild) ?_
    exact hP.note trivial (ih₁ (hk.parent hpar) hdp hp₁ hw₁)

/-- **A collection keeps what each of its steps keeps.** -/
theorem kept_addRoots {P : Walk → Prop} (hP : Kept source s roots P) (hstart : P {}) :
    P (addRoots source s roots {}).1 := by
  refine addRoots_invariant (fun name hname t w ht hw => hP.request hname ht hw)
    (fun name hname t w l ht hmem hw => ?_) _ hstart
  rcases ascendRoot_cases source s l t w with ⟨-, h⟩ | ⟨ha, w₁, hc, h⟩
  · rwa [h]
  · have hk : Reaches source s roots l 0 t := reaches_requested hname ht
    have hd : 0 + s.depth = s.depth := Nat.zero_add _
    rw [h]
    exact hP.note trivial (hc.kept hP hk hd (by rwa [Walk.graph_enter]) (hP.enter hk hd ha hw))

end ClassDiagram.Collection
