import ClassDiagram.Proofs.Settles
import Mathlib.Logic.Relation

/-!
# The Walk without Budgets

`plainCollect` collects the same way, but expands whatever it comes to. Where the interfaces of a
source have no cycle, the budgets change nothing at all: not the types, and not their order
(`collect_eq_plainCollect`).

An expansion that the budgets leave out adds nothing, for all that it could reach is there
(`Within`). Of a type whose expansion is over, that is what the expansion has left behind. A type
whose expansion still goes on lies below itself: for interfaces this is the excluded cycle, and a
line of superclasses that comes back to a type has gone through all there is (`Returning`).
-/

section

open Relation (ReflTransGen TransGen)

namespace ClassDiagram.Collection

variable {source : Source} {s : Settings} {l : Lineage} {w w₁ w' : Walk}

/-! ### The plain walk -/

/-- One step up without budgets. -/
def plainVisit (source : Source) (walk : Descriptor → TypeGraph → TypeGraph) (g : TypeGraph)
    (name : String) : TypeGraph :=
  match source name with
  | none => g
  | some p => walk p (g.insert p)

/-- The walk up without budgets. -/
def plainAscend (source : Source) (s : Settings) (l : Lineage) :
    Nat → Descriptor → TypeGraph → TypeGraph
  | 0, _, g => g
  | remaining + 1, child, g =>
    (l.parents s child).foldl (plainVisit source (plainAscend source s l remaining)) g

/-- Adds a requested type and its ancestors without budgets. -/
def plainAddRoot (source : Source) (s : Settings) (t : Descriptor) (g : TypeGraph) : TypeGraph :=
  plainAscend source s .interface s.depth t
    (plainAscend source s .superclass s.depth t (g.insert t))

/-- Adds requested types one after another without budgets. -/
def plainAddRoots (source : Source) (s : Settings) :
    List String → TypeGraph → Except Error TypeGraph
  | [], g => .ok g
  | name :: names, g =>
    match source name with
    | none => .error (.unresolvedType name)
    | some t => plainAddRoots source s names (plainAddRoot source s t g)

/-- The collection without budgets. -/
def plainCollect (source : Source) (s : Settings) (roots : List String) : Except Error TypeGraph :=
  plainAddRoots source s roots .empty

theorem plainAscend_eq (remaining : Nat) (t : Descriptor) (g : TypeGraph) :
    plainAscend source s l remaining t g = (above s l remaining t).foldl
      (plainVisit source (plainAscend source s l (remaining - 1))) g := by
  cases remaining <;> rfl

/-! ### What is there already -/

/-- All that chains of this length reach from a type, the type itself included, is in the graph. -/
def Within (source : Source) (s : Settings) (g : TypeGraph) (l : Lineage) (t : Descriptor)
    (k : Nat) : Prop :=
  ∀ j ≤ k, ∀ u, Chain (Parent source s l) j t u → u.name ∈ g.names

namespace Within

variable {g g' : TypeGraph} {t p : Descriptor} {k m : Nat}

theorem mono (h : Within source s g l t k) (hg : ∀ n ∈ g.names, n ∈ g'.names) :
    Within source s g' l t k :=
  fun j hj u hu => hg _ (h j hj u hu)

theorem of_le (h : Within source s g l t k) (hm : m ≤ k) : Within source s g l t m :=
  fun j hj u hu => h j (Nat.le_trans hj hm) u hu

theorem parent (h : Within source s g l t (k + 1)) (hp : Parent source s l t p) :
    Within source s g l p k :=
  fun j hj u hu => h (j + 1) (by omega) u (hu.head hp)

theorem of_above (ht : t.name ∈ g.names)
    (h : ∀ name ∈ above s l k t, ∀ p, source name = some p → Within source s g l p (k - 1)) :
    Within source s g l t k := by
  intro j hj u hu
  cases j with
  | zero =>
    cases hu
    exact ht
  | succ j =>
    obtain ⟨p, hp, hpu⟩ := hu.exists_head
    obtain ⟨name, hname, hp⟩ := parent_iff.mp hp
    cases k with
    | zero => omega
    | succ k => exact h name hname p hp j (by omega) u hpu

/-- An expansion that can only reach what is there adds nothing. -/
theorem plainAscend_eq_self : ∀ {k : Nat} {t : Descriptor}, Within source s g l t k →
    plainAscend source s l k t g = g
  | 0, _, _ => rfl
  | k + 1, t, h => by
    have hstep : ∀ name ∈ l.parents s t,
        plainVisit source (plainAscend source s l k) g name = g := by
      intro name hname
      unfold plainVisit
      cases hp : source name with
      | none => rfl
      | some p =>
        have hw := h.parent (parent_iff.mpr ⟨name, hname, hp⟩)
        show plainAscend source s l k p (g.insert p) = g
        rw [TypeGraph.insert_of_mem (hw 0 (Nat.zero_le _) p (.refl p)), plainAscend_eq_self hw]
    show (l.parents s t).foldl _ g = g
    generalize l.parents s t = names at hstep
    induction names with
    | nil => rfl
    | cons name names ih =>
      rw [List.foldl_cons, hstep name List.mem_cons_self]
      exact ih fun n hn => hstep n (List.mem_cons_of_mem _ hn)

end Within

/-- The types that a finished expansion can reach are there. -/
def Complete (source : Source) (s : Settings) (w : Walk) (l : Lineage) (t : Descriptor)
    (spent : Nat) : Prop :=
  Within source s w.graph l t spent

theorem lasting_complete : Lasting (Complete source s) :=
  fun _ _ _ _ _ hg hc => Within.mono hc fun _ hn => hg.mem_names hn

/-! ### Coming back -/

/-- A step up to a type that is in the graph. -/
def Passes (source : Source) (s : Settings) (l : Lineage) (g : TypeGraph) (t p : Descriptor) :
    Prop :=
  Parent source s l t p ∧ p.name ∈ g.names

theorem Passes.mono {g g' : TypeGraph} (hg : ∀ n ∈ g.names, n ∈ g'.names) {t p : Descriptor}
    (h : Passes source s l g t p) : Passes source s l g' t p :=
  ⟨h.1, hg _ h.2⟩

/-- Where a way through the graph comes back to a type, it has been through all that the type can
reach. -/
def Returning (source : Source) (s : Settings) (l : Lineage) : Prop :=
  ∀ g t k, TransGen (Passes source s l g) t t → Within source s g l t k

/-- A line of superclasses does not branch, so one that comes back goes round for ever. -/
theorem returning_superclass : Returning source s .superclass := by
  rintro g t k hcyc j - u hu
  -- a step up from a type on a round is the next step of the round
  have hround : TransGen (Passes source s .superclass g) u u := by
    induction hu with
    | refl => exact hcyc
    | tail _ hup ih =>
      obtain ⟨q, hq, hrest⟩ := TransGen.head'_iff.mp (ih hcyc)
      rw [hup.superclass_unique hq.1]
      exact TransGen.tail' hrest hq
  obtain ⟨b, -, hb⟩ := TransGen.tail'_iff.mp hround
  exact hb.2

theorem returning_of_acyclic (h : ∀ t, ¬ TransGen (Parent source s l) t t) :
    Returning source s l :=
  fun _ t _ hcyc => absurd (TransGen.mono (fun _ _ hp => hp.1) _ _ hcyc) (h t)

/-- Each recorded expansion is over, or goes on above `child`. -/
def Pending (source : Source) (s : Settings) (l : Lineage) (w : Walk) (child : Descriptor) : Prop :=
  ∀ u spent, source.Defines u → (w.budgets l).latest u.name = some spent →
    Complete source s w l u spent ∨ ReflTransGen (Passes source s l w.graph) u child

namespace Pending

variable {child p : Descriptor} {remaining : Nat}

/-- A run that settles its records leaves pending what was pending before. -/
theorem settled (h : Pending source s l w child)
    (hs : Settles source (Complete source s) w w') : Pending source s l w' child := by
  intro u spent hu hsp
  rcases hs.settled l u spent hu hsp with hsp | hc
  · have hg : ∀ n ∈ w.graph.names, n ∈ w'.graph.names := fun _ hn => hs.grows.mem_names hn
    exact (h u spent hu hsp).imp (fun hc => Within.mono hc hg)
      (ReflTransGen.mono (fun _ _ hp => hp.mono hg) _ _)
  · exact Or.inl hc

/-- The expansion of a parent goes on above the parent. -/
theorem enter (hs : source.Unambiguous) (h : Pending source s l w child)
    (hp : Passes source s l w.graph child p) :
    Pending source s l (w.enter l p.name remaining) p := by
  intro u spent hu hsp
  rw [Complete, Walk.graph_enter]
  rcases Settles.latest_enter_cases hs hp.1.defines hu hsp with hsp | ⟨-, rfl, -⟩
  · exact (h u spent hu hsp).imp id fun hway => hway.tail hp
  · exact Or.inr .refl

/-- What a parent is spared can add nothing. -/
theorem within_of_covers (h : Pending source s l w child) (hr : Returning source s l)
    (hp : Passes source s l w.graph child p) (hc : (w.budgets l).Covers p.name remaining) :
    Within source s w.graph l p remaining := by
  obtain ⟨spent, hsp, hle⟩ := hc
  rcases h p spent hp.1.defines hsp with hc | hway
  · exact Within.of_le hc hle
  · exact hr _ p _ (TransGen.tail' hway hp)

end Pending

/-! ### Two walks, one graph -/

/-- **A run adds what the plain walk adds**, and all that its parents can reach is there. -/
theorem Climb.graph_eq {remaining : Nat} {child : Descriptor} {names : List String}
    (h : Climb source s l remaining child names w w') (hs : source.Unambiguous)
    (hr : Returning source s l) (hw : Pending source s l w child) :
    w'.graph = names.foldl (plainVisit source (plainAscend source s l (remaining - 1))) w.graph ∧
      Settles source (Complete source s) w w' ∧
      ∀ name ∈ names, ∀ p, source name = some p →
        Within source s w'.graph l p (remaining - 1) := by
  have hl : Lasting (Complete source s) := lasting_complete
  induction h with
  | done => exact ⟨rfl, .refl _, by simp⟩
  | missing _ hn hc ih =>
    obtain ⟨hgraph, hset, hall⟩ := ih (hw.settled (.note _ _))
    refine ⟨?_, (Settles.note _ _).trans hl hset, List.forall_mem_cons.mpr ⟨fun p hp => ?_, hall⟩⟩
    · rw [hgraph, List.foldl_cons, plainVisit, hn, Walk.graph_note]
    · rw [hn] at hp
      cases hp
  | @spared remaining child p name names w w' hm hp hcov hc ih =>
    have hset₁ : Settles source (Complete source s) w
        ((w.reach l p child (remaining + 1)).note (.spared l p.name remaining)) :=
      (Settles.reach ..).trans hl (.note _ _)
    have hw₁ := hw.settled hset₁
    have hpass : Passes source s l (w.graph.insert p) child p :=
      ⟨parent_iff.mpr ⟨name, hm, hp⟩, TypeGraph.mem_names_insert _ _⟩
    have hwithin : Within source s (w.graph.insert p) l p remaining := by
      rw [← Walk.graph_reach w l (remaining + 1) p child] at hpass ⊢
      exact hw₁.within_of_covers hr hpass (by rwa [Walk.budgets_note, Walk.budgets_reach])
    obtain ⟨hgraph, hset, hall⟩ := ih hw₁
    refine ⟨?_, hset₁.trans hl hset, List.forall_mem_cons.mpr ⟨fun q hq => ?_, hall⟩⟩
    · rw [hgraph, List.foldl_cons, plainVisit, hp, Walk.graph_note, Walk.graph_reach]
      simp only [Nat.add_sub_cancel, hwithin.plainAscend_eq_self]
    · obtain rfl : p = q := Option.some.inj (hp.symm.trans hq)
      refine hwithin.mono fun n hn => hset.grows.mem_names ?_
      rwa [Walk.graph_note, Walk.graph_reach]
  | @expanded remaining child p name names w w₁ w' hm hp ha hc₁ hc₂ ih₁ ih₂ =>
    have hpass : Passes source s l (w.reach l p child (remaining + 1)).graph child p := by
      rw [Walk.graph_reach]
      exact ⟨parent_iff.mpr ⟨name, hm, hp⟩, TypeGraph.mem_names_insert _ _⟩
    have hreach := hw.settled (Settles.reach w l p child (remaining + 1))
    -- until this is over, `p` is on record but not complete, and pending above itself
    obtain ⟨hgraph₁, hset₁, hall₁⟩ := ih₁ (hreach.enter hs hpass)
    have hcomplete : Complete source s w₁ l p remaining :=
      Within.of_above (hset₁.grows.mem_names (by rw [Walk.graph_enter]; exact hpass.2)) hall₁
    have hset : Settles source (Complete source s) w (w₁.note (.left l p.name)) :=
      ((Settles.reach ..).trans hl (hset₁.expansion hs ⟨name, hp⟩ (by rwa [Walk.budgets_reach])
        hcomplete)).trans hl (.note _ _)
    obtain ⟨hgraph₂, hset₂, hall₂⟩ := ih₂ (hw.settled hset)
    refine ⟨?_, hset.trans hl hset₂, List.forall_mem_cons.mpr ⟨fun q hq => ?_, hall₂⟩⟩
    · rw [hgraph₂, List.foldl_cons, plainVisit, hp, Walk.graph_note, hgraph₁, ← plainAscend_eq,
        Walk.graph_enter, Walk.graph_reach]
      rfl
    · obtain rfl : p = q := Option.some.inj (hp.symm.trans hq)
      exact hcomplete.mono fun n hn => hset₂.grows.mem_names hn

/-- All recorded expansions are over. -/
def AllComplete (source : Source) (s : Settings) (w : Walk) : Prop :=
  ∀ l u spent, source.Defines u → (w.budgets l).latest u.name = some spent →
    Complete source s w l u spent

theorem AllComplete.settled (h : AllComplete source s w)
    (hs : Settles source (Complete source s) w w') : AllComplete source s w' := by
  intro l u spent hu hsp
  rcases hs.settled l u spent hu hsp with hsp | hc
  · exact lasting_complete _ _ _ _ _ hs.grows (h l u spent hu hsp)
  · exact hc

theorem ascendRoot_eq_plainAscend {t : Descriptor} (hs : source.Unambiguous)
    (hr : Returning source s l) (ht : source.Defines t) (hmem : t.name ∈ w.graph.names)
    (hw : AllComplete source s w) :
    (ascendRoot source s l t w).graph = plainAscend source s l s.depth t w.graph ∧
      Settles source (Complete source s) w (ascendRoot source s l t w) := by
  rcases ascendRoot_cases source s l t w with ⟨⟨spent, hsp, hle⟩, h⟩ | ⟨ha, w₁, hc, h⟩
  · rw [h]
    have hwithin := Within.of_le (hw l t spent ht hsp) hle
    exact ⟨hwithin.plainAscend_eq_self.symm, .refl w⟩
  · have hpending : Pending source s l (w.enter l t.name s.depth) t := by
      intro u spent hu hsp
      rcases Settles.latest_enter_cases hs ht hu hsp with hsp | ⟨-, rfl, -⟩
      · exact Or.inl (by rw [Complete, Walk.graph_enter]; exact hw l u spent hu hsp)
      · exact Or.inr .refl
    obtain ⟨hgraph, hset, hall⟩ := hc.graph_eq hs hr hpending
    have hcomplete : Complete source s w₁ l t s.depth :=
      Within.of_above (hset.grows.mem_names (by rwa [Walk.graph_enter])) hall
    rw [h]
    refine ⟨?_, (hset.expansion hs ht ha hcomplete).trans lasting_complete (.note _ _)⟩
    rw [Walk.graph_note, hgraph, ← plainAscend_eq, Walk.graph_enter]

theorem plainAddRoots_eq (hs : source.Unambiguous) (hr : ∀ l, Returning source s l) :
    ∀ (names : List String) (w : Walk), AllComplete source s w →
      plainAddRoots source s names w.graph =
        match addRoots source s names w with
        | (w', none) => .ok w'.graph
        | (_, some name) => .error (.unresolvedType name)
  | [], _, _ => rfl
  | name :: names, w, hw => by
    unfold plainAddRoots addRoots
    cases ht : source name with
    | none => rfl
    | some t =>
      have hw₀ := hw.settled (Settles.request w name t)
      have hmem : t.name ∈ (w.request name t).graph.names := TypeGraph.mem_names_insert _ _
      obtain ⟨hgraph₁, hset₁⟩ :=
        ascendRoot_eq_plainAscend hs (hr .superclass) ⟨name, ht⟩ hmem hw₀
      have hw₁ := hw₀.settled hset₁
      obtain ⟨hgraph₂, hset₂⟩ := ascendRoot_eq_plainAscend hs (hr .interface) ⟨name, ht⟩
        (hset₁.grows.mem_names hmem) hw₁
      have hgraph : (addRoot source s name t w).graph = plainAddRoot source s t w.graph := by
        rw [addRoot, hgraph₂, hgraph₁]
        rfl
      show plainAddRoots source s names (plainAddRoot source s t w.graph) = _
      rw [← hgraph]
      exact plainAddRoots_eq hs hr names _ (hw₁.settled hset₂)

/-- Where some rank rises along the interfaces of a catalog, they have no cycle. -/
theorem not_transGen_of_rank {c : Catalog} (rank : String → Nat)
    (h : ∀ t ∈ c.entries, ∀ name ∈ t.interfaces, (c.resolve name).isSome →
      rank t.name < rank name) (t : Descriptor) :
    ¬ TransGen (Parent c.resolve s .interface) t t := by
  have hup : ∀ u v, u ∈ c.entries → Parent c.resolve s .interface u v →
      rank u.name < rank v.name := by
    intro u v hu huv
    cases huv with
    | @interface _ _ name hname hv =>
      rw [Catalog.name_of_resolve hv]
      exact h u hu name hname (by rw [hv]; rfl)
  have hway : ∀ u v, u ∈ c.entries → TransGen (Parent c.resolve s .interface) u v →
      v ∈ c.entries ∧ rank u.name < rank v.name := by
    intro u v hu huv
    induction huv with
    | single hp =>
      obtain ⟨_, hv⟩ := hp.defines
      exact ⟨Catalog.mem_of_resolve hv, hup _ _ hu hp⟩
    | tail _ hp ih =>
      obtain ⟨_, hv⟩ := hp.defines
      exact ⟨Catalog.mem_of_resolve hv, Nat.lt_trans ih.2 (hup _ _ ih.1 hp)⟩
  intro hcyc
  obtain ⟨_, -, hp⟩ := TransGen.tail'_iff.mp hcyc
  obtain ⟨_, ht⟩ := hp.defines
  exact Nat.lt_irrefl _ (hway t t (Catalog.mem_of_resolve ht) hcyc).2

/-- **The budgets change nothing** where the interfaces have no cycle: the plain walk collects the
same types in the same order. Superclasses may go round. -/
theorem collect_eq_plainCollect (hs : source.Unambiguous) (s : Settings) {roots : List String}
    (hall : ∀ name ∈ roots, (source name).isSome)
    (hacyclic : ∀ t, ¬ TransGen (Parent source s .interface) t t) :
    ∃ g, collect source s roots = .ok g ∧ plainCollect source s roots = .ok g := by
  have hr : ∀ l, Returning source s l
    | .superclass => returning_superclass
    | .interface => returning_of_acyclic hacyclic
  have hstart : AllComplete source s {} := by
    intro l u spent _ hsp
    cases l <;> simp [Walk.budgets, Budgets.latest] at hsp
  have hplain := plainAddRoots_eq hs hr roots {} hstart
  have hok := collect_eq_ok_iff (s := s).mpr ⟨hall, rfl⟩
  refine ⟨_, hok, ?_⟩
  rw [← hok, collect]
  exact hplain

/-- A line of superclasses that goes round, and interfaces that meet again. -/
def nest : Catalog := .ofList
  [{ name := "Hen", superclass := some "Egg", interfaces := ["Layer", "Bird"] },
    { name := "Egg", superclass := some "Hen", interfaces := ["Shell"] },
    { name := "Layer", interfaces := ["Bird"] }, { name := "Bird", interfaces := ["Animal"] },
    { name := "Animal" }]

theorem collect_eq_plainCollect_nest :
    ∃ g, collect nest.resolve { depth := 3 } ["Hen"] = .ok g ∧
      plainCollect nest.resolve { depth := 3 } ["Hen"] = .ok g ∧
      g.names = ["Hen", "Egg", "Layer", "Bird", "Animal"] := by
  have hacyclic : ∀ t, ¬ TransGen (Parent nest.resolve { depth := 3 } .interface) t t :=
    not_transGen_of_rank
      (fun name => ["Hen", "Egg", "Layer", "Bird", "Animal"].idxOf name) (by decide)
  have hs : nest.resolve.Unambiguous := nest.unambiguous_resolve id
  obtain ⟨g, hcollect, hplain⟩ := collect_eq_plainCollect hs { depth := 3 }
    (show ∀ name ∈ ["Hen"], (nest.resolve name).isSome by decide) hacyclic
  have hnames : (collect nest.resolve { depth := 3 } ["Hen"]).map (·.names) =
      .ok ["Hen", "Egg", "Layer", "Bird", "Animal"] := by decide
  rw [hcollect] at hnames
  exact ⟨g, hcollect, hplain, Except.ok.inj hnames⟩

/-- The plain walk expands `A` again above `B`, and comes to `C` before it comes to `D`. -/
def ring : Catalog := .ofList
  [{ name := "A", interfaces := ["B", "C"] }, { name := "B", interfaces := ["A", "D"] },
    { name := "C" }, { name := "D" }]

/-- Where interfaces go round, the order is another one. -/
example :
    ((collect ring.resolve { depth := 3 } ["A"]).map (·.names),
      (plainCollect ring.resolve { depth := 3 } ["A"]).map (·.names)) =
      (.ok ["A", "B", "D", "C"], .ok ["A", "B", "C", "D"]) := by
  decide

end ClassDiagram.Collection

end
