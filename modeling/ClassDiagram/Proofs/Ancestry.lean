import ClassDiagram.Collection

/-!
# Chains of Ancestors

What a collection is about, said without walks and budgets: `Parent` is one step up from a type in
one lineage, and a `Chain` of parents leads from a type to its ancestors. A source is `Unambiguous`
if no two of its types have the same name, whatever names it finds them under; catalogs are, also
behind other names.
-/

namespace ClassDiagram

/-! ### Chains -/

/-- A chain of that many steps of a relation. -/
inductive Chain {α : Type} (r : α → α → Prop) : Nat → α → α → Prop
  | refl (a : α) : Chain r 0 a a
  | tail {k : Nat} {a b c : α} : Chain r k a b → r b c → Chain r (k + 1) a c

namespace Chain

variable {α : Type} {r r' : α → α → Prop} {k : Nat} {a b c : α}

theorem head (hab : r a b) (hbc : Chain r k b c) : Chain r (k + 1) a c := by
  induction hbc with
  | refl => exact .tail (.refl a) hab
  | tail _ hcd ih => exact .tail (ih hab) hcd

theorem exists_head (hac : Chain r (k + 1) a c) : ∃ b, r a b ∧ Chain r k b c := by
  induction k generalizing c with
  | zero =>
    cases hac with
    | tail hab hbc =>
      cases hab
      exact ⟨c, hbc, .refl c⟩
  | succ k ih =>
    cases hac with
    | tail hab hbc =>
      obtain ⟨b, hb, hrest⟩ := ih hab
      exact ⟨b, hb, hrest.tail hbc⟩

/-- What rises by one at most with each step rises by the length of a chain at most. -/
theorem le_add {f : α → Nat} (hf : ∀ a b, r a b → f b ≤ f a + 1) (hab : Chain r k a b) :
    f b ≤ f a + k := by
  induction hab with
  | refl => exact Nat.le_refl _
  | tail _ hbc ih =>
    have := hf _ _ hbc
    omega

theorem mono (h : ∀ a b, r a b → r' a b) (hab : Chain r k a b) : Chain r' k a b := by
  induction hab with
  | refl => exact .refl _
  | tail _ hbc ih => exact .tail ih (h _ _ hbc)

end Chain

/-! ### Sources -/

namespace Source

/-- The source gives this type under some name. -/
def Defines (source : Source) (t : Descriptor) : Prop := ∃ name, source name = some t

/-- The types of a source are told apart by their names. -/
def Unambiguous (source : Source) : Prop :=
  ∀ t u, source.Defines t → source.Defines u → t.name = u.name → t = u

end Source

theorem Catalog.name_of_resolve {c : Catalog} {name : String} {t : Descriptor}
    (h : c.resolve name = some t) : t.name = name := by
  simpa using List.find?_some h

theorem Catalog.mem_of_resolve {c : Catalog} {name : String} {t : Descriptor}
    (h : c.resolve name = some t) : t ∈ c.entries :=
  List.mem_of_find?_eq_some h

/-- A catalog behind other names for its types is unambiguous; the plain catalog is the one behind
the names themselves. -/
theorem Catalog.unambiguous_resolve (c : Catalog) (target : String → String) :
    Source.Unambiguous fun name => c.resolve (target name) := by
  rintro t u ⟨a, ha⟩ ⟨b, hb⟩ htu
  have hab : target a = target b := by
    rw [← name_of_resolve ha, ← name_of_resolve hb, htu]
  simp only [hab] at ha
  exact Option.some.inj (ha.symm.trans hb)

/-! ### Parents -/

variable {source : Source} {s : Settings} {l : Lineage} {t p q : Descriptor}

/-- `p` is one step up from `t`. Universal roots end the line of superclasses, and no step leads to
a name that the source does not know. -/
inductive Parent (source : Source) (s : Settings) : Lineage → Descriptor → Descriptor → Prop
  | superclass {t p : Descriptor} {name : String} :
      t.superclass = some name → name ∉ s.universalRoots → source name = some p →
        Parent source s .superclass t p
  | interface {t p : Descriptor} {name : String} :
      name ∈ t.interfaces → source name = some p → Parent source s .interface t p

theorem Lineage.mem_parents_superclass {name : String} :
    name ∈ Lineage.parents s .superclass t ↔
      t.superclass = some name ∧ name ∉ s.universalRoots := by
  simp [Lineage.parents, Settings.isUniversalRoot]

theorem parent_iff :
    Parent source s l t p ↔ ∃ name ∈ l.parents s t, source name = some p := by
  constructor
  · rintro (⟨hsup, hname, hp⟩ | ⟨hname, hp⟩)
    · exact ⟨_, Lineage.mem_parents_superclass.mpr ⟨hsup, hname⟩, hp⟩
    · exact ⟨_, hname, hp⟩
  · rintro ⟨name, hname, hp⟩
    cases l with
    | superclass =>
      obtain ⟨hsup, hname⟩ := Lineage.mem_parents_superclass.mp hname
      exact .superclass hsup hname hp
    | interface => exact .interface hname hp

/-- A type has one superclass at most. -/
theorem Parent.superclass_unique (hp : Parent source s .superclass t p)
    (hq : Parent source s .superclass t q) : p = q := by
  cases hp with
  | superclass hn _ hp =>
    cases hq with
    | superclass hm _ hq =>
      rw [hn, Option.some.injEq] at hm
      subst hm
      exact Option.some.inj (hp.symm.trans hq)

theorem Parent.defines (h : Parent source s l t p) : source.Defines p := by
  cases h with
  | superclass _ _ hp => exact ⟨_, hp⟩
  | interface _ hp => exact ⟨_, hp⟩

theorem Chain.defines {k : Nat} (h : Chain (Parent source s l) k t p) (ht : source.Defines t) :
    source.Defines p := by
  cases h with
  | refl => exact ht
  | tail _ h => exact h.defines

end ClassDiagram
