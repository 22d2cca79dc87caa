import ClassDiagram.Proofs.Climb

/-!
# What Runs Settle

An expansion is recorded before it has happened, so in the middle of a run the record of budgets
says more than has been done. A run is therefore told by what it leaves settled (`Settles`):
whatever it has recorded, it has done, and of what was recorded before it says nothing. Such runs
compose, and a whole collection begins with no record at all (`settled_addRoots`).

What "done" means is left open: any property of a type and the depth it has been expanded with that
is never lost again (`Lasting`).
-/

namespace ClassDiagram.Collection

variable {source : Source} {s : Settings} {l : Lineage} {w w₁ w₂ w' : Walk}

/-- What holds of an expanded type and its depth goes on to hold. -/
def Lasting (done : Walk → Lineage → Descriptor → Nat → Prop) : Prop :=
  ∀ w w' l t spent, Walk.Grows w w' → done w l t spent → done w' l t spent

/-- What a run leaves: all that it has recorded is done. -/
structure Settles (source : Source) (done : Walk → Lineage → Descriptor → Nat → Prop)
    (w w' : Walk) : Prop where
  grows : w.Grows w'
  settled : ∀ l t spent, source.Defines t → (w'.budgets l).latest t.name = some spent →
    (w.budgets l).latest t.name = some spent ∨ done w' l t spent

namespace Settles

variable {done : Walk → Lineage → Descriptor → Nat → Prop}

/-- What records no expansion leaves nothing to settle. -/
theorem of_budgets (hg : w.Grows w') (hb : ∀ l, w'.budgets l = w.budgets l) :
    Settles source done w w' :=
  ⟨hg, fun l t spent _ hs => Or.inl (by rwa [← hb])⟩

theorem refl (w : Walk) : Settles source done w w := of_budgets (.refl w) fun _ => rfl

theorem note (w : Walk) (step : Step) : Settles source done w (w.note step) :=
  of_budgets (.note _ _) fun _ => Walk.budgets_note ..

theorem request (w : Walk) (name : String) (t : Descriptor) :
    Settles source done w (w.request name t) :=
  of_budgets (.request ..) fun _ => Walk.budgets_request ..

theorem reach (w : Walk) (l : Lineage) (p child : Descriptor) (remaining : Nat) :
    Settles source done w (w.reach l p child remaining) :=
  of_budgets (.reach ..) fun _ => Walk.budgets_reach ..

theorem trans (hl : Lasting done) (h : Settles source done w w₁) (h' : Settles source done w₁ w₂) :
    Settles source done w w₂ := by
  refine ⟨h.grows.trans h'.grows, fun l t spent ht hs => ?_⟩
  rcases h'.settled l t spent ht hs with hs | hd
  · rcases h.settled l t spent ht hs with hs | hd
    · exact Or.inl hs
    · exact Or.inr (hl _ _ _ _ _ h'.grows hd)
  · exact Or.inr hd

/-- What is recorded of the type that an expansion begins with, and of the others. -/
theorem latest_enter_cases {t u : Descriptor} {remaining spent : Nat} {l' : Lineage}
    (hs : source.Unambiguous) (ht : source.Defines t) (hu : source.Defines u)
    (h : ((w.enter l t.name remaining).budgets l').latest u.name = some spent) :
    (w.budgets l').latest u.name = some spent ∨ l' = l ∧ u = t ∧ spent = remaining := by
  by_cases hl : l' = l
  · subst hl
    rw [Walk.budgets_enter_self, Budgets.latest_spend] at h
    split at h
    · next hn =>
      cases h
      exact Or.inr ⟨rfl, hs u t hu ht hn, rfl⟩
    · exact Or.inl h
  · rw [Walk.budgets_enter_of_ne _ _ _ hl] at h
    exact Or.inl h

/-- A recorded expansion is settled once it has happened. -/
theorem expansion {t : Descriptor} {remaining : Nat} (hs : source.Unambiguous)
    (ht : source.Defines t) (ha : (w.budgets l).allows t.name remaining)
    (h : Settles source done (w.enter l t.name remaining) w₁)
    (hd : done w₁ l t remaining) : Settles source done w w₁ := by
  refine ⟨(Walk.Grows.enter ha).trans h.grows, fun l' u spent hu hsp => ?_⟩
  rcases h.settled l' u spent hu hsp with hsp | hd'
  · rcases latest_enter_cases hs ht hu hsp with hsp | ⟨rfl, rfl, rfl⟩
    · exact Or.inl hsp
    · exact Or.inr hd
  · exact Or.inr hd'

end Settles

/-- **At the end of a collection all that is recorded is done.** -/
theorem settled_addRoots {done : Walk → Lineage → Descriptor → Nat → Prop} (hl : Lasting done)
    {roots : List String}
    (hrun : ∀ w l t, source.Defines t → Settles source done w (ascendRoot source s l t w))
    {t : Descriptor} {spent : Nat} (ht : source.Defines t)
    (hsp : ((addRoots source s roots {}).1.budgets l).latest t.name = some spent) :
    done (addRoots source s roots {}).1 l t spent := by
  have hall : Settles source done {} (addRoots source s roots {}).1 :=
    addRoots_invariant (P := Settles source done {})
      (fun _ _ _ _ _ h => h.trans hl (.request ..))
      (fun name _ _ _ l ht _ h => h.trans hl (hrun _ l _ ⟨name, ht⟩)) _ (.refl _)
  refine (hall.settled l t spent ht hsp).resolve_left ?_
  cases l <;> simp [Walk.budgets, Budgets.latest]

end ClassDiagram.Collection
