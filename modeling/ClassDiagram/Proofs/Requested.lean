import ClassDiagram.Proofs.Climb

/-!
# Requested Types, One after Another

The requested types share one graph and the budgets of both lineages, so each walk begins with what
all earlier ones have left. Still, to ask for more types only adds to the end of a collection, and
to ask for a type again adds nothing (`collect_append`).

A type that has been requested is in the graph and has been expanded with the full depth, and what
comes later takes neither away (`requested_addRoots`). So a second request changes the record of
steps alone, and that record decides nothing: walks that differ in it only (`Walk.Alike`) go on in
the same way.
-/

namespace ClassDiagram

/-! ### The record decides nothing -/

/-- The same graph and the same budgets, whatever has been recorded on the way. -/
structure Walk.Alike (w w' : Walk) : Prop where
  graph : w'.graph = w.graph
  budgets : ∀ l, w'.budgets l = w.budgets l

namespace Walk.Alike

variable {w w' : Walk}

theorem note (h : w.Alike w') (step step' : Step) : (w.note step).Alike (w'.note step') :=
  ⟨h.graph, fun l => by rw [budgets_note, budgets_note, h.budgets]⟩

theorem request (h : w.Alike w') (name : String) (t : Descriptor) :
    (w.request name t).Alike (w'.request name t) :=
  ⟨by rw [graph_request, graph_request, h.graph],
    fun l => by rw [budgets_request, budgets_request, h.budgets]⟩

theorem reach (h : w.Alike w') (l : Lineage) (p child : Descriptor) (remaining : Nat) :
    (w.reach l p child remaining).Alike (w'.reach l p child remaining) :=
  ⟨by rw [graph_reach, graph_reach, h.graph],
    fun l' => by rw [budgets_reach, budgets_reach, h.budgets]⟩

theorem enter (h : w.Alike w') (l : Lineage) (name : String) (remaining : Nat) :
    (w.enter l name remaining).Alike (w'.enter l name remaining) := by
  refine ⟨by rw [graph_enter, graph_enter, h.graph], fun l' => ?_⟩
  by_cases hl : l' = l
  · subst hl
    rw [budgets_enter_self, budgets_enter_self, h.budgets]
  · rw [budgets_enter_of_ne _ _ _ hl, budgets_enter_of_ne _ _ _ hl, h.budgets]

end Walk.Alike

namespace Collection

variable {source : Source} {s : Settings} {l : Lineage} {w w' : Walk}

theorem alike_visit {child : Descriptor} {remaining : Nat} {walk : Descriptor → Walk → Walk}
    (hwalk : ∀ t w w', w.Alike w' → (walk t w).Alike (walk t w')) (h : w.Alike w')
    (name : String) :
    (visit source l child remaining walk w name).Alike
      (visit source l child remaining walk w' name) := by
  unfold visit
  cases source name with
  | none => exact h.note _ _
  | some p =>
    have hreach := h.reach l p child (remaining + 1)
    simp only [Walk.expand, hreach.budgets]
    split
    · exact (hwalk p _ _ (hreach.enter l p.name remaining)).note _ _
    · exact hreach.note _ _

/-- Walks up from a type go the same way. -/
theorem alike_ascend : ∀ (remaining : Nat) (t : Descriptor) (w w' : Walk), w.Alike w' →
    (ascend source s l remaining t w).Alike (ascend source s l remaining t w')
  | 0, _, _, _, h => h
  | remaining + 1, t, w, w', h => by
    unfold ascend
    induction l.parents s t generalizing w w' with
    | nil => exact h
    | cons name names ih => exact ih _ _ (alike_visit (alike_ascend remaining) h name)

theorem alike_ascendRoot (h : w.Alike w') (t : Descriptor) :
    (ascendRoot source s l t w).Alike (ascendRoot source s l t w') := by
  simp only [ascendRoot, h.budgets]
  split
  · exact (alike_ascend _ t _ _ (h.enter l t.name s.depth)).note _ _
  · exact h

theorem alike_addRoots : ∀ (names : List String) (w w' : Walk), w.Alike w' →
    (addRoots source s names w).1.Alike (addRoots source s names w').1
  | [], _, _, h => h
  | name :: names, w, w', h => by
    unfold addRoots
    cases source name with
    | none => exact h
    | some t =>
      have hsup : (ascendRoot source s .superclass t (w.request name t)).Alike
          (ascendRoot source s .superclass t (w'.request name t)) :=
        alike_ascendRoot (h.request name t) t
      exact alike_addRoots names _ _ (alike_ascendRoot hsup t)

/-! ### Requests in order -/

/-- A collection goes on from where the first part of its requests has led. -/
theorem addRoots_append : ∀ {rs : List String} (ts : List String) (w : Walk),
    (∀ name ∈ rs, (source name).isSome) →
      addRoots source s (rs ++ ts) w = addRoots source s ts (addRoots source s rs w).1
  | [], _, _, _ => rfl
  | name :: rs, ts, w, hall => by
    obtain ⟨t, ht⟩ := Option.isSome_iff_exists.mp (hall name List.mem_cons_self)
    simp only [List.cons_append, addRoots, ht]
    exact addRoots_append ts _ fun n hn => hall n (List.mem_cons_of_mem _ hn)

/-- A type that is there, and has been expanded with the full depth, is not walked from again. -/
theorem alike_addRoot_self {t : Descriptor} (name : String) (hmem : t.name ∈ w.graph.names)
    (hcov : ∀ l, (w.budgets l).Covers t.name s.depth) :
    w.Alike (addRoot source s name t w) := by
  have hrequest : w.Alike (w.request name t) :=
    ⟨by rw [Walk.graph_request, TypeGraph.insert_of_mem hmem], fun l => Walk.budgets_request ..⟩
  have hstay : ∀ l, ascendRoot source s l t (w.request name t) = w.request name t := by
    intro l
    refine if_neg ?_
    rw [Budgets.allows_iff, not_not, Walk.budgets_request]
    exact hcov l
  rwa [addRoot, hstay, hstay]

/-- Of names that are the same, the first is found. -/
theorem find?_repeated {p : String → Bool} {rs ts : List String} {name : String}
    (hname : name ∈ rs) : (rs ++ name :: ts).find? p = (rs ++ ts).find? p := by
  rw [List.find?_append, List.find?_append, List.find?_cons]
  split
  · next hp =>
    obtain ⟨n, hn⟩ := Option.isSome_iff_exists.mp (List.find?_isSome.mpr ⟨name, hname, hp⟩)
    rw [hn, Option.some_or, Option.some_or]
  · rfl

theorem collect_repeated {rs ts : List String} {name : String} (hname : name ∈ rs) :
    collect source s (rs ++ name :: ts) = collect source s (rs ++ ts) := by
  cases hc : collect source s (rs ++ ts) with
  | error e =>
    rw [collect_eq_error_iff] at hc ⊢
    rwa [find?_repeated hname]
  | ok g =>
    obtain ⟨hall, rfl⟩ := collect_eq_ok_iff.mp hc
    obtain ⟨hrs, hts⟩ := List.forall_mem_append.mp hall
    have hall' : ∀ n ∈ rs ++ name :: ts, (source n).isSome :=
      List.forall_mem_append.mpr ⟨hrs, List.forall_mem_cons.mpr ⟨hrs name hname, hts⟩⟩
    refine collect_eq_ok_iff.mpr ⟨hall', ?_⟩
    obtain ⟨t, ht⟩ := Option.isSome_iff_exists.mp (hrs name hname)
    obtain ⟨hmem, hcov⟩ := requested_addRoots (s := s) (w := {}) hrs hname ht
    have hagain : (addRoots source s rs {}).1.Alike
        (addRoot source s name t (addRoots source s rs {}).1) :=
      alike_addRoot_self name hmem hcov
    rw [addRoots_append _ _ hrs, addRoots_append _ _ hrs, addRoots, ht]
    exact (alike_addRoots ts _ _ hagain).graph

/-- A collection fails for the first request that cannot be resolved. -/
theorem collect_eq_error_iff_first {rs : List String} {e : Error} :
    collect source s rs = .error e ↔ ∃ before name after, rs = before ++ name :: after ∧
      (∀ n ∈ before, source n ≠ none) ∧ source name = none ∧ e = .unresolvedType name := by
  rw [collect_eq_error_iff]
  constructor
  · rintro ⟨name, hfind, rfl⟩
    obtain ⟨hn, before, after, hrs, hbefore⟩ := List.find?_eq_some_iff_append.mp hfind
    refine ⟨before, name, after, hrs, fun n hn => ?_, by simpa using hn, rfl⟩
    exact Option.isSome_iff_ne_none.mp (by simpa using hbefore n hn)
  · rintro ⟨before, name, after, hrs, hbefore, hn, rfl⟩
    have hall : ∀ n ∈ before, (source n).isSome := fun n hn =>
      Option.isSome_iff_ne_none.mpr (hbefore n hn)
    refine ⟨name, List.find?_eq_some_iff_append.mpr ⟨by simp [hn], before, after, hrs, ?_⟩, rfl⟩
    simpa using hall

/-- A collection fails if any request cannot be resolved. -/
theorem exists_collect_eq_error_iff {rs : List String} :
    (∃ e, collect source s rs = .error e) ↔ ∃ name ∈ rs, source name = none := by
  constructor
  · rintro ⟨e, he⟩
    obtain ⟨before, name, after, rfl, -, hn, -⟩ := collect_eq_error_iff_first.mp he
    exact ⟨name, by simp, hn⟩
  · rintro ⟨name, hname, hn⟩
    cases hc : collect source s rs with
    | error e => exact ⟨e, rfl⟩
    | ok g =>
      have hsome := (collect_eq_ok_iff.mp hc).1 name hname
      rw [hn] at hsome
      cases hsome

/-- **More requests add to the end** of a collection. It fails if and only if a requested type
cannot be resolved, and then for the first of them; where it succeeds, so does every first part of
its requests, which collects the first part of its types; and to request a type again changes
nothing, not even the order. -/
theorem collect_append (source : Source) (s : Settings) (rs ts : List String) :
    ((∃ e, collect source s rs = .error e) ↔ ∃ name ∈ rs, source name = none) ∧
      (∀ e, collect source s rs = .error e → ∃ before name after,
        rs = before ++ name :: after ∧ (∀ n ∈ before, source n ≠ none) ∧ source name = none ∧
          e = .unresolvedType name) ∧
      (∀ g, collect source s (rs ++ ts) = .ok g →
        ∃ g₁, collect source s rs = .ok g₁ ∧ g₁.types <+: g.types) ∧
      ∀ name ∈ rs, collect source s (rs ++ name :: ts) = collect source s (rs ++ ts) := by
  refine ⟨exists_collect_eq_error_iff, fun e he => collect_eq_error_iff_first.mp he,
    fun g hg => ?_, fun name hname => collect_repeated hname⟩
  obtain ⟨hall, rfl⟩ := collect_eq_ok_iff.mp hg
  have hrs : ∀ name ∈ rs, (source name).isSome := (List.forall_mem_append.mp hall).1
  refine ⟨_, collect_eq_ok_iff.mpr ⟨hrs, rfl⟩, ?_⟩
  rw [addRoots_append _ _ hrs]
  exact (grows_addRoots ts _).types

/-- Interfaces that go round, and a superclass. -/
def relay : Catalog := .ofList
  [{ name := "Lap", interfaces := ["Leg"] }, { name := "Leg", interfaces := ["Baton"] },
    { name := "Baton", interfaces := ["Lap"] }, { name := "Coach", superclass := some "Leg" }]

/-- `Lap` is requested again behind a walk that has come back to it. -/
theorem collect_append_relay :
    (∃ g, collect relay.resolve {} (["Lap", "Baton"] ++ ["Lap", "Coach"]) = .ok g ∧
        ∃ g₁, collect relay.resolve {} ["Lap", "Baton"] = .ok g₁ ∧ g₁.types <+: g.types) ∧
      collect relay.resolve {} (["Lap", "Baton"] ++ "Lap" :: ["Coach"]) =
        collect relay.resolve {} (["Lap", "Baton"] ++ ["Coach"]) ∧
      ∃ e, collect relay.resolve {} ["Lap", "Gone", "Lost"] = .error e ∧
        ∃ before name after, ["Lap", "Gone", "Lost"] = before ++ name :: after ∧
          (∀ n ∈ before, relay.resolve n ≠ none) ∧ relay.resolve name = none ∧
          e = .unresolvedType name := by
  obtain ⟨-, -, hfirst, -⟩ := collect_append relay.resolve {} ["Lap", "Baton"] ["Lap", "Coach"]
  obtain ⟨-, -, -, hagain⟩ := collect_append relay.resolve {} ["Lap", "Baton"] ["Coach"]
  obtain ⟨hfails, hname, -, -⟩ := collect_append relay.resolve {} ["Lap", "Gone", "Lost"] []
  obtain ⟨e, he⟩ := hfails.mpr ⟨"Lost", by decide, rfl⟩
  exact ⟨⟨_, rfl, hfirst _ rfl⟩, hagain "Lap" (by decide), e, he, hname e he⟩

end Collection

end ClassDiagram
