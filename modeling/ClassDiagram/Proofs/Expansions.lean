import ClassDiagram.Proofs.Invariants
import ClassDiagram.Proofs.Members
import Mathlib.Order.Bounds.Defs

/-!
# How Often and How Far Types Are Expanded

A walk follows each way as far as it can before it tries the next, so it can come to a type on a
detour first, and expand it again when it comes there on a shorter way. Each expansion of a type
goes farther than those before, and the last one goes as far as the shortest way allows
(`expansions_exact`).

That no expansion goes too far holds at every step: where a type is expanded, a chain leads to it
that has used up just what is missing of the depth (`Rising.reached`). That the last one goes far
enough is known from the end of a collection, where every chain finds its types expanded with what
it leaves of the depth (`reached_of_chain`).
-/

namespace ClassDiagram

/-- The depth with which a step expands the types of this name. -/
def Step.expands? (l : Lineage) (name : String) : Step → Option Nat
  | .entered l' name' remaining => if l' = l ∧ name' = name then some remaining else none
  | _ => none

namespace Collection

variable {source : Source} {s : Settings} {roots : List String} {l : Lineage} {name : String}
  {w w' : Walk}

/-- The depths with which the types of this name are expanded, one after another. -/
def expansions (l : Lineage) (name : String) (steps : List Step) : List Nat :=
  steps.filterMap (Step.expands? l name)

/-- How often the parents of the types of this name are gone through, which each expansion does that
has any depth left. -/
def scans (l : Lineage) (name : String) (steps : List Step) : Nat :=
  (expansions l name steps).countP fun remaining => 0 < remaining

theorem expansions_cons_quiet {step : Step} (h : Quiet source s roots step) (earlier : List Step) :
    expansions l name (step :: earlier) = expansions l name earlier := by
  cases step with
  | missing | left | spared => rfl
  | requested | reached | entered => cases h

theorem expansions_cons_entered (l' : Lineage) (name' : String) (remaining : Nat)
    (earlier : List Step) : expansions l name (.entered l' name' remaining :: earlier) =
      if l' = l ∧ name' = name then remaining :: expansions l name earlier
      else expansions l name earlier := by
  unfold expansions
  rw [List.filterMap_cons, Step.expands?]
  split <;> simp_all

/-! ### What holds at every step -/

/-- The record of expansions, the latest of them first: each goes farther than those before it, the
budgets know the latest, and a chain leads to each that has used up the rest of the depth. -/
structure Rising (source : Source) (s : Settings) (roots : List String) (w : Walk) : Prop where
  farther : ∀ l name, (expansions l name w.history).Pairwise (· > ·)
  latest : ∀ l name, (w.budgets l).latest name = (expansions l name w.history).head?
  reached : ∀ l name, ∀ remaining ∈ expansions l name w.history,
    ∃ t k, t.name = name ∧ Reaches source s roots l k t ∧ k + remaining = s.depth

namespace Rising

/-- What neither expands a type nor changes a budget. -/
theorem of_same (h : Rising source s roots w) (hb : ∀ l, w'.budgets l = w.budgets l)
    (he : ∀ l name, expansions l name w'.history = expansions l name w.history) :
    Rising source s roots w' :=
  ⟨fun l name => he l name ▸ h.farther l name, fun l name => by rw [hb, he, h.latest],
    fun l name => he l name ▸ h.reached l name⟩

/-- An expansion that is allowed goes farther than all before. -/
theorem lt_of_allows (h : Rising source s roots w) {remaining : Nat}
    (ha : (w.budgets l).allows name remaining) :
    ∀ before ∈ expansions l name w.history, before < remaining := by
  have hfar := h.farther l name
  have hlatest := h.latest l name
  rw [Budgets.allows_iff] at ha
  cases he : expansions l name w.history with
  | nil => simp
  | cons latest before =>
    rw [he] at hfar hlatest
    have hlt : latest < remaining := by
      by_contra hle
      exact ha ⟨latest, hlatest, by omega⟩
    intro b hb
    rcases List.mem_cons.mp hb with rfl | hb
    · exact hlt
    · exact Nat.lt_trans ((List.pairwise_cons.mp hfar).1 b hb) hlt

theorem enter (h : Rising source s roots w) {remaining k : Nat} {p : Descriptor}
    (hk : Reaches source s roots l k p) (hd : k + remaining = s.depth)
    (ha : (w.budgets l).allows p.name remaining) :
    Rising source s roots (w.enter l p.name remaining) := by
  have hlt := h.lt_of_allows ha
  refine ⟨fun l' name => ?_, fun l' name => ?_, fun l' name => ?_⟩
  · rw [Walk.history_enter, expansions_cons_entered]
    split
    · next hself =>
      obtain ⟨rfl, rfl⟩ := hself
      exact List.pairwise_cons.mpr ⟨hlt, h.farther _ _⟩
    · exact h.farther l' name
  · rw [Walk.history_enter, expansions_cons_entered]
    by_cases hl : l' = l
    · subst hl
      rw [Walk.budgets_enter_self, Budgets.latest_spend, h.latest]
      by_cases hn : name = p.name
      · simp [hn]
      · simp [hn, Ne.symm hn]
    · rw [Walk.budgets_enter_of_ne _ _ _ hl, h.latest, if_neg fun hself => hl hself.1.symm]
  · rw [Walk.history_enter, expansions_cons_entered]
    split
    · next hself =>
      obtain ⟨rfl, rfl⟩ := hself
      exact List.forall_mem_cons.mpr ⟨⟨p, k, rfl, hk, hd⟩, h.reached _ _⟩
    · exact h.reached l' name

end Rising

theorem kept_rising : Kept source s roots (Rising source s roots) where
  request _ _ h := h.of_same (fun _ => Walk.budgets_request ..) fun _ _ => rfl
  note hq h := h.of_same (fun _ => Walk.budgets_note ..) fun _ _ => expansions_cons_quiet hq _
  reach _ _ _ _ h := by
    refine h.of_same (fun _ => Walk.budgets_reach ..) fun _ _ => ?_
    rw [Walk.history_reach]
    split <;> rfl
  enter hk hd ha h := h.enter hk hd ha

theorem rising_addRoots : Rising source s roots (addRoots source s roots {}).1 := by
  refine kept_addRoots kept_rising ⟨fun l name => ?_, fun l name => ?_, fun l name => ?_⟩
  · exact List.Pairwise.nil
  · cases l <;> rfl
  · exact List.forall_mem_nil _

theorem expansions_steps : expansions l name (steps source s roots) =
    (expansions l name (addRoots source s roots {}).1.history).reverse := by
  rw [steps, expansions, List.filterMap_reverse]
  rfl

/-! ### The whole collection -/

/-- A type is expanded with what a chain to it leaves of the depth. -/
theorem exists_of_mem_expansions (hs : source.Unambiguous) {t : Descriptor}
    (ht : source.Defines t) {remaining : Nat}
    (hr : remaining ∈ expansions l t.name (steps source s roots)) :
    ∃ k, Reaches source s roots l k t ∧ k + remaining = s.depth := by
  rw [expansions_steps, List.mem_reverse] at hr
  obtain ⟨u, k, hut, hk, hd⟩ := rising_addRoots.reached l t.name remaining hr
  obtain rfl := hs u t hk.defines ht hut
  exact ⟨k, hk, hd⟩

theorem pairwise_expansions : (expansions l name (steps source s roots)).Pairwise (· < ·) := by
  rw [expansions_steps, List.pairwise_reverse]
  exact rising_addRoots.farther l name

theorem getLast?_expansions (hs : source.Unambiguous) (hall : ∀ name ∈ roots, (source name).isSome)
    {t : Descriptor} {k : Nat} (hk : IsLeast {k | Reaches source s roots l k t} k)
    (hle : k ≤ s.depth) :
    (expansions l t.name (steps source s roots)).getLast? = some (s.depth - k) := by
  have ht : source.Defines t := Reaches.defines hk.1
  obtain ⟨name, hname, root, hroot, hc⟩ := hk.1
  obtain ⟨spent, hsp, hfar⟩ := (reached_of_chain hs hall hname hroot hc hle).2
  have hlast : (expansions l t.name (steps source s roots)).getLast? = some spent := by
    rw [expansions_steps, List.getLast?_reverse, ← rising_addRoots.latest, hsp]
  obtain ⟨k', hk', hd⟩ := exists_of_mem_expansions hs ht (List.mem_of_getLast? hlast)
  have hleast : k ≤ k' := hk.2 hk'
  rw [hlast, show spent = s.depth - k by omega]

/-- **How often and how far types are expanded.** In each lineage the depths with which a type is
expanded get greater and greater, the last of them is what the shortest way to the type leaves of
the depth, and types that are farther than the depth are not expanded at all. If all ways to each
type have the same length, no type is expanded twice, and so the parents of no type are gone through
twice. -/
theorem expansions_exact (hs : source.Unambiguous) (s : Settings) {roots : List String}
    (hall : ∀ name ∈ roots, (source name).isSome) (l : Lineage) :
    (∀ name, (expansions l name (steps source s roots)).Pairwise (· < ·)) ∧
      (∀ t k, IsLeast {k | Reaches source s roots l k t} k → k ≤ s.depth →
        (expansions l t.name (steps source s roots)).getLast? = some (s.depth - k)) ∧
      (∀ t, source.Defines t → (∀ k, Reaches source s roots l k t → s.depth < k) →
        expansions l t.name (steps source s roots) = []) ∧
      ((∀ t k k', Reaches source s roots l k t → Reaches source s roots l k' t → k = k') →
        ∀ t, source.Defines t → (expansions l t.name (steps source s roots)).length ≤ 1 ∧
          scans l t.name (steps source s roots) ≤ 1) := by
  refine ⟨fun _ => pairwise_expansions, fun t k => getLast?_expansions hs hall, ?_, ?_⟩
  · intro t ht hfar
    refine List.eq_nil_iff_forall_not_mem.mpr fun remaining hr => ?_
    obtain ⟨k, hk, hd⟩ := exists_of_mem_expansions hs ht hr
    have := hfar k hk
    omega
  · intro hsame t ht
    have honce : (expansions l t.name (steps source s roots)).length ≤ 1 := by
      have hlt : (expansions l t.name (steps source s roots)).Pairwise (· < ·) :=
        pairwise_expansions
      have hk : ∀ remaining ∈ expansions l t.name (steps source s roots),
          ∃ k, Reaches source s roots l k t ∧ k + remaining = s.depth :=
        fun _ => exists_of_mem_expansions hs ht
      match expansions l t.name (steps source s roots), hlt, hk with
      | [], _, _ => exact Nat.zero_le _
      | [_], _, _ => exact Nat.le_refl _
      | a :: b :: _, hlt, hk =>
        obtain ⟨k, hka, hda⟩ := hk a (by simp)
        obtain ⟨k', hkb, hdb⟩ := hk b (by simp)
        have hab : a < b := (List.pairwise_cons.mp hlt).1 b (by simp)
        have hkk := hsame t k k' hka hkb
        omega
    exact ⟨honce, Nat.le_trans List.countP_le_length honce⟩

/-- Where a rank rises by one along all interfaces of a catalog and requested types have none, the
rank of a type is the length of every way to it. -/
theorem rank_of_reaches {c : Catalog} (rank : String → Nat)
    (hrank : ∀ t ∈ c.entries, ∀ name ∈ t.interfaces, (c.resolve name).isSome →
      rank name = rank t.name + 1)
    (hroots : ∀ name ∈ roots, rank name = 0) {t : Descriptor} {k : Nat}
    (hk : Reaches c.resolve s roots .interface k t) : rank t.name = k := by
  obtain ⟨name, hname, root, hroot, hc⟩ := hk
  induction hc with
  | refl root => rw [Catalog.name_of_resolve hroot, hroots name hname]
  | @tail k root u p hru hup ih =>
    obtain ⟨n, hu⟩ := hru.defines ⟨name, hroot⟩
    cases hup with
    | interface hm hp =>
      have hpn := Catalog.name_of_resolve hp
      rw [hpn, hrank u (Catalog.mem_of_resolve hu) _ hm (by rw [hp]; rfl), ih hroot]

/-- Interfaces that meet again on each level, and none of them on two levels. -/
def stack : Catalog := .ofList
  [{ name := "Impl", interfaces := ["L1", "R1"] }, { name := "L1", interfaces := ["L2", "R2"] },
    { name := "R1", interfaces := ["L2", "R2"] }, { name := "L2", interfaces := ["L3", "R3"] },
    { name := "R2", interfaces := ["L3", "R3"] }, { name := "L3" }, { name := "R3" }]

/-- Behind the detour, `Shared` is expanded with the depth that the direct way leaves; in a stack,
`R2` is expanded once, and `R3` not at all. -/
theorem expansions_exact_stack :
    (expansions .interface "Shared" (steps detour { depth := 2 } ["Old"])).getLast? = some 1 ∧
      (expansions .interface "R2" (steps stack.resolve { depth := 2 } ["Impl"])).length ≤ 1 ∧
      expansions .interface "R3" (steps stack.resolve { depth := 2 } ["Impl"]) = [] := by
  have hdetour : Source.Unambiguous detour := Catalog.unambiguous_resolve _ _
  have hstack : Source.Unambiguous stack.resolve := stack.unambiguous_resolve id
  have hrank : ∀ {t : Descriptor} {k : Nat},
      Reaches stack.resolve { depth := 2 } ["Impl"] .interface k t →
        (["Impl", "L1", "R1", "L2", "R2", "L3", "R3"].idxOf t.name + 1) / 2 = k :=
    rank_of_reaches (fun name => (["Impl", "L1", "R1", "L2", "R2", "L3", "R3"].idxOf name + 1) / 2)
      (by decide) (by decide)
  have hold : ∀ name ∈ ["Old"], (detour name).isSome := by decide
  have himpl : ∀ name ∈ ["Impl"], (stack.resolve name).isSome := by decide
  obtain ⟨-, hlast, -, -⟩ := expansions_exact hdetour { depth := 2 } hold .interface
  obtain ⟨-, -, hfar, honce⟩ := expansions_exact hstack { depth := 2 } himpl .interface
  refine ⟨?_, ?_, ?_⟩
  · refine hlast { name := "Shared", interfaces := ["Top"] } 1 ⟨?_, fun k hk => ?_⟩ (by decide)
    · have himpl : Reaches detour { depth := 2 } ["Old"] .interface 0
          { name := "Impl", superclass := some "Gone", interfaces := ["Detour", "Shared"] } :=
        reaches_requested List.mem_cons_self rfl
      exact himpl.parent (parent_iff.mpr ⟨"Shared", by decide, rfl⟩)
    · cases k with
      | zero =>
        obtain ⟨name, hname, root, hroot, hc⟩ := hk
        obtain rfl := List.mem_singleton.mp hname
        cases hc
        exact absurd hroot (by decide)
      | succ k => exact Nat.le_add_left 1 k
  · refine (honce (fun t k k' hk hk' => ?_) { name := "R2", interfaces := ["L3", "R3"] }
      ⟨"R2", rfl⟩).1
    rw [← hrank hk, ← hrank hk']
  · refine hfar { name := "R3" } ⟨"R3", rfl⟩ fun k hk => ?_
    rw [← hrank hk]
    decide

/-- `Shared` has been expanded on the detour before. -/
example : expansions .interface "Shared" (steps detour { depth := 2 } ["Old"]) = [0, 1] := by
  decide

end Collection

end ClassDiagram
