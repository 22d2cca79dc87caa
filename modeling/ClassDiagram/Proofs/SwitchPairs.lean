import ClassDiagram.Proofs.RequestFaults
import Mathlib.Data.List.Nodup

/-!
# Switches in Any Order

Where switches and values stand in pairs, one behind the other, and no value looks like one of the
switches, each switch is found in its own pair and nowhere before, whatever order the pairs are in
and whatever comes behind them (`Apart.behind`). So no reader can tell one order from another, and
the same request is read from all of them (`pairs_in_any_order`).
-/

namespace ClassDiagram.Switches

variable {pairs pairs' : List (String × String)} {p : String × String} {w : String}

/-- Switches with their values, one pair behind the other. -/
def pairWords (pairs : List (String × String)) : List String := pairs.flatMap fun p => [p.1, p.2]

/-- The pairs have different switches, and none of their values is one of these. -/
structure Apart (pairs : List (String × String)) : Prop where
  nodup : (pairs.map Prod.fst).Nodup
  values : ∀ p ∈ pairs, ∀ q ∈ pairs, p.2 ≠ q.1

theorem mem_pairWords : w ∈ pairWords pairs ↔ ∃ p ∈ pairs, w = p.1 ∨ w = p.2 := by
  simp [pairWords]

theorem pairWords_append_cons (before after : List (String × String)) (p : String × String)
    (tail : List String) :
    pairWords (before ++ p :: after) ++ tail =
      pairWords before ++ p.1 :: p.2 :: (pairWords after ++ tail) := by
  simp [pairWords]

namespace Apart

theorem perm (h : Apart pairs) (hperm : pairs.Perm pairs') : Apart pairs' := by
  refine ⟨(hperm.map Prod.fst).nodup_iff.mp h.nodup, fun p hp q hq => ?_⟩
  exact h.values p (hperm.mem_iff.mpr hp) q (hperm.mem_iff.mpr hq)

/-- **A switch is found in its own pair.** -/
theorem behind (h : Apart pairs) (hp : p ∈ pairs) (tail : List String) :
    ∃ ws, Behind p.1 (pairWords pairs ++ tail) (some (p.2 :: ws)) := by
  obtain ⟨before, after, rfl⟩ := List.append_of_mem hp
  have hbefore : p.1 ∉ pairWords before := by
    intro hmem
    obtain ⟨q, hq, hswitch | hvalue⟩ := mem_pairWords.mp hmem
    · have hnodup := h.nodup
      rw [List.map_append, List.map_cons] at hnodup
      have hdisjoint := (List.nodup_middle.mp hnodup).notMem
      exact hdisjoint (List.mem_append_left _ (hswitch ▸ List.mem_map_of_mem hq))
    · exact h.values q (List.mem_append_left _ hq) p hp hvalue.symm
  rw [pairWords_append_cons]
  exact ⟨_, .present hbefore⟩

end Apart

/-- A switch that is in no pair is found in the tail. -/
theorem behind_tail (h : ∀ p ∈ pairs, p.1 ≠ w ∧ p.2 ≠ w) (ws : List String) :
    Behind w (pairWords pairs ++ w :: ws) (some ws) := by
  refine .present fun hmem => ?_
  obtain ⟨p, hp, hswitch | hvalue⟩ := mem_pairWords.mp hmem
  · exact (h p hp).1 hswitch.symm
  · exact (h p hp).2 hvalue.symm

/-- **Pairs of switches and values are read alike in any order.** Whatever comes behind them, each
switch has its own value, as a text and as an integer. Pairs with a depth and a verbosity in front
of the requested types make the same request in any order. -/
theorem pairs_in_any_order (hapart : Apart pairs) (hperm : pairs'.Perm pairs)
    (tail : List String) :
    (∀ p ∈ pairs,
      (∀ default, text ⟨pairWords pairs' ++ tail⟩ p.1 default false = .ok (some p.2)) ∧
        ∀ default, integer ⟨pairWords pairs' ++ tail⟩ p.1 default =
          match Text.int32? p.2 with
          | some n => .ok n
          | none => .error (.notAnInteger p.1)) ∧
      ∀ (x y : String) (depth : Nat) (verbosity : Verbosity) (roots : List String),
        ("-d", x) ∈ pairs → Text.int32? x = some depth →
        ("-v", y) ∈ pairs → Text.int32? y = some verbosity.level →
        (∀ p ∈ pairs, p.1 ≠ "-c" ∧ p.2 ≠ "-c") → roots ≠ [] → tail = "-c" :: roots →
          Request.ofSwitches ⟨pairWords pairs' ++ tail⟩ =
            .ok { settings := { depth, verbosity }, roots } := by
  have hbehind : ∀ p ∈ pairs, ∃ ws, Behind p.1 (pairWords pairs' ++ tail) (some (p.2 :: ws)) :=
    fun p hp => (hapart.perm hperm.symm).behind (hperm.mem_iff.mpr hp) tail
  refine ⟨fun p hp => ?_, ?_⟩
  · obtain ⟨ws, hws⟩ := hbehind p hp
    refine ⟨fun default => ?_, fun default => ?_⟩
    · rw [text, rest?_eq_iff.mpr hws]
      simp
    · cases hvalue : Text.int32? p.2 with
      | none => exact IntegerFault.integer_eq (.next hws hvalue) default
      | some n => exact Gives.integer_eq (.next hws hvalue)
  · rintro x y depth verbosity roots hd hx hv hy hc hne rfl
    obtain ⟨ws, hd⟩ := hbehind _ hd
    obtain ⟨ws', hv⟩ := hbehind _ hv
    have hc' : ∀ p ∈ pairs', p.1 ≠ "-c" ∧ p.2 ≠ "-c" := fun p hp => hc p (hperm.mem_iff.mp hp)
    exact Request.ofSwitches_eq_ok_iff.mpr
      ⟨.next hd hx, .next hv hy, rfl, behind_tail hc' roots, hne⟩

/-- A value may look like a switch that is not there, and what is requested like one that is. -/
theorem pairs_in_any_order_lookalikes :
    text ⟨["-d", "+3", "-v", "2", "--title", "-t", "-c", "-d", "--title"]⟩ "--title" none false =
        .ok (some "-t") ∧
      integer ⟨["-d", "+3", "-v", "2", "--title", "-t", "-c", "-d", "--title"]⟩ "--title" 0 =
        .error (.notAnInteger "--title") ∧
      Request.ofSwitches ⟨["-d", "+3", "-v", "2", "--title", "-t", "-c", "-d", "--title"]⟩ =
        .ok { settings := { depth := 3, verbosity := .full }, roots := ["-d", "--title"] } := by
  have hapart : Apart [("--title", "-t"), ("-d", "+3"), ("-v", "2")] :=
    ⟨by decide, by decide⟩
  have hperm : [("-d", "+3"), ("-v", "2"), ("--title", "-t")].Perm
      [("--title", "-t"), ("-d", "+3"), ("-v", "2")] := by decide
  obtain ⟨hread, hrequest⟩ := pairs_in_any_order hapart hperm ["-c", "-d", "--title"]
  obtain ⟨htext, hinteger⟩ := hread ("--title", "-t") (by decide)
  refine ⟨htext none, hinteger 0, ?_⟩
  exact hrequest "+3" "2" 3 .full ["-d", "--title"] (by decide) rfl (by decide) rfl (by decide)
    (by decide) rfl

end ClassDiagram.Switches
