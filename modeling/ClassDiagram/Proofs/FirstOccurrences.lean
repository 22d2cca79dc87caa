import Mathlib.Data.Finset.Card
import Mathlib.Data.List.Induction
import Mathlib.Data.List.Nodup

/-!
# First Occurrences

To erase what is there already keeps the first occurrence of each element, or of each key. One lemma
says what a new element at the end does to that, and all else is by induction from the end.
-/

namespace ClassDiagram

variable {α β : Type} [BEq β] [LawfulBEq β]

/-- A new element stays unless an earlier one has its key. -/
theorem eraseDupsBy_concat (key : α → β) : ∀ (as : List α) (a : α),
    (as ++ [a]).eraseDupsBy (fun x y => key x == key y) =
      if key a ∈ as.map key then as.eraseDupsBy (fun x y => key x == key y)
      else as.eraseDupsBy (fun x y => key x == key y) ++ [a]
  | [], a => by simp [List.eraseDupsBy_cons]
  | b :: as, a => by
    rw [List.cons_append, List.eraseDupsBy_cons, List.eraseDupsBy_cons, List.filter_append]
    by_cases hb : key a = key b
    · simp [hb]
    · -- what the first element takes away has other keys than the new one
      have hmem : key a ∈ (as.filter fun c => (key c == key b) = false).map key ↔
          key a ∈ (b :: as).map key := by
        simp only [List.mem_map, List.mem_filter, List.mem_cons]
        constructor
        · rintro ⟨c, ⟨hc, -⟩, hca⟩
          exact ⟨c, Or.inr hc, hca⟩
        · rintro ⟨c, rfl | hc, hca⟩
          · exact absurd hca.symm hb
          · exact ⟨c, ⟨hc, by simpa [hca] using hb⟩, hca⟩
      have hnew : [a].filter (fun c => (key c == key b) = false) = [a] := by simp [hb]
      rw [hnew, eraseDupsBy_concat key _ a]
      simp only [hmem]
      split <;> rfl
termination_by as => as.length
decreasing_by
  have := List.length_filter_le (fun c => decide ((key c == key b) = false)) as
  simp only [List.length_cons]
  omega

theorem eraseDups_concat (bs : List β) (b : β) :
    (bs ++ [b]).eraseDups = if b ∈ bs then bs.eraseDups else bs.eraseDups ++ [b] := by
  have h := eraseDupsBy_concat id bs b
  rwa [List.map_id] at h

/-- The keys of what stays are the keys without repetition. -/
theorem map_eraseDupsBy (key : α → β) (as : List α) :
    (as.eraseDupsBy fun x y => key x == key y).map key = (as.map key).eraseDups := by
  induction as using List.reverseRecOn with
  | nil => rfl
  | append_singleton as a ih =>
    rw [eraseDupsBy_concat, List.map_append, List.map_singleton, eraseDups_concat, ← ih]
    split
    · rfl
    · rw [List.map_append, List.map_singleton]

theorem eraseDupsBy_sublist (key : α → β) (as : List α) :
    (as.eraseDupsBy fun x y => key x == key y).Sublist as := by
  induction as using List.reverseRecOn with
  | nil => exact List.Sublist.refl _
  | append_singleton as a ih =>
    rw [eraseDupsBy_concat]
    split
    · exact ih.trans (List.sublist_append_left _ _)
    · exact ih.append_right [a]

theorem nodup_eraseDups (bs : List β) : bs.eraseDups.Nodup := by
  induction bs using List.reverseRecOn with
  | nil => simp
  | append_singleton bs b ih =>
    rw [eraseDups_concat]
    split
    · exact ih
    · next hb =>
      refine ih.append (List.nodup_singleton b) fun c hc hcb => hb ?_
      rwa [List.mem_eraseDups, List.mem_singleton.mp hcb] at hc

theorem length_eraseDups [DecidableEq α] (as : List α) :
    as.eraseDups.length = as.toFinset.card := by
  rw [← List.toFinset_card_of_nodup (nodup_eraseDups as)]
  congr 1
  ext a
  simp

/-- Where no two elements have the same key, an element is the only one with its key. -/
theorem filter_key_eq_singleton {key : α → β} : ∀ {as : List α} {a : α}, (as.map key).Nodup →
    a ∈ as → as.filter (fun b => key b == key a) = [a]
  | b :: as, a, hn, ha => by
    rw [List.map_cons, List.nodup_cons] at hn
    rcases List.mem_cons.mp ha with rfl | ha
    · have hrest : as.filter (fun b => key b == key a) = [] := by
        refine List.filter_eq_nil_iff.mpr fun b hb hkey => hn.1 ?_
        rw [← beq_iff_eq.mp hkey]
        exact List.mem_map_of_mem hb
      rw [List.filter_cons_of_pos (by simp), hrest]
    · have hne : ¬ (key b == key a) = true := fun hkey => hn.1 <| by
        rw [beq_iff_eq.mp hkey]
        exact List.mem_map_of_mem ha
      rw [List.filter_cons, if_neg hne, filter_key_eq_singleton hn.2 ha]

/-- Elements that a function tells apart are as many as its values. -/
theorem eraseDups_map [BEq α] [LawfulBEq α] {f : α → β} {as : List α}
    (hf : ∀ a ∈ as, ∀ b ∈ as, f a = f b → a = b) :
    (as.map f).eraseDups = as.eraseDups.map f := by
  induction as using List.reverseRecOn with
  | nil => rfl
  | append_singleton as a ih =>
    have hmem : f a ∈ as.map f ↔ a ∈ as := by
      refine ⟨fun h => ?_, List.mem_map_of_mem⟩
      obtain ⟨b, hb, hab⟩ := List.mem_map.mp h
      rwa [← hf b (by simp [hb]) a (by simp) hab]
    have ih := ih fun b hb c hc => hf b (by simp [hb]) c (by simp [hc])
    rw [List.map_append, List.map_singleton, eraseDups_concat, eraseDups_concat, ih]
    simp only [hmem]
    split
    · rfl
    · rw [List.map_append, List.map_singleton]

end ClassDiagram
