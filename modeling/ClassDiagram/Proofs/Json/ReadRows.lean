import ClassDiagram.Proofs.Json.ReadParts

/-!
# Reading Rows

A row is read slot by slot, in the order of the parts. While it is, every part of the record that is
made is either what it is to be or still to come, and then it holds its default if it has one
(`Layout.Awaits`). So the row may end as soon as only defaults are left, and the reader of a layout
that serves the parts of a record reads all of its forms and nothing else (`Layout.Serves.reads`).
-/

namespace ClassDiagram.Json

variable {α : Type}

/-! ### The text of a row -/

theorem Rest.nil_inv {r : α → List Char → Prop} {close : Char} {first : Bool} {t : List Char}
    (h : Rest r close first [] t) : ∃ b, Blank b ∧ t = b ++ [close] := by
  cases h with
  | closed hb => exact ⟨_, hb, rfl⟩
  | more _ hs => cases hs

/-- What is left of a list that goes on: the next element, and what is left behind it. -/
theorem Rest.cons_inv {r : α → List Char → Prop} {close : Char} {first : Bool} {a : α}
    {as : List α} {t : List Char} (h : Rest r close first (a :: as) t) :
    ∃ lead b u t', Lead first lead ∧ Blank b ∧ r a u ∧ Rest r close false as t' ∧
      t = lead ++ (b ++ (u ++ t')) := by
  cases h with
  | @more _ lead _ hl hs =>
    cases hs with
    | @last _ b u b' hb hu hb' =>
      exact ⟨lead, b, u, b' ++ [close], hl, hb, hu, .closed hb', by simp⟩
    | @more _ _ b u b' ts hb hu hb' hs =>
      refine ⟨lead, b, u, b' ++ [','] ++ ts ++ [close], hl, hb, hu, .more (.next hb') hs, ?_⟩
      simp

theorem rest_of_spells_list {vs : List Value} {t : List Char} (h : Spells (.list vs) t) :
    ∃ u, t = '[' :: u ∧ Rest Spells ']' true vs u := by
  cases h with
  | emptyList hb => exact ⟨_, rfl, .closed hb⟩
  | list hs => exact ⟨_, rfl, .more .first hs⟩

theorem rest_of_spells_object {ms : List (List Symbol × Value)} {t : List Char}
    (h : Spells (.object ms) t) : ∃ u, t = '{' :: u ∧ Rest (SpellsMember Spells) '}' true ms u := by
  cases h with
  | emptyObject hb => exact ⟨_, rfl, .closed hb⟩
  | object hs => exact ⟨_, rfl, .more .first hs⟩

theorem closeList_append {b : List Char} (hb : Blank b) (rest : List Char) :
    closeList (b ++ ']' :: rest) = .ok rest := by
  rw [closeList, skipBlanks_append hb, skipBlanks_cons (by decide)]
  rfl

theorem spelt_of_closeList {s r : List Char} (h : closeList s = .ok r) :
    ∃ b, Blank b ∧ s = b ++ ']' :: r := by
  obtain ⟨b, hb, hs⟩ := exists_blank_append s
  rw [closeList] at h
  split at h
  · cases h
  · next q hq =>
    cases h
    exact ⟨b, hb, hq ▸ hs⟩
  · split at h
    · cases h
    · cases h
  · cases h

namespace Layout

variable {l : Layout α} {parts ps : List (RecordPart α)} {slots : List (Slot α)} {a record : α}

/-- No slot requires a member if and only if every part has a default. -/
theorem findIdx?_required_eq_none_iff
    (h : List.Forall₂ (fun slot p => slot.Serves parts p) slots ps) :
    slots.findIdx? (·.required) = none ↔ ∀ p ∈ ps, p.default.isSome := by
  rw [List.findIdx?_eq_none_iff]
  induction h with
  | nil => simp
  | @cons slot p slots ps hs _ ih =>
    rw [List.forall_mem_cons, List.forall_mem_cons, ih, hs.required, Option.isNone_eq_false_iff]

/-! ### Rows in front of the reader -/

/-- The record lacks nothing of `a` but the parts `ps`, and those hold their defaults. -/
def Awaits (parts ps : List (RecordPart α)) (a record : α) : Prop :=
  ∀ p ∈ parts, p.get record = p.get a ∨ p ∈ ps ∧ ∀ x, p.default = some x → p.get record = x

theorem Serves.awaits_blank (hl : l.Serves parts) (a : α) : Awaits parts parts a l.blank :=
  fun p hp => .inr ⟨hp, hl.blank p hp⟩

/-- If only defaults are awaited, the record is there. -/
theorem Serves.eq_of_awaits (hl : l.Serves parts) (h : Awaits parts ps a record)
    (hps : ∀ p ∈ ps, p.Omissible a) : record = a := by
  refine hl.ext _ _ fun p hp => ?_
  rcases h p hp with hget | ⟨hmem, hdefault⟩
  · exact hget
  · exact hdefault _ (hps p hmem)

/-- The part that is put into the record is no longer awaited. -/
theorem Serves.awaits_step (hl : l.Serves parts) {p : RecordPart α} {change : α → α}
    (hp : p ∈ parts) (hchange : p.Puts parts (p.get a) change)
    (h : Awaits parts (p :: ps) a record) :
    Awaits parts ps a (change record) := by
  intro q hq
  by_cases he : q.key = p.key
  · obtain rfl := hl.eq_of_key_eq hq hp he
    exact .inl (hchange.same record)
  · rw [hchange.others q hq he]
    rcases h q hq with hget | ⟨hmem, hdefault⟩
    · exact .inl hget
    · refine .inr ⟨(List.mem_cons.mp hmem).resolve_left ?_, hdefault⟩
      rintro rfl
      exact he rfl

theorem readSlots_step {slot : Slot α} {v : Value} {change : α → α}
    (hv : slot.value.Takes v change) {index : Nat} {lead b u : List Char}
    (hl : Lead (index = 0) lead) (hb : Blank b) (hu : Spells v u) (rest : List Char) :
    l.readSlots index record (slot :: slots) (lead ++ (b ++ u ++ rest)) =
      l.readSlots (index + 1) (change record) slots rest := by
  have hread : slot.value.read (u ++ rest) = .ok (change, rest) := hv [] u rest .nil hu
  obtain ⟨c, s, rfl, hc⟩ := hu.head
  rw [readSlots, List.append_assoc, List.cons_append, nextElement_lead hl hb hc]
  rw [List.cons_append] at hread
  simp only [hread]

/-- Reading a row makes the record of which it is a form. -/
theorem Serves.readSlots_spelt (hl : l.Serves parts)
    (hslots : List.Forall₂ (fun slot p => slot.Serves parts p) slots ps) (hps : ps ⊆ parts)
    {vs : List Value} (hrow : RowForm a ps vs) (hrecord : Awaits parts ps a record) {index : Nat}
    {t : List Char} (ht : Rest Spells ']' (index = 0) vs t) (rest : List Char) :
    l.readSlots index record slots (t ++ rest) = .ok (a, rest) := by
  induction hrow generalizing slots record index t with
  | @cut ps homissible =>
    obtain rfl := hl.eq_of_awaits hrecord homissible
    obtain ⟨b, hb, rfl⟩ := ht.nil_inv
    rw [List.append_assoc, List.singleton_append]
    cases hslots with
    | nil =>
      rw [readSlots, closeList_append hb]
      rfl
    | cons hs hslots =>
      have hidx := (findIdx?_required_eq_none_iff (.cons hs hslots)).mpr fun p hp =>
        Option.isSome_iff_exists.mpr ⟨_, homissible p hp⟩
      rw [readSlots, nextElement_append hb, nextElement_closed]
      simp only [hidx]
  | @cons p ps v vs hshows _ ih =>
    obtain _ | ⟨hs, hslots⟩ := hslots
    obtain ⟨lead, b, u, t', hlead, hb, hu, hrest, rfl⟩ := ht.cons_inv
    obtain ⟨hp, hps⟩ := List.cons_subset.mp hps
    obtain ⟨change, htakes, hputs⟩ := hs.takes hshows
    have htext : lead ++ (b ++ (u ++ t')) ++ rest = lead ++ (b ++ u ++ (t' ++ rest)) := by simp
    rw [htext, readSlots_step htakes hlead hb hu]
    exact ih hslots hps (hl.awaits_step hp hputs hrecord) (by simpa using hrest)

/-- What has been read of a row up to its closing bracket. The parts without a value in it, and
those of the values before, are as they were. -/
theorem Serves.rest_of_readSlots (hl : l.Serves parts)
    (hslots : List.Forall₂ (fun slot p => slot.Serves parts p) slots ps) (hps : ps <:+ parts)
    (hrecord : ∀ p ∈ ps, ∀ x, p.default = some x → p.get record = x) {index : Nat}
    {s r : List Char} (h : l.readSlots index record slots s = .ok (a, r)) :
    ∃ vs t, RowForm a ps vs ∧ Rest Spells ']' (index = 0) vs t ∧ s = t ++ r ∧
      ∀ p ∈ parts, p.key ∉ keys ps → p.get a = p.get record := by
  induction hslots generalizing record index s with
  | nil =>
    obtain ⟨q, hclose, he⟩ := map_ok h
    cases he
    obtain ⟨b, hb, rfl⟩ := spelt_of_closeList hclose
    exact ⟨[], b ++ [']'], .cut (List.forall_mem_nil _), .closed hb, by simp, fun _ _ _ => rfl⟩
  | @cons slot p slots ps hs hslots ih =>
    rw [readSlots] at h
    split at h
    · cases h
    · next q hn =>
      split at h
      · cases h
      · next hidx =>
        cases h
        obtain ⟨b, hb, rfl⟩ := spelt_of_nextElement_closed hn
        have hdefaults := (findIdx?_required_eq_none_iff (.cons hs hslots)).mp hidx
        refine ⟨[], b ++ [']'], .cut fun q hq => ?_, .closed hb, by simp, fun _ _ _ => rfl⟩
        obtain ⟨x, hx⟩ := Option.isSome_iff_exists.mp (hdefaults q hq)
        rw [RecordPart.Omissible, hrecord q hq x hx, hx]
    · next q hn =>
      split at h
      · cases h
      · next change q' hread =>
        obtain ⟨lead, b, hlead, hb, rfl⟩ := spelt_of_nextElement_element hn
        obtain ⟨x, b', v, u, hb', hu, hform, rfl, hputs⟩ := hs.only hread
        have hp : p ∈ parts := hps.subset List.mem_cons_self
        have hps' : ps <:+ parts := (List.suffix_cons p ps).trans hps
        have hnodup : (keys (p :: ps)).Nodup := hl.nodup.sublist (hps.sublist.map _)
        have hfresh : p.key ∉ keys ps := (List.nodup_cons.mp hnodup).1
        have hrest : ∀ q ∈ ps, ∀ x, q.default = some x → q.get (change record) = x := by
          intro q hq x hx
          rw [hputs.others q (hps'.subset hq) fun he => hfresh (he ▸ mem_keys hq)]
          exact hrecord q (List.mem_cons_of_mem _ hq) x hx
        obtain ⟨vs, t, hrow, ht, rfl, hframe⟩ := ih hps' hrest h
        have hget : p.get a = x := (hframe p hp hfresh).trans (hputs.same record)
        refine ⟨v :: vs, lead ++ (b ++ b' ++ (u ++ t)), .cons ?_ hrow, ?_, by simp, ?_⟩
        · rw [RecordPart.Shows, hget]
          exact hform
        · exact Rest.cons hlead (hb.append hb') hu (by simpa using ht)
        · intro q hq hkey
          obtain ⟨hne, hkey⟩ := not_or.mp (mt List.mem_cons.mpr hkey)
          rw [hframe q hq hkey, hputs.others q hq hne]

/-! ### Records -/

/-- **The reader of a layout reads the forms of a record.** It takes every one of them, in every
spelling, and it takes nothing else. -/
theorem Serves.reads (hl : l.Serves parts) : l.reader.Reads (RecordForm parts) where
  takes := by
    intro style a v h
    cases h with
    | object h => exact hl.takes_object h
    | row h =>
      intro b t rest hb ht
      obtain ⟨u, rfl, hu⟩ := rest_of_spells_list ht
      change l.takeRecord (skipBlanks _) = _
      rw [skipBlanks_spelt hb (by decide), takeRecord]
      have hfirst : Rest Spells ']' (decide (0 = 0)) _ u := hu
      exact hl.readSlots_spelt hl.slots (List.Subset.refl parts) h (hl.awaits_blank a) hfirst rest
  only := by
    intro s r a h
    obtain ⟨b, hb, hs⟩ := exists_blank_append s
    change l.takeRecord (skipBlanks s) = _ at h
    unfold takeRecord at h
    split at h
    · next q hq =>
      obtain ⟨vs, t, hrow, ht, rfl, -⟩ :=
        hl.rest_of_readSlots hl.slots List.suffix_rfl hl.blank h
      refine ⟨b, .list vs, '[' :: t, hb, Rest.spells_list ht, .row hrow, ?_⟩
      rw [hs, hq, List.cons_append]
    · next q hq =>
      obtain ⟨ms, t, ht, rfl, hcontinues⟩ := hl.rest_of_readMembers h
      have hobject := hl.continues_blank_iff.mp hcontinues
      refine ⟨b, .record ms, '{' :: t, hb, ht.spells_object, .object hobject, ?_⟩
      rw [hs, hq, List.cons_append]
    · cases h

end Layout

end ClassDiagram.Json
