import ClassDiagram.Proofs.Json.ReadForm
import Mathlib.Data.List.Nodup

/-!
# Reading the Parts of a Record

A layout serves the parts of a record if each of its slots reads what the part of the same key may
show, puts it there and leaves the other parts as they are (`Layout.Serves`). Then it takes every
object that stands for a record (`Layout.Serves.takes_object`), and what it reads as an object is
one (`Layout.Serves.rest_of_readMembers`).

An object is read member by member, in whatever order. What the members that are still to come have
to say, given the draft made so far, is `Continues`: it holds in front of a member if and only if it
holds behind it, for the draft that the member makes, so it is carried along the text in both
directions.
-/

namespace ClassDiagram.Json

variable {α : Type} {parts : List (RecordPart α)}

theorem mem_keys {p : RecordPart α} (hp : p ∈ parts) : p.key ∈ keys parts := List.mem_map_of_mem hp

theorem mem_requiredKeys {key : String} :
    key ∈ requiredKeys parts ↔ ∃ p ∈ parts, p.default = none ∧ p.key = key := by
  simp [requiredKeys, keys, and_assoc]

/-! ### Slots and parts -/

/-- The change puts `x` into the part and leaves the other parts as they are. -/
structure RecordPart.Puts (p : RecordPart α) (parts : List (RecordPart α)) (x : p.Held)
    (change : α → α) : Prop where
  same : ∀ a, p.get (change a) = x
  others : ∀ q ∈ parts, q.key ≠ p.key → ∀ a, q.get (change a) = q.get a

/-- The slot reads the forms of the part and puts there what it has read. -/
structure Slot.Serves (parts : List (RecordPart α)) (p : RecordPart α) (slot : Slot α) : Prop where
  key : slot.key = p.key
  required : slot.required = p.default.isNone
  takes : ∀ {style : Style} {x : p.Held} {v : Value}, p.form style x v →
    ∃ change, slot.value.Takes v change ∧ p.Puts parts x change
  only : ∀ {s r : List Char} {change : α → α}, slot.value.read s = .ok (change, r) →
    ∃ x b v t, Blank b ∧ Spells v t ∧ p.form .mixed x v ∧ s = b ++ (t ++ r) ∧
      p.Puts parts x change

theorem Slot.serves_map {p : RecordPart α} {key : String} {required : Bool} {r : Reader p.Held}
    {store : p.Held → α → α} (hkey : key = p.key) (hrequired : required = p.default.isNone)
    (hr : r.Reads p.form) (hstore : ∀ x, p.Puts parts x (store x)) :
    Slot.Serves parts p { key := key, required := required, value := r.map store } where
  key := hkey
  required := hrequired
  takes := by
    intro style x v hx
    exact ⟨store x, (hr.takes hx).map store, hstore x⟩
  only := by
    intro s q change h
    obtain ⟨⟨x, q'⟩, hread, he⟩ := map_ok h
    cases he
    obtain ⟨b, v, t, hb, ht, hform, hs⟩ := hr.only hread
    exact ⟨x, b, v, t, hb, ht, hform, hs, hstore x⟩

/-- The slots of a layout serve the parts of a record, in their order, and the parts are all that
there is to a record. -/
structure Layout.Serves (l : Layout α) (parts : List (RecordPart α)) : Prop where
  slots : List.Forall₂ (fun slot p => slot.Serves parts p) l.slots parts
  nodup : (keys parts).Nodup
  blank : ∀ p ∈ parts, ∀ x, p.default = some x → p.get l.blank = x
  ext : ∀ a b, (∀ p ∈ parts, p.get a = p.get b) → a = b

namespace Layout

variable {l : Layout α}

theorem map_key_slots {slots : List (Slot α)} {ps : List (RecordPart α)}
    (h : List.Forall₂ (fun slot p => slot.Serves parts p) slots ps) :
    slots.map (·.key) = keys ps := by
  induction h with
  | nil => rfl
  | @cons slot p slots ps hs _ ih =>
    change slot.key :: slots.map (·.key) = p.key :: keys ps
    rw [hs.key, ih]

theorem exists_slot {slots : List (Slot α)} {ps : List (RecordPart α)}
    (h : List.Forall₂ (fun slot p => slot.Serves parts p) slots ps) {p : RecordPart α}
    (hp : p ∈ ps) : ∃ slot ∈ slots, slot.Serves parts p := by
  induction h with
  | nil => cases hp
  | cons hs _ ih =>
    rcases List.mem_cons.mp hp with rfl | hp
    · exact ⟨_, List.mem_cons_self, hs⟩
    · obtain ⟨slot, hslot, hserves⟩ := ih hp
      exact ⟨slot, List.mem_cons_of_mem _ hslot, hserves⟩

/-- The slot of the key of a part serves the part. -/
theorem Serves.slot?_eq_some (hl : l.Serves parts) {p : RecordPart α} (hp : p ∈ parts) :
    ∃ slot, l.slot? p.key = some slot ∧ slot.Serves parts p := by
  obtain ⟨slot, hslot, hserves⟩ := exists_slot hl.slots hp
  obtain ⟨front, slots, hsplit⟩ := List.append_of_mem hslot
  have hn : (l.slots.map (·.key)).Nodup := by
    rw [map_key_slots hl.slots]
    exact hl.nodup
  refine ⟨slot, ?_, hserves⟩
  rw [← hserves.key]
  exact (slot?_key hn hsplit).2

/-- Keys of no part have no slot. -/
theorem Serves.slot?_eq_none (hl : l.Serves parts) {key : String} (hkey : key ∉ keys parts) :
    l.slot? key = none := by
  rw [slot?, List.find?_eq_none]
  intro slot hslot hs
  rw [← map_key_slots hl.slots] at hkey
  exact hkey (List.mem_map.mpr ⟨slot, hslot, by simpa using hs⟩)

/-- The member that is found to be missing is the first of the required ones that have not been
seen. -/
theorem Serves.missing?_key (hl : l.Serves parts) (seen : List String) :
    (l.missing? seen).map (·.key) = (requiredKeys parts).find? (· ∉ seen) := by
  have hall : ∀ {slots : List (Slot α)} {ps : List (RecordPart α)},
      List.Forall₂ (fun slot p => slot.Serves parts p) slots ps →
        (slots.find? fun slot => slot.required && !seen.contains slot.key).map (·.key) =
          (requiredKeys ps).find? (· ∉ seen) := by
    intro slots ps h
    induction h with
    | nil => rfl
    | @cons slot p slots ps hs _ ih =>
      rw [List.find?_cons, hs.key, hs.required, requiredKeys, List.filter_cons]
      cases p.default with
      | some x => exact ih
      | none =>
        rw [Option.isNone_none, if_pos rfl, keys, List.map_cons, List.find?_cons]
        by_cases hseen : p.key ∈ seen
        · simpa [hseen, requiredKeys, keys] using ih
        · simp [hseen, hs.key]
  exact hall hl.slots

/-- No required member is missing if every part that has not been given has a default. -/
theorem Serves.missing?_eq_none_iff (hl : l.Serves parts) {seen : List String} :
    l.missing? seen = none ↔ ∀ p ∈ parts, p.key ∈ seen ∨ p.default.isSome := by
  rw [← Option.map_eq_none_iff (f := (·.key)), hl.missing?_key, List.find?_eq_none]
  constructor
  · intro h p hp
    cases hdefault : p.default with
    | some x => exact .inr rfl
    | none => exact .inl (by simpa using h p.key (mem_requiredKeys.mpr ⟨p, hp, hdefault, rfl⟩))
  · intro h key hkey
    obtain ⟨p, hp, hdefault, rfl⟩ := mem_requiredKeys.mp hkey
    simpa [hdefault] using h p hp

/-! ### Members in any order -/

/-- What members have to say to turn the draft `d` into the record `a`: like the form of an object,
but for parts that have been given before. -/
structure Continues (parts : List (RecordPart α)) (style : Style) (d : Draft α)
    (ms : List (String × Value)) (a : α) : Prop where
  shows : ∀ p ∈ parts, ∀ v, (p.key, v) ∈ ms → p.Shows style a v
  once : ((ms.map (·.1)).filter (· ∈ keys parts)).Nodup
  fresh : ∀ p ∈ parts, p.key ∈ ms.map (·.1) → p.key ∉ d.seen
  kept : ∀ p ∈ parts, p.key ∉ ms.map (·.1) →
    p.get a = p.get d.record ∧ (p.key ∈ d.seen ∨ p.default.isSome)

variable {style : Style} {d : Draft α} {ms : List (String × Value)} {a : α}

/-- The members of an object start from the blank record. -/
theorem Serves.continues_blank_iff (hl : l.Serves parts) :
    Continues parts style { record := l.blank, seen := [] } ms a ↔ ObjectForm parts style a ms := by
  constructor
  · intro h
    refine ⟨h.shows, h.once, fun p hp hkey => ?_⟩
    obtain ⟨hget, hseen | hdefault⟩ := h.kept p hp hkey
    · cases hseen
    · obtain ⟨x, hx⟩ := Option.isSome_iff_exists.mp hdefault
      rw [RecordPart.Omissible, hget, hl.blank p hp x hx, hx]
  · intro h
    refine ⟨h.shows, h.once, fun p _ _ => List.not_mem_nil, fun p hp hkey => ?_⟩
    have hdefault : p.default = some (p.get a) := h.omitted p hp hkey
    exact ⟨(hl.blank p hp _ hdefault).symm, .inr (Option.isSome_iff_exists.mpr ⟨_, hdefault⟩)⟩

/-- Without further members, the draft has to be the record and complete. -/
theorem Serves.continues_nil_iff (hl : l.Serves parts) :
    Continues parts style d [] a ↔ a = d.record ∧ l.missing? d.seen = none := by
  rw [hl.missing?_eq_none_iff]
  constructor
  · intro h
    have hkept := fun p hp => h.kept p hp List.not_mem_nil
    exact ⟨hl.ext _ _ fun p hp => (hkept p hp).1, fun p hp => (hkept p hp).2⟩
  · rintro ⟨rfl, hseen⟩
    refine ⟨fun p _ v hv => ?_, List.nodup_nil, fun p _ hkey => ?_, fun p hp _ => ⟨rfl, hseen p hp⟩⟩
    · cases hv
    · cases hkey

/-- A member of an unknown key changes nothing. -/
theorem continues_unknown_iff {key : String} {v : Value} (hkey : key ∉ keys parts) :
    Continues parts style d ((key, v) :: ms) a ↔ Continues parts style d ms a := by
  have hne : ∀ p ∈ parts, p.key ≠ key := by
    rintro p hp rfl
    exact hkey (mem_keys hp)
  have hmem : ∀ p ∈ parts, (p.key ∈ ((key, v) :: ms).map (·.1) ↔ p.key ∈ ms.map (·.1)) := by
    intro p hp
    rw [List.map_cons, List.mem_cons, or_iff_right (hne p hp)]
  constructor
  · intro h
    refine ⟨fun p hp w hw => h.shows p hp w (List.mem_cons_of_mem _ hw), ?_,
      fun p hp hkey => h.fresh p hp ((hmem p hp).mpr hkey),
      fun p hp hkey => h.kept p hp fun hkey' => hkey ((hmem p hp).mp hkey')⟩
    have honce := h.once
    rwa [List.map_cons, List.filter_cons_of_neg (by simpa using hkey)] at honce
  · intro h
    refine ⟨fun p hp w hw => ?_, ?_, fun p hp hkey => h.fresh p hp ((hmem p hp).mp hkey),
      fun p hp hkey => h.kept p hp fun hkey' => hkey ((hmem p hp).mpr hkey')⟩
    · rcases List.mem_cons.mp hw with he | hw
      · exact absurd (congrArg Prod.fst he) (hne p hp)
      · exact h.shows p hp w hw
    · rw [List.map_cons, List.filter_cons_of_neg (by simpa using hkey)]
      exact h.once

/-- Parts are known by their keys. -/
theorem Serves.eq_of_key_eq (hl : l.Serves parts) {p q : RecordPart α} (hp : p ∈ parts)
    (hq : q ∈ parts) (h : p.key = q.key) : p = q :=
  List.inj_on_of_nodup_map hl.nodup hp hq h

/-- A member of a known key puts what it shows into its part. -/
theorem Serves.continues_known (hl : l.Serves parts) {p : RecordPart α} (hp : p ∈ parts) {v : Value}
    (h : Continues parts style d ((p.key, v) :: ms) a) :
    p.Shows style a v ∧ p.key ∉ d.seen ∧ ∀ change, p.Puts parts (p.get a) change →
      Continues parts style { record := change d.record, seen := p.key :: d.seen } ms a := by
  have honce := h.once
  rw [List.map_cons, List.filter_cons_of_pos (by simpa using mem_keys hp),
    List.nodup_cons] at honce
  have habsent : p.key ∉ ms.map (·.1) := by
    intro hkey
    exact honce.1 (List.mem_filter.mpr ⟨hkey, by simpa using mem_keys hp⟩)
  refine ⟨h.shows p hp v List.mem_cons_self, h.fresh p hp List.mem_cons_self, ?_⟩
  intro change hchange
  refine ⟨fun q hq w hw => h.shows q hq w (List.mem_cons_of_mem _ hw), honce.2, ?_, ?_⟩
  · intro q hq hkey hseen
    rcases List.mem_cons.mp hseen with he | hseen
    · exact habsent (he ▸ hkey)
    · exact h.fresh q hq (List.mem_cons_of_mem _ hkey) hseen
  · intro q hq hkey
    by_cases he : q.key = p.key
    · obtain rfl := hl.eq_of_key_eq hq hp he
      exact ⟨(hchange.same _).symm, .inl List.mem_cons_self⟩
    · have hkey' : q.key ∉ ((p.key, v) :: ms).map (·.1) := by
        rw [List.map_cons, List.mem_cons, not_or]
        exact ⟨he, hkey⟩
      obtain ⟨hget, hseen⟩ := h.kept q hq hkey'
      rw [hchange.others q hq he]
      exact ⟨hget, hseen.imp_left (List.mem_cons_of_mem _)⟩

theorem Serves.continues_cons (hl : l.Serves parts) {p : RecordPart α} (hp : p ∈ parts) {v : Value}
    {x : p.Held} {change : α → α} (hx : p.form style x v) (hchange : p.Puts parts x change)
    (hseen : p.key ∉ d.seen)
    (h : Continues parts style { record := change d.record, seen := p.key :: d.seen } ms a) :
    Continues parts style d ((p.key, v) :: ms) a := by
  have habsent : p.key ∉ ms.map (·.1) := fun hkey => h.fresh p hp hkey List.mem_cons_self
  have hget : p.get a = x := by
    rw [(h.kept p hp habsent).1, hchange.same]
  refine ⟨?_, ?_, ?_, ?_⟩
  · intro q hq w hw
    rcases List.mem_cons.mp hw with he | hw
    · obtain ⟨hkey, rfl⟩ := Prod.mk.inj he
      obtain rfl := hl.eq_of_key_eq hq hp hkey
      rw [RecordPart.Shows, hget]
      exact hx
    · exact h.shows q hq w hw
  · rw [List.map_cons, List.filter_cons_of_pos (by simpa using mem_keys hp),
      List.nodup_cons]
    exact ⟨fun hkey => habsent (List.mem_filter.mp hkey).1, h.once⟩
  · intro q hq hkey
    rcases List.mem_cons.mp hkey with he | hkey
    · exact he ▸ hseen
    · exact fun hq' => h.fresh q hq hkey (List.mem_cons_of_mem _ hq')
  · intro q hq hkey
    rw [List.map_cons, List.mem_cons, not_or] at hkey
    obtain ⟨hne, hkey⟩ := hkey
    obtain ⟨hget, hseen'⟩ := h.kept q hq hkey
    rw [hchange.others q hq hne] at hget
    refine ⟨hget, hseen'.imp_left fun hq' => ?_⟩
    exact (List.mem_cons.mp hq').resolve_left hne

/-! ### Objects -/

/-- What follows a member ends its value. -/
theorem ends_of_follows {rest : List Char} (h : Follows rest) : Ends rest := by
  obtain ⟨b, c, s, hb, hc, rfl⟩ := h
  refine Ends.append hb (ends_cons ?_ s)
  rcases hc with rfl | rfl
  · decide
  · decide

/-- A member of an unknown key is skipped, whatever its value is. -/
theorem accepts_unknown {key : String} (hs : l.slot? key = none) (v : Value) :
    l.Accepts (symbols key, v) d d := by
  intro t rest ht hrest
  obtain ⟨k, b, b', t', hk, hb, hb', ht', rfl⟩ := ht.parts
  have htext : k ++ '"' :: (b ++ ':' :: (b' ++ t')) ++ rest =
      k ++ '"' :: (b ++ ':' :: (b' ++ t' ++ rest)) := by simp
  rw [htext, readMember, readText_spelt hk]
  simp only [hs]
  rw [skipColon_append hb]
  change (skipValue (b' ++ t' ++ rest)).map _ = _
  rw [skipValue_spelt hb' ht' (ends_of_follows hrest)]
  rfl

/-- Members that say what there is still to say of the record are accepted one after another. -/
theorem Serves.fills (hl : l.Serves parts) (h : Continues parts style d ms a) :
    ∃ seen, l.Fills d (ms.map fun m => (symbols m.1, m.2)) { record := a, seen := seen } ∧
      l.missing? seen = none := by
  induction ms generalizing d with
  | nil =>
    obtain ⟨rfl, hseen⟩ := hl.continues_nil_iff.mp h
    exact ⟨d.seen, .nil, hseen⟩
  | cons m ms ih =>
    obtain ⟨key, v⟩ := m
    by_cases hkey : key ∈ keys parts
    · obtain ⟨p, hp, rfl⟩ := List.mem_map.mp hkey
      obtain ⟨slot, hslot, hserves⟩ := hl.slot?_eq_some hp
      obtain ⟨hshows, hseen, hrest⟩ := hl.continues_known hp h
      obtain ⟨change, htakes, hputs⟩ := hserves.takes hshows
      obtain ⟨seen, hfills, hmissing⟩ := ih (hrest change hputs)
      exact ⟨seen, .cons (accepts_slot hslot hseen htakes) hfills, hmissing⟩
    · obtain ⟨seen, hfills, hmissing⟩ := ih ((continues_unknown_iff hkey).mp h)
      exact ⟨seen, .cons (accepts_unknown (hl.slot?_eq_none hkey) v) hfills, hmissing⟩

theorem Serves.takes_object (hl : l.Serves parts) (h : ObjectForm parts style a ms) :
    l.reader.Takes (.record ms) a := by
  obtain ⟨seen, hfills, hmissing⟩ := hl.fills (hl.continues_blank_iff.mpr h)
  exact Layout.takes_object hfills hmissing

theorem spelt_of_nextKey_closed {first : Bool} {s r : List Char}
    (h : nextKey first s = .ok (.closed r)) : ∃ b, Blank b ∧ s = b ++ '}' :: r := by
  obtain ⟨b, hb, hs⟩ := exists_blank_append s
  rw [nextKey] at h
  split at h
  · cases h
  · next q hq =>
    cases h
    exact ⟨b, hb, hq ▸ hs⟩
  · split at h
    · split at h
      · cases h
      · cases h
    · split at h
      · split at h
        · cases h
        · cases h
        · cases h
        · cases h
      · cases h

theorem spelt_of_nextKey_element {first : Bool} {s r : List Char}
    (h : nextKey first s = .ok (.element r)) :
    ∃ lead b, Lead first lead ∧ Blank b ∧ s = lead ++ (b ++ '"' :: r) := by
  obtain ⟨b, hb, hs⟩ := exists_blank_append s
  rw [nextKey] at h
  split at h
  · cases h
  · cases h
  · next c q _ hq =>
    split at h
    · next hfirst =>
      split at h
      · next hc =>
        cases h
        subst hfirst hc
        exact ⟨[], b, .first, hb, hq ▸ hs⟩
      · cases h
    · next hfirst =>
      rw [Bool.not_eq_true] at hfirst
      split at h
      · next hc =>
        obtain ⟨b', hb', hs'⟩ := exists_blank_append q
        split at h
        · cases h
        · cases h
        · next q' hq' =>
          cases h
          subst hfirst
          refine ⟨b ++ [','], b', .next hb, hb', ?_⟩
          rw [hs, hq, hc, ← hq', ← hs', List.append_cons]
        · cases h
      · cases h

/-- What has been read as a member is a spelling of one. It shows the part of its key, which the
draft has not had, or its key is unknown and the draft stays as it is. -/
theorem Serves.spelt_of_readMember (hl : l.Serves parts) {e : Draft α} {s r : List Char}
    (h : l.readMember d s = .ok (e, r)) :
    ∃ key v t, SpellsMember Spells (symbols key, v) ('"' :: t) ∧ s = t ++ r ∧
      ((key ∉ keys parts ∧ e = d) ∨ ∃ p ∈ parts, p.key = key ∧ key ∉ d.seen ∧ ∃ x change,
        p.form .mixed x v ∧ p.Puts parts x change ∧
          e = { record := change d.record, seen := key :: d.seen }) := by
  rw [readMember] at h
  split at h
  · cases h
  · next key q hkey =>
    obtain ⟨k, hk, rfl⟩ := spelt_of_readText hkey
    by_cases hmem : key ∈ keys parts
    · obtain ⟨p, hp, rfl⟩ := List.mem_map.mp hmem
      obtain ⟨slot, hslot, hserves⟩ := hl.slot?_eq_some hp
      simp only [hslot] at h
      split at h
      · cases h
      · next hseen =>
        obtain ⟨⟨change, q₂⟩, hvalue, he⟩ := map_ok h
        obtain ⟨q₁, hcolon, hread⟩ := bind_ok hvalue
        cases he
        obtain ⟨b, hb, rfl⟩ := spelt_of_skipColon hcolon
        obtain ⟨x, b', v, t, hb', ht, hform, rfl, hputs⟩ := hserves.only hread
        refine ⟨p.key, v, _, .member hk hb hb' ht, by simp, .inr ⟨p, hp, rfl, ?_, x, change, hform,
          hputs, rfl⟩⟩
        simpa using hseen
    · simp only [hl.slot?_eq_none hmem] at h
      obtain ⟨q₂, hvalue, he⟩ := map_ok h
      obtain ⟨q₁, hcolon, hskip⟩ := bind_ok hvalue
      cases he
      obtain ⟨b, hb, rfl⟩ := spelt_of_skipColon hcolon
      obtain ⟨b', v, t, hb', ht, rfl⟩ := spelt_of_skipValue hskip
      exact ⟨key, v, _, .member hk hb hb' ht, by simp, .inl ⟨hmem, rfl⟩⟩

/-- What has been read of an object up to its closing brace. -/
theorem Serves.rest_of_readMembers (hl : l.Serves parts) {first : Bool} {s r : List Char}
    (h : l.readMembers first d s = .ok (a, r)) :
    ∃ ms t, Rest (SpellsMember Spells) '}' first (ms.map fun m => (symbols m.1, m.2)) t ∧
      s = t ++ r ∧ Continues parts .mixed d ms a := by
  fun_induction readMembers l first d s with
  | case1 => cases h
  | case2 => cases h
  | case3 first d s q hn hmissing =>
    cases h
    obtain ⟨b, hb, rfl⟩ := spelt_of_nextKey_closed hn
    exact ⟨[], b ++ ['}'], .closed hb, by simp, hl.continues_nil_iff.mpr ⟨rfl, hmissing⟩⟩
  | case4 => cases h
  | case5 first d s q hn e q' hm ih =>
    obtain ⟨ms, u, hrest, rfl, hcontinues⟩ := ih h
    obtain ⟨lead, b, hlead, hb, rfl⟩ := spelt_of_nextKey_element hn
    obtain ⟨key, v, t, ht, rfl, hkey⟩ := hl.spelt_of_readMember hm
    refine ⟨(key, v) :: ms, _, hrest.cons hlead hb ht, by simp, ?_⟩
    rcases hkey with ⟨hkey, rfl⟩ | ⟨p, hp, rfl, hseen, x, change, hform, hputs, rfl⟩
    · exact (continues_unknown_iff hkey).mpr hcontinues
    · exact hl.continues_cons hp hform hputs hseen hcontinues

end Layout

end ClassDiagram.Json
