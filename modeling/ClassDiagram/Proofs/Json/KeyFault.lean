import ClassDiagram.Proofs.Json.Break
import Mathlib.Data.List.Find

/-!
# Repeated and Missing Keys

An object whose keys are at fault goes on with a known key that it has had before, or it ends
without a key that it has to have. A reader notices the first at the closing quote of the repeated
key and the second not before the closing brace, where the draft of the record has seen the known
keys of all members (`Layout.Serves.fills_start`). Of the keys that are missing it names the one
that is declared first (`Layout.Serves.missing?_key`), and it reports nothing else
(`Layout.Serves.stops_keyFault`).
-/

namespace ClassDiagram.Json

variable {α : Type} {parts : List (RecordPart α)}

/-- An object with a fault in its keys, and the fault. -/
inductive KeyFault (parts : List (RecordPart α)) : Breaks
  | repeated {ms : List (String × Value)} {front b k : List Char} {key : String} :
      ObjectStart parts ms →
        Begun (SpellsMember Spells) true (ms.map fun m => (symbols m.1, m.2)) front → Blank b →
        key ∈ keys parts → key ∈ ms.map (·.1) → SpellsText (symbols key) k →
        KeyFault parts ('{' :: (front ++ (b ++ '"' :: (k ++ ['"'])))) (.duplicateField key)
  | missing {ms : List (String × Value)} {t : List Char} {key : String} :
      ObjectStart parts ms → (requiredKeys parts).find? (· ∉ ms.map (·.1)) = some key →
        Spells (.record ms) t → KeyFault parts t (.missingField key)

/-! ### Members of objects that are in order -/

section Members
variable {style : Style} {a : α} {ms ms' : List (String × Value)} {key : String}

/-- Some of the members of an object that stands for a record may begin one. -/
theorem ObjectForm.start (hparts : ∀ p ∈ parts, Lenient p.form) (h : ObjectForm parts style a ms)
    (hms : ms'.Sublist ms) : ObjectStart parts ms' where
  allows p hp v hv := ⟨p.get a, hparts p hp (h.shows p hp v (hms.subset hv))⟩
  once := h.once.sublist ((hms.map _).filter _)

/-- An object that stands for a record has the keys that it has to have. -/
theorem ObjectForm.mem_of_required (h : ObjectForm parts style a ms)
    (hkey : key ∈ requiredKeys parts) : key ∈ ms.map (·.1) := by
  obtain ⟨p, hp, hdefault, rfl⟩ := mem_requiredKeys.mp hkey
  by_contra habsent
  have homitted : p.default = some (p.get a) := h.omitted p hp habsent
  rw [hdefault] at homitted
  cases homitted

/-- Of the keys of members that are taken out, the first that the object has to have is missing. -/
theorem ObjectForm.find?_missing (h : ObjectForm parts style a ms) (removed : List String) :
    (requiredKeys parts).find? (· ∉ (ms.filter (·.1 ∉ removed)).map (·.1)) =
      (requiredKeys parts).find? (· ∈ removed) := by
  refine List.find?_congr fun key hkey => decide_eq_decide.mpr ?_
  obtain ⟨m, hm, rfl⟩ := List.mem_map.mp (h.mem_of_required hkey)
  constructor
  · intro habsent
    by_contra hkept
    exact habsent (List.mem_map_of_mem (List.mem_filter.mpr ⟨hm, by simpa using hkept⟩))
  · intro hremoved hmem
    obtain ⟨m', hm', he⟩ := List.mem_map.mp hmem
    rw [← he] at hremoved
    simpa [hremoved] using (List.mem_filter.mp hm').2

/-- No member in front of one of a known key has that key. -/
theorem ObjectForm.not_mem_front {v : Value}
    (h : ObjectForm parts style a (ms ++ (key, v) :: ms')) (hkey : key ∈ keys parts) :
    key ∉ ms.map (·.1) := by
  intro hmem
  have honce := h.once
  rw [List.map_append, List.map_cons, List.filter_append,
    List.filter_cons_of_pos (by simpa using hkey), List.nodup_append] at honce
  have hfront : key ∈ (ms.map (·.1)).filter (· ∈ keys parts) :=
    List.mem_filter.mpr ⟨hmem, by simpa using hkey⟩
  exact honce.2.2 key hfront key List.mem_cons_self rfl

end Members

/-- Elements with commas in between are the beginning of a list that goes on, once there is a comma
behind the last of them as well. -/
theorem Separated.begun {β : Type} {r : β → List Char → Prop} {xs : List β} {t : List Char}
    (h : Separated r xs t) {first : Bool} {lead : List Char} (hl : Lead first lead) :
    Begun r first xs (lead ++ (t ++ [','])) := by
  induction h generalizing first lead with
  | @last x b t b' hb ht hb' =>
    have hbegun : Begun r first [x] _ := .cons hl hb ht (.nil (.next hb'))
    simpa using hbegun
  | @more x xs b t b' ts hb ht hb' _ ih =>
    have hbegun := Begun.cons hl hb ht (ih (.next hb'))
    simpa using hbegun

/-! ### Reading -/

namespace Layout

variable {l : Layout α} {slot : Slot α} {d : Draft α} {key : String}

theorem readMember_repeated (hslot : l.slot? key = some slot) (hd : key ∈ d.seen) {k : List Char}
    (hk : SpellsText (symbols key) k) (rest : List Char) :
    l.readMember d (k ++ '"' :: rest) = .error (.duplicateField key) := by
  rw [readMember, readText_spelt hk]
  simp only [hslot, List.contains_eq_mem, hd, decide_true, if_true]

/-- A record stops where the keys of an object are at fault. -/
theorem Serves.stops_keyFault (hl : l.Serves parts) : l.reader.Stops (KeyFault parts) where
  opens := by
    intro t f ht
    cases ht with
    | repeated => exact ⟨_, _, rfl, by decide⟩
    | missing _ _ ht => exact ht.head
  fails := by
    intro t f b ht hb rest
    have hfills {ms : List (String × Value)} (hms : ObjectStart parts ms) :=
      hl.fills_start (d := { record := l.blank, seen := [] }) hms fun _ _ _ => List.not_mem_nil
    cases ht with
    | @repeated ms front b' k key hms hfront hb' hkey hmem hk =>
      obtain ⟨e, he, hseen⟩ := hfills hms
      obtain ⟨p, hp, rfl⟩ := List.mem_map.mp hkey
      obtain ⟨slot, hslot, -⟩ := hl.slot?_eq_some hp
      have hfault := readMember_repeated hslot ((hseen _).mpr (.inr ⟨hkey, hmem⟩)) hk rest
      have htext : front ++ (b' ++ '"' :: (k ++ ['"'])) ++ rest =
          front ++ (b' ++ '"' :: (k ++ '"' :: rest)) := by simp
      change l.takeRecord (skipBlanks _) = _
      rw [skipBlanks_spelt hb (by decide), takeRecord, htext]
      exact readMembers_begun hfault hfront he hb'
    | @missing ms _ key hms hkey ht =>
      obtain ⟨e, he, hseen⟩ := hfills hms
      obtain ⟨first, hread⟩ := read_object he hb ht rest
      -- an unknown key may be among the members and is not seen, but no required key is unknown
      have hfirst : (l.missing? e.seen).map (·.key) = some key := by
        rw [hl.missing?_key, ← hkey]
        refine List.find?_congr fun k hk => ?_
        obtain ⟨p, hp, -, rfl⟩ := mem_requiredKeys.mp hk
        simp [hseen, mem_keys hp]
      obtain ⟨slot, hslot, rfl⟩ := Option.map_eq_some_iff.mp hfirst
      rw [hread, readMembers_missing hslot]

end Layout

end ClassDiagram.Json
