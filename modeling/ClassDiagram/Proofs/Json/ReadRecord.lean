import ClassDiagram.Proofs.Json.ReadValue

/-!
# Reading Spelt Records

What an object does to a record is the sum of what its members do to the draft of the record: a
layout `Accepts` a member if every spelling of it turns one draft into another, and it `Fills` a
draft by members that are accepted one after another. Reading follows the members step by step
(`Layout.readMembers_step`, `Layout.readMembers_run`), so a layout takes every object that fills its
blank record and leaves out no required member (`Layout.takes_object`), such as one that has all
members in the order of declaration (`Layout.takes_record`).
-/

namespace ClassDiagram.Json

variable {α β : Type}

/-! ### Members -/

/-- What may stand behind a member: a comma or a brace, behind blanks. Without it a number could
go on. -/
def Follows (rest : List Char) : Prop :=
  ∃ b c s, Blank b ∧ (c = ',' ∨ c = '}') ∧ rest = b ++ c :: s

theorem Follows.append {b rest : List Char} (hb : Blank b) (h : Follows rest) :
    Follows (b ++ rest) := by
  obtain ⟨b', c, s, hb', hc, rfl⟩ := h
  exact ⟨b ++ b', c, s, hb.append hb', hc, (List.append_assoc b b' _).symm⟩

theorem skipColon_append {b : List Char} (hb : Blank b) (s : List Char) :
    skipColon (b ++ ':' :: s) = .ok s := by
  rw [skipColon, skipBlanks_append hb, skipBlanks_cons (by decide)]
  rfl

/-- What the spelling of a member is made of, behind the opening quote of its key. -/
theorem SpellsMember.parts {key : List Symbol} {v : Value} {t : List Char}
    (h : SpellsMember Spells (key, v) ('"' :: t)) :
    ∃ k b b' t', SpellsText key k ∧ Blank b ∧ Blank b' ∧ Spells v t' ∧
      t = k ++ '"' :: (b ++ ':' :: (b' ++ t')) := by
  generalize hs : '"' :: t = s at h
  cases h with
  | @member _ _ k b b' t' hk hb hb' hv =>
    refine ⟨k, b, b', t', hk, hb, hb', hv, ?_⟩
    rw [(List.cons.inj hs).2]
    simp only [List.append_eq, List.cons_append, List.append_assoc]

namespace Layout

/-- Every spelling of the member turns the draft `d` into the draft `e`. -/
def Accepts (l : Layout α) (m : List Symbol × Value) (d e : Draft α) : Prop :=
  ∀ t rest, SpellsMember Spells m ('"' :: t) → Follows rest →
    l.readMember d (t ++ rest) = .ok (e, rest)

/-- The members turn the draft `d` into the draft `e`, one after another. -/
inductive Fills (l : Layout α) : Draft α → List (List Symbol × Value) → Draft α → Prop
  | nil {d : Draft α} : l.Fills d [] d
  | cons {d e f : Draft α} {m : List Symbol × Value} {ms : List (List Symbol × Value)} :
      l.Accepts m d e → l.Fills e ms f → l.Fills d (m :: ms) f

/-- A member whose key is known and new changes the record as its slot says. -/
theorem accepts_slot {l : Layout α} {key : String} {slot : Slot α} {v : Value} {change : α → α}
    {d : Draft α} (hs : l.slot? key = some slot) (hd : key ∉ d.seen)
    (hv : slot.value.Takes v change) :
    l.Accepts (symbols key, v) d { record := change d.record, seen := key :: d.seen } := by
  intro t rest ht _
  obtain ⟨k, b, b', t', hk, hb, hb', ht', rfl⟩ := ht.parts
  have htext : k ++ '"' :: (b ++ ':' :: (b' ++ t')) ++ rest =
      k ++ '"' :: (b ++ ':' :: (b' ++ t' ++ rest)) := by simp
  rw [htext, readMember, readText_spelt hk]
  simp only [hs, List.contains_eq_mem, hd, decide_false]
  rw [skipColon_append hb]
  change (slot.value.read (b' ++ t' ++ rest)).map _ = _
  rw [hv b' t' rest hb' ht']
  rfl

/-! ### Objects -/

theorem nextKey_append {b : List Char} (hb : Blank b) (first : Bool) (s : List Char) :
    nextKey first (b ++ s) = nextKey first s := by
  rw [nextKey, nextKey, skipBlanks_append hb]

theorem nextKey_closed (first : Bool) (s : List Char) :
    nextKey first ('}' :: s) = .ok (.closed s) := by
  rw [nextKey, skipBlanks_cons (by decide)]
  rfl

theorem nextKey_lead {first : Bool} {lead b : List Char} (hl : Lead first lead) (hb : Blank b)
    (s : List Char) : nextKey first (lead ++ (b ++ '"' :: s)) = .ok (.element s) := by
  cases hl with
  | first =>
    rw [List.nil_append, nextKey_append hb, nextKey, skipBlanks_cons (by decide)]
    rfl
  | next hb' =>
    rw [List.append_assoc, nextKey_append hb', nextKey, List.singleton_append,
      skipBlanks_cons (by decide)]
    simp [skipBlanks_append hb, skipBlanks_cons (show isBlank '"' = false by decide)]

theorem readMembers_eq (l : Layout α) (first : Bool) (d : Draft α) (s : List Char) :
    l.readMembers first d s =
      match nextKey first s with
      | .error f => .error f
      | .ok (.closed r) =>
        match l.missing? d.seen with
        | some slot => .error (.missingField slot.key)
        | none => .ok (d.record, r)
      | .ok (.element r) =>
        match l.readMember d r with
        | .error f => .error f
        | .ok (e, q) => l.readMembers false e q := by
  rw [readMembers]
  split
  · next f hn => rw [hn]
  · next r hn =>
    cases l.missing? d.seen with
    | none => simp only [hn]
    | some slot => simp only [hn]
  · next r hn =>
    simp only [hn]
    split
    · next f hm => rw [hm]
    · next e q hm => rw [hm]

theorem readMembers_blanks {b : List Char} (hb : Blank b) (l : Layout α) (first : Bool)
    (d : Draft α) (s : List Char) : l.readMembers first d (b ++ s) = l.readMembers first d s := by
  rw [readMembers_eq, readMembers_eq l first d s, nextKey_append hb]

theorem readMembers_closed {l : Layout α} {d : Draft α} (hd : l.missing? d.seen = none)
    (first : Bool) (rest : List Char) :
    l.readMembers first d ('}' :: rest) = .ok (d.record, rest) := by
  rw [readMembers_eq, nextKey_closed]
  simp only [hd]

theorem readMembers_missing {l : Layout α} {d : Draft α} {slot : Slot α}
    (hd : l.missing? d.seen = some slot) (first : Bool) (rest : List Char) :
    l.readMembers first d ('}' :: rest) = .error (.missingField slot.key) := by
  rw [readMembers_eq, nextKey_closed]
  simp only [hd]

theorem readMembers_fault {l : Layout α} {d : Draft α} {s : List Char} {f : Fault}
    (hs : l.readMember d s = .error f) {first : Bool} {lead b : List Char} (hl : Lead first lead)
    (hb : Blank b) : l.readMembers first d (lead ++ (b ++ '"' :: s)) = .error f := by
  rw [readMembers_eq, nextKey_lead hl hb]
  simp only [hs]

/-- One step of reading an object reads one member, with the comma and the blanks in front of it. -/
theorem readMembers_step {l : Layout α} {m : List Symbol × Value} {d e : Draft α}
    (hm : l.Accepts m d e) {first : Bool} {lead b t rest : List Char} (hl : Lead first lead)
    (hb : Blank b) (ht : SpellsMember Spells m t) (hrest : Follows rest) :
    l.readMembers first d (lead ++ (b ++ t ++ rest)) = l.readMembers false e rest := by
  obtain ⟨s, rfl⟩ : ∃ s, t = '"' :: s := by
    cases ht with
    | member => exact ⟨_, rfl⟩
  rw [readMembers_eq, List.append_assoc, List.cons_append, nextKey_lead hl hb]
  simp only [hm s rest ht hrest]

/-- Reading the members of an object goes on behind them with the draft that they make. -/
theorem readMembers_run {l : Layout α} {ms : List (List Symbol × Value)} {t : List Char}
    (ht : Separated (SpellsMember Spells) ms t) {d e : Draft α} (hms : l.Fills d ms e)
    {first : Bool} {lead rest : List Char} (hl : Lead first lead) (hrest : Follows rest) :
    l.readMembers first d (lead ++ (t ++ rest)) = l.readMembers false e rest := by
  induction ht generalizing d first lead with
  | @last m b t b' hb ht hb' =>
    obtain _ | ⟨hm, hnil⟩ := hms
    cases hnil
    rw [List.append_assoc, readMembers_step hm hl hb ht (hrest.append hb'), readMembers_blanks hb']
  | @more m ms b t b' ts hb ht hb' _ ih =>
    cases hms with
    | @cons _ f _ _ _ hm hms =>
      have hcomma : Follows (b' ++ (',' :: ts ++ rest)) :=
        ⟨b', ',', ts ++ rest, hb', .inl rfl, rfl⟩
      rw [List.append_assoc, List.append_assoc, readMembers_step hm hl hb ht hcomma]
      calc l.readMembers false f (b' ++ (',' :: ts ++ rest))
          = l.readMembers false f (b' ++ [','] ++ (ts ++ rest)) := by simp
        _ = l.readMembers false e rest := ih hms (.next hb')

/-- An object is read up to its closing brace with the draft that its members make. -/
theorem read_object {l : Layout α} {ms : List (List Symbol × Value)} {e : Draft α}
    (hms : l.Fills { record := l.blank, seen := [] } ms e) {b t : List Char} (hb : Blank b)
    (ht : Spells (.object ms) t) (rest : List Char) :
    ∃ first, l.reader.read (b ++ t ++ rest) = l.readMembers first e ('}' :: rest) := by
  change ∃ first, l.takeRecord (skipBlanks _) = _
  cases ht with
  | @emptyObject b' hb' =>
    cases hms
    refine ⟨true, ?_⟩
    rw [List.cons_append, skipBlanks_spelt hb (by decide), takeRecord, List.append_assoc,
      readMembers_blanks hb']
    rfl
  | @object _ t ht =>
    have hclose : Follows (['}'] ++ rest) := ⟨[], '}', rest, .nil, .inr rfl, rfl⟩
    refine ⟨false, ?_⟩
    rw [List.cons_append, skipBlanks_spelt hb (by decide), takeRecord, List.append_assoc]
    exact readMembers_run ht hms .first hclose

/-- A layout takes every object that fills its blank record and has the required members. -/
theorem takes_object {l : Layout α} {ms : List (List Symbol × Value)} {a : α}
    {seen : List String}
    (hms : l.Fills { record := l.blank, seen := [] } ms { record := a, seen := seen })
    (hseen : l.missing? seen = none) : l.reader.Takes (.object ms) a := by
  intro b t rest hb ht
  obtain ⟨first, hread⟩ := read_object hms hb ht rest
  rw [hread, readMembers_closed hseen]

/-! ### Members in the order of declaration -/

/-- There is one member for each of the slots, in their order, and together the members change a
record from `a` to `b`. -/
inductive Matches : List (Slot α) → List (String × Value) → α → α → Prop
  | nil {a : α} : Matches [] [] a a
  | cons {slot : Slot α} {slots : List (Slot α)} {v : Value} {ms : List (String × Value)}
      {change : α → α} {a b : α} :
      slot.value.Takes v change → Matches slots ms (change a) b →
        Matches (slot :: slots) ((slot.key, v) :: ms) a b

/-- A slot that reads the value of its member with `p` and stores it with `store`. -/
theorem Matches.store {key : String} {required : Bool} {p : Reader β} {store : β → α → α}
    {slots : List (Slot α)} {v : Value} {ms : List (String × Value)} {x : β} {a b : α}
    (hv : p.Takes v x) (hms : Matches slots ms (store x a) b) :
    Matches ({ key := key, required := required, value := p.map store } :: slots)
      ((key, v) :: ms) a b :=
  .cons (hv.map store) hms

theorem slot?_key {l : Layout α} (hn : (l.slots.map (·.key)).Nodup) {front slots : List (Slot α)}
    {slot : Slot α} (hl : l.slots = front ++ slot :: slots) :
    slot.key ∉ front.map (·.key) ∧ l.slot? slot.key = some slot := by
  rw [hl, List.map_append, List.nodup_append] at hn
  have hfront : slot.key ∉ front.map (·.key) := fun h => hn.2.2 _ h _ List.mem_cons_self rfl
  refine ⟨hfront, ?_⟩
  rw [slot?, hl, List.find?_append, List.find?_eq_none.mpr, Option.none_or,
    List.find?_cons_of_pos (by simp)]
  intro other hother hkey
  exact hfront (List.mem_map.mpr ⟨other, hother, by simpa using hkey⟩)

/-- Members in the order of the slots are accepted one after another. -/
theorem Matches.fills {l : Layout α} (hn : (l.slots.map (·.key)).Nodup) {slots : List (Slot α)}
    {ms : List (String × Value)} {a b : α} (h : Matches slots ms a b) :
    ∀ front, l.slots = front ++ slots →
      l.Fills { record := a, seen := (front.map (·.key)).reverse }
        (ms.map fun m => (symbols m.1, m.2))
        { record := b, seen := (l.slots.map (·.key)).reverse } := by
  induction h with
  | nil =>
    intro front hl
    rw [hl, List.append_nil]
    exact .nil
  | @cons slot slots v ms change a b hv _ ih =>
    intro front hl
    obtain ⟨hfront, hslot⟩ := slot?_key hn hl
    have hrest := ih (front ++ [slot]) (by simp [hl])
    rw [List.map_append, List.map_singleton, List.reverse_concat] at hrest
    exact .cons (accepts_slot hslot (by simpa using hfront) hv) hrest

/-- A layout takes the object that has a member for each of its slots, in their order. -/
theorem takes_record {l : Layout α} (hn : (l.slots.map (·.key)).Nodup)
    {ms : List (String × Value)} {a : α} (h : Matches l.slots ms l.blank a) :
    l.reader.Takes (.record ms) a := by
  refine takes_object (h.fills hn [] rfl) ?_
  rw [missing?, List.find?_eq_none]
  intro slot hslot
  have hkey : slot.key ∈ (l.slots.map (·.key)).reverse :=
    List.mem_reverse.mpr (List.mem_map_of_mem hslot)
  simp only [List.contains_eq_mem, hkey, decide_true, Bool.not_true, Bool.and_false,
    Bool.false_eq_true, not_false_eq_true]

end Layout

end ClassDiagram.Json
