import ClassDiagram.Proofs.Json.ReadRows

/-!
# Texts That Break Off

A text may begin like a form and break off in the middle: there is a fault in it, and whatever
follows is not read. Such texts are described from the outside in. In front of the element or the
member in which a list or a record breaks off stand others that are in order (`Begun`), so the whole
text breaks off where that element does (`ListBreaks`, `RecordBreaks`). One way for a record to
break off by itself is to be a row that ends too early (`ShortRow`).

A reader `Stops` at such texts if it reports their faults. As with forms, there is one statement for
lists and one for records (`Reader.Stops.listOf`, `Layout.Serves.stops`).
-/

namespace ClassDiagram.Json

variable {α β : Type}

/-! ### Texts with a fault -/

/-- Texts that break off at their end, and the faults there. -/
abbrev Breaks := List Char → Fault → Prop

/-- The text from an opening bracket (`first`) or from behind an element up to where another element
may begin: the elements on the way, and the commas between them and behind the last. -/
inductive Begun (r : β → List Char → Prop) : Bool → List β → List Char → Prop
  | nil {first : Bool} {lead : List Char} : Lead first lead → Begun r first [] lead
  | cons {first : Bool} {x : β} {xs : List β} {lead b t ts : List Char} :
      Lead first lead → Blank b → r x t → Begun r false xs ts →
        Begun r first (x :: xs) (lead ++ (b ++ t ++ ts))

theorem Lead.follows {lead : List Char} (h : Lead false lead) (rest : List Char) :
    Follows (lead ++ rest) := by
  cases h with
  | @next b hb => exact ⟨b, ',', rest, hb, .inl rfl, by simp⟩

theorem Begun.follows {r : β → List Char → Prop} {xs : List β} {t : List Char}
    (h : Begun r false xs t) (rest : List Char) : Follows (t ++ rest) := by
  cases h with
  | nil hl => exact hl.follows rest
  | cons hl =>
    rw [List.append_assoc]
    exact hl.follows _

/-- What is left of a list with some more elements, up to one of them. -/
theorem Rest.begun {r : β → List Char → Prop} {close : Char} {first : Bool} {xs ys : List β} {y : β}
    {t : List Char} (h : Rest r close first (xs ++ y :: ys) t) :
    ∃ front b u back, Begun r first xs front ∧ Blank b ∧ r y u ∧
      t = front ++ (b ++ (u ++ back)) := by
  induction xs generalizing first t with
  | nil =>
    obtain ⟨lead, b, u, back, hl, hb, hu, -, rfl⟩ := h.cons_inv
    exact ⟨lead, b, u, back, .nil hl, hb, hu, rfl⟩
  | cons x xs ih =>
    obtain ⟨lead, b, u, t, hl, hb, hu, hrest, rfl⟩ := h.cons_inv
    obtain ⟨front, b', u', back, hfront, hb', hu', rfl⟩ := ih hrest
    exact ⟨_, b', u', back, .cons hl hb hu hfront, hb', hu', by simp⟩

/-- A list breaks off in one of its elements, behind others that are forms. -/
inductive ListBreaks (form : Style → α → Value → Prop) (inner : Breaks) : Breaks
  | element {as : List α} {vs : List Value} {front b t : List Char} {f : Fault} :
      List.Forall₂ (form .mixed) as vs → Begun Spells true vs front → Blank b → inner t f →
        ListBreaks form inner ('[' :: (front ++ (b ++ t))) f

/-- The value stands for something that a record can hold in the part. -/
def RecordPart.Allows (p : RecordPart α) (v : Value) : Prop := ∃ x, p.form .mixed x v

/-- The members that an object may begin with. -/
structure ObjectStart (parts : List (RecordPart α)) (ms : List (String × Value)) : Prop where
  allows : ∀ p ∈ parts, ∀ v, (p.key, v) ∈ ms → p.Allows v
  once : ((ms.map (·.1)).filter (· ∈ keys parts)).Nodup

theorem objectStart_nil {parts : List (RecordPart α)} : ObjectStart parts [] where
  allows _ _ _ h := absurd h List.not_mem_nil
  once := List.nodup_nil

theorem ObjectStart.tail {parts : List (RecordPart α)} {m : String × Value}
    {ms : List (String × Value)}
    (h : ObjectStart parts (m :: ms)) : ObjectStart parts ms where
  allows p hp v hv := h.allows p hp v (List.mem_cons_of_mem m hv)
  once := h.once.sublist ((List.sublist_cons_self _ _).filter _)

/-- A record breaks off by itself, or in one of its parts. The part is known by its key. -/
inductive RecordBreaks (parts : List (RecordPart α)) (own : Breaks) (inner : String → Breaks) :
    Breaks
  | own {t : List Char} {f : Fault} : own t f → RecordBreaks parts own inner t f
  | row {ps ps' : List (RecordPart α)} {p : RecordPart α} {vs : List Value} {front b t : List Char}
      {f : Fault} :
      parts = ps ++ p :: ps' → List.Forall₂ RecordPart.Allows ps vs → Begun Spells true vs front →
        Blank b → inner p.key t f → RecordBreaks parts own inner ('[' :: (front ++ (b ++ t))) f
  | object {p : RecordPart α} {ms : List (String × Value)} {front b k b' b'' t : List Char}
      {f : Fault} :
      ObjectStart parts ms →
        Begun (SpellsMember Spells) true (ms.map fun m => (symbols m.1, m.2)) front → Blank b →
        p ∈ parts → p.key ∉ ms.map (·.1) → SpellsText (symbols p.key) k → Blank b' → Blank b'' →
        inner p.key t f →
        RecordBreaks parts own inner
          ('{' :: (front ++ (b ++ '"' :: (k ++ '"' :: (b' ++ ':' :: (b'' ++ t)))))) f

/-- A row of fewer values than the parts that have to be given. -/
inductive ShortRow (title : String) (parts : List (RecordPart α)) (required : Nat) : Breaks
  | row {vs : List Value} {t : List Char} :
      vs.length < required → List.Forall₂ RecordPart.Allows (parts.take vs.length) vs →
        Spells (.list vs) t →
        ShortRow title parts required t (.invalidLength vs.length title parts.length)

/-! ### Readers -/

/-- The reader stops where the texts break off, and reports the faults there. -/
structure Reader.Stops (p : Reader α) (breaks : Breaks) : Prop where
  opens : ∀ {t f}, breaks t f → ∃ c s, t = c :: s ∧ Opens c
  fails : ∀ {t f b}, breaks t f → Blank b → ∀ rest, p.read (b ++ t ++ rest) = .error f

theorem Reader.stops_nowhere (p : Reader α) : p.Stops fun _ _ => False where
  opens := False.elim
  fails := False.elim

theorem Reader.Stops.map {p : Reader α} {breaks : Breaks} (hp : p.Stops breaks) (f : α → β) :
    (p.map f).Stops breaks where
  opens := hp.opens
  fails := by
    intro t g b ht hb rest
    change (p.read _).map _ = _
    rw [hp.fails ht hb]
    rfl

/-! ### Lists -/

theorem readElements_fault {p : Reader α} {breaks : Breaks} (hp : p.Stops breaks) {t : List Char}
    {f : Fault} (ht : breaks t f) {first : Bool} {lead b : List Char} (hl : Lead first lead)
    (hb : Blank b) (front : List α) (rest : List Char) :
    readElements p first front (lead ++ (b ++ t ++ rest)) = .error f := by
  have hread : p.read (t ++ rest) = .error f := hp.fails ht .nil rest
  obtain ⟨c, s, rfl, hc⟩ := hp.opens ht
  rw [readElements_eq, List.append_assoc, List.cons_append, nextElement_lead hl hb hc]
  rw [List.cons_append] at hread
  simp only [hread]

/-- Reading elements gets past those in front and fails in the one where the text breaks off. -/
theorem readElements_begun {p : Reader α} {breaks : Breaks} (hp : p.Stops breaks) {t : List Char}
    {f : Fault} (ht : breaks t f) {first : Bool} {vs : List Value} {front b : List Char}
    (hfront : Begun Spells first vs front) {as : List α} (hvs : List.Forall₂ p.Takes vs as)
    (hb : Blank b) (acc : List α) (rest : List Char) :
    readElements p first acc (front ++ (b ++ t ++ rest)) = .error f := by
  induction hfront generalizing as acc with
  | nil hl => exact readElements_fault hp ht hl hb acc rest
  | @cons _ v vs lead b' u us hl hb' hu _ ih =>
    obtain ⟨a, as, ha, has, rfl⟩ := List.forall₂_cons_left_iff.mp hvs
    have htext : lead ++ (b' ++ u ++ us) ++ (b ++ t ++ rest) =
        lead ++ (b' ++ u ++ (us ++ (b ++ t ++ rest))) := by simp
    rw [htext, readElements_step ha hl hb' hu]
    exact ih has (a :: acc)

theorem Reader.Stops.listOf {p : Reader α} {form : Style → α → Value → Prop} {breaks : Breaks}
    (hp : p.Stops breaks) (hform : p.Reads form) : p.listOf.Stops (ListBreaks form breaks) where
  opens := by
    rintro t f ⟨-, -, -, -⟩
    exact ⟨_, _, rfl, by decide⟩
  fails := by
    rintro _ f b ⟨has, hfront, hb', ht⟩ hb rest
    change takeList p (skipBlanks _) = _
    rw [skipBlanks_spelt hb (by decide), takeList, List.append_assoc]
    exact readElements_begun hp ht hfront (has.flip.imp fun _ _ => hform.takes) hb' [] rest

/-! ### Rows -/

namespace Layout

variable {l : Layout α} {parts : List (RecordPart α)} {slots₁ slots₂ : List (Slot α)}
  {slot : Slot α} {record : α}

/-- The slots take the values, one each. -/
def TakeAll (slots : List (Slot α)) (vs : List Value) : Prop :=
  List.Forall₂ (fun slot v => ∃ change, slot.value.Takes v change) slots vs

/-- Reading a row gets past the values in front and fails in the one where the text breaks off. -/
theorem readSlots_begun {breaks : Breaks} (hs : slot.value.Stops breaks) {t : List Char} {f : Fault}
    (ht : breaks t f) {index : Nat} {vs : List Value} {front b : List Char}
    (hfront : Begun Spells (index = 0) vs front) (hvs : TakeAll slots₁ vs) (hb : Blank b)
    (rest : List Char) :
    l.readSlots index record (slots₁ ++ slot :: slots₂) (front ++ (b ++ t ++ rest)) =
      .error f := by
  induction hvs generalizing index record front with
  | nil =>
    cases hfront with
    | nil hl =>
      have hread : slot.value.read (t ++ rest) = .error f := hs.fails ht .nil rest
      obtain ⟨c, s, rfl, hc⟩ := hs.opens ht
      rw [List.nil_append, readSlots, List.append_assoc, List.cons_append,
        nextElement_lead hl hb hc]
      rw [List.cons_append] at hread
      simp only [hread]
  | cons hv _ ih =>
    cases hfront with
    | @cons _ _ _ lead b' u us hl hb' hu hus =>
      obtain ⟨change, hchange⟩ := hv
      have htext : lead ++ (b' ++ u ++ us) ++ (b ++ t ++ rest) =
          lead ++ (b' ++ u ++ (us ++ (b ++ t ++ rest))) := by simp
      rw [List.cons_append, htext, readSlots_step hchange hl hb' hu]
      exact ih (by simpa using hus)

/-- Reading a row that ends in front of a required slot fails there. -/
theorem readSlots_short (hslot : slot.required = true) {index : Nat} {vs : List Value}
    {t : List Char} (ht : Rest Spells ']' (index = 0) vs t) (hvs : TakeAll slots₁ vs)
    (rest : List Char) :
    l.readSlots index record (slots₁ ++ slot :: slots₂) (t ++ rest) =
      .error (.invalidLength (index + vs.length) l.title l.slots.length) := by
  induction hvs generalizing index record t with
  | nil =>
    obtain ⟨b, hb, rfl⟩ := ht.nil_inv
    have hidx : (slot :: slots₂).findIdx? (·.required) = some 0 := by
      rw [List.findIdx?_cons, hslot]
      rfl
    rw [List.nil_append, readSlots, List.append_assoc, List.singleton_append,
      nextElement_append hb, nextElement_closed]
    simp only [hidx, List.length_nil]
  | @cons slot v slots vs hv _ ih =>
    obtain ⟨lead, b, u, t, hl, hb, hu, hrest, rfl⟩ := ht.cons_inv
    obtain ⟨change, hchange⟩ := hv
    have htext : lead ++ (b ++ (u ++ t)) ++ rest = lead ++ (b ++ u ++ (t ++ rest)) := by simp
    rw [List.cons_append, htext, readSlots_step hchange hl hb hu, ih (by simpa using hrest),
      List.length_cons, Nat.add_assoc, Nat.add_comm 1]

/-! ### Objects -/

/-- Reading members gets past those in front and fails in the one where the text breaks off. -/
theorem readMembers_begun {d e : Draft α} {s : List Char} {f : Fault}
    (hs : l.readMember e s = .error f) {first : Bool} {ms : List (List Symbol × Value)}
    {front b : List Char} (hfront : Begun (SpellsMember Spells) first ms front)
    (hms : l.Fills d ms e) (hb : Blank b) :
    l.readMembers first d (front ++ (b ++ '"' :: s)) = .error f := by
  induction hfront generalizing d with
  | nil hl =>
    cases hms
    exact readMembers_fault hs hl hb
  | @cons _ m ms lead b' u us hl hb' hu hus ih =>
    cases hms with
    | @cons _ e' _ _ _ hm hms =>
      have htext : lead ++ (b' ++ u ++ us) ++ (b ++ '"' :: s) =
          lead ++ (b' ++ u ++ (us ++ (b ++ '"' :: s))) := by simp
      rw [htext, readMembers_step hm hl hb' hu (hus.follows _)]
      exact ih hms

/-- Members that an object may begin with are accepted one after another. The draft has then seen
the known ones among their keys. -/
theorem Serves.fills_start (hl : l.Serves parts) {ms : List (String × Value)} {d : Draft α}
    (hms : ObjectStart parts ms) (hd : ∀ p ∈ parts, p.key ∈ ms.map (·.1) → p.key ∉ d.seen) :
    ∃ e, l.Fills d (ms.map fun m => (symbols m.1, m.2)) e ∧
      ∀ key, key ∈ e.seen ↔ key ∈ d.seen ∨ key ∈ keys parts ∧ key ∈ ms.map (·.1) := by
  induction ms generalizing d with
  | nil => exact ⟨d, .nil, fun _ => by simp⟩
  | cons m ms ih =>
    obtain ⟨key, v⟩ := m
    by_cases hkey : key ∈ keys parts
    · obtain ⟨p, hp, rfl⟩ := List.mem_map.mp hkey
      obtain ⟨slot, hslot, hserves⟩ := hl.slot?_eq_some hp
      obtain ⟨x, hx⟩ := hms.allows p hp v List.mem_cons_self
      obtain ⟨change, htakes, -⟩ := hserves.takes hx
      have honce := hms.once
      rw [List.map_cons, List.filter_cons_of_pos (by simpa using hkey), List.nodup_cons] at honce
      have hnew : ∀ q ∈ parts, q.key ∈ ms.map (·.1) → q.key ∉ p.key :: d.seen := by
        intro q hq hmem hseen
        rcases List.mem_cons.mp hseen with he | hseen
        · exact honce.1 (List.mem_filter.mpr ⟨he ▸ hmem, by simpa using hkey⟩)
        · exact hd q hq (List.mem_cons_of_mem _ hmem) hseen
      obtain ⟨e, hfills, hseen⟩ :=
        ih (d := { record := change d.record, seen := p.key :: d.seen }) hms.tail hnew
      refine ⟨e, .cons (accepts_slot hslot (hd p hp List.mem_cons_self) htakes) hfills, ?_⟩
      intro k
      have hknown : k = p.key → k ∈ keys parts := fun he => he ▸ hkey
      rw [hseen, List.map_cons, List.mem_cons, List.mem_cons]
      grind
    · obtain ⟨e, hfills, hseen⟩ :=
        ih hms.tail fun p hp hmem => hd p hp (List.mem_cons_of_mem _ hmem)
      refine ⟨e, .cons (accepts_unknown (hl.slot?_eq_none hkey) v) hfills, ?_⟩
      intro k
      have hunknown : k ∈ keys parts → k ≠ key := fun hk he => hkey (he ▸ hk)
      rw [hseen, List.map_cons, List.mem_cons]
      grind

theorem readMember_fault {breaks : Breaks} {key : String} {d : Draft α}
    (hslot : l.slot? key = some slot) (hd : key ∉ d.seen) (hs : slot.value.Stops breaks)
    {t : List Char} {f : Fault} (ht : breaks t f) {k b b' : List Char}
    (hk : SpellsText (symbols key) k) (hb : Blank b) (hb' : Blank b') (rest : List Char) :
    l.readMember d (k ++ '"' :: (b ++ ':' :: (b' ++ t ++ rest))) = .error f := by
  rw [readMember, readText_spelt hk]
  simp only [hslot, List.contains_eq_mem, hd, decide_false]
  rw [skipColon_append hb]
  change (slot.value.read (b' ++ t ++ rest)).map _ = _
  rw [hs.fails ht hb']
  rfl

/-! ### Records -/

theorem takeAll_of_allows {ps : List (RecordPart α)} {slots : List (Slot α)} {vs : List Value}
    (hslots : List.Forall₂ (fun slot p => slot.Serves parts p) slots ps)
    (hvs : List.Forall₂ RecordPart.Allows ps vs) : TakeAll slots vs := by
  induction hslots generalizing vs with
  | nil =>
    cases hvs
    exact .nil
  | cons hs _ ih =>
    obtain _ | ⟨⟨x, hx⟩, hvs⟩ := hvs
    obtain ⟨change, htakes, -⟩ := hs.takes hx
    exact .cons ⟨change, htakes⟩ (ih hvs)

/-- The slots in front of the one of a part take the values that the parts in front of it allow. -/
theorem Serves.split (hl : l.Serves parts) {ps ps' : List (RecordPart α)} {p : RecordPart α}
    (h : parts = ps ++ p :: ps') {vs : List Value} (hvs : List.Forall₂ RecordPart.Allows ps vs) :
    ∃ slots₁ slot slots₂, l.slots = slots₁ ++ slot :: slots₂ ∧ slot.Serves parts p ∧
      TakeAll slots₁ vs := by
  have hslots : List.Forall₂ (fun slot p => slot.Serves parts p) l.slots (ps ++ p :: ps') :=
    h ▸ hl.slots
  have hfront := List.forall₂_take_append _ _ _ hslots
  have hback := List.forall₂_drop_append _ _ _ hslots
  obtain ⟨slot, slots₂, hslot, -, hdrop⟩ := List.forall₂_cons_right_iff.mp hback
  refine ⟨l.slots.take ps.length, slot, slots₂, ?_, hslot, takeAll_of_allows hfront hvs⟩
  rw [← hdrop, List.take_append_drop]

/-- A record stops where a part of it does, or where its reader does by itself. -/
theorem Serves.stops (hl : l.Serves parts) {own : Breaks} {inner : String → Breaks}
    (hown : l.reader.Stops own) (hinner : ∀ slot ∈ l.slots, slot.value.Stops (inner slot.key)) :
    l.reader.Stops (RecordBreaks parts own inner) where
  opens := by
    intro t f ht
    cases ht with
    | own ht => exact hown.opens ht
    | row => exact ⟨_, _, rfl, by decide⟩
    | object => exact ⟨_, _, rfl, by decide⟩
  fails := by
    intro t f b ht hb rest
    cases ht with
    | own ht => exact hown.fails ht hb rest
    | @row ps ps' p vs front b' t f hparts hvs hfront hb' ht =>
      obtain ⟨slots₁, slot, slots₂, hslots, hslot, htake⟩ := hl.split hparts hvs
      have hmem : slot ∈ l.slots := by
        rw [hslots]
        exact List.mem_append_right _ List.mem_cons_self
      have hstops := hslot.key ▸ hinner slot hmem
      change l.takeRecord (skipBlanks _) = _
      have hfirst : Begun Spells (decide (0 = 0)) vs front := hfront
      rw [skipBlanks_spelt hb (by decide), takeRecord, hslots, List.append_assoc]
      exact readSlots_begun hstops ht hfirst htake hb' rest
    | @object p ms front b₀ k b₁ b₂ t f hms hfront hb₀ hp hnew hk hb₁ hb₂ ht =>
      obtain ⟨slot, hslot, hserves⟩ := hl.slot?_eq_some hp
      have hstops := hserves.key ▸ hinner slot (List.mem_of_find?_eq_some hslot)
      obtain ⟨e, hfills, hseen⟩ :=
        hl.fills_start (d := { record := l.blank, seen := [] }) hms fun _ _ _ => List.not_mem_nil
      have hfresh : p.key ∉ e.seen := fun h =>
        ((hseen _).mp h).elim List.not_mem_nil fun h => hnew h.2
      have hfault := readMember_fault hslot hfresh hstops ht hk hb₁ hb₂ rest
      change l.takeRecord (skipBlanks _) = _
      have htext : front ++ (b₀ ++ '"' :: (k ++ '"' :: (b₁ ++ ':' :: (b₂ ++ t)))) ++ rest =
          front ++ (b₀ ++ '"' :: (k ++ '"' :: (b₁ ++ ':' :: (b₂ ++ t ++ rest)))) := by simp
      rw [skipBlanks_spelt hb (by decide), takeRecord, htext]
      exact readMembers_begun hfault hfront hfills hb₀

/-- A record that is a short row stops at its end. -/
theorem Serves.stops_shortRow (hl : l.Serves parts) {required : Nat}
    (hlength : required ≤ parts.length) (hrequired : ∀ p ∈ parts.take required, p.default = none) :
    l.reader.Stops (ShortRow l.title parts required) where
  opens := by
    rintro t f ⟨-, -, ht⟩
    exact ht.head
  fails := by
    rintro t f b (@⟨vs, _, hvs, hallows, ht⟩) hb rest
    have hindex : vs.length < parts.length := hvs.trans_le hlength
    have hparts :
        parts = parts.take vs.length ++ parts[vs.length] :: parts.drop (vs.length + 1) := by
      rw [← List.drop_eq_getElem_cons, List.take_append_drop]
    obtain ⟨slots₁, slot, slots₂, hslots, hslot, htake⟩ := hl.split hparts hallows
    have hmem : parts[vs.length] ∈ parts.take required :=
      List.mem_take_iff_getElem.mpr ⟨vs.length, by omega, rfl⟩
    have hslot : slot.required = true := by
      rw [hslot.required, hrequired _ hmem, Option.isNone_none]
    obtain ⟨u, rfl, hu⟩ := rest_of_spells_list ht
    have hfirst : Rest Spells ']' (decide (0 = 0)) vs u := hu
    change l.takeRecord (skipBlanks _) = _
    rw [skipBlanks_spelt hb (by decide), takeRecord]
    calc l.readSlots 0 l.blank l.slots (u ++ rest)
        = l.readSlots 0 l.blank (slots₁ ++ slot :: slots₂) (u ++ rest) := by rw [← hslots]
      _ = .error (.invalidLength (0 + vs.length) l.title l.slots.length) :=
          readSlots_short hslot hfirst htake rest
      _ = .error (.invalidLength vs.length l.title parts.length) := by
          rw [Nat.zero_add, hl.slots.length_eq]

end Layout

end ClassDiagram.Json
