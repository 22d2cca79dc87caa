import ClassDiagram.Proofs.SwitchReaders
import ClassDiagram.Request
import Mathlib.Tactic.SplitIfs

/-!
# What Can Be Wrong with a Request

Three readers look at the same words, so one word may be a switch to one of them and a value to
another, and several things may be wrong at once. `faults` has all that can be wrong, each said by
itself, in the order in which it is told: the switches are read before any value is judged. A
request fails with the first that there is (`ofSwitches_eq_error_iff`), and where there is none it
is what the words ask for (`ofSwitches_eq_ok_iff`).
-/

namespace ClassDiagram

/-! ### Levels -/

namespace Settings

theorem depthOfLevel_eq_ok_iff {n : Int} {depth : Nat} :
    depthOfLevel n = .ok depth ↔ n = depth := by
  unfold depthOfLevel
  by_cases hn : n < 0
  · simp only [if_pos hn, reduceCtorEq, false_iff]
    omega
  · simp only [if_neg hn, Except.ok.injEq]
    omega

theorem depthOfLevel_eq_error_iff {n : Int} {e : Error} :
    depthOfLevel n = .error e ↔ n < 0 ∧ e = .invalidValue "-d" "must be 0 or greater" := by
  unfold depthOfLevel
  split_ifs with hn <;> simp [hn, eq_comm]

end Settings

namespace Verbosity

theorem ofLevel_level (v : Verbosity) : ofLevel v.level = .ok v := by cases v <;> rfl

theorem ofLevel_eq_ok_iff {n : Int} {v : Verbosity} : ofLevel n = .ok v ↔ n = v.level := by
  constructor
  · intro h
    unfold ofLevel at h
    split_ifs at h with h0 h1 h2
    · cases h; exact h0
    · cases h; exact h1
    · cases h; exact h2
  · rintro rfl
    exact ofLevel_level v

theorem ofLevel_eq_error_iff {n : Int} {e : Error} :
    ofLevel n = .error e ↔
      (n ≠ 0 ∧ n ≠ 1 ∧ n ≠ 2) ∧ e = .invalidValue "-v" "must be 0, 1 or 2" := by
  unfold ofLevel
  by_cases h0 : n = 0
  · simp [h0]
  · by_cases h1 : n = 1
    · simp [h1]
    · by_cases h2 : n = 2
      · simp [h2]
      · simp [h0, h1, h2, eq_comm]

end Verbosity

namespace Request

open Switches

variable {s : Switches} {words : List String} {r : Request} {e : Error}

/-! ### The first fault -/

/-- The first of several faults that there is. -/
inductive First : List (Error → Prop) → Error → Prop
  | here {fault : Error → Prop} {rest : List (Error → Prop)} {e : Error} :
      fault e → First (fault :: rest) e
  | later {fault : Error → Prop} {rest : List (Error → Prop)} {e : Error} :
      (∀ e', ¬ fault e') → First rest e → First (fault :: rest) e

/-- There is a first fault if and only if there is any. -/
theorem exists_first_iff {faults : List (Error → Prop)} :
    (∃ e, First faults e) ↔ ∃ fault ∈ faults, ∃ e, fault e := by
  constructor
  · rintro ⟨e, h⟩
    induction h with
    | here h => exact ⟨_, List.mem_cons_self, _, h⟩
    | later _ _ ih =>
      obtain ⟨fault, hmem, h⟩ := ih
      exact ⟨fault, List.mem_cons_of_mem _ hmem, h⟩
  · rintro ⟨fault, hmem, e, h⟩
    induction faults with
    | nil => cases hmem
    | cons first rest ih =>
      by_cases hfirst : ∃ e', first e'
      · obtain ⟨e', hfirst⟩ := hfirst
        exact ⟨e', .here hfirst⟩
      · have hrest : fault ∈ rest := by
          rcases List.mem_cons.mp hmem with rfl | hmem
          · exact absurd ⟨e, h⟩ hfirst
          · exact hmem
        obtain ⟨e', hlater⟩ := ih hrest
        exact ⟨e', .later (not_exists.mp hfirst) hlater⟩

/-- A stage fails with its own fault, or else what comes behind it decides. -/
theorem bind_eq_error_iff {α β : Type} {x : Except Error α} {f : α → Except Error β}
    {fault : Error → Prop} {rest : List (Error → Prop)} (hx : ∀ e, x = .error e ↔ fault e)
    (hf : ∀ a, x = .ok a → (f a = .error e ↔ First rest e)) :
    (x >>= f) = .error e ↔ First (fault :: rest) e := by
  cases x with
  | error e' =>
    have hfault : fault e' := (hx e').mp rfl
    constructor
    · intro h
      cases h
      exact .here hfault
    · rintro (h | ⟨hn, -⟩)
      · exact congrArg _ (Except.error.inj ((hx _).mpr h))
      · exact absurd hfault (hn e')
  | ok a =>
    have hnone : ∀ e', ¬ fault e' := by
      intro e' h
      cases (hx e').mpr h
    constructor
    · exact fun h => .later hnone ((hf a rfl).mp h)
    · rintro (h | ⟨-, h⟩)
      · exact absurd h (hnone _)
      · exact (hf a rfl).mpr h

theorem bind_eq_ok_iff {α β : Type} {x : Except Error α} {f : α → Except Error β} {b : β} :
    (x >>= f) = .ok b ↔ ∃ a, x = .ok a ∧ f a = .ok b := by
  cases x <;> simp [bind, Except.bind]

/-! ### The faults of a request -/

/-- The depth is an integer, but less than zero. -/
inductive DepthFault (words : List String) : Error → Prop
  | negative {w : String} {ws : List String} {n : Int} :
      Behind depthSwitch words (some (w :: ws)) → Text.int32? w = some n → n < 0 →
        DepthFault words (.invalidValue "-d" "must be 0 or greater")

/-- The verbosity is an integer, but selects nothing. -/
inductive VerbosityFault (words : List String) : Error → Prop
  | unknown {w : String} {ws : List String} {n : Int} :
      Behind verbositySwitch words (some (w :: ws)) → Text.int32? w = some n →
        n ≠ 0 ∧ n ≠ 1 ∧ n ≠ 2 → VerbosityFault words (.invalidValue "-v" "must be 0, 1 or 2")

/-- All that can be wrong with a request, in the order in which it is told. -/
def faults (words : List String) : List (Error → Prop) :=
  [IntegerFault depthSwitch words, IntegerFault verbositySwitch words, ListFault typesSwitch words,
    DepthFault words, VerbosityFault words]

/-- The words ask for this request. -/
structure Asks (words : List String) (r : Request) : Prop where
  depth : Gives depthSwitch words 1 r.settings.depth
  verbosity : Gives verbositySwitch words 0 r.settings.verbosity.level
  universalRoots : r.settings.universalRoots = ["java.lang.Object", "java.lang.Enum"]
  roots : Behind typesSwitch words (some r.roots)
  roots_ne : r.roots ≠ []

/-- The standard depth is no fault. -/
theorem depthFault_iff {n : Int} (h : Gives depthSwitch words 1 n) :
    Settings.depthOfLevel n = .error e ↔ DepthFault words e := by
  rw [Settings.depthOfLevel_eq_error_iff]
  constructor
  · rintro ⟨hn, rfl⟩
    cases h with
    | absent => omega
    | next hbehind hw => exact .negative hbehind hw hn
  · rintro ⟨hbehind, hw, hn⟩
    exact ⟨h.unique (.next hbehind hw) ▸ hn, rfl⟩

/-- The standard verbosity is no fault. -/
theorem verbosityFault_iff {n : Int} (h : Gives verbositySwitch words 0 n) :
    Verbosity.ofLevel n = .error e ↔ VerbosityFault words e := by
  rw [Verbosity.ofLevel_eq_error_iff]
  constructor
  · rintro ⟨hn, rfl⟩
    cases h with
    | absent => exact absurd rfl hn.1
    | next hbehind hw => exact .unknown hbehind hw hn
  · rintro ⟨hbehind, hw, hn⟩
    exact ⟨h.unique (.next hbehind hw) ▸ hn, rfl⟩

/-- **A request fails with its first fault.** -/
theorem ofSwitches_eq_error_iff : ofSwitches s = .error e ↔ First (faults s.words) e := by
  refine bind_eq_error_iff (fun _ => integer_eq_error_iff) fun depth hdepth => ?_
  refine bind_eq_error_iff (fun _ => integer_eq_error_iff) fun verbosity hverbosity => ?_
  refine bind_eq_error_iff (fun _ => list_unbounded_eq_error_iff) fun roots _ => ?_
  -- what is judged now has been read, so a value that is absent is the standard one
  rw [integer_eq_ok_iff] at hdepth hverbosity
  refine bind_eq_error_iff (fun _ => depthFault_iff hdepth) fun _ _ => ?_
  refine bind_eq_error_iff (fun _ => verbosityFault_iff hverbosity) fun _ _ => ?_
  exact ⟨nofun, nofun⟩

/-- **A request is what the words ask for.** -/
theorem ofSwitches_eq_ok_iff : ofSwitches s = .ok r ↔ Asks s.words r := by
  simp only [ofSwitches, bind_eq_ok_iff, integer_eq_ok_iff, list_unbounded_eq_ok_iff,
    Settings.depthOfLevel_eq_ok_iff, Verbosity.ofLevel_eq_ok_iff]
  constructor
  · rintro ⟨n, hn, m, hm, roots, ⟨hne, hroots⟩, depth, rfl, v, rfl, h⟩
    cases h
    exact ⟨hn, hm, rfl, hroots, hne⟩
  · rintro ⟨hdepth, hverbosity, huniversal, hroots, hne⟩
    refine ⟨_, hdepth, _, hverbosity, _, ⟨hne, hroots⟩, _, rfl, _, rfl, ?_⟩
    rw [← huniversal]
    rfl

/-- **Acceptance and error order of requests.** A request fails with the first thing that is wrong
with its words; and where nothing is wrong, there is a request, the one that the words ask for. -/
theorem ofSwitches_exact (s : Switches) :
    (∀ e, ofSwitches s = .error e ↔ First (faults s.words) e) ∧
      ((∀ fault ∈ faults s.words, ∀ e, ¬ fault e) →
        ∃ r, ofSwitches s = .ok r ∧ Asks s.words r) := by
  refine ⟨fun e => ofSwitches_eq_error_iff, fun hnone => ?_⟩
  cases h : ofSwitches s with
  | error e =>
    obtain ⟨fault, hmem, e', hfault⟩ := exists_first_iff.mp ⟨e, ofSwitches_eq_error_iff.mp h⟩
    exact absurd hfault (hnone fault hmem e')
  | ok r => exact ⟨r, rfl, ofSwitches_eq_ok_iff.mp h⟩

/-- All that is behind `-c` is requested, and read by the other switches too: there a verbosity out
of range and a depth below zero are found, of which the depth is told; or a verbosity that is fine,
behind a depth that does not count because it is the second. -/
theorem ofSwitches_exact_overlapping :
    ofSwitches ⟨["-c", "-v", "9", "-d", "-7"]⟩ =
        .error (.invalidValue "-d" "must be 0 or greater") ∧
      ∃ r, ofSwitches ⟨["-d", "+3", "-c", "-d", "-v", "02", "-c"]⟩ = .ok r ∧
        Asks ["-d", "+3", "-c", "-d", "-v", "02", "-c"] r := by
  constructor
  · refine ((ofSwitches_exact ⟨["-c", "-v", "9", "-d", "-7"]⟩).1 _).mpr ?_
    refine .later (fun e h => ?_) (.later (fun e h => ?_) (.later (fun e h => ?_) (.here ?_)))
    · cases h.integer_eq 1
    · cases h.integer_eq 0
    · cases list_unbounded_eq_error_iff.mpr h
    · exact .negative (rest?_eq_iff.mp rfl) rfl (by decide : (-7 : Int) < 0)
  · refine (ofSwitches_exact ⟨["-d", "+3", "-c", "-d", "-v", "02", "-c"]⟩).2 ?_
    intro fault hmem e hfault
    obtain ⟨e', hfirst⟩ := exists_first_iff.mpr ⟨fault, hmem, e, hfault⟩
    have hfails := ofSwitches_eq_error_iff.mpr hfirst
    cases hfails

end Request

end ClassDiagram
