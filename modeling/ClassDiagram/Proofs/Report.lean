import ClassDiagram.Proofs.OptionWords
import ClassDiagram.Proofs.Outcome

/-!
# What a Run Shows

A run prints its outcome as a whole, or nothing. What it prints and how it exits do not depend on
the log: neither on the environment nor on the options about the log, wherever these stand among the
options (`run_blind_to_log`).

Command lines that differ in options about the log only are read to drafts that differ in their
choices about the log only (`takeAll_quiet`). Nothing but the log reads those choices
(`execute_quiet`).
-/

namespace ClassDiagram

namespace Options

variable {d d₁ : Draft} {item : Item} {o o' : Options} {words words' : List String}

/-! ### Options about the log -/

/-- Whether an item is about the log. -/
def Item.aboutLog : Item → Bool
  | .value .logLevel _ _ => true
  | .value .logFormat _ _ => true
  | _ => false

/-- The draft without its choices about the log. -/
def Draft.quiet (d : Draft) : Draft := { d with logLevel := none, logFormat := none }

theorem Draft.quiet_of_take (hi : item.aboutLog) (h : d.take item = .ok d₁) :
    d₁.quiet = d.quiet := by
  match item with
  | .value .logLevel text _ | .value .logFormat text _ =>
    simp only [take, choose] at h
    split at h
    · cases h
    · split at h <;> cases h
      rfl

theorem Draft.take_quiet (hi : ¬ item.aboutLog) (h : d.take item = .ok d₁) :
    d.quiet.take item = .ok d₁.quiet := by
  match item with
  | .noBuiltin =>
    simp only [take] at h
    split at h <;> cases h
    next hno => exact if_neg hno
  | .value .catalog text _ =>
    simp only [take, choose] at h
    split at h <;> cases h
    next hne => exact if_neg hne
  | .value .logLevel _ _ => exact absurd rfl hi
  | .value .logFormat _ _ => exact absurd rfl hi

/-- **Items about the log** change nothing but the choices about the log. -/
theorem Draft.takeAll_quiet {items : List Item} (h : items.foldlM take d = .ok d₁) :
    (items.filter (!·.aboutLog)).foldlM take d.quiet = .ok d₁.quiet := by
  induction items generalizing d with
  | nil =>
    cases h
    rfl
  | cons item items ih =>
    rw [List.foldlM_cons] at h
    cases hd : d.take item with
    | error f => simp [hd, bind, Except.bind] at h
    | ok d₂ =>
      have hrest := ih (by rwa [hd] at h)
      by_cases hi : item.aboutLog
      · rwa [List.filter_cons_of_neg (by simp [hi]), ← quiet_of_take hi hd]
      · rw [List.filter_cons_of_pos (by simp [hi]), List.foldlM_cons, take_quiet hi hd]
        exact hrest

/-- The command lines differ at most in options about the log: in their values, in how they are
written, in where they stand among the options and in whether they are there. -/
def SameButLog (words words' : List String) : Prop :=
  ∃ (items items' : List Item) (tail switches : List String),
    (∀ item ∈ items, item.Readable) ∧ (∀ item ∈ items', item.Readable) ∧
    Ending Free tail switches ∧
    words = items.flatMap Item.words ++ tail ∧ words' = items'.flatMap Item.words ++ tail ∧
    items.filter (!·.aboutLog) = items'.filter (!·.aboutLog)

theorem sameButLog_self (h : ofWords words = .ok o) : SameButLog words words := by
  obtain ⟨items, tail, switches, hitems, htail, hwords⟩ := made_of_scan words {} h
  exact ⟨items, items, tail, switches, hitems, hitems, htail, hwords, hwords, rfl⟩

theorem SameButLog.exists_drafts (hsame : SameButLog words words') (h : ofWords words = .ok o)
    (h' : ofWords words' = .ok o') :
    ∃ (d d' : Draft) (switches : List String), o = d.finish switches ∧ o' = d'.finish switches ∧
      d.quiet = d'.quiet := by
  obtain ⟨items, items', tail, switches, hitems, hitems', htail, rfl, rfl, hfilter⟩ := hsame
  obtain ⟨d, hd, ho⟩ := (scan_items_eq_ok_iff hitems htail).mp h
  obtain ⟨d', hd', ho'⟩ := (scan_items_eq_ok_iff hitems' htail).mp h'
  have hquiet := Draft.takeAll_quiet hd
  rw [hfilter, Draft.takeAll_quiet hd'] at hquiet
  exact ⟨d, d', switches, ho, ho', (Except.ok.inj hquiet).symm⟩

end Options

namespace Command

open Options (Ending Free SameButLog Draft)

variable {o o' : Options} {words words' : List String} {files : Files}

theorem execute_quiet (d : Draft) (switches : List String) (files : Files) :
    execute (d.quiet.finish switches) files = execute (d.finish switches) files := rfl

theorem execute_congr (hsame : SameButLog words words') (h : Options.ofWords words = .ok o)
    (h' : Options.ofWords words' = .ok o') (files : Files) :
    execute o files = execute o' files := by
  obtain ⟨d, d', switches, rfl, rfl, hquiet⟩ := hsame.exists_drafts h h'
  rw [← execute_quiet, hquiet, execute_quiet]

/-! ### Notices -/

/-- The line about the format that is chosen for the log, if there is no such format. -/
def formatWarning (name : String) : String :=
  if name.toLower ∈ ["compact", "pretty", "json"] then ""
  else
    "Warning: Failed to initialize logging: " ++
      ("Invalid log format: " ++ ("Unknown log format: " ++ name)) ++ "\n"

theorem warning_eq (o : Options) (env : Log.Environment) :
    warning o env = formatWarning (env.format.getD o.logFormat.word) := by
  unfold warning Log.Setup.decide Log.Format.ofName formatWarning
  generalize env.format.getD o.logFormat.word = name
  have hknown : Log.Format.ofWord? name.toLower = none ↔
      name.toLower ∉ ["compact", "pretty", "json"] := by
    rw [Log.Format.ofWord?, List.find?_eq_none]
    simp [Log.Format.all, Log.Format.word, eq_comm]
  cases hname : Log.Format.ofWord? name.toLower with
  | none =>
    rw [if_neg (hknown.mp hname)]
    rfl
  | some format =>
    have hmem : name.toLower ∈ ["compact", "pretty", "json"] := by
      by_contra hnot
      rw [hknown.mpr hnot] at hname
      cases hname
    simp only [if_pos hmem]

theorem head?_chain (f : Failure) : f.chain.head? = some f.message := by
  obtain ⟨file, error⟩ := f
  cases file <;> rfl

/-! ### Whole runs -/

/-- A report has this exit code, this output and these notices. Its log lines may be any. -/
structure Report.Shows (r : Report) (exitCode : Nat) (output notices : String) : Prop where
  exitCode : r.exitCode = exitCode
  output : r.output = output
  notices : r.notices = notices

theorem run_of_ok {outcome : Outcome} (h : Options.ofWords words = .ok o)
    (hx : execute o files = .ok outcome) (env : Log.Environment) :
    (run words env files).Shows 0 outcome.printed
      (formatWarning (env.format.getD o.logFormat.word)) := by
  simp only [run, h, report, hx]
  exact ⟨rfl, rfl, warning_eq o env⟩

theorem run_of_error {f : Failure} (h : Options.ofWords words = .ok o)
    (hx : execute o files = .error f) (env : Log.Environment) :
    (run words env files).Shows 1 ""
      (formatWarning (env.format.getD o.logFormat.word) ++ "Error: " ++ f.message ++ "\n") := by
  simp only [run, h, report, hx]
  refine ⟨rfl, rfl, ?_⟩
  simp only [warning_eq, failureNotice, String.append_assoc]

/-- **A run prints all or nothing, whatever the log is.** Its exit code and what it prints are those
of every run whose command line differs in options about the log only. It prints the usage text or
a script, or else reports the outermost text of a failure; and apart from that there is a warning if
the format that counts is unknown. -/
theorem run_blind_to_log (h : Options.ofWords words = .ok o) (files : Files) :
    SameButLog words words ∧
    (∀ words' o', Options.ofWords words' = .ok o' → SameButLog words words' → ∀ env env',
      (run words env files).exitCode = (run words' env' files).exitCode ∧
        (run words env files).output = (run words' env' files).output) ∧
    ∀ env,
      execute o files = .ok .usage ∧
        (run words env files).Shows 0 (Request.usage ++ "\n")
          (formatWarning (env.format.getD o.logFormat.word)) ∨
      (∃ script, execute o files = .ok (.diagram script) ∧
        (run words env files).Shows 0 script.text
          (formatWarning (env.format.getD o.logFormat.word))) ∨
      ∃ f message, execute o files = .error f ∧ f.chain.head? = some message ∧
        (run words env files).Shows 1 ""
          (formatWarning (env.format.getD o.logFormat.word) ++ "Error: " ++ message ++ "\n") := by
  refine ⟨Options.sameButLog_self h, fun words' o' h' hsame env env' => ?_, fun env => ?_⟩
  · have hcongr := execute_congr hsame h h' files
    cases hx : execute o files with
    | ok outcome =>
      have hshows := run_of_ok h hx env
      have hshows' := run_of_ok h' (hcongr ▸ hx) env'
      exact ⟨hshows.exitCode.trans hshows'.exitCode.symm, hshows.output.trans hshows'.output.symm⟩
    | error f =>
      have hshows := run_of_error h hx env
      have hshows' := run_of_error h' (hcongr ▸ hx) env'
      exact ⟨hshows.exitCode.trans hshows'.exitCode.symm, hshows.output.trans hshows'.output.symm⟩
  · cases hx : execute o files with
    | ok outcome =>
      have hshows := run_of_ok h hx env
      cases outcome with
      | usage => exact Or.inl ⟨rfl, hshows⟩
      | diagram script => exact Or.inr (Or.inl ⟨script, rfl, hshows⟩)
    | error f => exact Or.inr (Or.inr ⟨f, f.message, rfl, head?_chain f, run_of_error h hx env⟩)

/-- A command line with a level for the log. -/
def levelWords (switches : List String) : List String :=
  ["--no-builtin", "--catalog", "a.json", "--log-level=trace"] ++ switches

/-- The same command line with a format for the log, and without a level. -/
def formatWords (switches : List String) : List String :=
  ["--log-format", "json", "--no-builtin", "--catalog", "a.json"] ++ switches

theorem sameButLog_words {switches : List String} (h : Ending Free switches switches) :
    SameButLog (levelWords switches) (formatWords switches) := by
  refine ⟨[.noBuiltin, .value .catalog "a.json" false, .value .logLevel "trace" true],
    [.value .logFormat "json" false, .noBuiltin, .value .catalog "a.json" false], switches,
    switches, ?_, ?_, h, rfl, rfl, rfl⟩
  · simp only [List.forall_mem_cons, Options.Item.Readable]
    exact ⟨trivial, ⟨by decide, by decide⟩, by simp, by simp⟩
  · simp only [List.forall_mem_cons, Options.Item.Readable]
    exact ⟨⟨by decide, by decide⟩, trivial, ⟨by decide, by decide⟩, by simp⟩

/-- What a run prints that shows the type on the shelf. -/
def shelfScript : String := "@startuml\nclass A \x7b\n\x7d\n@enduml\n"

theorem execute_shelf {o : Options} (hnoBuiltin : o.noBuiltin = true)
    (hcatalogs : o.catalogs = ["a.json"]) (hswitches : o.switches = ["-c", "A"]) :
    ∃ script, execute o shelf = .ok (.diagram script) ∧ script.text = shelfScript := by
  obtain ⟨catalogs, noBuiltin, logLevel, logFormat, switches⟩ := o
  subst hnoBuiltin hcatalogs hswitches
  have hread : Request.ofSwitches ⟨["-c", "A"]⟩ = .ok { settings := {}, roots := ["A"] } := rfl
  obtain ⟨script, hdiagram, htext⟩ :
      ∃ script, diagram (Catalog.ofList Catalog.scrambledTypes).resolve {} ["A"] = .ok script ∧
        script.text = shelfScript := ⟨_, rfl, by decide⟩
  refine ⟨script, ?_, htext⟩
  rw [execute_of_lists hread (.cons lists_shelf .nil)]
  simp only [definitions, if_true, List.nil_append, List.flatten_cons, List.flatten_nil,
    List.append_nil, hdiagram]

theorem formatWarning_compact : formatWarning "compact" = "" := by decide +kernel

/-- Two runs that print a script and two that fail. In either case one has a level on the command
line, and the other a format there and an unknown one in the environment. -/
theorem run_blind_to_log_format :
    (SameButLog (levelWords ["-c", "A"]) (formatWords ["-c", "A"]) ∧
      (run (levelWords ["-c", "A"]) {} shelf).Shows 0 shelfScript "" ∧
      (run (formatWords ["-c", "A"]) { format := some "xml" } shelf).Shows 0 shelfScript
        (formatWarning "xml")) ∧
    SameButLog (levelWords ["-d"]) (formatWords ["-d"]) ∧
    (run (levelWords ["-d"]) {} shelf).output =
      (run (formatWords ["-d"]) { format := some "xml" } shelf).output ∧
    (run (formatWords ["-d"]) { format := some "xml" } shelf).Shows 1 ""
      (formatWarning "xml" ++ "Error: " ++ "-d did not have a value" ++ "\n") := by
  have hprints : ∀ {words o}, Options.ofWords words = .ok o → o.noBuiltin = true →
      o.catalogs = ["a.json"] → o.switches = ["-c", "A"] → ∀ env : Log.Environment,
      (run words env shelf).Shows 0 shelfScript
        (formatWarning (env.format.getD o.logFormat.word)) := by
    intro words o ho hnoBuiltin hcatalogs hswitches env
    obtain ⟨script, hexecute, htext⟩ := execute_shelf hnoBuiltin hcatalogs hswitches
    have hrun := (run_blind_to_log ho shelf).2.2 env
    rw [hexecute] at hrun
    rcases hrun with ⟨hx, -⟩ | ⟨script', hx, hshows⟩ | ⟨f, message, hx, -⟩
    · cases hx
    · cases hx
      rwa [htext] at hshows
    · cases hx
  have hlevel : Options.ofWords (levelWords ["-c", "A"]) = .ok _ := rfl
  have hformat : Options.ofWords (formatWords ["-c", "A"]) = .ok _ := rfl
  have h : Options.ofWords (levelWords ["-d"]) = .ok _ := rfl
  have h' : Options.ofWords (formatWords ["-d"]) = .ok _ := rfl
  have hsame := sameButLog_words (.switches ⟨by decide, by decide⟩ : Ending Free ["-d"] ["-d"])
  refine ⟨⟨sameButLog_words (.switches ⟨by decide, by decide⟩), ?_, ?_⟩, hsame,
    ((run_blind_to_log h shelf).2.1 _ _ h' hsame _ _).2, ?_⟩
  · rw [← formatWarning_compact]
    exact hprints hlevel rfl rfl rfl {}
  · exact hprints hformat rfl rfl rfl { format := some "xml" }
  · rcases (run_blind_to_log h' shelf).2.2 { format := some "xml" } with
      ⟨hx, -⟩ | ⟨script, hx, -⟩ | ⟨f, message, hx, hmessage, hshows⟩
    · cases hx
    · cases hx
    · cases hx
      cases hmessage
      exact hshows

end Command

end ClassDiagram
