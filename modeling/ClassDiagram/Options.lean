import ClassDiagram.Log.Format
import ClassDiagram.Log.Level

/-!
# Command Line Options

Options stand in front of the switches. The first word that is no option begins the switches, and
from there on all words are taken as they are; a `--` ends the options without being a switch
itself. `Options.ofWords` goes through the words once and stops at the first fault.

A value may be attached to its option with `=` or be the next word. A value of the second sort
waits (`Pending`): it is judged only when the next option, the first switch or the end is reached.
Words that are options themselves are never taken as values, and any other word is, even one that
begins with a dash.
-/

namespace ClassDiagram

/-- An option with a value. -/
inductive ValueOption
  | catalog
  | logLevel
  | logFormat
deriving DecidableEq

/-- An option without a value. -/
inductive FlagOption
  | noBuiltin
  | help
  | version
deriving DecidableEq

/-- The spelling of an option with a value. -/
def ValueOption.word : ValueOption → String
  | .catalog => "--catalog"
  | .logLevel => "--log-level"
  | .logFormat => "--log-format"

/-- The spelling of an option without a value. -/
def FlagOption.word : FlagOption → String
  | .noBuiltin => "--no-builtin"
  | .help => "--help"
  | .version => "--version"

/-- Why the options give no run, or a run that only tells about the program. -/
inductive OptionFault
  | missingValue (option : ValueOption)
  | badValue (option : ValueOption) (value : String)
  | repeated (option : String)
  | unexpectedValue (option : FlagOption) (value : String)
  | helpWanted
  | versionWanted
deriving DecidableEq

/-- What the words of a command line choose. -/
structure Options where
  catalogs : List String := []
  noBuiltin : Bool := false
  logLevel : Log.Threshold := .upTo .warn
  logFormat : Log.Format := .compact
  switches : List String := []
deriving DecidableEq

namespace Options

/-- What a word is where options may stand. -/
inductive Word
  | value (option : ValueOption) (attached : Option String)
  | flag (option : FlagOption) (attached : Option String)
  | plain
deriving DecidableEq

/-- The part of a word in front of its first `=`, and the part behind it if there is one. -/
def splitAttached (w : String) : String × Option String :=
  let front := w.toList.takeWhile (· ≠ '=')
  match w.toList.dropWhile (· ≠ '=') with
  | [] => (String.ofList front, none)
  | _ :: value => (String.ofList front, some (String.ofList value))

/-- The short options; a word is made of them only if all its letters are short options, and then
its first letter counts. -/
def shortOption? : Char → Option FlagOption
  | 'h' => some .help
  | 'V' => some .version
  | _ => none

/-- What a word is where options may stand. -/
def classify (w : String) : Word :=
  let (front, attached) := splitAttached w
  match [ValueOption.catalog, .logLevel, .logFormat].find? (·.word = front) with
  | some o => .value o attached
  | none =>
    match [FlagOption.noBuiltin, .help, .version].find? (·.word = front) with
    | some o => .flag o attached
    | none =>
      match w.toList with
      | '-' :: c :: cs =>
        match shortOption? c with
        | some o => if cs.all fun c => (shortOption? c).isSome then .flag o none else .plain
        | none => .plain
      | _ => .plain

/-- The options chosen so far. -/
structure Draft where
  catalogs : List String := []
  noBuiltin : Bool := false
  logLevel : Option Log.Threshold := none
  logFormat : Option Log.Format := none

namespace Draft

/-- Chooses the value of an option. Only catalogs may be given more than once. -/
def choose (d : Draft) (option : ValueOption) (value : String) : Except OptionFault Draft :=
  match option with
  | .catalog =>
    if value = "" then .error (.badValue .catalog value)
    else .ok { d with catalogs := d.catalogs ++ [value] }
  | .logLevel =>
    if d.logLevel.isSome then .error (.repeated option.word)
    else
      match Log.Threshold.ofWord? value with
      | some t => .ok { d with logLevel := some t }
      | none => .error (.badValue option value)
  | .logFormat =>
    if d.logFormat.isSome then .error (.repeated option.word)
    else
      match Log.Format.ofWord? value with
      | some f => .ok { d with logFormat := some f }
      | none => .error (.badValue option value)

/-- The options with the switches behind them. -/
def finish (d : Draft) (switches : List String) : Options where
  catalogs := d.catalogs
  noBuiltin := d.noBuiltin
  logLevel := d.logLevel.getD (.upTo .warn)
  logFormat := d.logFormat.getD .compact
  switches := switches

end Draft

/-- An option that takes the next word as its value, and that word once it is there. -/
structure Pending where
  option : ValueOption
  value : Option String := none

/-- Judges the option that waits, if there is one. -/
def settle (d : Draft) : Option Pending → Except OptionFault Draft
  | none => .ok d
  | some { option, value := none } => .error (.missingValue option)
  | some { option, value := some value } => d.choose option value

/-- Goes through the words. -/
def scan (d : Draft) (pending : Option Pending) : List String → Except OptionFault Options
  | [] => (settle d pending).map (·.finish [])
  | w :: ws =>
    if w = "--" then (settle d pending).map (·.finish ws)
    else
      match classify w with
      | .value option none =>
        match settle d pending with
        | .error f => .error f
        | .ok d => scan d (some { option }) ws
      | .value option (some value) =>
        match settle d pending >>= (·.choose option value) with
        | .error f => .error f
        | .ok d => scan d none ws
      | .flag option (some value) => .error (.unexpectedValue option value)
      | .flag option none =>
        match settle d pending with
        | .error f => .error f
        | .ok d =>
          match option with
          | .help => .error .helpWanted
          | .version => .error .versionWanted
          | .noBuiltin =>
            if d.noBuiltin then .error (.repeated option.word)
            else scan { d with noBuiltin := true } none ws
      | .plain =>
        match pending with
        | some { option, value := none } => scan d (some { option, value := some w }) ws
        | _ => (settle d pending).map (·.finish (w :: ws))

/-- The options and switches of a command line. -/
def ofWords (words : List String) : Except OptionFault Options := scan {} none words

end Options

end ClassDiagram
