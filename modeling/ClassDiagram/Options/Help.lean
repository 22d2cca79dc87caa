import ClassDiagram.Options

/-!
# What the Options Tell

The text that explains the options, and the texts that report a fault in them.
-/

namespace ClassDiagram

/-- The values that an option may have, where they are a closed list. -/
def ValueOption.choices : ValueOption → List String
  | .catalog => []
  | .logLevel => Log.Threshold.all.map (·.word)
  | .logFormat => Log.Format.all.map (·.word)

/-- The value that an option has where it is not given. -/
def ValueOption.standard : ValueOption → Option String
  | .catalog => none
  | .logLevel => some (Log.Threshold.upTo .warn).word
  | .logFormat => some Log.Format.compact.word

/-- An option with a name for its value. -/
def ValueOption.spelling : ValueOption → String
  | .catalog => "--catalog <PATH>"
  | .logLevel => "--log-level <LOG_LEVEL>"
  | .logFormat => "--log-format <LOG_FORMAT>"

/-- What an option is for. -/
def ValueOption.purpose : ValueOption → String
  | .catalog => "Extra type catalog (JSON) layered over the built-in one; repeatable"
  | .logLevel => "Set log level (trace|debug|info|warn|error|off)"
  | .logFormat => "Set log format (compact|pretty|json)"

/-- What an option without a value is for. -/
def FlagOption.purpose : FlagOption → String
  | .noBuiltin => "Do not load the built-in java.base catalog"
  | .help => "Print help"
  | .version => "Print version"

namespace Options

/-- The closed list of values, as the texts show it. -/
def choicesNote (option : ValueOption) : String :=
  if option.choices = [] then ""
  else "[possible values: " ++ ", ".intercalate option.choices ++ "]"

/-- The note on the value that an option has where it is not given. -/
def standardNote (option : ValueOption) : String :=
  match option.standard with
  | some value => "[default: " ++ value ++ "]"
  | none => ""

/-- Puts a word behind the others on the last line, or on a line of its own where that line would
grow too long; the last line comes first. -/
def placeWord (width : Nat) (lines : List String) (word : String) : List String :=
  match lines with
  | [] => [word]
  | line :: done =>
    if line.length + 1 + word.length ≤ width then (line ++ " " ++ word) :: done
    else word :: line :: done

/-- Breaks a text at spaces into lines of at most the given width, as full as they can be; a word
that is longer has a line of its own. -/
def fill (width : Nat) (text : String) : List String :=
  ((text.splitOn " ").foldl (placeWord width) []).reverse

/-- The number of characters on a line. -/
def pageWidth : Nat := 100

/-- The column in which all explanations begin. -/
def notesColumn : Nat := 33

/-- The lines about one option. -/
def helpLine (short spelling : String) (notes : List String) : String :=
  let front := "  " ++ (if short = "" then "    " else short ++ ", ") ++ spelling
  let blanks (n : Nat) := String.ofList (List.replicate n ' ')
  let lines := fill (pageWidth - notesColumn) (" ".intercalate (notes.filter (· ≠ "")))
  front ++ blanks (notesColumn - front.length) ++ ("\n" ++ blanks notesColumn).intercalate lines

/-- The lines about an option with a value. -/
def valueLine (option : ValueOption) : String :=
  helpLine "" option.spelling [option.purpose, standardNote option, choicesNote option]

/-- The synopsis of the command. -/
def synopsis : String := "Usage: umlscope [OPTIONS] [SWITCHES]..."

/-- The text that explains the options. -/
def help : String :=
  "\n".intercalate
    ["Print a PlantUML class diagram for the given types",
      "",
      synopsis,
      "",
      "Arguments:",
      "  [SWITCHES]...  Diagram switches: -d <depth> -v <verbosity> -c <type>...",
      "",
      "Options:",
      valueLine .catalog,
      helpLine "" FlagOption.noBuiltin.word [FlagOption.noBuiltin.purpose],
      valueLine .logLevel,
      valueLine .logFormat,
      helpLine "-h" FlagOption.help.word [FlagOption.help.purpose],
      helpLine "-V" FlagOption.version.word [FlagOption.version.purpose],
      ""]

end Options

namespace OptionFault

/-- The end of every text about a fault. -/
def advice : String := "\n\nFor more information, try '--help'.\n"

/-- The second line of a text about a value that one of a closed list should be. -/
def choicesLine (option : ValueOption) : String :=
  if option.choices = [] then "" else "\n  " ++ Options.choicesNote option

/-- The text for an option without its value. -/
def missingText (option : ValueOption) : String :=
  "a value is required for '" ++ option.spelling ++ "' but none was supplied" ++ choicesLine option

/-- The text that reports a fault. -/
def notice : OptionFault → String
  | .missingValue option => "error: " ++ missingText option ++ advice
  | .badValue option value =>
    if value = "" then "error: " ++ missingText option ++ advice
    else
      "error: invalid value '" ++ value ++ "' for '" ++ option.spelling ++ "'" ++
        choicesLine option ++ advice
  | .repeated option =>
    "error: the argument '" ++ option ++ "' cannot be used multiple times\n\n" ++
      Options.synopsis ++ advice
  | .unexpectedValue option value =>
    "error: unexpected value '" ++ value ++ "' for '" ++ option.word ++
      "' found; no more were expected\n\n" ++ Options.synopsis ++ advice
  | .helpWanted => ""
  | .versionWanted => ""

end OptionFault

end ClassDiagram
