/-!
# Why a Request Fails

The causes for which no diagram is made, and the text that reports each of them.
-/

namespace ClassDiagram

/-- A cause for which no diagram is made. -/
inductive Error
  /-- The switch is the last word, or may take no word at all. -/
  | missingValue (switch : String)
  /-- The word after the switch is not a 32-bit integer. -/
  | notAnInteger (switch : String)
  /-- A switch that must be given is absent. -/
  | expectedParameter (switch : String)
  /-- The value of the switch is outside its range. -/
  | invalidValue (switch requirement : String)
  /-- A requested type that the source does not define. -/
  | unresolvedType (name : String)
  /-- A catalog text that cannot be read. -/
  | catalog (fault : String)
  /-- A file that cannot be read. -/
  | io (fault : String)
deriving DecidableEq

/-- The text that reports an error. -/
def Error.message : Error → String
  | .missingValue switch => switch ++ " did not have a value"
  | .notAnInteger switch => switch ++ " must have an integer value."
  | .expectedParameter switch => "Expected the parameter " ++ switch
  | .invalidValue switch requirement => switch ++ " " ++ requirement
  | .unresolvedType name => "Can not find type " ++ name
  | .catalog fault => "Catalog error: " ++ fault
  | .io fault => "IO error: " ++ fault

end ClassDiagram
