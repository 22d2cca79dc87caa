import ClassDiagram.Catalog.Format

/-!
# Catalog Files

A run sees the file system only through what reading a path gives: a text or the reason why there
is none. `Catalog.load` adds the types of a file, or leaves the catalog as it was
(`Catalog.snd_load_of_failed`). A `Directory` is a snapshot of one directory and the files in it,
for runs on files that are given as values.
-/

namespace ClassDiagram

/-- Why a path gives no text. -/
inductive FileFault
  | notFound
  | notDirectory
  | isDirectory
  | nameTooLong
  /-- The path holds a character that no path can hold. -/
  | invalidPath
  /-- The bytes of the file are not UTF-8. -/
  | invalidText
  /-- Any other refusal, in the words of the system. -/
  | refused (reason : String)
deriving DecidableEq

/-- The words of the system for a fault. -/
def FileFault.message : FileFault → String
  | .notFound => "No such file or directory (os error 2)"
  | .notDirectory => "Not a directory (os error 20)"
  | .isDirectory => "Is a directory (os error 21)"
  | .nameTooLong => "File name too long (os error 36)"
  | .invalidPath => "file name contained an unexpected NUL byte"
  | .invalidText => "stream did not contain valid UTF-8"
  | .refused reason => reason

/-- What reading each path gives. -/
abbrev Files := String → Except FileFault String

/-- An error in the text of a file, with the path of the file in front. -/
def Error.inFile (path : String) : Error → Error
  | .catalog fault => .catalog (path ++ ": " ++ fault)
  | e => e

namespace Catalog

/-- The types that a catalog file lists; its text is there before anything in it is judged. -/
def read (files : Files) (path : String) : Except Error (List Descriptor) :=
  match files path with
  | .error f => .error (.io f.message)
  | .ok text => (decode text).mapError fun f => (Error.catalog f.message).inFile path

/-- Adds the types of a catalog file. The first component is their number, repeated names
included, or why they cannot be read. -/
def load (c : Catalog) (files : Files) (path : String) : Except Error Nat × Catalog :=
  match files path with
  | .error f => (.error (.io f.message), c)
  | .ok text =>
    let r := c.extend text
    (r.1.mapError (·.inFile path), r.2)

/-- A file that cannot be loaded adds nothing. -/
theorem snd_load_of_failed {c : Catalog} {files : Files} {path : String} {e : Error}
    (h : (c.load files path).1 = .error e) : (c.load files path).2 = c := by
  unfold load at h ⊢
  cases hfile : files path with
  | error f => rfl
  | ok text =>
    simp only [hfile] at h ⊢
    cases hextend : (c.extend text).1 with
    | error e => exact snd_extend_of_failed hextend
    | ok count =>
      rw [hextend] at h
      cases h

/-- The catalog of a file. -/
def ofPath (files : Files) (path : String) : Except Error Catalog :=
  let r := load empty files path
  r.1.map fun _ => r.2

end Catalog

/-! ### Snapshots of a directory -/

/-- What a name in a directory stands for. -/
inductive DirectoryEntry
  | file (content : ByteArray)
  | directory

/-- A directory with everything in it, by the names that lead there from the directory. -/
structure Directory where
  /-- The names that lead to the directory from the root. -/
  place : List String
  entries : List (List String × DirectoryEntry)

namespace Directory

/-- What stands at the end of a way down from the directory. Where two entries have the same name,
the later one is there. -/
def below? (d : Directory) (way : List String) : Option DirectoryEntry :=
  match d.entries.reverse.lookup way with
  | some e => some e
  | none => if d.entries.any fun e => way.isPrefixOf e.1 then some .directory else none

/-- What stands at the end of a way down from the root. Outside of the directory there are only the
directories that lead to it. -/
def entry? (d : Directory) (way : List String) : Option DirectoryEntry :=
  if way.isPrefixOf d.place then some .directory
  else if d.place.isPrefixOf way then d.below? (way.drop d.place.length)
  else none

/-- A part of a path that names no entry: it stays where it is, or goes one directory up. -/
def isStep (part : String) : Bool := part = "" || part = "." || part = ".."

/-- Whether a part of a path is longer than any name. -/
def isTooLong (part : String) : Bool := 255 < part.utf8ByteSize

/-- Follows the parts of a path from the end of a way. Only a directory can be gone through, and
above the root there is the root itself. -/
def follow (d : Directory) (way : List String) : List String → Except FileFault (List String)
  | [] => .ok way
  | part :: parts =>
    match d.entry? way with
    | none => .error .notFound
    | some (.file _) => .error .notDirectory
    | some .directory =>
      if part = "" ∨ part = "." then d.follow way parts
      else if part = ".." then d.follow way.dropLast parts
      else if isTooLong part then .error .nameTooLong
      else d.follow (way ++ [part]) parts

/-- The text at the end of a way. -/
def readAt (d : Directory) (way : List String) : Except FileFault String :=
  match d.entry? way with
  | none => .error .notFound
  | some .directory => .error .isDirectory
  | some (.file content) =>
    match String.fromUTF8? content with
    | some text => .ok text
    | none => .error .invalidText

/-- Why the parts of a path give no text that begins at a place from which no name is known. -/
def strayFault (parts : List String) : FileFault :=
  match parts.find? fun part => !isStep part with
  | none => .isDirectory
  | some part => if isTooLong part then .nameTooLong else .notFound

/-- The number of bytes from which on a path is too long, whatever it leads to. -/
def pathLimit : Nat := 4096

/-- Reads a path. One that does not begin at the root leads to no entry. -/
def files (d : Directory) : Files := fun path =>
  let parts := path.splitOn "/"
  if path.toList.contains '\x00' then .error .invalidPath
  else if pathLimit ≤ path.utf8ByteSize then .error .nameTooLong
  else if path = "" then .error .notFound
  else if path.startsWith "/" then d.follow [] parts >>= d.readAt
  else .error (strayFault parts)

end Directory

end ClassDiagram
