import Cadence.Text.Decimal

/-!
# Working folder

The files that settings are read from and logs are written to, as data. A path is
walked name by name; each way in which it can fail has its message.
-/

namespace Cadence

/-- Why a file could not be used. -/
inductive FileError
  | notFound
  | taken
  | notFolder
  | isFolder
  | nameTooLong
  | notText
  | nulInName
deriving DecidableEq

def FileError.message : FileError → String
  | notFound => "No such file or directory (os error 2)"
  | taken => "File exists (os error 17)"
  | notFolder => "Not a directory (os error 20)"
  | isFolder => "Is a directory (os error 21)"
  | nameTooLong => "File name too long (os error 36)"
  | notText => "stream did not contain valid UTF-8"
  | nulInName => "file name contained an unexpected NUL byte"

inductive Folder.Item
  | file (bytes : List UInt8)
  | folder
deriving DecidableEq

/-- The files and folders below a folder, by the names that lead to them. -/
structure Folder where
  entries : List (List String × Folder.Item) := []
deriving DecidableEq

namespace Folder

/-- A path: the names to walk, and whether it has to lead to a folder. -/
structure Path where
  names : List String
  folder : Bool
deriving DecidableEq

/-- The longest name and the longest path, in bytes. -/
def longestName : Nat := 255
@[inherit_doc longestName] def longestPath : Nat := 4095

/-- What stands between the slashes of a path. -/
def parts (path : String) : List String := (path.toList.splitOn '/').map String.ofList

/-- The names of a path; `.` names the folder it stands in. -/
def namesOf (path : String) : List String :=
  (parts path).filter fun name => name ≠ "" ∧ name ≠ "."

/-- Reads a path. An empty one leads nowhere, and one from the top leads out of the
folder. -/
def path? (path : String) : Except FileError Path :=
  let cs := path.toList
  if '\x00' ∈ cs then .error .nulInName
  else if longestPath < path.utf8ByteSize then .error .nameTooLong
  else if path = "" then .error .notFound
  else if path = "/" then .error .isFolder
  else if cs.head? = some '/' then .error .notFound
  else
    let last := (parts path).getLastD ""
    .ok { names := namesOf path, folder := last = "" ∨ last = "." }

def find? (f : Folder) (names : List String) : Option Item :=
  if names.isEmpty then some .folder
  else
    match f.entries.lookup names with
    | some e => some e
    | none =>
        if f.entries.any fun (path, _) => names.isPrefixOf path then some .folder else none

/-- Walks the names after `done`, all of which are folders, and says what stands
under them; `none` if only the last name leads nowhere. -/
def walk (f : Folder) (done : List String) : List String → Except FileError (Option Item)
  | [] => .ok (f.find? done)
  | name :: rest =>
      if longestName < name.utf8ByteSize then .error .nameTooLong
      else
        let here := if name = ".." then done.dropLast else done ++ [name]
        match f.find? here with
        | some .folder => walk f here rest
        | some e => if rest.isEmpty then .ok (some e) else .error .notFolder
        | none => if rest.isEmpty then .ok none else .error .notFound

/-- The names that a path leads to, once `..` is taken back. -/
def target (names : List String) : List String :=
  names.foldl (fun done name => if name = ".." then done.dropLast else done ++ [name]) []

def put (f : Folder) (names : List String) (e : Item) : Folder :=
  { entries := f.entries.filter (·.1 ≠ names) ++ [(names, e)] }

def readText (f : Folder) (path : String) : Except FileError String := do
  let p ← path? path
  match ← f.walk [] p.names with
  | none => .error .notFound
  | some .folder => .error .isFolder
  | some (.file bytes) =>
      if p.folder then .error .notFolder
      else
        match String.fromUTF8? ⟨bytes.toArray⟩ with
        | some text => .ok text
        | none => .error .notText

/-- Makes the folder under the names after `done`, and those above it. -/
def makeFolders (f : Folder) (done : List String) : List String → Except FileError Folder
  | [] => .ok f
  | name :: rest =>
      if longestName < name.utf8ByteSize then .error .nameTooLong
      else
        let here := if name = ".." then done.dropLast else done ++ [name]
        match f.find? here with
        | some .folder => makeFolders f here rest
        | some _ => .error (if rest.isEmpty then .taken else .notFolder)
        | none => makeFolders (f.put here .folder) here rest

/-- Makes sure that a file can be appended to: the folders above it are made, and
the file if it is missing. The result has the names of the file. -/
def openLog (f : Folder) (path : String) : Folder × Except FileError (List String) :=
  match path? path with
  | .error e => (f, .error e)
  | .ok p =>
      match f.makeFolders [] p.names.dropLast with
      | .error e => (f, .error e)
      | .ok f =>
          match f.walk [] p.names with
          | .error e => (f, .error e)
          | .ok (some .folder) => (f, .error .isFolder)
          | .ok (some (.file _)) =>
              if p.folder then (f, .error .notFolder) else (f, .ok (target p.names))
          | .ok none =>
              if p.folder then (f, .error .isFolder)
              else (f.put (target p.names) (.file []), .ok (target p.names))

def append (f : Folder) (names : List String) (bytes : List UInt8) : Folder :=
  match f.find? names with
  | some (.file old) => f.put names (.file (old ++ bytes))
  | _ => f

end Folder

end Cadence
