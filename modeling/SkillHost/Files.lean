import SkillHost.Content
import SkillHost.Path
import SkillHost.Table

/-! A tree of files and directories, and what reading a path in it gives. -/
namespace SkillHost

abbrev Place := List FileName

inductive FileEntry where
  | file (content : Content)
  | directory

inductive FileFault where
  | notText
  | isDirectory
  | notDirectory
  | nameTooLong
  | nulInName
  deriving DecidableEq

def FileFault.message : FileFault → Text
  | notText => "stream did not contain valid UTF-8".toList
  | isDirectory => "Is a directory (os error 21)".toList
  | notDirectory => "Not a directory (os error 20)".toList
  | nameTooLong => "File name too long (os error 36)".toList
  | nulInName => "file name contained an unexpected NUL byte".toList

inductive ReadOutcome where
  | absent
  | failed (fault : FileFault)
  | contents (text : Text)

/-- Every place but the root that holds something, with what it holds. -/
structure Files where
  entries : Table Place FileEntry

namespace Files

def empty : Files := ⟨.empty⟩

def entry? (files : Files) (place : Place) : Option FileEntry :=
  if place.isEmpty then some .directory else files.entries.get? place

def isDirectory (files : Files) (place : Place) : Bool :=
  match files.entry? place with
  | some .directory => true
  | _ => false

inductive Astray where
  | notFound
  | fault (fault : FileFault)

/-- Follows the parts of a path. Each part, an empty one too, asks for a directory to stand in;
two dots lead back to the directory above, and the root is above itself. -/
def follow (files : Files) : Place → List FileName → Except Astray Place
  | place, [] => .ok place
  | place, part :: rest =>
    if !files.isDirectory place then .error (.fault .notDirectory)
    else if part = [] ∨ part = .here then follow files place rest
    else if part = .above then follow files place.dropLast rest
    else if FileName.maxLength < part.length then .error (.fault .nameTooLong)
    else if (files.entry? (place ++ [part])).isSome then follow files (place ++ [part]) rest
    else .error .notFound

def startOf (directory : Place) (path : Path) : Place :=
  if path.isAbsolute then [] else directory

def checkPath (path : Path) : Except Astray Unit :=
  if path.bytes.contains 0 then .error (.fault .nulInName)
  else if path.bytes.isEmpty then .error .notFound
  else if Path.maxLength < path.bytes.length then .error (.fault .nameTooLong)
  else .ok ()

def locate (files : Files) (directory : Place) (path : Path) : Except Astray Place :=
  match checkPath path with
  | .error e => .error e
  | .ok () => files.follow (startOf directory path) path.parts

def read (files : Files) (directory : Place) (path : Path) : ReadOutcome :=
  match files.locate directory path with
  | .error .notFound => .absent
  | .error (.fault fault) => .failed fault
  | .ok place => match files.entry? place with
    | none => .absent
    | some .directory => .failed .isDirectory
    | some (.file (.text t)) => .contents t
    | some (.file (.binary _)) => .failed .notText

/-- The place of a file to be written at `path`: its directory has to exist, and the place itself
must not be one. -/
def target? (files : Files) (directory : Place) (path : Path) : Option Place :=
  match checkPath path, path.parts.getLast? with
  | .ok (), some name =>
    if name = [] ∨ name = .here ∨ name = .above ∨ FileName.maxLength < name.length then none
    else match files.follow (startOf directory path) path.parts.dropLast with
      | .ok place =>
        if files.isDirectory place && !files.isDirectory (place ++ [name]) then
          some (place ++ [name])
        else none
      | .error _ => none
  | _, _ => none

def put (files : Files) (place : Place) (content : Content) : Files :=
  ⟨files.entries.insert place (.file content)⟩

/-- Makes the directories that the parts name, from `place` on. A part that a file stands in the
way of ends it. -/
def makeDirectories (files : Files) : Place → List FileName → Files
  | _, [] => files
  | place, part :: rest =>
    if part = [] ∨ part = .here then makeDirectories files place rest
    else if part = .above then makeDirectories files place.dropLast rest
    else match files.entry? (place ++ [part]) with
      | some .directory => makeDirectories files (place ++ [part]) rest
      | some (.file _) => files
      | none =>
        makeDirectories ⟨files.entries.insert (place ++ [part]) .directory⟩ (place ++ [part]) rest

def makeDirectory (files : Files) (directory : Place) (path : Path) : Files :=
  files.makeDirectories (startOf directory path) path.parts

def write (files : Files) (directory : Place) (path : Path) (content : Content) : Files :=
  let made := files.makeDirectories (startOf directory path) path.parts.dropLast
  match made.target? directory path with
  | some place => made.put place content
  | none => made

def fileAt? (files : Files) (directory : Place) (path : Path) : Option Place :=
  match files.locate directory path with
  | .ok place => if files.isDirectory place then none else some place
  | .error _ => none

def remove (files : Files) (place : Place) : Files := ⟨files.entries.erase place⟩

def appendAt (files : Files) (place : Place) (more : Text) : Files :=
  match files.entries.get? place with
  | some (.file content) => files.put place (content.append more)
  | _ => files

theorem appendAt_appendAt (files : Files) (place : Place) (more further : Text) :
    (files.appendAt place more).appendAt place further = files.appendAt place (more ++ further) := by
  unfold appendAt
  cases h : files.entries.get? place with
  | none => simp [h]
  | some entry => cases entry with
    | directory => simp [h]
    | file content =>
      simp only [put, Table.get?_insert, ↓reduceIte, Content.append_append, Table.insert_insert]

end Files

end SkillHost
