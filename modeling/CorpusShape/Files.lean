import CorpusShape.Path
import CorpusShape.Text.Quoted
/-!
# Files

A tree of files as a value: directories, files with their bytes, and symbolic links. A path is followed
from the working directory or from the top; every operation gives the tree after it, also one that fails on the
way. The entries of a directory are kept in the order of their names.
-/
namespace CorpusShape

/-- What a name in a directory stands for. -/
inductive Entry where
  | file (content : List UInt8)
  | link (target : String)
  | directory (entries : List (String × Entry))
deriving Repr, Inhabited

def Entry.isFile : Entry → Bool
  | .file _ => true
  | _ => false

abbrev Directory := List (String × Entry)

namespace Directory

def get? (name : String) : Directory → Option Entry
  | [] => none
  | (n, e) :: rest => if n = name then some e else get? name rest

/-- Gives a name an entry, in the place of an earlier one, or else in the order of the names. -/
def put (name : String) (entry : Entry) : Directory → Directory
  | [] => [(name, entry)]
  | (n, e) :: rest =>
    if n = name then (name, entry) :: rest
    else if name < n then (name, entry) :: (n, e) :: rest
    else (n, e) :: put name entry rest

/-- The entry at a path without links. -/
def at? (d : Directory) : List String → Option Entry
  | [] => some (.directory d)
  | [name] => d.get? name
  | name :: rest =>
    match d.get? name with
    | some (.directory below) => at? below rest
    | _ => none

/-- Puts an entry at a path without links, where the directories on the way are there. -/
def putAt (d : Directory) (entry : Entry) : List String → Directory
  | [] => d
  | [name] => d.put name entry
  | name :: rest =>
    match d.get? name with
    | some (.directory below) => d.put name (.directory (putAt below entry rest))
    | _ => d

end Directory

inductive FileError where
  | missing
  | taken
  | notDirectory
  | isDirectory
  | noSpace
  | nameTooLong
  | tooManyLinks
  /-- A path with a null character, which is refused before it is looked at. -/
  | nullCharacter
deriving Repr, DecidableEq

namespace FileError

/-- The number that the system has for an error, if it comes from the system. -/
def number? : FileError → Option Nat
  | .missing => some 2
  | .taken => some 17
  | .notDirectory => some 20
  | .isDirectory => some 21
  | .noSpace => some 28
  | .nameTooLong => some 36
  | .tooManyLinks => some 40
  | .nullCharacter => none

def text : FileError → String
  | .missing => "No such file or directory"
  | .taken => "File exists"
  | .notDirectory => "Not a directory"
  | .isDirectory => "Is a directory"
  | .noSpace => "No space left on device"
  | .nameTooLong => "File name too long"
  | .tooManyLinks => "Too many levels of symbolic links"
  | .nullCharacter => "embedded null byte"

/-- Whether a question that fails in this way is answered with no, and not with the failure. -/
def isAbsence : FileError → Bool
  | .missing | .notDirectory | .tooManyLinks | .nullCharacter => true
  | .taken | .isDirectory | .noSpace | .nameTooLong => false

end FileError

/-- An operation that failed, on a path or on a file that was open already. -/
structure FileFailure where
  error : FileError
  path : Option String := none
deriving Repr, DecidableEq

namespace FileFailure

def message (f : FileFailure) : String :=
  match f.error.number? with
  | none => f.error.text
  | some number =>
    "[Errno " ++ toString number ++ "] " ++ f.error.text ++ (f.path.elim "" fun path => ": " ++ Text.quoted path)

end FileFailure

/-- All files, and the working directory. Where room is short, a file takes only so many bytes. -/
structure Files where
  top : Directory := []
  here : List String := []
  room : List (List String × Nat) := []
deriving Repr, Inhabited

namespace Files

/-- The bytes that a name may have. -/
def nameLimit : Nat := 255

/-- The bytes that a path may have. -/
def pathLimit : Nat := 4095

/-- Where a path without links leads, and what is there. Its last step may lead to nothing. -/
abbrev Place := List String × Option Entry

/-- Goes down a path. A link is left to `jump`, with the directory to go on from and the steps to go. -/
def descend (top : Directory) (jump : List String → List String → Except FileError Place) (done : List String) :
    List String → Except FileError Place
  | [] =>
    match top.at? done with
    | some e => .ok (done, some e)
    | none => .error .missing
  | step :: rest =>
    match top.at? done with
    | none => .error .missing
    | some (.directory d) =>
      if step == ".." then descend top jump done.dropLast rest
      else
        match Directory.get? step d with
        | none =>
          if nameLimit < step.utf8ByteSize then .error .nameTooLong
          else if rest.isEmpty then .ok (done ++ [step], none)
          else .error .missing
        | some (.link target) => jump (if Path.isAbsolute target then [] else done) (Path.steps target ++ rest)
        | some _ => descend top jump (done ++ [step]) rest
    | some _ => .error .notDirectory

/-- Goes down a path through a limited number of links. -/
def follow (top : Directory) : Nat → List String → List String → Except FileError Place
  | 0 => descend top fun _ _ => .error .tooManyLinks
  | links + 1 => descend top (follow top links)

/-- The number of links that one path may lead through. -/
def linkLimit : Nat := 40

/-- The directory from which a path is followed. -/
def start (f : Files) (path : String) : List String := if Path.isAbsolute path then [] else f.here

/-- Why a path is not followed at all. -/
def refusal? (path : String) : Option FileError :=
  if path.toList.contains '\x00' then some .nullCharacter
  else if pathLimit < path.utf8ByteSize then some .nameTooLong
  else none

def locate (f : Files) (path : String) : Except FileError Place :=
  match refusal? path with
  | some e => .error e
  | none => follow f.top linkLimit (f.start path) (Path.steps path)

def entry? (f : Files) (path : String) : Option Entry :=
  match f.locate path with
  | .ok (_, e) => e
  | .error _ => none

def isFile (f : Files) (path : String) : Bool := (f.entry? path).any Entry.isFile

def isDirectory (f : Files) (path : String) : Bool :=
  match f.entry? path with
  | some (.directory _) => true
  | _ => false

/-- What a path leads to, if anything. Where that cannot be found out at all, the question fails. -/
def inspect (f : Files) (path : String) : Except FileFailure (Option Entry) :=
  match f.locate path with
  | .ok (_, e) => .ok e
  | .error e => if e.isAbsence then .ok none else .error ⟨e, path⟩

/-- Whether a path leads to a file, where that can be found out. -/
def checkFile (f : Files) (path : String) : Except FileFailure Bool := (f.inspect path).map (·.any Entry.isFile)

/-- The bytes of a file. -/
def read (f : Files) (path : String) : Except FileFailure (List UInt8) :=
  match f.locate path with
  | .ok (_, some (.file content)) => .ok content
  | .ok (_, some _) => .error ⟨.isDirectory, path⟩
  | .ok (_, none) => .error ⟨.missing, path⟩
  | .error e => .error ⟨e, path⟩

/-- What an operation has done: the files after it, and how it has failed if it has. -/
structure Effect where
  files : Files
  failure : Option FileFailure := none

namespace Effect

/-- An operation that is done as a whole or not at all. -/
def ofAttempt (f : Files) : Except FileFailure Files → Effect
  | .ok g => { files := g }
  | .error e => { files := f, failure := e }

/-- The next operation, unless the first has failed. -/
def andThen (e : Effect) (next : Files → Effect) : Effect :=
  match e.failure with
  | some _ => e
  | none => next e.files

end Effect

/-- As much of a content as the file at a place has room for. -/
def fitting (f : Files) (place : List String) (content : List UInt8) : List UInt8 :=
  match f.room.find? (·.1 == place) with
  | some (_, bytes) => content.take bytes
  | none => content

/-- Writes a file, a new one if there is none. The file is emptied first, and then takes what it has room for. -/
def write (f : Files) (path : String) (content : List UInt8) : Effect :=
  match f.locate path with
  | .ok (_, some (.directory _)) => { files := f, failure := some ⟨.isDirectory, path⟩ }
  | .ok (place, _) =>
    let part := f.fitting place content
    { files := { f with top := f.top.putAt (.file part) place },
      failure := if part.length < content.length then some ⟨.noSpace, none⟩ else none }
  | .error e => { files := f, failure := some ⟨e, path⟩ }

/-- Gives a name that is not taken an entry. -/
def create (f : Files) (path : String) (entry : Entry) : Except FileFailure Files :=
  let steps := Path.steps path
  match refusal? path with
  | some e => .error ⟨e, path⟩
  | none =>
    match follow f.top linkLimit (f.start path) steps.dropLast, steps.getLast? with
    | .ok (place, some (.directory d)), some name =>
      if name == ".." || (Directory.get? name d).isSome then .error ⟨.taken, path⟩
      else if nameLimit < name.utf8ByteSize then .error ⟨.nameTooLong, path⟩
      else .ok { f with top := f.top.putAt entry (place ++ [name]) }
    | .ok (_, some _), some _ => .error ⟨.notDirectory, path⟩
    | .ok (_, none), some _ => .error ⟨.missing, path⟩
    | .error e, some _ => .error ⟨e, path⟩
    | _, none => .error ⟨.taken, path⟩

/-- Makes a directory. One that is there is left as it is. -/
def createDirectory (f : Files) (path : String) : Except FileFailure Files :=
  match f.create path (.directory []) with
  | .ok f => .ok f
  | .error e => if e.error != .missing && f.isDirectory path then .ok f else .error e

/-- Makes a directory, and those above it that are missing. The fuel is the number of steps of the path. -/
def makeDirectoryWith : Nat → Files → String → Effect
  | 0, f, path => .ofAttempt f (f.createDirectory path)
  | fuel + 1, f, path =>
    match f.createDirectory path with
    | .ok f => { files := f }
    | .error e =>
      if e.error == .missing then
        (makeDirectoryWith fuel f (Path.parent path)).andThen fun f => .ofAttempt f (f.createDirectory path)
      else { files := f, failure := e }

def makeDirectory (f : Files) (path : String) : Effect := makeDirectoryWith (Path.steps path).length f path

/-- Writes a file, and makes the directories above it first. -/
def deliver (f : Files) (path : String) (content : List UInt8) : Effect :=
  (f.makeDirectory (Path.parent path)).andThen fun f => f.write path content

/-- The steps of a path from the top with all links followed. What is missing is taken as it is spelled. -/
def resolveFrom (top : Directory) (jump : List String → List String → List String) (done : List String) :
    List String → List String
  | [] => done
  | step :: rest =>
    if step == ".." then resolveFrom top jump done.dropLast rest
    else
      match top.at? (done ++ [step]) with
      | some (.link target) => jump (if Path.isAbsolute target then [] else done) (Path.steps target ++ rest)
      | _ => resolveFrom top jump (done ++ [step]) rest

def resolveWith (top : Directory) : Nat → List String → List String → List String
  | 0 => resolveFrom top fun done rest => done ++ rest
  | links + 1 => resolveFrom top (resolveWith top links)

/-- The text of a path from the top. -/
def fromTop (steps : List String) : String := "/" ++ String.intercalate "/" steps

/-- The path from the top with all links followed. -/
def resolve (f : Files) (path : String) : String :=
  fromTop (resolveWith f.top linkLimit (f.start path) (Path.steps path))

/-- The path of the working directory. -/
def workingDirectory (f : Files) : String := fromTop f.here

end Files

/-! ## Walking

The files of a directory come in the order of their names, and after them those of its directories. A link
counts as a file, unless it leads to a directory; then it is passed over.
-/

/-- The paths of the files that stand in a directory at `path`. -/
def Directory.filesIn (leads : List String → Bool) (path : List String) (d : Directory) : List (List String) :=
  d.filterMap fun (name, e) =>
    match e with
    | .file _ => some (path ++ [name])
    | .link _ => if leads (path ++ [name]) then none else some (path ++ [name])
    | .directory _ => none

mutual
/-- The paths of all files in a directory at `path`. Only directories whose names `enters` accepts are entered. -/
def Entry.walk (leads : List String → Bool) (enters : String → Bool) (path : List String) : Entry → List (List String)
  | .directory d => Directory.filesIn leads path d ++ Directory.walkBelow leads enters path d
  | _ => []

/-- The paths of the files in the directories of a directory at `path`. -/
def Directory.walkBelow (leads : List String → Bool) (enters : String → Bool) (path : List String) :
    List (String × Entry) → List (List String)
  | [] => []
  | (name, e) :: rest =>
    (if enters name then Entry.walk leads enters (path ++ [name]) e else []) ++
      Directory.walkBelow leads enters path rest
end

namespace Files

/-- The paths of all files below a directory, seen from it. There are none below a path that is no directory. -/
def walk (f : Files) (enters : String → Bool) (root : String) : List String :=
  match f.locate root with
  | .ok (place, some (.directory d)) =>
    let leads (path : List String) : Bool :=
      match follow f.top linkLimit place path with
      | .ok (_, some (.directory _)) => true
      | _ => false
    (Entry.walk leads enters [] (.directory d)).map (String.intercalate "/")
  | _ => []

end Files

end CorpusShape
