import CorpusShape.Files
/-!
# Changes of files

What has to be written to turn one tree of files into another in which files were only added or replaced.
-/
namespace CorpusShape

/-- Puts an entry at a path, and makes the directories on the way. -/
def Directory.plant (entry : Entry) : List String → Directory → Directory
  | [], d => d
  | [name], d => d.put name entry
  | name :: rest, d =>
    match d.get? name with
    | some (.directory below) => d.put name (.directory (Directory.plant entry rest below))
    | _ => d.put name (.directory (Directory.plant entry rest []))

mutual
/-- The files of an entry at `path` that are not there, or not the same, in the entry before. -/
def Entry.changes (path : List String) : Entry → Option Entry → List (List String × List UInt8)
  | .file content, some (.file earlier) => if content == earlier then [] else [(path, content)]
  | .file content, _ => [(path, content)]
  | .link _, _ => []
  | .directory d, some (.directory earlier) => Directory.changesFrom path earlier d
  | .directory d, _ => Directory.changesFrom path [] d

def Directory.changesFrom (path : List String) (earlier : Directory) :
    List (String × Entry) → List (List String × List UInt8)
  | [] => []
  | (name, e) :: rest =>
    e.changes (path ++ [name]) (Directory.get? name earlier) ++ Directory.changesFrom path earlier rest
end

/-- The files that were added or replaced, with their paths from the top. -/
def Files.changes (before after : Files) : List (List String × List UInt8) :=
  Directory.changesFrom [] before.top after.top

end CorpusShape
