/-!
# Paths

Paths as texts with parts divided by strokes: joining, cleaning, and cutting off the directory or the
extension.
-/
namespace CorpusShape.Path

/-- The parts between strokes. -/
def parts : List Char → List (List Char)
  | [] => [[]]
  | c :: rest =>
    if c == '/' then [] :: parts rest
    else
      match parts rest with
      | [] => [[c]]
      | p :: ps => (c :: p) :: ps

/-- The parts of a path, joined by strokes. -/
def unparts : List (List Char) → List Char
  | [] => []
  | [p] => p
  | p :: ps => p ++ '/' :: unparts ps

/-- Takes one more part into a clean path, given newest part first. A step up undoes the part before;
at the top it is kept, unless the path is absolute. -/
def cleanStep (absolute : Bool) (done : List (List Char)) (part : List Char) : List (List Char) :=
  if part == [] || part == ['.'] then done
  else if part == ['.', '.'] then
    match done with
    | [] => if absolute then [] else [part]
    | last :: rest => if last == ['.', '.'] then part :: done else rest
  else part :: done

/-- The parts of a path without empty parts, `.` parts, and steps up that follow another part. -/
def cleanParts (absolute : Bool) (ps : List (List Char)) : List (List Char) :=
  (ps.foldl (cleanStep absolute) []).reverse

/-- The number of strokes that a clean path keeps at its start: two only if there are exactly two. -/
def leadingStrokes : List Char → Nat
  | '/' :: '/' :: '/' :: _ => 1
  | '/' :: '/' :: _ => 2
  | '/' :: _ => 1
  | _ => 0

/-- A path without superfluous parts; the empty path is `.`. -/
def clean (path : String) : String :=
  let cs := path.toList
  let strokes := leadingStrokes cs
  let result := List.replicate strokes '/' ++ unparts (cleanParts (strokes != 0) (parts cs))
  if result.isEmpty then "." else String.ofList result

/-- `b` seen from the directory `a`. -/
def join (a b : String) : String :=
  if b.startsWith "/" then b
  else if a.isEmpty || a.endsWith "/" then a ++ b
  else a ++ "/" ++ b

/-- Drops strokes from the end. -/
def dropTrailingStrokes (cs : List Char) : List Char := (cs.reverse.dropWhile (· == '/')).reverse

/-- The directory part of a path. -/
def directory (path : String) : String :=
  let head := (path.toList.reverse.dropWhile (· != '/')).reverse
  if head.all (· == '/') then String.ofList head else String.ofList (dropTrailingStrokes head)

/-- A path before and from the last point of its last part. Points at the start of that part do not
count. -/
def splitExtension (path : String) : String × String :=
  let cs := path.toList
  let name := (cs.reverse.takeWhile (· != '/')).reverse
  let after := (name.reverse.takeWhile (· != '.')).reverse
  let before := name.take (name.length - after.length - 1)
  if after.length < name.length && before.any (· != '.') then
    (String.ofList (cs.take (cs.length - after.length - 1)), String.ofList ('.' :: after))
  else (path, "")

/-- The parts of a path that say something: neither empty nor the directory itself. -/
def steps (path : String) : List String :=
  ((parts path.toList).filter fun p => p != [] && p != ['.']).map String.ofList

def isAbsolute (path : String) : Bool := path.startsWith "/"

/-- A path without empty parts and parts that stay where they are. Steps up are kept, since a part before one
may be a link. -/
def spelled (path : String) : String :=
  let result := String.ofList (List.replicate (leadingStrokes path.toList) '/') ++ String.intercalate "/" (steps path)
  if result.isEmpty then "." else result

/-- `path` seen from the directory `base`, spelled. -/
def under (base path : String) : String := spelled (join base path)

/-- The path without its last step. -/
def parent (path : String) : String :=
  spelled (String.ofList (List.replicate (leadingStrokes path.toList) '/') ++
    String.intercalate "/" (steps path).dropLast)

/-- The extension of the last step of a path, with its point. A point at the start or at the end does not
count. -/
def suffix (path : String) : String :=
  let name := (((steps path).getLast?).getD "").toList
  let after := (name.reverse.takeWhile (· != '.')).reverse
  let before := name.take (name.length - after.length - 1)
  if after.length < name.length && !after.isEmpty && !before.isEmpty then String.ofList ('.' :: after) else ""

/-- The extension of a path, with its point. -/
def extension (path : String) : String := (splitExtension path).2

end CorpusShape.Path
