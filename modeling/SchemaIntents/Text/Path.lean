/-!
File paths with `/` between their parts, and the parts of the last name: its stem and its suffix.
-/
namespace SchemaIntents.Text.Path

/-- The parts between slashes. -/
def split : List Char → List (List Char)
  | [] => [[]]
  | '/' :: rest => [] :: split rest
  | c :: rest =>
    match split rest with
    | [] => [[c]]
    | p :: ps => (c :: p) :: ps

/-- The parts of a path that lead somewhere: neither empty nor a single point. -/
def parts (path : String) : List String :=
  ((split path.toList).map String.ofList).filter fun p => p != "" && p != "."

/-- What a path from the root starts with: one slash, or just two where it has exactly two. -/
def root (path : String) : String :=
  match path.toList.takeWhile (· == '/') with
  | [] => ""
  | ['/', '/'] => "//"
  | _ => "/"

/-- The shortest form of a path; steps upward stay. -/
def normalize (path : String) : String :=
  let body := String.intercalate "/" (parts path)
  let whole := root path ++ body
  if whole = "" then "." else whole

/-- The last part of a path. -/
def name (path : String) : String :=
  (parts path).getLast?.getD ""

/-- The path without its last part. -/
def parent (path : String) : String :=
  normalize (root path ++ String.intercalate "/" (parts path).dropLast)

/-- The last point of a name that has characters on both sides, with what follows it. -/
def suffixOf (name : List Char) : List Char :=
  let tail := (name.reverse.takeWhile (· != '.')).reverse
  if tail.isEmpty || name.length ≤ tail.length + 1 then [] else '.' :: tail

/-- The suffix of the last name, from its last point on. -/
def suffix (path : String) : String :=
  String.ofList (suffixOf (name path).toList)

/-- The last name without its suffix. -/
def stem (path : String) : String :=
  let n := (name path).toList
  String.ofList (n.take (n.length - (suffixOf n).length))

/-- A path taken from another one. -/
def join (start path : String) : String :=
  if root path = "" then normalize (start ++ "/" ++ path) else normalize path

end SchemaIntents.Text.Path
