import ByteAsm.Text.Quoted

/-!
# Workspaces

The files a command sees: a tree of directories and files with their bytes. Paths are followed
part by part from the working directory, or from the root after a leading slash, with `.`, `..`
and empty parts read as usual; a path that ends with a slash names only a directory, and the
directories above the working directory are known only when the workspace knows where it is.

A command checks a path as written but reads and writes it without empty and `.` parts. Writing a
file needs the directory it goes in, fails on a directory, and replaces a file.
-/

namespace ByteAsm

namespace Cli

/-- What a path names: a file with its bytes, or a directory. -/
inductive Entry where
  | file (contents : List UInt8)
  | directory
deriving DecidableEq, Repr

/-- A directory tree, by the paths of its entries: relative to the working directory, or from
the root of the system after a slash. `home` holds the names that lead from the root to the
working directory, when they are known. -/
structure Workspace where
  entries : List (String × Entry)
  home : Option (List String) := none
deriving Repr

/-- The parts of a path between its slashes, empty ones included. -/
def slashParts (p : String) : List String :=
  (p.toList.splitOn '/').map String.ofList

/-- The parts of a path, without empty and `.` parts. -/
def pathParts (p : String) : List String :=
  (slashParts p).filter fun part => !part.isEmpty && part != "."

/-- The root a path starts from: two slashes are kept as they are, one or more than two make one
slash, and a relative path has none. -/
def pathRoot (p : String) : String :=
  if p.startsWith "//" && !p.startsWith "///" then "//"
  else if p.startsWith "/" then "/"
  else ""

/-- A path as it is shown: its parts joined by slashes after its root, or `.` when it has
neither. -/
def showPath (p : String) : String :=
  let parts := pathParts p
  if !(pathRoot p).isEmpty then pathRoot p ++ "/".intercalate parts
  else if parts.isEmpty then "."
  else "/".intercalate parts

/-- The path with its last part's suffix replaced by `suffix`: the suffix is the part from its
last dot on, unless that dot begins the part or ends it. -/
def withSuffix (p : String) (suffix : String) : String :=
  let shown := showPath p
  let parts := slashParts shown
  match parts.getLast? with
  | none => shown ++ suffix
  | some name =>
    let cs := name.toList
    let dot := (cs.zipIdx.filter (·.1 == '.')).getLast?.map (·.2)
    let stem := match dot with
      | some i => if 0 < i ∧ i < cs.length - 1 then String.ofList (cs.take i) else name
      | none => name
    "/".intercalate (parts.dropLast ++ [stem ++ suffix])

/-- Why a file cannot be written. -/
inductive WriteError where
  | noSuchPath (path : String)
  | isDirectory (path : String)
  | notDirectory (path : String)
deriving DecidableEq, Repr

/-- The message of a write error, with the path as written. -/
def WriteError.message : WriteError → String
  | .noSuchPath p => "[Errno 2] No such file or directory: " ++ Text.quote p
  | .isDirectory p => "[Errno 21] Is a directory: " ++ Text.quote p
  | .notDirectory p => "[Errno 20] Not a directory: " ++ Text.quote p

/-- Where a walk along a path stands. -/
inductive Place where
  /-- The place these names lead to from the working directory. -/
  | inside (names : List String)
  /-- The place these names lead to from the root of the system. -/
  | absolute (names : List String)
  /-- A directory above the working directory, whose place in the system is not known. -/
  | above
  /-- A place in a directory above the working directory, where nothing is known to be. -/
  | nowhere
deriving DecidableEq, Repr

/-- Why a walk along a path stops: a part is missing, or a file stands where a directory must. -/
inductive WalkError where
  | missing
  | notDirectory
deriving DecidableEq, Repr

/-- The write error for a path that a walk cannot follow. -/
def WalkError.toWrite (path : String) : WalkError → WriteError
  | .missing => .noSuchPath path
  | .notDirectory => .notDirectory path

namespace Workspace

/-- The place named by `names` from the root: the working directory when they lead to it. -/
def settle (ws : Workspace) (names : List String) : Place :=
  if ws.home = some names then .inside [] else .absolute names

/-- The place a walk along `p` starts from. -/
def origin (ws : Workspace) (p : String) : Place :=
  if p.startsWith "/" then ws.settle [] else .inside []

/-- The place that `part` names from the directory at `here`. -/
def child (ws : Workspace) (here : Place) (part : String) : Place :=
  if part = "." then here
  else if part = ".." then
    match here with
    | .inside [] => match ws.home with
      | some names => ws.settle names.dropLast
      | none => .above
    | .inside names => .inside names.dropLast
    | .absolute names => ws.settle names.dropLast
    | other => other
  else
    match here with
    | .inside names => .inside (names ++ [part])
    | .absolute names => ws.settle (names ++ [part])
    | _ => .nowhere

/-- The key of the entry at `place`, if the workspace can hold one there. -/
def keyOf : Place → Option String
  | .inside [] => none
  | .inside names => some ("/".intercalate names)
  | .absolute [] => none
  | .absolute names => some ("/" ++ "/".intercalate names)
  | _ => none

/-- What stands at `place`: the working directory, the root and the directories above the
working directory are directories. -/
def entryAt (ws : Workspace) (place : Place) : Option Entry :=
  match place with
  | .inside [] | .absolute [] | .above => some .directory
  | .nowhere => none
  | _ => (keyOf place).bind fun key => ws.entries.lookup key

/-- Check that `place` is a directory, so that a walk may step from it. -/
def requireDirectory (ws : Workspace) (place : Place) : Except WalkError Unit :=
  match ws.entryAt place with
  | some .directory => .ok ()
  | some (.file _) => .error .notDirectory
  | none => .error .missing

/-- Follow `parts` from `place`, each step from a directory; the place reached is not checked. -/
def walk (ws : Workspace) (place : Place) : List String → Except WalkError Place
  | [] => .ok place
  | part :: rest =>
    match ws.requireDirectory place with
    | .error e => .error e
    | .ok () => ws.walk (ws.child place part) rest

/-- The places a walk along `p` passes, whether or not they exist. -/
def placesAlong (ws : Workspace) (p : String) : List Place :=
  ((slashParts p).filter (!·.isEmpty)).scanl ws.child (ws.origin p)

/-- The entry that the path `p` names, followed as it is written. -/
def stat (ws : Workspace) (p : String) : Option Entry :=
  if p.isEmpty then none
  else
    match ws.walk (ws.origin p) ((slashParts p).filter (!·.isEmpty)) with
    | .error _ => none
    | .ok place =>
      match ws.entryAt place with
      | some (.file bytes) => if p.endsWith "/" then none else some (.file bytes)
      | other => other

/-- The contents of the file at `p`. -/
def read? (ws : Workspace) (p : String) : Option (List UInt8) :=
  match ws.stat (showPath p) with
  | some (.file bytes) => some bytes
  | _ => none

/-- Store `contents` at `place`: in place of a file there, or as a new entry. A place in a
directory above the working directory takes the file without showing it. -/
def store (ws : Workspace) (place : Place) (contents : List UInt8) : Workspace :=
  match keyOf place with
  | none => ws
  | some key =>
    if ws.entries.any (·.1 == key) then
      { ws with entries := ws.entries.map fun e => if e.1 == key then (key, .file contents) else e }
    else { ws with entries := ws.entries ++ [(key, .file contents)] }

/-- Write `contents` to the file at `p`. -/
def write (ws : Workspace) (p : String) (contents : List UInt8) : Except WriteError Workspace :=
  let shown := showPath p
  match ws.walk (ws.origin shown) (pathParts shown) with
  | .error e => .error (e.toWrite shown)
  | .ok place =>
    match ws.entryAt place with
    | some .directory => .error (.isDirectory shown)
    | _ => .ok (ws.store place contents)

/-- The files of the workspace with their contents, sorted by path. -/
def files (ws : Workspace) : List (String × List UInt8) :=
  (ws.entries.filterMap fun (p, e) => match e with
    | .file bytes => some (p, bytes)
    | .directory => none).mergeSort (fun a b => decide (a.1 ≤ b.1))

/-- The files under the working directory with their contents, sorted by path. -/
def localFiles (ws : Workspace) : List (String × List UInt8) :=
  ws.files.filter fun (p, _) => !p.startsWith "/"

end Workspace

end Cli

end ByteAsm
