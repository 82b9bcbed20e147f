import ImportDispatch.Text.Utf8
import ImportDispatch.Storage
/-!
# A tree of files

Directories and files below one root, reached by paths.  A path that does not start at the root starts at the working
directory.  Between slashes stand names; an empty name and a dot stay where they are, two dots go up.  What lies below a
file cannot be reached, a name has at most 255 bytes and a path at most 4095, and no path holds a null character.
-/
namespace ImportDispatch

/-- What a path leads to. -/
inductive Entry
  | directory
  | file (content : Text)
deriving DecidableEq, Repr

/-- Why a path cannot be used. -/
inductive AccessError
  | missing | notDirectory | tooLong | badPath | taken
deriving DecidableEq, Repr

/-- The entries below the root, each under the names that lead to it, the oldest first. -/
structure FileTree where
  /-- The names that lead to the working directory. -/
  workingDir : List Text
  entries : List (List Text × Entry)
deriving DecidableEq, Repr

namespace FileTree

/-! ## Looking -/

/-- The entry under the names; the root is a directory. -/
def entry? (tree : FileTree) (names : List Text) : Option Entry :=
  if names.isEmpty then some .directory else (tree.entries.find? (·.1 == names)).map (·.2)

/-- Follows segments of a path from a place; the result is the names that lead to where it ends. -/
def walk (tree : FileTree) : List Text → List Text → Except AccessError (List Text)
  | place, [] => .ok place
  | place, segment :: rest =>
    match tree.entry? place with
    | none => .error .missing
    | some (.file _) => .error .notDirectory
    | some .directory =>
      if segment.isEmpty || segment == ".".toList then walk tree place rest
      else if segment == "..".toList then walk tree place.dropLast rest
      else if 255 < Text.utf8Size segment then .error .tooLong
      else if (tree.entry? (place ++ [segment])).isNone then .error .missing
      else walk tree (place ++ [segment]) rest

def segments (path : Text) : List Text := Text.splitBy (· == '/') path

def origin (tree : FileTree) (path : Text) : List Text :=
  if path.head? = some '/' then [] else tree.workingDir

/-- A path that can be followed at all. -/
def checkPath (path : Text) : Except AccessError Unit :=
  if path.elem '\x00' then .error .badPath
  else if path.isEmpty then .error .missing
  else if 4095 < Text.utf8Size path then .error .tooLong
  else .ok ()

def find (tree : FileTree) (path : Text) : Except AccessError Entry := do
  checkPath path
  let names ← tree.walk (tree.origin path) (segments path)
  match tree.entry? names with
  | some entry => return entry
  | none => .error .missing

def isTaken (tree : FileTree) (path : Text) : Except AccessError Bool :=
  match tree.find path with
  | .ok _ => .ok true
  | .error .missing => .ok false
  | .error e => .error e

def isDirectory (tree : FileTree) (path : Text) : Bool :=
  match tree.find path with
  | .ok .directory => true
  | _ => false

/-- The content of the file that a path leads to. -/
def read? (tree : FileTree) (path : Text) : Option Text :=
  match tree.find path with
  | .ok (.file content) => some content
  | _ => none

/-! ## Making -/

/-- Makes an entry under the last of the segments, in the directory that those before it lead to. -/
def make (tree : FileTree) (path : Text) (segments : List Text) (entry : Entry) : Except AccessError FileTree := do
  checkPath path
  match segments.getLast? with
  | none => .error .taken
  | some name =>
    let dir ← tree.walk (tree.origin path) segments.dropLast
    if tree.entry? dir != some .directory then .error .notDirectory
    else if name.isEmpty || name == ".".toList || name == "..".toList then .error .taken
    else if 255 < Text.utf8Size name then .error .tooLong
    else if (tree.entry? (dir ++ [name])).isSome then .error .taken
    else return { tree with entries := tree.entries ++ [(dir ++ [name], entry)] }

def makeFile (tree : FileTree) (path content : Text) : Except AccessError FileTree :=
  tree.make path (segments path) (.file content)

/-- Makes a directory; slashes at the end of its path do not count. -/
def makeDirectory (tree : FileTree) (path : Text) : Except AccessError FileTree :=
  tree.make path ((segments path).reverse.dropWhile List.isEmpty).reverse .directory

/-- The directories that a path lies in, the nearest first, without what does not matter in the path. -/
def ancestors (path : Text) : List Text :=
  let absolute := path.head? = some '/'
  let parts := segments path
  let names := (parts.take 1).filter (fun s => !s.isEmpty) ++
    (parts.drop 1).filter fun s => !s.isEmpty && s != ".".toList
  (List.range names.length).reverse.map fun k =>
    (if absolute then ['/'] else []) ++ Text.join ['/'] (names.take k)

/-- Makes the first of the directories, after those it lies in if one of them is missing.  What is made stays even if
the rest fails. -/
def makeFrom : List Text → FileTree → Except AccessError Unit × FileTree
  | [], tree => (.error .missing, tree)
  | path :: outer, tree =>
    if path.isEmpty then (.ok (), tree)
    else
      let settle (tree : FileTree) (e : AccessError) : Except AccessError Unit × FileTree :=
        (if tree.isDirectory path then .ok () else .error e, tree)
      match tree.makeDirectory path with
      | .ok made => (.ok (), made)
      | .error .missing =>
        match makeFrom outer tree with
        | (.error e, tree) => (.error e, tree)
        | (.ok (), tree) =>
          match tree.makeDirectory path with
          | .ok made => (.ok (), made)
          | .error e => settle tree e
      | .error e => settle tree e

/-- Makes a directory and all it lies in, as far as they are not there yet. -/
def makeDirectories (path : Text) (tree : FileTree) : Except AccessError Unit × FileTree :=
  makeFrom (path :: ancestors path) tree

end FileTree
end ImportDispatch
