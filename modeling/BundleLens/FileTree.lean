import BundleLens.Failure

namespace BundleLens

inductive FileTree.Node where
  | file (content : ByteArray)
  | directory

/-- The files and directories below the current directory by the names on the way to them. -/
structure FileTree where
  nodes : List (List String × FileTree.Node) := []

namespace FileTree

def names (path : String) : List String := (path.toList.splitOn '/').map String.ofList

/-- The names that make up a path. A point stands for the directory that it is in, and so does an
empty name. -/
def steps (path : String) : List String :=
  (names path).filter fun name => name ≠ "" ∧ name ≠ "."

def asksDirectory (path : String) : Bool :=
  match (names path).getLast? with
  | some name => name = "" ∨ name = "."
  | none => false

/-- The node at a place. The current directory is there without an entry, and so is one that
something lies in. -/
def find? (tree : FileTree) (place : List String) : Option Node :=
  match tree.nodes.lookup place with
  | some node => some node
  | none =>
    if place.isEmpty || tree.nodes.any (place.isPrefixOf ·.1) then some .directory else none

/-- Follows names from a directory on. The last name need not exist, every other one has to be a
directory. -/
def follow (tree : FileTree) (place : List String) : List String →
    Except FileFault (List String)
  | [] => .ok place
  | name :: rest =>
    match tree.find? place with
    | some .directory =>
      if name = ".." then follow tree place.dropLast rest
      else follow tree (place ++ [name]) rest
    | some (.file _) => .error .notDirectory
    | none => .error .missing

def locate (tree : FileTree) (path : String) : Except FileFault (List String) :=
  if path.isEmpty then .error .missing
  else if path.startsWith "/" then .error .missing
  else tree.follow [] (steps path)

def read (tree : FileTree) (path : String) : Except FileFault ByteArray := do
  let place ← tree.locate path
  match tree.find? place with
  | none => throw .missing
  | some .directory => throw .isDirectory
  | some (.file content) => if asksDirectory path then throw .notDirectory else return content

def write (tree : FileTree) (path : String) (content : ByteArray) : Except FileFault FileTree := do
  let place ← tree.locate path
  match tree.find? place with
  | some .directory => throw .isDirectory
  | some (.file _) =>
    if asksDirectory path then throw .notDirectory
    else return ⟨tree.nodes.map fun node => if node.1 = place then (place, .file content) else node⟩
  | none =>
    if asksDirectory path then throw .isDirectory
    else return ⟨tree.nodes ++ [(place, .file content)]⟩

end FileTree

/-- Something that files can be read from and written to. -/
structure Disk (m : Type → Type) where
  read : String → m (Except FileFault ByteArray)
  write : String → ByteArray → m (Except FileFault Unit)

def FileTree.disk : Disk (StateM FileTree) where
  read path := return (← get).read path
  write path content := do
    match (← get).write path content with
    | .ok tree =>
      set tree
      return .ok ()
    | .error fault => return .error fault

end BundleLens
