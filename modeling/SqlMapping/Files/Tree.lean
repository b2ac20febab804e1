import SqlMapping.Files.Path

/-!
# Trees of files

A directory holds files and directories by name. A path is followed name by name from the working
directory, so a path through a missing directory or through a file leads nowhere, also when it
comes back up again. A system may refuse what it is asked to do, whatever the tree is.
-/

namespace SqlMapping.Files

/-- A file or a directory. -/
inductive Node where
  /-- A file with its content. -/
  | file (data : List UInt8)
  /-- A directory with its entries. -/
  | directory (entries : List (String × Node))

/-- Why a path leads nowhere. -/
inductive Obstacle where
  /-- A name on the way is missing. -/
  | missing
  /-- A name on the way is that of a file. -/
  | notDirectory
deriving DecidableEq

/-- A list of entries in which the entry of a name is replaced, or added at the end. -/
def putEntry (name : String) (node : Node) : List (String × Node) → List (String × Node)
  | [] => [(name, node)]
  | (key, old) :: rest =>
    if key = name then (key, node) :: rest else (key, old) :: putEntry name node rest

namespace Node

/-- Whether a node is a directory. -/
def isDirectory : Node → Bool
  | .directory _ => true
  | .file _ => false

/-- The node that names lead to. -/
def find : List String → Node → Except Obstacle Node
  | [], node => .ok node
  | _ :: _, .file _ => .error .notDirectory
  | name :: rest, .directory entries =>
    match entries.lookup name with
    | some node => node.find rest
    | none => .error .missing

/-- The tree with a node at the place that names lead to; missing directories are made. A file on
the way keeps the tree as it is. -/
def put (new : Node) : List String → Node → Node
  | [], _ => new
  | _ :: _, .file data => .file data
  | name :: rest, .directory entries =>
    .directory (putEntry name (put new rest ((entries.lookup name).getD (.directory []))) entries)

mutual

/-- The files of a tree, each with the names that lead to it after those given. -/
def files (names : List String) : Node → List (List String × List UInt8)
  | .file data => [(names, data)]
  | .directory entries => filesOf names entries

/-- The files of the entries of a directory. -/
def filesOf (names : List String) : List (String × Node) → List (List String × List UInt8)
  | [] => []
  | (name, node) :: rest => node.files (names ++ [name]) ++ filesOf names rest

end

end Node

/-- What a system is asked to do with what stands at a path. -/
inductive Deed where
  /-- To follow the path. -/
  | follow
  /-- To look what stands there. -/
  | look
  /-- To read the file. -/
  | read
  /-- To make a directory. -/
  | make
  /-- To write a file. -/
  | write
deriving DecidableEq

/-- What a system says when it refuses something. -/
structure SystemFault where
  /-- Whether it says that there is nothing at the path. -/
  isMissing : Bool := false
  /-- Its words. -/
  wording : String
deriving DecidableEq

/-- The files of a system and its working directory. -/
structure FileSystem where
  /-- Everything below the root. -/
  root : Node
  /-- The names that lead from the root to the working directory. -/
  directory : List String
  /-- None of these names leads up again. -/
  up_notMem : FilePath.up ∉ directory
  /-- What the system refuses to do, for instance for want of a permission. -/
  refuses : Deed → FilePath → Option SystemFault := fun _ _ => none

namespace FileSystem

/-- The place that names lead to from another place. -/
def follow (fs : FileSystem) : List String → List String → Except Obstacle (List String)
  | place, [] => .ok place
  | place, name :: rest =>
    match fs.root.find place with
    | .error obstacle => .error obstacle
    | .ok (.file _) => .error .notDirectory
    | .ok (.directory entries) =>
      if name = FilePath.up then fs.follow place.dropLast rest
      else if (entries.lookup name).isSome then fs.follow (place ++ [name]) rest
      else .error .missing

/-- The place that a path begins at. -/
def start (fs : FileSystem) (p : FilePath) : List String :=
  if p.isAbsolute then [] else fs.directory

/-- The place that a path leads to. -/
def locate (fs : FileSystem) (p : FilePath) : Except Obstacle (List String) :=
  fs.follow (fs.start p) p.names

/-- What a path leads to, if it leads anywhere. -/
def find? (fs : FileSystem) (p : FilePath) : Option Node :=
  match (fs.locate p).bind fun place => fs.root.find place with
  | .ok node => some node
  | .error _ => none

/-- Whether a path leads to a directory. -/
def isDirectory (fs : FileSystem) (p : FilePath) : Bool :=
  match fs.find? p with
  | some node => node.isDirectory
  | none => false

/-- The files below the working directory, each with its path from there. -/
def files (fs : FileSystem) : List (FilePath × List UInt8) :=
  match fs.root.find fs.directory with
  | .ok node => (node.files []).map fun (names, data) => (⟨false, names⟩, data)
  | .error _ => []

/-- The system with a node at a place. -/
def put (fs : FileSystem) (place : List String) (node : Node) : FileSystem :=
  { fs with root := Node.put node place fs.root }

end FileSystem

end SqlMapping.Files
