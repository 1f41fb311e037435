import ShaderConversion.FileAccess

namespace ShaderConversion

abbrev Place := List (List UInt8)

inductive Node where
  | directory
  | file (content : List UInt8)
  deriving DecidableEq, Repr

-- A directory tree. A place occurs once, and every place lies in a directory.
structure FileStore where
  nodes : List (Place × Node)
  deriving DecidableEq, Repr

namespace FileStore

def empty : FileStore := ⟨[]⟩

def up : List UInt8 := [0x2E, 0x2E]

def node? (files : FileStore) (place : Place) : Option Node :=
  if place.all (· == up) then some .directory else files.nodes.lookup place

def put (files : FileStore) (place : Place) (node : Node) : FileStore :=
  ⟨(place, node) :: files.nodes.filter fun entry => entry.1 != place⟩

def enter (files : FileStore) (place : Place) (name : List UInt8) : Except FileError Place :=
  match files.node? place with
  | none => .error .notFound
  | some (.file _) => .error .notDirectory
  | some .directory =>
    if name = [] ∨ name = [0x2E] then .ok place
    else if name = up then
      if place.all (· == up) then .ok (up :: place) else .ok place.dropLast
    else if 255 < name.length then .error .nameTooLong
    else .ok (place ++ [name])

def names (path : Path) : List (List UInt8) := path.bytes.splitOnP (· == 0x2F)

def isTrivial (name : List UInt8) : Bool := name = [] ∨ name = [0x2E] ∨ name = up

-- The directory that holds the last name of a path, and that name. An absolute
-- path leads out of the tree.
def locate (files : FileStore) (path : Path) : Except FileError (Place × List UInt8) :=
  if path.bytes = [] then .error .notFound
  else if path.bytes.head? = some 0x2F then
    if (names path).all isTrivial then .error .isDirectory else .error .notFound
  else do
    let names := names path
    let place ← names.dropLast.foldlM files.enter []
    return (place, names.getLast?.getD [])

def read (files : FileStore) (path : Path) : Except FileError (List UInt8) := do
  let (place, name) ← files.locate (← path.checked)
  let place ← files.enter place name
  match files.node? place with
  | none => .error .notFound
  | some .directory => .error .isDirectory
  | some (.file content) => .ok content

-- Replaces or creates a file; its directory has to exist. A path that ends in a
-- slash cannot name a file, whatever stands there.
def write (files : FileStore) (path : Path) (content : List UInt8) : Except FileError FileStore := do
  let path ← path.checked
  let bare : Path := ⟨(path.bytes.reverse.dropWhile (· == 0x2F)).reverse⟩
  let (place, name) ← files.locate (if bare.bytes = [] then path else bare)
  let directory ← files.enter place []
  if bare ≠ path ∨ isTrivial name then .error .isDirectory
  else do
    let target ← files.enter directory name
    if files.node? target = some .directory then .error .isDirectory
    else .ok (files.put target (.file content))

instance : FileAccess FileStore := ⟨read, write⟩

def addDirectory (files : FileStore) (place : Place) : FileStore :=
  (List.range place.length).foldl (fun files count =>
    if (files.node? (place.take (count + 1))).isSome then files
    else files.put (place.take (count + 1)) .directory) files

def add (files : FileStore) (path : Path) (content : List UInt8) : FileStore :=
  let place := (names path).filter fun name => name != []
  if path.bytes.getLast? = some 0x2F then files.addDirectory place
  else (files.addDirectory place.dropLast).put place (.file content)

def files (store : FileStore) : List (Place × List UInt8) :=
  store.nodes.filterMap fun entry =>
    match entry.2 with
    | .directory => none
    | .file content => if entry.1.head? = some up then none else some (entry.1, content)

def pathOf (place : Place) : Path := ⟨[0x2F].intercalate place⟩

end FileStore

end ShaderConversion
