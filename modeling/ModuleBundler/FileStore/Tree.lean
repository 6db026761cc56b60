import ModuleBundler.FileStore.Basic
import ModuleBundler.OrderedMap

/-!
# Directory trees

A directory tree is a plain hierarchy of directories and files, without links and without
permissions.  A path is followed from the root, segment by segment.

**Following a path.**  Every segment, an empty one and `.` included, needs a directory to stand
in; `..` leads back to the parent, and at the root to the root.  `DirectoryTree.follow` returns
the names that lead to where a path ends, or says whether a step was missing or no directory.

**Names have bounds.**  A name with too many bytes cannot be looked up in any directory, and a path
with too many bytes cannot be followed at all.

**Creating a directory** needs its parent to be a directory and nothing to be there.

**Writing a file** needs its parent to be a directory; a path that is a directory, or is spelled
like one with a trailing separator, cannot be written.
-/

namespace ModuleBundler

/-- **A file, or a directory** with its entries. -/
inductive TreeNode where
  | file (bytes : ByteArray)
  | directory (entries : List (String × TreeNode))

namespace TreeNode

/-- What a directory holds under a name. -/
def child? (name : String) : List (String × TreeNode) → Option TreeNode
  | [] => none
  | (n, node) :: rest => if n = name then some node else child? name rest

/-- What is found by following names inwards. -/
def at? (node : TreeNode) : List String → Option TreeNode
  | [] => some node
  | name :: rest =>
      match node with
      | .file _ => none
      | .directory entries =>
          match child? name entries with
          | none => none
          | some inner => inner.at? rest

/-- Put a node at the end of a list of names; directories on the way are kept or begun. -/
def put (leaf : TreeNode) : List String → TreeNode → TreeNode
  | [], _ => leaf
  | _ :: _, .file bytes => .file bytes
  | name :: rest, .directory entries =>
      let inner := (child? name entries).getD (.directory [])
      .directory (OrderedMap.writeEntry name (put leaf rest inner) entries)

mutual

/-- The files at and below a node, each with the names that lead to it from `place`. -/
def files (place : List String) : TreeNode → List (List String × ByteArray)
  | .file bytes => [(place, bytes)]
  | .directory entries => entriesFiles place entries

/-- The files in a list of entries of the directory at `place`. -/
def entriesFiles (place : List String) :
    List (String × TreeNode) → List (List String × ByteArray)
  | [] => []
  | (name, node) :: rest => files (place ++ [name]) node ++ entriesFiles place rest

end

end TreeNode

/-- **A tree of directories**, given by what stands at its root. -/
structure DirectoryTree where
  root : TreeNode

namespace DirectoryTree

/-- The tree of the root alone. -/
def empty : DirectoryTree := ⟨.directory []⟩

instance : Inhabited DirectoryTree := ⟨empty⟩

/-- How many bytes a name may have. -/
def nameLimit : Nat := 255

/-- How many bytes a path may have. -/
def pathLimit : Nat := 4095

/-- Whether a segment is too long for a name. -/
def tooLong (segment : List Char) : Bool :=
  decide (nameLimit < (String.ofList segment).utf8ByteSize)

/-- One step from a place, given by the names that lead to it. -/
def step (tree : DirectoryTree) (place : List String) (segment : List Char) :
    Except FileError (List String) :=
  match tree.root.at? place with
  | some (.directory entries) =>
      if segment = [] ∨ segment = ['.'] then .ok place
      else if segment = ['.', '.'] then .ok place.dropLast
      else if tooLong segment then .error .nameTooLong
      else
        let name := String.ofList segment
        if (TreeNode.child? name entries).isSome then .ok (place ++ [name])
        else .error .noEntry
  | _ => .error .notADirectory

/-- Where segments lead from the root: the names on the way. -/
def followSegments (tree : DirectoryTree) (segments : List (List Char)) :
    Except FileError (List String) :=
  segments.foldlM tree.step []

/-- The segments of a usable path. -/
def segmentsOf (p : Path) : Except FileError (List (List Char)) :=
  if p.text.toList = [] then .error .noEntry
  else if '\x00' ∈ p.text.toList then .error .unusablePath
  else if pathLimit < p.text.utf8ByteSize then .error .nameTooLong
  else .ok p.rawSegments

/-- **Where a path ends**, as names from the root. -/
def follow (tree : DirectoryTree) (p : Path) : Except FileError (List String) := do
  tree.followSegments (← segmentsOf p)

/-- What stands where a path ends. -/
def find (tree : DirectoryTree) (p : Path) : Except FileError TreeNode := do
  match tree.root.at? (← tree.follow p) with
  | some node => .ok node
  | none => .error .noEntry

/-- Whether the path is a file. -/
def isFile (tree : DirectoryTree) (p : Path) : Bool :=
  match tree.find p with
  | .ok (.file _) => true
  | _ => false

/-- Whether the path is anything. -/
def present (tree : DirectoryTree) (p : Path) : Bool :=
  match tree.find p with
  | .ok _ => true
  | .error _ => false

/-- The text of a file. -/
def read (tree : DirectoryTree) (p : Path) : Except FileError String :=
  match tree.find p with
  | .ok (.file bytes) => textOfBytes bytes
  | .ok (.directory _) => .error .isADirectory
  | .error cause => .error cause

/-- **Where something new would go**: the place of the parent, which must be a directory, and
    the last segment. -/
def parentAndLast (tree : DirectoryTree) (segments : List (List Char)) :
    Except FileError (List String × List Char) := do
  let place ← tree.followSegments segments.dropLast
  match tree.root.at? place with
  | some (.directory _) => .ok (place, segments.getLast?.getD [])
  | _ => .error .notADirectory

/-- Whether a segment names an entry rather than a step. -/
def namesEntry (segment : List Char) : Bool :=
  segment != [] && segment != ['.'] && segment != ['.', '.']

/-- The segments without the empty ones at the end. -/
def dropTrailingEmpty (segments : List (List Char)) : List (List Char) :=
  (segments.reverse.dropWhile (· = [])).reverse

/-- Create one directory; trailing separators do not matter. -/
def createDirectory (tree : DirectoryTree) (p : Path) : Except FileError DirectoryTree := do
  let segments := dropTrailingEmpty (← segmentsOf p)
  let (place, last) ← tree.parentAndLast segments
  if !namesEntry last then .error .entryExists
  else if tooLong last then .error .nameTooLong
  else
    let target := place ++ [String.ofList last]
    if (tree.root.at? target).isSome then .error .entryExists
    else .ok ⟨TreeNode.put (.directory []) target tree.root⟩

/-- Give a file its bytes. -/
def write (tree : DirectoryTree) (p : Path) (bytes : ByteArray) :
    Except FileError DirectoryTree := do
  let segments ← segmentsOf p
  let named := dropTrailingEmpty segments
  let (place, last) ← tree.parentAndLast named
  if !namesEntry last || named.length ≠ segments.length then .error .isADirectory
  else if tooLong last then .error .nameTooLong
  else
    let target := place ++ [String.ofList last]
    match tree.root.at? target with
    | some (.directory _) => .error .isADirectory
    | _ => .ok ⟨TreeNode.put (.file bytes) target tree.root⟩

/-- The absolute path of some names. -/
def pathOf (names : List String) : Path :=
  ⟨"/" ++ "/".intercalate names⟩

/-- **What changed** from one tree to another: the files of the later tree that the earlier one
    does not have with the same bytes, in the order of their paths. -/
def changes (before after : DirectoryTree) : List (Path × ByteArray) :=
  let fresh := (after.root.files []).filter fun file =>
    match before.root.at? file.1 with
    | some (.file bytes) => bytes.data != file.2.data
    | _ => true
  (fresh.map fun file => (pathOf file.1, file.2)).mergeSort fun a b =>
    (compare a.1.text b.1.text).isLE

instance : FileStore DirectoryTree where
  isFile := isFile
  present := present
  read := read
  createDirectory := createDirectory
  write := write

end DirectoryTree

end ModuleBundler
