import ModuleBundler.FileStore.Basic
import ModuleBundler.OrderedMap

/-!
# Flat stores

A flat store maps keys to entries.  The key of a path is its text without trailing separators and
is otherwise taken as spelled: `/a//b`, `/a/./b` and `/a/b` are three keys.  The store begins with
one entry, a directory under the empty key, which is the root.

**Parents.**  The parent of a key is the text before its last `/`; a key without one has no
parent.  Creating a directory and writing a file need the parent to be there, but do not ask
what it is: a file may stand in as a parent.

**Writing.**  A write makes the entry a file even if it was a directory.

**Seeding.**  `FlatStore.addFile` creates the missing ancestors of a path, outermost first, and
then writes the file.  It stops at the first step that fails; what it did before stays.
-/

namespace ModuleBundler

/-- **An entry** of a flat store. -/
inductive FlatEntry where
  | file (bytes : ByteArray)
  | directory

/-- **A flat store**: entries under spelled keys. -/
structure FlatStore where
  entries : OrderedMap String FlatEntry

namespace FlatStore

/-- The store that holds nothing but its root. -/
def empty : FlatStore :=
  ⟨OrderedMap.ofList [("", .directory)]⟩

instance : Inhabited FlatStore := ⟨empty⟩

/-- The text of the path without trailing separators. -/
def key (p : Path) : String :=
  String.ofList (p.text.toList.reverse.dropWhile (· = '/')).reverse

/-- The text before the last separator of a key. -/
def parentKey? (k : String) : Option String :=
  match k.toList.reverse.dropWhile (· ≠ '/') with
  | [] => none
  | _ :: before => some (String.ofList before.reverse)

/-- Whether the parent of a key is there. -/
def hasParent (store : FlatStore) (k : String) : Bool :=
  match parentKey? k with
  | none => false
  | some parent => store.entries.contains parent

/-- Whether the path is a file. -/
def isFile (store : FlatStore) (p : Path) : Bool :=
  match store.entries.get? (key p) with
  | some (.file _) => true
  | _ => false

/-- Whether the path is anything; the root always is. -/
def present (store : FlatStore) (p : Path) : Bool :=
  key p == "" || store.entries.contains (key p)

/-- The text of a file. -/
def read (store : FlatStore) (p : Path) : Except FileError String :=
  match store.entries.get? (key p) with
  | none => .error (.absent (key p))
  | some .directory => .error .notAFile
  | some (.file bytes) => textOfBytes bytes

/-- Create the directory under a key. -/
def createKey (store : FlatStore) (k : String) : Except FileError FlatStore :=
  if store.hasParent k then
    match store.entries.get? k with
    | some (.file _) => .error .fileInPlace
    | some .directory => .error .directoryInPlace
    | none => .ok ⟨store.entries.insert k .directory⟩
  else .error .parentAbsent

/-- Create a directory under the key of a path. -/
def createDirectory (store : FlatStore) (p : Path) : Except FileError FlatStore :=
  store.createKey (key p)

/-- Write a file under the key of a path, whatever is there; only the parent must be there. -/
def write (store : FlatStore) (p : Path) (bytes : ByteArray) : Except FileError FlatStore :=
  if store.hasParent (key p) then .ok ⟨store.entries.insert (key p) (.file bytes)⟩
  else .error .parentAbsent

/-- How many entries are files. -/
def fileCount (store : FlatStore) : Nat :=
  store.entries.values.countP fun
    | .file _ => true
    | .directory => false

instance : FileStore FlatStore where
  isFile := isFile
  present := present
  read := read
  createDirectory := createDirectory
  write := write

/-- Why a file could not be added. -/
inductive SeedError where
  | create (key : String) (cause : FileError)
  | add (path : Path) (cause : FileError)
deriving DecidableEq, Repr

/-- The wording of a failure. -/
def SeedError.message : SeedError → String
  | .create key cause => "Failed to create " ++ key ++ ": " ++ cause.message
  | .add path cause => "Failed to add " ++ path.text ++ ": " ++ cause.message

/-- Create those of the given directories that are missing, in order; the store as far as it
    got, and what stopped it. -/
def createMissing (store : FlatStore) : List Path → FlatStore × Option SeedError
  | [] => (store, none)
  | p :: rest =>
      if key p = "" ∨ store.entries.contains (key p) then store.createMissing rest
      else match store.createKey (key p) with
        | .ok next => next.createMissing rest
        | .error cause => (store, some (.create (key p) cause))

/-- **Seed one file**: create its missing ancestors, outermost first, then write it. -/
def addFile (store : FlatStore) (p : Path) (content : String) : FlatStore × Option SeedError :=
  match store.createMissing p.ancestors.reverse with
  | (next, some problem) => (next, some problem)
  | (next, none) =>
      match next.write p content.toUTF8 with
      | .ok final => (final, none)
      | .error cause => (next, some (.add p cause))

/-- Seed files in order into an empty store, stopping at the first failure. -/
def ofFiles (files : List (Path × String)) : Except SeedError FlatStore :=
  files.foldlM (fun store file =>
    match store.addFile file.1 file.2 with
    | (next, none) => .ok next
    | (_, some problem) => .error problem) empty

end FlatStore

end ModuleBundler
