import ModuleBundler.Path.Basic

/-!
# File stores

A build needs five things from the place where files are kept: to probe whether a path is a file,
to probe whether anything is there, to read a text, to create one directory, and to write one
file.  `FileStore` names these operations for a type of store values.  A store is a plain value:
a write returns the store after it, and a failed operation changes nothing.

Two kinds of store are provided, `FlatStore` (entries under their spelled paths) and
`DirectoryTree` (nested directories).  `FileError` lists what can go wrong with either, one cause
per constructor, and `FileError.message` gives the wording.
-/

namespace ModuleBundler

/-- **Why a file operation failed.** -/
inductive FileError where
  /-- A flat store holds no entry under this key. -/
  | absent (key : String)
  /-- A flat store holds no entry for the parent of the path. -/
  | parentAbsent
  /-- A flat store already holds a file where a directory was to be created. -/
  | fileInPlace
  /-- A flat store already holds a directory where one was to be created. -/
  | directoryInPlace
  /-- A flat store holds a directory where a file was to be read. -/
  | notAFile
  /-- The bytes of the file are no UTF-8 text. -/
  | notText
  /-- A step of the path leads nowhere. -/
  | noEntry
  /-- Something is already there. -/
  | entryExists
  /-- A step of the path goes through something that is no directory. -/
  | notADirectory
  /-- The path is a directory where a file was needed. -/
  | isADirectory
  /-- The path holds the character NUL. -/
  | unusablePath
  /-- The path, or a name in it, has too many bytes. -/
  | nameTooLong
  /-- A failure known by its text only. -/
  | described (text : String)
deriving DecidableEq, Repr

/-- The wording of failures that a flat store reports about its entries. -/
def FileError.entryMessage (text : String) : String :=
  "An error occured for 'PATH NOT FILLED BY VFS LAYER': " ++ text

/-- The wording of a failure. -/
def FileError.message : FileError → String
  | .absent key => key ++ " does not exist"
  | .parentAbsent => entryMessage "FileSystem error: Parent path does not exist"
  | .fileInPlace => entryMessage "File already exists"
  | .directoryInPlace => entryMessage "Directory already exists"
  | .notAFile => entryMessage "FileSystem error: Not a file"
  | .notText => "stream did not contain valid UTF-8"
  | .noEntry => "No such file or directory (os error 2)"
  | .entryExists => "File exists (os error 17)"
  | .notADirectory => "Not a directory (os error 20)"
  | .isADirectory => "Is a directory (os error 21)"
  | .unusablePath => "file name contained an unexpected NUL byte"
  | .nameTooLong => "File name too long (os error 36)"
  | .described text => text

/-- **Operations on a store of files.** -/
class FileStore (σ : Type) where
  /-- Whether the path is a file. -/
  isFile : σ → Path → Bool
  /-- Whether the path is anything at all. -/
  present : σ → Path → Bool
  /-- The text of a file. -/
  read : σ → Path → Except FileError String
  /-- Create one directory, whose parent must be there. -/
  createDirectory : σ → Path → Except FileError σ
  /-- Give a file its bytes, replacing what it held. -/
  write : σ → Path → ByteArray → Except FileError σ

/-- Read bytes as a text. -/
def textOfBytes (bytes : ByteArray) : Except FileError String :=
  match String.fromUTF8? bytes with
  | some text => .ok text
  | none => .error .notText

end ModuleBundler
