/-!
# Disks

What the library needs of a file system: whole files of text, and folders. A disk is a bundle of
operations in some monad, so the same code runs on real files and on a `FileTree`.
-/

namespace ImageCatalog

/-- Why an operation on files did not succeed. -/
inductive FileFault where
  | missing
  | occupied
  | notFolder
  | isFolder
  /-- The bytes of a file are no text. -/
  | notText
  | other (reason : String)
deriving DecidableEq, Repr

def FileFault.message : FileFault → String
  | missing => "No such file or directory (os error 2)"
  | occupied => "File exists (os error 17)"
  | notFolder => "Not a directory (os error 20)"
  | isFolder => "Is a directory (os error 21)"
  | notText => "stream did not contain valid UTF-8"
  | other reason => reason

/-- The operations of a file system. -/
structure Disk (m : Type → Type) where
  /-- The text of a file. -/
  read : String → m (Except FileFault String)
  /-- Puts a file with a text in place of what is there, all at once. -/
  write : String → String → m (Except FileFault Unit)
  /-- Removes a file. -/
  remove : String → m (Except FileFault Unit)
  /-- The names of what is in a folder. -/
  entries : String → m (Except FileFault (List String))
  /-- Whether there is a file or folder. -/
  holds : String → m Bool
  /-- Makes a folder, and the folders that it is in. -/
  makeFolder : String → m (Except FileFault Unit)

namespace Disk

/-- The path of a file in a folder. -/
def join (folder file : String) : String :=
  if folder.isEmpty || folder.endsWith "/" then folder ++ file else folder ++ "/" ++ file

end Disk

end ImageCatalog
