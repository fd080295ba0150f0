/-!
# Artifact keys

A node image is published once, as an object of a bucket. Its key is made from the catalog name:
a folder named for the image, and in it a file named for the part of the name up to the first
`-tooling-`, in which the first `kube-` reads `kube-v`.
-/

namespace ImageCatalog.Artifact

/-- The part of a text up to the first place where `mark` stands, or all of it. -/
def before (mark : List Char) : List Char → List Char
  | [] => []
  | c :: rest => if mark.isPrefixOf (c :: rest) then [] else c :: before mark rest

/-- Puts `new` for the first `old`. -/
def replaceFirst (old new : List Char) : List Char → List Char
  | [] => []
  | c :: rest =>
    if old.isPrefixOf (c :: rest) then new ++ (c :: rest).drop old.length
    else c :: replaceFirst old new rest

/-- What ends the part of a name that files are named for. -/
def toolingMark : List Char := "-tooling-".toList

/-- The file of an image, without its extension. -/
def fileStem (image : String) : String :=
  String.ofList
    (replaceFirst "kube-".toList "kube-v".toList (before toolingMark image.toList))

/-- The key of the artifact of an image. -/
def key (image : String) : String :=
  "capv/" ++ image ++ "/" ++ fileStem image ++ ".ova"

end ImageCatalog.Artifact
