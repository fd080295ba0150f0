import ImageCatalog.Disk

/-!
# Usual places

Where the configuration and the records are, unless an invocation says something else: below the
folders for settings and for data that the environment names, or below the home of the user, or
else in the current folder.
-/

namespace ImageCatalog.Cli

/-- The usual places. -/
structure Places where
  configFile : String
  storeRoot : String
deriving DecidableEq, Repr

namespace Places

/-- The name of the folders of this program. -/
def folderName : String := "image-distributor"

/-- A path from the environment, which counts only if it starts at the root. -/
def absolute? (path : Option String) : Option String :=
  path.filter fun p => p.startsWith "/"

/-- A folder below the home of the user, unless there is no home. -/
def belowHome? (home : Option String) (folder : String) : Option String :=
  (home.filter fun h => !h.isEmpty).map fun h => Disk.join h folder

/-- The places by the home of the user and the folders for settings and for data. -/
def ofEnvironment (home settings data : Option String) : Places :=
  let settings := (absolute? settings).or (belowHome? home ".config")
  let data := ((absolute? data).or (belowHome? home ".local/share")).getD "."
  let file := "config.yaml"
  { configFile := (settings.map fun s => Disk.join (Disk.join s folderName) file).getD file
    storeRoot := Disk.join (Disk.join data folderName) "images" }

end Places

end ImageCatalog.Cli
