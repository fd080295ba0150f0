import ImageCatalog.Artifact.Key

/-!
# Sources

Where artifacts are published: every key has its address below the base address of the source.
-/

namespace ImageCatalog

/-- Where artifacts are published. -/
structure Source where
  /-- The address that keys are put behind, with a slash between. -/
  base : String

namespace Source

/-- The bucket `name` in `region`, addressed by the name of its host. -/
def ofBucket (name region : String) : Source :=
  ⟨"https://" ++ name ++ ".s3." ++ region ++ ".amazonaws.com"⟩

/-- The address of a key. -/
def address (s : Source) (key : String) : String :=
  s.base ++ "/" ++ key

/-- The address of the artifact of an image. -/
def artifact (s : Source) (image : String) : String :=
  s.address (Artifact.key image)

end Source

end ImageCatalog
