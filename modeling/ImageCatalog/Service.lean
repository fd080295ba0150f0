import ImageCatalog.Consumers
import ImageCatalog.Pass
import ImageCatalog.Release

/-!
# The service

What a control loop calls: consumers and releases that come and go, passes, and deletion requests.
-/

namespace ImageCatalog

/-- The service with its settings. -/
structure Service where
  setup : Pass.Setup
  /-- The channel of the images that releases need. -/
  channel : String

namespace Service

/-- `consumer` needs an image of a provider. -/
def consumerAdded (consumer image provider : String) : Program Record :=
  Consumers.add image ⟨image, provider⟩ consumer

/-- `consumer` does not need an image any more. -/
def consumerRemoved (consumer image : String) : Program (Option Record) :=
  Consumers.remove image consumer

/-- A release is there and needs its image. -/
def releaseAdded (s : Service) (release : Release) : Program Record := do
  let request ← Program.ofExcept (release.request s.channel)
  Consumers.add request.record ⟨request.image, request.provider⟩ release.name

/-- A release is gone and does not need its image any more. -/
def releaseRemoved (s : Service) (release : Release) : Program (Option Record) := do
  let request ← Program.ofExcept (release.request s.channel)
  Consumers.remove request.record release.name

/-- A pass over one record. -/
def pass (s : Service) (key : String) : Program Pass.Outcome :=
  Pass.run s.setup key

/-- A pass over each record. -/
def passAll (s : Service) : Program Pass.Report :=
  Pass.runAll s.setup

/-- Asks for the deletion of an image. -/
def requestDeletion (key : String) : Program Unit :=
  Pass.requestDeletion key

end Service

end ImageCatalog
