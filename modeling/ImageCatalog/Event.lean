import ImageCatalog.Duration
import ImageCatalog.Phase

/-!
# Events

What the programs of the library report about an image. Events are the journal of the records:
creation, consumers, phases and removal can be read off from them.
-/

namespace ImageCatalog

/-- A decision about an image. -/
inductive Event where
  | recordCreated (image provider : String)
  | referenceAdded (image consumer : String)
  | referenceRemoved (image consumer : String)
  | stateChanged (image : String) (source : Option Phase) (target : Phase)
  | alreadyPresent (image location : String)
  | uploadStarted (image location url : String)
  | uploadCompleted (image location : String)
  | sourceMissing (image url : String)
  | providerNotConfigured (image provider : String)
  | retentionStarted (image : String) (period : Duration)
  | retentionWaiting (image : String) (remaining : Duration)
  | retentionCancelled (image : String)
  | deletionRequested (image : String)
  | deletionBlocked (image : String) (consumers : Nat)
  | locationDeleteFailed (image location reason : String)
  | removed (image : String)
deriving DecidableEq

namespace Event

/-- The image that an event is about. -/
def image : Event → String
  | recordCreated image _ | referenceAdded image _ | referenceRemoved image _
  | stateChanged image _ _ | alreadyPresent image _ | uploadStarted image _ _
  | uploadCompleted image _ | sourceMissing image _ | providerNotConfigured image _
  | retentionStarted image _ | retentionWaiting image _ | retentionCancelled image
  | deletionRequested image | deletionBlocked image _ | locationDeleteFailed image _ _
  | removed image => image

/-- The phases that an image entered, in order. -/
def transitions (image : String) (events : List Event) : List Phase :=
  events.filterMap fun
    | stateChanged name _ target => if name = image then some target else none
    | _ => none

end Event

end ImageCatalog
