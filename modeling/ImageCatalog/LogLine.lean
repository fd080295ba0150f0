import ImageCatalog.Event.Json

/-!
# Log lines

A line of the log has a level, a message and named fields. Every event has its line: those that an
operator waits for are on the levels `info` and `warn` in words of their own, the others on the
level `debug` as JSON.
-/

namespace ImageCatalog

/-- How much a line of the log matters. -/
inductive LogLevel where
  | debug
  | info
  | warn
deriving DecidableEq, Repr

namespace LogLevel

def name : LogLevel → String
  | debug => "DEBUG"
  | info => "INFO"
  | warn => "WARN"

end LogLevel

/-- The value of a field. -/
inductive LogValue where
  | text (s : String)
  | count (n : Nat)
deriving DecidableEq

namespace LogValue

/-- The value as a text, however it is shown. -/
def toText : LogValue → String
  | text s => s
  | count n => toString n

def toJson : LogValue → Json
  | text s => Json.text s
  | count n => Json.nat n

end LogValue

instance : Coe String LogValue := ⟨.text⟩

/-- A line of the log. -/
structure LogLine where
  level : LogLevel
  message : String
  /-- Names and values of further fields. -/
  fields : List (String × LogValue)
deriving DecidableEq

namespace LogLine

def info (message : String) (fields : List (String × LogValue)) : LogLine :=
  ⟨.info, message, fields⟩

def warn (message : String) (fields : List (String × LogValue)) : LogLine :=
  ⟨.warn, message, fields⟩

/-- Whether a line is shown unless someone asks for more. -/
def isShown (line : LogLine) : Bool :=
  line.level != .debug

/-- The line of an event. -/
def ofEvent : Event → LogLine
  | .stateChanged image source target =>
    .info "State changed" [("image", image), ("from", Phase.label source), ("to", target.name)]
  | .uploadStarted image location url =>
    .info "Uploading" [("image", image), ("location", location), ("url", url)]
  | .uploadCompleted image location =>
    .info "Upload completed" [("image", image), ("location", location)]
  | .sourceMissing image url =>
    .warn "Source artifact not reachable" [("image", image), ("url", url)]
  | .providerNotConfigured image provider =>
    .warn "Provider not configured" [("image", image), ("provider", provider)]
  | .locationDeleteFailed image location reason =>
    .warn "Delete failed" [("image", image), ("location", location), ("reason", reason)]
  | .deletionBlocked image consumers =>
    .warn "Deletion blocked by live references"
      [("image", image), ("releases", .count consumers)]
  | .retentionStarted image period =>
    .info "Retention started" [("image", image), ("period", period.render)]
  | .removed image => .info "Removed" [("image", image)]
  | event => ⟨.debug, event.toJson.compact, [("image", event.image)]⟩

end LogLine

end ImageCatalog
