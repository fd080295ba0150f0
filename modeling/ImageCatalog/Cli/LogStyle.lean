import ImageCatalog.Json.Writer
import ImageCatalog.LogLine
import ImageCatalog.Time.Writer

/-!
# Log styles

How lines of the log are written: for people, or as JSON objects.
-/

namespace ImageCatalog.Cli

/-- How lines of the log are written. -/
inductive LogStyle where
  | plain
  | json
deriving DecidableEq, Repr

namespace LogStyle

/-- A field of a line. -/
def fieldText (name : String) : LogValue → String
  | .text s => " " ++ name ++ "=" ++ (Json.text s).compact
  | v => " " ++ name ++ "=" ++ v.toText

/-- A line that was logged at some time. -/
def render (style : LogStyle) (time : Instant) (line : LogLine) : String :=
  match style with
  | plain =>
    time.zulu ++ " " ++ line.level.name ++ " " ++ line.message ++
      String.join (line.fields.map fun (name, v) => fieldText name v)
  | json =>
    let fields := line.fields.map fun (name, v) => Json.member name v.toJson
    let v := Json.object [
      Json.member "timestamp" (Json.text time.zulu),
      Json.member "level" (Json.text line.level.name),
      Json.member "fields" (.object (Json.member "message" (Json.text line.message) :: fields))]
    v.compact

end LogStyle

end ImageCatalog.Cli
