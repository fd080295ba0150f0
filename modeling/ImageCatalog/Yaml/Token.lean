/-!
# Tokens

A YAML text as a list of tokens. Layout is made explicit: block collections have tokens where they
start and end, and keys are marked also where no sign stands in front of them.
-/

namespace ImageCatalog.Yaml

/-- A token of a YAML text. -/
inductive Token where
  | version (major minor : Nat)
  /-- A handle that stands for the start of tags. -/
  | tagHandle (handle full : String)
  | documentStart
  | documentEnd
  | blockSequenceStart
  | blockMappingStart
  | blockEnd
  | flowSequenceStart
  | flowSequenceEnd
  | flowMappingStart
  | flowMappingEnd
  | blockEntry
  | flowEntry
  | key
  | value
  | alias (name : String)
  | anchor (name : String)
  | tag (handle suffix : String)
  | scalar (text : String) (isPlain : Bool)
deriving DecidableEq, Repr

end ImageCatalog.Yaml
