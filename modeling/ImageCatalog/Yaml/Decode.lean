import ImageCatalog.Dictionary
import ImageCatalog.Yaml.Meaning

/-!
# Decoding nodes

Where a text is expected, every scalar counts as the text that is written, whatever it stands for.
A scalar without anything counts as a collection without anything. Tags on collections say nothing.

## Main definitions

* `Node.text?`, `Node.items?`, `Node.entries?` — nodes of the common shapes.
* `Node.fields?` — the values of the fields of a structure, each if it is there.
-/

namespace ImageCatalog.Yaml

/-- Whether a scalar is written as nothing at all. -/
def Scalar.isBlank (s : Scalar) : Bool :=
  s.isPlain && s.text.isEmpty

namespace Node

/-- A scalar as it is written. -/
def text? : Node → Option String
  | .scalar s => some s.text
  | _ => none

/-- What a scalar stands for. -/
def meaning? : Node → Option Meaning
  | .scalar s => s.meaning?
  | _ => none

/-- The items of a sequence. -/
def items? : Node → Option (List Node)
  | .sequence _ items => some items
  | .scalar s => if s.isBlank then some [] else none
  | _ => none

/-- The entries of a mapping, with the texts of their keys. -/
def entries? : Node → Option (List (String × Node))
  | .mapping _ entries => entries.mapM fun e => e.1.text?.map (·, e.2)
  | .scalar s => if s.isBlank then some [] else none
  | _ => none

/-- The values of the fields `names`, in this order. A structure has no other fields, and none of
them twice. -/
def fields? (names : List String) (n : Node) : Option (List (Option Node)) := do
  let entries ← n.entries?
  let keys := entries.map Prod.fst
  if keys.all names.contains && keys.Nodup then return names.map fun name => entries.lookup name
  else none

/-- A field that may be left out, with its value then. -/
def orElse {α : Type} (decode : Node → Option α) (default : α) : Option Node → Option α
  | none => some default
  | some n => decode n

/-- A text in a place where it is optional. -/
def optionalText? : Node → Option (Option String)
  | .scalar s => s.isNull?.map fun isNull => if isNull then none else some s.text
  | _ => none

/-- One of some words: as a scalar, or as a private tag on nothing. -/
def word? : Node → Option String
  | .scalar s =>
    match Scalar.privateTag? s.tag with
    | some word =>
      if s.isPlain && (s.text.isEmpty || Meaning.isNullWord s.text) then some word else none
    | none => some s.text
  | _ => none

end Node

end ImageCatalog.Yaml
