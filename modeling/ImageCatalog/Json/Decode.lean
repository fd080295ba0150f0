import ImageCatalog.Dictionary
import ImageCatalog.Json.Basic
import ImageCatalog.Text.Decimal

/-!
# Decoding JSON values

A structure is written as an object, or as the array of its fields in their order. Members of
other names are ignored; a field that stands twice is an error, as is an array that is too long.

## Main definitions

* `Json.fields?` — the values of the fields of a structure, each if it is there.
* `Json.word?`, `Json.strings?`, `Json.dictionary?` — values of the common shapes.
-/

namespace ImageCatalog.Json

/-- The members of an object with their keys, unless a key is ill formed. -/
def keyed? (members : List (Option String × Json)) : Option (List (String × Json)) :=
  members.mapM fun m => m.1.map (·, m.2)

/-- The values of the fields `names`, in this order: from an object by their names, from an array
by their places. -/
def fields? (names : List String) : Json → Option (List (Option Json))
  | .object members => do
    let entries ← keyed? members
    if names.any fun n => 1 < (entries.filter fun e => e.1 == n).length then none
    else return names.map fun n => entries.lookup n
  | .array items =>
    if names.length < items.length then none
    else some (items.map some ++ List.replicate (names.length - items.length) none)
  | _ => none

/-- A number from 0 to 2^64 - 1, written without sign, point and exponent. -/
def word? : Json → Option UInt64
  | .number literal =>
    if literal.all Text.isDigit && Text.value literal < UInt64.size then
      some (UInt64.ofNat (Text.value literal))
    else none
  | _ => none

/-- A list of strings. -/
def strings? (v : Json) : Option (List String) := do
  (← v.asArray?).mapM asString?

/-- An object whose members are strings. Of members with one key the last counts. -/
def dictionary? : Json → Option (Dictionary String)
  | .object members => do
    let entries ← keyed? members
    return .ofList (← entries.mapM fun e => e.2.asString?.map (e.1, ·))
  | _ => none

/-- A field that may be left out, with its value then. -/
def orElse {α : Type} (decode : Json → Option α) (default : α) : Option Json → Option α
  | none => some default
  | some v => decode v

/-- A value for which `null` stands for none. -/
def nullable {α : Type} (decode : Json → Option α) : Json → Option (Option α)
  | .null => some none
  | v => (decode v).map some

/-- An object of strings, as a value. -/
def ofDictionary (d : Dictionary String) : List (Option String × Json) :=
  d.entries.map fun e => member e.1 (text e.2)

end ImageCatalog.Json
