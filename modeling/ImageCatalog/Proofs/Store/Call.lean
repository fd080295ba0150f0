import ImageCatalog.Store

/-!
# Calls of a store

The operations of a store as data, so that one can speak of any sequence of them and of all that it
gives. There is one semantics only: a call does what the operation of its name does.

## Main definitions

* `Store.Call`, `Store.Answer` — what a store is asked, and what it gives
* `Store.calls` — calls one after another
-/

namespace ImageCatalog

namespace Store

/-- A call of a store. -/
inductive Call where
  | read (name : String)
  | create (r : Record)
  | replace (r : Record)
  | remove (name : String) (version : Option UInt64)
  | list

/-- What a call gives. -/
inductive Answer where
  | read (result : Except Failure (Option Record))
  | stored (result : Except Failure Record)
  | removed (result : Except Failure Bool)
  | listed (result : Except Failure (List Record))

/-- What a call gives, and the store after it. -/
def call (s : Store) : Call → Answer × Store
  | .read name => (s.read name).map .read id
  | .create r => (s.create r).map .stored id
  | .replace r => (s.replace r).map .stored id
  | .remove name version => (s.remove name version).map .removed id
  | .list => s.list.map .listed id

/-- What calls give one after another, and the store after them. -/
def calls (s : Store) : List Call → List Answer × Store
  | [] => ([], s)
  | c :: rest => ((s.call c).1 :: ((s.call c).2.calls rest).1, ((s.call c).2.calls rest).2)

end Store

end ImageCatalog
