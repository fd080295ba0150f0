import ImageCatalog.Failure
import ImageCatalog.LogLine
import ImageCatalog.Record

/-!
# Programs

The operations of the library as data. A program is finished, has failed, or asks its surroundings
for something and goes on with the answer. What a store holds, what a provider does, what time it
is and whether someone interrupts the work are all answers, so a statement about a program for all
answers covers every store, every fault and every interleaving.

## Main definitions

* `Request`, `Request.Answer` — what a program may ask, and what it is told.
* `Program` — the programs, with `Program.bind` for one after the other.
* `Program.run` — a program among surroundings that answer in a monad.

## Implementation notes

Programs are finite trees: every loop of the library runs over a list or has a bounded number of
attempts. So plain induction reaches all of them.
-/

namespace ImageCatalog

/-- How a call with a time limit ended. -/
inductive Attempt (α : Type) where
  | finished (result : Except Failure α)
  | timedOut
  | interrupted

/-- A call about one image at one location of a provider. -/
structure CatalogCall where
  /-- The name of the record that is worked on. The provider is not told. -/
  record : String
  /-- The tag under which the provider is registered. -/
  provider : String
  location : String
  image : String
  /-- How long the call may take. -/
  limit : Duration
deriving DecidableEq

/-- What a program may ask of its surroundings. -/
inductive Request where
  | readRecord (name : String)
  | createRecord (record : Record)
  /-- Replaces a record whose stored version is that of the given one. -/
  | replaceRecord (record : Record)
  /-- Removes a record, given a version only if that is the stored one. -/
  | removeRecord (name : String) (version : Option UInt64)
  | listRecords
  | now
  | emit (event : Event)
  | log (line : LogLine)
  /-- Whether the artifact at an address is reachable. -/
  | probe (url : String)
  /-- Whether an image is in a catalog. -/
  | lookUp (call : CatalogCall)
  /-- Imports an image into a catalog. -/
  | upload (call : CatalogCall) (url : String)
  /-- Takes an image out of a catalog. -/
  | withdraw (call : CatalogCall)
  /-- Whether the work was interrupted. -/
  | isInterrupted

/-- What a program is told on a request. -/
def Request.Answer : Request → Type
  | readRecord _ => Except Failure (Option Record)
  | createRecord _ => Except Failure Record
  | replaceRecord _ => Except Failure Record
  | removeRecord _ _ => Except Failure Bool
  | listRecords => Except Failure (List Record)
  | now => Instant
  | emit _ => Unit
  | log _ => Unit
  | probe _ => Except Failure Bool
  | lookUp _ => Attempt Bool
  | upload _ _ => Attempt Unit
  | withdraw _ => Attempt Unit
  | isInterrupted => Bool

/-- A program with results in `α`. -/
inductive Program (α : Type) where
  | done (value : α)
  | fail (reason : Failure)
  | ask (request : Request) (next : request.Answer → Program α)

namespace Program

variable {α β γ : Type}

/-- The program `p`, and on its result the program `f`. -/
def bind : Program α → (α → Program β) → Program β
  | done a, f => f a
  | fail e, _ => fail e
  | ask r k, f => ask r fun x => (k x).bind f

instance : Monad Program where
  pure := done
  bind := bind

@[simp] theorem pure_eq (a : α) : (pure a : Program α) = done a := rfl

@[simp] theorem done_bind (a : α) (f : α → Program β) : (done a >>= f) = f a := rfl

@[simp] theorem fail_bind (e : Failure) (f : α → Program β) : (fail e >>= f) = fail e := rfl

@[simp] theorem ask_bind (r : Request) (k : r.Answer → Program α) (f : α → Program β) :
    (ask r k >>= f) = ask r fun x => k x >>= f := rfl

theorem bind_done (p : Program α) : p >>= done = p := by
  induction p with
  | done => rfl
  | fail => rfl
  | ask r k ih => simp [ih]

theorem bind_assoc (p : Program α) (f : α → Program β) (g : β → Program γ) :
    p >>= f >>= g = p >>= fun a => f a >>= g := by
  induction p with
  | done => rfl
  | fail => rfl
  | ask r k ih => simp [ih]

/-- A result, or the reason why there is none, as the end of a program. -/
def ofExcept : Except Failure α → Program α
  | .ok a => done a
  | .error e => fail e

/-- Asks and goes on with the answer, whatever it is. -/
def request (r : Request) : Program r.Answer :=
  ask r done

/-- The program `p`, with its failure as a result. -/
def attempt : Program α → Program (Except Failure α)
  | done a => done (.ok a)
  | fail e => done (.error e)
  | ask r k => ask r fun x => (k x).attempt

/-- A program among surroundings that answer in a monad. -/
def run {m : Type → Type} [Monad m] (answer : (r : Request) → m r.Answer) :
    Program α → m (Except Failure α)
  | done a => pure (.ok a)
  | fail e => pure (.error e)
  | ask r k => answer r >>= fun x => (k x).run answer

/-! ### Single requests -/

def readRecord (name : String) : Program (Option Record) :=
  ask (.readRecord name) ofExcept

/-- The outcome of a creation, which the caller judges. -/
def tryCreateRecord (record : Record) : Program (Except Failure Record) :=
  request (.createRecord record)

/-- The outcome of a replacement, which the caller judges. -/
def tryReplaceRecord (record : Record) : Program (Except Failure Record) :=
  request (.replaceRecord record)

def removeRecord (name : String) (version : Option UInt64) : Program Bool :=
  ask (.removeRecord name version) ofExcept

def listRecords : Program (List Record) :=
  ask .listRecords ofExcept

def now : Program Instant :=
  request .now

def emit (event : Event) : Program Unit :=
  ask (.emit event) fun _ => done ()

def emitIf (b : Bool) (event : Event) : Program Unit :=
  if b then emit event else done ()

def log (line : LogLine) : Program Unit :=
  ask (.log line) fun _ => done ()

def isInterrupted : Program Bool :=
  request .isInterrupted

/-- The outcome of a call under its name and limit. -/
def settle (operation : String) (limit : Duration) : Attempt α → Except Failure α
  | .finished result => result
  | .timedOut => .error (.timeout operation limit)
  | .interrupted => .error (.cancelled operation)

end Program

end ImageCatalog
