import ImageCatalog.Duration.Parser
import ImageCatalog.Failure
import ImageCatalog.Pass

/-!
# Invocations

The arguments of the program: a command with its operands, and options for all commands. The
options may stand anywhere, in front of the command or behind it, and operands that a command does
not need are passed over.

## Main definitions

* `Invocation.parse` — the invocation of some arguments, or what is wrong with them.
-/

namespace ImageCatalog.Cli

/-- What is to be done. -/
inductive Command where
  | add (consumer image provider : String)
  | remove (consumer image : String)
  | reconcile (image : String)
  | delete (image : String)
  | list
  /-- Passes over all records, again and again. -/
  | run (interval : Duration)
  | version
  | help
deriving DecidableEq, Repr

/-- A command with the options for all commands. -/
structure Invocation where
  /-- The file with the configuration, if it is not the usual one. -/
  configFile : Option String
  /-- Whether the log is written as JSON. -/
  jsonLogs : Bool
  command : Command
deriving DecidableEq, Repr

namespace Invocation

/-- What is wrong with arguments. -/
inductive Fault where
  | noConfigFile
  /-- A command lacks some of its operands. -/
  | noOperands (command operands : String)
  | noInterval
  | badInterval (text : String) (fault : Duration.Fault)
  | zeroInterval
  | unknownCommand (name : String)
deriving DecidableEq, Repr

def Fault.message : Fault → String
  | noConfigFile => "--config requires a path"
  | noOperands command operands => command ++ " requires " ++ operands
  | noInterval => "--interval requires a duration"
  | badInterval text fault => (fault.toFailure text).message
  | zeroInterval => "--interval must be positive"
  | unknownCommand name => "unknown command: " ++ name

/-- Takes the options for all commands out of the arguments. Of several files the last counts. -/
def options : List String → Except Fault (Option String × Bool × List String)
  | [] => .ok (none, false, [])
  | arg :: rest =>
    if arg == "--config" || arg == "-c" then
      match rest with
      | [] => .error .noConfigFile
      | path :: rest => do
        let (file, json, others) ← options rest
        return (file.or (some path), json, others)
    else do
      let (file, json, others) ← options rest
      if arg == "--json-logs" then return (file, true, others)
      else return (file, json, arg :: others)

/-- The interval among the operands of `run`. Of several intervals the last counts, but each has to
be a duration. -/
def interval (usual : Duration) : List String → Except Fault Duration
  | [] => .ok usual
  | arg :: rest =>
    if arg == "--interval" || arg == "-i" then
      match rest with
      | [] => .error .noInterval
      | text :: rest =>
        match Duration.parse text with
        | .ok d => interval d rest
        | .error fault => .error (.badInterval text fault)
    else interval usual rest

/-- The command of a name and operands. -/
def commandOf (name : String) (operands : List String) : Except Fault Command :=
  match name, operands with
  | "add", consumer :: image :: provider :: _ => .ok (.add consumer image provider)
  | "add", _ => .error (.noOperands name "<consumer> <image> <provider>")
  | "remove", consumer :: image :: _ => .ok (.remove consumer image)
  | "remove", _ => .error (.noOperands name "<consumer> <image>")
  | "reconcile", image :: _ => .ok (.reconcile image)
  | "reconcile", _ => .error (.noOperands name "<image>")
  | "delete", image :: _ => .ok (.delete image)
  | "delete", _ => .error (.noOperands name "<image>")
  | "list", _ => .ok .list
  | "run", operands =>
    match interval Pass.requeueInterval operands with
    | .error fault => .error fault
    | .ok d => if d.isZero then .error .zeroInterval else .ok (.run d)
  | "version", _ | "--version", _ | "-v", _ => .ok .version
  | "help", _ | "--help", _ | "-h", _ => .ok .help
  | name, _ => .error (.unknownCommand name)

/-- The invocation of some arguments. Without a command it asks for help. -/
def parse (args : List String) : Except Fault Invocation := do
  let (file, json, others) ← options args
  match others with
  | [] => return ⟨file, json, .help⟩
  | name :: operands => return ⟨file, json, ← commandOf name operands⟩

end Invocation

end ImageCatalog.Cli
