import ImageCatalog.Disk
import ImageCatalog.LogLine
import ImageCatalog.Source.Probe
import ImageCatalog.Time.Instant

/-!
# Hosts

What the command line needs of the machine it runs on, as a bundle of operations in some monad. The
same commands run on a real machine and on a `Desk`.
-/

namespace ImageCatalog.Cli

/-- The machine that commands run on. -/
structure Host (m : Type → Type) where
  disk : Disk m
  now : m Instant
  /-- Sends a request for the head of an address, and waits so long for the answer. -/
  head : String → Duration → m HeadResponse
  log : LogLine → m Unit
  /-- Writes a line of results. -/
  print : String → m Unit
  /-- Writes a line about an error. -/
  complain : String → m Unit
  /-- Waits for some time, or until someone interrupts the program. -/
  rest : Duration → m Unit
  /-- Whether someone has interrupted the program. -/
  isInterrupted : m Bool

end ImageCatalog.Cli
