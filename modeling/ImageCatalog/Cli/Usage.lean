/-!
# Usage

The texts that the program prints about itself.
-/

namespace ImageCatalog.Cli

/-- The name and version of the program. -/
def versionText : String :=
  "image-distributor 0.1.0"

/-- The variable of the environment that chooses which lines of the log are shown. -/
def logVariable : String :=
  "RUST_LOG"

/-- The lines of the help text, with the usual file of the configuration. -/
def helpLines (configFile : String) : List String :=
  ["image-distributor - node image distribution",
    "",
    "USAGE:",
    "    image-distributor [--config <path>] [--json-logs] <command> [args...]",
    "",
    "COMMANDS:",
    "    add <consumer> <image> <provider>   Reference an image",
    "    remove <consumer> <image>           Drop a reference",
    "    reconcile <image>                   Run one reconciliation pass",
    "    delete <image>                      Remove an image from every location",
    "    list                                List node images",
    "    run [--interval <duration>]         Reconcile all images periodically",
    "    version                             Print version",
    "    help                                Print this help",
    "",
    "OPTIONS:",
    "    -c, --config <path>   Configuration file (default: " ++ configFile ++ ")",
    "        --json-logs       Emit logs as JSON",
    "",
    "ENVIRONMENT:",
    "    " ++ logVariable ++ "              Log filter (default: info)"]

end ImageCatalog.Cli
