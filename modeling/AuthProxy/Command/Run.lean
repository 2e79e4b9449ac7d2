import AuthProxy.Command.Process
import AuthProxy.Loading.Environment

/-!
# Running the program

A run is a function of the files, the environment and the arguments, and of the orders in which its loads go through tables. A
command line that asks for no command, or is misused, ends it at once.
-/

namespace AuthProxy.Command

/-- The name and version of the program. -/
def versionText : String :=
  "sso-proxy-config 0.1.0\n"

/-- How the program is used. -/
def helpText : String :=
  textOfLines
    ["Load and check SSO proxy configuration", "",
     "Usage: sso-proxy-config [OPTIONS] [COMMAND]", "",
     "Commands:",
     "  check  Load and validate the configuration (default)",
     "  print  Print the effective configuration as TOML, secrets redacted",
     "  help   Print this message", "",
     "Options:",
     "  -c, --config <FILE>  Configuration file path [env: SSO_PROXY_CONFIG_FILE]",
     "  -h, --help           Print help",
     "  -V, --version        Print version"]

/-- What is wrong with a command line, in words. -/
def Misuse.message : Misuse → String
  | invalidValue => "a value is required for '--config <FILE>' but none was supplied"
  | argumentConflict => "the argument '--config <FILE>' cannot be used multiple times"
  | unknownArgument => "unexpected argument found"
  | invalidSubcommand => "unrecognized subcommand"
  | tooManyValues => "unexpected value for a flag found"

/-- Run the program; its two loads go through tables each in an order of its own. -/
def run (fs : FileSystem) (env : Environment) (arguments : List (List Char)) (first : Walk := {}) (second : Walk := {}) : Report :=
  match Invocation.read arguments (env.value? Environment.fileVariable) with
  | .ok i =>
    (Process.execute fs i.effective (Loader.load fs env ⟨i.file⟩ first) (Loader.load fs env ⟨i.file⟩ second)).report
  | .error .help => ⟨0, helpText, ""⟩
  | .error .version => ⟨0, versionText, ""⟩
  | .error (.misuse m) => ⟨2, "", "error: " ++ m.message ++ "\n"⟩

end AuthProxy.Command
