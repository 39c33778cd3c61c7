import SpeedTest.CommandLine.Reading
import SpeedTest.Text.Control

/-! What the program says to a command line that does not serve: refusals, help and the version. -/

namespace SpeedTest.CommandLine

def programName : String := "ndt-legacy"

def version : String := "0.1.0"

/-- What the program is. -/
def programAbout : String := "NDT legacy protocol server"

/-- What the command `serve` does. -/
def serveAbout : String := "Serve legacy raw clients and WebSocket clients"

/-- What the command `help` does. -/
def helpAbout : String := "Print this message or the help of the given subcommand(s)"

/-- What a setting is for. -/
def Setting.about : Setting → String
  | legacyAddr => "Legacy port address, raw and sniffed WebSocket clients (e.g. \":3001\")"
  | httpAddr => "WebSocket server address; sniffed HTTP connections are forwarded here"
  | tlsAddr => "WSS server address (requires --cert and --key)"
  | cert => "TLS certificate (PEM)"
  | key => "TLS private key (PEM)"
  | testDuration => "Duration of each sub-test (e.g. \"10s\")"
  | prometheus => "Prometheus metrics port"
  | logFile => "Log file path (e.g., \"~/.config/ndt-legacy/ndt.log\")"
  | logLevel => "Log level (error, warn, info, debug, trace)"

/-- The lines of help on a setting. -/
def Setting.helpLines (s : Setting) : List String :=
  ["      " ++ s.label,
    "          " ++ s.about ++ (match s.environmentName? with
      | none => ""
      | some v => " [env: " ++ v ++ "=]")]

/-- The lines of a page of help. -/
def HelpPage.lines : HelpPage → List String
  | program =>
    [programAbout, "", "Usage: " ++ programName ++ " <COMMAND>", "", "Commands:",
      "  serve  " ++ serveAbout, "  help   " ++ helpAbout, "", "Options:",
      "  -h, --help     Print help", "  -V, --version  Print version"]
  | serve =>
    [serveAbout, "", "Usage: " ++ programName ++ " serve [OPTIONS]", "", "Options:"]
      ++ Setting.all.flatMap Setting.helpLines ++ ["  -h, --help", "          Print help"]
  | help => [helpAbout, "", "Usage: " ++ programName ++ " help [COMMAND]..."]

/-- A page of help. -/
def HelpPage.text (p : HelpPage) : String := String.join (p.lines.map (· ++ "\n"))

/-- The line that names the version. -/
def versionLine : String := programName ++ " " ++ version

def ValueFault.message : ValueFault → String
  | emptyPath => "value was empty"
  | duration fault => fault.message
  | integer fault => fault.message
  | noPort n => toString n ++ " is not in 0..=" ++ toString SocketAddress.maxPort
  | overflow => "overflow when adding durations"

/-- A word of the command line in quotes. What would steer a terminal is left out. -/
def mention (word : String) : String := "'" ++ Text.plain word ++ "'"

/-- A refusal. One without a command shows what commands there are. -/
def Refusal.message : Refusal → String
  | noCommand => HelpPage.program.text
  | unknownCommand word => "error: unrecognized subcommand " ++ mention word
  | unexpectedArgument word => "error: unexpected argument " ++ mention word ++ " found"
  | unexpectedValue value option =>
    "error: unexpected value " ++ mention value ++ " for '" ++ option
      ++ "' found; no more were expected"
  | missingValue s => "error: a value is required for '" ++ s.label ++ "' but none was supplied"
  | repeated s => "error: the argument '" ++ s.label ++ "' cannot be used multiple times"
  | invalidValue s value fault =>
    "error: invalid value " ++ mention value ++ " for '" ++ s.label ++ "': " ++ fault.message

end SpeedTest.CommandLine
