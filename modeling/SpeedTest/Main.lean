import Std.Time
import Std.Async.Signal
import SpeedTest.CommandLine.Answer
import SpeedTest.CommandLine.Plan
import SpeedTest.Log.Place
import SpeedTest.Live.Server
import SpeedTest.Server.Host

/-! The program: it reads its command line, its environment and its configuration file, and serves
until it is interrupted. -/

namespace SpeedTest

open Std.Async

/-- The time of day, to the microsecond. -/
def timeStamp : IO String := do
  let now ← Std.Time.Timestamp.now
  let wall := Std.Time.PlainDateTime.ofWallTime (.ofTimestamp now .zero)
  return wall.format "uuuu-MM-dd'T'HH:mm:ss.SSSSSS" ++ "Z"

/-- The directories that names lead through. -/
def Log.Path.text (p : Log.Path) : String :=
  (if p.isAbsolute then "/" else "") ++ "/".intercalate p.names

/-- Make the directory at the end of names, which stand last first, and those around it if they are
missing. -/
def makeDirectory (isAbsolute : Bool) : List String → IO Unit
  | [] => return
  | name :: around => do
    let path := Log.Path.text ⟨isAbsolute, (name :: around).reverse⟩
    try IO.FS.createDir path
    catch
      | .alreadyExists _ _ _ => IO.FS.createDirAll path
      | .noFileOrDirectory _ _ _ =>
        makeDirectory isAbsolute around
        IO.FS.createDirAll path
      | e => throw e

/-- Open the log file of a setting. Its name is completed by the date. -/
def openLog (setting : String) : IO IO.FS.Handle := do
  let home := Log.Path.ofText (((← IO.getEnv "HOME").filter (! ·.isEmpty)).getD "/")
  let place := Log.Place.ofSetting home setting
  makeDirectory place.directory.isAbsolute place.directory.names.reverse
  let directory := if place.directory.text.isEmpty then "." else place.directory.text
  let date := (← timeStamp).takeWhile (· != 'T')
  IO.FS.Handle.mk (directory ++ "/" ++ place.name ++ "." ++ date.toString) .append

/-- Write the entries that a filter keeps to the console and to a file. -/
def journal (filter : Log.Filter) (file : Option IO.FS.Handle) (e : Log.Entry) : IO Unit := do
  if filter.keeps e then
    let level := String.ofList (List.replicate (5 - e.level.name.length) ' ') ++ e.level.name
    let line := (← timeStamp) ++ " " ++ level ++ " " ++ e.text ++ "\n"
    let stdout ← IO.getStdout
    stdout.putStr line
    stdout.flush
    if let some h := file then
      h.putStr line
      h.flush

/-- Give the shutdown signal when the program is interrupted. -/
def awaitInterrupt (m : Live.Machine) : IO Unit := do
  let waiter ← Signal.Waiter.mk .sigint false
  discard <| (← waiter.wait).block
  m.note Server.interruptEntry
  m.stop.cancel

/-- The configuration file, if there is one. -/
def configuration : IO (Option Bytes) := do
  let directory := FileSettings.directory (← IO.getEnv "XDG_CONFIG_HOME") (← IO.getEnv "HOME")
  return (← Live.readFile (directory ++ "/" ++ FileSettings.fileName)).toOption

/-- Set up the log: how to make an entry, or the failure that ends the program. -/
def openJournal (j : Except Failure CommandLine.Journal) :
    IO (Except Failure (Log.Entry → IO Unit)) := do
  match j with
  | .error e => return .error e
  | .ok j =>
    try
      return .ok (journal j.filter (← j.file.mapM openLog))
    catch e => return .error (.ofIo (Live.ioError e))

/-- Carry a plan out: the failure that ends it, if one does. -/
def serve (note : Log.Entry → IO Unit) (p : CommandLine.Plan) : IO (Except Failure Unit) := do
  let m ← Live.Machine.start note
  discard <| IO.asTask (awaitInterrupt m) Task.Priority.dedicated
  m.run p.listen p.config

/-- The values of the environment for all settings. -/
def environment : IO CommandLine.Environment := do
  let names := CommandLine.Setting.all.filterMap CommandLine.Setting.environmentName?
  let values ← names.mapM fun n => return (n, ← IO.getEnv n)
  return fun n => (values.lookup n).join

/-- Serve with the settings that were given. -/
def start (o : CommandLine.Options) : IO UInt32 := do
  let f := FileSettings.load (← configuration)
  let rules := (← IO.getEnv CommandLine.rulesName).getD ""
  for complaint in Log.Filter.complaints rules do IO.eprintln complaint
  let s := CommandLine.startup rules o f
  match ← openJournal s.journal with
  | .error e => refuse e
  | .ok note =>
    match s.plan with
    | .error (.failure e) => refuse e
    | .error (.broken text) =>
      IO.eprintln ("overflow in test_duration " ++ text)
      return 101
    | .ok p =>
      match ← serve note p with
      | .ok () => return 0
      | .error e => refuse e
where
  refuse (e : Failure) : IO UInt32 := do
    IO.eprint (CommandLine.report e)
    return 1

end SpeedTest

/-- Do what the command line says. -/
def main (args : List String) : IO UInt32 := do
  match SpeedTest.CommandLine.read (← SpeedTest.environment) args with
  | .ok o => SpeedTest.start o
  | .error (.help page) =>
    IO.print page.text
    return 0
  | .error .version =>
    IO.println SpeedTest.CommandLine.versionLine
    return 0
  | .error (.refused why) =>
    IO.eprintln why.message
    return 2
  | .error (.broken s value) =>
    IO.eprintln ("overflow in " ++ s.label ++ " " ++ value)
    return 101
