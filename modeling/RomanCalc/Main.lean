import RomanCalc.CommandLine.Program

/-!
# Running the program

Reads the arguments, the environment and the typed lines, and writes what is printed and noted.
-/

namespace RomanCalc.CommandLine

/-- The settings of the environment, where each name starts with the name of the program. -/
def readSettings : IO (Except Number.IntegerError Settings) := do
  let found ← Settings.names.filterMapM fun name => do
    let value ← IO.getEnv ("ROMANUM_" ++ name)
    return value.map fun text => (name, text.toList)
  return Settings.ofEnvironment fun name => found.lookup name

/-- Where notes go besides the error output, and the least level of those that go anywhere. -/
structure Logbook where
  level : Journal.Level
  file : Option IO.FS.Handle

/-- The logbook under the options. A file is opened even if nothing will be noted. -/
def Logbook.start (level : Journal.Level) (path : Option (List Char)) : IO Logbook := do
  match path with
  | none | some [] => return ⟨level, none⟩
  | some name => return ⟨level, some (← IO.FS.Handle.mk (String.ofList name) .append)⟩

/-- Writes notes, and then a printout. The answer is whether a failure ended the printout. -/
def Logbook.write (book : Logbook) (notes : List Journal.Note) (printout : Printout) :
    IO Bool := do
  for line in Journal.lines book.level notes do
    IO.eprintln line
    if let some file := book.file then file.putStrLn line
  let output ← IO.getStdout
  output.putStr (String.ofList printout.written)
  output.flush
  match printout.stopped with
  | some failure =>
    IO.eprintln failure.message
    return true
  | none => return false

/-- Holds a session with whoever types, and answers with the exit code. -/
partial def converse (session : Session) (book : Logbook) (ledger : Ledger) : IO UInt32 := do
  let _ ← book.write [] (session.encoding.write prompt)
  let line ← (← IO.getStdin).getLine
  if line.isEmpty then
    let _ ← book.write [] (session.encoding.write ['\n'])
    return 0
  let reply := session.reply ledger line.toList
  if ← book.write reply.notes reply.printout then return 1
  if reply.leaves then return 0
  converse session book reply.ledger

/-- Runs a task, and answers with the exit code. -/
def perform (session : Session) (book : Logbook) (task : Task) : IO UInt32 := do
  match task, Ledger.empty session.settings.historyLimit with
  | .converse, .ok ledger =>
    let _ ← book.write [] (session.encoding.printLine greeting)
    converse session book ledger
  | _, _ =>
    let (transcript, exitCode) := task.run session []
    let failed ← book.write transcript.notes transcript.printout
    return if failed then 1 else exitCode.toUInt32

end RomanCalc.CommandLine

open RomanCalc RomanCalc.CommandLine in
/-- Runs the program with arguments. -/
def main (arguments : List String) : IO UInt32 := do
  match ← readSettings with
  | .error error =>
    IO.eprintln (Failure.badInteger error).message
    return 1
  | .ok settings =>
    match Options.ofArguments (arguments.map String.toList) with
    | .error stop =>
      let stopped := stop.run .universal
      let book ← Logbook.start stopped.level none
      let _ ← book.write [] stopped.transcript.printout
      return stopped.exitCode.toUInt32
    | .ok options =>
      let book ← Logbook.start (options.level settings) options.logFile
      perform (options.session settings .universal) book options.task
