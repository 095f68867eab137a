import RomanCalc.CommandLine.Options
import RomanCalc.CommandLine.Session

/-!
# The program

A run of the program: it shows its version, replays keys, evaluates one expression, or holds a
session, whichever comes first among what the arguments ask for.
-/

namespace RomanCalc.CommandLine

/-- The version of the program. -/
def version : List Char := "romanum 1.0.0".toList

/-- The lines that explain the arguments. -/
def usageLines : List String :=
  ["usage: romanum [-h] [-e EVAL_EXPR] [--keys KEYS] [--format \x7bjson,human\x7d]",
    "               [--evaluator \x7bbinary,precedence\x7d] [--max-length MAX_LENGTH]",
    "               [-v] [--log-level \x7bDEBUG,INFO,WARNING,ERROR\x7d]",
    "               [--log-file LOG_FILE]",
    "",
    "options:",
    "  -h, --help            show this help message and exit",
    "  -e EVAL_EXPR, --eval EVAL_EXPR",
    "                        Evaluate one expression and exit (non-interactive)",
    "  --keys KEYS           Replay characters one keystroke at a time and exit",
    "  --format \x7bjson,human\x7d",
    "                        Output format: json (machine-readable) or human",
    "                        (human-readable)",
    "  --evaluator \x7bbinary,precedence\x7d",
    "                        Evaluation strategy (default: precedence)",
    "  --max-length MAX_LENGTH",
    "                        Maximum expression length in characters",
    "  -v, --version         Show program version",
    "  --log-level \x7bDEBUG,INFO,WARNING,ERROR\x7d",
    "                        Set logging level",
    "  --log-file LOG_FILE   Write logs to file"]

/-- A run of the program that has ended. -/
structure Run where
  transcript : Transcript
  /-- The exit code of a run that no failure ended. -/
  exitCode : Nat
  /-- The level of the notes that are written. -/
  level : Journal.Level
  /-- The file that the notes are also written to. -/
  logFile : Option (List Char)

/-- What a run does once its arguments are understood. -/
inductive Task
  | version
  | keys (text : List Char)
  /-- Evaluates an expression, unless it is withheld. -/
  | evaluate (expression : Option (List Char))
  | converse

/-- What the options ask for first. -/
def Options.task (options : Options) : Task :=
  if options.version then .version
  else match options.keys, options.eval with
    | some text, _ => .keys text
    | none, some expression => .evaluate expression
    | none, none => .converse

/-- The settings under the options: a length above zero replaces the one that is set. -/
def Options.adjust (options : Options) (settings : Settings) : Settings :=
  match options.maxLength with
  | some n => if 0 < n then { settings with maxInputLength := n } else settings
  | none => settings

/-- The level of the notes under the options. -/
def Options.level (options : Options) (settings : Settings) : Journal.Level :=
  .choose settings options.logLevel

/-- The session under the options. -/
def Options.session (options : Options) (settings : Settings) (encoding : Encoding) : Session :=
  ⟨options.adjust settings, encoding, options.format, options.evaluator⟩

/-- Evaluates one expression and prints the result. -/
def evaluateOnce (session : Session) (expression : List Char) : Transcript × Nat :=
  match evaluateLine session.settings expression session.strategy with
  | (_, .error failure) => (.ofPrintout (.failed failure), 1)
  | (resolved, .ok evaluation) =>
    (⟨printEvaluation session.encoding session.format evaluation,
        Journal.ofEvaluation session.settings (.text resolved) session.strategy⟩,
      if evaluation.record.ok then 0 else 1)

/-- What a task writes and notes, and its exit code, where a text is typed if there is a
session. -/
def Task.run (session : Session) (typed : List Char) : Task → Transcript × Nat
  | .version => (.ofPrintout (session.encoding.printLine CommandLine.version), 0)
  | .keys text => (.ofPrintout (session.encoding.printLines (Keypad.replay text)), 0)
  | .evaluate none => (.ofPrintout (.failed .withheld), 1)
  | .evaluate (some expression) => evaluateOnce session expression
  | .converse => (session.run session.settings.historyLimit typed, 0)

/-- The run of a program whose arguments are not followed. -/
def Stop.run (encoding : Encoding) : Stop → Run
  | .usage => ⟨.ofPrintout .nothing, 2, .warning, none⟩
  | .help =>
    ⟨.ofPrintout (encoding.printLines (usageLines.map String.toList)), 0, .warning, none⟩

/-- A run of the program with arguments and a text that is typed. -/
def run (settings : Settings) (encoding : Encoding) (arguments : List (List Char))
    (typed : List Char) : Run :=
  match Options.ofArguments arguments with
  | .error stop => stop.run encoding
  | .ok options =>
    let (transcript, exitCode) :=
      options.task.run (options.session settings encoding) typed
    ⟨transcript, exitCode, options.level settings, options.logFile⟩

end RomanCalc.CommandLine
