import RomanCalc.CommandLine.Result
import RomanCalc.Journal.Notes
import RomanCalc.Keypad.Replay
import RomanCalc.Ledger
import RomanCalc.Text.Lines

/-!
# Sessions

A session answers lines: commands, and expressions whose values it records. Each line has one
reply, which depends on the ledger alone; a session is the row of its replies, each after a
prompt.
-/

namespace RomanCalc.CommandLine

/-- Evaluates a line: its Roman runs become numbers first, and blanks do not matter. -/
def evaluateLine (settings : Settings) (line : List Char) (strategy : Option (List Char)) :
    List Char × Except Failure Evaluation :=
  let resolved := Keypad.resolve (Text.removeBlanks line)
  (resolved, evaluate settings (.text resolved) strategy)

/-- The entry of an evaluated text: its two operands where it is one operation, and the text
itself where it is not. -/
def entryOf (limit : Int) (resolved : List Char) (value : Float) : Entry :=
  match Expression.split? limit (.text resolved) with
  | some parts => .ofBinary parts value
  | none => .ofOperands (.text resolved) none .absent (.real value)

/-- What a session is set up with. -/
structure Session where
  settings : Settings
  encoding : Encoding
  format : Format
  strategy : Option (List Char)

/-- The first line of a session. -/
def greeting : List Char :=
  "Romanum - type 'help' for commands, 'quit' to exit.".toList

/-- What a session writes before it reads a line. -/
def prompt : List Char := ">>> ".toList

/-- The lines that explain the calculator. -/
def helpLines : List String :=
  ["Romanum - Roman numeral calculator",
    "",
    "Type an expression mixing Arabic digits, Roman letters (I V X L C D M)",
    "and operators (+ - * / ^), then press Enter. Examples:",
    "  XIV+XII          -> XXVI",
    "  9XIV3            -> 9143 (Roman runs are read inside numbers)",
    "  X/III            -> III∷ (fractions in twelfths)",
    "",
    "Commands:",
    "  keys <chars>     replay characters one keystroke at a time",
    "  history          show calculations of this session",
    "  clear            clear the history",
    "  help             show this help",
    "  quit, exit       leave"]

/-- The explanation, which is printed as a whole. -/
def helpText : List Char :=
  ['\n'].intercalate (helpLines.map String.toList)

/-- What a line asks for. -/
inductive Request
  | nothing
  | leave
  | help
  | history
  | clear
  | keys (text : List Char)
  | expression (line : List Char)

/-- What a line asks for: a command is its first word, in any case, and anything else is an
expression. -/
def Request.ofLine (raw : List Char) : Request :=
  let line := Text.trim raw
  let word := line.takeWhile (· ≠ ' ')
  if line.isEmpty then nothing
  else match String.ofList (Text.lower word) with
    | "quit" | "exit" => leave
    | "help" => help
    | "history" => history
    | "clear" => clear
    | "keys" => keys (line.drop (word.length + 1))
    | _ => expression line

/-- The reply to a line. -/
structure Reply where
  printout : Printout
  notes : List Journal.Note
  ledger : Ledger
  leaves : Bool

namespace Session

/-- The reply that only prints. -/
def printing (ledger : Ledger) (printout : Printout) : Reply :=
  ⟨printout, [], ledger, false⟩

/-- The reply to an expression. A value that can be written is recorded. -/
def answer (session : Session) (ledger : Ledger) (line : List Char) : Reply :=
  let limit := session.settings.maxInputLength
  match evaluateLine session.settings line session.strategy with
  | (_, .error failure) =>
    ⟨session.encoding.printLine ("Error: ".toList ++ failure.message.toList),
      [⟨.error, .cli, "Unexpected error in REPL".toList⟩], ledger, false⟩
  | (resolved, .ok evaluation) =>
    let notes := Journal.ofEvaluation session.settings (.text resolved) session.strategy
    let printout := printEvaluation session.encoding session.format evaluation
    match evaluation.outcome with
    | .written value _ _ =>
      ⟨printout, notes ++ Journal.ofSplit limit (.text resolved),
        ledger.record (entryOf limit resolved value), false⟩
    | _ => ⟨printout, notes, ledger, false⟩

/-- The printout of a ledger. -/
def printLedger (encoding : Encoding) (ledger : Ledger) : Printout :=
  match ledger.lines with
  | .ok lines => encoding.printLines lines
  | .error failure => .failed failure

/-- The reply to a line. -/
def reply (session : Session) (ledger : Ledger) (raw : List Char) : Reply :=
  match Request.ofLine raw with
  | .nothing => printing ledger .nothing
  | .leave => ⟨.nothing, [], ledger, true⟩
  | .help => printing ledger (session.encoding.printLine helpText)
  | .history => printing ledger (printLedger session.encoding ledger)
  | .clear => printing ledger.clear .nothing
  | .keys text => printing ledger (session.encoding.printLines (Keypad.replay text))
  | .expression line => session.answer ledger line

end Session

/-- What a program has written, noted, and how it ended. -/
structure Transcript where
  printout : Printout
  notes : List Journal.Note

namespace Transcript

/-- A transcript after something was printed. -/
def after (rest : Transcript) (printout : Printout) : Transcript :=
  ⟨printout.andThen rest.printout, rest.notes⟩

/-- The transcript of a program that only prints. -/
def ofPrintout (printout : Printout) : Transcript :=
  ⟨printout, []⟩

end Transcript

/-- Whether nothing is read after a reply: a command has left the session, or a failure has. -/
def Reply.ends (reply : Reply) : Bool :=
  reply.leaves || reply.printout.stopped.isSome

/-- The replies to lines, each with the ledger that the one before has left, until one of them
ends the session. -/
def Session.replies (session : Session) (ledger : Ledger) : List (List Char) → List Reply
  | [] => []
  | line :: lines =>
    let reply := session.reply ledger line
    if reply.ends then [reply] else reply :: session.replies reply.ledger lines

/-- What a session writes after its replies: it asks once more and meets the end of the lines,
unless a reply has ended it. -/
def Session.farewell (session : Session) (replies : List Reply) : Printout :=
  if replies.any Reply.ends then .nothing
  else (session.encoding.write prompt).andThen (session.encoding.write ['\n'])

/-- A session after its first line: each reply stands behind a prompt. -/
def Session.converse (session : Session) (ledger : Ledger) (lines : List (List Char)) :
    Transcript :=
  let replies := session.replies ledger lines
  let answers := replies.map fun reply =>
    (session.encoding.write prompt).andThen reply.printout
  ⟨(Printout.all answers).andThen (session.farewell replies), replies.flatMap Reply.notes⟩

/-- A session from its first line on, with a ledger of a limit and a text that is typed. -/
def Session.run (session : Session) (limit : Int) (typed : List Char) : Transcript :=
  match Ledger.empty limit with
  | .error error => .ofPrintout (.failed (.badLimit error))
  | .ok ledger =>
    (session.converse ledger (Text.lines typed)).after (session.encoding.printLine greeting)

end RomanCalc.CommandLine
