import RomanCalc.CommandLine.Result
import RomanCalc.Number.Reader
import RomanCalc.Settings

/-!
# Options of the command line

Arguments are flags and values. A long flag may be shortened as long as no other flag starts the
same way and may carry its value behind an equals sign; short flags may stand in a cluster, the
last of them with its value attached. A value in the same argument as its flag is withheld by two
dashes alone.
-/

namespace RomanCalc.CommandLine

/-- The flags of the command line. -/
inductive Flag
  | help
  | eval
  | keys
  | format
  | evaluator
  | maxLength
  | version
  | logLevel
  | logFile
deriving DecidableEq

namespace Flag

/-- The flags with a letter. -/
def short : List (List Char × Flag) :=
  [("-h".toList, help), ("-e".toList, eval), ("-v".toList, version)]

/-- The flags with a word. -/
def long : List (List Char × Flag) :=
  [("--help".toList, help), ("--eval".toList, eval), ("--keys".toList, keys),
    ("--format".toList, format), ("--evaluator".toList, evaluator),
    ("--max-length".toList, maxLength), ("--version".toList, version),
    ("--log-level".toList, logLevel), ("--log-file".toList, logFile)]

/-- The flag with exactly a name. -/
def named? (name : List Char) : Option Flag :=
  (short ++ long).lookup name

/-- The flags with words that start in a way. -/
def startingWith (start : List Char) : List Flag :=
  (long.filter fun entry => start.isPrefixOf entry.1).map Prod.snd

/-- Whether a flag needs a value. -/
def takesValue : Flag → Bool
  | help | version => false
  | _ => true

end Flag

/-- An argument by itself. -/
inductive Word
  /-- Not a flag. -/
  | value (text : List Char)
  /-- A flag alone. -/
  | flag (flag : Flag)
  /-- A flag with a value behind an equals sign. -/
  | assigned (flag : Flag) (value : List Char)
  /-- A short flag with more characters behind it. -/
  | cluster (flag : Flag) (behind : List Char)
  /-- Something that looks like a flag and is none. -/
  | unknown

/-- Whether a text is a negative number, which is no flag. -/
def isNegativeNumber (text : List Char) : Bool :=
  match text with
  | '-' :: digits =>
    let body := if digits.getLast? = some '\n' then digits.dropLast else digits
    match body.dropWhile Text.isDecimalDigit with
    | [] => !body.isEmpty
    | c :: places => c = '.' && !places.isEmpty && places.all Text.isDecimalDigit
  | _ => false

/-- An argument that starts with a dash and is neither a flag nor a shortened one. A negative
number and a text with a space are values. -/
def Word.ofOther (text : List Char) : Word :=
  if isNegativeNumber text || text.contains ' ' then value text else unknown

/-- An argument with a word after two dashes, which may be shortened. There is none where several
flags start that way. -/
def Word.ofLong? (text name : List Char) (attached : Option (List Char)) : Option Word :=
  match Flag.startingWith name with
  | [] => some (ofOther text)
  | [f] => some (attached.elim (flag f) (assigned f))
  | _ => none

/-- A flag with its name and something behind an equals sign. Behind a short flag that needs no
value it is more of a cluster. -/
def Word.ofAssigned (flag : Flag) (name value : List Char) : Word :=
  if name.length = 2 ∧ flag.takesValue = false ∧ value ≠ [] then cluster flag value
  else assigned flag value

/-- An argument by itself, unless it is a shortened flag that several flags would fit. -/
def Word.ofArgument? (text : List Char) : Option Word :=
  let name := text.takeWhile (· ≠ '=')
  let attached := if text.contains '=' then some (text.drop (name.length + 1)) else none
  if text.head? ≠ some '-' then some (value text)
  else match Flag.named? text, Flag.named? name, attached with
    | some f, _, _ => some (flag f)
    | none, some f, some v => some (ofAssigned f name v)
    | none, _, _ =>
      if text.length = 1 then some (value text)
      else if "--".toList.isPrefixOf text then ofLong? text name attached
      else match Flag.named? (text.take 2) with
        | some f => some (cluster f (text.drop 2))
        | none => some (ofOther text)

/-- The arguments by themselves. Behind two dashes alone, which no flag accepts, everything is a
value. -/
def words? : List (List Char) → Option (List Word)
  | [] => some []
  | text :: rest =>
    if text = "--".toList then some (.unknown :: rest.map Word.value)
    else do
      let word ← Word.ofArgument? text
      let more ← words? rest
      pure (word :: more)

/-- What is asked for on the command line. -/
structure Options where
  /-- The expression to evaluate; one may be asked for and withheld. -/
  eval : Option (Option (List Char))
  keys : Option (List Char)
  format : Format
  evaluator : Option (List Char)
  maxLength : Option Int
  version : Bool
  logLevel : Option (List Char)
  logFile : Option (List Char)

/-- What is asked for where there are no arguments. -/
def Options.initial : Options :=
  ⟨none, none, .human, none, none, false, none, none⟩

/-- Why the arguments are not followed. -/
inductive Stop
  /-- They are no proper use of the program. -/
  | usage
  /-- They ask for help. -/
  | help
deriving DecidableEq

/-- One of the values that a flag allows. -/
def oneOf (allowed : List String) (value : List Char) : Except Stop (List Char) :=
  if allowed.any fun name => name.toList = value then .ok value else .error .usage

/-- The options after a flag without a value. -/
def Options.raise (options : Options) : Flag → Except Stop Options
  | .help => .error .help
  | .version => .ok { options with version := true }
  | _ => .error .usage

/-- The options after a flag with a value. -/
def Options.assign (options : Options) (flag : Flag) (value : List Char) :
    Except Stop Options :=
  match flag with
  | .eval => .ok { options with eval := some (some value) }
  | .keys => .ok { options with keys := some value }
  | .format => (oneOf ["json", "human"] value).map fun name =>
      { options with format := .ofName name }
  | .evaluator => (oneOf ["binary", "precedence"] value).map fun name =>
      { options with evaluator := some name }
  | .maxLength =>
    match Number.readInt value with
    | .ok n => .ok { options with maxLength := some n }
    | .error _ => .error .usage
  | .logLevel => (oneOf ["DEBUG", "INFO", "WARNING", "ERROR"] value).map fun name =>
      { options with logLevel := some name }
  | .logFile => .ok { options with logFile := some value }
  | .help | .version => .error .usage

/-- The options after a flag whose value is withheld: as if the flag had not been there, except
that keys and an expression are still asked for. -/
def Options.withhold (options : Options) : Flag → Except Stop Options
  | .eval => .ok { options with eval := some none }
  | .keys => .ok { options with keys := some [] }
  | .format => .ok { options with format := initial.format }
  | .evaluator => .ok { options with evaluator := initial.evaluator }
  | .maxLength => .ok { options with maxLength := initial.maxLength }
  | .logLevel => .ok { options with logLevel := initial.logLevel }
  | .logFile => .ok { options with logFile := initial.logFile }
  | .help | .version => .error .usage

/-- The options after a flag with a value in the same argument, where two dashes alone withhold
the value. -/
def Options.attach (options : Options) (flag : Flag) (value : List Char) : Except Stop Options :=
  if value = "--".toList then options.withhold flag else options.assign flag value

/-- What a cluster comes down to behind the flags that need no value. -/
inductive ClusterEnd
  /-- A flag alone, whose value may be the next argument. -/
  | alone (flag : Flag)
  /-- A flag with its value. -/
  | assigned (flag : Flag) (value : List Char)
deriving DecidableEq

/-- Takes a cluster apart: the flags that need no value and stand before its end, and the end. A
flag that needs a value takes all that is behind it. -/
def openCluster (flag : Flag) : List Char → Except Stop (List Flag × ClusterEnd)
  | [] => .ok ([], .alone flag)
  | c :: behind =>
    if flag.takesValue then .ok ([], .assigned flag (c :: behind))
    else match Flag.named? ['-', c] with
      | none => .error .usage
      | some next => (openCluster next behind).map fun (flags, tail) => (flag :: flags, tail)

/-- A flag that needs a value, and the flags of its cluster that count once the value is there. -/
structure Waiting where
  raised : List Flag
  flag : Flag

/-- Follows words one by one. A flag that waits for its value must get it from the next word. A
word that nothing asked for is a wrong use once all others have been followed. -/
def Options.follow (options : Options) (proper : Bool) (waiting : Option Waiting) :
    List Word → Except Stop Options
  | [] => if waiting.isNone && proper then .ok options else .error .usage
  | word :: rest =>
    match waiting, word with
    | some w, .value v => do
      let raised ← w.raised.foldlM Options.raise options
      let next ← raised.assign w.flag v
      next.follow proper none rest
    | some _, _ => .error .usage
    | none, .value _ => options.follow false none rest
    | none, .unknown => options.follow false none rest
    | none, .assigned flag value => do
      let next ← options.attach flag value
      next.follow proper none rest
    | none, .flag flag =>
      if flag.takesValue then options.follow proper (some ⟨[], flag⟩) rest
      else do
        let next ← options.raise flag
        next.follow proper none rest
    | none, .cluster flag behind => do
      let (flags, tail) ← openCluster flag behind
      match tail with
      | .alone last =>
        if last.takesValue then options.follow proper (some ⟨flags, last⟩) rest
        else
          let next ← (flags ++ [last]).foldlM Options.raise options
          next.follow proper none rest
      | .assigned last value =>
        let raised ← flags.foldlM Options.raise options
        let next ← raised.attach last value
        next.follow proper none rest

/-- The options of the arguments of the command line. -/
def Options.ofArguments (arguments : List (List Char)) : Except Stop Options :=
  match words? arguments with
  | some row => Options.initial.follow true none row
  | none => .error .usage

end RomanCalc.CommandLine
