import RomanCalc.Fault
import RomanCalc.Number.Binary64
import RomanCalc.Number.Reader
import RomanCalc.Text.Ascii

/-!
# Failures

Why a call has no answer. Most failures are faults of the calculation itself; the others come
from what surrounds it: settings, conversions between kinds of numbers, the terminal.
-/

namespace RomanCalc

/-- Why a limit cannot bound a history. -/
inductive LimitError
  | negative
  /-- The limit is beyond what can be counted. -/
  | tooLarge
deriving DecidableEq

/-- What is reported. -/
def LimitError.message : LimitError → String
  | negative => "maxlen must be non-negative"
  | tooLarge => "Python int too large to convert to C ssize_t"

/-- What stands where a number in brief has to be shown. -/
inductive NotNumber
  | nothing
  | text
  | list
deriving DecidableEq

/-- What is reported. -/
def NotNumber.message : NotNumber → String
  | nothing => "unsupported format string passed to NoneType.__format__"
  | text => "Unknown format code 'g' for object of type 'str'"
  | list => "unsupported format string passed to list.__format__"

/-- Why a call has no answer. -/
inductive Failure
  /-- The calculation has a fault. -/
  | fault (fault : Fault)
  /-- A table has no entry for a key. -/
  | unlisted (key : List Char)
  /-- No strategy of evaluation has the name. -/
  | unknownStrategy (name : List Char)
  /-- A whole number is beyond all doubles. -/
  | integerTooLarge
  /-- A double has no whole part. -/
  | notFinite (error : Number.NotFinite)
  /-- A text is no double. -/
  | unreadable (text : List Char)
  /-- Two doubles have no power. -/
  | power (error : Number.PowerError)
  /-- A text is no whole number. -/
  | badInteger (error : Number.IntegerError)
  /-- A history cannot have the limit. -/
  | badLimit (error : LimitError)
  /-- A number has to be shown in brief and is none. -/
  | notNumber (found : NotNumber)
  /-- An expression was asked for and withheld. -/
  | withheld
  /-- The terminal cannot show a text. -/
  | unencodable (run : Text.Unencodable)

/-- What is reported. -/
def Failure.message : Failure → String
  | fault f => f.message
  | unlisted key => Fault.quote key
  | unknownStrategy name =>
    "Unknown evaluator " ++ Fault.quote name ++ "; expected one of ['binary', 'precedence']"
  | integerTooLarge => "int too large to convert to float"
  | notFinite error => error.message
  | unreadable text => "could not convert string to float: " ++ Fault.quote text
  | power error => error.message
  | badInteger error => error.message
  | badLimit error => error.message
  | notNumber found => found.message
  | withheld => "expected string or bytes-like object, got 'list'"
  | unencodable run => run.message

end RomanCalc
