import RomanCalc.Failure

/-!
# Printing

A terminal shows all characters, or the basic ones only. A printout is what a row of print
statements has written, and the failure that ended it, if one did: a text that the terminal
cannot show is not written at all, and nothing after it is.
-/

namespace RomanCalc.CommandLine

/-- What a terminal can show. -/
inductive Encoding
  /-- All characters. -/
  | universal
  /-- The basic characters only. -/
  | basic
deriving DecidableEq

/-- What print statements have written, and the failure that ended them. -/
structure Printout where
  written : List Char
  stopped : Option Failure

namespace Printout

/-- Nothing printed. -/
def nothing : Printout := ⟨[], none⟩

/-- A failure before anything is printed. -/
def failed (failure : Failure) : Printout := ⟨[], some failure⟩

/-- One printout after another, which is not reached when the first was ended. -/
def andThen (first second : Printout) : Printout :=
  match first.stopped with
  | some _ => first
  | none => ⟨first.written ++ second.written, second.stopped⟩

/-- Printouts one after another. -/
def all (printouts : List Printout) : Printout :=
  printouts.foldr andThen nothing

end Printout

namespace Encoding

/-- Writes a text on a terminal. -/
def write (encoding : Encoding) (text : List Char) : Printout :=
  match encoding with
  | universal => ⟨text, none⟩
  | basic =>
    match Text.firstUnencodable? text with
    | some run => .failed (.unencodable run)
    | none => ⟨text, none⟩

/-- Prints texts in a line, with a space between neighbours. -/
def printParts (encoding : Encoding) (parts : List (List Char)) : Printout :=
  Printout.all (((parts.intersperse [' ']) ++ [['\n']]).map encoding.write)

/-- Prints a line. -/
def printLine (encoding : Encoding) (line : List Char) : Printout :=
  encoding.printParts [line]

/-- Prints lines. -/
def printLines (encoding : Encoding) (lines : List (List Char)) : Printout :=
  Printout.all (lines.map encoding.printLine)

end Encoding

end RomanCalc.CommandLine
