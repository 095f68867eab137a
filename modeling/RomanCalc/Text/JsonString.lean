import RomanCalc.Text.Quoted

/-!
# Strings of JSON

Text as a JSON document writes it: between double quotes, with the double quote, the backslash
and the control characters escaped and every other character as it is.
-/

namespace RomanCalc.Text

/-- A character inside a JSON string. -/
def jsonChar (c : Char) : List Char :=
  if c = '"' ∨ c = '\\' then ['\\', c]
  else if c = '\n' then ['\\', 'n']
  else if c = '\r' then ['\\', 'r']
  else if c = '\t' then ['\\', 't']
  else if c.toNat = 0x08 then ['\\', 'b']
  else if c.toNat = 0x0C then ['\\', 'f']
  else if c.toNat < 0x20 then '\\' :: 'u' :: hexDigits 4 c.toNat
  else [c]

/-- Text as a JSON string. -/
def jsonString (text : List Char) : List Char :=
  '"' :: text.flatMap jsonChar ++ ['"']

end RomanCalc.Text
