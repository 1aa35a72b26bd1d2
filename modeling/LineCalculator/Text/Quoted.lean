import LineCalculator.Text.Printable

/-!
# Quoted text

Names of files and arguments are shown between quotes.  The quote is single,
or double if the text holds single quotes and no double ones.  The quote
itself and the backslash are escaped by a backslash; tab, line feed and
carriage return have short escapes, and every other character without a
visible form is written as its code point in two, four or eight hexadecimal
digits.
-/

namespace LineCalculator.Quoted

/-- The hexadecimal notation of a number, padded with zeros to a width. -/
def hexadecimal (width number : Nat) : List Char :=
  let digits := Nat.toDigits 16 number
  List.replicate (width - digits.length) '0' ++ digits

/-- The code point of a character that has no visible form. -/
def escapedCode (character : Char) : List Char :=
  let code := character.toNat
  if code ≤ 0xFF then
    '\\' :: 'x' :: hexadecimal 2 code
  else if code ≤ 0xFFFF then
    '\\' :: 'u' :: hexadecimal 4 code
  else
    '\\' :: 'U' :: hexadecimal 8 code

def escaped (quote character : Char) : List Char :=
  if character = quote ∨ character = '\\' then
    ['\\', character]
  else if character = '\t' then
    ['\\', 't']
  else if character = '\n' then
    ['\\', 'n']
  else if character = '\r' then
    ['\\', 'r']
  else if isPrintable character then
    [character]
  else
    escapedCode character

def single : Char := '\x27'

def double : Char := '\x22'

def quoteFor (text : List Char) : Char :=
  if single ∈ text ∧ double ∉ text then double else single

def quoted (text : String) : String :=
  let quote := quoteFor text.toList
  String.ofList
    (quote :: text.toList.flatMap (escaped quote) ++ [quote])

end LineCalculator.Quoted
