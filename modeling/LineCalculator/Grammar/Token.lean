import LineCalculator.Expr

/-!
# Tokens

A line is cut into maximal runs of ASCII digits and single other characters.
Blanks separate tokens and are dropped; which characters are blanks is up to
the caller.  Each token remembers where it starts.
-/

namespace LineCalculator

inductive TokenKind where
  | number (run : List Char)
  | operator (operator : Operator)
  | opening
  | closing
  | stray (character : Char)
  deriving DecidableEq, Repr

/-- The token that a single character which is neither a blank nor a digit
makes. -/
def TokenKind.ofCharacter : Char → TokenKind
  | '+' => .operator .add
  | '-' => .operator .sub
  | '*' => .operator .mul
  | '/' => .operator .div
  | '(' => .opening
  | ')' => .closing
  | character => .stray character

structure Token where
  kind : TokenKind
  start : Nat
  deriving DecidableEq, Repr

namespace Token

/-- Whether the token is a character that belongs to no phrase at all. -/
def isStray (token : Token) : Bool :=
  match token.kind with
  | .stray _ => true
  | _ => false

/-- Put a digit in front of tokens: it joins a run that starts right behind
it, and is a run of its own otherwise. -/
def consDigit (digit : Char) (position : Nat) (later : List Token) :
    List Token :=
  match later with
  | ⟨.number run, start⟩ :: more =>
      if start = position + 1 then
        ⟨.number (digit :: run), position⟩ :: more
      else
        ⟨.number [digit], position⟩ :: later
  | _ =>
      ⟨.number [digit], position⟩ :: later

def consCharacter
    (blank : Char → Bool) (located : Char × Nat) (later : List Token) :
    List Token :=
  if blank located.1 then
    later
  else if located.1.isDigit then
    consDigit located.1 located.2 later
  else
    ⟨.ofCharacter located.1, located.2⟩ :: later

def scanFrom (blank : Char → Bool) (position : Nat) (text : List Char) :
    List Token :=
  (text.zipIdx position).foldr (consCharacter blank) []

def scan (blank : Char → Bool) (line : List Char) : List Token :=
  scanFrom blank 0 line

end Token

end LineCalculator
