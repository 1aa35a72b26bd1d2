import LineCalculator.Descent.Cursor
import LineCalculator.Expr
import LineCalculator.ParseError
import LineCalculator.Tracer

/-!
# Reading a line by descent

Each rule reads one kind of phrase from the cursor, from the loosest binding
to the tightest:

* `expression`: terms joined by `+` and `-`;
* `term`: signed operands joined by `*` and `/`;
* `unary`: any number of signs, then a number or a parenthesised expression;
* `number`: a run of ASCII digits.

Chains of equal strength lean left.  A rule that fails leaves the cursor where
the failure was noticed and the tracer as deep as it was.  Expressions and
terms announce themselves to the tracer and trace their parts one block
deeper.  Parentheses may be nested up to `groupLimit`.
-/

namespace LineCalculator.Descent

inductive Fault where
  | refused (cause : ParseFault)
  | depthExceeded
  deriving DecidableEq, Repr

/-- A fault as seen from outside: excessive nesting makes the line malformed. -/
def Fault.settle : Fault → ParseFault
  | .refused cause =>
      cause
  | .depthExceeded =>
      .malformed .nestedTooDeeply

def Fault.malformed (error : ParseError) : Fault :=
  .refused (.malformed error)

structure Reader where
  cursor : Cursor
  tracer : Tracer
  deriving DecidableEq, Repr

namespace Reader

def trace (words : String) (reader : Reader) : Reader :=
  { reader with tracer := reader.tracer.line words }

def indent (reader : Reader) : Reader :=
  { reader with tracer := reader.tracer.indent }

def dedent (reader : Reader) : Reader :=
  { reader with tracer := reader.tracer.dedent }

def moveTo (cursor : Cursor) (reader : Reader) : Reader :=
  { reader with cursor := cursor }

end Reader

/-- A rule reads a phrase or fails, and moves the reader in either case. -/
abbrev Rule (α : Type) := Reader → Except Fault α × Reader

/-- Announce a phrase with the place where it starts and trace its parts one
block deeper. -/
def outlined {α : Type} (title : String) (rule : Rule α) : Rule α :=
  fun reader =>
    let announced :=
      reader.trace (title ++ " @" ++ Decimal.ofNat reader.cursor.offset)
    let (result, inner) := rule announced.indent
    (result, inner.dedent)

/-- A number: the longest run of digits ahead, at most `Decimal.digitLimit` of
them, with a value that fits into a word. -/
def number : Rule Expr :=
  fun reader =>
    let start := reader.cursor.skipBlanks
    let (run, finish) := start.takeWhile Char.isDigit
    let after := reader.moveTo finish
    if run.isEmpty then
      (.error (.malformed (.expectedNumber finish.offset)), after)
    else if Decimal.digitLimit < run.length then
      (.error (.refused (.oversizedLiteral run.length)), after)
    else
      let value := Decimal.value run
      if Word.greatest < value then
        (.error (.malformed (.outOfRange start.offset)), after)
      else
        (.ok (.literal value),
          after.trace
            ("number " ++ Decimal.ofNat value ++ " @"
              ++ Decimal.ofNat start.offset))

/-- A number, or an expression in parentheses read by the rule given for it. -/
def primary (group : Rule Expr) : Rule Expr :=
  fun reader =>
    match reader.cursor.accept '(' with
    | (false, next) =>
        number (reader.moveTo next)
    | (true, next) =>
        match group (reader.moveTo next) with
        | (.error fault, after) =>
            (.error fault, after)
        | (.ok inner, after) =>
            match after.cursor.accept ')' with
            | (true, close) =>
                (.ok inner, after.moveTo close)
            | (false, close) =>
                (.error (.malformed (.missingClosing close.offset)),
                  after.moveTo close)

/-- The characters that may stand between two signs, and the signs. -/
def isSignOrBlank (character : Char) : Bool :=
  character == '+' || character == '-' || isBlank character

/-- The operand of a run of signs: negated when the run has an odd number of
minus signs. -/
def signed (signs : List Char) (operand : Expr) : Expr :=
  if signs.count '-' % 2 = 1 then operand.negate else operand

def unary (group : Rule Expr) : Rule Expr :=
  fun reader =>
    let (signs, next) := reader.cursor.takeWhile isSignOrBlank
    let (result, after) := primary group (reader.moveTo next)
    (result.map (signed signs), after)

/-- Fold further operands into a chain that has been read so far.  Every round
uses up a character, so the characters ahead at the start (the first argument)
are enough rounds. -/
def extendChain (strength : Precedence) (operand : Rule Expr) :
    List Char → Expr → Rule Expr
  | [], chain, reader =>
      (.ok chain, reader)
  | _ :: fuel, chain, reader =>
      match reader.cursor.choose strength.operator? with
      | (none, next) =>
          (.ok chain, reader.moveTo next)
      | (some operator, next) =>
          match operand (reader.moveTo next) with
          | (.error fault, after) =>
              (.error fault, after)
          | (.ok right, after) =>
              extendChain strength operand fuel
                (.binary chain operator right) after

/-- Operands joined by operators of one strength, leaning left. -/
def leftChain (strength : Precedence) (operand : Rule Expr) : Rule Expr :=
  fun reader =>
    match operand reader with
    | (.error fault, after) =>
        (.error fault, after)
    | (.ok first, after) =>
        extendChain strength operand after.cursor.rest first after

def term (group : Rule Expr) : Rule Expr :=
  outlined "term" (leftChain .multiplicative (unary group))

/-- An expression inside at most the given number of further parentheses. -/
def expressionWithin : Nat → Rule Expr
  | 0 =>
      fun reader => (.error .depthExceeded, reader)
  | budget + 1 =>
      outlined "expression"
        (leftChain .additive (term (expressionWithin budget)))

def groupLimit : Nat := 500

/-- The rule for the inside of a parenthesis that is not itself enclosed. -/
def group : Rule Expr :=
  expressionWithin groupLimit

def expression : Rule Expr :=
  expressionWithin (groupLimit + 1)

/-- A whole line: an expression with nothing but blanks behind it. -/
def wholeLine : Rule Expr :=
  fun reader =>
    match expression reader with
    | (.error fault, after) =>
        (.error (.refused fault.settle), after)
    | (.ok result, after) =>
        let finish := after.cursor.skipBlanks
        if finish.rest.isEmpty then
          (.ok result, after.moveTo finish)
        else
          (.error (.malformed (.unexpectedText finish.offset)),
            after.moveTo finish)

def parse (line : List Char) (tracer : Tracer) :
    Except ParseFault Expr × Tracer :=
  let (result, after) := wholeLine ⟨Cursor.ofLine line, tracer⟩
  (result.mapError Fault.settle, after.tracer)

end LineCalculator.Descent
