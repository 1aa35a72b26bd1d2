/-!
# The tracer

A tracer collects indented messages about the work in progress.  Its depth
counts the blocks that are open; each message is preceded by as many spaces as
the depth times the indent size says, and by none if either of them is not
positive.  A tracer that is switched off keeps neither messages nor depth.
-/

namespace LineCalculator

/-- An indenting message log. -/
structure Tracer where
  /-- Whether messages are kept at all. -/
  enabled : Bool := false
  /-- The number of spaces for each open block. -/
  indentSize : Int := 3
  /-- The number of open blocks; unbalanced use can make it negative. -/
  depth : Int := 0
  /-- Everything written since the last `drain`. -/
  text : String := ""
  deriving DecidableEq, Repr

namespace Tracer

def indentation (tracer : Tracer) : String :=
  String.ofList
    (List.replicate (tracer.indentSize.toNat * tracer.depth.toNat) ' ')

/-- Write a message and stay on the same line. -/
def message (tracer : Tracer) (words : String) : Tracer :=
  if tracer.enabled then
    { tracer with text := tracer.text ++ tracer.indentation ++ words }
  else
    tracer

def line (tracer : Tracer) (words : String) : Tracer :=
  tracer.message (words ++ "\n")

def indent (tracer : Tracer) : Tracer :=
  if tracer.enabled then
    { tracer with depth := tracer.depth + 1 }
  else
    tracer

def dedent (tracer : Tracer) : Tracer :=
  if tracer.enabled then
    { tracer with depth := tracer.depth - 1 }
  else
    tracer

def drain (tracer : Tracer) : String × Tracer :=
  (tracer.text, { tracer with text := "" })

end Tracer

end LineCalculator
