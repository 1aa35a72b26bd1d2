import LineCalculator.Session
import LineCalculator.Text.DecimalDigit
import LineCalculator.Text.Quoted

/-!
# Arguments of the command line

The command takes up to two file names and three options.  An option may be
shortened to any unambiguous beginning of its long name, and a value may be
attached to it by an equals sign.  A first `--` ends the options.

The file names have to stand together: the first run of plain arguments fills
the places for the input and the output, and plain arguments after an option
that follows it are refused.  So are unknown options; but refusals are only
reported when everything has been looked at, while a misused option is
reported as soon as it is reached, and a request for help is granted as soon
as it is reached.
-/

namespace LineCalculator.CommandLine

inductive Flag where
  | help
  | parser
  | debug
  deriving DecidableEq, Repr

namespace Flag

def longName : Flag → String
  | .help => "--help"
  | .parser => "--parser"
  | .debug => "--debug"

def names : Flag → String
  | .help => "-h/--help"
  | .parser => "--parser"
  | .debug => "--debug"

def all : List Flag := [.help, .parser, .debug]

def ofName? (name : List Char) : Option Flag :=
  if name = ['-', 'h'] then
    some .help
  else
    all.find? (·.longName.toList = name)

def startingWith (beginning : List Char) : List Flag :=
  all.filter fun flag => beginning.isPrefixOf flag.longName.toList

end Flag

inductive UsageError where
  | ambiguous (argument : String) (candidates : List Flag)
  | expectedArgument (flag : Flag)
  | ignoredArgument (flag : Flag) (attached : String)
  | invalidChoice (value : String)
  | unrecognized (arguments : List String)
  deriving DecidableEq, Repr

def UsageError.message : UsageError → String
  | .ambiguous argument candidates =>
      "ambiguous option: " ++ argument ++ " could match "
        ++ String.intercalate ", " (candidates.map Flag.longName)
  | .expectedArgument flag =>
      "argument " ++ flag.names ++ ": expected one argument"
  | .ignoredArgument flag attached =>
      "argument " ++ flag.names ++ ": ignored explicit argument "
        ++ Quoted.quoted attached
  | .invalidChoice value =>
      "argument " ++ Flag.parser.names ++ ": invalid choice: "
        ++ Quoted.quoted value ++ " (choose from "
        ++ Quoted.quoted "descent" ++ ", " ++ Quoted.quoted "grammar" ++ ")"
  | .unrecognized arguments =>
      "unrecognized arguments: " ++ String.intercalate " " arguments

inductive Argument where
  /-- A file name, or the value of an option in front of it. -/
  | plain (text : String)
  /-- The end of the options. -/
  | separator
  /-- An option, perhaps with an attached value. -/
  | flag (flag : Flag) (attached : Option String)
  /-- The short name of the help option with more characters behind it; an
  equals sign between the two is left out. -/
  | cluster (behind : List Char)
  /-- Something that looks like an option and is none. -/
  | unknown (text : String)
  deriving DecidableEq, Repr

/-- Whether a text looks like a negative number: digits, perhaps with a point
before the last run of them, and perhaps a line feed at the end. -/
def looksNegative : List Char → Bool
  | '-' :: behind =>
      let body :=
        if behind.getLast? = some '\n' then behind.dropLast else behind
      let whole := body.takeWhile isDecimalDigit
      match body.dropWhile isDecimalDigit with
      | [] =>
          !whole.isEmpty
      | '.' :: fraction =>
          !fraction.isEmpty && fraction.all isDecimalDigit
      | _ =>
          false
  | _ =>
      false

/-- The value behind the first equals sign of an argument, if it has one. -/
def attachedValue? (argument : List Char) : Option String :=
  match argument.dropWhile (· != '=') with
  | [] =>
      none
  | _ :: value =>
      some (String.ofList value)

/-- What an argument is if it begins with a minus sign, has more than one
character and is not the name of an option.  A long name may be shortened. -/
def classifyOption (text : String) (characters : List Char) :
    Except UsageError Argument :=
  let fallback :=
    if looksNegative characters || characters.contains ' ' then
      Argument.plain text
    else
      Argument.unknown text
  match characters with
  | ['-', 'h', '='] =>
      .ok (.flag .help (some ""))
  | '-' :: 'h' :: '=' :: behind =>
      .ok (.cluster behind)
  | '-' :: 'h' :: behind =>
      .ok (.cluster behind)
  | '-' :: '-' :: _ =>
      match Flag.startingWith (characters.takeWhile (· != '=')) with
      | [] =>
          .ok fallback
      | [flag] =>
          .ok (.flag flag (attachedValue? characters))
      | candidates =>
          .error (.ambiguous text candidates)
  | _ =>
      .ok fallback

def classify (text : String) : Except UsageError Argument :=
  let characters := text.toList
  match Flag.ofName? characters, characters with
  | some flag, _ =>
      .ok (.flag flag none)
  | none, '-' :: _ :: _ =>
      classifyOption text characters
  | none, _ =>
      .ok (.plain text)

/-- What the arguments are; everything behind the separator is plain. -/
def classifyAll : List String → Except UsageError (List Argument)
  | [] =>
      .ok []
  | text :: later =>
      if text = "--" then
        .ok (.separator :: later.map .plain)
      else
        match classify text with
        | .error error =>
            .error error
        | .ok argument =>
            match classifyAll later with
            | .error error =>
                .error error
            | .ok arguments =>
                .ok (argument :: arguments)

/-- How far the places for file names have been filled. -/
inductive Places where
  | empty
  | inputFilled
  | bothFilled
  | closed
  deriving DecidableEq, Repr

structure Request where
  input : Option String := none
  output : Option String := none
  engine : Engine := .descent
  debug : Bool := false
  deriving DecidableEq, Repr

structure Draft where
  request : Request := {}
  places : Places := .empty
  /-- The arguments refused so far, the last one first. -/
  refused : List String := []
  deriving DecidableEq, Repr

namespace Draft

/-- Put a plain argument into the next place.  A `--` in the place for the
output stands for no output. -/
def addPlain (draft : Draft) (text : String) : Draft :=
  match draft.places with
  | .empty =>
      { draft with
        request := { draft.request with input := some text }
        places := .inputFilled }
  | .inputFilled =>
      { draft with
        request :=
          { draft.request with
            output := if text = "--" then none else some text }
        places := .bothFilled }
  | _ =>
      { draft with places := .closed, refused := text :: draft.refused }

def addSeparator (draft : Draft) : Draft :=
  match draft.places with
  | .closed =>
      { draft with refused := "--" :: draft.refused }
  | _ =>
      draft

/-- An option ends the run of plain arguments in front of it. -/
def endRun (draft : Draft) : Draft :=
  match draft.places with
  | .empty =>
      draft
  | _ =>
      { draft with places := .closed }

def refuse (draft : Draft) (text : String) : Draft :=
  { draft.endRun with refused := text :: draft.refused }

def setDebug (draft : Draft) : Draft :=
  { draft.endRun with request := { draft.request with debug := true } }

/-- Choose the engine by its name.  A separator in place of a name brings back
the engine that serves when none is named. -/
def setEngine (draft : Draft) (value : String) : Except UsageError Draft :=
  if value = "descent" || value = "grammar" || value = "--" then
    .ok
      { draft.endRun with
        request := { draft.request with engine := .ofName value } }
  else
    .error (.invalidChoice value)

end Draft

inductive Command where
  | help
  | run (request : Request)
  deriving DecidableEq, Repr

/-- Behind the short help option only the same option may be repeated;
anything else there is taken for a value that the option does not take. -/
def openCluster : List Char → Except UsageError Command
  | [] =>
      .ok .help
  | 'h' :: later =>
      openCluster later
  | behind =>
      .error (.ignoredArgument .help (String.ofList behind))

def interpret : Draft → List Argument → Except UsageError Command
  | draft, [] =>
      match draft.refused with
      | [] =>
          .ok (.run draft.request)
      | refused =>
          .error (.unrecognized refused.reverse)
  | draft, .plain text :: later =>
      interpret (draft.addPlain text) later
  | draft, .separator :: later =>
      interpret draft.addSeparator later
  | draft, .unknown text :: later =>
      interpret (draft.refuse text) later
  | _, .cluster behind :: _ =>
      openCluster behind
  | _, .flag .help none :: _ =>
      .ok .help
  | draft, .flag .debug none :: later =>
      interpret draft.setDebug later
  | draft, .flag .parser (some value) :: later =>
      match draft.setEngine value with
      | .error error =>
          .error error
      | .ok next =>
          interpret next later
  | draft, .flag .parser none :: .plain value :: later =>
      match draft.setEngine value with
      | .error error =>
          .error error
      | .ok next =>
          interpret next later
  | _, .flag .parser none :: _ =>
      .error (.expectedArgument .parser)
  | _, .flag flag (some value) :: _ =>
      .error (.ignoredArgument flag value)

def parseArguments (debug : Bool) (arguments : List String) :
    Except UsageError Command :=
  match classifyAll arguments with
  | .error error =>
      .error error
  | .ok classified =>
      interpret { request := { debug := debug } } classified

end LineCalculator.CommandLine
