import LineCalculator.Text.Decimal
import LineCalculator.Text.Quoted

/-!
# Files

The working directory is a tree of named files and directories.  A path is
followed name by name from the working directory; what lies beyond it is
treated as one directory in which nothing can be found.

Opening a file for reading requires that it exists; opening one for writing
creates it or empties it.  Either fails for the causes of `OpenError`.
-/

namespace LineCalculator.CommandLine

inductive OpenError where
  | noSuchFile
  | notDirectory
  | isDirectory
  | nameTooLong
  /-- Any other cause that the system gives. -/
  | other (code : Nat) (description : String)
  deriving DecidableEq, Repr

namespace OpenError

def code : OpenError → Nat
  | .noSuchFile => 2
  | .notDirectory => 20
  | .isDirectory => 21
  | .nameTooLong => 36
  | .other code _ => code

def description : OpenError → String
  | .noSuchFile => "No such file or directory"
  | .notDirectory => "Not a directory"
  | .isDirectory => "Is a directory"
  | .nameTooLong => "File name too long"
  | .other _ description => description

def ofCode (code : Nat) (description : String) : OpenError :=
  if code = 2 then
    .noSuchFile
  else if code = 20 then
    .notDirectory
  else if code = 21 then
    .isDirectory
  else if code = 36 then
    .nameTooLong
  else
    .other code description

def report (error : OpenError) (path : String) : String :=
  "[Errno " ++ Decimal.ofNat error.code ++ "] " ++ error.description ++ ": "
    ++ Quoted.quoted path

end OpenError

inductive Node where
  | file (content : ByteArray)
  | directory

/-- A place that a path leads to: the names from the working directory down,
or somewhere beyond it. -/
inductive Place where
  | inside (names : List String)
  | beyond
  deriving DecidableEq, Repr

structure Path where
  absolute : Bool
  names : List String
  /-- Whether the path ends in a slash and so has to name a directory. -/
  slashAtEnd : Bool
  deriving DecidableEq, Repr

def Path.consCharacter (character : Char) (behind : List (List Char)) :
    List (List Char) :=
  match behind with
  | [] =>
      []
  | first :: later =>
      if character = '/' then
        [] :: first :: later
      else
        (character :: first) :: later

/-- Cut a path at its slashes; slashes next to each other count as one. -/
def Path.ofString (text : String) : Path :=
  let pieces := text.toList.foldr consCharacter [[]]
  { absolute := text.toList.head? = some '/',
    names := (pieces.filter (!·.isEmpty)).map String.ofList,
    slashAtEnd := text.toList.getLast? = some '/' }

def nameLimit : Nat := 255

def pathLimit : Nat := 4095

/-- The working directory: what stands at each place in it. -/
structure FileSystem where
  nodes : List (List String × Node) := []

namespace FileSystem

def node? (files : FileSystem) : Place → Option Node
  | .beyond =>
      some .directory
  | .inside [] =>
      some .directory
  | .inside names =>
      files.nodes.lookup names

/-- Put a file at a place.  Nothing is kept beyond the working directory. -/
def put (files : FileSystem) (place : Place) (content : ByteArray) :
    FileSystem :=
  match place with
  | .beyond =>
      files
  | .inside names =>
      if (files.nodes.lookup names).isSome then
        { nodes := files.nodes.map fun entry =>
            if entry.1 = names then (names, .file content) else entry }
      else
        { nodes := files.nodes ++ [(names, .file content)] }

def read (files : FileSystem) (place : Place) : ByteArray :=
  match files.node? place with
  | some (.file content) =>
      content
  | _ =>
      .empty

/-- The place that a name leads to from a place; the name itself need not
exist. -/
def descend (place : Place) (name : String) : Except OpenError Place :=
  if name = "." then
    .ok place
  else if name = ".." then
    match place with
    | .inside (first :: later) =>
        .ok (.inside (first :: later).dropLast)
    | _ =>
        .ok .beyond
  else if nameLimit < name.utf8ByteSize then
    .error .nameTooLong
  else
    match place with
    | .inside names =>
        .ok (.inside (names ++ [name]))
    | .beyond =>
        .error .noSuchFile

/-- Follow names from a place; everything on the way has to exist, and all but
the last has to be a directory. -/
def follow (files : FileSystem) : Place → List String → Except OpenError Place
  | place, [] =>
      .ok place
  | place, name :: later =>
      match files.node? place with
      | none =>
          .error .noSuchFile
      | some (.file _) =>
          .error .notDirectory
      | some .directory =>
          match descend place name with
          | .error error =>
              .error error
          | .ok next =>
              if (files.node? next).isSome then
                files.follow next later
              else
                .error .noSuchFile

def start (path : Path) : Place :=
  if path.absolute then .beyond else .inside []

def openInput (files : FileSystem) (text : String) :
    Except OpenError Place :=
  let path := Path.ofString text
  if text.isEmpty then
    .error .noSuchFile
  else if pathLimit < text.utf8ByteSize then
    .error .nameTooLong
  else
    match files.follow (start path) path.names with
    | .error error =>
        .error error
    | .ok place =>
        match files.node? place with
        | some .directory =>
            .error .isDirectory
        | _ =>
            if path.slashAtEnd then .error .notDirectory else .ok place

/-- The place of a file that is to be written, in a directory that exists. -/
def openInDirectory
    (files : FileSystem) (directory : Place) (name : String) :
    Except OpenError Place :=
  if name = "." ∨ name = ".." then
    .error .isDirectory
  else if nameLimit < name.utf8ByteSize then
    .error .nameTooLong
  else
    match directory with
    | .beyond =>
        .ok .beyond
    | .inside names =>
        match files.node? (.inside (names ++ [name])) with
        | some .directory =>
            .error .isDirectory
        | _ =>
            .ok (.inside (names ++ [name]))

def openOutput (files : FileSystem) (text : String) :
    Except OpenError Place :=
  let path := Path.ofString text
  if text.isEmpty then
    .error .noSuchFile
  else if pathLimit < text.utf8ByteSize then
    .error .nameTooLong
  else
    match path.names.getLast? with
    | none =>
        .error .isDirectory
    | some name =>
        match files.follow (start path) path.names.dropLast with
        | .error error =>
            .error error
        | .ok directory =>
            match files.node? directory with
            | some .directory =>
                if path.slashAtEnd then
                  .error .isDirectory
                else
                  files.openInDirectory directory name
            | _ =>
                .error .notDirectory

end FileSystem

end LineCalculator.CommandLine
