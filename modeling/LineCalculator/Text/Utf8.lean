/-!
# Reading UTF-8

A stream of bytes is decoded block by block.  Bytes that are not UTF-8 spoil
the block they stand in, and nothing of that block or behind it is read.  A
character that a block cuts off is not refused by that block: its bytes are
held back until the next one, and only the end of the stream refuses them.

A reading is therefore the text of the whole stream, or the text in front of
what could not be decoded.
-/

namespace LineCalculator.Utf8

/-- Whether a byte may stand behind the first byte of a character. -/
def isContinuation (byte : UInt8) : Bool :=
  0x80 ≤ byte && byte ≤ 0xBF

/-- Whether a pair of bytes may begin a character of three bytes.  The pairs of
the surrogates are among them: those are refused with their third byte. -/
def beginsThree (first second : UInt8) : Bool :=
  isContinuation second &&
    if first = 0xE0 then
      0xA0 ≤ second
    else
      0xE1 ≤ first && first ≤ 0xEF

/-- Whether a pair of bytes may begin a character of four bytes. -/
def beginsFour (first second : UInt8) : Bool :=
  isContinuation second &&
    if first = 0xF0 then
      0x90 ≤ second
    else if first = 0xF4 then
      second ≤ 0x8F
    else
      0xF1 ≤ first && first ≤ 0xF3

/-- Whether bytes begin a character and do not complete it. -/
def isBeginning : List UInt8 → Bool
  | [first] =>
      0xC2 ≤ first && first ≤ 0xF4
  | [first, second] =>
      beginsThree first second || beginsFour first second
  | [first, second, third] =>
      beginsFour first second && isContinuation third
  | _ =>
      false

/-- The text of bytes that are UTF-8 but for the given number of bytes at
their end, which begin a character. -/
def decodeInFrontOf? (heldBack : Nat) (bytes : ByteArray) : Option String :=
  let front := bytes.size - heldBack
  if isBeginning (bytes.extract front bytes.size).toList then
    String.fromUTF8? (bytes.extract 0 front)
  else
    none

/-- The text of bytes that are UTF-8, except that a character may be cut off at
their end. -/
def decodeOpen? (bytes : ByteArray) : Option String :=
  String.fromUTF8? bytes
    <|> decodeInFrontOf? 1 bytes
    <|> decodeInFrontOf? 2 bytes
    <|> decodeInFrontOf? 3 bytes

def blockSize : Nat := 8192

/-- The text of the first blocks, of the given number of them at most, as far
as they can be decoded. -/
def decodeBlocks : Nat → ByteArray → String
  | 0, _ =>
      ""
  | count + 1, bytes =>
      match decodeOpen? (bytes.extract 0 ((count + 1) * blockSize)) with
      | some text =>
          text
      | none =>
          decodeBlocks count bytes

structure Reading where
  text : String
  /-- Whether the text is that of the whole stream. -/
  complete : Bool
  deriving DecidableEq, Repr

def read (bytes : ByteArray) : Reading :=
  match String.fromUTF8? bytes with
  | some text =>
      { text := text, complete := true }
  | none =>
      { text := decodeBlocks (bytes.size / blockSize + 1) bytes,
        complete := false }

end LineCalculator.Utf8
