/-!
# Blank characters

Two sets of blanks are in use: the wide one holds every character that only
separates or spaces text, the narrow one the five blanks of plain typing.
-/

namespace LineCalculator

/-- The wide set of blanks: the ASCII blanks with the four information
separators, next line, and the spaces and separators beyond ASCII. -/
def isBlank (character : Char) : Bool :=
  let code := character.toNat
  (0x09 ≤ code && code ≤ 0x0D) || (0x1C ≤ code && code ≤ 0x20)
    || code == 0x85 || code == 0xA0 || code == 0x1680
    || (0x2000 ≤ code && code ≤ 0x200A) || code == 0x2028 || code == 0x2029
    || code == 0x202F || code == 0x205F || code == 0x3000

/-- The narrow set of blanks: space, tab, line feed, form feed and carriage
return. -/
def isPlainBlank (character : Char) : Bool :=
  character == ' ' || character == '\t' || character == '\n'
    || character == '\x0c' || character == '\r'

/-- Every narrow blank is a wide one. -/
theorem isBlank_of_isPlainBlank
    {character : Char}
    (plain : isPlainBlank character = true) :
    isBlank character = true := by
  simp only [isPlainBlank, Bool.or_eq_true, beq_iff_eq] at plain
  rcases plain with (((rfl | rfl) | rfl) | rfl) | rfl <;> decide

end LineCalculator
