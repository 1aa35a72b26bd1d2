import LineCalculator.Descent.Cursor
import Mathlib.Data.List.TakeWhile

/-!
# Between two places in a line

Relations between two places in the same line, for any set of blanks:

* `Passes`: a given text lies between them.
* `Blanks`: only blanks lie between them.
* `Symbol`: blanks and then one symbol lie between them.

The operations of a cursor are characterised by these relations.
-/

namespace LineCalculator

/-- The characters other than digits that can be part of a phrase. -/
def marks : List Char :=
  ['+', '-', '*', '/', '(', ')']

theorem forall_mem_marks
    {property : Char → Prop} :
    (∀ mark ∈ marks, property mark) ↔
      property '+' ∧ property '-' ∧ property '*' ∧ property '/' ∧
        property '(' ∧ property ')' := by
  simp [marks]

/-- Blanks are told apart from everything that can be part of a phrase. -/
structure SeparatesTokens (blank : Char → Bool) : Prop where
  digit : ∀ character, character.isDigit = true → blank character = false
  mark : ∀ character ∈ marks, blank character = false

namespace SeparatesTokens

variable {blank : Char → Bool} {space : Char}

theorem not_isDigit
    (separates : SeparatesTokens blank)
    (isBlank : blank space = true) :
    space.isDigit = false := by
  rw [Bool.eq_false_iff]
  intro isDigit
  rw [separates.digit space isDigit] at isBlank
  cases isBlank

theorem not_mem_marks
    (separates : SeparatesTokens blank)
    (isBlank : blank space = true) :
    space ∉ marks := by
  intro isMark
  rw [separates.mark space isMark] at isBlank
  cases isBlank

end SeparatesTokens

theorem isBlank_separatesTokens : SeparatesTokens isBlank where
  digit character isDigit := by
    simp only [Char.isDigit, Bool.and_eq_true, decide_eq_true_eq,
      ge_iff_le, UInt32.le_iff_toNat_le] at isDigit
    have lower : 48 ≤ character.toNat := isDigit.1
    have upper : character.toNat ≤ 57 := isDigit.2
    simp only [isBlank, Bool.or_eq_false_iff, Bool.and_eq_false_iff,
      decide_eq_false_iff_not, beq_eq_false_iff_ne]
    omega
  mark := forall_mem_marks.mpr (by decide)

theorem isPlainBlank_separatesTokens : SeparatesTokens isPlainBlank where
  digit character isDigit := by
    rw [Bool.eq_false_iff]
    intro plain
    have notDigit :=
      isBlank_separatesTokens.not_isDigit (isBlank_of_isPlainBlank plain)
    rw [isDigit] at notDigit
    cases notDigit
  mark := forall_mem_marks.mpr (by decide)

namespace Cursor

structure Passes (start : Cursor) (text : List Char) (finish : Cursor) :
    Prop where
  rest_eq : start.rest = text ++ finish.rest
  offset_eq : finish.offset = start.offset + text.length

def Blanks (blank : Char → Bool) (start finish : Cursor) : Prop :=
  ∃ spaces, (∀ space ∈ spaces, blank space = true) ∧
    start.Passes spaces finish

/-- Blanks and then the symbol lie between the two places. -/
def Symbol
    (blank : Char → Bool) (start : Cursor) (symbol : Char)
    (finish : Cursor) :
    Prop :=
  ∃ before, Blanks blank start before ∧ before.Passes [symbol] finish

/-- The character ahead, if there is one, is not among the given ones. -/
def Stops (among : Char → Bool) (cursor : Cursor) : Prop :=
  ∀ ahead ∈ cursor.rest.head?, among ahead = false

namespace Passes

theorem refl
    (cursor : Cursor) :
    cursor.Passes [] cursor :=
  ⟨rfl, rfl⟩

theorem trans
    {start middle finish : Cursor} {first second : List Char}
    (firstPasses : start.Passes first middle)
    (secondPasses : middle.Passes second finish) :
    start.Passes (first ++ second) finish := by
  constructor
  · rw [firstPasses.rest_eq, secondPasses.rest_eq, List.append_assoc]
  · rw [secondPasses.offset_eq, firstPasses.offset_eq,
      List.length_append, Nat.add_assoc]

theorem length_eq
    {start finish : Cursor} {text : List Char}
    (passes : start.Passes text finish) :
    start.rest.length = text.length + finish.rest.length := by
  rw [passes.rest_eq, List.length_append]

/-- A text leads from a place to only one other. -/
theorem unique
    {start finish other : Cursor} {text : List Char}
    (passes : start.Passes text finish)
    (otherPasses : start.Passes text other) :
    finish = other := by
  have restEq : finish.rest = other.rest :=
    List.append_cancel_left (passes.rest_eq.symm.trans otherPasses.rest_eq)
  have offsetEq : finish.offset = other.offset :=
    passes.offset_eq.trans otherPasses.offset_eq.symm
  cases finish
  cases other
  cases restEq
  cases offsetEq
  rfl

theorem cons_split
    {start finish : Cursor} {first : Char} {later : List Char}
    (passes : start.Passes (first :: later) finish) :
    ∃ middle, start.Passes [first] middle ∧ middle.Passes later finish := by
  refine ⟨⟨start.offset + 1, later ++ finish.rest⟩,
    ⟨passes.rest_eq, rfl⟩, ⟨rfl, ?_⟩⟩
  rw [passes.offset_eq, List.length_cons, Nat.add_right_comm,
    Nat.add_assoc]

/-- The run that `takeWhile` would take is the only run of accepted characters
after which the next one is not accepted. -/
theorem takeWhile_eq
    {start finish : Cursor} {run : List Char} {accepts : Char → Bool}
    (passes : start.Passes run finish)
    (accepted : ∀ character ∈ run, accepts character = true)
    (stops : finish.Stops accepts) :
    start.takeWhile accepts = (run, finish) := by
  have noMore :
      finish.rest.takeWhile accepts = [] ∧
        finish.rest.dropWhile accepts = finish.rest := by
    cases ahead : finish.rest with
    | nil =>
        exact ⟨rfl, rfl⟩
    | cons first later =>
        have refused : accepts first = false :=
          stops first (by rw [ahead]; rfl)
        simp [refused]
  have taken : start.rest.takeWhile accepts = run := by
    rw [passes.rest_eq, List.takeWhile_append_of_pos accepted,
      noMore.1, List.append_nil]
  have dropped : start.rest.dropWhile accepts = finish.rest := by
    rw [passes.rest_eq, List.dropWhile_append_of_pos accepted, noMore.2]
  simp only [takeWhile, taken, dropped, ← passes.offset_eq]

end Passes

theorem takeWhile_passes
    (accepts : Char → Bool) (cursor : Cursor) :
    cursor.Passes (cursor.takeWhile accepts).1
      (cursor.takeWhile accepts).2 :=
  ⟨(List.takeWhile_append_dropWhile (p := accepts)).symm, rfl⟩

theorem takeWhile_accepted
    {accepts : Char → Bool} {cursor : Cursor} {character : Char}
    (member : character ∈ (cursor.takeWhile accepts).1) :
    accepts character = true :=
  List.mem_takeWhile_imp member

theorem takeWhile_stops
    (accepts : Char → Bool) (cursor : Cursor) :
    (cursor.takeWhile accepts).2.Stops accepts := by
  intro ahead isAhead
  exact Bool.eq_false_iff.mpr fun accepted =>
    absurd accepted (by
      have := List.head?_dropWhile_not accepts cursor.rest
      simp only [takeWhile] at isAhead
      rw [Option.mem_def] at isAhead
      rw [isAhead] at this
      simpa using this)

/-! ## Blanks -/

section Blanks

variable {blank : Char → Bool}

theorem Blanks.refl
    (cursor : Cursor) :
    Blanks blank cursor cursor :=
  ⟨[], by simp, .refl cursor⟩

theorem Blanks.trans
    {start middle finish : Cursor}
    (first : Blanks blank start middle)
    (second : Blanks blank middle finish) :
    Blanks blank start finish := by
  obtain ⟨firstSpaces, firstBlank, firstPasses⟩ := first
  obtain ⟨secondSpaces, secondBlank, secondPasses⟩ := second
  refine ⟨firstSpaces ++ secondSpaces, ?_,
    firstPasses.trans secondPasses⟩
  intro space member
  rcases List.mem_append.mp member with inFirst | inSecond
  · exact firstBlank space inFirst
  · exact secondBlank space inSecond

theorem Blanks.length_le
    {start finish : Cursor}
    (blanks : Blanks blank start finish) :
    finish.rest.length ≤ start.rest.length := by
  obtain ⟨spaces, _, passes⟩ := blanks
  rw [passes.length_eq]
  exact Nat.le_add_left _ _

theorem Symbol.of_blanks
    {start middle finish : Cursor} {symbol : Char}
    (blanks : Blanks blank start middle)
    (isSymbol : Symbol blank middle symbol finish) :
    Symbol blank start symbol finish := by
  obtain ⟨before, moreBlanks, passes⟩ := isSymbol
  exact ⟨before, blanks.trans moreBlanks, passes⟩

theorem Symbol.length_lt
    {start finish : Cursor} {symbol : Char}
    (isSymbol : Symbol blank start symbol finish) :
    finish.rest.length < start.rest.length := by
  obtain ⟨before, blanks, passes⟩ := isSymbol
  have symbolLength := passes.length_eq
  have blanksLength := blanks.length_le
  rw [List.length_singleton] at symbolLength
  omega

theorem Blanks.mono
    {wider : Char → Bool} {start finish : Cursor}
    (isWider : ∀ character, blank character = true → wider character = true)
    (blanks : Blanks blank start finish) :
    Blanks wider start finish := by
  obtain ⟨spaces, spacesBlank, passes⟩ := blanks
  exact ⟨spaces, fun space member => isWider space (spacesBlank space member),
    passes⟩

theorem Symbol.mono
    {wider : Char → Bool} {start finish : Cursor} {symbol : Char}
    (isWider : ∀ character, blank character = true → wider character = true)
    (isSymbol : Symbol blank start symbol finish) :
    Symbol wider start symbol finish := by
  obtain ⟨before, blanks, passes⟩ := isSymbol
  exact ⟨before, blanks.mono isWider, passes⟩

end Blanks

/-! ## What the operations of a cursor do -/

theorem skipBlanks_blanks
    (cursor : Cursor) :
    Blanks isBlank cursor cursor.skipBlanks :=
  ⟨_, fun _ member => takeWhile_accepted member,
    takeWhile_passes isBlank cursor⟩

theorem skipBlanks_stops
    (cursor : Cursor) :
    cursor.skipBlanks.Stops isBlank :=
  takeWhile_stops isBlank cursor

theorem Blanks.skipBlanks_eq
    {start finish : Cursor}
    (blanks : Blanks isBlank start finish)
    (stops : finish.Stops isBlank) :
    start.skipBlanks = finish := by
  obtain ⟨spaces, spacesBlank, passes⟩ := blanks
  rw [skipBlanks, passes.takeWhile_eq spacesBlank stops]

/-- Blanks that have been skipped already make no difference. -/
theorem Blanks.skipBlanks_congr
    {start finish : Cursor}
    (blanks : Blanks isBlank start finish) :
    start.skipBlanks = finish.skipBlanks :=
  (blanks.trans finish.skipBlanks_blanks).skipBlanks_eq
    finish.skipBlanks_stops

theorem skipBlanks_of_rest_nil
    {cursor : Cursor}
    (atEnd : cursor.rest = []) :
    cursor.skipBlanks = cursor :=
  (Blanks.refl cursor).skipBlanks_eq (by
    intro ahead isAhead
    rw [atEnd] at isAhead
    cases isAhead)

theorem choose_some
    {α : Type} {choice : Char → Option α} {cursor next : Cursor} {answer : α}
    (chosen : cursor.choose choice = (some answer, next)) :
    ∃ symbol,
      Symbol isBlank cursor symbol next ∧ choice symbol = some answer := by
  rw [choose] at chosen
  rcases ahead : cursor.skipBlanks.rest with _ | ⟨first, rest⟩
  · simp only [ahead] at chosen
    cases chosen
  · simp only [ahead] at chosen
    rcases answered : choice first with _ | found
    · simp only [answered] at chosen
      cases chosen
    · simp only [answered] at chosen
      cases chosen
      exact ⟨first,
        ⟨cursor.skipBlanks, cursor.skipBlanks_blanks, ⟨ahead, rfl⟩⟩,
        answered⟩

theorem choose_none
    {α : Type} {choice : Char → Option α} {cursor next : Cursor}
    (refused : cursor.choose choice = (none, next)) :
    next = cursor.skipBlanks ∧
      next.Stops fun ahead => (choice ahead).isSome := by
  rw [choose] at refused
  rcases ahead : cursor.skipBlanks.rest with _ | ⟨first, rest⟩
  · simp only [ahead] at refused
    cases refused
    refine ⟨rfl, ?_⟩
    intro other isAhead
    rw [ahead] at isAhead
    cases isAhead
  · simp only [ahead] at refused
    rcases answered : choice first with _ | found
    · simp only [answered] at refused
      cases refused
      refine ⟨rfl, ?_⟩
      intro other isAhead
      rw [ahead] at isAhead
      cases isAhead
      exact congrArg Option.isSome answered
    · simp only [answered] at refused
      cases refused

theorem choose_none_blanks
    {α : Type} {choice : Char → Option α} {cursor next : Cursor}
    (refused : cursor.choose choice = (none, next)) :
    Blanks isBlank cursor next := by
  rw [(choose_none refused).1]
  exact cursor.skipBlanks_blanks

/-- Looking for a symbol begins with skipping blanks. -/
theorem Symbol.from_skipBlanks
    {start finish : Cursor} {symbol : Char}
    (isSymbol : Symbol isBlank start symbol finish)
    (notBlank : isBlank symbol = false) :
    start.skipBlanks.Passes [symbol] finish := by
  obtain ⟨before, blanks, passes⟩ := isSymbol
  have skipped : start.skipBlanks = before := by
    apply blanks.skipBlanks_eq
    intro ahead isAhead
    rw [passes.rest_eq] at isAhead
    cases isAhead
    exact notBlank
  exact skipped ▸ passes

/-- The choice is answered for a symbol that comes next. -/
theorem Symbol.choose_eq
    {α : Type} {choice : Char → Option α} {start finish : Cursor}
    {symbol : Char} {answer : α}
    (isSymbol : Symbol isBlank start symbol finish)
    (notBlank : isBlank symbol = false)
    (answered : choice symbol = some answer) :
    start.choose choice = (some answer, finish) := by
  have passes := isSymbol.from_skipBlanks notBlank
  have ahead : start.skipBlanks.rest = symbol :: finish.rest :=
    passes.rest_eq
  have offsetEq : start.skipBlanks.offset + 1 = finish.offset :=
    passes.offset_eq.symm
  simp only [choose, ahead, answered, offsetEq]

/-- The choice is refused if nothing that comes next has an answer. -/
theorem choose_eq_none
    {α : Type} {choice : Char → Option α} {cursor : Cursor}
    (stops : cursor.skipBlanks.Stops fun ahead => (choice ahead).isSome) :
    cursor.choose choice = (none, cursor.skipBlanks) := by
  cases ahead : cursor.skipBlanks.rest with
  | nil =>
      simp only [choose, ahead]
  | cons first later =>
      have refused : (choice first).isSome = false :=
        stops first (by rw [ahead]; rfl)
      rw [Option.isSome_eq_false_iff, Option.isNone_iff_eq_none] at refused
      simp only [choose, ahead, refused]

theorem accept_true
    {symbol : Char} {cursor next : Cursor}
    (accepted : cursor.accept symbol = (true, next)) :
    Symbol isBlank cursor symbol next := by
  rw [accept] at accepted
  cases outcome :
      cursor.choose fun first => if first = symbol then some () else none with
  | mk answer place =>
      rw [outcome] at accepted
      cases answer with
      | none =>
          cases accepted
      | some found =>
          cases accepted
          obtain ⟨other, isSymbol, answered⟩ := choose_some outcome
          have same : other = symbol := by
            by_contra different
            rw [if_neg different] at answered
            cases answered
          exact same ▸ isSymbol

theorem accept_false
    {symbol : Char} {cursor next : Cursor}
    (refused : cursor.accept symbol = (false, next)) :
    next = cursor.skipBlanks ∧ next.Stops (· == symbol) := by
  rw [accept] at refused
  cases outcome :
      cursor.choose fun first => if first = symbol then some () else none with
  | mk answer place =>
      rw [outcome] at refused
      cases answer with
      | some found =>
          cases refused
      | none =>
          cases refused
          obtain ⟨placeEq, stops⟩ := choose_none outcome
          refine ⟨placeEq, ?_⟩
          intro ahead isAhead
          have noAnswer := stops ahead isAhead
          by_contra same
          rw [Bool.not_eq_false, beq_iff_eq] at same
          simp [same] at noAnswer

theorem accept_false_blanks
    {symbol : Char} {cursor next : Cursor}
    (refused : cursor.accept symbol = (false, next)) :
    Blanks isBlank cursor next := by
  rw [(accept_false refused).1]
  exact cursor.skipBlanks_blanks

theorem Symbol.accept_eq
    {start finish : Cursor} {symbol : Char}
    (isSymbol : Symbol isBlank start symbol finish)
    (notBlank : isBlank symbol = false) :
    start.accept symbol = (true, finish) := by
  rw [accept, isSymbol.choose_eq notBlank (if_pos rfl)]
  rfl

theorem accept_eq_false
    {symbol : Char} {cursor : Cursor}
    (stops : cursor.skipBlanks.Stops (· == symbol)) :
    cursor.accept symbol = (false, cursor.skipBlanks) := by
  rw [accept, choose_eq_none]
  · rfl
  · intro ahead isAhead
    have different := stops ahead isAhead
    rw [beq_eq_false_iff_ne] at different
    exact congrArg Option.isSome (if_neg different)

end Cursor

end LineCalculator
