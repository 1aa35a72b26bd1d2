import LineCalculator.Grammar.Token
import LineCalculator.Proofs.Syntax.Place
import Mathlib.Data.List.Basic

/-!
# The tokens ahead

Blanks make no token, a maximal run of digits makes one number, and every other
character makes a token of its own.  `NextToken` says so of a place in a line,
for any set of blanks that are told apart from digits.
-/

namespace LineCalculator

open Cursor

theorem TokenKind.ofCharacter_ne_number
    (character : Char) (run : List Char) :
    TokenKind.ofCharacter character ≠ .number run := by
  unfold TokenKind.ofCharacter
  split <;> simp

theorem TokenKind.ofCharacter_of_not_mark
    {character : Char}
    (notMark : character ∉ marks) :
    TokenKind.ofCharacter character = .stray character := by
  unfold TokenKind.ofCharacter
  split
  case h_7 =>
    rfl
  all_goals
    exact absurd (by decide) notMark

/-- The characters of two equal tokens are the same. -/
theorem TokenKind.ofCharacter_injective :
    Function.Injective TokenKind.ofCharacter := by
  intro first second same
  unfold TokenKind.ofCharacter at same
  split at same <;> split at same <;> simp_all

namespace Token

variable {blank : Char → Bool}

theorem scanFrom_cons
    (position : Nat) (character : Char) (later : List Char) :
    scanFrom blank position (character :: later) =
      consCharacter blank (character, position)
        (scanFrom blank (position + 1) later) := by
  rw [scanFrom, List.zipIdx_cons, List.foldr_cons]
  rfl

def StartsNumber (position : Nat) (tokens : List Token) : Prop :=
  ∃ run later, tokens = ⟨.number run, position⟩ :: later

private theorem consDigit_of_not_startsNumber
    {position : Nat} {later : List Token} (digit : Char)
    (apart : ¬ StartsNumber (position + 1) later) :
    consDigit digit position later =
      ⟨.number [digit], position⟩ :: later := by
  rcases later with _ | ⟨⟨kind, start⟩, more⟩
  · rfl
  cases kind with
  | number run =>
      by_cases startEq : start = position + 1
      · subst startEq
        exact absurd ⟨run, more, rfl⟩ apart
      · simp only [consDigit, if_neg startEq]
  | operator | opening | closing | stray =>
      rfl

private theorem start_le_of_mem_consDigit
    {digit : Char} {position : Nat} {later : List Token} {token : Token}
    (laterBound : ∀ other ∈ later, position ≤ other.start)
    (member : token ∈ consDigit digit position later) :
    position ≤ token.start := by
  unfold consDigit at member
  split at member
  · split at member
    · rcases List.mem_cons.mp member with rfl | inLater
      · exact Nat.le_refl _
      · exact laterBound token (List.mem_cons_of_mem _ inLater)
    · rcases List.mem_cons.mp member with rfl | inLater
      · exact Nat.le_refl _
      · exact laterBound token inLater
  · rcases List.mem_cons.mp member with rfl | inLater
    · exact Nat.le_refl _
    · exact laterBound token inLater

/-- No token starts in front of the text. -/
theorem start_le_of_mem_scanFrom
    {position : Nat} {text : List Char} {token : Token}
    (member : token ∈ scanFrom blank position text) :
    position ≤ token.start := by
  induction text generalizing position token with
  | nil =>
      cases member
  | cons character later inductionHypothesis =>
      have laterBound :
          ∀ other ∈ scanFrom blank (position + 1) later,
            position ≤ other.start := by
        intro other inLater
        exact Nat.le_of_succ_le (inductionHypothesis inLater)
      rw [scanFrom_cons, consCharacter] at member
      split at member
      · exact laterBound token member
      · split at member
        · exact start_le_of_mem_consDigit laterBound member
        · rcases List.mem_cons.mp member with rfl | inLater
          · exact Nat.le_refl _
          · exact laterBound token inLater

/-- A number that starts where the text does starts with its first
character. -/
private theorem isDigit_of_startsNumber
    {position : Nat} {text : List Char}
    (starts : StartsNumber position (scanFrom blank position text)) :
    ∃ digit later, text = digit :: later ∧ digit.isDigit = true := by
  obtain ⟨run, more, tokensEq⟩ := starts
  cases text with
  | nil =>
      cases tokensEq
  | cons character later =>
      refine ⟨character, later, rfl, ?_⟩
      rw [scanFrom_cons, consCharacter] at tokensEq
      split at tokensEq
      · have behind : position + 1 ≤ position :=
          start_le_of_mem_scanFrom (tokensEq ▸ List.mem_cons_self)
        exact absurd behind (Nat.not_succ_le_self _)
      · split at tokensEq
        · assumption
        · have kindEq := congrArg Token.kind (List.cons.inj tokensEq).1
          exact absurd kindEq (TokenKind.ofCharacter_ne_number character run)

/-! ## Texts scanned in two pieces -/

private theorem consCharacter_append
    {located : Char × Nat} {first second : List Token}
    (apart :
      located.1.isDigit = true → first = [] →
        ¬ StartsNumber (located.2 + 1) second) :
    consCharacter blank located (first ++ second) =
      consCharacter blank located first ++ second := by
  unfold consCharacter
  by_cases isBlank : blank located.1 = true
  · rw [if_pos isBlank, if_pos isBlank]
  by_cases isDigit : located.1.isDigit = true
  · rw [if_neg isBlank, if_neg isBlank, if_pos isDigit, if_pos isDigit]
    cases first with
    | nil =>
        rw [List.nil_append,
          consDigit_of_not_startsNumber located.1 (apart isDigit rfl)]
        rfl
    | cons token more =>
        unfold consDigit
        rcases token with ⟨kind, start⟩
        cases kind <;> simp only [List.cons_append]
        split <;> rfl
  · rw [if_neg isBlank, if_neg isBlank, if_neg isDigit, if_neg isDigit]
    rfl

/-- A text can be divided here: no run of digits goes on behind the
division. -/
def Divides (before after : List Char) : Prop :=
  ∀ last ∈ before.getLast?, last.isDigit = true →
    ∀ first ∈ after.head?, first.isDigit = false

theorem divides_of_not_isDigit
    {character : Char} {before after : List Char}
    (notDigit : character.isDigit = false) :
    Divides before (character :: after) := by
  intro last _ _ first isFirst
  cases isFirst
  exact notDigit

theorem divides_nil
    (before : List Char) :
    Divides before [] := by
  intro last _ _ first isFirst
  cases isFirst

private theorem Divides.of_cons
    {first : Char} {before after : List Char}
    (divides : Divides (first :: before) after) :
    Divides before after :=
  fun last isLast => divides last (List.mem_getLast?_cons isLast)

/-- A text can be scanned in two pieces that are divided. -/
theorem scanFrom_append_of_divides
    {before after : List Char}
    (divides : Divides before after) (position : Nat) :
    scanFrom blank position (before ++ after) =
      scanFrom blank position before ++
        scanFrom blank (position + before.length) after := by
  induction before generalizing position with
  | nil =>
      rfl
  | cons first later inductionHypothesis =>
      have positionEq :
          position + 1 + later.length =
            position + (first :: later).length := by
        rw [List.length_cons, Nat.add_assoc, Nat.add_comm 1]
      rw [List.cons_append, scanFrom_cons,
        inductionHypothesis divides.of_cons, scanFrom_cons position first later,
        consCharacter_append, positionEq]
      rintro isDigit - ⟨run, more, tokensEq⟩
      have laterBound :
          position + 1 + later.length ≤ position + 1 :=
        start_le_of_mem_scanFrom (tokensEq ▸ List.mem_cons_self)
      have noneBetween : later = [] := by
        apply List.eq_nil_of_length_eq_zero
        omega
      subst noneBetween
      obtain ⟨digit, _, ahead, digitIsDigit⟩ :=
        isDigit_of_startsNumber ⟨run, more, tokensEq⟩
      have notDigit : digit.isDigit = false :=
        divides first rfl isDigit digit (by rw [ahead]; rfl)
      rw [digitIsDigit] at notDigit
      cases notDigit

theorem scan_append_of_divides
    {before after : List Char}
    (divides : Divides before after) :
    scan blank (before ++ after) =
      scan blank before ++ scanFrom blank before.length after := by
  have scanned : scanFrom blank 0 (before ++ after) = _ :=
    scanFrom_append_of_divides divides 0
  rw [Nat.zero_add] at scanned
  exact scanned

theorem scanFrom_append
    {character : Char}
    (notDigit : character.isDigit = false)
    (position : Nat) (before after : List Char) :
    scanFrom blank position (before ++ character :: after) =
      scanFrom blank position before ++
        scanFrom blank (position + before.length) (character :: after) :=
  scanFrom_append_of_divides (divides_of_not_isDigit notDigit) position

/-- A mark makes a token of its own. -/
theorem scanFrom_mark
    (separates : SeparatesTokens blank)
    {mark : Char} (isMark : mark ∈ marks)
    (position : Nat) (later : List Char) :
    scanFrom blank position (mark :: later) =
      ⟨.ofCharacter mark, position⟩ ::
        scanFrom blank (position + 1) later := by
  have notDigit : ∀ other ∈ marks, other.isDigit = false :=
    forall_mem_marks.mpr (by decide)
  rw [scanFrom_cons, consCharacter, separates.mark mark isMark,
    notDigit mark isMark]
  rfl

def moved (distance : Nat) (token : Token) : Token :=
  { token with start := token.start + distance }

private theorem consDigit_moved
    (digit : Char) (position distance : Nat) (later : List Token) :
    consDigit digit (position + distance) (later.map (moved distance)) =
      (consDigit digit position later).map (moved distance) := by
  cases later with
  | nil =>
      rfl
  | cons token more =>
      rcases token with ⟨run | _ | _ | _ | _, start⟩
      · have sameGap :
            start + distance = position + distance + 1 ↔
              start = position + 1 := by
          omega
        simp only [consDigit, List.map_cons, moved, sameGap]
        split <;> rfl
      all_goals rfl

/-- A text further behind has the same tokens, further behind. -/
private theorem scanFrom_moved
    (position distance : Nat) (text : List Char) :
    scanFrom blank (position + distance) text =
      (scanFrom blank position text).map (moved distance) := by
  induction text generalizing position with
  | nil =>
      rfl
  | cons character later inductionHypothesis =>
      have laterEq := inductionHypothesis (position + 1)
      rw [Nat.add_right_comm] at laterEq
      rw [scanFrom_cons, scanFrom_cons, laterEq, consCharacter, consCharacter]
      split
      · rfl
      · split
        · exact consDigit_moved character position distance _
        · rfl

theorem kinds_scanFrom
    (position other : Nat) (text : List Char) :
    (scanFrom blank position text).map kind =
      (scanFrom blank other text).map kind := by
  have fromZero :
      ∀ distance,
        (scanFrom blank distance text).map kind =
          (scanFrom blank 0 text).map kind := by
    intro distance
    have moves : scanFrom blank (0 + distance) text = _ :=
      scanFrom_moved 0 distance text
    rw [Nat.zero_add] at moves
    rw [moves, List.map_map]
    rfl
  rw [fromZero position, fromZero other]

/-- Only the blanks of the text itself matter. -/
theorem scanFrom_congr
    {wider : Char → Bool} {text : List Char}
    (same : ∀ character ∈ text, blank character = wider character)
    (position : Nat) :
    scanFrom blank position text = scanFrom wider position text := by
  induction text generalizing position with
  | nil =>
      rfl
  | cons character later inductionHypothesis =>
      have characterSame : blank character = wider character :=
        same character List.mem_cons_self
      have laterSame :=
        inductionHypothesis
          (fun other member => same other (List.mem_cons_of_mem _ member))
          (position + 1)
      rw [scanFrom_cons, scanFrom_cons, laterSame]
      simp only [consCharacter, characterSame]

end Token

namespace Cursor

def tokens (blank : Char → Bool) (cursor : Cursor) : List Token :=
  Token.scanFrom blank cursor.offset cursor.rest

inductive NextToken (blank : Char → Bool) : Cursor → Token → Cursor → Prop
  | number {before start finish : Cursor} {run : List Char} :
      Blanks blank before start →
      run ≠ [] →
      (∀ digit ∈ run, digit.isDigit = true) →
      start.Passes run finish →
      finish.Stops Char.isDigit →
      NextToken blank before ⟨.number run, start.offset⟩ finish
  | character {before start finish : Cursor} {character : Char} :
      Blanks blank before start →
      start.Passes [character] finish →
      blank character = false →
      character.isDigit = false →
      NextToken blank before ⟨.ofCharacter character, start.offset⟩ finish

section

variable {blank : Char → Bool}

theorem Passes.tokens_eq
    {start finish : Cursor} {character : Char}
    (passes : start.Passes [character] finish) :
    start.tokens blank =
      Token.consCharacter blank (character, start.offset)
        (finish.tokens blank) := by
  rw [tokens, passes.rest_eq, List.singleton_append, Token.scanFrom_cons,
    tokens, passes.offset_eq]
  rfl

theorem Blanks.tokens_eq
    {start finish : Cursor}
    (blanks : Blanks blank start finish) :
    start.tokens blank = finish.tokens blank := by
  obtain ⟨spaces, spacesBlank, passes⟩ := blanks
  induction spaces generalizing start with
  | nil =>
      rw [passes.unique (.refl start)]
  | cons space later inductionHypothesis =>
      obtain ⟨middle, spacePasses, laterPasses⟩ := passes.cons_split
      have laterEq :=
        inductionHypothesis
          (fun other member => spacesBlank other (.tail _ member))
          laterPasses
      rw [spacePasses.tokens_eq, ← laterEq, Token.consCharacter,
        if_pos (spacesBlank space List.mem_cons_self)]

private theorem not_startsNumber_of_stops
    {cursor : Cursor}
    (stops : cursor.Stops Char.isDigit) :
    ¬ Token.StartsNumber cursor.offset (cursor.tokens blank) := by
  intro starts
  obtain ⟨digit, later, ahead, isDigit⟩ :=
    Token.isDigit_of_startsNumber starts
  have notDigit : digit.isDigit = false :=
    stops digit (by rw [ahead]; rfl)
  rw [notDigit] at isDigit
  cases isDigit

/-- A maximal run of digits makes one number. -/
theorem Passes.tokens_of_digits
    (separates : SeparatesTokens blank)
    {start finish : Cursor} {run : List Char}
    (passes : start.Passes run finish)
    (nonempty : run ≠ [])
    (digits : ∀ digit ∈ run, digit.isDigit = true)
    (stops : finish.Stops Char.isDigit) :
    start.tokens blank =
      ⟨.number run, start.offset⟩ :: finish.tokens blank := by
  induction run generalizing start with
  | nil =>
      exact absurd rfl nonempty
  | cons digit later inductionHypothesis =>
      obtain ⟨middle, digitPasses, laterPasses⟩ := passes.cons_split
      have isDigit : digit.isDigit = true :=
        digits digit List.mem_cons_self
      have notBlank : ¬ blank digit = true := by
        rw [separates.digit digit isDigit]
        exact Bool.false_ne_true
      have offsetEq : middle.offset = start.offset + 1 :=
        digitPasses.offset_eq
      rw [digitPasses.tokens_eq, Token.consCharacter, if_neg notBlank,
        if_pos isDigit]
      cases later with
      | nil =>
          have middleEq : middle = finish :=
            Passes.unique (.refl middle) laterPasses
          rw [middleEq] at offsetEq ⊢
          apply Token.consDigit_of_not_startsNumber
          rw [← offsetEq]
          exact not_startsNumber_of_stops stops
      | cons second more =>
          have laterEq :=
            inductionHypothesis laterPasses (List.cons_ne_nil _ _)
              fun other member => digits other (List.mem_cons_of_mem _ member)
          rw [laterEq, Token.consDigit, if_pos offsetEq]

theorem NextToken.tokens_eq
    (separates : SeparatesTokens blank)
    {start finish : Cursor} {token : Token}
    (next : NextToken blank start token finish) :
    start.tokens blank = token :: finish.tokens blank := by
  cases next with
  | number blanks nonempty digits passes stops =>
      rw [blanks.tokens_eq,
        passes.tokens_of_digits separates nonempty digits stops]
  | character blanks passes notBlank notDigit =>
      rw [blanks.tokens_eq, passes.tokens_eq, Token.consCharacter, notBlank,
        notDigit]
      rfl

/-- Where no blank is ahead, either the line ends or the character ahead makes
a token, and a digit makes a number. -/
theorem end_or_nextToken_of_stops
    {place : Cursor}
    (stops : place.Stops blank) :
    place.rest = [] ∨
      ∃ character later token finish,
        place.rest = character :: later ∧
          NextToken blank place token finish ∧
          token.start = place.offset ∧
          ((character.isDigit = true ∧ ∃ run, token.kind = .number run) ∨
            (character.isDigit = false ∧
              token.kind = .ofCharacter character)) := by
  cases ahead : place.rest with
  | nil =>
      exact Or.inl rfl
  | cons character later =>
      right
      cases isDigit : character.isDigit with
      | true =>
          have passes := takeWhile_passes Char.isDigit place
          have digitStops := takeWhile_stops Char.isDigit place
          have nonempty : (place.takeWhile Char.isDigit).1 ≠ [] := by
            simp [takeWhile, ahead, isDigit]
          exact ⟨character, later, _, _, rfl,
            .number (.refl place) nonempty (fun _ => takeWhile_accepted) passes
              digitStops,
            rfl, Or.inl ⟨isDigit, _, rfl⟩⟩
      | false =>
          have notBlank : blank character = false :=
            stops character (by rw [ahead]; rfl)
          have passes :
              place.Passes [character] ⟨place.offset + 1, later⟩ :=
            ⟨ahead, rfl⟩
          exact ⟨character, later, _, _, rfl,
            .character (.refl place) passes notBlank isDigit,
            rfl, Or.inr ⟨isDigit, rfl⟩⟩

theorem NextToken.of_blanks
    {start place finish : Cursor} {token : Token}
    (blanks : Blanks blank start place)
    (next : NextToken blank place token finish) :
    NextToken blank start token finish := by
  cases next with
  | number moreBlanks nonempty digits passes stops =>
      exact .number (blanks.trans moreBlanks) nonempty digits passes stops
  | character moreBlanks passes notBlank notDigit =>
      exact .character (blanks.trans moreBlanks) passes notBlank notDigit

/-- Either only blanks are ahead, or there is a next token. -/
theorem end_or_nextToken
    (start : Cursor) :
    (∃ last, Blanks blank start last ∧ last.rest = []) ∨
      ∃ token finish, NextToken blank start token finish := by
  have blanks : Blanks blank start (start.takeWhile blank).2 :=
    ⟨_, fun _ member => takeWhile_accepted member,
      takeWhile_passes blank start⟩
  rcases end_or_nextToken_of_stops (takeWhile_stops blank start) with
    atEnd | ⟨_, _, token, finish, _, next, _, _⟩
  · exact Or.inl ⟨_, blanks, atEnd⟩
  · exact Or.inr ⟨token, finish, next.of_blanks blanks⟩

theorem nextToken_of_tokens
    (separates : SeparatesTokens blank)
    {start : Cursor} {token : Token} {later : List Token}
    (tokensEq : start.tokens blank = token :: later) :
    ∃ finish,
      NextToken blank start token finish ∧ finish.tokens blank = later := by
  rcases start.end_or_nextToken with
    ⟨last, blanks, atEnd⟩ | ⟨found, finish, next⟩
  · rw [blanks.tokens_eq, tokens, atEnd] at tokensEq
    cases tokensEq
  · rw [next.tokens_eq separates] at tokensEq
    cases tokensEq
    exact ⟨finish, next, rfl⟩

theorem blanks_of_tokens_nil
    (separates : SeparatesTokens blank)
    {start : Cursor}
    (tokensEq : start.tokens blank = []) :
    ∃ last, Blanks blank start last ∧ last.rest = [] := by
  rcases start.end_or_nextToken with atEnd | ⟨token, finish, next⟩
  · exact atEnd
  · rw [next.tokens_eq separates] at tokensEq
    cases tokensEq

/-- The token of a symbol comes from that symbol only. -/
theorem NextToken.symbol
    {start finish : Cursor} {token : Token} {symbol : Char}
    (next : NextToken blank start token finish)
    (kindEq : token.kind = .ofCharacter symbol) :
    Symbol blank start symbol finish := by
  cases next with
  | number _ _ _ _ _ =>
      exact absurd kindEq.symm (TokenKind.ofCharacter_ne_number symbol _)
  | character blanks passes _ _ =>
      cases TokenKind.ofCharacter_injective kindEq
      exact ⟨_, blanks, passes⟩

theorem NextToken.offset_eq_of_character
    {start finish : Cursor} {character : Char} {position : Nat}
    (next : NextToken blank start ⟨.ofCharacter character, position⟩ finish) :
    finish.offset = position + 1 := by
  generalize tokenEq : (⟨.ofCharacter character, position⟩ : Token) = token
    at next
  cases next with
  | number _ _ _ _ _ =>
      have kindEq := congrArg Token.kind tokenEq
      exact absurd kindEq (TokenKind.ofCharacter_ne_number character _)
  | character _ passes _ _ =>
      have startEq : position = _ := congrArg Token.start tokenEq
      rw [passes.offset_eq, startEq]
      rfl

/-- A mark makes a token of its own. -/
theorem Symbol.exists_nextToken
    (separates : SeparatesTokens blank)
    {start finish : Cursor} {symbol : Char}
    (isSymbol : Symbol blank start symbol finish)
    (isMark : symbol ∈ marks) :
    ∃ position,
      NextToken blank start ⟨.ofCharacter symbol, position⟩ finish := by
  obtain ⟨before, blanks, passes⟩ := isSymbol
  have notDigit : ∀ mark ∈ marks, mark.isDigit = false :=
    forall_mem_marks.mpr (by decide)
  exact ⟨before.offset,
    .character blanks passes (separates.mark symbol isMark)
      (notDigit symbol isMark)⟩

theorem Symbol.tokens_eq
    (separates : SeparatesTokens blank)
    {start finish : Cursor} {symbol : Char}
    (isSymbol : Symbol blank start symbol finish)
    (isMark : symbol ∈ marks) :
    ∃ position,
      start.tokens blank =
        ⟨.ofCharacter symbol, position⟩ :: finish.tokens blank := by
  obtain ⟨position, next⟩ := isSymbol.exists_nextToken separates isMark
  exact ⟨position, next.tokens_eq separates⟩

end

end Cursor

end LineCalculator
