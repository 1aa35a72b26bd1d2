import LineCalculator.Proofs.Calculation

/-!
# Texts of responses

The response to a line of a stream has an empty text exactly if the line is
blank, and no text has a line feed.
-/

namespace LineCalculator

/-! ## Texts -/

theorem Decimal.lineFeed_not_mem_digits
    (number : Nat) :
    '\n' ∉ digits number := by
  intro member
  have isDigit := isDigit_of_mem_digits member
  cases isDigit

private theorem Decimal.lineFeed_not_mem_signed
    (number : Int) :
    '\n' ∉ signed number := by
  cases number with
  | ofNat magnitude =>
      exact lineFeed_not_mem_digits magnitude
  | negSucc magnitude =>
      have noLineFeed := lineFeed_not_mem_digits (magnitude + 1)
      simp [signed, noLineFeed]

private theorem Decimal.signed_ne_nil
    (number : Int) :
    signed number ≠ [] := by
  cases number with
  | ofNat magnitude =>
      exact Nat.toDigits_ne_nil
  | negSucc magnitude =>
      exact List.cons_ne_nil _ _

private theorem lineFeed_not_mem_numbered
    {words : String} (number : Nat)
    (noLineFeed : '\n' ∉ words.toList) :
    '\n' ∉ (words ++ Decimal.ofNat number).toList := by
  rw [String.toList_append, List.mem_append, Decimal.ofNat,
    String.toList_ofList]
  exact fun member =>
    member.elim noLineFeed (Decimal.lineFeed_not_mem_digits number)

theorem ParseError.lineFeed_not_mem_message
    (error : ParseError) :
    '\n' ∉ error.message.toList := by
  unfold message
  cases error with
  | nestedTooDeeply =>
      decide
  | expectedNumber position =>
      exact lineFeed_not_mem_numbered position (by decide)
  | missingClosing position =>
      exact lineFeed_not_mem_numbered position (by decide)
  | unexpectedText position =>
      exact lineFeed_not_mem_numbered position (by decide)
  | outOfRange position =>
      exact lineFeed_not_mem_numbered position (by decide)

namespace Reply.Regular

variable {reply : Reply} (isRegular : reply.Regular)

include isRegular

theorem lineFeed_not_mem_render :
    '\n' ∉ reply.render.toList := by
  cases isRegular with
  | value inRange =>
      simp [render, ofValue, Decimal.ofInt, Decimal.lineFeed_not_mem_signed]
  | malformed error =>
      simp [render, ofFailure, Failure.ofParseError, FailureKind.name,
        error.lineFeed_not_mem_message]
  | divisionByZero =>
      decide
  | nestedTooDeeply =>
      decide

theorem render_ne_empty :
    reply.render ≠ "" := by
  intro isEmpty
  have noCharacters : reply.render.toList = [] := by
    rw [isEmpty]
    rfl
  cases isRegular with
  | value inRange =>
      simp [render, ofValue, Decimal.ofInt, Decimal.signed_ne_nil]
        at noCharacters
  | malformed error =>
      simp [render, ofFailure, Failure.ofParseError, FailureKind.name]
        at noCharacters
  | divisionByZero =>
      revert isEmpty
      decide
  | nestedTooDeeply =>
      revert isEmpty
      decide

theorem render?_eq_some :
    reply.render? = some reply.render := by
  refine Reply.render?_eq_some_iff.mpr ⟨rfl, fun isOk value hasValue => ?_⟩
  cases isRegular with
  | value inRange =>
      cases hasValue
      exact Word.isOversized_of_inRange inRange
  | malformed error =>
      cases hasValue
  | divisionByZero =>
      cases hasValue
  | nestedTooDeeply =>
      cases hasValue

end Reply.Regular

/-- Every reply to a line can be shown. -/
theorem Session.render?_of_calculate
    {session : Session} {line : List Char} {reply : Reply}
    (answered : (session.calculate line).1 = .ok reply) :
    reply.render? = some reply.render := by
  rcases session.calculate_cases line with
    ⟨digitCount, _, aborted⟩ | ⟨other, _, otherAnswered, isRegular⟩
  · rw [aborted] at answered
    cases answered
  · rw [otherAnswered] at answered
    cases answered
    exact isRegular.render?_eq_some

/-! ## Blank lines -/

private theorem Lines.isBlank_of_isLineEnd
    {character : Char}
    (isEnd : isLineEnd character = true) :
    isBlank character = true := by
  simp only [isLineEnd, Bool.or_eq_true, beq_iff_eq] at isEnd
  rcases isEnd with rfl | rfl <;> decide

/-- The line ends at the end of a line are blank themselves. -/
theorem Lines.all_isBlank_trimEnd
    (line : List Char) :
    (trimEnd line).all isBlank = line.all isBlank := by
  have endsBlank : (line.reverse.takeWhile isLineEnd).all isBlank = true := by
    rw [List.all_eq_true]
    intro character member
    exact isBlank_of_isLineEnd (List.mem_takeWhile_imp member)
  calc
    (trimEnd line).all isBlank =
        (line.reverse.dropWhile isLineEnd).all isBlank := by
      rw [trimEnd, List.all_reverse]
    _ = (line.reverse.takeWhile isLineEnd ++
          line.reverse.dropWhile isLineEnd).all isBlank := by
      rw [List.all_append, endsBlank, Bool.true_and]
    _ = line.all isBlank := by
      rw [List.takeWhile_append_dropWhile, List.all_reverse]

namespace Session

theorem respond_of_blank
    {line : List Char} (session : Session)
    (blank : line.all isBlank = true) :
    session.respond line = (.ok none, session) := by
  rw [← Lines.all_isBlank_trimEnd] at blank
  simp only [respond, blank, if_true]

theorem respond_of_not_blank
    {line : List Char} (session : Session)
    (notBlank : line.all isBlank = false) :
    session.respond line =
      ((session.calculate (Lines.trimEnd line)).1.map some,
        (session.calculate (Lines.trimEnd line)).2) := by
  rw [← Lines.all_isBlank_trimEnd] at notBlank
  simp only [respond, notBlank, Bool.false_eq_true, if_false]

/-- The text of a response is that of a blank line, or of a regular reply. -/
theorem respondText_cases
    (session : Session) (line : List Char) :
    (line.all isBlank = true ∧ (session.respondText line).1 = .ok "") ∨
      (line.all isBlank = false ∧
        ((∃ abort, (session.respondText line).1 = .error abort) ∨
          ∃ reply : Reply,
            reply.Regular ∧
              (session.respondText line).1 = .ok reply.render)) := by
  cases blank : line.all isBlank with
  | true =>
      rw [respondText, session.respond_of_blank blank]
      exact Or.inl ⟨rfl, rfl⟩
  | false =>
      refine Or.inr ⟨rfl, ?_⟩
      rw [respondText, session.respond_of_not_blank blank]
      rcases session.calculate_cases (Lines.trimEnd line) with
        ⟨_, _, aborted⟩ | ⟨reply, _, answered, isRegular⟩
      · rw [aborted]
        exact Or.inl ⟨_, rfl⟩
      · rw [answered]
        exact Or.inr ⟨reply, isRegular, rfl⟩

theorem respondText_eq_empty_iff
    (session : Session) (line : List Char) :
    (session.respondText line).1 = .ok "" ↔
      ∀ character ∈ line, isBlank character = true := by
  rw [← List.all_eq_true]
  rcases session.respondText_cases line with
    ⟨blank, textEq⟩ | ⟨notBlank, ⟨abort, aborted⟩ |
      ⟨reply, isRegular, textEq⟩⟩
  · simp only [blank, textEq]
  · simp [notBlank, aborted]
  · have nonempty := isRegular.render_ne_empty
    simp [notBlank, textEq, nonempty]

theorem lineFeed_not_mem_of_respondText
    {session : Session} {line : List Char} {text : String}
    (responded : (session.respondText line).1 = .ok text) :
    '\n' ∉ text.toList := by
  rcases session.respondText_cases line with
    ⟨_, textEq⟩ | ⟨_, ⟨abort, aborted⟩ | ⟨reply, isRegular, textEq⟩⟩
  · rw [textEq] at responded
    cases responded
    decide
  · rw [aborted] at responded
    cases responded
  · rw [textEq] at responded
    cases responded
    exact isRegular.lineFeed_not_mem_render

end Session

end LineCalculator
