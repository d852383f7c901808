import GatewayLink.Proofs.Json.Grammar

/-!
# What the scanner reads is spelled

A scanner that has read a text stands for the tokens that the text spells and for the beginning of
another token; `Scanner.feed_hasRead` keeps this for one more character.  The parts of a string are
read from exactly the texts that spell them and end where an unescaped quote may follow.
-/

namespace GatewayLink

namespace Json

/-- One character between quotes: whether it escapes the next, unless it ends the string. -/
def quoteStep (escaping : Bool) (character : Char) : Option Bool :=
  if escaping then some false
  else if character = '"' then none
  else some (character = '\\')

/-- No quote ends a text, and nothing after it is escaped. -/
def Closed (body : List Char) : Prop :=
  body.foldlM quoteStep false = some false

theorem hexValue?_plain {character : Char} {value : Nat}
    (digit : hexValue? character = some value) (escaping : Bool) :
    quoteStep escaping character = some false := by
  have no_quote : character ≠ '"' := by
    rintro rfl
    simp [hexValue?] at digit
  have no_backslash : character ≠ '\\' := by
    rintro rfl
    simp [hexValue?] at digit
  cases escaping <;> simp [quoteStep, no_quote, no_backslash]

theorem unitOf?_digits {first second third fourth : Char} {value : Nat}
    (written : unitOf? first second third fourth = some value) :
    [first, second, third, fourth].foldlM quoteStep false = some false := by
  simp only [unitOf?, Option.bind_eq_bind, Option.bind_eq_some_iff, Option.pure_def,
    Option.some.injEq] at written
  obtain ⟨_, first_digit, _, second_digit, _, third_digit, _, fourth_digit, -⟩ := written
  simp [hexValue?_plain first_digit, hexValue?_plain second_digit, hexValue?_plain third_digit,
    hexValue?_plain fourth_digit]

theorem Piece.Spelled.closed {piece : Piece} {text : List Char} (spelled : piece.Spelled text) :
    Closed text := by
  cases spelled with
  | plain _ no_quote no_backslash => simp [Closed, quoteStep, no_quote, no_backslash]
  | short _ => simp [Closed, quoteStep]
  | unit written =>
      have digits := unitOf?_digits written
      simpa [Closed, quoteStep] using digits

theorem Closed.append_iff {left right : List Char} (closed : Closed left) :
    Closed (left ++ right) ↔ Closed right := by
  simp only [Closed] at closed ⊢
  simp [List.foldlM_append, closed]

theorem StringBody.closed {pieces : List Piece} {body : List Char}
    (spelled : StringBody pieces body) : Closed body := by
  induction spelled with
  | nil => rfl
  | cons piece rest ih => exact (Closed.append_iff piece.closed).2 ih

/-- The parts of a string are read from its spelling. -/
theorem StringBody.pieces?_eq {pieces : List Piece} {body : List Char}
    (spelled : StringBody pieces body) : pieces? body = some pieces := by
  induction spelled with
  | nil => rfl
  | cons piece rest ih =>
      cases piece with
      | plain printable no_quote no_backslash =>
          rw [List.singleton_append, pieces?]
          · simp [ih, Nat.not_lt.2 printable]
          · intro _ _ _ _ _ backslash
            exact absurd backslash no_backslash
          · intro _ _ backslash
            exact absurd backslash no_backslash
          · intro backslash
            exact absurd backslash no_backslash
      | @short letter character escaped =>
          have letter_ne : letter ≠ 'u' := by
            rintro rfl
            simp [shortEscape?] at escaped
          rw [List.cons_append, List.singleton_append, pieces?]
          · simp [ih, escaped]
          · intro _ _ _ _ _ unit
            exact absurd unit letter_ne
      | unit written => simp [pieces?, written, ih]

/-- A closed text is read as parts only if it spells them. -/
theorem stringBody_of_pieces? {pieces : List Piece} {body : List Char} (closed : Closed body)
    (reads : pieces? body = some pieces) : StringBody pieces body := by
  fun_induction pieces? body generalizing pieces with
  | case1 =>
      simp only [Option.some.injEq] at reads
      subst reads
      exact .nil
  | case2 first second third fourth rest ih =>
      simp only [Option.bind_eq_bind, Option.bind_eq_some_iff, Option.pure_def,
        Option.some.injEq] at reads
      obtain ⟨value, written, others, reads, rfl⟩ := reads
      have spelled := Piece.Spelled.unit written
      exact .cons spelled (ih ((Closed.append_iff spelled.closed).1 closed) reads)
  | case3 letter rest no_unit ih =>
      simp only [Option.bind_eq_bind, Option.bind_eq_some_iff, Option.pure_def,
        Option.some.injEq] at reads
      obtain ⟨value, escaped, others, reads, rfl⟩ := reads
      have spelled := Piece.Spelled.short escaped
      exact .cons spelled (ih ((Closed.append_iff spelled.closed).1 closed) reads)
  | case4 => simp at reads
  | case5 => simp at reads
  | case6 character rest no_unit no_escape alone printable ih =>
      obtain ⟨others, rest_reads, rfl⟩ := Option.map_eq_some_iff.1 reads
      have no_quote : character ≠ '"' := by
        rintro rfl
        simp [Closed, quoteStep] at closed
      have no_backslash : character ≠ '\\' := by
        rintro rfl
        cases rest with
        | nil => exact alone rfl rfl
        | cons letter others => exact no_escape letter others rfl rfl
      have spelled := Piece.Spelled.plain (Nat.not_lt.1 printable) no_quote no_backslash
      exact .cons spelled (ih ((Closed.append_iff spelled.closed).1 closed) rest_reads)

theorem stringToken?_spelled {body : List Char} {token : Token} (closed : Closed body)
    (reads : stringToken? body = some token) : token.Spelled ('"' :: (body ++ ['"'])) := by
  obtain ⟨pieces, pieces_read, rfl⟩ := Option.map_eq_some_iff.1 reads
  exact (stringBody_of_pieces? closed pieces_read).string

theorem numberToken?_eq_some_iff {text : List Char} {token : Token} :
    numberToken? text = some token ↔
      ∃ numeral : Numeral,
        numeral.Spelled text ∧ token = .number (Number.ofNumeral? numeral) := by
  simp only [numberToken?, Option.map_eq_some_iff, Numeral.ofText?_eq_some_iff]
  constructor
  · rintro ⟨numeral, spelled, rfl⟩
    exact ⟨numeral, spelled, rfl⟩
  · rintro ⟨numeral, spelled, rfl⟩
    exact ⟨numeral, spelled, rfl⟩

theorem punctuation?_spelled {character : Char} {token : Token}
    (read : punctuation? character = some token) : token.Spelled [character] := by
  unfold punctuation? at read
  split at read <;> simp only [Option.some.injEq, reduceCtorEq] at read <;> subst read
  all_goals constructor

namespace Scanner

/-- What a scanner is in the middle of, given the text after its last complete token. -/
def Unfinished : Scanning → List Char → Prop
  | .betweenTokens, text => text = []
  | .word expected token, text => token.Spelled (text ++ expected)
  | .numeral reversed, text => text = reversed.reverse
  | .string reversed escaping, text =>
    text = '"' :: reversed.reverse ∧ reversed.reverse.foldlM quoteStep false = some escaping

/-- A scanner has read a text: the tokens so far, and the beginning of the next. -/
def HasRead (scanner : Scanner) (text : List Char) : Prop :=
  ∃ before after, Spelled scanner.reversed.reverse before ∧ Unfinished scanner.scanning after ∧
    text = before ++ after

theorem hasRead_token {tokens : List Token} {token : Token} {before lexeme : List Char}
    (spelled : Spelled tokens.reverse before) (complete : token.Spelled lexeme) :
    HasRead ⟨.betweenTokens, token :: tokens⟩ (before ++ lexeme) := by
  refine ⟨before ++ lexeme, [], ?_, rfl, by simp⟩
  rw [List.reverse_cons]
  exact spelled.append complete.alone

/-- A character that does not continue a token is a blank, or punctuation, or begins another. -/
theorem begin?_cases {tokens : List Token} {character : Char} {next : Scanner}
    (begins : begin? tokens character = some next) :
    (isBlank character = true ∧ next = ⟨.betweenTokens, tokens⟩) ∨
      (∃ token, token.Spelled [character] ∧ next = ⟨.betweenTokens, token :: tokens⟩) ∨
      ∃ scanning, Unfinished scanning [character] ∧ next = ⟨scanning, tokens⟩ := by
  unfold begin? at begins
  split at begins
  · next blank => exact .inl ⟨blank, (Option.some.inj begins).symm⟩
  · refine .inr ?_
    split at begins
    · next token read =>
      exact .inl ⟨token, punctuation?_spelled read, (Option.some.inj begins).symm⟩
    · refine .inr ?_
      split at begins
      · next quote => exact ⟨.string [] false, ⟨by simp [quote], rfl⟩, (Option.some.inj begins).symm⟩
      split at begins
      · exact ⟨.numeral [character], rfl, (Option.some.inj begins).symm⟩
      split at begins
      · next letter => exact ⟨_, letter ▸ .null, (Option.some.inj begins).symm⟩
      split at begins
      · next letter => exact ⟨_, letter ▸ .yes, (Option.some.inj begins).symm⟩
      split at begins
      · next letter => exact ⟨_, letter ▸ .no, (Option.some.inj begins).symm⟩
      · cases begins

theorem begin?_hasRead {tokens : List Token} {character : Char} {next : Scanner}
    {before : List Char} (spelled : Spelled tokens.reverse before)
    (begins : begin? tokens character = some next) : next.HasRead (before ++ [character]) := by
  rcases begin?_cases begins with ⟨blank, rfl⟩ | ⟨token, punctuation, rfl⟩ | ⟨_, unfinished, rfl⟩
  · have blanks : Blank [character] := by simpa [Blank] using blank
    exact ⟨before ++ [character], [], spelled.append_blank blanks, rfl, by simp⟩
  · exact hasRead_token spelled punctuation
  · exact ⟨before, [character], spelled, unfinished, rfl⟩

theorem feed_word_hasRead {expected : List Char} {token : Token} {tokens : List Token}
    {character : Char} {next : Scanner} {before letters : List Char}
    (spelled : Spelled tokens.reverse before) (word : token.Spelled (letters ++ expected))
    (feeds : feed ⟨.word expected token, tokens⟩ character = some next) :
    next.HasRead (before ++ (letters ++ [character])) := by
  cases expected with
  | nil => simp [feed] at feeds
  | cons letter rest =>
      simp only [feed] at feeds
      split at feeds
      · next same =>
        subst same
        split at feeds
        · next last =>
          obtain rfl := Option.some.inj feeds
          rw [List.isEmpty_iff.1 last] at word
          exact hasRead_token spelled word
        · obtain rfl := Option.some.inj feeds
          exact ⟨before, letters ++ [character], spelled, by simpa [Unfinished] using word, rfl⟩
      · simp at feeds

theorem feed_numeral_hasRead {reversed : List Char} {tokens : List Token} {character : Char}
    {next : Scanner} {before : List Char} (spelled : Spelled tokens.reverse before)
    (feeds : feed ⟨.numeral reversed, tokens⟩ character = some next) :
    next.HasRead (before ++ (reversed.reverse ++ [character])) := by
  simp only [feed] at feeds
  split at feeds
  · obtain rfl := Option.some.inj feeds
    exact ⟨before, reversed.reverse ++ [character], spelled, by simp [Unfinished], rfl⟩
  · obtain ⟨token, number, begins⟩ := Option.bind_eq_some_iff.1 feeds
    obtain ⟨numeral, written, rfl⟩ := numberToken?_eq_some_iff.1 number
    have numbered : Spelled (Token.number (Number.ofNumeral? numeral) :: tokens).reverse
        (before ++ reversed.reverse) := by
      rw [List.reverse_cons]
      exact spelled.append (Token.Spelled.number written).alone
    rw [← List.append_assoc]
    exact begin?_hasRead numbered begins

theorem feed_string_hasRead {reversed : List Char} {escaping : Bool} {tokens : List Token}
    {character : Char} {next : Scanner} {before : List Char}
    (spelled : Spelled tokens.reverse before)
    (quoted : reversed.reverse.foldlM quoteStep false = some escaping)
    (feeds : feed ⟨.string reversed escaping, tokens⟩ character = some next) :
    next.HasRead (before ++ ('"' :: reversed.reverse ++ [character])) := by
  cases escaping with
  | true =>
      obtain rfl := Option.some.inj feeds
      refine ⟨before, '"' :: (reversed.reverse ++ [character]), spelled, ⟨by simp, ?_⟩, rfl⟩
      simp [List.foldlM_append, quoted, quoteStep]
  | false =>
      simp only [feed] at feeds
      split at feeds
      · next quote =>
        subst quote
        obtain ⟨token, read, rfl⟩ := Option.map_eq_some_iff.1 feeds
        exact hasRead_token spelled (stringToken?_spelled quoted read)
      · next no_quote =>
        obtain rfl := Option.some.inj feeds
        refine ⟨before, '"' :: (reversed.reverse ++ [character]), spelled, ⟨by simp, ?_⟩, rfl⟩
        simp [List.foldlM_append, quoted, quoteStep, no_quote]

/-- One more character. -/
theorem feed_hasRead {scanner next : Scanner} {character : Char} {text : List Char}
    (read : scanner.HasRead text) (feeds : scanner.feed character = some next) :
    next.HasRead (text ++ [character]) := by
  obtain ⟨scanning, tokens⟩ := scanner
  obtain ⟨before, after, spelled, unfinished, rfl⟩ := read
  rw [List.append_assoc]
  cases scanning with
  | betweenTokens =>
      obtain rfl : after = [] := unfinished
      exact begin?_hasRead spelled feeds
  | word expected token => exact feed_word_hasRead spelled unfinished feeds
  | numeral reversed =>
      obtain rfl : after = reversed.reverse := unfinished
      exact feed_numeral_hasRead spelled feeds
  | string reversed escaping =>
      obtain ⟨rfl, quoted⟩ := unfinished
      exact feed_string_hasRead spelled quoted feeds

/-- A whole text. -/
theorem foldlM_hasRead {scanner final : Scanner} {read text : List Char}
    (has_read : scanner.HasRead read) (runs : text.foldlM feed scanner = some final) :
    final.HasRead (read ++ text) := by
  induction text generalizing scanner read with
  | nil =>
      simp only [List.foldlM_nil, Option.pure_def, Option.some.injEq] at runs
      simpa [← runs] using has_read
  | cons character rest ih =>
      simp only [List.foldlM_cons, Option.bind_eq_bind, Option.bind_eq_some_iff] at runs
      obtain ⟨next, feeds, runs⟩ := runs
      have result := ih (feed_hasRead has_read feeds) runs
      simpa using result

end Scanner

/-- A text is read as tokens only if it spells them. -/
theorem spelled_of_tokens? {text : List Char} {tokens : List Token}
    (reads : tokens? text = some tokens) : Spelled tokens text := by
  simp only [tokens?, Option.bind_eq_some_iff] at reads
  obtain ⟨⟨scanning, reversed⟩, runs, finishes⟩ := reads
  have at_start : Scanner.start.HasRead [] := ⟨[], [], .blank blank_nil, rfl, rfl⟩
  obtain ⟨before, after, spelled, unfinished, rfl⟩ := Scanner.foldlM_hasRead at_start runs
  cases scanning with
  | betweenTokens =>
      simp only [Scanner.finish?, Option.some.injEq] at finishes
      obtain rfl : after = [] := unfinished
      simpa [← finishes] using spelled
  | numeral digits =>
      obtain ⟨token, number, rfl⟩ := Option.map_eq_some_iff.1 finishes
      obtain ⟨numeral, written, rfl⟩ := numberToken?_eq_some_iff.1 number
      obtain rfl : after = digits.reverse := unfinished
      rw [List.reverse_cons]
      exact spelled.append (Token.Spelled.number written).alone
  | word expected token => simp [Scanner.finish?] at finishes
  | string read escaping => simp [Scanner.finish?] at finishes

end Json

end GatewayLink
