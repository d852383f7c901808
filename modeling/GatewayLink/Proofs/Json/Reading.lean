import GatewayLink.Proofs.Json.Scanning
import GatewayLink.Proofs.Json.Syntax

/-!
# What is spelled is read

The scanner reads the tokens that a text spells as long as no numeral follows another directly,
since then only a blank would part them.  In the tokens of a document that never happens.  So a text
is read as a document exactly if it spells that document, and it spells one document at most.
-/

namespace GatewayLink

namespace Json

/-- Whether a token is a numeral. -/
def Token.isNumber : Token → Bool
  | .number _ => true
  | _ => false

/-- A sequence does not begin with a numeral. -/
def NoNumberFirst (tokens : List Token) : Prop :=
  ∀ token, tokens.head? = some token → token.isNumber = false

/-- No numeral follows another directly. -/
def Parted : List Token → Prop
  | [] => True
  | token :: rest => (token.isNumber = true → NoNumberFirst rest) ∧ Parted rest

theorem parted_nil : Parted [] :=
  trivial

theorem noNumberFirst_nil : NoNumberFirst [] := by
  simp [NoNumberFirst]

theorem noNumberFirst_cons {token : Token} (other : token.isNumber = false) (rest : List Token) :
    NoNumberFirst (token :: rest) := by
  simpa [NoNumberFirst] using other

theorem parted_cons {token : Token} {rest : List Token} (other : token.isNumber = false)
    (parted : Parted rest) : Parted (token :: rest) :=
  ⟨fun number => absurd number (Bool.eq_false_iff.1 other), parted⟩

/-- A text does not go on with a numeral. -/
def EndsNumeral (text : List Char) : Prop :=
  ∀ character, text.head? = some character → isNumeric character = false

theorem digit_isNumeric {character : Char} (digit : character.isDigit = true) :
    isNumeric character = true := by
  simp [isNumeric, digit]

theorem digits_isNumeric {text : List Char} (digits : Numeral.Digits text) :
    ∀ character ∈ text, isNumeric character = true :=
  fun character member => digit_isNumeric (digits.2 character member)

/-- All of a numeral continues a numeral. -/
theorem numeral_isNumeric {numeral : Numeral} {text : List Char} (spelled : numeral.Spelled text) :
    ∀ character ∈ text, isNumeric character = true := by
  obtain ⟨digits, fractioned, exponented⟩ := spelled
  intro character member
  simp only [List.append_assoc, List.mem_append] at member
  rcases member with signed | whole | fraction | exponent
  · simp only [Numeral.signText] at signed
    split at signed <;> simp only [List.mem_singleton, List.not_mem_nil] at signed
    subst signed
    decide
  · exact digits_isNumeric digits.1 character whole
  · cases fractioned with
    | absent => simp at fraction
    | present some_digits =>
        rcases List.mem_cons.1 fraction with rfl | fraction
        · decide
        · exact digits_isNumeric some_digits character fraction
  · cases exponented with
    | absent => simp at exponent
    | present marked signed some_digits =>
        rcases List.mem_cons.1 exponent with rfl | exponent
        · rcases marked with rfl | rfl <;> decide
        · rcases List.mem_append.1 exponent with sign | exponent
          · cases signed <;> simp only [List.mem_singleton, List.not_mem_nil] at sign <;>
              subst sign <;> decide
          · exact digits_isNumeric some_digits character exponent

theorem numeral_eq_cons {numeral : Numeral} {text : List Char} (spelled : numeral.Spelled text) :
    ∃ first rest, text = first :: rest ∧ (first = '-' ∨ first.isDigit = true) := by
  obtain ⟨digits, fractioned, exponented⟩ := spelled
  rename_i negative whole fractionText exponentText fraction exponent
  cases negative with
  | true => exact ⟨'-', _, rfl, .inl rfl⟩
  | false =>
      obtain ⟨first, others, rfl⟩ := List.exists_cons_of_ne_nil digits.1.1
      exact ⟨first, _, rfl, .inr (digits.1.2 first (by simp))⟩

theorem punctuation?_isNumber {character : Char} {token : Token}
    (read : punctuation? character = some token) : token.isNumber = false := by
  cases token with
  | number value =>
      unfold punctuation? at read
      split at read <;> simp at read
  | _ => rfl

theorem blank_not_isNumeric {character : Char} (blank : isBlank character = true) :
    isNumeric character = false := by
  simp only [isBlank, Bool.or_eq_true, beq_iff_eq] at blank
  rcases blank with ((rfl | rfl) | rfl) | rfl <;> decide

theorem Token.Spelled.endsNumeral {token : Token} {lexeme : List Char}
    (spelled : token.Spelled lexeme) (other : token.isNumber = false) (rest : List Char) :
    EndsNumeral (lexeme ++ rest) := by
  intro character begins
  cases spelled with
  | number => simp [isNumber] at other
  | _ =>
      simp only [List.cons_append, List.head?_cons, Option.some.injEq] at begins
      subst begins
      decide

theorem Spelled.endsNumeral {tokens : List Token} {text : List Char}
    (spelled : Spelled tokens text) (first : NoNumberFirst tokens) : EndsNumeral text := by
  cases spelled with
  | blank blanks =>
      intro character begins
      exact blank_not_isNumeric (blanks character (List.mem_of_mem_head? begins))
  | @token token tokens before lexeme rest blanks lexeme_spelled others =>
      cases before with
      | nil => exact lexeme_spelled.endsNumeral (first token rfl) rest
      | cons blank more =>
          intro character begins
          simp only [List.cons_append, List.head?_cons, Option.some.injEq] at begins
          exact blank_not_isNumeric (blanks character (by simp [begins]))

namespace Scanner

/-- A scanner stands behind some tokens, the last of which may be a numeral that has not ended. -/
inductive Stands : List Token → Scanner → Prop
  | between (tokens : List Token) : Stands tokens ⟨.betweenTokens, tokens⟩
  | numeral {token : Token} {reversed : List Char} (tokens : List Token)
      (number : numberToken? reversed.reverse = some token) :
      Stands (token :: tokens) ⟨.numeral reversed, tokens⟩

/-- Where no numeral goes on, it makes no difference whether one has ended. -/
theorem foldlM_of_stands {tokens : List Token} {scanner : Scanner} {text : List Char}
    (stands : Stands tokens scanner) (ends : EndsNumeral text) :
    (text.foldlM feed scanner).bind finish? =
      (text.foldlM feed ⟨.betweenTokens, tokens⟩).bind finish? := by
  cases stands with
  | between => rfl
  | numeral tokens number =>
      cases text with
      | nil => simp [finish?, number]
      | cons character rest =>
          have ended : isNumeric character = false := ends character rfl
          simp [feed, ended, number]

theorem foldlM_blank {text : List Char} (blank : Blank text) (tokens : List Token) :
    text.foldlM feed ⟨.betweenTokens, tokens⟩ = some ⟨.betweenTokens, tokens⟩ := by
  induction text with
  | nil => rfl
  | cons character rest ih =>
      have here : isBlank character = true := blank character (by simp)
      have there : Blank rest := fun other member => blank other (by simp [member])
      simp [feed, begin?, here, ih there]

/-- The text between two quotes is kept. -/
theorem foldlM_string {body : List Char} {escaping escaped : Bool}
    (quoted : body.foldlM quoteStep escaping = some escaped) (reversed : List Char)
    (tokens : List Token) :
    body.foldlM feed ⟨.string reversed escaping, tokens⟩ =
      some ⟨.string (body.reverse ++ reversed) escaped, tokens⟩ := by
  induction body generalizing escaping reversed with
  | nil =>
      simp only [List.foldlM_nil, Option.pure_def, Option.some.injEq] at quoted
      simp [quoted]
  | cons character rest ih =>
      simp only [List.foldlM_cons, Option.bind_eq_bind, Option.bind_eq_some_iff] at quoted
      obtain ⟨after, steps, quoted⟩ := quoted
      have feeds : feed ⟨.string reversed escaping, tokens⟩ character =
          some ⟨.string (character :: reversed) after, tokens⟩ := by
        cases escaping with
        | true =>
            simp only [quoteStep, if_true, Option.some.injEq] at steps
            simp [feed, steps]
        | false =>
            by_cases quote : character = '"'
            · simp [quoteStep, quote] at steps
            · simp only [quoteStep, Bool.false_eq_true, if_false, quote, Option.some.injEq] at steps
              simp [feed, quote, steps]
      simp [feeds, ih quoted]

theorem foldlM_numeral {text : List Char} (numeric : ∀ character ∈ text, isNumeric character = true)
    (reversed : List Char) (tokens : List Token) :
    text.foldlM feed ⟨.numeral reversed, tokens⟩ =
      some ⟨.numeral (text.reverse ++ reversed), tokens⟩ := by
  induction text generalizing reversed with
  | nil => rfl
  | cons character rest ih =>
      have here : isNumeric character = true := numeric character (by simp)
      have there : ∀ other ∈ rest, isNumeric other = true :=
        fun other member => numeric other (by simp [member])
      simp [feed, here, ih there]

/-- What may begin a numeral begins nothing else. -/
theorem begin?_numeral {first : Char} (begins : first = '-' ∨ first.isDigit = true)
    (tokens : List Token) : begin? tokens first = some ⟨.numeral [first], tokens⟩ := by
  have numeric : isNumeric first = true := by
    rcases begins with rfl | digit
    · decide
    · exact digit_isNumeric digit
  have no_blank : isBlank first = false := by
    rw [← Bool.not_eq_true]
    intro blank
    simp [blank_not_isNumeric blank] at numeric
  have no_punctuation : punctuation? first = none := by
    rw [Option.eq_none_iff_forall_ne_some]
    intro token read
    have plain := (punctuation?_spelled read).endsNumeral (punctuation?_isNumber read) []
    simp [plain first rfl] at numeric
  have no_quote : first ≠ '"' := by
    rintro rfl
    simp [isNumeric] at numeric
  simp [begin?, no_blank, no_punctuation, no_quote, begins]

theorem foldlM_numberToken {numeral : Numeral} {text : List Char} (spelled : numeral.Spelled text)
    (tokens : List Token) :
    text.foldlM feed ⟨.betweenTokens, tokens⟩ = some ⟨.numeral text.reverse, tokens⟩ := by
  have numeric := numeral_isNumeric spelled
  obtain ⟨first, rest, rfl, begins⟩ := numeral_eq_cons spelled
  have rest_numeric : ∀ character ∈ rest, isNumeric character = true :=
    fun character member => numeric character (by simp [member])
  simp [feed, begin?_numeral begins, foldlM_numeral rest_numeric]

theorem foldlM_stringToken {pieces : List Piece} {body : List Char}
    (spelled : StringBody pieces body) (tokens : List Token) :
    ('"' :: (body ++ ['"'])).foldlM feed ⟨.betweenTokens, tokens⟩ =
      some ⟨.betweenTokens, .string ((joinPieces? pieces).map String.ofList) :: tokens⟩ := by
  have opens : feed ⟨.betweenTokens, tokens⟩ '"' = some ⟨.string [] false, tokens⟩ := rfl
  have keeps := foldlM_string spelled.closed [] tokens
  simp only [List.foldlM_cons, List.foldlM_append, opens, Option.bind_eq_bind, Option.bind_some,
    keeps]
  simp [feed, stringToken?, spelled.pieces?_eq]

/-- The spelling of a token brings a scanner behind that token. -/
theorem foldlM_token {token : Token} {lexeme : List Char} (spelled : token.Spelled lexeme)
    (tokens : List Token) :
    ∃ scanner, lexeme.foldlM feed ⟨.betweenTokens, tokens⟩ = some scanner ∧
      Stands (token :: tokens) scanner := by
  cases token with
  | number value =>
      cases spelled with
      | number written =>
          refine ⟨_, foldlM_numberToken written tokens, .numeral tokens ?_⟩
          rw [List.reverse_reverse]
          exact numberToken?_eq_some_iff.2 ⟨_, written, rfl⟩
  | string value =>
      obtain ⟨pieces, body, body_spelled, rfl, rfl⟩ := spelled.body
      exact ⟨_, foldlM_stringToken body_spelled tokens, .between _⟩
  | _ => cases spelled <;> exact ⟨_, rfl, .between _⟩

/-- From behind some tokens, a spelling is read as what it spells. -/
theorem foldlM_spelled {tokens : List Token} {text : List Char} (spelled : Spelled tokens text)
    (parted : Parted tokens) (before : List Token) :
    (text.foldlM feed ⟨.betweenTokens, before⟩).bind finish? = some (before.reverse ++ tokens) := by
  induction spelled generalizing before with
  | blank blanks => simp [foldlM_blank blanks, finish?]
  | token blanks lexeme_spelled others ih =>
      rename_i token tokens blank_text lexeme rest
      obtain ⟨scanner, reads, stands⟩ := foldlM_token lexeme_spelled before
      -- a numeral is over where the next token begins, since that is none
      have rest_eq := ih parted.2 (token :: before)
      have goes_on : (rest.foldlM feed scanner).bind finish? =
          (rest.foldlM feed ⟨.betweenTokens, token :: before⟩).bind finish? := by
        cases number : token.isNumber with
        | true => exact foldlM_of_stands stands (others.endsNumeral (parted.1 number))
        | false =>
            cases stands with
            | between => rfl
            | numeral tokens read =>
                obtain ⟨numeral, -, rfl⟩ := numberToken?_eq_some_iff.1 read
                simp [Token.isNumber] at number
      simp [List.foldlM_append, foldlM_blank blanks, reads, goes_on, rest_eq]

end Scanner

theorem tokens?_of_spelled {tokens : List Token} {text : List Char} (spelled : Spelled tokens text)
    (parted : Parted tokens) : tokens? text = some tokens := by
  have reads := Scanner.foldlM_spelled spelled parted []
  simpa [tokens?, Scanner.start] using reads

namespace Document

mutual

/-- The tokens of a document are parted, and so are those that follow them. -/
theorem parted_tokens (document : Document) {rest : List Token} (parted : Parted rest)
    (first : NoNumberFirst rest) : Parted (document.tokens ++ rest) := by
  match document with
  | .null => exact parted_cons rfl parted
  | .bool value => exact parted_cons rfl parted
  | .number value => exact ⟨fun _ => first, parted⟩
  | .string value => exact parted_cons rfl parted
  | .array [] => exact parted_cons rfl (parted_cons rfl parted)
  | .array (element :: others) =>
    have closing : Parted (.closeArray :: rest) := parted_cons rfl parted
    have after := parted_tokensOfElements others closing (noNumberFirst_cons rfl rest)
    have inside : Parted (.openArray ::
        (element.tokens ++ (tokensOfElements others ++ .closeArray :: rest))) :=
      parted_cons rfl (parted_tokens element after.1 after.2)
    simpa [tokens] using inside
  | .object [] => exact parted_cons rfl (parted_cons rfl parted)
  | .object ((key, value) :: others) =>
    have closing : Parted (.closeObject :: rest) := parted_cons rfl parted
    have after := parted_tokensOfMembers others closing (noNumberFirst_cons rfl rest)
    have inside : Parted (.openObject :: .string key :: .colon ::
        (value.tokens ++ (tokensOfMembers others ++ .closeObject :: rest))) :=
      parted_cons rfl (parted_cons rfl (parted_cons rfl (parted_tokens value after.1 after.2)))
    simpa [tokens] using inside
termination_by structural document

theorem parted_tokensOfElements (elements : List Document) {rest : List Token}
    (parted : Parted rest) (first : NoNumberFirst rest) :
    Parted (tokensOfElements elements ++ rest) ∧
      NoNumberFirst (tokensOfElements elements ++ rest) := by
  match elements with
  | [] => exact ⟨parted, first⟩
  | element :: others =>
    have after := parted_tokensOfElements others parted first
    have behind : Parted (.comma :: (element.tokens ++ (tokensOfElements others ++ rest))) :=
      parted_cons rfl (parted_tokens element after.1 after.2)
    exact ⟨by simpa [tokensOfElements] using behind, noNumberFirst_cons rfl _⟩
termination_by structural elements

theorem parted_tokensOfMembers (members : List (Option String × Document)) {rest : List Token}
    (parted : Parted rest) (first : NoNumberFirst rest) :
    Parted (tokensOfMembers members ++ rest) ∧
      NoNumberFirst (tokensOfMembers members ++ rest) := by
  match members with
  | [] => exact ⟨parted, first⟩
  | (key, value) :: others =>
    have after := parted_tokensOfMembers others parted first
    have behind : Parted (.comma :: .string key :: .colon ::
        (value.tokens ++ (tokensOfMembers others ++ rest))) :=
      parted_cons rfl (parted_cons rfl (parted_cons rfl (parted_tokens value after.1 after.2)))
    exact ⟨by simpa [tokensOfMembers] using behind, noNumberFirst_cons rfl _⟩
termination_by structural members

end

/-- A text is read as a document exactly if it spells the tokens of that document. -/
theorem read?_eq_some_iff (text : String) (document : Document) :
    read? text = some document ↔ Spelled document.tokens text.toList := by
  simp only [read?, Option.bind_eq_some_iff, ofTokens?_eq_some_iff]
  constructor
  · rintro ⟨tokens, reads, rfl⟩
    exact spelled_of_tokens? reads
  · intro spelled
    have parted : Parted document.tokens := by
      have parted := parted_tokens document parted_nil noNumberFirst_nil
      rwa [List.append_nil] at parted
    exact ⟨document.tokens, tokens?_of_spelled spelled parted, rfl⟩

theorem spelled_unique {left right : Document} {text : List Char}
    (leftSpelled : Spelled left.tokens text) (rightSpelled : Spelled right.tokens text) :
    left = right := by
  have leftRead := (read?_eq_some_iff (String.ofList text) left).2 (by simpa using leftSpelled)
  have rightRead := (read?_eq_some_iff (String.ofList text) right).2 (by simpa using rightSpelled)
  exact Option.some.inj (leftRead.symm.trans rightRead)

end Document

end Json

end GatewayLink
