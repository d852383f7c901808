import GatewayLink.Json.Document

/-!
# Documents and their tokens

The builder that reads a token sequence accepts exactly the sequences that `Document.tokens` lists.
In one direction every state of the builder stands for the tokens it has taken, `Builder.taken`, and
one token adds itself to them.  In the other direction the tokens of a document bring the builder
from where a value must come to where that value has been put in its place.
-/

namespace GatewayLink

namespace Json

namespace Document

/-- The comma before what follows a list, unless the list is empty. -/
def separator {α : Type} : List α → List Token
  | [] => []
  | _ :: _ => [.comma]

/-- An opened array with some elements in written order, not closed yet. -/
def openedArray : List Document → List Token
  | [] => [.openArray]
  | element :: rest => .openArray :: element.tokens ++ tokensOfElements rest

/-- An opened object with some members in written order, not closed yet. -/
def openedObject : List (Option String × Document) → List Token
  | [] => [.openObject]
  | (key, value) :: rest =>
    .openObject :: .string key :: .colon :: value.tokens ++ tokensOfMembers rest

theorem tokens_array (elements : List Document) :
    (array elements).tokens = openedArray elements ++ [.closeArray] := by
  cases elements <;> simp [tokens, openedArray]

theorem tokens_object (members : List (Option String × Document)) :
    (object members).tokens = openedObject members ++ [.closeObject] := by
  cases members <;> simp [tokens, openedObject]

theorem tokensOfElements_append (left right : List Document) :
    tokensOfElements (left ++ right) = tokensOfElements left ++ tokensOfElements right := by
  induction left with
  | nil => simp [tokensOfElements]
  | cons element rest ih => simp [tokensOfElements, ih]

theorem tokensOfMembers_append (left right : List (Option String × Document)) :
    tokensOfMembers (left ++ right) = tokensOfMembers left ++ tokensOfMembers right := by
  induction left with
  | nil => simp [tokensOfMembers]
  | cons member rest ih => simp [tokensOfMembers, ih]

theorem openedArray_concat (elements : List Document) (element : Document) :
    openedArray (elements ++ [element]) =
      openedArray elements ++ separator elements ++ element.tokens := by
  cases elements with
  | nil => simp [openedArray, separator, tokensOfElements]
  | cons first rest => simp [openedArray, separator, tokensOfElements_append, tokensOfElements]

theorem openedObject_concat (members : List (Option String × Document)) (key : Option String)
    (value : Document) :
    openedObject (members ++ [(key, value)]) =
      openedObject members ++ separator members ++ .string key :: .colon :: value.tokens := by
  cases members with
  | nil => simp [openedObject, separator, tokensOfMembers]
  | cons first rest => simp [openedObject, separator, tokensOfMembers_append, tokensOfMembers]

@[simp]
theorem separator_reverse {α : Type} (list : List α) : separator list.reverse = separator list := by
  cases list with
  | nil => rfl
  | cons head tail =>
      cases reversed : (head :: tail).reverse with
      | nil => simp at reversed
      | cons _ _ => rfl

/-- The tokens taken for an open container up to where its next value is to go. -/
def Place.tokens : Place → List Token
  | .element before => openedArray before.reverse ++ separator before
  | .member before key => openedObject before.reverse ++ separator before ++ [.string key, .colon]

/-- The tokens taken for all open containers, the innermost of which comes first. -/
def leading : List Place → List Token
  | [] => []
  | place :: places => leading places ++ place.tokens

namespace Builder

/-- The tokens that have brought a builder to a state. -/
def taken : Builder → List Token
  | .atValue places => leading places
  | .atFirstElement places => leading places ++ [.openArray]
  | .atFirstKey places => leading places ++ [.openObject]
  | .atKey places before => leading places ++ openedObject before.reverse ++ [.comma]
  | .atColon places before key =>
    leading places ++ openedObject before.reverse ++ separator before ++ [.string key]
  | .afterElement places elements => leading places ++ openedArray elements.reverse
  | .afterMember places members => leading places ++ openedObject members.reverse
  | .done document => document.tokens

/-- Something stands before a comma and after a complete value. -/
def Follows : Builder → Prop
  | .atKey _ before => before ≠ []
  | .afterElement _ elements => elements ≠ []
  | .afterMember _ members => members ≠ []
  | _ => True

theorem taken_put (document : Document) (places : List Place) :
    (put document places).taken = leading places ++ document.tokens := by
  cases places with
  | nil => simp [put, taken, leading]
  | cons place places =>
      cases place with
      | element before =>
          simp [put, taken, leading, Place.tokens, openedArray_concat]
      | member before key =>
          simp [put, taken, leading, Place.tokens, openedObject_concat]

theorem follows_put (document : Document) (places : List Place) :
    (put document places).Follows := by
  cases places with
  | nil => trivial
  | cons place places => cases place <;> simp [put, Follows]

theorem takeValue?_sound {places : List Place} {token : Token} {next : Builder}
    (takes : takeValue? places token = some next) :
    next.taken = leading places ++ [token] ∧ next.Follows := by
  cases token <;> simp only [takeValue?, Option.some.injEq, reduceCtorEq] at takes <;> subst takes
  case openArray => exact ⟨rfl, trivial⟩
  case openObject => exact ⟨rfl, trivial⟩
  all_goals exact ⟨by rw [taken_put, tokens], follows_put _ _⟩

/-- A token adds itself to the tokens taken. -/
theorem feed_sound {builder next : Builder} {token : Token} (follows : builder.Follows)
    (feeds : builder.feed token = some next) :
    next.taken = builder.taken ++ [token] ∧ next.Follows := by
  cases builder with
  | atValue places => exact takeValue?_sound feeds
  | atFirstElement places =>
      have opens : leading (.element [] :: places) = leading places ++ [.openArray] := by
        simp [leading, Place.tokens, openedArray, separator]
      by_cases closes : token = .closeArray
      · subst closes
        simp only [feed, Option.some.injEq] at feeds
        subst feeds
        exact ⟨by rw [taken_put]; simp [tokens, taken], follows_put _ _⟩
      · have takes : takeValue? (.element [] :: places) token = some next := by
          cases token <;> first | exact absurd rfl closes | exact feeds
        have result := takeValue?_sound takes
        rwa [opens] at result
  | atFirstKey places =>
      cases token <;> simp only [feed, Option.some.injEq, reduceCtorEq] at feeds <;> subst feeds
      case closeObject => exact ⟨by rw [taken_put]; simp [tokens, taken], follows_put _ _⟩
      case string key => exact ⟨by simp [taken, openedObject, separator], trivial⟩
  | atKey places before =>
      cases token <;> simp only [feed, Option.some.injEq, reduceCtorEq] at feeds
      subst feeds
      cases before with
      | nil => exact absurd rfl follows
      | cons first rest => exact ⟨by simp [taken, separator], trivial⟩
  | atColon places before key =>
      cases token <;> simp only [feed, Option.some.injEq, reduceCtorEq] at feeds
      subst feeds
      exact ⟨by simp [taken, leading, Place.tokens], trivial⟩
  | afterElement places elements =>
      cases token <;> simp only [feed, Option.some.injEq, reduceCtorEq] at feeds <;> subst feeds
      case closeArray => exact ⟨by rw [taken_put]; simp [tokens_array, taken], follows_put _ _⟩
      case comma =>
        cases elements with
        | nil => exact absurd rfl follows
        | cons first rest => exact ⟨by simp [taken, leading, Place.tokens, separator], trivial⟩
  | afterMember places members =>
      cases token <;> simp only [feed, Option.some.injEq, reduceCtorEq] at feeds <;> subst feeds
      case closeObject => exact ⟨by rw [taken_put]; simp [tokens_object, taken], follows_put _ _⟩
      case comma => exact ⟨rfl, follows⟩
  | done document => cases token <;> simp [feed] at feeds

/-- A run over some tokens takes exactly these. -/
theorem foldlM_sound {tokens : List Token} {builder final : Builder} (follows : builder.Follows)
    (runs : tokens.foldlM feed builder = some final) : final.taken = builder.taken ++ tokens := by
  induction tokens generalizing builder with
  | nil =>
      simp only [List.foldlM_nil, Option.pure_def, Option.some.injEq] at runs
      simp [runs]
  | cons token rest ih =>
      simp only [List.foldlM_cons, Option.bind_eq_bind, Option.bind_eq_some_iff] at runs
      obtain ⟨next, feeds, runs⟩ := runs
      obtain ⟨taken_next, follows_next⟩ := feed_sound follows feeds
      rw [ih follows_next runs, taken_next, List.append_assoc, List.singleton_append]

end Builder

theorem tokens_eq_cons (document : Document) :
    ∃ first rest, document.tokens = first :: rest ∧ first ≠ .closeArray := by
  cases document with
  | array elements => cases elements <;> simp [tokens]
  | object members => cases members <;> simp [tokens]
  | _ => simp [tokens]

namespace Builder

theorem feed_atFirstElement (places : List Place) {token : Token} (opens : token ≠ .closeArray) :
    feed (.atFirstElement places) token = feed (.atValue (.element [] :: places)) token := by
  cases token <;> first | exact absurd rfl opens | rfl

mutual

/-- The tokens of a document put it in its place. -/
theorem foldlM_tokens (document : Document) (places : List Place) (rest : List Token) :
    (document.tokens ++ rest).foldlM feed (.atValue places) =
      rest.foldlM feed (put document places) := by
  match document with
  | .null => rfl
  | .bool value => rfl
  | .number value => rfl
  | .string value => rfl
  | .array [] => rfl
  | .array (element :: others) =>
    obtain ⟨first, after, begins, opens⟩ := tokens_eq_cons element
    have reads := foldlM_tokens element (.element [] :: places)
      (tokensOfElements others ++ .closeArray :: rest)
    rw [put, foldlM_tokensOfElements others places [element]] at reads
    rw [begins, List.cons_append, List.foldlM_cons, ← feed_atFirstElement places opens,
      ← List.foldlM_cons, ← List.cons_append, ← begins] at reads
    simpa [tokens, feed, takeValue?] using reads
  | .object [] => rfl
  | .object ((key, value) :: others) =>
    have reads := foldlM_tokens value (.member [] key :: places)
      (tokensOfMembers others ++ .closeObject :: rest)
    rw [put, foldlM_tokensOfMembers others places [(key, value)]] at reads
    simpa [tokens, feed, takeValue?] using reads
termination_by structural document

theorem foldlM_tokensOfElements (elements : List Document) (places : List Place)
    (before : List Document) (rest : List Token) :
    (tokensOfElements elements ++ rest).foldlM feed (.afterElement places before) =
      rest.foldlM feed (.afterElement places (elements.reverse ++ before)) := by
  match elements with
  | [] => simp [tokensOfElements]
  | element :: others =>
    have reads := foldlM_tokens element (.element before :: places) (tokensOfElements others ++ rest)
    rw [put, foldlM_tokensOfElements others places (element :: before)] at reads
    simpa [tokensOfElements, feed] using reads
termination_by structural elements

theorem foldlM_tokensOfMembers (members : List (Option String × Document)) (places : List Place)
    (before : List (Option String × Document)) (rest : List Token) :
    (tokensOfMembers members ++ rest).foldlM feed (.afterMember places before) =
      rest.foldlM feed (.afterMember places (members.reverse ++ before)) := by
  match members with
  | [] => simp [tokensOfMembers]
  | (key, value) :: others =>
    have reads := foldlM_tokens value (.member before key :: places)
      (tokensOfMembers others ++ rest)
    rw [put, foldlM_tokensOfMembers others places ((key, value) :: before)] at reads
    simpa [tokensOfMembers, feed] using reads
termination_by structural members

end

end Builder

/-- A token sequence spells a document exactly if it lists the tokens of that document. -/
theorem ofTokens?_eq_some_iff (tokens : List Token) (document : Document) :
    ofTokens? tokens = some document ↔ tokens = document.tokens := by
  constructor
  · intro reads
    simp only [ofTokens?, Option.bind_eq_some_iff] at reads
    obtain ⟨final, runs, finishes⟩ := reads
    have follows : Builder.start.Follows := trivial
    have takes := Builder.foldlM_sound follows runs
    cases final <;> simp only [Builder.finish?, Option.some.injEq, reduceCtorEq] at finishes
    subst finishes
    simpa [Builder.taken, Builder.start, leading] using takes.symm
  · rintro rfl
    have runs := Builder.foldlM_tokens document [] []
    simp only [List.append_nil] at runs
    simp [ofTokens?, Builder.start, runs, Builder.put, Builder.finish?]

end Document

end Json

end GatewayLink
