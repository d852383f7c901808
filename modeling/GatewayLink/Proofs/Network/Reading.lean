import Mathlib.Data.List.Forall2
import GatewayLink.Network.Stream

/-!
# Texts that are read one by one

A reader of texts answers for the items of a stream one after the other, and passes over control
frames and frames that belong to no message.  It goes on behind whatever it has answered, the end of
the stream included.  Once nothing is left to answer for, the answer is the end.
-/

namespace GatewayLink

namespace StreamItem

/-- Whether a reader passes over an item. -/
def isPassedOver : StreamItem → Bool
  | .ping _ | .pong _ | .raw _ => true
  | _ => false

/-- The items of a stream for which there is an answer. -/
def answerable (items : List StreamItem) : List StreamItem :=
  items.filter fun item => !item.isPassedOver

/-- What is to be answered for an item. -/
inductive Answers : StreamItem → Reading → Prop where
  | text (value : String) : Answers (.text value) (.text value)
  | binary (data : List UInt8) :
      Answers (.binary data) (.failure (.unexpected "收到了非预期的 WebSocket 二进制消息"))
  | close (code : Option Nat) : Answers (.close code) .finished
  | closed : Answers .closed .finished
  | alreadyClosed : Answers .alreadyClosed .finished
  | fault (cause : StreamFault) : Answers (.fault cause) (.failure (.stream cause))

/-- The text of an item. -/
def text? : StreamItem → Option String
  | .text value => some value
  | _ => none

/-- The text that is read. -/
def Reading.text? : Reading → Option String
  | .text value => some value
  | _ => none

section Items

variable {item : StreamItem} {reading : Reading}

theorem reading?_eq_none_iff : item.reading? = none ↔ item.isPassedOver = true := by
  cases item <;> simp [reading?, isPassedOver]

theorem reading?_eq_some_iff : item.reading? = some reading ↔ Answers item reading := by
  constructor
  · intro read
    cases item <;> cases read <;> constructor
  · rintro (_ | _) <;> rfl

theorem Answers.text?_eq (answers : Answers item reading) : reading.text? = item.text? := by
  cases answers <;> rfl

theorem text?_of_isPassedOver (passed : item.isPassedOver = true) : item.text? = none := by
  cases item <;> cases passed <;> rfl

end Items

theorem filterMap_text?_answerable (items : List StreamItem) :
    (answerable items).filterMap text? = items.filterMap text? := by
  rw [answerable, List.filterMap_filter]
  congr 1
  funext item
  cases passed : item.isPassedOver with
  | true => simp [text?_of_isPassedOver passed]
  | false => rfl

/-! ## One answer -/

section Next

variable {items later : List StreamItem} {item : StreamItem}

theorem next_of_answerable_eq_nil (nothing : answerable items = []) :
    next items = (.finished, []) := by
  induction items with
  | nil => rfl
  | cons first rest induction =>
      obtain ⟨passed, nothing_later⟩ : first.isPassedOver = true ∧ answerable rest = [] := by
        simpa [answerable] using nothing
      rw [next_of_passed_over first rest (reading?_eq_none_iff.mpr passed), induction nothing_later]

/-- The first item that is not passed over is answered for, and all behind it are left. -/
theorem next_of_answerable_eq_cons (found : answerable items = item :: later) :
    ∃ reading rest, next items = (reading, rest) ∧ Answers item reading ∧
      answerable rest = later := by
  induction items with
  | nil => cases found
  | cons first rest induction =>
      cases passed : first.isPassedOver with
      | true =>
          rw [next_of_passed_over first rest (reading?_eq_none_iff.mpr passed)]
          exact induction (by simpa [answerable, passed] using found)
      | false =>
          obtain ⟨rfl, left⟩ : first = item ∧ answerable rest = later := by
            simpa [answerable, passed] using found
          cases read : first.reading? with
          | none => cases passed.symm.trans (reading?_eq_none_iff.mp read)
          | some reading =>
              exact ⟨reading, rest, next_of_reading first rest reading read,
                reading?_eq_some_iff.mp read, left⟩

end Next

/-! ## Many answers -/

@[simp] theorem length_readings (count : Nat) (items : List StreamItem) :
    (readings count items).length = count := by
  induction count generalizing items with
  | zero => rfl
  | succ count induction => simp [readings, induction]

theorem readings_of_answerable_eq_nil {items : List StreamItem} (nothing : answerable items = [])
    (count : Nat) : readings count items = List.replicate count .finished := by
  induction count generalizing items with
  | zero => rfl
  | succ count induction =>
      rw [readings, next_of_answerable_eq_nil nothing, List.replicate_succ]
      exact congrArg _ (induction rfl)

/-- The items are answered for in order, as many as are read, and then there are ends only. -/
theorem exists_readings_eq (count : Nat) (items : List StreamItem) :
    ∃ answered, List.Forall₂ Answers ((answerable items).take count) answered ∧
      readings count items =
        answered ++ List.replicate (count - (answerable items).length) .finished := by
  induction count generalizing items with
  | zero => exact ⟨[], .nil, by simp [readings]⟩
  | succ count induction =>
      cases found : answerable items with
      | nil => exact ⟨[], .nil, readings_of_answerable_eq_nil found (count + 1)⟩
      | cons item later =>
          obtain ⟨reading, rest, read, answers, left⟩ := next_of_answerable_eq_cons found
          obtain ⟨answered, each, readings_eq⟩ := induction rest
          rw [left] at each readings_eq
          refine ⟨reading :: answered, .cons answers each, ?_⟩
          simp [readings, read, readings_eq]

theorem texts_of_answers {items : List StreamItem} {answered : List Reading}
    (each : List.Forall₂ Answers items answered) :
    answered.filterMap Reading.text? = items.filterMap text? := by
  induction each with
  | nil => rfl
  | cons answers _ induction => simp [List.filterMap_cons, answers.text?_eq, induction]

/-- However often a stream is read, the texts in it are read in order and each once, and once
nothing is left to answer for, every reading is the end. -/
theorem readings_answer_in_order (items : List StreamItem) (count : Nat) :
    (readings count items).length = count ∧
      (∀ place item, place < count → (answerable items)[place]? = some item →
        ∃ reading, (readings count items)[place]? = some reading ∧ Answers item reading) ∧
      (∀ place, place < count → (answerable items).length ≤ place →
        (readings count items)[place]? = some .finished) ∧
      (readings count items).filterMap Reading.text? =
        ((answerable items).take count).filterMap text? ∧
      ((answerable items).length ≤ count →
        (readings count items).filterMap Reading.text? = items.filterMap text?) := by
  obtain ⟨answered, each, readings_eq⟩ := exists_readings_eq count items
  have answered_length : answered.length = min count (answerable items).length := by
    rw [← each.length_eq, List.length_take]
  have texts : (readings count items).filterMap Reading.text? =
      ((answerable items).take count).filterMap text? := by
    rw [readings_eq, List.filterMap_append, texts_of_answers each]
    simp [Reading.text?]
  refine ⟨length_readings count items, ?_, ?_, texts, fun enough => ?_⟩
  · intro place item below found
    have inside : place < (answerable items).length := (List.getElem?_eq_some_iff.mp found).1
    have answered_place : place < answered.length := by omega
    have taken : ((answerable items).take count)[place]? = some item := by
      rw [List.getElem?_take_of_lt below, found]
    obtain ⟨taken_inside, rfl⟩ := List.getElem?_eq_some_iff.mp taken
    refine ⟨answered[place], ?_, each.get taken_inside answered_place⟩
    rw [readings_eq, List.getElem?_append_left answered_place, List.getElem?_eq_getElem]
  · intro place below beyond
    rw [readings_eq, List.getElem?_append_right (by omega), List.getElem?_replicate_of_lt (by omega)]
  · rw [texts, List.take_of_length_le enough, filterMap_text?_answerable]

/-- What comes behind a close frame is read, and the answer for the close frame stays apart from the
ends that follow the last item. -/
example :
    readings 5 [.ping [], .text "first", .close none, .raw [], .text "later", .pong []] =
      [.text "first", .finished, .text "later", .finished, .finished] := by
  decide

end StreamItem

end GatewayLink
