import GatewayLink.Parameters.Refresh
import GatewayLink.Proofs.Frame.RoundTrip
import GatewayLink.Proofs.Parameters.Rebinding

/-!
# Plans whose calls are filled

While the calls of a plan are settled, the store holds for each method what the latest call so far
gave, and else what it held before the plan.  So a call that leaves its parameters open gets exactly
those, and at the end nothing but the methods with parameters of their own has changed.
-/

namespace GatewayLink

namespace ParameterStore

open Json (nestingLimit)

/-! ## Stores that can be written -/

/-- Whatever is bound, it is written. -/
def IsWritable (store : ParameterStore) : Prop :=
  ∀ key value, (store.set key value).1 = .ok ()

section Writable

variable {store after : ParameterStore} {key value : String}

theorem isWritable_memory (values : Table String) : (ParameterStore.memory values).IsWritable :=
  fun _ _ => rfl

theorem isWritable_file {path : FilePath} {tree : FileTree} (writable : tree.IsWritable path) :
    (ParameterStore.file path tree).IsWritable := by
  intro key value
  obtain ⟨changed, written, -⟩ :=
    writable.writeText (updatedText (membersOf (tree.text? path)) key value)
  rw [set_file_eq_ok_iff.2 ⟨changed, written, rfl⟩]

theorem isWritable_of_set (bound : store.set key value = (.ok (), after)) : after.IsWritable := by
  cases store with
  | memory values =>
      obtain rfl : .memory (values.set key value) = after := (Prod.mk.inj bound).2
      exact isWritable_memory _
  | file path tree =>
      obtain ⟨changed, written, rfl⟩ := set_file_eq_ok_iff.1 bound
      exact isWritable_file (FileTree.isWritable_of_write written)

theorem IsWritable.set (writable : store.IsWritable) (key value : String) :
    store.set key value = (.ok (), (store.set key value).2) :=
  Prod.ext (writable key value) rfl

end Writable

theorem methodKey_inj {method other : String} : methodKey method = methodKey other ↔
    method = other := by
  simp [methodKey]

theorem load?_of_save {store after : ParameterStore} {method : String} {params : Json}
    (saved : store.save method params = (.ok (), after)) (portable : params.Portable)
    (shallow : params.depth ≤ nestingLimit) (other : String) :
    after.load? other = if other = method then some params else store.load? other := by
  have read := Json.read?_of_spelled portable.canonical shallow
    (Json.spelled_compact params portable.without_doubles)
  rw [load?, get?_of_set saved]
  simp only [methodKey_inj]
  split
  · exact read
  · rfl

end ParameterStore

namespace RepeatedCall

open Json (nestingLimit)

/-! ## Calls that give parameters -/

/-- The parameters of the last call of a method that gives any. -/
def latestParams? (calls : List RepeatedCall) (method : String) : Option Json :=
  (calls.reverse.find? fun call => call.method == method && !call.params.isNull).map params

theorem latestParams?_concat (earlier : List RepeatedCall) (call : RepeatedCall)
    (method : String) :
    latestParams? (earlier ++ [call]) method =
      if call.method = method ∧ call.params.isNull = false then some call.params
      else latestParams? earlier method := by
  rw [latestParams?, List.reverse_append, List.reverse_singleton, List.singleton_append,
    List.find?_cons]
  by_cases gives : call.method = method ∧ call.params.isNull = false
  · simp [gives]
  · have passed : (call.method == method && !call.params.isNull) = false := by
      simpa using gives
    simp [passed, gives, latestParams?]

theorem isNull_eq_false_iff {value : Json} : value.isNull = false ↔ value ≠ .null := by
  cases value <;> simp [Json.isNull]

/-- What a store holds once some calls have been settled with it. -/
structure Settled (store : ParameterStore) (calls : List RepeatedCall) (after : ParameterStore) :
    Prop where
  writable : after.IsWritable
  loads (method : String) :
    after.load? method = (latestParams? calls method).or (store.load? method)
  keeps (key : String) :
    (∀ call ∈ calls, call.params ≠ .null → key ≠ ParameterStore.methodKey call.method) →
      after.get? key = store.get? key

/-- The parameters of a call that leaves them open, after other calls. -/
def openParams (store : ParameterStore) (earlier : List RepeatedCall) (method : String) : Json :=
  ((latestParams? earlier method).or (store.load? method)).getD noParams

section Settled

variable {store current : ParameterStore} {earlier : List RepeatedCall}

theorem settled_nil (writable : store.IsWritable) : Settled store [] store :=
  ⟨writable, fun _ => rfl, fun _ _ => rfl⟩

/-- One more call is settled. -/
theorem Settled.fill (settled : Settled store earlier current) {call : RepeatedCall}
    (portable : call.params.Portable) (shallow : call.params.depth ≤ nestingLimit) :
    (call.fill current).1 = (if call.params.isNull
        then { call with params := openParams store earlier call.method } else call) ∧
      Settled store (earlier ++ [call]) (call.fill current).2 := by
  cases null : call.params.isNull with
  | true =>
      have same (method : String) : latestParams? (earlier ++ [call]) method =
          latestParams? earlier method := by
        rw [latestParams?_concat, if_neg (by simp [null])]
      simp only [RepeatedCall.fill, null, if_true]
      refine ⟨by rw [settled.loads]; rfl, settled.writable, fun method => ?_, fun key foreign => ?_⟩
      · rw [same, settled.loads]
      · exact settled.keeps key fun other among => foreign other (by simp [among])
  | false =>
      have given := isNull_eq_false_iff.1 null
      simp only [RepeatedCall.fill, null, Bool.false_eq_true, if_false]
      have saved : current.save call.method call.params =
          (.ok (), (current.save call.method call.params).2) := settled.writable.set _ _
      refine ⟨trivial, ParameterStore.isWritable_of_set saved, fun method => ?_,
        fun key foreign => ?_⟩
      · rw [ParameterStore.load?_of_save saved portable shallow, latestParams?_concat,
          settled.loads]
        by_cases here : call.method = method
        · simp [here, null]
        · simp [here, Ne.symm here]
      · rw [ParameterStore.get?_of_set saved, if_neg (foreign call (by simp) given)]
        exact settled.keeps key fun other among => foreign other (by simp [among])

/-- All calls are settled, each after those before it. -/
theorem Settled.fillAll (settled : Settled store earlier current) {calls : List RepeatedCall}
    (portable : ∀ call ∈ calls, call.params.Portable ∧ call.params.depth ≤ nestingLimit) :
    (fillAll current calls).1.length = calls.length ∧
      (∀ before call behind, calls = before ++ call :: behind →
        (fillAll current calls).1[before.length]? = some (if call.params.isNull
          then { call with params := openParams store (earlier ++ before) call.method }
          else call)) ∧
      Settled store (earlier ++ calls) (fillAll current calls).2 := by
  induction calls generalizing earlier current with
  | nil => exact ⟨rfl, by simp, by simpa [RepeatedCall.fillAll] using settled⟩
  | cons first rest induction =>
      rw [List.forall_mem_cons] at portable
      obtain ⟨filled, next⟩ := settled.fill portable.1.1 portable.1.2
      obtain ⟨length, each, last⟩ := induction next portable.2
      refine ⟨?_, ?_, ?_⟩
      · simp [RepeatedCall.fillAll, length]
      · intro before call behind parts
        cases before with
        | nil =>
            obtain ⟨rfl, rfl⟩ := List.cons.inj parts
            simpa [RepeatedCall.fillAll] using filled
        | cons second others =>
            obtain ⟨rfl, rfl⟩ := List.cons.inj parts
            simpa [RepeatedCall.fillAll] using each others call behind rfl
      · simpa [RepeatedCall.fillAll] using last

end Settled

/-- A call without parameters gets those of the last call of its method before it that gives any,
else those that the store held, else none. -/
theorem open_calls_get_latest_params {store : ParameterStore} {calls : List RepeatedCall}
    (writable : store.IsWritable)
    (portable : ∀ call ∈ calls, call.params.Portable ∧ call.params.depth ≤ nestingLimit) :
    (fillAll store calls).1.length = calls.length ∧
      (∀ before call behind, calls = before ++ call :: behind →
        ∃ filled, (fillAll store calls).1[before.length]? = some filled ∧
          filled.method = call.method ∧
          (call.params ≠ .null → filled = call) ∧
          (call.params = .null → filled.params =
            ((latestParams? before call.method).or (store.load? call.method)).getD noParams)) ∧
      (∀ method params, latestParams? calls method = some params →
        (fillAll store calls).2.load? method = some params) ∧
      ∀ key, (∀ call ∈ calls, call.params ≠ .null → key ≠ ParameterStore.methodKey call.method) →
        (fillAll store calls).2.get? key = store.get? key := by
  obtain ⟨length, each, last⟩ := (settled_nil writable).fillAll portable
  refine ⟨length, fun before call behind parts => ⟨_, each before call behind parts, ?_⟩,
    fun method params given => ?_, last.keeps⟩
  · refine ⟨by split <;> rfl, fun given => ?_, fun null => ?_⟩
    · rw [isNull_eq_false_iff.2 given]
      rfl
    · rw [null]
      rfl
  · rw [last.loads, List.nil_append, given, Option.some_or]

/-- The first of two calls without parameters gets those in the file, the second those of the call
between them, which are also kept; a text that is no method's stays. -/
theorem open_calls_get_kept_and_given_params :
    let path : FilePath := ⟨[.into "kept.json"], .nothing, 9, 0⟩
    let store := ParameterStore.file path (.directory ⟨[("kept.json",
      .file "\x7b\"preset:feeds.list\":\"[null]\",\"theme\":\"dark\"\x7d".toUTF8)]⟩)
    let calls : List RepeatedCall :=
      [⟨"feeds.list", .null⟩, ⟨"feeds.list", .bool true⟩, ⟨"feeds.list", .null⟩]
    store.IsWritable ∧
      (∀ call ∈ calls, call.params.Portable ∧ call.params.depth ≤ nestingLimit) ∧
        (∃ first last, (fillAll store calls).1[0]? = some first ∧
          (fillAll store calls).1[2]? = some last ∧
            first.params = .array [.null] ∧ last.params = .bool true) ∧
          (fillAll store calls).2.load? "feeds.list" = some (.bool true) ∧
            (fillAll store calls).2.get? "theme" = some "dark" := by
  intro path store calls
  have writable : store.IsWritable := ParameterStore.isWritable_file ⟨.empty, _, rfl⟩
  have portable : ∀ call ∈ calls, call.params.Portable ∧ call.params.depth ≤ nestingLimit := by
    simp only [calls, List.forall_mem_cons, List.not_mem_nil, false_imp_iff, implies_true, and_true]
    exact ⟨⟨⟨trivial, trivial⟩, Nat.zero_le _⟩, ⟨⟨trivial, trivial⟩, Nat.zero_le _⟩,
      ⟨⟨trivial, trivial⟩, Nat.zero_le _⟩⟩
  have held : store.load? "feeds.list" = some (.array [.null]) := by decide +kernel
  have theme : store.get? "theme" = some "dark" := by decide +kernel
  obtain ⟨-, each, loads, keeps⟩ := open_calls_get_latest_params writable portable
  obtain ⟨first, first_eq, -, -, first_params⟩ := each [] _ _ rfl
  obtain ⟨last, last_eq, -, -, last_params⟩ := each (calls.take 2) ⟨"feeds.list", .null⟩ [] rfl
  refine ⟨writable, portable, ⟨first, last, first_eq, last_eq, ?_, last_params rfl⟩,
    loads "feeds.list" (.bool true) rfl, ?_⟩
  · rw [first_params rfl, held]
    rfl
  · rw [keeps "theme" (by decide), theme]

end RepeatedCall

end GatewayLink
