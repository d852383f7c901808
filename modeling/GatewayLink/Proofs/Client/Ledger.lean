import GatewayLink.Proofs.Activity.Growth
import GatewayLink.Proofs.Client.Correlation

/-!
# The records of calls

Where the logs forget nothing every call has its own place in them.  A call enters its record when
it begins and its bulletin when it returns; the record then has the status, and the bulletin the
severity and the content, of what the call has returned.  No place in the history belongs to
anything but a call.
-/

namespace GatewayLink

/-- What is entered for a result: the status of the record, and the severity and the content of the
bulletin. -/
def Fits (method : String) (status : CallStatus) (severity : Severity) (content : String) :
    Except ClientError Json → Prop
  | .ok payload => status = .ok ∧ severity = .info ∧ content = payload.compact
  | .error (.rejected refused _ text) =>
    refused = method ∧ status = .error ∧ severity = .error ∧ content = text
  | .error (.abandoned _ given_up) => given_up = method ∧ status = .error ∧ severity = .error
  | .error (.transport _) => status = .error ∧ severity = .error
  | .error (.rateLimited held_back _) =>
    held_back = method ∧ status = .debounced ∧ severity = .warn
  | .error (.notConnected skipped) => skipped = method ∧ status = .skipped ∧ severity = .error
  | .error _ => False

/-- How a call in a stage is entered in a logbook, at which places of the history and of the
bulletins. -/
inductive Booked (logbook : Logbook) (method : String) :
    CallStage → List Nat → List Nat → Prop where
  | ready : Booked logbook method .ready [] []
  | lapsed : Booked logbook method .lapsed [] []
  | overflowed : Booked logbook method .overflowed [] []
  | waiting (id : String) (handle : Handle) (since place : Nat) (record : CallRecord)
      (found : logbook.records[place]? = some record) (id_eq : record.id = id)
      (method_eq : record.method = method) (status : record.status = .sent) :
      Booked logbook method (.waiting id handle since) [place] []
  | returned (result : Except ClientError Json) (place post : Nat) (record : CallRecord)
      (bulletin : Bulletin) (found : logbook.records[place]? = some record)
      (posted : logbook.bulletins[post]? = some bulletin) (method_eq : record.method = method)
      (title_eq : bulletin.title = method)
      (fits : Fits method record.status bulletin.severity bulletin.content result) :
      Booked logbook method (.returned result) [place] [post]

namespace Booked

variable {logbook after : Logbook} {method : String} {stage : CallStage} {places posts : List Nat}

/-- Only the places of the call itself count. -/
theorem of_kept (booked : Booked logbook method stage places posts)
    (records : ∀ place ∈ places, after.records[place]? = logbook.records[place]?)
    (bulletins : ∀ post ∈ posts, after.bulletins[post]? = logbook.bulletins[post]?) :
    Booked after method stage places posts := by
  cases booked with
  | ready => exact .ready
  | lapsed => exact .lapsed
  | overflowed => exact .overflowed
  | waiting id handle since place record found id_eq method_eq status =>
      exact .waiting id handle since place record ((records place (by simp)).trans found) id_eq
        method_eq status
  | returned result place post record bulletin found posted method_eq title_eq fits =>
      exact .returned result place post record bulletin ((records place (by simp)).trans found)
        ((bulletins post (by simp)).trans posted) method_eq title_eq fits

theorem place_lt (booked : Booked logbook method stage places posts) :
    ∀ place ∈ places, place < logbook.records.length := by
  intro place member
  cases booked with
  | waiting id handle since own record found =>
      obtain rfl := List.mem_singleton.mp member
      exact (List.getElem?_eq_some_iff.mp found).1
  | returned result own post record bulletin found =>
      obtain rfl := List.mem_singleton.mp member
      exact (List.getElem?_eq_some_iff.mp found).1
  | _ => cases member

theorem post_lt (booked : Booked logbook method stage places posts) :
    ∀ post ∈ posts, post < logbook.bulletins.length := by
  intro post member
  cases booked with
  | returned result place own record bulletin found posted =>
      obtain rfl := List.mem_singleton.mp member
      exact (List.getElem?_eq_some_iff.mp posted).1
  | _ => cases member

end Booked

/-- The ids of the records: none is still to be issued, and those that were issued occur once. -/
structure Distinct (issued : Nat) (ids : List String) : Prop where
  known : ∀ id ∈ ids, ∀ serial, issued ≤ serial → id ≠ (serial + 1).repr
  single : ∀ first second serial : Nat, ids[first]? = some (serial + 1).repr →
    ids[second]? = some (serial + 1).repr → first = second

namespace Distinct

variable {issued : Nat} {ids : List String}

theorem nil : Distinct 0 [] := ⟨by simp, by simp⟩

/-- An id may be added that is no decimal number. -/
theorem append_generated (distinct : Distinct issued ids) (serial : Nat) :
    Distinct issued (ids ++ [generatedId serial]) where
  known := by
    intro id member number beyond
    rcases List.mem_append.mp member with old | latest
    · exact distinct.known id old number beyond
    · obtain rfl := List.mem_singleton.mp latest
      exact generatedId_ne_repr serial (number + 1)
  single := by
    have old {place number : Nat}
        (found : (ids ++ [generatedId serial])[place]? = some (number + 1).repr) :
        ids[place]? = some (number + 1).repr := by
      rcases Nat.lt_or_ge place ids.length with inside | beyond
      · rwa [List.getElem?_append_left inside] at found
      · rw [List.getElem?_append_right beyond] at found
        have latest := List.mem_singleton.mp (List.mem_of_getElem? found)
        exact absurd latest.symm (generatedId_ne_repr serial (number + 1))
    intro first second number left right
    exact distinct.single first second number (old left) (old right)

/-- The next id may be added. -/
theorem append_next (distinct : Distinct issued ids) :
    Distinct (issued + 1) (ids ++ [(issued + 1).repr]) where
  known := by
    intro id member serial beyond
    rcases List.mem_append.mp member with old | latest
    · exact distinct.known id old serial (by omega)
    · obtain rfl := List.mem_singleton.mp latest
      exact repr_ne_next (by omega)
  single := by
    have place_of {place number : Nat}
        (found : (ids ++ [(issued + 1).repr])[place]? = some (number + 1).repr) :
        (place < ids.length ∧ ids[place]? = some (number + 1).repr) ∨
          (place = ids.length ∧ (number + 1).repr = (issued + 1).repr) := by
      rcases Nat.lt_or_ge place ids.length with inside | beyond
      · rw [List.getElem?_append_left inside] at found
        exact .inl ⟨inside, found⟩
      · rw [List.getElem?_append_right beyond] at found
        have last := (List.getElem?_eq_some_iff.mp found).1
        have latest := List.mem_singleton.mp (List.mem_of_getElem? found)
        simp only [List.length_singleton] at last
        exact .inr ⟨by omega, latest⟩
    have fresh {place number : Nat} (found : ids[place]? = some (number + 1).repr) :
        (number + 1).repr ≠ (issued + 1).repr :=
      distinct.known _ (List.mem_of_getElem? found) issued (Nat.le_refl _)
    intro first second number left right
    rcases place_of left with ⟨-, left_old⟩ | ⟨left_last, same⟩
    · rcases place_of right with ⟨-, right_old⟩ | ⟨-, same⟩
      · exact distinct.single first second number left_old right_old
      · exact absurd same (fresh left_old)
    · rcases place_of right with ⟨-, right_old⟩ | ⟨right_last, -⟩
      · exact absurd same (fresh right_old)
      · exact left_last.trans right_last.symm

end Distinct

/-- The places that a log of a length has gained. -/
def gained (before after : Nat) : List Nat :=
  List.range' before (after - before)

@[simp] theorem gained_self (length : Nat) : gained length length = [] := by
  simp [gained]

@[simp] theorem gained_succ (length : Nat) : gained length (length + 1) = [length] := by
  simp [gained]

theorem mem_gained {before after place : Nat} :
    place ∈ gained before after ↔ before ≤ place ∧ place < after := by
  simp only [gained, List.mem_range'_1]
  omega

namespace Client

/-- The places of all calls in the logs of a client. -/
structure Ledger (client : Client) (places posts : Nat → List Nat) : Prop where
  unlimited : client.logbook.IsUnlimited
  booked : ∀ {number call}, client.calls[number]? = some call →
    Booked client.logbook call.method call.stage (places number) (posts number)
  unborn : ∀ number, client.calls.length ≤ number → places number = [] ∧ posts number = []
  owned : ∀ place < client.logbook.records.length, ∃ number, place ∈ places number
  apart : ∀ {first second place}, place ∈ places first → place ∈ places second → first = second
  distinct : Distinct client.issued (client.logbook.records.map CallRecord.id)

namespace Ledger

variable {client after : Client} {places posts : Nat → List Nat} {number : Nat} {call : Call}

theorem new (settings : Settings) (wall : Timestamp) :
    Ledger (new settings .unlimited wall) (fun _ => []) (fun _ => []) where
  unlimited := Logbook.isUnlimited_new
  booked := by simp [Client.new]
  unborn := fun _ _ => ⟨rfl, rfl⟩
  owned := by simp [Client.new, Logbook.records, Logbook.new]
  apart := by simp
  distinct := Distinct.nil

theorem booked_or_nil (ledger : Ledger client places posts) (number : Nat) :
    (∃ call, client.calls[number]? = some call) ∨ (places number = [] ∧ posts number = []) := by
  rcases Nat.lt_or_ge number client.calls.length with known | beyond
  · exact .inl ⟨_, List.getElem?_eq_getElem known⟩
  · exact .inr (ledger.unborn number beyond)

theorem place_lt (ledger : Ledger client places posts) {place : Nat}
    (member : place ∈ places number) : place < client.logbook.records.length := by
  rcases ledger.booked_or_nil number with ⟨call, found⟩ | ⟨empty, -⟩
  · exact (ledger.booked found).place_lt place member
  · rw [empty] at member
    cases member

theorem post_lt (ledger : Ledger client places posts) {post : Nat}
    (member : post ∈ posts number) : post < client.logbook.bulletins.length := by
  rcases ledger.booked_or_nil number with ⟨call, found⟩ | ⟨-, empty⟩
  · exact (ledger.booked found).post_lt post member
  · rw [empty] at member
    cases member

/-- Nothing is entered for a call but bulletins of other things. -/
theorem aside {response : Option Response} (ledger : Ledger client places posts)
    (aside : Aside response client after) : Ledger after places posts := by
  obtain ⟨fresh, ready, calls⟩ := aside.calls
  obtain ⟨bulletins, activity⟩ := aside.logbook.activity
  have records : after.logbook.records = client.logbook.records := by
    simp [Logbook.records, aside.logbook.history]
  obtain ⟨capacity, items⟩ := BoundedLog.foldl_push ledger.unlimited.activity bulletins
  have grown : after.logbook.bulletins = client.logbook.bulletins ++ bulletins := by
    simp only [Logbook.bulletins, activity, items]
  refine ⟨⟨?_, ?_⟩, ?_, ?_, ?_, ledger.apart, ?_⟩
  · rw [aside.logbook.history]
    exact ledger.unlimited.history
  · rw [activity]
    exact capacity
  · intro number call found
    have kept {places posts : List Nat}
        (booked : Booked client.logbook call.method call.stage places posts) :
        Booked after.logbook call.method call.stage places posts := by
      refine booked.of_kept (fun place _ => by rw [records]) fun post member => ?_
      rw [grown, List.getElem?_append_left (booked.post_lt post member)]
    rw [calls] at found
    rcases Nat.lt_or_ge number client.calls.length with known | beyond
    · rw [List.getElem?_append_left known] at found
      exact kept (ledger.booked found)
    · obtain ⟨no_place, no_post⟩ := ledger.unborn number beyond
      rw [List.getElem?_append_right beyond] at found
      rw [no_place, no_post, ready call (List.mem_of_getElem? found)]
      exact .ready
  · intro number beyond
    rw [calls, List.length_append] at beyond
    exact ledger.unborn number (by omega)
  · rw [records]
    exact ledger.owned
  · rw [aside.issued, records]
    exact ledger.distinct

/-- The places that a call gains when it is the one that moves. -/
def gains (number before after other : Nat) : List Nat :=
  if other = number then gained before after else []

/-- A call moves on and enters what it has to; the entries of other calls stay. -/
theorem moved (ledger : Ledger client places posts) (stage : CallStage)
    (calls : after.calls = client.calls.modify number ({ · with stage }))
    (unlimited : after.logbook.IsUnlimited)
    (kept : ∀ place < client.logbook.records.length, place ∉ places number →
      after.logbook.records[place]? = client.logbook.records[place]?)
    {bulletins : List Bulletin}
    (posted : after.logbook.bulletins = client.logbook.bulletins ++ bulletins)
    (found : client.calls[number]? = some call)
    (booked : Booked after.logbook call.method stage
      (places number ++ gained client.logbook.records.length after.logbook.records.length)
      (posts number ++ gained client.logbook.bulletins.length after.logbook.bulletins.length))
    (distinct : Distinct after.issued (after.logbook.records.map CallRecord.id)) :
    Ledger after
      (fun other => places other ++
        gains number client.logbook.records.length after.logbook.records.length other)
      (fun other => posts other ++
        gains number client.logbook.bulletins.length after.logbook.bulletins.length other) where
  unlimited := unlimited
  booked := by
    intro other otherCall other_found
    rw [calls, List.getElem?_modify] at other_found
    by_cases same : number = other
    · subst same
      simp only [if_true, found, Option.map_eq_map, Option.map_some, Option.some.injEq] at other_found
      subst other_found
      simpa [gains] using booked
    · simp only [same, if_false, Option.map_eq_map, Option.map_id_fun', id_eq] at other_found
      simp only [gains, Ne.symm same, if_false, List.append_nil]
      refine (ledger.booked other_found).of_kept (fun place member => ?_) fun post member => ?_
      · exact kept place (ledger.place_lt member) fun own => same (ledger.apart own member)
      · rw [posted, List.getElem?_append_left (ledger.post_lt member)]
  unborn := by
    intro other beyond
    rw [calls, List.length_modify] at beyond
    have known : number < client.calls.length := (List.getElem?_eq_some_iff.mp found).1
    have apart : other ≠ number := by omega
    simpa [gains, apart] using ledger.unborn other beyond
  owned := by
    intro place inside
    rcases Nat.lt_or_ge place client.logbook.records.length with old | latest
    · obtain ⟨owner, member⟩ := ledger.owned place old
      exact ⟨owner, List.mem_append_left _ member⟩
    · refine ⟨number, List.mem_append_right _ ?_⟩
      simpa [gains] using mem_gained.mpr ⟨latest, inside⟩
  apart := by
    have mine {other place : Nat} (member : place ∈ gains number client.logbook.records.length
        after.logbook.records.length other) :
        other = number ∧ client.logbook.records.length ≤ place := by
      by_cases same : other = number
      · rw [gains, if_pos same] at member
        exact ⟨same, (mem_gained.mp member).1⟩
      · rw [gains, if_neg same] at member
        cases member
    intro first second place left right
    rcases List.mem_append.mp left with left | left <;>
      rcases List.mem_append.mp right with right | right
    · exact ledger.apart left right
    · have old := ledger.place_lt left
      have latest := (mine right).2
      omega
    · have old := ledger.place_lt right
      have latest := (mine left).2
      omega
    · exact (mine left).1.trans (mine right).1.symm
  distinct := distinct

/-- The ledger of a client after a step of a call. -/
def Continues (before after : Client) (number : Nat) (places posts : Nat → List Nat) : Prop :=
  Ledger after
    (fun other => places other ++
      gains number before.logbook.records.length after.logbook.records.length other)
    (fun other => posts other ++
      gains number before.logbook.bulletins.length after.logbook.bulletins.length other)

theorem places_of_ready (ledger : Ledger client places posts)
    (found : client.calls[number]? = some call) (ready : call.stage = .ready) :
    places number = [] ∧ posts number = [] := by
  have booked := ledger.booked found
  rw [ready] at booked
  generalize places number = own_places, posts number = own_posts at booked
  cases booked
  exact ⟨rfl, rfl⟩

theorem pass (ledger : Ledger client places posts) (found : client.calls[number]? = some call)
    (ready : call.stage = .ready) {stage : CallStage} (gone : stage = .lapsed ∨ stage = .overflowed) :
    Continues client (client.setStage number stage) number places posts := by
  obtain ⟨no_place, no_post⟩ := ledger.places_of_ready found ready
  refine @moved client _ places posts number call ledger stage rfl ledger.unlimited
    (fun _ _ _ => rfl) [] (by simp) found ?_ ledger.distinct
  rw [no_place, no_post]
  rcases gone with rfl | rfl
  · simpa using Booked.lapsed
  · simpa using Booked.overflowed

/-- A call that is sent enters its record. -/
theorem enter (ledger : Ledger client places posts) (found : client.calls[number]? = some call)
    (ready : call.stage = .ready) {id : String} {handle : Handle} {since : Nat}
    (calls : after.calls = client.calls.modify number ({ · with stage := .waiting id handle since }))
    (unlimited : after.logbook.IsUnlimited) {record : CallRecord}
    (records : after.logbook.records = client.logbook.records ++ [record])
    (bulletins : after.logbook.bulletins = client.logbook.bulletins)
    (id_eq : record.id = id) (method_eq : record.method = call.method)
    (status : record.status = .sent)
    (distinct : Distinct after.issued (client.logbook.records.map CallRecord.id ++ [record.id])) :
    Continues client after number places posts := by
  obtain ⟨no_place, no_post⟩ := ledger.places_of_ready found ready
  refine @moved client after places posts number call ledger _ calls unlimited ?_ []
    (by simp [bulletins]) found ?_ (by simpa [records] using distinct)
  · intro place inside _
    rw [records, List.getElem?_append_left inside]
  · rw [no_place, no_post, bulletins, gained_self]
    simpa [records] using Booked.waiting id handle since client.logbook.records.length record
      (by simp [records]) id_eq method_eq status

/-- A call that returns at once enters its record and its bulletin. -/
theorem enter_post (ledger : Ledger client places posts) (found : client.calls[number]? = some call)
    (ready : call.stage = .ready) {result : Except ClientError Json}
    (calls : after.calls = client.calls.modify number ({ · with stage := .returned result }))
    (unlimited : after.logbook.IsUnlimited) {record : CallRecord} {bulletin : Bulletin}
    (records : after.logbook.records = client.logbook.records ++ [record])
    (bulletins : after.logbook.bulletins = client.logbook.bulletins ++ [bulletin])
    (method_eq : record.method = call.method) (title_eq : bulletin.title = call.method)
    (fits : Fits call.method record.status bulletin.severity bulletin.content result)
    (distinct : Distinct after.issued (client.logbook.records.map CallRecord.id ++ [record.id])) :
    Continues client after number places posts := by
  obtain ⟨no_place, no_post⟩ := ledger.places_of_ready found ready
  refine @moved client after places posts number call ledger _ calls unlimited ?_ [bulletin]
    bulletins found ?_ (by simpa [records] using distinct)
  · intro place inside _
    rw [records, List.getElem?_append_left inside]
  · rw [no_place, no_post]
    simpa [records, bulletins] using Booked.returned result client.logbook.records.length
      client.logbook.bulletins.length record bulletin (by simp [records]) (by simp [bulletins])
      method_eq title_eq fits

/-- A call that waits has one record, and an outcome under its id changes that record in its
place. -/
theorem records_settle (ledger : Ledger client places posts) (correlated : client.IsCorrelated)
    (found : client.calls[number]? = some call) {id : String} {handle : Handle} {since : Nat}
    (waiting : call.stage = .waiting id handle since) {noted : Logbook}
    (noted_records : noted.records = client.logbook.records) {status : CallStatus}
    (outcome : status = .ok ∨ status = .error) (duration : UInt64) :
    ∃ place record, places number = [place] ∧ posts number = [] ∧
      client.logbook.records[place]? = some record ∧ record.id = id ∧
      record.method = call.method ∧ record.status = .sent ∧
      (noted.settle id status duration).2.records =
        client.logbook.records.set place { record with status, duration := some duration } := by
  obtain ⟨serial, -, id_serial⟩ := correlated.numbered ⟨call, since, found, waiting, rfl⟩
  have booked := ledger.booked found
  rw [waiting] at booked
  generalize places number = own_places, posts number = own_posts at booked
  cases booked with
  | waiting _ _ _ place record place_found id_eq method_eq sent =>
      refine ⟨place, record, rfl, rfl, place_found, id_eq, method_eq, sent, ?_⟩
      rw [← noted_records] at place_found ⊢
      refine Logbook.records_settle place_found id_eq (by rw [sent]; rfl) ?_ outcome duration
      -- An id that was issued occurs once.
      intro other entry other_found entry_id
      refine ledger.distinct.single other place serial ?_ ?_
      · rw [← id_serial, ← entry_id, ← noted_records, List.getElem?_map, other_found]
        rfl
      · rw [← id_serial, ← id_eq, ← noted_records, List.getElem?_map, place_found]
        rfl

/-- A call that returns after it has waited settles its record and enters its bulletin. -/
theorem settle_post (ledger : Ledger client places posts)
    (correlated : client.IsCorrelated) (found : client.calls[number]? = some call) {id : String}
    {handle : Handle} {since : Nat} (waiting : call.stage = .waiting id handle since)
    {result : Except ClientError Json}
    (calls : after.calls = client.calls.modify number ({ · with stage := .returned result }))
    (issued : after.issued = client.issued) {status : CallStatus}
    (outcome : status = .ok ∨ status = .error) {duration : UInt64} {noted : Logbook}
    (unlimited : noted.IsUnlimited) (noted_records : noted.records = client.logbook.records)
    (noted_bulletins : noted.bulletins = client.logbook.bulletins) {content : String}
    {severity : Severity} {standing : Table MethodStanding}
    (logbook : after.logbook =
      { (noted.settle id status duration).2 with standing }.post call.method content severity)
    (fits : Fits call.method status severity content result) :
    Continues client after number places posts := by
  obtain ⟨place, record, own_place, no_post, place_found, -, method_eq, -, settled⟩ :=
    ledger.records_settle correlated found waiting noted_records outcome duration
  have settled_unlimited := Logbook.isUnlimited_settle unlimited id status duration
  have records : after.logbook.records =
      client.logbook.records.set place { record with status, duration := some duration } := by
    rw [logbook]
    exact settled
  have bulletins : after.logbook.bulletins = client.logbook.bulletins ++
      [⟨generatedId (noted.settle id status duration).2.generated, call.method, content,
        severity⟩] := by
    rw [logbook, ← noted_bulletins, ← Logbook.bulletins_settle noted id status duration]
    exact Logbook.bulletins_post ⟨settled_unlimited.history, settled_unlimited.activity⟩ ..
  have inside : place < client.logbook.records.length :=
    (List.getElem?_eq_some_iff.mp place_found).1
  refine @moved client after places posts number call ledger _ calls ?_ ?_ _ bulletins found ?_ ?_
  · rw [logbook]
    exact ⟨settled_unlimited.history, settled_unlimited.activity⟩
  · intro other _ apart
    rw [own_place] at apart
    rw [records, List.getElem?_set_ne]
    exact fun same => apart (by simp [same])
  · rw [own_place, no_post]
    simpa [records, bulletins] using Booked.returned result place
      client.logbook.bulletins.length { record with status, duration := some duration }
      ⟨generatedId (noted.settle id status duration).2.generated, call.method, content, severity⟩
      (by simp [records, inside]) (by simp [bulletins]) method_eq rfl fits
  · have ids : after.logbook.records.map CallRecord.id =
        client.logbook.records.map CallRecord.id := by
      rw [records]
      exact ids_set place_found rfl
    rw [ids, issued]
    exact ledger.distinct

theorem idle (ledger : Ledger client places posts) : Continues client client number places posts := by
  have none_gained (length : Nat) : gains number length length = fun _ => [] := by
    funext other
    simp [gains]
  simpa [Continues, none_gained] using ledger

/-- What is changed besides does not matter. -/
theorem Continues.of_outer {outer : Client} (continues : Continues client outer number places posts)
    (calls : after.calls = outer.calls) (issued : after.issued = outer.issued)
    (logbook : after.logbook = outer.logbook) : Continues client after number places posts := by
  unfold Continues at continues ⊢
  rw [logbook]
  exact
    { unlimited := logbook ▸ continues.unlimited
      booked := fun found => logbook ▸ continues.booked (calls ▸ found)
      unborn := fun number beyond => continues.unborn number (calls ▸ beyond)
      owned := logbook ▸ continues.owned
      apart := continues.apart
      distinct := by
        rw [logbook, issued]
        exact continues.distinct }

/-- A record that was entered under the next id is the only one with that id, so an outcome under it
changes that record. -/
theorem records_settle_next (ledger : Ledger client places posts) (method : String)
    (duration : UInt64) :
    ((client.logbook.attempt client.clock.wall (some (client.issued + 1).repr) method .sent
        none).2.settle (client.issued + 1).repr .error duration).2.records =
      client.logbook.records ++
        [⟨(client.issued + 1).repr, method, .error, some duration, client.clock.wall⟩] := by
  have records := Logbook.records_attempt_some ledger.unlimited client.clock.wall
    (client.issued + 1).repr method .sent none
  generalize (client.logbook.attempt client.clock.wall (some (client.issued + 1).repr) method .sent
    none).2 = sent at records
  have here : sent.records[client.logbook.records.length]? =
      some ⟨(client.issued + 1).repr, method, .sent, none, client.clock.wall⟩ := by
    simp [records]
  rw [Logbook.records_settle here rfl rfl ?_ (.inr rfl), records]
  · simp
  · intro other entry other_found entry_id
    have ids : sent.records.map CallRecord.id =
        client.logbook.records.map CallRecord.id ++ [(client.issued + 1).repr] := by
      simp [records]
    refine ledger.distinct.append_next.single other _ client.issued ?_ ?_
    · rw [← ids, List.getElem?_map, other_found]
      exact congrArg some entry_id
    · rw [← ids, List.getElem?_map, here]
      rfl

theorem issued (ledger : Ledger client places posts) (correlated : client.IsCorrelated)
    (found : client.calls[number]? = some call) (ready : call.stage = .ready)
    (issued : Issued client number call after) : Continues client after number places posts := by
  have next := ledger.distinct.append_next
  have unlimited := Logbook.isUnlimited_attempt ledger.unlimited client.clock.wall
    (some (client.issued + 1).repr) call.method .sent none
  have records := Logbook.records_attempt_some ledger.unlimited client.clock.wall
    (client.issued + 1).repr call.method .sent none
  have bulletins := Logbook.bulletins_attempt client.logbook client.clock.wall
    (some (client.issued + 1).repr) call.method .sent none
  cases issued with
  | duplicate awaited =>
      rw [correlated.next_free] at awaited
      exact absurd awaited (by decide)
  | sent free connection sends =>
      exact ledger.enter found ready rfl unlimited records bulletins rfl rfl rfl next
  | unsent free cause fails =>
      have settled_unlimited := Logbook.isUnlimited_settle unlimited (client.issued + 1).repr .error
        (client.elapsedSince client.clock.uptime)
      have posted := Logbook.bulletins_post settled_unlimited call.method
        (ClientError.transport cause).message .error
      rw [Logbook.bulletins_settle, bulletins] at posted
      exact ledger.enter_post found ready rfl (Logbook.isUnlimited_post settled_unlimited ..)
        (ledger.records_settle_next call.method _) posted rfl rfl ⟨rfl, rfl⟩ next

theorem began (ledger : Ledger client places posts) (correlated : client.IsCorrelated)
    (found : client.calls[number]? = some call) (ready : call.stage = .ready)
    (began : Began client number call after) : Continues client after number places posts := by
  cases began with
  | lapsed => exact ledger.pass found ready (.inl rfl)
  | overflowed => exact ledger.pass found ready (.inr rfl)
  | refused cause status duration text severity refusal =>
      have unlimited := Logbook.isUnlimited_attempt ledger.unlimited client.clock.wall none
        call.method status duration
      have records := Logbook.records_attempt_none ledger.unlimited client.clock.wall call.method
        status duration
      have posted := Logbook.bulletins_post unlimited call.method text severity
      rw [Logbook.bulletins_attempt] at posted
      refine ledger.enter_post found ready rfl (Logbook.isUnlimited_post unlimited ..) records posted
        rfl rfl ?_ (ledger.distinct.append_generated _)
      cases refusal with
      | skipped => exact ⟨rfl, rfl, rfl⟩
      | debounced => exact ⟨rfl, rfl, rfl⟩
  | issued pacing after issued =>
      have paced : Ledger { client with pacing } places posts := { ledger with }
      exact @Ledger.issued { client with pacing } after places posts number call paced correlated
        found ready issued

theorem woke (ledger : Ledger client places posts) (correlated : client.IsCorrelated)
    (found : client.calls[number]? = some call) {id : String} {handle : Handle} {since : Nat}
    (waiting : call.stage = .waiting id handle since)
    (woke : Woke client number call id handle since after) :
    Continues client after number places posts := by
  cases woke with
  | unchanged => exact ledger.idle
  | abandoned =>
      exact ledger.settle_post correlated found waiting rfl rfl (.inr rfl) ledger.unlimited rfl rfl
        rfl ⟨rfl, rfl, rfl⟩
  | concluded response seen connection welcomed =>
      cases ok : response.ok with
      | true =>
          have logbook : client.concluded id call.method since response =
              ({ (client.logbook.settle id .ok (client.elapsedSince since)).2 with
                standing := ((client.logbook.settle id .ok (client.elapsedSince since)).2.noteSuccess
                  client.clock.wall call.method).standing } : Logbook).post call.method
                (response.payload.getD (.object [])).compact .info := by
            rw [concluded, if_pos ok]
            rfl
          have fits : Fits call.method .ok .info (response.payload.getD (.object [])).compact
              (verdict call.method response) := by
            rw [verdict, if_pos ok]
            exact ⟨rfl, rfl, rfl⟩
          exact ledger.settle_post correlated found waiting (calls_setStage ..) rfl (.inl rfl)
            ledger.unlimited rfl rfl logbook fits
      | false =>
          have logbook : client.concluded id call.method since response =
              ((client.logbook.noteFailure client.clock.wall call.method
                response.refusalText).settle id .error (client.elapsedSince since)).2.post call.method
                response.refusalText .error := by
            rw [concluded, if_neg (by simp [ok])]
          have fits : Fits call.method .error .error response.refusalText
              (verdict call.method response) := by
            rw [verdict, if_neg (by simp [ok])]
            exact ⟨rfl, rfl, rfl, rfl⟩
          have unlimited : (client.logbook.noteFailure client.clock.wall call.method
              response.refusalText).IsUnlimited :=
            ⟨ledger.unlimited.history, ledger.unlimited.activity⟩
          exact ledger.settle_post correlated found waiting (calls_setStage ..) rfl (.inr rfl)
            unlimited rfl rfl logbook fits

end Ledger

/-- The call that an action moves. -/
def Action.mover? : Action → Option Nat
  | .start number | .wake number => some number
  | _ => none

/-- The places that a log gains along a run by the steps of a call. -/
def gainedBy (length : Client → Nat) (number : Nat) (client : Client) : List Action → List Nat
  | [] => []
  | action :: rest =>
    (if action.mover? = some number then gained (length client) (length (client.step action))
      else []) ++ gainedBy length number (client.step action) rest

/-- The places of the records that a call has entered along a run. -/
def recordsBy (number : Nat) (client : Client) (actions : List Action) : List Nat :=
  gainedBy (fun client => client.logbook.records.length) number client actions

/-- The places of the bulletins that a call has entered along a run. -/
def bulletinsBy (number : Nat) (client : Client) (actions : List Action) : List Nat :=
  gainedBy (fun client => client.logbook.bulletins.length) number client actions

/-- A ledger is kept by every step. -/
theorem ledger_step {client : Client} {places posts : Nat → List Nat}
    (ledger : Ledger client places posts) (correlated : client.IsCorrelated) (action : Action) :
    Ledger (client.step action) (fun number => places number ++ recordsBy number client [action])
      (fun number => posts number ++ bulletinsBy number client [action]) := by
  have moves (number : Nat) (mover : action.mover? = some number)
      (continues : Ledger.Continues client (client.step action) number places posts) :
      Ledger (client.step action) (fun number => places number ++ recordsBy number client [action])
        (fun number => posts number ++ bulletinsBy number client [action]) := by
    unfold Ledger.Continues at continues
    have same_mover (other : Nat) : (some number = some other) = (other = number) := by
      simp [eq_comm]
    simpa [recordsBy, bulletinsBy, gainedBy, mover, Ledger.gains, same_mover] using continues
  cases others : action.movesCall with
  | false =>
      have still : action.mover? = none := by
        cases action <;> first | rfl | cases others
      simpa [recordsBy, bulletinsBy, gainedBy, still] using
        ledger.aside (client.aside_step action others)
  | true =>
      cases action with
      | start number =>
          have continues : Ledger.Continues client (client.start number) number places posts := by
            obtain ⟨call, found, ready, began⟩ | ⟨-, unchanged⟩ := client.start_cases number
            · exact ledger.began correlated found ready began
            · rw [unchanged]
              exact ledger.idle
          refine moves number rfl ?_
          rw [step_start]
          exact continues.of_outer (by simp) (by simp) (by simp)
      | wake number =>
          have continues : Ledger.Continues client (client.wake number) number places posts := by
            obtain ⟨call, id, handle, since, found, waiting, woke⟩ | ⟨-, unchanged⟩ :=
              client.wake_cases number
            · exact ledger.woke correlated found waiting woke
            · rw [unchanged]
              exact ledger.idle
          refine moves number rfl ?_
          rw [step_wake]
          exact continues.of_outer (by simp) (by simp) (by simp)
      | _ => cases others

theorem gainedBy_cons (length : Client → Nat) (number : Nat) (client : Client) (action : Action)
    (rest : List Action) :
    gainedBy length number client (action :: rest) =
      gainedBy length number client [action] ++
        gainedBy length number (client.step action) rest := by
  simp [gainedBy]

theorem ledger_run {client : Client} {places posts : Nat → List Nat}
    (ledger : Ledger client places posts) (correlated : client.IsCorrelated)
    (actions : List Action) :
    Ledger (client.run actions) (fun number => places number ++ recordsBy number client actions)
      (fun number => posts number ++ bulletinsBy number client actions) := by
  induction actions generalizing client places posts with
  | nil => simpa [recordsBy, bulletinsBy, gainedBy] using ledger
  | cons action rest induction =>
      have next := induction (ledger_step ledger correlated action)
        (isCorrelated_step correlated action)
      simpa only [recordsBy, bulletinsBy, gainedBy_cons _ _ client action rest, List.append_assoc,
        run_cons] using next

end Client

end GatewayLink
