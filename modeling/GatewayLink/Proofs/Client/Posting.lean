import GatewayLink.Proofs.Client.Mirror
import GatewayLink.Proofs.Client.Numbering
import GatewayLink.Proofs.Client.Sending

/-!
# The requests in the channels

Every text of a channel is the request of one call, which has queued it by beginning, and it carries
the id under which that call is recorded.  A call queues one text at most, and the ids of requests
differ, so no two texts carry the same id.
-/

namespace GatewayLink

theorem Booked.length_le {logbook : Logbook} {method : String} {stage : CallStage}
    {places posts : List Nat} (booked : Booked logbook method stage places posts) :
    places.length ≤ 1 := by
  cases booked <;> simp

namespace Client

/-- The positions in a channel of the texts that a call has queued along a run. -/
def textsBy (channel number : Nat) (client : Client) (actions : List Action) : List Nat :=
  gainedBy (fun client => (client.connection.textsOf channel).length) number client actions

/-- A text of a channel is a request that a call carries under the id of its only record. -/
structure Carried (client : Client) (places : List Nat) (number channel slot : Nat)
    (request : Request) : Prop where
  text : (client.connection.textsOf channel)[slot]? = some (Outgoing.request request).text
  called : ∃ call, client.calls[number]? = some call ∧ call.method = request.method ∧
    call.params = request.params
  recorded : ∃ place record, places = [place] ∧ client.logbook.records[place]? = some record ∧
    record.id = request.id ∧ record.status.isNumbered = true

/-- The calls to which the texts of the channels belong. -/
structure Posted (client : Client) (places : Nat → List Nat) (slots : Nat → Nat → List Nat) :
    Prop where
  carried : ∀ channel number slot, slot ∈ slots channel number →
    ∃ request, Carried client (places number) number channel slot request
  owned : ∀ channel, ∀ slot < (client.connection.textsOf channel).length,
    ∃ number, slot ∈ slots channel number
  apart : ∀ channel first second slot, slot ∈ slots channel first → slot ∈ slots channel second →
    first = second
  single : ∀ number first second slot other, slot ∈ slots first number →
    other ∈ slots second number → first = second ∧ slot = other

theorem posted_new (settings : Settings) (limits : Limits) (wall : Timestamp) :
    Posted (new settings limits wall) (fun _ => []) (fun _ _ => []) where
  carried := by simp
  owned := by simp [new, Connection.new, Connection.textsOf]
  apart := by simp
  single := by simp

section Step

variable {client : Client} {places posts : Nat → List Nat} {slots : Nat → Nat → List Nat}
  {number : Nat} {call : Call}

theorem exists_stage_step (found : client.calls[number]? = some call) (action : Action) :
    ∃ stage, (client.step action).calls[number]? = some { call with stage } := by
  have stays := client.getElem?_roster_step (getElem?_roster found) action
  simp only [roster, List.getElem?_map, Option.map_eq_some_iff] at stays
  obtain ⟨later, later_found, same⟩ := stays
  refine ⟨later.stage, later_found.trans (congrArg some ?_)⟩
  obtain ⟨caller, method, params, stage⟩ := call
  obtain ⟨_, _, _, later_stage⟩ := later
  cases same
  rfl

theorem recordsBy_of_recorded (ledger : Ledger client places posts)
    (correlated : client.IsCorrelated) {place : Nat} (own : places number = [place])
    (action : Action) : recordsBy number client [action] = [] := by
  have after := ledger_step ledger correlated action
  have short : (places number ++ recordsBy number client [action]).length ≤ 1 := by
    rcases after.booked_or_nil number with ⟨call, found⟩ | ⟨empty, -⟩
    · exact (after.booked found).length_le
    · rw [empty]
      exact Nat.zero_le _
  rw [own, List.length_append, List.length_singleton] at short
  exact List.eq_nil_of_length_eq_zero (by omega)

theorem Carried.step {channel slot : Nat} {request : Request}
    (carried : Carried client (places number) number channel slot request)
    (ledger : Ledger client places posts) (correlated : client.IsCorrelated) (action : Action) :
    Carried (client.step action) (places number ++ recordsBy number client [action]) number channel
      slot request := by
  obtain ⟨text, ⟨call, found, method, params⟩, place, record, own, place_found, id, numbered⟩ :=
    carried
  obtain ⟨stage, later⟩ := exists_stage_step found action
  obtain ⟨after, after_found, same_id, same_kind⟩ :=
    (recorded_step ledger correlated action).stays place_found
  refine ⟨getElem?_textsOf_step _ text action, ⟨_, later, method, params⟩, place, after, ?_,
    after_found, same_id.trans id, same_kind.trans numbered⟩
  rw [recordsBy_of_recorded ledger correlated own, own, List.append_nil]

/-- A call that is sent carries its request in the next position of the installed channel. -/
theorem carried_of_sent (ledger : Ledger client places posts)
    (found : client.calls[number]? = some call) (ready : call.stage = .ready)
    {after : Client} {channel handle since : Nat}
    (texts : after.connection.textsOf channel =
      client.connection.textsOf channel ++ [(Outgoing.request (client.nextRequest call)).text])
    (calls : after.calls = client.calls.modify number
      ({ · with stage := .waiting (client.nextRequest call).id handle since }))
    (logbook : after.logbook = (client.logbook.attempt client.clock.wall
      (some (client.nextRequest call).id) call.method .sent none).2) :
    Carried after
      (places number ++ gained client.logbook.records.length after.logbook.records.length) number
      channel (client.connection.textsOf channel).length (client.nextRequest call) := by
  have records := Logbook.records_attempt_some ledger.unlimited client.clock.wall
    (client.nextRequest call).id call.method .sent none
  rw [← logbook] at records
  have sent : after.calls[number]? =
      some { call with stage := .waiting (client.nextRequest call).id handle since } := by
    simp [calls, found]
  have recorded : after.logbook.records[client.logbook.records.length]? =
      some ⟨(client.nextRequest call).id, call.method, .sent, none, client.clock.wall⟩ := by
    simp [records]
  refine ⟨by simp [texts], ⟨_, sent, rfl, rfl⟩, client.logbook.records.length, _, ?_, recorded, rfl,
    rfl⟩
  rw [(ledger.places_of_ready found ready).1, records]
  simp

theorem mem_textsBy_of_sent {channel : Nat} {text : String}
    (texts : ∀ other, (client.step (.start number)).connection.textsOf other =
      if other = channel then client.connection.textsOf channel ++ [text]
      else client.connection.textsOf other) (other owner slot : Nat) :
    slot ∈ textsBy other owner client [.start number] ↔
      other = channel ∧ owner = number ∧ slot = (client.connection.textsOf channel).length := by
  by_cases moves : number = owner
  · subst moves
    by_cases same : other = channel
    · simp [textsBy, gainedBy, Action.mover?, same, texts, -step_start]
    · simp [textsBy, gainedBy, same, texts, -step_start]
  · simp [textsBy, gainedBy, Action.mover?, moves, Ne.symm moves, -step_start]

theorem Posted.not_mem_of_ready (posted : Posted client places slots)
    (ledger : Ledger client places posts) (found : client.calls[number]? = some call)
    (ready : call.stage = .ready) (channel slot : Nat) : slot ∉ slots channel number := by
  intro member
  obtain ⟨request, -, -, place, record, own, -⟩ := posted.carried channel number slot member
  rw [(ledger.places_of_ready found ready).1] at own
  cases own

/-- The texts of the channels belong to calls after every step. -/
theorem posted_step (posted : Posted client places slots) (ledger : Ledger client places posts)
    (correlated : client.IsCorrelated) (action : Action) :
    Posted (client.step action) (fun number => places number ++ recordsBy number client [action])
      (fun channel number => slots channel number ++ textsBy channel number client [action]) := by
  have kept {channel number slot : Nat} (member : slot ∈ slots channel number) :
      ∃ request, Carried (client.step action) (places number ++ recordsBy number client [action])
        number channel slot request := by
    obtain ⟨request, carried⟩ := posted.carried channel number slot member
    exact ⟨request, carried.step ledger correlated action⟩
  have silent (texts : (client.step action).connection.textsOf = client.connection.textsOf) :
      Posted (client.step action) (fun number => places number ++ recordsBy number client [action])
        (fun channel number => slots channel number ++ textsBy channel number client [action]) := by
    have none_queued (channel number : Nat) : textsBy channel number client [action] = [] := by
      simp [textsBy, gainedBy, texts]
    simp only [none_queued, List.append_nil]
    exact ⟨fun channel number slot => kept, by rw [texts]; exact posted.owned, posted.apart,
      posted.single⟩
  have turn := client.turn_step action
  cases turn with
  | retained retains => exact silent retains.texts
  | opened link url found texts => exact silent texts
  | sent number call channel handle since is_start found ready installed held texts receivers
      outbound generation links calls issued logbook =>
      subst is_start
      have own_text := (texts channel).trans (if_pos rfl)
      have queued := mem_textsBy_of_sent texts
      have unqueued := posted.not_mem_of_ready ledger found ready
      have inside {other owner slot : Nat} (member : slot ∈ slots other owner) :
          slot < (client.connection.textsOf other).length := by
        obtain ⟨request, text, -⟩ := posted.carried other owner slot member
        exact (List.getElem?_eq_some_iff.mp text).1
      refine ⟨?_, ?_, ?_, ?_⟩
      · intro other owner slot member
        rcases List.mem_append.mp member with earlier | latest
        · exact kept earlier
        · obtain ⟨rfl, rfl, rfl⟩ := (queued other owner slot).mp latest
          refine ⟨client.nextRequest call, ?_⟩
          simpa [recordsBy, gainedBy, Action.mover?] using
            carried_of_sent ledger found ready own_text calls logbook
      · intro other slot slot_lt
        rcases Nat.lt_or_ge slot (client.connection.textsOf other).length with earlier | latest
        · obtain ⟨owner, member⟩ := posted.owned other slot earlier
          exact ⟨owner, List.mem_append_left _ member⟩
        · refine ⟨number, List.mem_append_right _ ((queued other number slot).mpr ?_)⟩
          by_cases same : other = channel
          · subst same
            rw [own_text, List.length_append, List.length_singleton] at slot_lt
            exact ⟨rfl, rfl, by omega⟩
          · rw [texts, if_neg same] at slot_lt
            omega
      · intro other first second slot in_first in_second
        rcases List.mem_append.mp in_first with earlier | latest <;>
          rcases List.mem_append.mp in_second with other_earlier | other_latest
        · exact posted.apart other first second slot earlier other_earlier
        · obtain ⟨rfl, -, rfl⟩ := (queued ..).mp other_latest
          exact absurd (inside earlier) (Nat.lt_irrefl _)
        · obtain ⟨rfl, -, rfl⟩ := (queued ..).mp latest
          exact absurd (inside other_earlier) (Nat.lt_irrefl _)
        · exact ((queued ..).mp latest).2.1.trans ((queued ..).mp other_latest).2.1.symm
      · intro owner first second slot other in_first in_second
        rcases List.mem_append.mp in_first with earlier | latest <;>
          rcases List.mem_append.mp in_second with other_earlier | other_latest
        · exact posted.single owner first second slot other earlier other_earlier
        · obtain ⟨-, rfl, -⟩ := (queued ..).mp other_latest
          exact absurd earlier (unqueued first slot)
        · obtain ⟨-, rfl, -⟩ := (queued ..).mp latest
          exact absurd other_earlier (unqueued second other)
        · obtain ⟨rfl, -, rfl⟩ := (queued ..).mp latest
          obtain ⟨rfl, -, rfl⟩ := (queued ..).mp other_latest
          exact ⟨rfl, rfl⟩

end Step

theorem posted_run {client : Client} {places posts : Nat → List Nat}
    {slots : Nat → Nat → List Nat} (posted : Posted client places slots)
    (ledger : Ledger client places posts) (correlated : client.IsCorrelated)
    (actions : List Action) :
    Posted (client.run actions) (fun number => places number ++ recordsBy number client actions)
      (fun channel number => slots channel number ++ textsBy channel number client actions) := by
  induction actions generalizing client places posts slots with
  | nil => simpa [recordsBy, textsBy, gainedBy] using posted
  | cons action rest induction =>
      have next := induction (posted_step posted ledger correlated action)
        (ledger_step ledger correlated action) (isCorrelated_step correlated action)
      simpa only [recordsBy, textsBy, gainedBy_cons _ _ client action rest, List.append_assoc,
        run_cons] using next

/-- A position of a channel after a run belongs to a call, which has queued a request there. -/
structure SentAs (start : Client) (actions : List Action) (number channel slot : Nat)
    (request : Request) : Prop where
  owner : ∀ other, slot ∈ textsBy channel other start actions ↔ other = number
  carried : Carried (start.run actions) (recordsBy number start actions) number channel slot request

theorem exists_serial {client : Client} {place : Nat} {record : CallRecord}
    (ids : requestIds client.logbook.records = serials client.issued)
    (found : client.logbook.records[place]? = some record)
    (numbered : record.status.isNumbered = true) : ∃ serial : Nat, record.id = (serial + 1).repr := by
  have member : record.id ∈ requestIds client.logbook.records :=
    List.mem_map_of_mem (List.mem_filter.mpr ⟨List.mem_of_getElem? found, numbered⟩)
  rw [ids, serials, List.mem_map] at member
  obtain ⟨serial, -, same⟩ := member
  exact ⟨serial, same.symm⟩

/-- The ids of the requests are the numbers from one on, in the order in which calls were given
them, and no two texts of the channels carry the same. -/
theorem requests_are_numbered_in_order (settings : Settings) (limits : Limits) (wall : Timestamp)
    (actions : List Action) :
    let start := new settings .unlimited wall
    let full := start.run actions
    let client := (new settings limits wall).run actions
    let records := full.logbook.records
    (client.calls = full.calls ∧ client.issued = full.issued ∧
      client.connection = full.connection ∧
      client.logbook.history.items = BoundedLog.within limits.history records.reverse) ∧
    requestIds records = serials full.issued ∧
    (∀ channel, ∀ slot < (full.connection.textsOf channel).length,
      ∃ number request, SentAs start actions number channel slot request) ∧
    (∀ number channel slot request other otherChannel otherSlot otherRequest,
      SentAs start actions number channel slot request →
      SentAs start actions other otherChannel otherSlot otherRequest →
      request.id = otherRequest.id →
        number = other ∧ channel = otherChannel ∧ slot = otherSlot) ∧
    (∀ call ∈ full.calls, ∀ id, call.stage ≠ .returned (.error (.duplicateId id))) ∧
    ∀ action, ∀ place < records.length,
      (full.step action).logbook.records[place]? ≠ records[place]? →
        ∃ number, action = .wake number ∧ recordsBy number start actions = [place] := by
  intro start full client records
  have correlated : full.IsCorrelated := isCorrelated_run settings .unlimited wall actions
  have ledger : Ledger full (fun number => [] ++ recordsBy number start actions)
      (fun number => [] ++ bulletinsBy number start actions) :=
    ledger_run (Ledger.new settings wall) Correlated.new actions
  have posted : Posted full (fun number => [] ++ recordsBy number start actions)
      (fun channel number => [] ++ textsBy channel number start actions) :=
    posted_run (posted_new settings .unlimited wall) (Ledger.new settings wall) Correlated.new
      actions
  have ids : requestIds records = serials full.issued :=
    requestIds_run (Ledger.new settings wall) Correlated.new rfl actions
  simp only [List.nil_append] at ledger posted
  refine ⟨?mirror, ids, ?owned, ?apart, ?unduplicated, ?unpatched⟩
  case mirror =>
    have mirrors : Mirrors limits client full := mirrors_run settings limits wall actions
    have shown : client.logbook.history.items =
        BoundedLog.within limits.history records.reverse := by
      simpa [records, Logbook.records] using mirrors.shown.history.items
    refine ⟨?_, ?_, ?_, shown⟩ <;> obtain ⟨logbook, same, -⟩ := mirrors <;> rw [same]
  case owned =>
    intro channel slot inside
    obtain ⟨number, queued⟩ := posted.owned channel slot inside
    obtain ⟨request, carried⟩ := posted.carried channel number slot queued
    exact ⟨number, request, fun other => ⟨fun also => posted.apart channel other number slot also
      queued, fun same => same ▸ queued⟩, carried⟩
  case apart =>
    intro number channel slot request other otherChannel otherSlot otherRequest sent other_sent same
    obtain ⟨place, record, own, found, id, numbered⟩ := sent.carried.recorded
    obtain ⟨other_place, other_record, other_own, other_found, other_id, -⟩ :=
      other_sent.carried.recorded
    obtain ⟨serial, serial_eq⟩ := exists_serial ids found numbered
    have same_place : place = other_place := by
      refine ledger.distinct.single place other_place serial ?_ ?_
      · rw [List.getElem?_map, found, ← serial_eq]
        rfl
      · rw [List.getElem?_map, other_found, ← serial_eq, id, same, ← other_id]
        rfl
    obtain rfl : number = other := by
      refine @Ledger.apart _ _ _ ledger number other place ?_ ?_
      · simp [own]
      · simp [other_own, same_place]
    exact ⟨rfl, posted.single number channel otherChannel slot otherSlot
      ((sent.owner number).mpr rfl) ((other_sent.owner number).mpr rfl)⟩
  case unduplicated =>
    intro call member id duplicate
    obtain ⟨number, found⟩ := List.mem_iff_getElem?.mp member
    have booked := ledger.booked found
    rw [duplicate] at booked
    generalize recordsBy number start actions = places, bulletinsBy number start actions = posts
      at booked
    cases booked with
    | returned _ place post record bulletin found posted method_eq title_eq fits => exact fits
  case unpatched =>
    intro action place inside changed
    exact (recorded_step ledger correlated action).owner_of_changed inside changed

end Client

end GatewayLink
