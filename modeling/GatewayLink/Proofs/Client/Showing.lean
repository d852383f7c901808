import GatewayLink.Proofs.Activity.Growth
import GatewayLink.Proofs.Activity.Telling
import GatewayLink.Proofs.Client.Expiring

/-!
# What the history shows of interleaved calls

As long as a call is under way and has entered its record, the history shows the record as sent, as
far as it reaches back.  A call that returns without an answer has its record shown as failed, and
since nobody else holds its id the record stays so.
-/

namespace GatewayLink

/-- What records show of the request of a call that has come to a stage. -/
def ShowsStage (records : List CallRecord) (method id : String) : CallStage → Prop
  | .underway (.numbered _) | .underway (.registered ..) => ∀ record ∈ records, record.id ≠ id
  | .underway (.recorded ..) | .underway (.unsent ..) | .underway (.withdrawn ..) | .waiting .. =>
    Tells records id method .sent
  | _ => True

theorem ShowsStage.of_spares {before after : List CallRecord} {method id : String}
    {stage : CallStage} (shows : ShowsStage before method id stage)
    (spares : Spares id before after) : ShowsStage after method id stage := by
  have absent (none_before : ∀ record ∈ before, record.id ≠ id) :
      ∀ record ∈ after, record.id ≠ id :=
    fun record member same => none_before record (spares.known record member same) same
  cases stage with
  | underway progress =>
      cases progress with
      | numbered | registered => exact absent shows
      | recorded | unsent | withdrawn => exact Tells.of_spares shows spares
      | _ => trivial
  | waiting => exact Tells.of_spares shows spares
  | _ => trivial

/-- Calls, the ids that were issued and the records of a history agree. -/
structure Listed (calls : List Call) (issued : Nat) (records : List CallRecord) : Prop where
  fresh : ∀ record ∈ records, ∀ serial, issued ≤ serial → record.id ≠ (serial + 1).repr
  shown : ∀ {number call ticket}, Holds calls number call ticket →
    ShowsStage records call.method ticket.id call.stage

namespace Listed

variable {calls : List Call} {inFlight : InFlight} {issued number : Nat} {call : Call}
  {records : List CallRecord}

/-- A call moves on and enters what it has to; the records of other requests stay. -/
theorem change (listed : Listed calls issued records)
    (attributed : Attributed calls inFlight issued) (found : calls[number]? = some call)
    {stage : CallStage} {later : Nat} (ahead : issued ≤ later)
    {after : List CallRecord}
    (others : ∀ serial, (∀ ticket, call.stage.ticket? = some ticket →
      ticket.id ≠ (serial + 1).repr) → Spares (serial + 1).repr records after)
    (own : ∀ ticket, stage.ticket? = some ticket → ShowsStage after call.method ticket.id stage) :
    Listed (calls.modify number ({ · with stage })) later after where
  fresh := by
    intro record member serial beyond same
    refine listed.fresh record ?_ serial (Nat.le_trans ahead beyond) same
    refine (others serial fun ticket held => ?_).known record member same
    obtain ⟨earlier, less, id_eq⟩ := attributed.numbered ⟨found, held⟩
    rw [id_eq]
    exact repr_ne_next (by omega)
  shown := by
    intro other otherCall ticket holds
    rcases holds.of_modify with ⟨rfl, held, before, before_found, rfl⟩ | ⟨apart, holds⟩
    · obtain rfl : before = call := Option.some.inj (before_found.symm.trans found)
      exact own ticket held
    · obtain ⟨serial, -, id_eq⟩ := attributed.numbered holds
      refine (listed.shown holds).of_spares ?_
      rw [id_eq]
      refine others serial fun own_ticket held same => ?_
      exact apart (attributed.apart holds ⟨found, held⟩ (.inl (id_eq.trans same.symm)))

theorem append (listed : Listed calls issued records) {fresh : List Call}
    (ready : ∀ call ∈ fresh, call.stage = .ready) : Listed (calls ++ fresh) issued records where
  fresh := listed.fresh
  shown := fun holds => listed.shown (holds.of_append ready)

end Listed

namespace Client

/-- The calls of a client agree with its history. -/
def IsListed (client : Client) : Prop :=
  Listed client.calls client.issued client.logbook.history.items

section Step

variable {client after : Client} {number : Nat} {call : Call}

/-- A step of a call spares the ids of other requests. -/
theorem spares_advanced (advanced : Advanced client number call after) (serial : Nat)
    (apart : ∀ ticket, call.stage.ticket? = some ticket → ticket.id ≠ (serial + 1).repr) :
    Spares (serial + 1).repr client.logbook.history.items after.logbook.history.items := by
  cases advanced with
  | refused bare cause status duration text severity own =>
      exact Logbook.spares_push client.logbook.history
        ⟨generatedId client.logbook.generated, call.method, status, duration, client.clock.wall⟩
        (generatedId_ne_repr _ _)
  | recorded id handle stage =>
      exact Logbook.spares_push client.logbook.history
        ⟨id, call.method, .sent, none, client.clock.wall⟩ (apart _ (by rw [stage]; rfl))
  | failed id since cause stage =>
      have spared : Spares (serial + 1).repr client.logbook.history.items
          (client.logbook.settle id .error (client.elapsedSince since)).2.history.items :=
        Logbook.spares_settle (apart ⟨id, none⟩ (by rw [stage]; rfl)) _
      exact spared
  | _ => exact .refl ..

theorem isListed_advanced (listed : client.IsListed) (attributed : client.IsAttributed)
    (found : client.calls[number]? = some call) (advanced : Advanced client number call after) :
    after.IsListed := by
  have shown {ticket : Ticket} (held : call.stage.ticket? = some ticket) :
      ShowsStage client.logbook.history.items call.method ticket.id call.stage :=
    listed.shown ⟨found, held⟩
  have others := spares_advanced advanced
  cases advanced with
  | lapsed | overflowed | heldBack | duplicate | refused | failed =>
      exact listed.change attributed found (Nat.le_refl _) others
        (by simp [CallStage.ticket?, Progress.ticket?])
  | began ready =>
      exact listed.change attributed found (Nat.le_refl _) others (by simp [CallStage.ticket?])
  | numbered bare early pacing =>
      refine listed.change attributed found (Nat.le_succ _) others fun ticket held => ?_
      obtain rfl := Option.some.inj held
      exact fun record member => listed.fresh record member client.issued (Nat.le_refl _)
  | registered id stage free =>
      have absent := shown (by rw [stage]; rfl)
      rw [stage] at absent
      refine listed.change attributed found (Nat.le_refl _) others fun ticket own => ?_
      obtain rfl := Option.some.inj own
      exact absent
  | recorded id handle stage =>
      have absent := shown (by rw [stage]; rfl)
      rw [stage] at absent
      refine listed.change attributed found (Nat.le_refl _) others fun ticket own => ?_
      obtain rfl := Option.some.inj own
      exact Logbook.tells_push absent
  | sent id handle since stage | unsent id handle since stage
  | withdrawn id handle since cause stage =>
      have tells := shown (by rw [stage]; rfl)
      rw [stage] at tells
      refine listed.change attributed found (Nat.le_refl _) others fun ticket own => ?_
      obtain rfl := Option.some.inj own
      exact tells

/-- What becomes of the history when a call is woken: its own record is settled at most. -/
theorem history_woke {id : String} {handle : Handle} {since : Nat}
    (woke : Woke client number call id handle since after) :
    (after.calls = client.calls ∧ after.logbook.history = client.logbook.history) ∨
      ∃ result status duration,
        after.calls = client.calls.modify number ({ · with stage := .returned result }) ∧
        after.logbook.history = (client.logbook.settle id status duration).2.history ∧
        (isAnswer result = false → status = .error) := by
  cases woke with
  | unchanged => exact .inl ⟨rfl, rfl⟩
  | abandoned seen => exact .inr ⟨_, .error, _, rfl, rfl, fun _ => rfl⟩
  | concluded response seen connection welcomed =>
      cases ok : response.ok with
      | true =>
          refine .inr ⟨_, .ok, client.elapsedSince since, rfl, ?_, fun failed => ?_⟩
          · rw [logbook_setStage, concluded, if_pos ok]
            rfl
          · simp [verdict, ok, isAnswer] at failed
      | false =>
          refine .inr ⟨_, .error, client.elapsedSince since, rfl, ?_, fun _ => rfl⟩
          rw [logbook_setStage, concluded, if_neg (by simp [ok])]
          exact Logbook.history_settle_noteFailure ..

theorem isListed_woke (listed : client.IsListed) (attributed : client.IsAttributed)
    (found : client.calls[number]? = some call) {id : String} {handle : Handle} {since : Nat}
    (waiting : call.stage = .waiting id handle since) (issued : after.issued = client.issued)
    (woke : Woke client number call id handle since after) : after.IsListed := by
  have held : call.stage.ticket? = some ⟨id, some handle⟩ := by rw [waiting]; rfl
  unfold IsListed
  obtain ⟨calls, history⟩ | ⟨result, status, duration, calls, history, -⟩ := history_woke woke
  · rw [calls, history, issued]
    exact listed
  · rw [calls, history, issued]
    exact listed.change attributed found (Nat.le_refl _)
      (fun serial apart => Logbook.spares_settle (apart _ held) duration)
      (by simp [CallStage.ticket?])

theorem isListed_move (listed : client.IsListed) (attributed : client.IsAttributed) (move : Move) :
    (client.move move).IsListed := by
  have dissolved {other : Client} (listed : other.IsListed) : other.dissolve.IsListed := by
    simpa [IsListed] using listed
  have moved := client.move_cases move
  generalize client.move move = after at moved
  cases moved with
  | advanced number call found ahead after advanced =>
      exact dissolved (isListed_advanced listed attributed found advanced)
  | woke number call id handle since found waiting after woke =>
      have issued : after.issued = client.issued := by cases woke <;> rfl
      exact dissolved (isListed_woke listed attributed found waiting issued woke)
  | dropped number call found holder active =>
      exact dissolved (listed.change attributed found (Nat.le_refl _) (fun _ _ => .refl ..)
        fun _ _ => trivial)
  | aside action others =>
      have aside := client.aside_step action others
      obtain ⟨fresh, ready, calls⟩ := aside.calls
      unfold IsListed
      rw [calls, aside.issued, aside.logbook.history]
      exact Listed.append listed ready
  | still _ silent => exact dissolved listed

end Step

/-! ## Calls that have returned -/

/-- A request that nobody holds any more, as the history tells of it. -/
structure IsTold (client : Client) (id method : String) (status : CallStatus) : Prop where
  issued : ∃ serial < client.issued, id = (serial + 1).repr
  left : ∀ number call ticket, Holds client.calls number call ticket → ticket.id ≠ id
  tells : Tells client.logbook.history.items id method status

section Told

variable {client after : Client} {number : Nat} {call : Call} {id method : String}
  {status : CallStatus}

theorem IsTold.change (told : client.IsTold id method status)
    (found : client.calls[number]? = some call) {stage : CallStage}
    (calls : after.calls = client.calls.modify number ({ · with stage }))
    (ahead : client.issued ≤ after.issued)
    (own : ∀ ticket, stage.ticket? = some ticket →
      (∃ earlier, call.stage.ticket? = some earlier ∧ earlier.id = ticket.id) ∨
        ticket.id = (client.issued + 1).repr)
    (spares : Spares id client.logbook.history.items after.logbook.history.items) :
    after.IsTold id method status where
  issued := told.issued.imp fun _ ⟨earlier, same⟩ => ⟨Nat.lt_of_lt_of_le earlier ahead, same⟩
  left := by
    intro other otherCall ticket holds same
    rw [calls] at holds
    rcases holds.of_modify with ⟨rfl, held, -⟩ | ⟨-, holds⟩
    · obtain ⟨serial, less, id_eq⟩ := told.issued
      rcases own ticket held with ⟨earlier, earlier_held, earlier_id⟩ | next
      · exact told.left other call earlier ⟨found, earlier_held⟩ (earlier_id.trans same)
      · exact repr_ne_next less (id_eq.symm.trans (same.symm.trans next))
    · exact told.left other otherCall ticket holds same
  tells := told.tells.of_spares spares

end Told

/-- A call is under way with a request, or it has returned; if it has returned no answer, the
history tells that it failed. -/
inductive IsFollowed (client : Client) (number : Nat) (call : Call) (id : String) : Prop where
  | underway (stage : CallStage) (ticket : Ticket)
      (holds : Holds client.calls number { call with stage } ticket) (same : ticket.id = id)
      (active : ({ call with stage } : Call).isActive = true)
  | returned (result : Except ClientError Json)
      (found : client.calls[number]? = some { call with stage := .returned result })
      (told : isAnswer result = false → client.IsTold id call.method .error)

section IsFollowed

variable {client after : Client} {number : Nat} {call : Call}

theorem IsFollowed.dissolve {id : String} (followed : client.IsFollowed number call id) :
    client.dissolve.IsFollowed number call id := by
  cases followed with
  | underway stage ticket holds same active =>
      exact .underway stage ticket (by simpa using holds) same active
  | returned result found told =>
      refine .returned result (by simpa using found) fun failed => ?_
      exact ⟨by simpa using (told failed).issued, by simpa using (told failed).left,
        by simpa using (told failed).tells⟩

end IsFollowed

end Client

end GatewayLink
