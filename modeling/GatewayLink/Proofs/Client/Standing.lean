import GatewayLink.Proofs.Client.Ledger

/-!
# The standing of methods

What is known of a method changes when the gateway answers a call of the method, and at no other
time.  So its last error is the text of the latest rejection.
-/

namespace GatewayLink

namespace Client

/-- What a step lets a call return, with the method of the call. -/
def outcome? (client : Client) (action : Action) :
    Option (String × Except ClientError Json) :=
  match action.mover? with
  | some number =>
    match client.calls[number]?, (client.step action).calls[number]? with
    | some before, some after =>
      if before.isActive then after.result?.map ((before.method, ·)) else none
    | _, _ => none
  | none => none

/-- What the calls return along a run. -/
def outcomes (client : Client) : List Action → List (String × Except ClientError Json)
  | [] => []
  | action :: rest => (client.outcome? action).toList ++ (client.step action).outcomes rest

/-- The text of a rejection of a method. -/
def rejection? (method : String) : String × Except ClientError Json → Option String
  | (called, .error (.rejected _ _ text)) => if called = method then some text else none
  | _ => none

/-- The standing of a method after an answer of the gateway. -/
def standingAfter (now : Timestamp) (standing : Option MethodStanding) :
    Except ClientError Json → Option MethodStanding
  | .ok _ => some { standing.getD .unknown with lastOk := some now }
  | .error (.rejected _ _ text) =>
    some { standing.getD .unknown with lastError := some now, lastErrorText := some text }
  | .error _ => standing

theorem standing?_concluded (client : Client) (id method other : String) (since : Nat)
    (response : Response) :
    (client.concluded id method since response).standing? other =
      if other = method then
        standingAfter client.clock.wall (client.logbook.standing? other) (verdict method response)
      else client.logbook.standing? other := by
  by_cases same : other = method
  · subst same
    cases ok : response.ok <;>
      simp [concluded, verdict, ok, Logbook.standing?, Logbook.noteSuccess, Logbook.noteFailure,
        Logbook.updateStanding, standingAfter]
  · cases ok : response.ok <;>
      simp [concluded, ok, same, Logbook.standing?, Logbook.noteSuccess, Logbook.noteFailure,
        Logbook.updateStanding]

section Outcome

variable {client : Client} {action : Action} {number : Nat} {call : Call}

theorem outcome?_eq (mover : action.mover? = some number)
    (found : client.calls[number]? = some call) (active : call.isActive = true) {stage : CallStage}
    (moved : (client.step action).calls = client.calls.modify number ({ · with stage })) :
    client.outcome? action = ({ call with stage } : Call).result?.map ((call.method, ·)) := by
  have after : (client.step action).calls[number]? = some { call with stage } := by
    simp [moved, found]
  simp [outcome?, mover, found, after, active]

/-- Nothing is returned where no call moves. -/
theorem outcome?_of_unmoved (still : (client.step action).calls = client.calls) :
    client.outcome? action = none := by
  unfold outcome?
  rw [still]
  split
  · split
    · rename_i before after found_before found_after
      rw [found_before, Option.some.injEq] at found_after
      subst found_after
      cases stage : before.stage <;> simp [Call.isActive, Call.result?, stage]
    · rfl
  · rfl

theorem outcome?_of_not_movesCall (others : action.movesCall = false) :
    client.outcome? action = none := by
  have still : action.mover? = none := by
    cases action <;> first | rfl | cases others
  simp [outcome?, still]

/-- A call that begins returns no answer of the gateway.  It comes to nothing only where it is the
handshake of a generation that is over, or where the time that is left does not fit a word. -/
theorem stage_of_began {after : Client} (began : Began client number call after) :
    after.logbook.standing = client.logbook.standing ∧
      ∃ stage, after.calls = client.calls.modify number ({ · with stage }) ∧
        (∀ result, stage = .returned result → isAnswer result = false) ∧
        (stage = .lapsed → ∃ generation, call.caller = .handshake generation ∧
          client.connection.stands generation = false) ∧
        (stage = .overflowed →
          client.pacing.timeLeft? call.method client.now client.minGap = none) := by
  cases began with
  | lapsed generation caller late =>
      exact ⟨rfl, _, rfl, by simp, fun _ => ⟨generation, caller, late⟩, by simp⟩
  | overflowed overflow => exact ⟨rfl, _, rfl, by simp, by simp, fun _ => overflow⟩
  | refused cause status duration text severity refusal =>
      refine ⟨rfl, .returned (.error cause), rfl, ?_, by simp, by simp⟩
      rintro _ ⟨⟩
      cases refusal <;> rfl
  | issued pacing after issued =>
      cases issued with
      | duplicate => exact ⟨rfl, _, rfl, by rintro _ ⟨⟩; rfl, by simp, by simp⟩
      | sent => exact ⟨rfl, _, rfl, by simp, by simp, by simp⟩
      | unsent free cause fails =>
          exact ⟨by simp [fail], .returned (.error (.transport cause)), rfl,
            by rintro _ ⟨⟩; rfl, by simp, by simp⟩

/-- The standing of a method changes by the answers of the gateway to its calls and by nothing
else. -/
theorem standing?_step (client : Client) (action : Action) (method : String) :
    (∃ response, client.outcome? action = some (method, verdict method response) ∧
        (client.step action).logbook.standing? method =
          standingAfter client.clock.wall (client.logbook.standing? method)
            (verdict method response)) ∨
      ((client.step action).logbook.standing? method = client.logbook.standing? method ∧
        ∀ result, client.outcome? action = some (method, result) → isAnswer result = false) := by
  cases others : action.movesCall with
  | false =>
      have standing := (client.aside_step action others).logbook.standing
      exact .inr ⟨by simp [Logbook.standing?, standing],
        by simp [outcome?_of_not_movesCall others]⟩
  | true =>
      cases action with
      | start number =>
          refine .inr ?_
          obtain ⟨call, found, ready, began⟩ | ⟨-, unchanged⟩ := client.start_cases number
          · obtain ⟨standing, stage, moved, refused, -⟩ := stage_of_began began
            have stepped : (client.step (.start number)).calls =
                client.calls.modify number ({ · with stage }) := by
              simp [moved]
            refine ⟨by simp [Logbook.standing?, standing], fun result returned => ?_⟩
            rw [outcome?_eq rfl found (by simp [Call.isActive, ready]) stepped] at returned
            cases stage with
            | returned own =>
                obtain ⟨-, rfl⟩ := Prod.mk.inj (Option.some.inj returned)
                exact refused own rfl
            | _ => cases returned
          · have still : (client.step (.start number)).calls = client.calls := by simp [unchanged]
            exact ⟨by simp [unchanged], by simp [outcome?_of_unmoved still]⟩
      | wake number =>
          obtain ⟨call, id, handle, since, found, waiting, woke⟩ | ⟨-, unchanged⟩ :=
            client.wake_cases number
          · have active : call.isActive = true := by simp [Call.isActive, waiting]
            have outcome (stage : CallStage)
                (moved : (client.wake number).calls = client.calls.modify number ({ · with stage })) :
                client.outcome? (.wake number) =
                  ({ call with stage } : Call).result?.map ((call.method, ·)) :=
              outcome?_eq rfl found active (by simp [moved])
            have quiet (still : (client.wake number).calls = client.calls) :
                client.outcome? (.wake number) = none :=
              outcome?_of_unmoved (by simp [still])
            simp only [step_wake, logbook_dissolve]
            generalize client.wake number = after at woke outcome quiet ⊢
            cases woke with
            | concluded response seen connection welcomed =>
                have returned := outcome (.returned (verdict call.method response)) rfl
                have standing :=
                  client.standing?_concluded id call.method method since response
                by_cases same : method = call.method
                · subst same
                  rw [if_pos rfl] at standing
                  exact .inl ⟨response, returned, standing⟩
                · rw [if_neg same] at standing
                  refine .inr ⟨standing, fun result own => ?_⟩
                  rw [returned] at own
                  exact absurd (Prod.mk.inj (Option.some.inj own)).1.symm same
            | abandoned seen =>
                have returned := outcome (.returned (.error (.abandoned id call.method))) rfl
                refine .inr ⟨by simp [fail, Logbook.standing?], fun result own => ?_⟩
                rw [returned] at own
                rw [← (Prod.mk.inj (Option.some.inj own)).2]
                rfl
            | unchanged seen => exact .inr ⟨rfl, by simp [quiet rfl]⟩
          · have still : (client.step (.wake number)).calls = client.calls := by simp [unchanged]
            exact .inr ⟨by simp [unchanged], by simp [outcome?_of_unmoved still]⟩
      | _ => cases others

/-- The last error of a method is the text of its latest rejection. -/
theorem lastErrorText_run (client : Client) (actions : List Action) (method : String) :
    ((client.run actions).logbook.standing? method).bind MethodStanding.lastErrorText =
      (((client.outcomes actions).filterMap (rejection? method)).getLast?).or
        ((client.logbook.standing? method).bind MethodStanding.lastErrorText) := by
  induction actions generalizing client with
  | nil => simp [outcomes]
  | cons action rest induction =>
      have stepped : ((client.step action).logbook.standing? method).bind
            MethodStanding.lastErrorText =
          (((client.outcome? action).toList.filterMap (rejection? method)).getLast?).or
            ((client.logbook.standing? method).bind MethodStanding.lastErrorText) := by
        rcases client.standing?_step action method with ⟨response, returned, standing⟩ | ⟨same, mute⟩
        · rw [returned, standing]
          cases ok : response.ok with
          | true =>
              cases before : client.logbook.standing? method <;>
                simp [verdict, ok, standingAfter, rejection?, MethodStanding.unknown]
          | false => simp [verdict, ok, standingAfter, rejection?]
        · rw [same]
          have none_rejected :
              (client.outcome? action).toList.filterMap (rejection? method) = [] := by
            refine List.filterMap_eq_nil_iff.mpr ?_
            rintro ⟨own, result⟩ member
            have returned := Option.mem_toList.mp member
            cases result with
            | ok payload => rfl
            | error cause =>
                cases cause with
                | rejected refused code text =>
                    refine if_neg fun own_method => ?_
                    exact absurd (mute _ (own_method ▸ returned)) (by simp [isAnswer])
                | _ => rfl
          simp [none_rejected]
      rw [run_cons, induction, stepped, outcomes, List.filterMap_append, List.getLast?_append,
        Option.or_assoc]

end Outcome

end Client

end GatewayLink
