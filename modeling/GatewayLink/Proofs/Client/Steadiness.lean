import GatewayLink.Proofs.Client.Opening
import GatewayLink.Proofs.Client.Showing
import GatewayLink.Proofs.Client.Staying

/-!
# What interleaved calls leave alone

A step of a call queues a text at most, and to drop a call is nothing to the connection.  So however
calls are interleaved the connection agrees with its links and its handshakes.
-/

namespace GatewayLink

namespace Client

/-- Only calls, requests, records and what is queued in channels change. -/
structure Steady (before after : Client) : Prop where
  links : after.links = before.links
  teardowns : after.teardowns = before.teardowns
  ticker : after.ticker = before.ticker
  roster : after.roster = before.roster
  current : after.connection.current = before.connection.current
  aim : after.connection.aim = before.connection.aim
  outbound : after.connection.outbound = before.connection.outbound

namespace Steady

variable {before after : Client}

theorem refl (client : Client) : Steady client client := ⟨rfl, rfl, rfl, rfl, rfl, rfl, rfl⟩

theorem generation (steady : Steady before after) :
    after.connection.generation = before.connection.generation :=
  congrArg (fun aim => aim.2.1) steady.aim

theorem stays (steady : Steady before after) : Stays before after :=
  .of_aim steady.teardowns steady.ticker steady.aim (steady.links ▸ .refl _)

theorem chained (steady : Steady before after) (chained : before.Chained) : after.Chained :=
  chained.of_kept steady.generation (congrArg Snapshot.status steady.current)
    (by rw [steady.outbound]; exact id) (steady.links ▸ .refl _)

theorem introduced (steady : Steady before after) (introduced : before.Introduced) :
    after.Introduced where
  reached := by
    rw [steady.roster, steady.generation]
    exact introduced.reached
  single := by
    rw [steady.roster]
    exact introduced.single
  waiting := by
    rw [steady.roster, steady.links]
    exact introduced.waiting

end Steady

section Move

variable {client : Client} {number : Nat}

theorem steady_advanced {call : Call} {after : Client}
    (advanced : Advanced client number call after) : Steady client after := by
  cases advanced with
  | sent id handle since stage connection sends =>
      obtain ⟨-, current, -, outbound⟩ := Connection.send_ok sends
      exact ⟨rfl, rfl, rfl, roster_setStage .., current, client.connection.aim_send sends, outbound⟩
  | _ => exact ⟨rfl, rfl, rfl, roster_setStage .., rfl, rfl, rfl⟩

/-- A move is a step of a call or drops one, which leaves the connection alone, or else it is a
whole step of the client. -/
theorem steady_or_step (client : Client) (move : Move) :
    (∃ after, client.move move = after.dissolve ∧ Steady client after) ∨
      ∃ action, move = .act action ∧ client.move move = client.step action := by
  cases move with
  | giveUp number =>
      refine .inl ⟨client.giveUp number, rfl, ?_⟩
      obtain ⟨call, -, -, -, dropped⟩ | ⟨-, unchanged⟩ := client.giveUp_cases number
      · rw [dropped]
        exact ⟨rfl, rfl, rfl, roster_setStage .., rfl, rfl, rfl⟩
      · rw [unchanged]
        exact .refl client
  | act action =>
      cases action with
      | start number =>
          refine .inl ⟨client.advance number, rfl, ?_⟩
          obtain ⟨call, -, -, advanced⟩ | ⟨-, unchanged⟩ := client.advance_cases number
          · exact steady_advanced advanced
          · rw [unchanged]
            exact .refl client
      | _ => exact .inr ⟨_, rfl, rfl⟩

theorem roster_dissolve (client : Client) : client.dissolve.roster = client.roster := by
  simp [roster]

theorem Introduced.dissolve (introduced : client.Introduced) : client.dissolve.Introduced := by
  have generation : client.dissolve.connection.generation = client.connection.generation := by
    obtain same | ⟨links, -, same⟩ := client.dissolve_cases <;> rw [same]
    simp
  refine ⟨?_, ?_, fun link member connects => ?_⟩
  · rw [roster_dissolve, generation]
    exact introduced.reached
  · rw [roster_dissolve]
    exact introduced.single
  · rw [roster_dissolve]
    refine introduced.waiting link ?_ connects
    obtain same | ⟨links, kept, same⟩ := client.dissolve_cases
    · rwa [same] at member
    · rw [same] at member
      obtain rfl | ⟨number, rfl⟩ := kept
      · exact member
      · exact (Settled.modify client.links number .ended (by simp)).connecting link member connects

theorem chained_move (chained : client.Chained) (move : Move) : (client.move move).Chained := by
  obtain ⟨after, moved, steady⟩ | ⟨action, -, moved⟩ := client.steady_or_step move
  · rw [moved]
    exact (advance_dissolve after).chained (steady.chained chained)
  · rw [moved]
    exact (client.advance_step action).chained chained

theorem introduced_move (introduced : client.Introduced) (chained : client.Chained) (move : Move) :
    (client.move move).Introduced := by
  obtain ⟨after, moved, steady⟩ | ⟨action, -, moved⟩ := client.steady_or_step move
  · rw [moved]
    exact (steady.introduced introduced).dissolve
  · rw [moved]
    exact introduced_step introduced chained action

/-- The calls of a client agree with its requests and its history, and its connection with its links
and its handshakes. -/
structure IsSound (client : Client) : Prop where
  attributed : client.IsAttributed
  listed : client.IsListed
  chained : client.Chained
  introduced : client.Introduced

theorem isSound_move (sound : client.IsSound) (move : Move) : (client.move move).IsSound where
  attributed := isAttributed_move sound.attributed move
  listed := isListed_move sound.listed sound.attributed move
  chained := chained_move sound.chained move
  introduced := introduced_move sound.introduced sound.chained move

theorem IsSound.weave (sound : client.IsSound) (moves : List Move) :
    (client.weave moves).IsSound := by
  induction moves generalizing client with
  | nil => exact sound
  | cons move rest induction => exact induction (isSound_move sound move)

end Move

end Client

end GatewayLink
