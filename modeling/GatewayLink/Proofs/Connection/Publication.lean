import GatewayLink.Proofs.Connection.Generation

/-!
# What a connection publishes

An operation publishes at most one snapshot, and no snapshot is ever taken back.  A session is shown
by a welcome and hidden again by whatever ends its generation.  A welcome is accepted for the
current generation in any status, also after the generation was lost; that is the one way in which
a connection that is not open comes to show a session.
-/

namespace GatewayLink

/-- Whether a snapshot shows a session. -/
def Snapshot.hasSession (snapshot : Snapshot) : Bool :=
  snapshot.version.isSome || snapshot.session.isSome

namespace Connection

/-- The snapshots that were published, latest first. -/
def published (connection : Connection) : List Snapshot :=
  connection.current :: connection.earlier

@[simp] theorem published_uninstall (connection : Connection) :
    connection.uninstall.published = connection.published := by
  obtain ⟨-, uninstalled⟩ | ⟨channel, -, uninstalled⟩ := connection.uninstall_cases <;>
    rw [uninstalled]
  rfl

@[simp] theorem published_publish (connection : Connection) (snapshot : Snapshot) :
    (connection.publish snapshot).published = snapshot :: connection.published := rfl

@[simp] theorem earlier_uninstall (connection : Connection) :
    connection.uninstall.earlier = connection.earlier := by
  obtain ⟨-, uninstalled⟩ | ⟨channel, -, uninstalled⟩ := connection.uninstall_cases <;>
    rw [uninstalled]
  rfl

end Connection

namespace ConnectionSession

open Connection

/-- The snapshot that a connection publishes on an operation. -/
def announced? (connection : Connection) : Operation → Option Snapshot
  | .dial url => some ⟨some url, .connecting, none, none, connection.generation + 1⟩
  | .establish generation =>
    if connection.stands generation then
      some { connection.current with status := .connected }
    else none
  | .welcome generation welcome =>
    if connection.stands generation then
      some { connection.current with
        version := some welcome.version, session := some welcome.session }
    else none
  | .lose generation =>
    if connection.stands generation then
      some { connection.current.withoutSession with status := .disconnected }
    else none
  | .supersede =>
    some { connection.current.withoutSession with
      status := .disconnected, generation := connection.generation + 1 }
  | _ => none

theorem published_applyAlive (session : ConnectionSession) (operation : Operation) :
    (session.applyAlive operation).2.connection.published =
      (announced? session.connection operation).toList ++ session.connection.published := by
  cases operation with
  | dial url =>
      simp [applyAlive, withConnection, announced?, Connection.dial, Connection.published,
        Connection.publish]
  | establish generation =>
      by_cases stands : session.connection.stands generation
      · simp [applyAlive, withConnection, announced?, Connection.establish, stands,
          Connection.published, Connection.publish]
      · simp [applyAlive, withConnection, announced?, Connection.establish, stands,
          Connection.published]
  | welcome generation welcome =>
      by_cases stands : session.connection.stands generation <;>
        simp [applyAlive, withConnection, announced?, Connection.welcome, stands]
  | lose generation =>
      by_cases stands : session.connection.stands generation <;>
        simp [applyAlive, withConnection, announced?, Connection.lose, stands]
  | supersede =>
      simp [applyAlive, withConnection, announced?, Connection.supersede, Connection.published,
        Connection.publish]
  | send text =>
      simp only [applyAlive, withConnection, announced?, Connection.send]
      split
      · rfl
      · split <;> rfl
  | hangUp channel =>
      simp only [applyAlive, withConnection, announced?, Connection.hangUp]
      split <;> rfl
  | receive channel =>
      simp only [applyAlive, withConnection, announced?, Connection.receive]
      split
      · split <;> rfl
      · rfl
  | drop =>
      simp [applyAlive, drop, announced?, Connection.unassign, Connection.published]
  | _ => rfl

/-- A connection that was dropped publishes nothing. -/
theorem published_apply_of_dropped {session : ConnectionSession} (dropped : session.isAlive = false)
    (operation : Operation) :
    (session.apply operation).2.connection.published = session.connection.published := by
  have silent (seen : announced? session.connection operation = none) :
      (session.applyAlive operation).2.connection.published = session.connection.published := by
    simp [published_applyAlive, seen]
  unfold apply
  simp only [dropped]
  cases operation with
  | hangUp channel => exact silent rfl
  | receive channel => exact silent rfl
  | _ => rfl

theorem published_apply {session : ConnectionSession} (alive : session.isAlive = true)
    (operation : Operation) :
    (session.apply operation).2.connection.published =
      (announced? session.connection operation).toList ++ session.connection.published := by
  simp only [apply, alive, if_true]
  exact published_applyAlive session operation

theorem mem_published_apply {session : ConnectionSession} {snapshot : Snapshot}
    (member : snapshot ∈ session.connection.published) (operation : Operation) :
    snapshot ∈ (session.apply operation).2.connection.published := by
  cases alive : session.isAlive with
  | false => simpa [published_apply_of_dropped alive] using member
  | true => simp [published_apply alive, member]

@[simp] theorem run_nil (session : ConnectionSession) : session.run [] = session := rfl

@[simp] theorem run_cons (session : ConnectionSession) (operation : Operation)
    (rest : List Operation) :
    session.run (operation :: rest) = (session.apply operation).2.run rest := rfl

theorem run_append (session : ConnectionSession) (first second : List Operation) :
    session.run (first ++ second) = (session.run first).run second :=
  List.foldl_append ..

theorem mem_published_run {session : ConnectionSession} {snapshot : Snapshot}
    (member : snapshot ∈ session.connection.published) (operations : List Operation) :
    snapshot ∈ (session.run operations).connection.published := by
  induction operations generalizing session with
  | nil => exact member
  | cons operation rest induction => exact induction (mem_published_apply member operation)

/-! ## Sessions of connections that are not open -/

/-- Every published snapshot that shows a session is one of an open connection. -/
def Orderly (connection : Connection) : Prop :=
  ∀ snapshot ∈ connection.published,
    snapshot.hasSession = true → snapshot.status = .connected

theorem orderly_new : Orderly new.connection := by
  intro snapshot member
  have initial : snapshot = .initial := List.mem_singleton.mp member
  subst initial
  simp [Snapshot.hasSession, Snapshot.initial]

/-- Of all operations only a welcome can break the order, and it does so just if the connection is
not open. -/
theorem orderly_announced_iff (connection : Connection) (operation : Operation) :
    (∀ snapshot ∈ announced? connection operation,
        snapshot.hasSession = true → snapshot.status = .connected) ↔
      ∀ generation welcome, operation = .welcome generation welcome →
        connection.stands generation = true → connection.current.status = .connected := by
  cases operation with
  | welcome generation welcome =>
      by_cases stands : connection.stands generation
      · simp [announced?, stands, Snapshot.hasSession]
      · simp [announced?, stands]
  | establish generation =>
      by_cases stands : connection.stands generation <;> simp [announced?, stands]
  | lose generation =>
      by_cases stands : connection.stands generation <;>
        simp [announced?, stands, Snapshot.hasSession, Snapshot.withoutSession]
  | _ => simp [announced?, Snapshot.hasSession, Snapshot.withoutSession]

theorem orderly_apply_iff {session : ConnectionSession} (orderly : Orderly session.connection)
    (operation : Operation) :
    Orderly (session.apply operation).2.connection ↔
      ∀ generation welcome, operation = .welcome generation welcome →
        session.isAlive = true → session.connection.stands generation = true →
        session.connection.current.status = .connected := by
  cases alive : session.isAlive with
  | false =>
      simp only [Orderly, published_apply_of_dropped alive]
      exact ⟨fun _ _ _ _ dead => absurd dead (by decide), fun _ => orderly⟩
  | true =>
      have announced := orderly_announced_iff session.connection operation
      simp only [Orderly, published_apply alive, List.mem_append, Option.mem_toList]
      constructor
      · intro after generation welcome same _
        exact announced.mp (fun snapshot member => after snapshot (.inl member)) generation welcome
          same
      · rintro accepted snapshot (member | member)
        · exact announced.mpr (fun generation welcome same => accepted generation welcome same trivial)
            snapshot member
        · exact orderly snapshot member

/-- The order holds after a run just if every welcome that was accepted found the connection open. -/
theorem orderly_run_iff {session : ConnectionSession} (orderly : Orderly session.connection)
    (operations : List Operation) :
    Orderly (session.run operations).connection ↔
      ∀ before generation welcome after,
        operations = before ++ .welcome generation welcome :: after →
        (session.run before).isAlive = true →
        (session.run before).connection.stands generation = true →
        (session.run before).connection.current.status = .connected := by
  induction operations generalizing session with
  | nil => simpa using orderly
  | cons operation rest induction =>
      constructor
      · intro later before generation welcome after split
        -- A snapshot that breaks the order is never taken back.
        have next : Orderly (session.apply operation).2.connection := fun snapshot member =>
          later snapshot (mem_published_run member rest)
        cases before with
        | nil =>
            obtain ⟨rfl, rfl⟩ := List.cons.inj split
            exact (orderly_apply_iff orderly _).mp next generation welcome rfl
        | cons first before =>
            obtain ⟨rfl, rest_eq⟩ := List.cons.inj split
            exact (induction next).mp later before generation welcome after rest_eq
      · intro accepted
        have next : Orderly (session.apply operation).2.connection := by
          refine (orderly_apply_iff orderly operation).mpr fun generation welcome same => ?_
          subst same
          exact accepted [] generation welcome rest rfl
        refine (induction next).mpr fun before generation welcome after rest_eq => ?_
        exact accepted (operation :: before) generation welcome after (by rw [rest_eq]; rfl)

/-- A session that is welcomed after its generation was lost is shown all the same. -/
theorem current_welcome_lose {connection : Connection} {generation : Nat}
    (stands : connection.stands generation = true) (welcome : Welcome) :
    ((connection.lose generation).2.welcome generation welcome).2.current =
      { connection.current with
        status := .disconnected
        version := some welcome.version
        session := some welcome.session } := by
  have still : (connection.lose generation).2.stands generation = true := by
    simpa [Connection.stands] using stands
  rw [Connection.welcome, if_pos still]
  simp [Connection.lose, stands, Snapshot.withoutSession]

/-- All snapshots with a session are of an open connection just if each welcome that was accepted
found it open. -/
theorem session_only_connected_iff (operations : List Operation) :
    ((∀ snapshot ∈ (new.run operations).connection.published,
        snapshot.hasSession = true → snapshot.status = .connected) ↔
      ∀ before generation welcome after,
        operations = before ++ .welcome generation welcome :: after →
        (new.run before).isAlive = true →
        (new.run before).connection.stands generation = true →
        (new.run before).connection.current.status = .connected) ∧
      ∀ generation welcome, (new.run operations).connection.stands generation = true →
        (((new.run operations).connection.lose generation).2.welcome generation welcome).2.current =
          { (new.run operations).connection.current with
            status := .disconnected
            version := some welcome.version
            session := some welcome.session } :=
  ⟨orderly_run_iff orderly_new operations,
    fun _ welcome stands => current_welcome_lose stands welcome⟩

/-- The gateway's answer to a handshake is taken in after the loss of its connection. -/
theorem session_shown_after_loss :
    let session := new.run
      [.dial "ws://gateway", .establish 1, .lose 1, .welcome 1 ⟨1, "s1"⟩]
    session.connection.current =
      ⟨some "ws://gateway", .disconnected, some 1, some "s1", 1⟩ := by
  decide

end ConnectionSession

end GatewayLink
