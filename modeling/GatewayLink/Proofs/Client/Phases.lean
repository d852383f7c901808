import Mathlib.Data.List.Chain
import GatewayLink.Proofs.Client.Publishing
import GatewayLink.Proofs.Client.Staying

/-!
# The phases of a connection

Each generation of a connection is connecting, then connected and then disconnected, and it may skip
a phase but not go back.  A connection that is established was shown to connect just before, because
a link connects only as long as the client has not turned to another generation.
-/

namespace GatewayLink

/-- The place of a status in the order in which a generation takes them on. -/
def LinkStatus.rank : LinkStatus → Nat
  | .connecting => 0
  | .connected => 1
  | .disconnected => 2

theorem LinkStatus.rank_lt (status : LinkStatus) : status.rank < 3 := by
  cases status <;> decide

namespace Snapshot

/-- How far a connection has come: by its generation first, and by its status within a
generation. -/
def progress (snapshot : Snapshot) : Nat :=
  3 * snapshot.generation + snapshot.status.rank

variable {earlier later : Snapshot}

theorem generation_le_of_progress (forward : earlier.progress ≤ later.progress) :
    earlier.generation ≤ later.generation := by
  have earlier_rank := earlier.status.rank_lt
  have later_rank := later.status.rank_lt
  unfold progress at forward
  omega

theorem rank_le_of_progress (forward : earlier.progress ≤ later.progress)
    (same : earlier.generation = later.generation) :
    earlier.status.rank ≤ later.status.rank := by
  unfold progress at forward
  omega

theorem disconnected_of_progress (forward : earlier.progress ≤ later.progress)
    (same : earlier.generation = later.generation) (parted : earlier.status = .disconnected) :
    later.status = .disconnected := by
  have ranks := rank_le_of_progress forward same
  cases status : later.status <;> simp [parted, status, LinkStatus.rank] at ranks ⊢

theorem generation_lt_of_progress (forward : earlier.progress ≤ later.progress)
    (moved : earlier.status ≠ .connecting) (connects : later.status = .connecting) :
    earlier.generation < later.generation := by
  refine Nat.lt_of_le_of_ne (generation_le_of_progress forward) fun same => moved ?_
  have ranks := rank_le_of_progress forward same
  cases status : earlier.status <;> simp [connects, status, LinkStatus.rank] at ranks ⊢

end Snapshot

/-- Snapshots, latest first, that go through the phases of one generation after the other. -/
structure Phased (published : List Snapshot) : Prop where
  forward : published.Pairwise fun later earlier => earlier.progress ≤ later.progress
  opened : published.IsChain fun later earlier => later.status = .connected →
    earlier.generation = later.generation ∧ earlier.status ≠ .disconnected

theorem Phased.cons {current next : Snapshot} {earlier : List Snapshot}
    (phased : Phased (current :: earlier)) (forward : current.progress ≤ next.progress)
    (opened : next.status = .connected →
      current.generation = next.generation ∧ current.status ≠ .disconnected) :
    Phased (next :: current :: earlier) where
  forward := by
    refine List.pairwise_cons.mpr ⟨fun snapshot member => ?_, phased.forward⟩
    rcases List.mem_cons.mp member with rfl | older
    · exact forward
    · exact Nat.le_trans (List.rel_of_pairwise_cons phased.forward older) forward
  opened := List.isChain_cons_cons.mpr ⟨opened, phased.opened⟩

/-! ## In the order in which snapshots are shown -/

/-- Two snapshots that follow one another, of which the second one is the first to have a status. -/
def Becomes (status : LinkStatus) (shown : List Snapshot) (place : Nat)
    (before after : Snapshot) : Prop :=
  shown[place]? = some before ∧ shown[place + 1]? = some after ∧
    before.status ≠ status ∧ after.status = status

theorem Phased.progress_le {published : List Snapshot} (phased : Phased published) {first second : Nat}
    (ordered : first ≤ second) {earlier later : Snapshot}
    (earlier_found : published.reverse[first]? = some earlier)
    (later_found : published.reverse[second]? = some later) :
    earlier.progress ≤ later.progress := by
  have forward := List.pairwise_reverse.mpr phased.forward
  obtain ⟨first_inside, rfl⟩ := List.getElem?_eq_some_iff.mp earlier_found
  obtain ⟨second_inside, rfl⟩ := List.getElem?_eq_some_iff.mp later_found
  rcases Nat.lt_or_eq_of_le ordered with below | rfl
  · exact List.pairwise_iff_getElem.mp forward first second first_inside second_inside below
  · exact Nat.le_refl _

/-- A connection is established in the generation that connects. -/
theorem Phased.becomes_connected {published : List Snapshot} (phased : Phased published) {place : Nat}
    {before after : Snapshot} (becomes : Becomes .connected published.reverse place before after) :
    before.status = .connecting ∧ before.generation = after.generation := by
  obtain ⟨before_found, after_found, apart, connected⟩ := becomes
  have opened := List.isChain_reverse.mpr phased.opened
  obtain ⟨inside, after_eq⟩ := List.getElem?_eq_some_iff.mp after_found
  obtain ⟨_, before_eq⟩ := List.getElem?_eq_some_iff.mp before_found
  have follows := List.isChain_iff_getElem.mp opened place inside
  rw [before_eq, after_eq] at follows
  obtain ⟨same, not_over⟩ := follows connected
  refine ⟨?_, same⟩
  cases status : before.status with
  | connecting => rfl
  | connected => exact absurd status apart
  | disconnected => exact absurd status not_over

/-- A connection begins to connect in a generation that was never shown before. -/
theorem Phased.becomes_connecting {published : List Snapshot} (phased : Phased published)
    {place : Nat} {before after : Snapshot}
    (becomes : Becomes .connecting published.reverse place before after) :
    ∀ earlier ∈ published.reverse.take (place + 1), earlier.generation < after.generation := by
  intro earlier member
  obtain ⟨before_found, after_found, apart, connects⟩ := becomes
  obtain ⟨position, found⟩ := List.mem_iff_getElem?.mp member
  rw [List.getElem?_take] at found
  split at found
  · rename_i inside
    have first := phased.progress_le (Nat.lt_succ_iff.mp inside) found before_found
    have second := phased.progress_le (Nat.le_succ place) before_found after_found
    exact Nat.lt_of_le_of_lt (Snapshot.generation_le_of_progress first)
      (Snapshot.generation_lt_of_progress second apart connects)
  · cases found

/-- A generation is established once. -/
theorem Phased.connected_once {published : List Snapshot} (phased : Phased published)
    {first second : Nat} {before after otherBefore otherAfter : Snapshot}
    (becomes : Becomes .connected published.reverse first before after)
    (becomes_again : Becomes .connected published.reverse second otherBefore otherAfter)
    (same : after.generation = otherAfter.generation) : second ≤ first := by
  refine Nat.le_of_not_lt fun below => ?_
  obtain ⟨connects, same_before⟩ := phased.becomes_connected becomes_again
  have forward := phased.progress_le below becomes.2.1 becomes_again.1
  have ranks := Snapshot.rank_le_of_progress forward (same.trans same_before.symm)
  rw [becomes.2.2.2, connects] at ranks
  exact absurd ranks (by decide)

/-! ## Steps of a client -/

namespace Client

/-- Whatever is announced goes on with the phases. -/
theorem Announced.phased {client : Client} {action : Action} {face : List Snapshot × Nat}
    (announced : Announced client action face) (linked : client.Linked)
    (shown : client.connection.current.generation = client.connection.generation)
    (phased : Phased client.connection.published) : Phased face.1 := by
  have rank := client.connection.current.status.rank_lt
  have last : LinkStatus.disconnected.rank = 2 := rfl
  have ended : Phased (client.connection.ended :: client.connection.published) := by
    refine phased.cons ?_ (by simp [Connection.ended, Connection.parted])
    simp only [Snapshot.progress, Connection.ended, Connection.parted, ← shown]
    omega
  cases announced with
  | silent => exact phased
  | carriedOut purpose asked =>
      cases purpose with
      | close => exact ended
      | reopen url =>
          refine ended.cons ?_ (by simp [Connection.reopened])
          simp only [Snapshot.progress, Connection.ended, Connection.parted, Connection.reopened,
            LinkStatus.rank]
          omega
  | opened link url reported found =>
      have connects := linked.connecting _ (List.mem_of_getElem? found) rfl rfl
      refine phased.cons ?_ fun _ => ⟨rfl, by simp [connects]⟩
      simp [Snapshot.progress, Connection.opened, connects, LinkStatus.rank]
  | parted =>
      refine phased.cons ?_ (by simp [Connection.parted])
      simp only [Snapshot.progress, Connection.parted, Snapshot.withoutSession, last]
      omega
  | greeted number call id handle response welcome is_wake answered opens =>
      exact phased.cons (Nat.le_refl _) fun connected => ⟨rfl, by
        rw [show client.connection.current.status = .connected from connected]
        decide⟩

theorem phased_run (settings : Settings) (limits : Limits) (wall : Timestamp)
    (actions : List Action) :
    Phased ((new settings limits wall).run actions).connection.published := by
  induction actions using List.reverseRecOn with
  | nil => exact ⟨List.pairwise_singleton .., .singleton _⟩
  | append_singleton front action induction =>
      rw [run_append, run_cons, run_nil]
      exact (announced_step _ action).phased (linked_run settings limits wall front)
        (generation_current_run settings limits wall front) induction

/-! ## Only an open begins a generation -/

/-- What waits for a link to end was asked for before. -/
theorem mem_teardowns_tearDown {client : Client} {purpose other : Purpose}
    (member : other ∈ (client.tearDown purpose).teardowns) :
    other ∈ client.teardowns ∨ other = purpose := by
  unfold tearDown Connection.unassign at member
  dsimp only at member
  split at member
  · rw [(calls_carryOut _ purpose).2] at member
    exact .inl member
  · split at member
    · exact (List.mem_append.mp member).imp_right List.mem_singleton.mp
    · rw [(calls_carryOut _ purpose).2] at member
      exact .inl member

theorem mem_teardowns_step {client : Client} {action : Action} {purpose : Purpose}
    (member : purpose ∈ (client.step action).teardowns) :
    purpose ∈ client.teardowns ∨ client.purpose? action = some purpose := by
  have kept (same : (client.step action).teardowns = client.teardowns) :
      purpose ∈ client.teardowns ∨ client.purpose? action = some purpose :=
    .inl (same ▸ member)
  cases action with
  | connect url =>
      rw [step_eq, teardowns_dissolve] at member
      split at member
      · exact (mem_teardowns_tearDown member).imp_right fun same => congrArg some same.symm
      · split at member <;> exact .inl member
  | close =>
      rw [step_eq, teardowns_dissolve] at member
      split at member
      · exact (mem_teardowns_tearDown member).imp_right fun same => congrArg some same.symm
      · split at member <;> exact .inl member
  | resume teardown =>
      rw [step_resume, teardowns_dissolve] at member
      unfold resume at member
      split at member
      · exact .inl member
      · rw [(calls_carryOut _ _).2] at member
        exact .inl (List.mem_of_mem_eraseIdx member)
  | startRefresh interval calls =>
      rw [step_eq, teardowns_dissolve] at member
      split at member
      · unfold applyHeld startRefresh at member
        dsimp only at member
        split at member <;> exact .inl member
      · split at member <;> exact .inl member
  | _ => exact kept (client.stays_step _ rfl rfl).teardowns

/-- A snapshot that shows a connection to connect is published only to open it, or in place of
another such snapshot. -/
theorem Announced.connecting {client : Client} {action : Action} {face : List Snapshot × Nat}
    (announced : Announced client action face) {snapshot : Snapshot} (member : snapshot ∈ face.1)
    (connects : snapshot.status = .connecting) :
    (∃ url, client.purpose? action = some (.reopen url) ∧
        snapshot = client.connection.reopened url) ∨
      ∃ earlier ∈ client.connection.published,
        earlier.status = .connecting ∧ earlier.url = snapshot.url := by
  have before (known : snapshot ∈ client.connection.published) :
      ∃ earlier ∈ client.connection.published,
        earlier.status = .connecting ∧ earlier.url = snapshot.url :=
    ⟨snapshot, known, connects, rfl⟩
  cases announced with
  | silent => exact .inr (before member)
  | carriedOut purpose asked =>
      cases purpose with
      | close =>
          rcases List.mem_cons.mp member with rfl | known
          · cases connects
          · exact .inr (before known)
      | reopen url =>
          rcases List.mem_cons.mp member with rfl | rest
          · exact .inl ⟨url, asked, rfl⟩
          · rcases List.mem_cons.mp rest with rfl | known
            · cases connects
            · exact .inr (before known)
  | opened =>
      rcases List.mem_cons.mp member with rfl | known
      · cases connects
      · exact .inr (before known)
  | parted =>
      rcases List.mem_cons.mp member with rfl | known
      · cases connects
      · exact .inr (before known)
  | greeted =>
      rcases List.mem_cons.mp member with rfl | known
      · exact .inr ⟨_, List.mem_cons_self .., connects, rfl⟩
      · exact .inr (before known)

/-- A connection turns to connecting only to be opened. -/
theorem Announced.turns {client : Client} {action : Action} {face : List Snapshot × Nat}
    (announced : Announced client action face) {snapshot : Snapshot}
    (latest : face.1.head? = some snapshot)
    (apart : client.connection.current.status ≠ .connecting)
    (connects : snapshot.status = .connecting) :
    ∃ url, client.purpose? action = some (.reopen url) ∧
      snapshot = client.connection.reopened url := by
  cases announced with
  | silent =>
      obtain rfl := Option.some.inj latest
      exact absurd connects apart
  | carriedOut purpose asked =>
      cases purpose with
      | close =>
          obtain rfl := Option.some.inj latest
          cases connects
      | reopen url => exact ⟨url, asked, (Option.some.inj latest).symm⟩
  | opened =>
      obtain rfl := Option.some.inj latest
      cases connects
  | parted =>
      obtain rfl := Option.some.inj latest
      cases connects
  | greeted =>
      obtain rfl := Option.some.inj latest
      exact absurd connects apart

/-- What opens a connection was asked for along the actions so far. -/
structure Asked (actions : List Action) (client : Client) : Prop where
  waiting : ∀ url, .reopen url ∈ client.teardowns → .connect url ∈ actions
  shown : ∀ snapshot ∈ client.connection.published, snapshot.status = .connecting →
    ∃ url, snapshot.url = some url ∧ .connect url ∈ actions

theorem Asked.of_purpose? {actions : List Action} {client : Client} (asked : Asked actions client)
    {action : Action} {url : String} (purpose : client.purpose? action = some (.reopen url)) :
    .connect url ∈ actions ++ [action] := by
  refine List.mem_append.mpr ?_
  cases action with
  | connect other =>
      obtain rfl := Purpose.reopen.inj (Option.some.inj purpose)
      exact .inr (List.mem_singleton_self _)
  | resume teardown => exact .inl (asked.waiting url (List.mem_of_getElem? purpose))
  | _ => cases purpose

theorem Asked.step {actions : List Action} {client : Client} (asked : Asked actions client)
    (action : Action) : Asked (actions ++ [action]) (client.step action) where
  waiting := by
    intro url member
    rcases mem_teardowns_step member with before | purpose
    · exact List.mem_append_left _ (asked.waiting url before)
    · exact asked.of_purpose? purpose
  shown := by
    intro snapshot member connects
    rcases (client.announced_step action).connecting member connects with
      ⟨url, purpose, rfl⟩ | ⟨earlier, known, connecting, same⟩
    · exact ⟨url, rfl, asked.of_purpose? purpose⟩
    · obtain ⟨url, dialled, member⟩ := asked.shown earlier known connecting
      exact ⟨url, same ▸ dialled, List.mem_append_left _ member⟩

theorem asked_run (settings : Settings) (limits : Limits) (wall : Timestamp)
    (actions : List Action) : Asked actions ((new settings limits wall).run actions) := by
  induction actions using List.reverseRecOn with
  | nil => exact ⟨by simp [new], by simp [new, Connection.new, Connection.published, Snapshot.initial]⟩
  | append_singleton front action induction =>
      rw [run_append]
      exact induction.step action

/-- In every run the snapshots obey the phases: generations never decrease, each is established once
at most, and a disconnected one stays so. -/
theorem snapshots_obey_phases (settings : Settings) (limits : Limits) (wall : Timestamp)
    (actions : List Action) :
    let client := (new settings limits wall).run actions
    let shown := client.connection.published.reverse
    shown.Pairwise (fun earlier later => earlier.generation ≤ later.generation) ∧
      (∀ place before after, Becomes .connecting shown place before after →
        (∃ url, after.url = some url ∧ .connect url ∈ actions) ∧
          ∀ earlier ∈ shown.take (place + 1), earlier.generation < after.generation) ∧
      (∀ place before after, Becomes .connected shown place before after →
        before.status = .connecting ∧ before.generation = after.generation) ∧
      (∀ first second before after otherBefore otherAfter,
        Becomes .connected shown first before after →
        Becomes .connected shown second otherBefore otherAfter →
        after.generation = otherAfter.generation → first = second) ∧
      shown.Pairwise (fun earlier later => earlier.generation = later.generation →
        earlier.status = .disconnected → later.status = .disconnected) ∧
      ∀ action, client.connection.current.status ≠ .connecting →
        (client.step action).connection.current.status = .connecting →
        ∃ url, client.purpose? action = some (.reopen url) ∧
          (client.step action).connection.current = client.connection.reopened url := by
  intro client shown
  have phased := phased_run settings limits wall actions
  have asked := asked_run settings limits wall actions
  have forward : shown.Pairwise fun earlier later => earlier.progress ≤ later.progress :=
    List.pairwise_reverse.mpr phased.forward
  refine ⟨forward.imp Snapshot.generation_le_of_progress, fun place before after becomes => ⟨?_,
    phased.becomes_connecting becomes⟩, fun place before after => phased.becomes_connected,
    fun first second before after otherBefore otherAfter becomes becomes_again same => ?_,
    forward.imp Snapshot.disconnected_of_progress, fun action apart connects => ?_⟩
  · exact asked.shown after (List.mem_reverse.mp (List.mem_of_getElem? becomes.2.1)) becomes.2.2.2
  · exact Nat.le_antisymm (phased.connected_once becomes_again becomes same.symm)
      (phased.connected_once becomes becomes_again same)
  · exact (client.announced_step action).turns rfl apart connects

end Client

end GatewayLink
