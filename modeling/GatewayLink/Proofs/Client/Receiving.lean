import GatewayLink.Proofs.Client.Publishing

/-!
# What a link takes in

A link hands over the texts of its stream one by one until the stream ends for it: with a close
frame, a report that the stream is closed, any other error, or the end of the stream itself.  Other
messages are passed over.  With the end the generation of the link is over, the requests that wait
are given up, and nothing that comes on the link later is looked at.  As long as the client is kept
and nobody opens or closes, nothing else that happens meanwhile stops a link.
-/

namespace GatewayLink

namespace Client

/-! ## Items and streams -/

/-- What an item means to a link. -/
inductive Intake where
  /-- A text to be handed over. -/
  | text (value : String)
  /-- A message that is passed over. -/
  | nothing
  /-- The end, for a reason. -/
  | stop (reason : String)

/-- What an item means; where there is none the stream is at its end. -/
def intake : Option StreamItem → Intake
  | some (.text value) => .text value
  | some (.binary _) | some (.ping _) | some (.pong _) | some (.raw _) => .nothing
  | some (.close _) | some .closed | some .alreadyClosed | none => .stop closedByGateway
  | some (.fault cause) => .stop (TransportError.stream cause).message

/-- Whether a link ends with an item. -/
def isEnd (item : Option StreamItem) : Bool :=
  match intake item with
  | .stop _ => true
  | _ => false

/-- The text that is handed over for an item. -/
def text? (item : Option StreamItem) : Option String :=
  match intake item with
  | .text value => some value
  | _ => none

/-- The texts of a stream up to its end. -/
def textsBeforeEnd (items : List (Option StreamItem)) : List String :=
  (items.takeWhile fun item => !isEnd item).filterMap text?

/-- What is made of the items of a link along a run. -/
def along {α : Type} (make : Client → Option StreamItem → List α) (link : Nat) (client : Client) :
    List Action → List α
  | [] => []
  | action :: rest =>
    (match action with
      | .received other item => if other = link then make client item else []
      | _ => []) ++ along make link (client.step action) rest

/-- What arrives on a link along a run while the client exists. -/
def arrivals : Nat → Client → List Action → List (Option StreamItem) :=
  along fun client item => if client.isAlive then [item] else []

/-- The texts that a link hands to the client along a run. -/
def handedBy (link : Nat) : Client → List Action → List String :=
  along (fun client item => (client.heard? (.received link item)).toList) link

/-- Whether an action opens or closes the connection, or goes on with what has waited for that. -/
def Action.reopens : Action → Bool
  | .connect _ | .close | .resume _ => true
  | _ => false

/-- A link is open, and its generation is the current one. -/
structure Listens (client : Client) (link generation : Nat) : Prop where
  found : ∃ url channel, client.links[link]? = some ⟨generation, url, .receiving channel⟩
  current : generation = client.connection.generation

/-- A link has ended. -/
def HasEnded (client : Client) (link : Nat) : Prop :=
  ∃ there, client.links[link]? = some there ∧ there.stage = .ended

/-- The client once a link has ended for a reason and has taken its generation along. -/
def lost (client : Client) (link generation : Nat) (reason : String) : Client :=
  { client.setLink link .ended with
    connection := (client.connection.lose generation).2
    logbook := client.logbook.post "connection closed" reason .warn
    inFlight := client.inFlight.abandonAll.2 }

/-! ## What becomes of a link -/

section Links

variable (client : Client) (number : Nat)

@[simp] theorem links_start : (client.start number).links = client.links := by
  obtain ⟨call, -, -, began⟩ | ⟨-, unchanged⟩ := client.start_cases number
  · generalize client.start number = after at began
    cases began with
    | issued pacing after issued => cases issued <;> rfl
    | _ => rfl
  · rw [unchanged]

@[simp] theorem links_wake : (client.wake number).links = client.links := by
  obtain ⟨call, id, handle, since, -, -, woke⟩ | ⟨-, unchanged⟩ := client.wake_cases number
  · generalize client.wake number = after at woke
    cases woke <;> rfl
  · rw [unchanged]

@[simp] theorem links_inbound (text : String) : (client.inbound text).links = client.links := by
  obtain ⟨response, -, taken⟩ | ⟨-, event, taken⟩ | ⟨-, taken⟩ := client.inbound_cases text <;>
    rw [taken]

@[simp] theorem links_generationRefused (generation : Nat) (cause : TransportError) :
    (client.generationRefused generation cause).links = client.links := by
  obtain ⟨-, lost⟩ | ⟨-, lost⟩ := client.generationRefused_cases generation cause <;> rw [lost]

@[simp] theorem links_generationLost (generation : Nat) (reason : String) :
    (client.generationLost generation reason).links = client.links := by
  obtain ⟨-, lost⟩ | ⟨-, lost⟩ := client.generationLost_cases generation reason <;> rw [lost]

@[simp] theorem links_tick : client.tick.links = client.links := by
  obtain ⟨ticker, calls, ticked, -, -⟩ := client.tick_eq
  rw [ticked]
  rfl

@[simp] theorem links_applyOutside (action : Action) :
    (client.applyOutside action).2.links = client.links := by
  cases action with
  | observe observer =>
      dsimp only [applyOutside]
      split <;> rfl
  | _ => rfl

end Links

/-- What may become of a link that has connected: it stays as it is, or it ends where that is
allowed. -/
def Follows (link : Nat) (ends : Prop) (before after : Client) : Prop :=
  ∀ there, before.links[link]? = some there → there.stage ≠ .connecting →
    after.links[link]? = some there ∨
      ends ∧ after.links[link]? = some { there with stage := .ended }

namespace Follows

variable {link : Nat} {ends : Prop} {before middle after : Client}

theorem of_links (links : after.links = before.links) : Follows link ends before after :=
  fun there found _ => .inl (by rwa [links])

theorem trans (first : Follows link ends before middle) (second : Follows link ends middle after) :
    Follows link ends before after := by
  intro there found connected
  rcases first there found connected with same | ⟨may_end, ended⟩
  · exact second there same connected
  · rcases second _ ended (by simp) with stays | ⟨-, again⟩
    · exact .inr ⟨may_end, stays⟩
    · exact .inr ⟨may_end, again⟩

theorem imp (follows : Follows link ends before after) {more : Prop} (weaker : ends → more) :
    Follows link more before after :=
  fun there found connected => (follows there found connected).imp_right (And.imp_left weaker)

theorem of_outer {outer : Client} (follows : Follows link ends outer after)
    (links : outer.links = before.links) : Follows link ends before after :=
  fun there found => follows there (by rwa [links])

end Follows

section Operations

variable (client : Client) {link : Nat} {ends : Prop} (number : Nat)

theorem follows_setLink (own : number = link → ends) :
    Follows link ends client (client.setLink number .ended) := by
  intro there found connected
  by_cases here : number = link
  · exact .inr ⟨own here, by simp [here, found]⟩
  · exact .inl (by simp [here, found])

theorem follows_dissolve : Follows link (client.isAlive = false) client client.dissolve := by
  cases alive : client.isAlive with
  | true => exact .of_links (by rw [dissolve_of_isAlive _ alive])
  | false =>
      obtain same | ⟨links, kept, same⟩ := client.dissolve_cases
      · exact .of_links (by rw [same])
      · rw [same]
        obtain rfl | ⟨other, rfl⟩ := kept
        · exact .of_links rfl
        · exact client.follows_setLink other fun _ => rfl

theorem follows_carryOut (purpose : Purpose) :
    Follows link True client (client.carryOut purpose) := by
  cases purpose with
  | close => exact .of_links rfl
  | reopen url =>
      intro there found connected
      have known : link < client.links.length := (List.getElem?_eq_some_iff.mp found).1
      have still (others : List Link) : (client.links ++ others)[link]? = some there :=
        (List.getElem?_append_left known).trans found
      dsimp only [carryOut]
      obtain ⟨-, ran⟩ | ⟨other, -, ran⟩ := runLink_cases
        { client.endGeneration with
          connection := (client.endGeneration.connection.dial url).2
          links := client.endGeneration.links ++
            [⟨(client.endGeneration.connection.dial url).1, url, .connecting⟩] }
        client.endGeneration.links.length
      · rw [ran]
        exact .inl (still _)
      · rw [ran]
        exact follows_setLink _ other (fun _ => trivial) there (still _) connected

theorem follows_tearDown (purpose : Purpose) :
    Follows link True client (client.tearDown purpose) := by
  obtain ⟨-, torn⟩ | ⟨other, -, -, torn⟩ := client.tearDown_cases purpose
  · rw [torn]
    exact (follows_carryOut _ purpose).of_outer rfl
  · rw [torn]
    exact follows_setLink _ _ fun _ => trivial

theorem follows_resume : Follows link True client (client.resume number) := by
  obtain ⟨-, resumed⟩ | ⟨purpose, -, resumed⟩ := client.resume_cases number
  · rw [resumed]
    exact .of_links rfl
  · rw [resumed]
    exact (follows_carryOut _ purpose).of_outer rfl

/-- A link that connects is none that has connected. -/
theorem follows_of_connecting {generation : Nat} {url : String} {after : Client}
    (connects : client.links[number]? = some ⟨generation, url, .connecting⟩)
    (others : ∀ other, number ≠ other → after.links[other]? = client.links[other]?) :
    Follows link ends client after := by
  intro there found connected
  have apart : number ≠ link := by
    rintro rfl
    rw [connects, Option.some.injEq] at found
    exact connected (by rw [← found])
  exact .inl ((others link apart).trans found)

theorem follows_linkOpened : Follows link ends client (client.linkOpened number) := by
  obtain ⟨generation, url, connects, -, opened⟩ | ⟨generation, url, connects, -, opened⟩ |
    ⟨-, opened⟩ := client.linkOpened_cases number
  · rw [opened]
    exact client.follows_of_connecting number connects fun other apart => by
      simp [addCalls, apart]
  · rw [opened]
    exact client.follows_of_connecting number connects fun other apart => by simp [apart]
  · rw [opened]
    exact .of_links rfl

theorem follows_linkFailed (cause : TransportError) :
    Follows link ends client (client.linkFailed number cause) := by
  obtain ⟨generation, url, connects, failed⟩ | ⟨-, failed⟩ := client.linkFailed_cases number cause
  · rw [failed]
    exact client.follows_of_connecting number connects fun other apart => by simp [apart]
  · rw [failed]
    exact .of_links rfl

theorem follows_received (item : Option StreamItem) :
    Follows link (number = link) client (client.received number item) := by
  obtain ⟨text, -, -, received⟩ | ⟨-, generation, url, channel, reason, -, -, received⟩ |
    ⟨-, -, received⟩ := client.received_cases number item
  · rw [received]
    exact .of_links (client.links_inbound text)
  · rw [received]
    exact (client.follows_setLink number id).trans (.of_links (links_generationLost ..))
  · rw [received]
    exact .of_links rfl

/-- Whether an action may end a link: it opens or closes, or brings an item of the link. -/
def Action.endsLink (link : Nat) (action : Action) : Prop :=
  action.reopens = true ∨ ∃ item, action = .received link item

theorem follows_applyTask (action : Action) :
    Follows link (action.endsLink link) client (client.applyTask action).2 := by
  cases action with
  | start call => exact .of_links (client.links_start call)
  | wake call => exact .of_links (client.links_wake call)
  | resume teardown => exact (client.follows_resume teardown).imp fun _ => .inl rfl
  | linkOpened other => exact client.follows_linkOpened other
  | linkFailed other cause => exact client.follows_linkFailed other cause
  | received other item =>
      exact (client.follows_received other item).imp fun own => .inr ⟨item, own ▸ rfl⟩
  | tick => exact .of_links client.links_tick
  | _ => exact .of_links (client.links_applyOutside _)

theorem follows_applyHeld (action : Action) :
    Follows link (action.endsLink link) client (client.applyHeld action).2 := by
  cases action with
  | connect url => exact (client.follows_tearDown (.reopen url)).imp fun _ => .inl rfl
  | close =>
      have torn : Follows link True client client.close := (follows_tearDown _ .close).of_outer rfl
      exact torn.imp fun _ => .inl rfl
  | inbound text => exact .of_links (client.links_inbound text)
  | startRefresh interval calls =>
      dsimp only [applyHeld, startRefresh]
      split <;> exact .of_links rfl
  | call method params => exact .of_links rfl
  | setGap gap => exact .of_links rfl
  | stopRefresh => exact .of_links rfl
  | subscribe => exact .of_links rfl
  | watch => exact .of_links rfl
  | drop => exact .of_links rfl
  | _ => exact client.follows_applyTask _

/-- A link that has connected ends by nothing but its own items, opening and closing, and the end of
the client. -/
theorem follows_step (action : Action) :
    Follows link (action.endsLink link ∨ (client.step action).isAlive = false) client
      (client.step action) := by
  rw [step_eq, isAlive_dissolve]
  refine Follows.trans (Follows.imp ?_ .inl) ((follows_dissolve _).imp .inr)
  split
  · exact client.follows_applyHeld action
  · split
    · exact client.follows_applyTask action
    · exact .of_links (client.links_applyOutside action)

/-- The generation of the connection changes only by opening and closing. -/
theorem generation_step (action : Action) (calm : action.reopens = false) :
    (client.step action).connection.generation = client.connection.generation := by
  have announced := client.announced_step action
  generalize shown : (client.step action).connection.face = face at announced
  have same : (client.step action).connection.generation = face.2 := congrArg Prod.snd shown
  rw [same]
  have idle : client.purpose? action = none := by
    cases action <;> first | rfl | cases calm
  cases announced with
  | carriedOut purpose asked =>
      rw [idle] at asked
      cases asked
  | _ => rfl

end Operations

/-! ## Links that have ended -/

section Endings

variable (client : Client) {link : Nat}

theorem received_of_hasEnded (ended : client.HasEnded link) (item : Option StreamItem) :
    client.received link item = client := by
  obtain ⟨⟨generation, url, stage⟩, found, rfl⟩ := ended
  simp [received, found]

theorem hasEnded_step (ended : client.HasEnded link) (action : Action) :
    (client.step action).HasEnded link := by
  obtain ⟨⟨generation, url, stage⟩, found, rfl⟩ := ended
  obtain same | ⟨-, again⟩ := client.follows_step action _ found (by simp)
  · exact ⟨_, same, rfl⟩
  · exact ⟨_, again, rfl⟩

theorem hasEnded_run {client : Client} (ended : client.HasEnded link) (actions : List Action) :
    (client.run actions).HasEnded link := by
  induction actions generalizing client with
  | nil => exact ended
  | cons action rest induction => exact induction (client.hasEnded_step ended action)

/-- Nothing that comes on a link that has ended is looked at. -/
theorem step_received_of_hasEnded (done : client.dissolve = client) (ended : client.HasEnded link)
    (item : Option StreamItem) :
    client.heard? (.received link item) = none ∧ client.step (.received link item) = client := by
  have unchanged := client.received_of_hasEnded ended item
  constructor
  · obtain ⟨⟨generation, url, stage⟩, found, rfl⟩ := ended
    simp [heard?, found]
  · rw [step_eq]
    split
    · exact (congrArg dissolve unchanged).trans done
    · split
      · exact (congrArg dissolve unchanged).trans done
      · exact done

end Endings

/-! ## Links that listen -/

section Listening

variable {client : Client} {link generation : Nat}

/-- What is neither an item of its own nor opens or closes leaves a link to listen. -/
theorem Listens.step (listens : client.Listens link generation) {action : Action}
    (calm : action.reopens = false) (others : ∀ item, action ≠ .received link item)
    (alive : (client.step action).isAlive = true) :
    (client.step action).Listens link generation where
  found := by
    obtain ⟨url, channel, found⟩ := listens.found
    obtain same | ⟨(reopens | ⟨item, own⟩) | dead, -⟩ :=
      client.follows_step action _ found (by simp)
    · exact ⟨url, channel, same⟩
    · rw [calm] at reopens
      cases reopens
    · exact absurd own (others item)
    · rw [alive] at dead
      cases dead
  current := listens.current.trans (client.generation_step action calm).symm

theorem isAlive_inbound (client : Client) (text : String) :
    (client.inbound text).isAlive = client.isAlive := by
  obtain ⟨response, -, taken⟩ | ⟨-, event, taken⟩ | ⟨-, taken⟩ := client.inbound_cases text <;>
    rw [taken] <;> rfl

theorem generationLost_of_listens (listens : client.Listens link generation) (reason : String) :
    (client.setLink link .ended).generationLost generation reason =
      client.lost link generation reason := by
  have stands : client.connection.stands generation = true :=
    (client.connection.stands_iff generation).mpr listens.current
  simp [generationLost, Connection.lose, stands, lost]

/-- Without its generation the connection is disconnected, no request waits any more, and one
bulletin tells the reason. -/
theorem lost_of_listens (listens : client.Listens link generation) (reason : String) :
    let after := client.lost link generation reason
    after.connection.current.status = .disconnected ∧ after.inFlight.pending = [] ∧
      after.logbook.activity = client.logbook.activity.push
        ⟨generatedId client.logbook.generated, "connection closed", reason, .warn⟩ := by
  have stands : client.connection.stands generation = true :=
    (client.connection.stands_iff generation).mpr listens.current
  exact ⟨by simp [lost, Connection.lose, stands], rfl, rfl⟩

/-- What an item of a link that listens makes of the client. -/
def takenIn (client : Client) (link generation : Nat) (item : Option StreamItem) : Client :=
  match intake item with
  | .text value => client.inbound value
  | .nothing => client
  | .stop reason => client.lost link generation reason

theorem isAlive_takenIn (client : Client) (link generation : Nat) (item : Option StreamItem) :
    (client.takenIn link generation item).isAlive = client.isAlive := by
  unfold takenIn
  split
  · exact client.isAlive_inbound _
  · rfl
  · rfl

theorem received_of_listens (listens : client.Listens link generation)
    (item : Option StreamItem) :
    client.received link item = client.takenIn link generation item := by
  obtain ⟨url, channel, found⟩ := listens.found
  have ends := generationLost_of_listens listens
  rcases item with _ | item
  · simp [received, found, endReason?, takenIn, intake, ends]
  · cases item <;>
      simp [received, found, StreamItem.reading?, endReason?, takenIn, intake, ends]

theorem step_of_listens (alive : client.isAlive = true) (listens : client.Listens link generation)
    (item : Option StreamItem) :
    client.step (.received link item) = client.takenIn link generation item := by
  rw [step_received_of_isAlive alive, received_of_listens listens]
  exact dissolve_of_isAlive _ ((client.isAlive_takenIn ..).trans alive)

theorem heard?_of_listens (alive : client.isAlive = true)
    (listens : client.Listens link generation) (item : Option StreamItem) :
    client.heard? (.received link item) = text? item := by
  obtain ⟨url, channel, found⟩ := listens.found
  rcases item with _ | item
  · simp [heard?, alive, found, text?, intake]
  · cases item <;> simp [heard?, alive, found, text?, intake, StreamItem.reading?]

theorem listens_step_received (alive : client.isAlive = true)
    (listens : client.Listens link generation) {item : Option StreamItem}
    (goes_on : isEnd item = false) :
    (client.step (.received link item)).Listens link generation := by
  refine ⟨?_, listens.current.trans (client.generation_step _ rfl).symm⟩
  rw [step_of_listens alive listens]
  unfold isEnd at goes_on
  unfold takenIn
  cases meaning : intake item with
  | text value => simpa using listens.found
  | nothing => exact listens.found
  | stop reason => simp [meaning] at goes_on

theorem hasEnded_step_received (alive : client.isAlive = true)
    (listens : client.Listens link generation) {item : Option StreamItem}
    (ends : isEnd item = true) : (client.step (.received link item)).HasEnded link := by
  obtain ⟨url, channel, found⟩ := listens.found
  rw [step_of_listens alive listens]
  unfold isEnd at ends
  unfold takenIn
  cases meaning : intake item with
  | stop reason => exact ⟨⟨generation, url, .ended⟩, by simp [lost, found], rfl⟩
  | _ => simp [meaning] at ends

end Listening

/-! ## Runs -/

section Run

variable {client : Client} {link generation : Nat}

theorem not_isAlive_step (dead : client.isAlive = false) (action : Action) :
    (client.step action).isAlive = false := by
  have kept : (client.applyOutside action).2.isAlive = client.isAlive := by
    cases action with
    | observe observer => simp [applyOutside, dead]
    | _ => rfl
  rw [step_eq, isAlive_dissolve]
  simp [not_isHeld_of_not_isAlive dead, dead, kept]

theorem not_isAlive_run (dead : client.isAlive = false) (actions : List Action) :
    (client.run actions).isAlive = false := by
  induction actions generalizing client with
  | nil => exact dead
  | cons action rest induction => exact induction (not_isAlive_step dead action)

section Along

variable {α : Type} {make : Client → Option StreamItem → List α}

theorem along_cons_of_ne {action : Action} (others : ∀ item, action ≠ .received link item)
    (rest : List Action) :
    along make link client (action :: rest) = along make link (client.step action) rest := by
  cases action with
  | received other item =>
      have apart : other ≠ link := fun same => others item (same ▸ rfl)
      simp [along, apart]
  | _ => rfl

@[simp] theorem along_cons_received (item : Option StreamItem) (rest : List Action) :
    along make link client (.received link item :: rest) =
      make client item ++ along make link (client.step (.received link item)) rest := by
  simp [along]

theorem along_eq_nil (silent : Client → Prop)
    (kept : ∀ client action, silent client → silent (client.step action))
    (nothing : ∀ client item, silent client → make client item = []) (here : silent client)
    (actions : List Action) : along make link client actions = [] := by
  induction actions generalizing client with
  | nil => rfl
  | cons action rest induction =>
      have later := induction (kept client action here)
      by_cases own : ∃ item, action = .received link item
      · obtain ⟨item, rfl⟩ := own
        rw [along_cons_received, nothing client item here, later, List.append_nil]
      · rw [along_cons_of_ne (fun item same => own ⟨item, same⟩), later]

end Along

theorem textsBeforeEnd_cons (item : Option StreamItem) (rest : List (Option StreamItem)) :
    textsBeforeEnd (item :: rest) =
      (text? item).toList ++ if isEnd item then [] else textsBeforeEnd rest := by
  unfold textsBeforeEnd text? isEnd
  cases meaning : intake item <;> simp [meaning]

theorem handedBy_of_hasEnded (done : client.dissolve = client) (ended : client.HasEnded link)
    (actions : List Action) : handedBy link client actions = [] := by
  refine along_eq_nil (fun client => client.dissolve = client ∧ client.HasEnded link) ?_ ?_
    ⟨done, ended⟩ actions
  · exact fun client action silent =>
      ⟨client.dissolve_step action, client.hasEnded_step silent.2 action⟩
  · rintro client item ⟨settled, silent⟩
    rw [(client.step_received_of_hasEnded settled silent item).1]
    rfl

theorem silent_of_not_isAlive (dead : client.isAlive = false) (actions : List Action) :
    handedBy link client actions = [] ∧ arrivals link client actions = [] := by
  have kept (client : Client) (action : Action) (dead : client.isAlive = false) :
      (client.step action).isAlive = false := not_isAlive_step dead action
  constructor
  · refine along_eq_nil (·.isAlive = false) kept (fun _ _ dead => ?_) dead actions
    simp [heard?, dead]
  · refine along_eq_nil (·.isAlive = false) kept (fun _ _ dead => ?_) dead actions
    simp [dead]

theorem handedBy_cons_received (alive : client.isAlive = true)
    (listens : client.Listens link generation) (item : Option StreamItem) (rest : List Action) :
    handedBy link client (.received link item :: rest) =
      (text? item).toList ++ handedBy link (client.step (.received link item)) rest := by
  rw [handedBy, along_cons_received, heard?_of_listens alive listens]

theorem arrivals_cons_received (alive : client.isAlive = true) (item : Option StreamItem)
    (rest : List Action) :
    arrivals link client (.received link item :: rest) =
      item :: arrivals link (client.step (.received link item)) rest := by
  rw [arrivals, along_cons_received, if_pos alive]
  rfl

/-- A link hands over the texts before the end of its stream along a run; it has ended if that has
come, and else it listens as long as the client exists. -/
structure Fares (link generation : Nat) (client : Client) (actions : List Action) : Prop where
  handed : handedBy link client actions = textsBeforeEnd (arrivals link client actions)
  stands :
    if (arrivals link client actions).any isEnd then (client.run actions).HasEnded link
    else (client.run actions).isAlive = true → (client.run actions).Listens link generation

theorem fares_of_not_isAlive (dead : client.isAlive = false) (actions : List Action) :
    Fares link generation client actions := by
  obtain ⟨handed, arrived⟩ := silent_of_not_isAlive dead actions
  constructor
  · rw [handed, arrived]
    rfl
  · rw [arrived, not_isAlive_run dead]
    exact fun revived => by cases revived

theorem Fares.cons {action : Action} {rest : List Action}
    (fares : Fares link generation (client.step action) rest)
    (others : ∀ item, action ≠ .received link item) :
    Fares link generation client (action :: rest) := by
  have handed : handedBy link client (action :: rest) = handedBy link (client.step action) rest :=
    along_cons_of_ne others rest
  have arrived : arrivals link client (action :: rest) = arrivals link (client.step action) rest :=
    along_cons_of_ne others rest
  constructor
  · rw [handed, arrived, fares.handed]
  · rw [arrived]
    exact fares.stands

/-- An item of a link that listens is taken in, and after the end nothing more is. -/
theorem fares_cons_received (alive : client.isAlive = true)
    (listens : client.Listens link generation) {item : Option StreamItem} {rest : List Action}
    (goes_on : isEnd item = false →
      Fares link generation (client.step (.received link item)) rest) :
    Fares link generation client (.received link item :: rest) := by
  have handed := handedBy_cons_received alive listens item rest
  have arrived : arrivals link client (.received link item :: rest) =
      item :: arrivals link (client.step (.received link item)) rest :=
    arrivals_cons_received alive item rest
  cases ends : isEnd item with
  | true =>
      have ended := hasEnded_step_received alive listens ends
      have silent := handedBy_of_hasEnded (client.dissolve_step _) ended rest
      exact ⟨by simp [handed, arrived, textsBeforeEnd_cons, ends, silent],
        by simpa [arrived, ends] using hasEnded_run ended rest⟩
  | false =>
      have later := goes_on ends
      exact ⟨by simp [handed, arrived, textsBeforeEnd_cons, ends, later.handed],
        by simpa [arrived, ends] using later.stands⟩

/-- Along a run without opening and closing a link listens until its stream ends for it. -/
theorem fares_run (listens : client.Listens link generation) {actions : List Action}
    (calm : ∀ action ∈ actions, action.reopens = false) : Fares link generation client actions := by
  induction actions generalizing client with
  | nil => exact ⟨rfl, fun _ => listens⟩
  | cons action rest induction =>
      have later (still : (client.step action).Listens link generation) :=
        induction still fun other member => calm other (List.mem_cons_of_mem action member)
      cases here : client.isAlive with
      | false => exact fares_of_not_isAlive here _
      | true =>
          by_cases own : ∃ item, action = .received link item
          · obtain ⟨item, rfl⟩ := own
            exact fares_cons_received here listens fun goes_on =>
              later (listens_step_received here listens goes_on)
          · have others : ∀ item, action ≠ .received link item := fun item same => own ⟨item, same⟩
            refine Fares.cons ?_ others
            cases next : (client.step action).isAlive with
            | false => exact fares_of_not_isAlive next rest
            | true => exact later (listens.step (calm action List.mem_cons_self) others next)

end Run

/-- The link of the current generation hands over the texts before the end of its stream, each once
and in order; the end disconnects, and nothing that comes later is looked at. -/
theorem link_takes_in_its_stream (settings : Settings) (limits : Limits) (wall : Timestamp)
    (earlier actions : List Action) {link generation : Nat}
    (listens : ((new settings limits wall).run earlier).Listens link generation)
    (calm : ∀ action ∈ actions, action.reopens = false) :
    let client := (new settings limits wall).run earlier
    handedBy link client actions = textsBeforeEnd (arrivals link client actions) ∧
    (∀ before item after, actions = before ++ .received link item :: after →
      let here := client.run before
      let next := here.step (.received link item)
      if here.isAlive = false ∨ (arrivals link client before).any isEnd then next = here
      else
        match intake item with
        | .text value => next = here.inbound value
        | .nothing => next = here
        | .stop reason =>
          next = here.lost link generation reason ∧
            next.connection.current.status = .disconnected ∧ next.inFlight.pending = [] ∧
            next.logbook.activity = here.logbook.activity.push
              ⟨generatedId here.logbook.generated, "connection closed", reason, .warn⟩) ∧
    ((arrivals link client actions).any isEnd = true → ∀ more item,
      let later := (client.run actions).run more
      later.step (.received link item) = later) := by
  intro client
  have settled (more : List Action) : (client.run more).dissolve = client.run more := by
    have whole := dissolve_run settings limits wall (earlier ++ more)
    rwa [run_append] at whole
  refine ⟨(fares_run listens calm).handed, ?_, ?_⟩
  · intro before item after split here next
    subst split
    have stands := (fares_run listens fun action member =>
      calm action (List.mem_append_left _ member)).stands
    by_cases finished : (arrivals link client before).any isEnd = true
    · rw [if_pos finished] at stands
      rw [if_pos (.inr finished)]
      exact (here.step_received_of_hasEnded (settled before) stands item).2
    · rw [if_neg finished] at stands
      cases here_alive : here.isAlive with
      | false =>
          rw [if_pos (.inl rfl)]
          exact (step_received_of_not_isAlive here_alive item).trans (settled before)
      | true =>
          rw [if_neg (by simp [finished])]
          have still := stands here_alive
          have taken : next = here.takenIn link generation item :=
            step_of_listens here_alive still item
          cases meaning : intake item with
          | text value => simpa [takenIn, meaning] using taken
          | nothing => simpa [takenIn, meaning] using taken
          | stop reason =>
              have same : next = here.lost link generation reason := by
                simpa [takenIn, meaning] using taken
              have parts := lost_of_listens still reason
              rw [← same] at parts
              exact ⟨same, parts⟩
  · intro finished more item later
    have ended := (fares_run listens calm).stands
    rw [if_pos finished] at ended
    have done : later.dissolve = later := by
      have whole := settled (actions ++ more)
      rwa [run_append] at whole
    exact (later.step_received_of_hasEnded done (hasEnded_run ended more) item).2

/-- Of two texts on either side of a close frame only the first is handed over. -/
theorem link_takes_in_until_close_frame :
    let client := (new .default .standard ⟨0, 0⟩).run [.connect "ws://gateway", .linkOpened 0]
    let actions : List Action :=
      [.received 0 (some (.ping [1])), .start 0, .received 0 (some (.text "first")),
        .received 0 (some (.close none)), .received 0 (some (.text "second"))]
    client.Listens 0 2 ∧ (∀ action ∈ actions, action.reopens = false) ∧
      handedBy 0 client actions = ["first"] := by
  intro client actions
  have listens : client.Listens 0 2 := ⟨⟨"ws://gateway", 0, rfl⟩, rfl⟩
  have calm : ∀ action ∈ actions, action.reopens = false := by decide
  exact ⟨listens, calm,
    (link_takes_in_its_stream .default .standard ⟨0, 0⟩ _ actions listens calm).1⟩

end Client

end GatewayLink
