import Mathlib.Data.List.Induction
import GatewayLink.Client.Ticker
import GatewayLink.Network.Basic

/-!
# Configurations that are accepted

The rules for an address are applied twice, when a configuration is checked and when a connection is
attempted, and so are those for a log level and for the time between rounds.  Each is the same both
times: what is accepted at first is not refused when it is put to use.
-/

namespace GatewayLink

namespace Url

/-- A text is a sound address with one of the schemes that connections can be made to. -/
def IsTarget (text : String) : Prop :=
  ∃ url, parse text = .ok url ∧ (url.scheme = "ws" ∨ url.scheme = "wss")

theorem isWebSocket_iff {url : Url} :
    url.isWebSocket = true ↔ url.scheme = "ws" ∨ url.scheme = "wss" := by
  simp [isWebSocket]

theorem isTarget_of_parse {text : String} {url : Url} (parsed : parse text = .ok url) :
    IsTarget text ↔ url.isWebSocket = true := by
  simp [IsTarget, parsed, isWebSocket_iff]

theorem not_isTarget_of_parse {text : String} {fault : UrlFault}
    (unsound : parse text = .error fault) : ¬ IsTarget text := by
  simp [IsTarget, unsound]

theorem target_cases (text : String) :
    (IsTarget text ∧ ∃ url, target text = .ok url) ∨
      (¬ IsTarget text ∧ ∃ details, target text = .error (.invalidUrl details)) := by
  cases parsed : parse text with
  | error fault =>
      exact .inr ⟨not_isTarget_of_parse parsed, _, by rw [target, parsed]⟩
  | ok url =>
      rw [isTarget_of_parse parsed]
      cases web : url.isWebSocket with
      | true => exact .inl ⟨rfl, url, by simp [target, parsed, web]⟩
      | false => exact .inr ⟨by simp, by simp [target, parsed, web]⟩

end Url

namespace Network

theorem attempt_of_error {text : String} {cause : TransportError}
    (refused : Url.target text = .error cause) (network : Network) :
    network.attempt text = .error cause := by
  simp [attempt, refused]

theorem attempt_of_ok {text : String} {url : Url} (there : Url.target text = .ok url)
    (network : Network) (details : String) :
    network.attempt text ≠ .error (.invalidUrl details) := by
  cases network <;> simp [attempt, there]

theorem attempt_refuses_iff (network : Network) (text : String) :
    (∃ details, network.attempt text = .error (.invalidUrl details)) ↔ ¬ Url.IsTarget text := by
  rcases Url.target_cases text with ⟨sound, url, there⟩ | ⟨unsound, details, refused⟩
  · simp [attempt_of_ok there network, sound]
  · simp [attempt_of_error refused network, unsound]

end Network

namespace Settings

variable {settings : Settings}

theorem checkUrl_eq_ok_iff : settings.checkUrl = .ok () ↔ Url.IsTarget settings.gatewayUrl := by
  cases parsed : Url.parse settings.gatewayUrl with
  | error fault => simp [checkUrl, parsed, Url.not_isTarget_of_parse parsed]
  | ok url => simp [checkUrl, parsed, Url.isTarget_of_parse parsed]

theorem checkProtocol_eq_ok_iff :
    settings.checkProtocol = .ok () ↔ settings.protocol.min ≤ settings.protocol.max := by
  simp [checkProtocol]

theorem checkRefresh_eq_ok_iff :
    settings.checkRefresh = .ok () ↔
      (settings.refresh.enabled = true → settings.refresh.interval ≠ 0) := by
  simp [checkRefresh]

theorem check_eq_ok_iff :
    settings.check = .ok () ↔
      Url.IsTarget settings.gatewayUrl ∧ settings.protocol.min ≤ settings.protocol.max ∧
        (settings.refresh.enabled = true → settings.refresh.interval ≠ 0) ∧
          ∃ level, LogLevel.parse settings.logLevel = .ok level := by
  rw [← checkUrl_eq_ok_iff, ← checkProtocol_eq_ok_iff, ← checkRefresh_eq_ok_iff, check]
  rcases settings.checkUrl with fault | ⟨⟩
  · simp [bind, Except.bind]
  · rcases settings.checkProtocol with fault | ⟨⟩
    · simp [bind, Except.bind]
    · rcases settings.checkRefresh with fault | ⟨⟩
      · simp [bind, Except.bind]
      · cases LogLevel.parse settings.logLevel <;> simp [bind, Except.bind, pure, Except.pure]

/-- A configuration that is accepted with some address is accepted with just those that can be
connected to. -/
theorem check_with_url_eq_ok_iff
    (sound : ∃ address, { settings with gatewayUrl := address }.check = .ok ()) (text : String) :
    { settings with gatewayUrl := text }.check = .ok () ↔ Url.IsTarget text := by
  obtain ⟨address, accepted⟩ := sound
  obtain ⟨-, others⟩ := check_eq_ok_iff.mp accepted
  exact ⟨fun accepted => (check_eq_ok_iff.mp accepted).1,
    fun target => check_eq_ok_iff.mpr ⟨target, others⟩⟩

theorem exists_fault_iff : (∃ fault, settings.check = .error fault) ↔ settings.check ≠ .ok () := by
  rcases settings.check with fault | ⟨⟩ <;> simp

end Settings

theorem Client.startRefresh_fst_of_ne_zero (client : Client) {interval : Nat}
    (apart : interval ≠ 0) (calls : List RepeatedCall) :
    (client.startRefresh interval calls).1 = .ok () := by
  simp [startRefresh, apart]

namespace Settings

/-- An attempt to connect to an address is refused for it just if a configuration, sound otherwise,
is not accepted with it. -/
theorem accepted_settings_are_not_refused :
    (∀ settings : Settings, (∃ address, { settings with gatewayUrl := address }.check = .ok ()) →
      ∀ text : String,
        (∀ network : Network, (∃ details, network.attempt text = .error (.invalidUrl details)) ↔
          ∃ fault, { settings with gatewayUrl := text }.check = .error fault) ∧
        ((∃ fault, { settings with gatewayUrl := text }.check = .error fault) ↔
          ¬ Url.IsTarget text) ∧
        (¬ Url.IsTarget text →
          ∃ details, ∀ network : Network,
            network.attempt text = .error (.invalidUrl details))) ∧
      ∀ settings : Settings, settings.check = .ok () →
        (∃ level, LogLevel.parse settings.logLevel = .ok level) ∧
          (settings.refresh.enabled = true → ∀ (client : Client) (calls : List RepeatedCall),
            (client.startRefresh settings.refresh.interval.toNat calls).1 = .ok ()) := by
  refine ⟨fun settings sound text => ?_, fun settings accepted => ?_⟩
  · have rejected : (∃ fault, { settings with gatewayUrl := text }.check = .error fault) ↔
        ¬ Url.IsTarget text := by
      rw [exists_fault_iff, ne_eq, check_with_url_eq_ok_iff sound]
    refine ⟨fun network => (network.attempt_refuses_iff text).trans rejected.symm, rejected,
      fun unsound => ?_⟩
    rcases Url.target_cases text with ⟨target, -⟩ | ⟨-, details, refused⟩
    · exact absurd target unsound
    · exact ⟨details, Network.attempt_of_error refused⟩
  · obtain ⟨-, -, apart, level⟩ := check_eq_ok_iff.mp accepted
    refine ⟨level, fun enabled client calls => client.startRefresh_fst_of_ne_zero ?_ calls⟩
    exact fun zero => apart enabled (UInt64.toNat_inj.mp zero)

/-- An address of the web is refused, one in capitals with a blank in front is not, and the standard
plan can be started once it is enabled. -/
theorem standard_settings_are_not_refused :
    let enabled := { default with refresh := { default.refresh with enabled := true } }
    enabled.check = .ok () ∧
      (∃ details, ∀ network : Network,
        network.attempt "http://localhost:8088" = .error (.invalidUrl details)) ∧
      (∀ network : Network, ¬ ∃ details,
        network.attempt " WSS://[::1]:80?x" = .error (.invalidUrl details)) ∧
      ∀ (client : Client) (calls : List RepeatedCall),
        (client.startRefresh 15000 calls).1 = .ok () := by
  intro enabled
  have accepted : enabled.check = .ok () := by decide +kernel
  have accepted_capitals :
      { enabled with gatewayUrl := " WSS://[::1]:80?x" }.check = .ok () := by decide +kernel
  have rejected : { enabled with gatewayUrl := "http://localhost:8088" }.check ≠ .ok () := by
    decide +kernel
  obtain ⟨addresses, others⟩ := accepted_settings_are_not_refused
  have sound : ∃ address, { enabled with gatewayUrl := address }.check = .ok () :=
    ⟨_, accepted_capitals⟩
  refine ⟨accepted, ?_, fun network refused => ?_, (others enabled accepted).2 rfl⟩
  · obtain ⟨-, fails, refusal⟩ := addresses enabled sound "http://localhost:8088"
    exact refusal (fails.mp (exists_fault_iff.mpr rejected))
  · obtain ⟨same, -⟩ := addresses enabled sound " WSS://[::1]:80?x"
    exact exists_fault_iff.mp ((same network).mp refused) accepted_capitals

end Settings

end GatewayLink
