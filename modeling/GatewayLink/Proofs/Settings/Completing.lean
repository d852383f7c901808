import GatewayLink.Proofs.Json.Abridging
import GatewayLink.Proofs.Json.Reading
import GatewayLink.Settings.Basic

/-!
# Configurations that leave fields out

A text may leave out any fields of a configuration, of its refresh plan and of the calls of the
plan but their methods.  It may order the others as it likes and put members of other names between
them.  It is read as the configuration in which each field that is left out has its default.
-/

namespace GatewayLink

open Json (Document nestingLimit)
open Json.Document (Abridges AsIsExcept abridges_ofJson ofJson supplies_object text?_ofJson_string
  truth?_ofJson_bool)
open Json.Fields (required?_of_find?)

/-- The fields that a text leaves out. -/
structure Omission where
  /-- Of the configuration itself. -/
  fields : List String
  /-- Of the refresh plan. -/
  planFields : List String
  /-- The calls, by position, whose parameters are left out. -/
  openCalls : List Nat

/-- Nothing is left out. -/
def Omission.nothing : Omission := ⟨[], [], []⟩

/-! ## Records that are given whole -/

theorem Identity.ofDocument?_ofJson (identity : Identity) :
    ofDocument? (ofJson identity.toJson) = some identity := by
  obtain ⟨fields, fields_eq, found⟩ : (ofJson identity.toJson).Supplies _ :=
    supplies_object (by simp)
  simp only [List.map_cons, List.map_nil, List.forall_mem_cons] at fields_eq found
  obtain ⟨name, kind, platform, version, -⟩ := found
  simp only [ofDocument?, fields_eq, Option.bind_eq_bind, Option.bind_some, Option.pure_def,
    required?_of_find? name (text?_ofJson_string _),
    required?_of_find? kind (text?_ofJson_string _),
    required?_of_find? platform (text?_ofJson_string _),
    required?_of_find? version (text?_ofJson_string _)]

theorem VersionRange.ofDocument?_ofJson (range : VersionRange) :
    ofDocument? (ofJson range.toJson) = some range := by
  obtain ⟨fields, fields_eq, found⟩ : (ofJson range.toJson).Supplies _ :=
    supplies_object (by simp)
  simp only [List.map_cons, List.map_nil, List.forall_mem_cons] at fields_eq found
  obtain ⟨min, max, -⟩ := found
  simp only [ofDocument?, fields_eq, Option.bind_eq_bind, Option.bind_some, Option.pure_def,
    required?_of_find? min (Document.uint32?_ofJson_ofUInt32 _),
    required?_of_find? max (Document.uint32?_ofJson_ofUInt32 _)]

/-! ## Calls -/

namespace RepeatedCall

/-- The call with its parameters left open, or as it is. -/
def without (leftOut : Bool) (call : RepeatedCall) : RepeatedCall :=
  if leftOut then { call with params := .null } else call

/-- A document of the call that leaves the parameters out, or gives them. -/
def Abridged (leftOut : Bool) (call : RepeatedCall) (document : Document) : Prop :=
  Abridges (if leftOut then ["params"] else []) (fun _ value part => part = ofJson value)
    call.toJson document

theorem ofDocument?_of_abridged {leftOut : Bool} {call : RepeatedCall} {document : Document}
    (canonical : call.params.Canonical) (abridged : call.Abridged leftOut document)
    {containers : Nat} (shallow : document.depth + containers ≤ nestingLimit) :
    ofDocument? containers document = some (call.without leftOut) := by
  obtain ⟨given, given_eq, found⟩ := Abridges.fields abridged (by simp)
  simp only [List.map_cons, List.map_nil, List.forall_mem_cons] at given_eq found
  obtain ⟨method, params, -⟩ := found
  obtain ⟨_, method_found, rfl, -⟩ := method.2 (by cases leftOut <;> simp)
  have params_read (part : Document) (fits : part = ofJson call.params ∧
      part.depth < document.depth) : part.valueWithin? (containers + 1) = some call.params := by
    obtain ⟨rfl, shallower⟩ := fits
    rw [Document.valueWithin?, if_pos (by omega), Document.value?_ofJson _ canonical]
  simp only [ofDocument?, given_eq, Option.bind_eq_bind, Option.bind_some, Option.pure_def,
    required?_of_find? method_found (text?_ofJson_string _), params.withDefault? params_read]
  cases leftOut <;> simp [without]

theorem abridged_ofJson (call : RepeatedCall) : call.Abridged false (ofJson call.toJson) :=
  abridges_ofJson fun _ _ => rfl

end RepeatedCall

/-! ## Plans -/

theorem mapM_of_forall₂ {α β γ : Type} {related : α → β → Prop} {read : β → Option γ}
    {result : α → γ} {elements : List α} {parts : List β}
    (each : List.Forall₂ related elements parts)
    (reads : ∀ element ∈ elements, ∀ part ∈ parts, related element part →
      read part = some (result element)) :
    parts.mapM read = some (elements.map result) := by
  induction each with
  | nil => rfl
  | @cons element part elements parts here others ih =>
      have first := reads element (by simp) part (by simp) here
      have rest := ih fun element among part there =>
        reads element (List.mem_cons_of_mem _ among) part (List.mem_cons_of_mem _ there)
      simp [first, rest]

namespace RefreshPlan

variable (omission : Omission) (plan : RefreshPlan)

/-- The plan with the default for each field that is left out, and with calls that are left open. -/
def without : RefreshPlan where
  enabled := if "enabled" ∈ omission.planFields then default.enabled else plan.enabled
  interval := if "interval_ms" ∈ omission.planFields then default.interval else plan.interval
  calls :=
    if "calls" ∈ omission.planFields then default.calls
    else plan.calls.zipIdx.map fun entry => entry.1.without (entry.2 ∈ omission.openCalls)

/-- An array of the calls, some of which leave their parameters out. -/
def CallsAbridged (document : Document) : Prop :=
  ∃ parts, document = .array parts ∧ List.Forall₂
    (fun entry part => entry.1.Abridged (entry.2 ∈ omission.openCalls) part)
    plan.calls.zipIdx parts

/-- A document of the plan that leaves fields out. -/
def Abridged (document : Document) : Prop :=
  Abridges omission.planFields (AsIsExcept "calls" (plan.CallsAbridged omission)) plan.toJson
    document

variable {omission plan}

theorem elements?_of_callsAbridged {document : Document}
    (canonical : ∀ call ∈ plan.calls, call.params.Canonical)
    (abridged : plan.CallsAbridged omission document) {containers : Nat}
    (shallow : document.depth + containers ≤ nestingLimit) :
    document.elements? (RepeatedCall.ofDocument? (containers + 1)) =
      some (plan.calls.zipIdx.map fun entry =>
        entry.1.without (entry.2 ∈ omission.openCalls)) := by
  obtain ⟨parts, rfl, each⟩ := abridged
  refine mapM_of_forall₂ each fun entry among part there abridged => ?_
  refine RepeatedCall.ofDocument?_of_abridged
    (canonical _ (List.fst_mem_of_mem_zipIdx among)) abridged ?_
  have bound := Document.depth_le_of_mem_elements there
  simp only [Document.depth] at shallow
  omega

theorem ofDocument?_of_abridged {document : Document}
    (canonical : ∀ call ∈ plan.calls, call.params.Canonical)
    (abridged : plan.Abridged omission document) {containers : Nat}
    (shallow : document.depth + containers ≤ nestingLimit) :
    ofDocument? containers document = some (plan.without omission) := by
  obtain ⟨given, given_eq, found⟩ := Abridges.fields abridged (by simp)
  simp only [List.map_cons, List.map_nil, List.forall_mem_cons] at given_eq found
  obtain ⟨enabled, interval, calls, -⟩ := found
  have calls_read (part : Document) (fits : AsIsExcept "calls" (plan.CallsAbridged omission) "calls"
      (.array (plan.calls.map RepeatedCall.toJson)) part ∧ part.depth < document.depth) :
      part.elements? (RepeatedCall.ofDocument? (containers + 2)) = _ :=
    elements?_of_callsAbridged canonical (by simpa [AsIsExcept] using fits.1) (by omega)
  simp only [ofDocument?, given_eq, Option.bind_eq_bind, Option.bind_some, Option.pure_def,
    enabled.withDefault?_asIs (by decide) (truth?_ofJson_bool _),
    interval.withDefault?_asIs (by decide) (Document.uint64?_ofJson_ofUInt64 _),
    calls.withDefault? calls_read, without]

theorem without_nothing (plan : RefreshPlan) : plan.without .nothing = plan := by
  simp [without, RepeatedCall.without, Omission.nothing]

theorem abridged_ofJson (plan : RefreshPlan) : plan.Abridged .nothing (ofJson plan.toJson) := by
  have calls : plan.CallsAbridged .nothing
      (ofJson (.array (plan.calls.map RepeatedCall.toJson))) := by
    refine ⟨(plan.calls.zipIdx.map Prod.fst).map fun call => ofJson call.toJson, ?_, ?_⟩
    · rw [ofJson, Document.ofElements_eq_map, List.map_map, List.zipIdx_map_fst]
      rfl
    · rw [List.map_map, List.forall₂_map_right_iff, List.forall₂_same]
      exact fun entry _ => by simpa [Omission.nothing] using entry.1.abridged_ofJson
  exact abridges_ofJson (by simp [AsIsExcept, calls])

end RefreshPlan

/-! ## Configurations -/

namespace Settings

/-- The configuration with the default for each field that is left out. -/
def without (omission : Omission) (settings : Settings) : Settings where
  gatewayUrl := if "gateway_url" ∈ omission.fields then default.gatewayUrl else settings.gatewayUrl
  client := if "client" ∈ omission.fields then default.client else settings.client
  protocol := if "protocol" ∈ omission.fields then default.protocol else settings.protocol
  minGap := if "min_gap_ms" ∈ omission.fields then default.minGap else settings.minGap
  autoConnect :=
    if "auto_connect" ∈ omission.fields then default.autoConnect else settings.autoConnect
  refresh :=
    if "auto_refresh" ∈ omission.fields then default.refresh else settings.refresh.without omission
  logLevel := if "log_level" ∈ omission.fields then default.logLevel else settings.logLevel
  parameterFile :=
    if "preset_file" ∈ omission.fields then default.parameterFile else settings.parameterFile

/-- A document of the configuration that leaves fields out. -/
def Abridged (omission : Omission) (settings : Settings) (document : Document) : Prop :=
  Abridges omission.fields (AsIsExcept "auto_refresh" (settings.refresh.Abridged omission))
    settings.toJson document

theorem ofDocument?_of_abridged {omission : Omission} {settings : Settings} {document : Document}
    (canonical : ∀ call ∈ settings.refresh.calls, call.params.Canonical)
    (abridged : settings.Abridged omission document) (shallow : document.depth ≤ nestingLimit) :
    ofDocument? document = some (settings.without omission) := by
  obtain ⟨given, given_eq, found⟩ := Abridges.fields abridged (by simp)
  simp only [List.map_cons, List.map_nil, List.forall_mem_cons] at given_eq found
  obtain ⟨url, client, protocol, gap, connect, refresh, level, file, -⟩ := found
  have refresh_read (part : Document) (fits : AsIsExcept "auto_refresh"
      (settings.refresh.Abridged omission) "auto_refresh" settings.refresh.toJson part ∧
        part.depth < document.depth) : RefreshPlan.ofDocument? 1 part = _ :=
    RefreshPlan.ofDocument?_of_abridged canonical (by simpa [AsIsExcept] using fits.1) (by omega)
  simp only [ofDocument?, fieldNames, given_eq, Option.bind_eq_bind, Option.bind_some,
    Option.pure_def, url.withDefault?_asIs (by decide) (text?_ofJson_string _),
    client.withDefault?_asIs (by decide) (Identity.ofDocument?_ofJson _),
    protocol.withDefault?_asIs (by decide) (VersionRange.ofDocument?_ofJson _),
    gap.withDefault?_asIs (by decide) ((Document.int64?_ofJson_eq_some_iff _ _).2 rfl),
    connect.withDefault?_asIs (by decide) (truth?_ofJson_bool _),
    refresh.withDefault? refresh_read,
    level.withDefault?_asIs (by decide) (text?_ofJson_string _),
    file.withDefault?_asIs (by decide) (text?_ofJson_string _), without]

theorem without_nothing (settings : Settings) : settings.without .nothing = settings := by
  rw [without, RefreshPlan.without_nothing]
  simp [Omission.nothing]

theorem abridged_ofJson (settings : Settings) :
    settings.Abridged .nothing (ofJson settings.toJson) :=
  abridges_ofJson (by simp [AsIsExcept, settings.refresh.abridged_ofJson])

/-- A text that leaves out fields, in whatever order it gives the others and whatever else it has
between them, is read with their defaults. -/
theorem left_out_fields_are_default (omission : Omission) {settings : Settings}
    {document : Document} {text : String}
    (canonical : ∀ call ∈ settings.refresh.calls, call.params.Canonical)
    (abridged : settings.Abridged omission document) (shallow : document.depth ≤ nestingLimit)
    (spelled : Json.Spelled document.tokens text.toList) :
    read? text = some (settings.without omission) := by
  rw [read?, (Document.read?_eq_some_iff text document).2 spelled, Option.bind_some,
    ofDocument?_of_abridged canonical abridged shallow]

/-- A text with the log level, a member of another name, and a plan of one call without its
parameters. -/
theorem part_of_settings_is_completed :
    let plan : RefreshPlan := ⟨true, 7, [⟨"ping", .bool true⟩]⟩
    let settings := { default with refresh := plan, logLevel := "debug" }
    let omission : Omission :=
      ⟨["gateway_url", "client", "protocol", "min_gap_ms", "auto_connect", "preset_file"],
        ["enabled", "interval_ms"], [0]⟩
    let text := "\x7b\"log_level\":\"debug\",\"note\":[[]]," ++
      "\"auto_refresh\":\x7b\"calls\":[\x7b\"method\":\"ping\"\x7d]\x7d\x7d"
    settings.without omission =
        { default with refresh := ⟨false, 15000, [⟨"ping", .null⟩]⟩, logLevel := "debug" } ∧
      read? text = some (settings.without omission) := by
  intro plan settings omission text
  let call := Document.keyed [("method", .string (some "ping"))]
  let refresh := Document.keyed [("calls", .array [call])]
  let document := Document.keyed [("log_level", .string (some "debug")),
    ("note", .array [.array []]), ("auto_refresh", refresh)]
  have call_abridged : RepeatedCall.Abridged true ⟨"ping", .bool true⟩ call := by
    have kept : List.Forall₂ (fun field member => field.1 = member.1 ∧ member.2 = ofJson field.2)
        (List.filter (fun field => field.1 ∉ ["params"])
          [("method", .string "ping"), ("params", .bool true)])
        [("method", .string (some "ping"))] := by
      simp [ofJson]
    exact .object kept (by simp) (.refl _)
  have refresh_abridged : plan.Abridged omission refresh := by
    have calls : plan.CallsAbridged omission (.array [call]) :=
      ⟨[call], rfl, .cons call_abridged .nil⟩
    have kept : List.Forall₂ (fun field member => field.1 = member.1 ∧
          AsIsExcept "calls" (plan.CallsAbridged omission) field.1 field.2 member.2)
        (List.filter (fun field => field.1 ∉ omission.planFields)
          [("enabled", .bool true), ("interval_ms", Json.ofUInt64 7),
            ("calls", .array (plan.calls.map RepeatedCall.toJson))])
        [("calls", .array [call])] := by
      simp [AsIsExcept, calls, omission]
    exact .object kept (by simp) (.refl _)
  have abridged : settings.Abridged omission document := by
    have kept : List.Forall₂ (fun field member => field.1 = member.1 ∧
          AsIsExcept "auto_refresh" (plan.Abridged omission) field.1 field.2 member.2)
        (List.filter (fun field => field.1 ∉ omission.fields)
          [("gateway_url", .string settings.gatewayUrl), ("client", settings.client.toJson),
            ("protocol", settings.protocol.toJson), ("min_gap_ms", Json.ofInt64 settings.minGap),
            ("auto_connect", .bool settings.autoConnect), ("auto_refresh", plan.toJson),
            ("log_level", .string "debug"), ("preset_file", .string settings.parameterFile)])
        [("auto_refresh", refresh), ("log_level", .string (some "debug"))] := by
      simp [ofJson, AsIsExcept, refresh_abridged, omission]
    exact .object kept (by simp) (List.perm_append_singleton _ [_, _])
  have spelled : Json.Spelled document.tokens text.toList :=
    Json.spelled_of_tokens? (by decide +kernel)
  have canonical : ∀ call ∈ settings.refresh.calls, call.params.Canonical := by
    simp [settings, plan, Json.Canonical]
  exact ⟨by decide +kernel,
    left_out_fields_are_default omission canonical abridged (by decide) spelled⟩

end Settings

end GatewayLink
