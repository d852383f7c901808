import GatewayLink.Proofs.Frame.RoundTrip
import GatewayLink.Proofs.Settings.Completing
import GatewayLink.Proofs.Storage.Rewriting
import GatewayLink.Settings.File

/-!
# Configurations that are saved and loaded

The document of a configuration leaves nothing out.  So the text of its file is read as that
configuration, nothing is taken for its default, and the file is left as it is.
-/

namespace GatewayLink

open Json (Document nestingLimit)
open Json.Document (ofJson)

theorem Settings.ofDocument?_ofJson {settings : Settings}
    (portable : ∀ call ∈ settings.refresh.calls, call.params.Portable)
    (shallow : settings.toJson.depth ≤ nestingLimit) :
    ofDocument? (ofJson settings.toJson) = some settings := by
  have reads := ofDocument?_of_abridged (fun call among => (portable call among).canonical)
    settings.abridged_ofJson (by rwa [Document.depth_ofJson])
  rwa [without_nothing] at reads

theorem RefreshPlan.withoutDoubles_toJson {plan : RefreshPlan}
    (portable : ∀ call ∈ plan.calls, call.params.Portable) : plan.toJson.WithoutDoubles := by
  have calls_exact : Json.WithoutDoublesElements (plan.calls.map RepeatedCall.toJson) := by
    generalize plan.calls = calls at portable
    induction calls with
    | nil => trivial
    | cons call rest induction =>
        rw [List.forall_mem_cons] at portable
        exact ⟨⟨trivial, portable.1.without_doubles, trivial⟩, induction portable.2⟩
  exact ⟨trivial, trivial, calls_exact, trivial⟩

namespace Settings

theorem read?_fileText {settings : Settings}
    (portable : ∀ call ∈ settings.refresh.calls, call.params.Portable)
    (shallow : settings.toJson.depth ≤ nestingLimit) : read? settings.fileText = some settings := by
  have exact_numbers : settings.toJson.WithoutDoubles :=
    ⟨trivial, ⟨trivial, trivial, trivial, trivial, trivial⟩, ⟨trivial, trivial, trivial⟩, trivial,
      trivial, RefreshPlan.withoutDoubles_toJson portable, trivial, trivial, trivial⟩
  have document_read := (Document.read?_eq_some_iff settings.fileText _).2
    (Json.spelled_indented settings.toJson exact_numbers)
  rw [read?, document_read, Option.bind_some, ofDocument?_ofJson portable shallow]

/-! ## Files -/

variable {path : FilePath} {tree changed : FileTree} {settings : Settings}

theorem save_eq_ok_iff :
    settings.save path tree = (.ok (), changed) ↔
      tree.writeText settings.fileText path = (.ok (), changed) := by
  rw [save]
  rcases tree.writeText settings.fileText path with ⟨fault | _, after⟩
  · exact ⟨nofun, nofun⟩
  · constructor <;> rintro ⟨⟩ <;> rfl

theorem found_of_content? {text : String}
    (held : FileTree.content? path tree = some text.toUTF8) : found path tree = .text text := by
  rw [FileTree.content?] at held
  split at held
  · rename_i content leads
    obtain rfl : content = text.toUTF8 := Option.some.inj held
    simp only [found, leads, FileTree.fromUTF8?_toUTF8]
  · cases held

theorem load_of_read? {text : String} (held : FileTree.content? path tree = some text.toUTF8)
    (reads : read? text = some settings) : load path tree = (settings, tree) := by
  simp only [load, found_of_content? held, decide, reads, Decision.settings]

/-- Wherever a file can be written a configuration can be saved, and the same one is loaded from
it. -/
theorem saved_settings_are_loaded (settings : Settings)
    (portable : ∀ call ∈ settings.refresh.calls, call.params.Portable)
    (shallow : settings.toJson.depth ≤ nestingLimit) (path : FilePath) (tree : FileTree) :
    (FileTree.IsWritable path tree → ∃ changed, settings.save path tree = (.ok (), changed)) ∧
    ∀ changed, settings.save path tree = (.ok (), changed) →
      load path changed = (settings, changed) ∧
        FileTree.content? path changed = some settings.fileText.toUTF8 := by
  refine ⟨fun writable => ?_, fun changed saved => ?_⟩
  · obtain ⟨changed, written⟩ := writable.write settings.fileText.toUTF8
    exact ⟨changed, save_eq_ok_iff.2 written⟩
  · have held := FileTree.content?_write _ path tree changed (save_eq_ok_iff.1 saved)
    exact ⟨load_of_read? held (read?_fileText portable shallow), held⟩

/-- Extreme numbers and control characters are loaded again from a file in a new directory. -/
theorem unusual_settings_are_loaded :
    let path : FilePath := ⟨[.into "kept", .into "settings.json"], .nothing, 18, 4⟩
    let params : Json := .object [("limit", .number (.integer ⟨-3, by decide⟩)),
      ("text", .string "\"\n\x00")]
    let settings : Settings := { default with
      gatewayUrl := "", minGap := Int64.minValue
      refresh := ⟨true, 18446744073709551615, [⟨"feeds.list", params⟩, ⟨"status", .null⟩]⟩ }
    (∀ call ∈ settings.refresh.calls, call.params.Portable) ∧
      settings.toJson.depth ≤ nestingLimit ∧ FileTree.empty.IsWritable path ∧
      ∃ changed, settings.save path .empty = (.ok (), changed) ∧
        load path changed = (settings, changed) ∧
          FileTree.content? path changed = some settings.fileText.toUTF8 := by
  intro path params settings
  have keys : Json.KeysIncrease [("limit", .number (.integer ⟨-3, by decide⟩)),
      ("text", .string "\"\n\x00")] := List.pairwise_pair.2 (by decide)
  have portable : ∀ call ∈ settings.refresh.calls, call.params.Portable := by
    rw [List.forall_mem_cons, List.forall_mem_singleton]
    exact ⟨⟨⟨keys, trivial, trivial, trivial⟩, trivial, trivial, trivial⟩, trivial, trivial⟩
  have shallow : settings.toJson.depth ≤ nestingLimit := by decide
  have writable : FileTree.empty.IsWritable path := ⟨.empty, _, rfl⟩
  obtain ⟨saves, loads⟩ := saved_settings_are_loaded settings portable shallow path .empty
  obtain ⟨changed, saved⟩ := saves writable
  exact ⟨portable, shallow, writable, changed, saved, loads changed saved⟩

end Settings

end GatewayLink
