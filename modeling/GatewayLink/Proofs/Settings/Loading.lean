import GatewayLink.Proofs.Settings.Saving
import GatewayLink.Proofs.Storage.Retrying

/-!
# What loading a configuration leaves behind

Loading writes the default configuration where there is no file and where the file is a text that is
no configuration; any other file and a directory stay as they are.  What has been loaded once is
loaded again, and nothing is written then, also where the default could not be written.
-/

namespace GatewayLink

theorem fromUTF8?_eq_some_iff {bytes : ByteArray} {text : String} :
    String.fromUTF8? bytes = some text ↔ bytes = text.toUTF8 := by
  constructor
  · intro reads
    rw [String.fromUTF8?] at reads
    split at reads
    · obtain rfl := Option.some.inj reads
      rfl
    · cases reads
  · rintro rfl
    exact FileTree.fromUTF8?_toUTF8 text

namespace Settings

variable {path : FilePath} {tree changed : FileTree}

/-! ## What is found -/

theorem found_eq_absent_iff : found path tree = .absent ↔ tree.lookUp? path = none := by
  rcases leads : tree.lookUp? path with _ | ⟨content⟩ | ⟨entries⟩
  · simp [found, leads]
  · cases reads : String.fromUTF8? content <;> simp [found, leads, reads]
  · simp [found, leads]

theorem found_eq_text_iff {text : String} :
    found path tree = .text text ↔ tree.content? path = some text.toUTF8 := by
  rcases leads : tree.lookUp? path with _ | ⟨content⟩ | ⟨entries⟩
  · simp [found, FileTree.content?, leads]
  · rw [FileTree.content?, leads, Option.some.injEq, ← fromUTF8?_eq_some_iff]
    cases reads : String.fromUTF8? content <;> simp [found, leads, reads]
  · simp [found, FileTree.content?, leads]

theorem found_of_bytes {bytes : ByteArray} (held : tree.content? path = some bytes)
    (no_text : String.fromUTF8? bytes = none) : found path tree = .unreadable := by
  rcases leads : tree.lookUp? path with _ | ⟨content⟩ | ⟨entries⟩
  · simp [FileTree.content?, leads] at held
  · obtain rfl : content = bytes := by simpa [FileTree.content?, leads] using held
    simp [found, leads, no_text]
  · simp [FileTree.content?, leads] at held

/-- There is nothing at a path, or a file with a text that is no configuration. -/
inductive Lacking (path : FilePath) (tree : FileTree) : Prop
  | absent (nothing : tree.lookUp? path = none)
  | faulty {text : String} (held : tree.content? path = some text.toUTF8)
      (unread : read? text = none)

theorem decide_eq_replace_iff : decide (found path tree) = .replace ↔ Lacking path tree := by
  constructor
  · intro decided
    cases seen : found path tree with
    | absent => exact .absent (found_eq_absent_iff.mp seen)
    | unreadable => simp [decide, seen] at decided
    | text text =>
        cases reads : read? text with
        | none => exact .faulty (found_eq_text_iff.mp seen) reads
        | some settings => simp [decide, seen, reads] at decided
  · rintro (nothing | ⟨held, unread⟩)
    · simp [decide, found_eq_absent_iff.mpr nothing]
    · simp [decide, found_eq_text_iff.mpr held, unread]

/-! ## What is done -/

theorem load_of_lacking (lacking : Lacking path tree) :
    load path tree = (default, (default.save path tree).2) := by
  simp [load, decide_eq_replace_iff.mpr lacking, Decision.settings]

theorem load_snd_of_not_lacking (kept : ¬ Lacking path tree) : (load path tree).2 = tree := by
  rw [← decide_eq_replace_iff] at kept
  cases decided : decide (found path tree) with
  | replace => exact absurd decided kept
  | use settings => simp [load, decided]
  | leave => simp [load, decided]

theorem load_of_unreadable (seen : found path tree = .unreadable) :
    load path tree = (default, tree) := by
  simp [load, seen, decide, Decision.settings]

theorem load_fst_of_unread (unread : ∀ text : String, tree.content? path = some text.toUTF8 →
    read? text = none) : (load path tree).1 = default := by
  cases seen : found path tree with
  | absent | unreadable => simp [load, seen, decide, Decision.settings]
  | text text =>
      have no_settings := unread text (found_eq_text_iff.mp seen)
      simp [load, seen, decide, no_settings, Decision.settings]

theorem Lacking.unread (lacking : Lacking path tree) (text : String)
    (held : tree.content? path = some text.toUTF8) : read? text = none := by
  cases lacking with
  | absent nothing => simp [FileTree.content?, nothing] at held
  | faulty other unread =>
      have same := found_eq_text_iff.mpr held
      rw [found_eq_text_iff.mpr other] at same
      exact Found.text.inj same ▸ unread

theorem save_eq_error_iff {settings : Settings} :
    (∃ fault, settings.save path tree = (.error fault, changed)) ↔
      ∃ fault, tree.writeText settings.fileText path = (.error fault, changed) := by
  rw [save]
  rcases tree.writeText settings.fileText path with ⟨fault | _, after⟩ <;> simp [Except.mapError]

theorem read?_fileText_default : read? default.fileText = some default :=
  read?_fileText (by simp [default, RefreshPlan.default]) (by decide)

theorem load_of_save_default (saved : default.save path tree = (.ok (), changed)) :
    load path changed = (default, changed) ∧
      changed.content? path = some default.fileText.toUTF8 := by
  have held := FileTree.content?_write _ path tree changed (save_eq_ok_iff.mp saved)
  exact ⟨load_of_read? held read?_fileText_default, held⟩

/-- Where the default could not be written, it is used again and nothing is written. -/
theorem load_of_save_default_error {fault : ClientError} (lacking : Lacking path tree)
    (failed : default.save path tree = (.error fault, changed)) :
    load path changed = (default, changed) ∧ changed.content? path = tree.content? path := by
  obtain ⟨reason, refused⟩ := save_eq_error_iff.mp ⟨fault, failed⟩
  have same := FileTree.content?_of_write_error refused
  have default_used : (load path changed).1 = default :=
    load_fst_of_unread fun text held => lacking.unread text (same ▸ held)
  refine ⟨Prod.ext default_used ?_, same⟩
  by_cases lacking_still : Lacking path changed
  · obtain ⟨reason, again⟩ := FileTree.write_error_again refused default.fileText.toUTF8
    obtain ⟨_, failed_again⟩ := save_eq_error_iff.mpr ⟨reason, again⟩
    rw [load_of_lacking lacking_still, failed_again]
  · exact load_snd_of_not_lacking lacking_still

theorem load_load (path : FilePath) (tree : FileTree) :
    load path (load path tree).2 = load path tree := by
  by_cases lacking : Lacking path tree
  · rw [load_of_lacking lacking]
    rcases saved : default.save path tree with ⟨fault | ⟨⟩, changed⟩
    · exact (load_of_save_default_error lacking saved).1
    · exact (load_of_save_default saved).1
  · rw [load_snd_of_not_lacking lacking]

/-- A file is written only where there is nothing or a text that is no configuration, and then it
holds the default. -/
theorem only_lacking_settings_are_written (path : FilePath) (tree : FileTree) :
    (¬ Lacking path tree → (load path tree).2 = tree) ∧
    (Lacking path tree → (load path tree).1 = default ∧
      (∀ changed, default.save path tree = (.ok (), changed) →
        (load path tree).2 = changed ∧
          ∃ text : String, changed.content? path = some text.toUTF8 ∧
            read? text = some (load path tree).1) ∧
      ∀ fault changed, default.save path tree = (.error fault, changed) →
        (load path tree).2 = changed ∧ changed.content? path = tree.content? path) ∧
    (∀ (text : String) (settings : Settings), tree.content? path = some text.toUTF8 →
      read? text = some settings → load path tree = (settings, tree)) ∧
    (∀ bytes, tree.content? path = some bytes → (∀ text : String, bytes ≠ text.toUTF8) →
      load path tree = (default, tree)) ∧
    (∀ entries, tree.lookUp? path = some (.directory entries) → load path tree = (default, tree)) ∧
    load path (load path tree).2 = load path tree := by
  refine ⟨load_snd_of_not_lacking, fun lacking => ?_, fun text settings held reads => ?_,
    fun bytes held no_text => ?_, fun entries leads => ?_, load_load path tree⟩
  · rw [load_of_lacking lacking]
    refine ⟨rfl, fun changed saved => ?_, fun fault changed failed => ?_⟩
    · exact ⟨by rw [saved],
        _, (load_of_save_default saved).2, read?_fileText_default⟩
    · exact ⟨by rw [failed], (load_of_save_default_error lacking failed).2⟩
  · exact load_of_read? held reads
  · refine load_of_unreadable (found_of_bytes held (Option.eq_none_iff_forall_ne_some.mpr ?_))
    exact fun text reads => no_text text (fromUTF8?_eq_some_iff.mp reads)
  · exact load_of_unreadable (by simp [found, leads])

/-- A file whose text breaks off is replaced by the default, which is loaded again. -/
theorem broken_settings_are_replaced :
    let path : FilePath := ⟨[.into "settings.json"], .nothing, 13, 0⟩
    let tree := FileTree.directory ⟨[("settings.json", .file "\x7b not json".toUTF8)]⟩
    Lacking path tree ∧ ∃ changed, default.save path tree = (.ok (), changed) ∧
      load path tree = (default, changed) ∧ load path changed = (default, changed) := by
  intro path tree
  have unread : read? "\x7b not json" = none := by decide
  have lacking : Lacking path tree := .faulty rfl unread
  have writable : tree.IsWritable path := ⟨.empty, _, rfl⟩
  obtain ⟨changed, written⟩ := writable.write default.fileText.toUTF8
  have saved : default.save path tree = (.ok (), changed) := save_eq_ok_iff.mpr written
  obtain ⟨-, replaces, -, -, -, again⟩ := only_lacking_settings_are_written path tree
  obtain ⟨is_default, writes, -⟩ := replaces lacking
  have loads : load path tree = (default, changed) :=
    Prod.ext is_default (writes changed saved).1
  rw [loads] at again
  exact ⟨lacking, changed, saved, loads, again⟩

end Settings

end GatewayLink
