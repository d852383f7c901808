import GatewayLink.Proofs.Storage.Rewriting

/-!
# Writes that fail

The directories that a write has made are found by the next one.  So a write that fails makes
nothing more when it is tried again, and it fails again; the file that its path leads to, if there
is one, is as it was.
-/

namespace GatewayLink

namespace FileTree

variable {path : FilePath} {tree changed made : FileTree} {way : Way}

/-! ## Directories that stay -/

/-- Every directory of one tree is a directory of the other. -/
def Keeps (before after : FileTree) : Prop :=
  ∀ place, before.hasDirectory place → after.hasDirectory place

theorem Keeps.refl (tree : FileTree) : Keeps tree tree :=
  fun _ within => within

theorem Keeps.trans (first : Keeps tree made) (second : Keeps made changed) : Keeps tree changed :=
  fun place within => second place (first place within)

@[simp]
theorem hasDirectory_nil : tree.hasDirectory [] = tree.isDirectory := by
  simp [hasDirectory, find?]

@[simp]
theorem hasDirectory_cons_iff (entries : Table FileTree) (name : String) (rest : Place) :
    (directory entries).hasDirectory (name :: rest) ↔
      ∃ inner, entries.get? name = some inner ∧ inner.hasDirectory rest := by
  cases found : entries.get? name <;> simp [hasDirectory, find?, found]

@[simp]
theorem hasDirectory_file (content : ByteArray) (place : Place) :
    (file content).hasDirectory place = false := by
  cases place <;> simp [hasDirectory, find?, isDirectory]

/-- A new directory takes no other away. -/
theorem keeps_put_empty {place : Place} {name : String}
    (vacant : tree.find? (place ++ [name]) = none) :
    Keeps tree (tree.put (place ++ [name]) empty) := by
  induction place generalizing tree with
  | nil =>
      intro other within
      cases tree with
      | file content => simp at within
      | directory entries =>
          have missing : entries.get? name = none := by simpa [find?] using vacant
          cases other with
          | nil => simp [put, isDirectory]
          | cons head tail =>
              have different : head ≠ name := by
                rintro rfl
                simp [missing] at within
              simpa [put, different] using within
  | cons first rest induction =>
      intro other within
      cases tree with
      | file content => simp at within
      | directory entries =>
          cases other with
          | nil => simp [put, isDirectory]
          | cons head tail =>
              by_cases same : head = first
              · subst same
                obtain ⟨inner, found, inside⟩ := (hasDirectory_cons_iff ..).mp within
                have free : inner.find? (rest ++ [name]) = none := by
                  simpa [find?, found] using vacant
                simpa [put, found] using induction free tail inside
              · simpa [put, same] using within

/-- The directory that holds a directory. -/
theorem hasDirectory_dropLast {place : Place} (within : tree.hasDirectory place) :
    tree.hasDirectory place.dropLast := by
  induction place generalizing tree with
  | nil => exact within
  | cons first rest induction =>
      cases tree with
      | file content => simp at within
      | directory entries =>
          obtain ⟨inner, found, inside⟩ := (hasDirectory_cons_iff ..).mp within
          cases rest with
          | nil => simp [isDirectory]
          | cons second others => simpa [found] using induction inside

/-! ## Directories that are made again -/

/-- Steps lead to a directory. -/
def Leads (tree : FileTree) (place : Place) (steps : List PathStep) : Prop :=
  ∃ next, tree.walk place steps = .ok next ∧ tree.hasDirectory next

theorem follow_of_hasDirectory {place : Place} {step : PathStep}
    (within : tree.hasDirectory place) (short : step.isTooLong = false)
    (there : tree.hasDirectory (step.target place)) :
    tree.follow place step = .ok (step.target place) := by
  refine (follow_eq_ok_iff ..).mpr ⟨within, short, ?_, rfl⟩
  cases found : tree.find? (step.target place) with
  | none => simp [hasDirectory, found] at there
  | some node => rfl

theorem follow_eq_missing_iff {place : Place} {step : PathStep} :
    tree.follow place step = .error .missing ↔
      tree.hasDirectory place ∧ step.isTooLong = false ∧
        tree.find? (step.target place) = none := by
  cases within : tree.hasDirectory place <;> cases long : step.isTooLong <;>
    cases found : tree.find? (step.target place) <;> simp [follow, within, long, found]

/-- Only a name leads to nothing: above a directory there is one. -/
theorem exists_name_of_missing {place : Place} {step : PathStep}
    (missing : tree.follow place step = .error .missing) :
    ∃ name, step = .into name ∧ tree.hasDirectory place ∧
      tree.find? (place ++ [name]) = none := by
  obtain ⟨within, -, vacant⟩ := follow_eq_missing_iff.mp missing
  cases step with
  | into name => exact ⟨name, rfl, within, vacant⟩
  | up =>
      have above := hasDirectory_dropLast within
      have nothing : tree.find? place.dropLast = none := vacant
      simp [hasDirectory, nothing] at above

/-- Where the steps lead to a directory, none is made. -/
theorem makeAlong_of_leads {place : Place} {steps : List PathStep} (leads : tree.Leads place steps)
    (fresh : Bool) : tree.makeAlong fresh place steps = (.ok (), tree) := by
  induction steps generalizing place fresh with
  | nil => rfl
  | cons step rest induction =>
      obtain ⟨last, reached, there⟩ := leads
      rw [walk] at reached
      split at reached
      · cases reached
      · rename_i next followed
        have within : tree.hasDirectory next := by
          cases rest with
          | nil =>
              obtain rfl : next = last := Except.ok.inj reached
              exact there
          | cons second others =>
              rw [walk] at reached
              split at reached
              · cases reached
              · rename_i followed_on
                exact ((follow_eq_ok_iff ..).mp followed_on).1
        simp [makeAlong, followed, within, induction ⟨last, reached, there⟩]

theorem keeps_makeAlong (fresh : Bool) (place : Place) (steps : List PathStep) (tree : FileTree) :
    Keeps tree (tree.makeAlong fresh place steps).2 := by
  induction steps generalizing fresh place tree with
  | nil => exact .refl tree
  | cons step rest induction =>
      unfold makeAlong
      split
      · split
        · exact induction _ _ _
        · exact .refl tree
      · rename_i missing
        obtain ⟨name, rfl, -, vacant⟩ := exists_name_of_missing missing
        exact (keeps_put_empty vacant).trans (induction _ _ _)
      · exact .refl tree

/-- The second time the directories are there as far as they could be made. -/
theorem makeAlong_again (fresh again : Bool) (place : Place) (steps : List PathStep)
    (tree : FileTree) :
    ∃ result, (tree.makeAlong fresh place steps).2.makeAlong again place steps =
        (result, (tree.makeAlong fresh place steps).2) ∧
      (result = .ok () ↔ (tree.makeAlong fresh place steps).1 = .ok ()) := by
  induction steps generalizing fresh again place tree with
  | nil => exact ⟨.ok (), rfl, Iff.rfl⟩
  | cons step rest induction =>
      cases followed : tree.follow place step with
      | ok next =>
          obtain ⟨within, short, -, rfl⟩ := (follow_eq_ok_iff ..).mp followed
          by_cases there : tree.hasDirectory (step.target place)
          · have kept := keeps_makeAlong fresh (step.target place) rest tree
            have followed_again :=
              follow_of_hasDirectory (kept _ within) short (kept _ there)
            simpa [makeAlong, followed, there, followed_again, kept _ there] using
              induction fresh again (step.target place) tree
          · simp [makeAlong, followed, there]
      | error fault =>
          cases fault with
          | missing =>
              obtain ⟨-, short, -⟩ := follow_eq_missing_iff.mp followed
              obtain ⟨name, rfl, within, vacant⟩ := exists_name_of_missing followed
              have kept := (keeps_put_empty vacant).trans
                (keeps_makeAlong true (place ++ [name]) rest (tree.put (place ++ [name]) empty))
              have there : (tree.put (place ++ [name]) empty).hasDirectory (place ++ [name]) := by
                rw [hasDirectory, find?_put empty tree place name within]
                rfl
              have there_still := keeps_makeAlong true (place ++ [name]) rest _ _ there
              have followed_again : follow _ place (.into name) = .ok (place ++ [name]) :=
                follow_of_hasDirectory (kept _ within) short there_still
              simpa [makeAlong, followed, PathStep.target, followed_again, there_still] using
                induction true again (place ++ [name]) (tree.put (place ++ [name]) empty)
          | occupied | notDirectory | isDirectory | nameTooLong | nulInName =>
              simp [makeAlong, followed]

theorem locate_of_fault?_eq_none (faultless : way.fault? = none) :
    tree.locate way = tree.walk [] way.steps := by
  simp [locate, faultless]

theorem ensureDirectory_of_leads (faultless : way.fault? = none)
    (leads : tree.Leads [] way.steps) : tree.ensureDirectory way = (.ok (), tree) := by
  obtain ⟨place, reached, -⟩ := leads
  exact ensureDirectory_of_located ((locate_of_fault?_eq_none faultless).trans reached)

/-- A directory that has been made is there. -/
theorem ensureDirectory_again (ensured : tree.ensureDirectory way = (.ok (), made)) :
    made.ensureDirectory way = (.ok (), made) := by
  have faultless := fault?_of_ensureDirectory ensured
  cases located : tree.locate way with
  | ok place =>
      obtain ⟨-, rfl⟩ := Prod.mk.inj ((ensureDirectory_of_located located).symm.trans ensured)
      exact ensured
  | error fault =>
      have along : tree.makeAlong false [] way.steps = (.ok (), made) := by
        simpa [ensureDirectory, located, makeDirectory, faultless] using ensured
      obtain ⟨result, again, same⟩ := makeAlong_again false false [] way.steps tree
      simp only [along, iff_true] at again same
      subst same
      cases located_made : made.locate way with
      | ok place => exact ensureDirectory_of_located located_made
      | error fault => simpa [ensureDirectory, located_made, makeDirectory, faultless] using again

/-- Where the directories of a path could not be made, its way is at fault and nothing was done, or
what was made does not lead to the directory. -/
theorem of_ensureDirectory_error {fault : FileFault}
    (failed : tree.ensureDirectory way = (.error fault, made)) :
    (way.fault?.isSome ∧ made = tree) ∨
      (way.fault? = none ∧ ¬ made.Leads [] way.steps ∧
        ∃ result, made.makeAlong false [] way.steps = (result, made) ∧ result ≠ .ok ()) := by
  cases faulty : way.fault? with
  | some reason =>
      have refused : tree.ensureDirectory way = (.error reason, tree) := by
        simp [ensureDirectory, locate, makeDirectory, faulty]
      exact .inl ⟨rfl, (Prod.mk.inj (failed.symm.trans refused)).2⟩
  | none =>
      refine .inr ⟨rfl, ?_⟩
      have along : tree.makeAlong false [] way.steps = (.error fault, made) := by
        unfold ensureDirectory at failed
        split at failed
        · cases failed
        · simpa [makeDirectory, faulty] using failed
      obtain ⟨result, again, same⟩ := makeAlong_again false false [] way.steps tree
      simp only [along, reduceCtorEq, iff_false] at again same
      refine ⟨fun leads => same ?_, result, again, same⟩
      exact (Prod.mk.inj (again.symm.trans (makeAlong_of_leads leads false))).1

/-! ## Files that are not written -/

theorem leads_of_writePlace {place : Place} (opened : writePlace path tree = .ok place) :
    tree.Leads [] path.parent.steps := by
  obtain ⟨-, -, parent, name, -, reached, entry⟩ := writePlace_eq_ok_iff.mp opened
  exact ⟨parent, reached, ((entryPlace_eq_ok_iff ..).mp entry).1⟩

/-- A write fails where the directories cannot be made, and where they are and there is no place for
the file. -/
theorem write_eq_error_iff {content : ByteArray} {fault : FileFault} :
    tree.write content path = (.error fault, changed) ↔
      tree.ensureDirectory path.parent = (.error fault, changed) ∨
        (tree.ensureDirectory path.parent = (.ok (), changed) ∧
          writePlace path changed = .error fault) := by
  rcases ensured : tree.ensureDirectory path.parent with ⟨reason | ⟨⟩, made⟩
  · simp [write, ensured]
  · simp only [write, ensured, writeWithin, Prod.mk.injEq, reduceCtorEq, false_and, true_and,
      false_or]
    constructor
    · intro failed
      split at failed
      · cases failed
      · rename_i reason closed
        cases failed
        exact ⟨rfl, closed⟩
    · rintro ⟨rfl, closed⟩
      rw [closed]

/-- A write that has failed fails again, whatever is written, and does nothing more. -/
theorem write_error_again {content : ByteArray} {fault : FileFault}
    (failed : tree.write content path = (.error fault, changed)) (other : ByteArray) :
    ∃ reason, changed.write other path = (.error reason, changed) := by
  rcases write_eq_error_iff.mp failed with ensured | ⟨ensured, closed⟩
  · rcases of_ensureDirectory_error ensured with ⟨-, rfl⟩ | ⟨faultless, astray, result, again, bad⟩
    · exact ⟨fault, write_eq_error_iff.mpr (.inl ensured)⟩
    · cases located : changed.locate path.parent with
      | error reason =>
          have remade : changed.ensureDirectory path.parent = (result, changed) := by
            simp [ensureDirectory, located, makeDirectory, faultless, again]
          cases result with
          | error reason => exact ⟨reason, write_eq_error_iff.mpr (.inl remade)⟩
          | ok => exact absurd rfl bad
      | ok place =>
          -- A file stands in the place of the directory.
          cases opened : writePlace path changed with
          | ok place => exact absurd (leads_of_writePlace opened) astray
          | error reason =>
              exact ⟨reason, write_eq_error_iff.mpr
                (.inr ⟨ensureDirectory_of_located located, opened⟩)⟩
  · exact ⟨fault, write_eq_error_iff.mpr (.inr ⟨ensureDirectory_again ensured, closed⟩)⟩

theorem content?_eq_some_iff {bytes : ByteArray} :
    content? path tree = some bytes ↔
      path.way.fault? = none ∧ path.ending = .nothing ∧
        ∃ place, tree.walk [] path.steps = .ok place ∧ tree.find? place = some (.file bytes) := by
  cases faulty : path.way.fault? with
  | some fault => simp [content?, lookUp?, locate, faulty]
  | none =>
      have located : tree.locate path.way = _ := locate_of_fault?_eq_none faulty
      cases reached : tree.walk [] path.steps with
      | error fault =>
          have nowhere : tree.locate path.way = .error fault := located.trans reached
          simp [content?, lookUp?, nowhere]
      | ok place =>
          have there : tree.locate path.way = .ok place := located.trans reached
          rcases found : tree.find? place with _ | ⟨content⟩ | ⟨entries⟩
          · simp [content?, lookUp?, there, found]
          · by_cases plain : path.ending = .nothing <;>
              simp [content?, lookUp?, there, found, plain, isDirectory, Option.filter]
          · simp [content?, lookUp?, there, found, isDirectory, Option.filter]

/-- Where a file is read under the last name of a path, one can be written. -/
theorem isWritable_of_content? {bytes : ByteArray} (held : content? path tree = some bytes)
    (named : path.steps ≠ []) (reachable : path.parent.fault? = none) : IsWritable path tree := by
  obtain ⟨faultless, plain, place, reached, found⟩ := content?_eq_some_iff.mp held
  obtain ⟨before, last, steps_eq⟩ := List.eq_nil_or_concat path.steps |>.resolve_left named
  have no_directory : ¬ tree.hasDirectory place := by simp [hasDirectory, found, isDirectory]
  have parent_eq : path.parent.steps = before := by simp [FilePath.parent, steps_eq]
  rw [steps_eq, List.concat_eq_append, walk_append] at reached
  split at reached
  · cases reached
  · rename_i parent entered
    have followed : tree.follow parent last = .ok place := by
      rw [walk] at reached
      split at reached
      · cases reached
      · rename_i next followed
        rw [followed, ← reached, walk]
    obtain ⟨within, short, -, rfl⟩ := (follow_eq_ok_iff ..).mp followed
    cases last with
    | up => exact absurd (hasDirectory_dropLast within) no_directory
    | into name =>
        have entry : tree.entryPlace parent name = .ok (parent ++ [name]) :=
          (entryPlace_eq_ok_iff ..).mpr
            ⟨within, short, Bool.eq_false_iff.mpr no_directory, rfl⟩
        have opened : writePlace path tree = .ok (parent ++ [name]) :=
          writePlace_eq_ok_iff.mpr
            ⟨faultless, plain, parent, name, by simp [steps_eq], parent_eq ▸ entered, entry⟩
        have ensured := ensureDirectory_of_leads reachable (leads_of_writePlace opened)
        exact ⟨bytes, _, write_eq_ok_iff.mpr ⟨tree, _, ensured, opened, rfl⟩⟩

/-- A write that fails leaves the file that its path leads to as it was. -/
theorem content?_of_write_error {content : ByteArray} {fault : FileFault}
    (failed : tree.write content path = (.error fault, changed)) :
    content? path changed = content? path tree := by
  by_cases same : changed = tree
  · rw [same]
  · -- Something was made, so the path has a name and its directory is not out of reach.
    have unchanged (ensured : tree.ensureDirectory path.parent = (.ok (), tree)) : False := by
      rcases write_eq_error_iff.mp failed with other | ⟨other, -⟩ <;>
        cases ensured.symm.trans other
      exact same rfl
    have reachable : path.parent.fault? = none := by
      rcases write_eq_error_iff.mp failed with ensured | ⟨ensured, -⟩
      · rcases of_ensureDirectory_error ensured with ⟨-, rfl⟩ | ⟨reachable, -⟩
        · exact absurd rfl same
        · exact reachable
      · exact fault?_of_ensureDirectory ensured
    have named : path.steps ≠ [] := by
      intro nameless
      have located : tree.locate path.parent = .ok [] := by
        have no_steps : path.parent.steps = [] := by simp [FilePath.parent, nameless]
        rw [locate_of_fault?_eq_none reachable, no_steps, walk]
      exact unchanged (ensureDirectory_of_located located)
    have unread {files : FileTree} {reason : FileFault} {after : FileTree}
        (refused : files.write content path = (.error reason, after)) :
        content? path files = none := by
      refine Option.eq_none_iff_forall_ne_some.mpr fun bytes held => ?_
      obtain ⟨_, written⟩ := (isWritable_of_content? held named reachable).write content
      cases written.symm.trans refused
    obtain ⟨reason, again⟩ := write_error_again failed content
    rw [unread again, unread failed]

end FileTree

end GatewayLink
