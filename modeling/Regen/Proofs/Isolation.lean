import Regen.Proofs.Routes
import Regen.Workspace.Regeneration

/-! # Files are regenerated on their own

Work on a file looks at that file alone and writes nothing but that file, whatever the codecs are. The files that
discovery finds stand at different places, and each is listed once, by what became of it. Places may hold names of one
file, and then work at one of them rewrites what stands at the others. Apart from that the order does not matter: a
file ends as if it had been the only one, and one to which no place that was found belongs stays as it is.
-/

namespace Regen

namespace FileTree

variable {tree other : FileTree} {location : Location} {id : FileId}

theorem file_rewrite (tree : FileTree) (id other : FileId) (bytes : Bytes) :
    (tree.rewrite id bytes).file other = if other = id then { tree.file id with bytes } else tree.file other := by
  simp only [file, rewrite, setFile, Table.find?_insert]
  split <;> rfl

theorem entry?_congr (same : other.entries = tree.entries) (location : Location) :
    other.entry? location = tree.entry? location := by
  unfold entry?
  rw [same]

/-- Where a path leads is a matter of names. -/
theorem follow_congr (same : other.entries = tree.entries) (here : Location) (parts : List Text) :
    other.follow here parts = tree.follow here parts := by
  induction parts generalizing here with
  | nil => rfl
  | cons part rest ih => simp only [follow, ih, entry?_congr same]

theorem fileAt?_of_entry? (stands : tree.entry? location = some (.file id)) :
    tree.fileAt? location = some (tree.file id) := by
  rw [fileAt?, stands]

end FileTree

namespace Workspace

variable {workspace other before middle after : Workspace} {codecs : Codecs} {settings : Settings} {dryRun : Bool}
  {path : Path} {location : Location} {id : FileId}

/-- The workspaces differ at most in what their files hold. -/
structure SameNames (before after : Workspace) : Prop where
  entries : after.tree.entries = before.tree.entries
  directory : after.directory = before.directory

theorem SameNames.refl (workspace : Workspace) : SameNames workspace workspace := ⟨rfl, rfl⟩

theorem SameNames.trans (first : SameNames before middle) (second : SameNames middle after) : SameNames before after :=
  ⟨second.entries.trans first.entries, second.directory.trans first.directory⟩

theorem SameNames.standing (same : SameNames before after) (location : Location) :
    after.tree.entry? location = before.tree.entry? location :=
  FileTree.entry?_congr same.entries location

theorem SameNames.find (same : SameNames before after) (path : Path) : after.find path = before.find path := by
  simp only [Workspace.find, same.directory, FileTree.follow_congr same.entries]

/-- The workspace with a new content of a file, if there is one. -/
def update (workspace : Workspace) (id : FileId) : Option Bytes → Workspace
  | none => workspace
  | some bytes => { workspace with tree := workspace.tree.rewrite id bytes }

theorem sameNames_update (workspace : Workspace) (id : FileId) (new : Option Bytes) :
    SameNames workspace (workspace.update id new) := by
  cases new <;> exact ⟨rfl, rfl⟩

theorem file_update_of_ne {new : Option Bytes} {other : FileId} (ne : other ≠ id) :
    (workspace.update id new).tree.file other = workspace.tree.file other := by
  cases new with
  | none => rfl
  | some bytes => exact (FileTree.file_rewrite ..).trans (if_neg ne)

theorem file_update_congr (same : other.tree.file id = workspace.tree.file id) (new : Option Bytes) :
    (other.update id new).tree.file id = (workspace.update id new).tree.file id := by
  cases new with
  | none => exact same
  | some bytes => simp only [update, FileTree.file_rewrite, same]

theorem readText_congr (same : other.read path = workspace.read path) (codecs : Codecs) (encoding : WideText) :
    other.readText codecs encoding path = workspace.readText codecs encoding path := by
  unfold readText
  rw [same]

theorem read_of_readText {encoding : WideText} {codec : Codec} {text : Text}
    (success : workspace.readText codecs encoding path = .ok (id, codec, text)) :
    codecs encoding.display = .codec codec ∧
      ∃ bytes, workspace.read path = .ok (id, bytes) ∧ codec.decode bytes = .ok text := by
  unfold readText at success
  split at success
  · cases success
  · dsimp only at success
    split at success
    · cases success
    · obtain ⟨⟨number, bytes⟩, isRead, success⟩ := bind_eq_ok success
      dsimp only at success
      split at success
      · cases success
      · cases success
      · next known isKnown =>
        split at success
        · next decoded =>
          cases success
          exact ⟨isKnown, bytes, eq_ok_of_mapError isRead, decoded⟩
        · cases success
        · cases success

theorem write_eq_ok_iff {bytes : Bytes} :
    workspace.write id bytes = .ok after ↔
      (workspace.tree.file id).writable = true ∧ after = workspace.update id (some bytes) := by
  unfold write
  split
  · next writable => simp [writable, update, eq_comm]
  · next closed => simp [closed]

theorem write_eq_error_iff {bytes : Bytes} {fault : AccessFault} :
    workspace.write id bytes = .error fault ↔ (workspace.tree.file id).writable ≠ true ∧ fault = .denied := by
  unfold write
  split
  · next writable => simp [writable]
  · next closed => simp [closed, eq_comm]

/-- All that writing a text to a file can do, in every workspace with the same file: nothing, or replace the content. -/
theorem writeText_cases (codec : Codec) (path : Path) (text : Text)
    (same : other.tree.file id = workspace.tree.file id) :
    ∃ written new, workspace.writeText codec path id text = (written, workspace.update id new) ∧
      other.writeText codec path id text = (written, other.update id new) ∧
      (new = none ∨ written = .ok () ∨ ∃ message, written = .error (.unencodable message)) := by
  unfold writeText
  by_cases writable : (workspace.tree.file id).writable = true
  · have wrote (bytes : Bytes) := write_eq_ok_iff.mpr ⟨writable, Eq.refl (workspace.update id (some bytes))⟩
    have wroteOther (bytes : Bytes) := write_eq_ok_iff.mpr ⟨same ▸ writable, Eq.refl (other.update id (some bytes))⟩
    simp only [wrote, wroteOther]
    cases codec.encode text with
    | ok bytes => exact ⟨_, some bytes, rfl, rfl, .inr (.inl rfl)⟩
    | error message => exact ⟨_, some [], rfl, rfl, .inr (.inr ⟨message, rfl⟩)⟩
  · have denied (bytes : Bytes) : workspace.write id bytes = .error .denied := write_eq_error_iff.mpr ⟨writable, rfl⟩
    have deniedOther (bytes : Bytes) : other.write id bytes = .error .denied :=
      write_eq_error_iff.mpr ⟨same ▸ writable, rfl⟩
    simp only [denied, deniedOther]
    cases codec.encode text with
    | ok bytes => exact ⟨_, none, rfl, rfl, .inl rfl⟩
    | error message => exact ⟨_, none, rfl, rfl, .inl rfl⟩

/-- How the work on a file ends. -/
abbrev Outcome := Except FileFailure FileReport

namespace Outcome

/-- What was done, unless the work failed. -/
def action? (outcome : Outcome) : Option Action := outcome.toOption.map FileReport.action

/-- The entry in reports of the failure, if there is one. -/
def error? (path : Path) : Outcome → Option FileError
  | .ok _ => none
  | .error failure => failure.entry? path

/-- Reports say how the work ended: what was done, or the failure if it has an entry. -/
def IsListed (path : Path) (outcome : Outcome) : Prop :=
  outcome.action? = none → (outcome.error? path).isSome = true

theorem isListed_ok (path : Path) (report : FileReport) : IsListed path (.ok report) := fun missing => by cases missing

theorem isListed_error_iff {failure : FileFailure} :
    IsListed path (.error failure) ↔ (failure.entry? path).isSome = true :=
  ⟨fun listed => listed rfl, fun isSome _ => isSome⟩

theorem path_of_error? {outcome : Outcome} {error : FileError} (isError : outcome.error? path = some error) :
    error.path = path.render := by
  unfold error? at isError
  split at isError
  · cases isError
  · unfold FileFailure.entry? at isError
    split at isError <;> cases isError <;> rfl

theorem error?_of_action? {outcome : Outcome} {action : Action} (done : outcome.action? = some action) :
    outcome.error? path = none := by
  cases outcome with
  | ok report => rfl
  | error failure => cases done

end Outcome

/-- All that work on a file can do, in every workspace where its path leads to the same file: leave it as it is, or
write it and report it as updated, or write what cannot be encoded. -/
theorem regenerateFile_cases (codecs : Codecs) (settings : Settings) (dryRun : Bool)
    (leads : workspace.find path = .ok (location, .file id)) (names : SameNames workspace other)
    (same : other.tree.file id = workspace.tree.file id) :
    ∃ outcome new, workspace.regenerateFile codecs settings dryRun path = (outcome, workspace.update id new) ∧
      other.regenerateFile codecs settings dryRun path = (outcome, other.update id new) ∧
      (new = none ∨ Outcome.action? outcome = some .updated ∨ ∃ message, outcome = .error (.unencodable message)) := by
  have sameRead : other.read path = workspace.read path := by
    rw [read_of_find leads, read_of_find ((names.find path).trans leads), same]
  unfold regenerateFile
  rw [readText_congr sameRead]
  cases read : workspace.readText codecs settings.encoding path with
  | error failure => exact ⟨_, none, rfl, rfl, .inl rfl⟩
  | ok file =>
    obtain ⟨number, codec, text⟩ := file
    obtain ⟨_, old, isOld, _⟩ := read_of_readText read
    obtain ⟨place, leads'⟩ := (find_of_read isOld).1
    cases leads.symm.trans leads'
    dsimp only
    split
    · exact ⟨_, none, rfl, rfl, .inl rfl⟩
    · next expansion _ =>
      split_ifs
      · exact ⟨_, none, rfl, rfl, .inl rfl⟩
      · exact ⟨_, none, rfl, rfl, .inl rfl⟩
      · exact ⟨_, none, rfl, rfl, .inl rfl⟩
      · obtain ⟨written, new, wrote, wroteOther, how⟩ := writeText_cases codec path expansion.text same
        rw [wrote, wroteOther]
        refine ⟨_, new, rfl, rfl, how.imp_right (Or.imp ?_ ?_)⟩
        · rintro rfl
          rfl
        · rintro ⟨message, rfl⟩
          exact ⟨message, rfl⟩

/-- A file that is not updated is left as it is, if that is reported. -/
theorem eq_none_of_not_updated {outcome : Outcome} {new : Option Bytes}
    (how : new = none ∨ outcome.action? = some .updated ∨ ∃ message, outcome = .error (.unencodable message))
    (kept : outcome.action? ≠ some .updated) (listed : outcome.IsListed path) : new = none := by
  rcases how with unwritten | updated | ⟨message, rfl⟩
  · exact unwritten
  · exact absurd updated kept
  · cases listed rfl

namespace Summary

/-- The files that a summary lists under an action. -/
def listed (summary : Summary) : Action → List Text
  | .updated => summary.updated
  | .unchanged => summary.unchanged
  | .skipped => summary.skipped

/-- Adds what became of a file, whatever it was. -/
def record (summary : Summary) (path : Path) : Outcome → Summary
  | .ok report => summary.add path report
  | .error failure =>
    match failure.entry? path with
    | some entry => summary.addError entry
    | none => summary

def recordAll (outcome : FoundFile → Outcome) (summary : Summary) (files : List FoundFile) : Summary :=
  files.foldl (fun summary file => summary.record file.path (outcome file)) summary

variable {outcome : FoundFile → Outcome}

/-- A part of a summary that each file adds something to consists of what the files add, in order. -/
theorem part_recordAll {α : Type} (part : Summary → List α) (item : FoundFile → List α)
    (adds : ∀ (summary : Summary) (file : FoundFile),
      part (summary.record file.path (outcome file)) = part summary ++ item file)
    (summary : Summary) (files : List FoundFile) :
    part (summary.recordAll outcome files) = part summary ++ files.flatMap item := by
  induction files generalizing summary with
  | nil => simp [recordAll]
  | cons file rest ih =>
    rw [recordAll, List.foldl_cons, ← recordAll, ih, adds, List.flatMap_cons, List.append_assoc]

theorem listed_recordAll (summary : Summary) (files : List FoundFile) (action : Action) :
    (summary.recordAll outcome files).listed action =
      summary.listed action ++ (files.filter fun file => (outcome file).action? = some action).map (·.path.render) := by
  have chosen : (files.filter fun file => (outcome file).action? = some action).map (·.path.render) =
      files.flatMap fun file => if (outcome file).action? = some action then [file.path.render] else [] := by
    induction files with
    | nil => rfl
    | cons file rest ih =>
      rw [List.flatMap_cons, ← ih]
      by_cases isChosen : (outcome file).action? = some action
      · simp [isChosen]
      · simp [isChosen]
  rw [chosen]
  refine part_recordAll (·.listed action) _ (fun summary file => ?_) summary files
  unfold Outcome.action?
  cases outcome file with
  | ok report =>
    obtain ⟨done, diagnostics⟩ := report
    cases done <;> cases action <;> simp [record, add, listed, Except.toOption]
  | error failure =>
    simp only [record, Except.toOption, Option.map_none, reduceCtorEq, if_false, List.append_nil]
    cases failure.entry? file.path with
    | none => rfl
    | some error => cases action <;> rfl

theorem errors_recordAll (summary : Summary) (files : List FoundFile) :
    (summary.recordAll outcome files).errors =
      summary.errors ++ files.filterMap fun file => (outcome file).error? file.path := by
  rw [List.filterMap_eq_flatMap_toList]
  refine part_recordAll (·.errors) _ (fun summary file => ?_) summary files
  cases outcome file with
  | ok report =>
    obtain ⟨done, diagnostics⟩ := report
    cases done <;> simp [record, add, Outcome.error?]
  | error failure =>
    simp only [record, Outcome.error?]
    cases failure.entry? file.path with
    | none => simp
    | some error => rfl

end Summary

/-- Work on files one after the other leads from one workspace to another, and on each file it ends in a way. -/
inductive Steps (codecs : Codecs) (settings : Settings) (dryRun : Bool) (outcome : FoundFile → Outcome) :
    List FoundFile → Workspace → Workspace → Prop where
  | nil (workspace : Workspace) : Steps codecs settings dryRun outcome [] workspace workspace
  | cons {file : FoundFile} {rest : List FoundFile} {before middle after : Workspace}
    (step : before.regenerateFile codecs settings dryRun file.path = (outcome file, middle))
    (more : Steps codecs settings dryRun outcome rest middle after) :
    Steps codecs settings dryRun outcome (file :: rest) before after

section Steps

variable {outcome : FoundFile → Outcome} {files : List FoundFile} {file : FoundFile}

theorem Steps.congr {outcome' : FoundFile → Outcome} (same : ∀ file ∈ files, outcome' file = outcome file)
    (steps : Steps codecs settings dryRun outcome files before after) :
    Steps codecs settings dryRun outcome' files before after := by
  induction steps with
  | nil workspace => exact .nil workspace
  | cons step more ih =>
    rw [List.forall_mem_cons] at same
    exact .cons (same.1 ▸ step) (ih same.2)

theorem Steps.split {earlier later : List FoundFile}
    (steps : Steps codecs settings dryRun outcome (earlier ++ later) before after) :
    ∃ middle, Steps codecs settings dryRun outcome earlier before middle ∧
      Steps codecs settings dryRun outcome later middle after := by
  induction earlier generalizing before with
  | nil => exact ⟨before, .nil before, steps⟩
  | cons file rest ih =>
    cases steps with
    | cons step more =>
      obtain ⟨middle, first, second⟩ := ih more
      exact ⟨middle, .cons step first, second⟩

/-- A run on files that returns takes a step for each of them, and reports each step. -/
theorem steps_of_regenerateEach {summary final : Summary} (distinct : files.Nodup)
    (returned : regenerateEach codecs settings dryRun (files.map FoundFile.path) summary before = (.ok final, after)) :
    ∃ outcome, Steps codecs settings dryRun outcome files before after ∧
      final = summary.recordAll outcome files ∧ ∀ file ∈ files, (outcome file).IsListed file.path := by
  induction files generalizing summary before with
  | nil =>
    cases returned
    exact ⟨fun _ => .ok ⟨.skipped, []⟩, .nil _, rfl, by simp⟩
  | cons file rest ih =>
    rw [List.nodup_cons] at distinct
    rw [List.map_cons, regenerateEach] at returned
    cases step : before.regenerateFile codecs settings dryRun file.path with
    | mk result middle =>
    have continued : regenerateEach codecs settings dryRun (rest.map FoundFile.path)
          (summary.record file.path result) middle = (.ok final, after) ∧
        Outcome.IsListed file.path result := by
      rw [step] at returned
      cases result with
      | ok report => exact ⟨returned, Outcome.isListed_ok file.path report⟩
      | error failure =>
        rw [Outcome.isListed_error_iff]
        dsimp only [Summary.record] at returned ⊢
        cases entry : failure.entry? file.path with
        | none =>
          rw [entry] at returned
          cases returned
        | some error =>
          rw [entry] at returned
          exact ⟨returned, rfl⟩
    obtain ⟨outcome, steps, summarized, listed⟩ := ih distinct.2 continued.1
    -- the file comes up once, so that its outcome can be set apart from those of the rest
    let all (other : FoundFile) : Outcome := if other = file then result else outcome other
    have here : all file = result := if_pos rfl
    have there : ∀ other ∈ rest, all other = outcome other := fun other member =>
      if_neg fun same : other = file => distinct.1 (same ▸ member)
    refine ⟨all, .cons (here ▸ step) (steps.congr there), ?_, ?_⟩
    · rw [summarized, Summary.recordAll, Summary.recordAll, List.foldl_cons, here]
      exact List.foldl_ext _ _ _ fun summary other member => by rw [there other member]
    · refine List.forall_mem_cons.mpr ⟨here ▸ continued.2, fun other member => ?_⟩
      rw [there other member]
      exact listed other member

/-- Each path leads to the file of its place. -/
def LeadsTo (workspace : Workspace) (files : List FoundFile) : Prop :=
  ∀ file ∈ files, ∃ id, workspace.find file.path = .ok (file.location, .file id)

theorem SameNames.leadsTo (names : SameNames before after) (leads : before.LeadsTo files) : after.LeadsTo files := by
  intro file member
  rw [names.find]
  exact leads file member

theorem LeadsTo.stands (leads : workspace.LeadsTo files) (member : file ∈ files) :
    ∃ id, workspace.find file.path = .ok (file.location, .file id) ∧
      workspace.tree.entry? file.location = some (.file id) := by
  obtain ⟨id, found⟩ := leads file member
  exact ⟨id, found, FileTree.entry?_of_follow (follow_of_find found).2⟩

/-- Steps change no names, and a file only if one of its names comes up and is listed as updated. -/
theorem Steps.frame (steps : Steps codecs settings dryRun outcome files before after) (leads : before.LeadsTo files)
    (listed : ∀ file ∈ files, (outcome file).IsListed file.path) :
    SameNames before after ∧
    ∀ id, (∀ file ∈ files, before.tree.entry? file.location = some (.file id) →
        (outcome file).action? ≠ some .updated) →
      after.tree.file id = before.tree.file id := by
  induction steps with
  | nil workspace => exact ⟨.refl workspace, fun _ _ => rfl⟩
  | @cons file rest before middle after step more ih =>
    obtain ⟨number, found, stands⟩ := leads.stands List.mem_cons_self
    rw [List.forall_mem_cons] at listed
    obtain ⟨result, new, ran, _, how⟩ := regenerateFile_cases codecs settings dryRun found (.refl before) rfl
    obtain ⟨rfl, rfl⟩ := Prod.mk.inj (step.symm.trans ran)
    have names := sameNames_update before number new
    obtain ⟨restNames, restFiles⟩ :=
      ih (names.leadsTo fun other member => leads other (List.mem_cons_of_mem _ member)) listed.2
    refine ⟨names.trans restNames, fun id untouched => ?_⟩
    rw [List.forall_mem_cons] at untouched
    rw [restFiles id fun other member stands => untouched.2 other member (by rwa [← names.standing])]
    by_cases own : id = number
    · subst own
      rw [eq_none_of_not_updated how (untouched.1 stands) listed.1]
      rfl
    · exact file_update_of_ne own

/-- The places hold names of one file. -/
def SameFile (workspace : Workspace) (file other : FoundFile) : Prop :=
  workspace.tree.entry? file.location = workspace.tree.entry? other.location

instance (workspace : Workspace) (file other : FoundFile) : Decidable (workspace.SameFile file other) :=
  inferInstanceAs (Decidable (_ = _))

/-- A step on a file that was not rewritten before ends as work on the file alone does, and so does the file if it is
not rewritten afterwards. -/
theorem Steps.alone {earlier later : List FoundFile}
    (steps : Steps codecs settings dryRun outcome (earlier ++ file :: later) workspace after)
    (leads : workspace.LeadsTo (earlier ++ file :: later))
    (listed : ∀ other ∈ earlier ++ file :: later, (outcome other).IsListed other.path)
    (first : ∀ other ∈ earlier, ¬ workspace.SameFile other file) :
    outcome file = (workspace.regenerateFile codecs settings dryRun file.path).1 ∧
    ((∀ other ∈ later, ¬ workspace.SameFile other file) →
      after.tree.fileAt? file.location =
        FileTree.fileAt? (workspace.regenerateFile codecs settings dryRun file.path).2.tree file.location) := by
  have member : file ∈ earlier ++ file :: later := by simp
  obtain ⟨id, found, stands⟩ := leads.stands member
  obtain ⟨before, steps, more⟩ := steps.split
  obtain ⟨names, files⟩ := steps.frame (fun other member => leads other (List.mem_append_left _ member))
    fun other member => listed other (List.mem_append_left _ member)
  have intact : before.tree.file id = workspace.tree.file id :=
    files id fun other member same => absurd (same.trans stands.symm) (first other member)
  obtain ⟨result, new, ranAlone, ran, _⟩ := regenerateFile_cases codecs settings dryRun found names intact
  cases more with
  | @cons _ _ _ middle _ step more =>
  obtain ⟨rfl, rfl⟩ := Prod.mk.inj (step.symm.trans ran)
  rw [ranAlone]
  refine ⟨rfl, fun last => ?_⟩
  have allNames := names.trans (sameNames_update before id new)
  obtain ⟨restNames, restFiles⟩ :=
    more.frame (allNames.leadsTo fun other member => leads other (by simp [member]))
      fun other member => listed other (by simp [member])
  have ended : after.tree.file id = (before.update id new).tree.file id :=
    restFiles id fun other member same =>
      absurd ((allNames.standing _).symm.trans (same.trans stands.symm)) (last other member)
  rw [FileTree.fileAt?_of_entry? (((allNames.trans restNames).standing _).trans stands),
    FileTree.fileAt?_of_entry? (((sameNames_update workspace id new).standing _).trans stands), ended,
    file_update_congr intact]

/-- The files with listed failures, as the list of errors names them. -/
theorem paths_of_errors (listed : ∀ file ∈ files, (outcome file).IsListed file.path) :
    (files.filterMap fun file => (outcome file).error? file.path).map FileError.path =
      (files.filter fun file => (outcome file).action? = none).map (·.path.render) := by
  induction files with
  | nil => rfl
  | cons file rest ih =>
    rw [List.forall_mem_cons] at listed
    have later := ih listed.2
    cases failed : (outcome file).action? with
    | none =>
      obtain ⟨error, isError⟩ := Option.isSome_iff_exists.mp (listed.1 failed)
      simp [isError, failed, later, Outcome.path_of_error? isError]
    | some action => simp [Outcome.error?_of_action? failed, failed, later]

end Steps

/-- Every file has one standing: what was done with it or none. -/
theorem perm_by_standing {α : Type} (standing : α → Option Action) (files : List α) :
    (files.filter (standing · = some .updated) ++ files.filter (standing · = some .unchanged) ++
      files.filter (standing · = some .skipped) ++ files.filter (standing · = none)).Perm files := by
  induction files with
  | nil => exact .refl _
  | cons file rest ih =>
    have moved (before after : List α) (perm : (before ++ after).Perm rest) :
        (before ++ file :: after).Perm (file :: rest) := List.perm_middle.trans (perm.cons file)
    cases isStanding : standing file with
    | none => simpa [isStanding] using moved _ _ ih
    | some action =>
      rw [List.append_assoc, List.append_assoc] at ih ⊢
      cases action with
      | updated => simpa [isStanding] using moved [] _ ih
      | unchanged => simpa [isStanding] using moved _ _ ih
      | skipped =>
        rw [← List.append_assoc] at ih
        simpa [isStanding] using moved _ _ ih

/-- What holds of the files that were found, how the work on each ended, the summary and the workspace afterwards. -/
structure Isolated (workspace : Workspace) (codecs : Codecs) (settings : Settings) (dryRun : Bool)
    (found : List FoundFile) (outcome : FoundFile → Outcome) (summary : Summary) (after : Workspace) : Prop where
  /-- No place comes up twice, under whatever path. -/
  distinct : (found.map FoundFile.location).Nodup
  shown_distinct : (found.map (·.path.render)).Nodup
  stands : workspace.LeadsTo found
  /-- Each outcome is that of work on the file after the earlier ones were worked on. -/
  steps : Steps codecs settings dryRun outcome found workspace after
  listed_once : (summary.updated ++ summary.unchanged ++ summary.skipped ++ summary.errors.map FileError.path).Perm
    (found.map (·.path.render))
  listed : ∀ action, summary.listed action =
    (found.filter fun file => (outcome file).action? = some action).map (·.path.render)
  errors : summary.errors = found.filterMap fun file => (outcome file).error? file.path
  /-- The work ends as it does on the file alone, unless a place before names the same file. -/
  outcome_alone : ∀ earlier file later, found = earlier ++ file :: later →
    (∀ other ∈ earlier, ¬ workspace.SameFile other file) →
    outcome file = (workspace.regenerateFile codecs settings dryRun file.path).1
  /-- The file ends as it does alone, unless another place names it. -/
  file_alone : ∀ file ∈ found, (∀ other ∈ found, workspace.SameFile other file → other = file) →
    after.tree.fileAt? file.location =
      FileTree.fileAt? (workspace.regenerateFile codecs settings dryRun file.path).2.tree file.location
  /-- A file that is updated under none of its names is left as it is. -/
  kept : ∀ file ∈ found,
    (∀ other ∈ found, workspace.SameFile other file → (outcome other).action? ≠ some .updated) →
    after.tree.fileAt? file.location = workspace.tree.fileAt? file.location
  names : after.tree.entries = workspace.tree.entries
  /-- A place that names no file that was found is left as it is. -/
  elsewhere : ∀ location,
    (∀ file ∈ found, workspace.tree.entry? file.location ≠ workspace.tree.entry? location) →
    after.tree.fileAt? location = workspace.tree.fileAt? location

theorem isolated_of_steps {found : List FoundFile} {outcome : FoundFile → Outcome}
    (distinct : (found.map FoundFile.location).Nodup) (leads : ∀ file ∈ found, file.Leads workspace)
    (steps : Steps codecs settings dryRun outcome found workspace after)
    (listed : ∀ file ∈ found, (outcome file).IsListed file.path) :
    Isolated workspace codecs settings dryRun found outcome (Summary.empty.recordAll outcome found) after := by
  have stands : workspace.LeadsTo found := fun file member => (leads file member).found
  have lists (action : Action) : (Summary.empty.recordAll outcome found).listed action =
      (found.filter fun file => (outcome file).action? = some action).map (·.path.render) := by
    rw [Summary.listed_recordAll]
    cases action <;> rfl
  have errors : (Summary.empty.recordAll outcome found).errors =
      found.filterMap fun file => (outcome file).error? file.path := by
    rw [Summary.errors_recordAll]
    rfl
  obtain ⟨names, files⟩ := steps.frame stands listed
  have fileAt? {location : Location} {id : FileId} (isFile : workspace.tree.entry? location = some (.file id))
      (same : after.tree.file id = workspace.tree.file id) :
      after.tree.fileAt? location = workspace.tree.fileAt? location := by
    rw [FileTree.fileAt?_of_entry? isFile, FileTree.fileAt?_of_entry? ((names.standing location).trans isFile), same]
  refine ⟨distinct, Discovery.nodup_render distinct leads, stands, steps, ?_, lists, errors, ?_, ?_, ?_, names.entries,
    ?_⟩
  · have partition := perm_by_standing (fun file : FoundFile => (outcome file).action?) found
    have shownOnce := partition.map (·.path.render)
    rw [List.map_append, List.map_append, List.map_append, ← lists, ← lists, ← lists, ← paths_of_errors listed,
      ← errors] at shownOnce
    exact shownOnce
  · rintro earlier file later rfl first
    exact (steps.alone stands listed first).1
  · intro file member only
    obtain ⟨earlier, later, rfl⟩ := List.append_of_mem member
    have once := List.nodup_middle.mp (List.Nodup.of_map _ distinct)
    rw [List.nodup_cons, List.mem_append, not_or] at once
    refine (steps.alone stands listed fun other isEarlier same => ?_).2 fun other isLater same => ?_
    · exact once.1.1 (only other (by simp [isEarlier]) same ▸ isEarlier)
    · exact once.1.2 (only other (by simp [isLater]) same ▸ isLater)
  · intro file member kept
    obtain ⟨id, _, isFile⟩ := stands.stands member
    exact fileAt? isFile (files id fun other isFound same => kept other isFound (same.trans isFile.symm))
  · intro location outside
    cases stood : workspace.tree.entry? location with
    | none => rw [FileTree.fileAt?, FileTree.fileAt?, names.standing, stood]
    | some entry =>
      cases entry with
      | directory => rw [FileTree.fileAt?, FileTree.fileAt?, names.standing, stood]
      | file id =>
        exact fileAt? stood (files id fun other isFound same => absurd (same.trans stood.symm) (outside other isFound))

/-- Work on files that returns has done to each file what work on it alone does, as far as no two of them are one. -/
theorem regenerate_isolated {summary : Summary} {texts : List Text} (wellFormed : workspace.tree.WellFormed)
    (returned : workspace.regenerate codecs settings dryRun (texts.map Path.ofText) = (.ok summary, after)) :
    ∃ found outcome, Discovery.discover workspace settings (texts.map Path.ofText) = .ok found ∧
      Isolated workspace codecs settings dryRun found outcome summary after := by
  unfold regenerate at returned
  cases discovered : Discovery.discover workspace settings (texts.map Path.ofText) with
  | error nowhere =>
    rw [discovered] at returned
    cases returned
  | ok found =>
    rw [discovered] at returned
    obtain ⟨distinct, leads⟩ := Discovery.discover_spec wellFormed (fun _ => Path.canonical_of_mem) discovered
    obtain ⟨outcome, steps, rfl, listed⟩ := steps_of_regenerateEach (List.Nodup.of_map _ distinct) returned
    exact ⟨found, outcome, rfl, isolated_of_steps distinct leads steps listed⟩

/-- A directory with a file to update and one that cannot be expanded, and beside it a file without directives and one
that is closed to reading. -/
def mixedTree : Workspace where
  tree.entries :=
    [(["d".toList], .directory), (["d".toList, "a.c".toList], .file 0), (["d".toList, "b.c".toList], .file 1),
      (["c.c".toList], .file 2), (["e.c".toList], .file 3)]
  tree.files :=
    [(0, { bytes := "autoc:lines l\nx\nautoc#\nautoc:format-lines l \"%s\"\nautoc#\n".toUTF8.toList }),
      (1, { bytes := "autoc#\n".toUTF8.toList }), (2, { bytes := "x".toUTF8.toList }),
      (3, { bytes := "autoc#\n".toUTF8.toList, readable := false, writable := false })]
  directory := []

/-- Paths to its files, two of them to one. -/
def mixedPaths : List Path :=
  ["c.c".toList, "d".toList, "d/.././d//a.c".toList, "e.c".toList].map Path.ofText

def mixedFiles : List FoundFile :=
  [⟨.ofText "c.c".toList, ["c.c".toList]⟩, ⟨.ofText "d/a.c".toList, ["d".toList, "a.c".toList]⟩,
    ⟨.ofText "d/b.c".toList, ["d".toList, "b.c".toList]⟩, ⟨.ofText "e.c".toList, ["e.c".toList]⟩]

theorem atPath_mixedTree :
    Discovery.atPath mixedTree .default (.ofText "d".toList) =
      .ok [⟨.ofText "d/a.c".toList, ["d".toList, "a.c".toList]⟩,
        ⟨.ofText "d/b.c".toList, ["d".toList, "b.c".toList]⟩] := by
  have below : mixedTree.tree.below ["d".toList] = [["a.c".toList], ["b.c".toList]] := by decide +kernel
  have ways : Discovery.waysBelow mixedTree ["d".toList] = [["a.c".toList], ["b.c".toList]] := by
    rw [Discovery.waysBelow, below]
    exact List.mergeSort_of_pairwise (by decide +kernel)
  have leads : mixedTree.find (.ofText "d".toList) = .ok (["d".toList], .directory) := by decide +kernel
  rw [Discovery.atPath, leads]
  change Discovery.inDirectory mixedTree .default (.ofText "d".toList) ["d".toList] = _
  rw [Discovery.inDirectory, Discovery.waysLookedAt, ways]
  decide +kernel

theorem discover_mixedTree : Discovery.discover mixedTree .default mixedPaths = .ok mixedFiles := by
  have first : Discovery.atPath mixedTree .default (.ofText "c.c".toList) =
      .ok [⟨.ofText "c.c".toList, ["c.c".toList]⟩] := by decide +kernel
  have again : Discovery.atPath mixedTree .default (.ofText "d/.././d//a.c".toList) =
      .ok [⟨.ofText "d/.././d//a.c".toList, ["d".toList, "a.c".toList]⟩] := by decide +kernel
  have last : Discovery.atPath mixedTree .default (.ofText "e.c".toList) =
      .ok [⟨.ofText "e.c".toList, ["e.c".toList]⟩] := by decide +kernel
  have all := mapM_eq_ok_iff.mpr (.cons first (.cons atPath_mixedTree (.cons again (.cons last .nil))))
  rw [Discovery.discover, mixedPaths, List.map_cons, List.map_cons, List.map_cons, List.map_cons, List.map_nil, all]
  decide +kernel

theorem regenerate_mixedTree :
    mixedTree.tree.WellFormed ∧ ∃ found outcome summary after,
      mixedTree.regenerate .standard .default false mixedPaths = (.ok summary, after) ∧
      summary.updated = ["d/a.c".toList] ∧ summary.skipped = ["c.c".toList] ∧
      summary.errors.map FileError.kind = ["ScanError".toList, "PermissionError".toList] ∧
      Isolated mixedTree .standard .default false found outcome summary after := by
  have wellFormed : mixedTree.tree.WellFormed := by decide +kernel
  have ran : (match mixedTree.regenerate .standard .default false mixedPaths with
      | (.ok summary, _) => summary.updated == ["d/a.c".toList] && summary.skipped == ["c.c".toList] &&
        summary.errors.map FileError.kind == ["ScanError".toList, "PermissionError".toList]
      | _ => false) = true := by
    rw [regenerate, discover_mixedTree]
    decide +kernel
  split at ran
  · next summary after returned =>
    simp only [Bool.and_eq_true, beq_iff_eq] at ran
    obtain ⟨found, outcome, _, isolated⟩ := regenerate_isolated wellFormed returned
    exact ⟨wellFormed, found, outcome, summary, after, returned, ran.1.1, ran.1.2, ran.2, isolated⟩
  · cases ran

/-- A file to update with two names. -/
def linkedTree : Workspace where
  tree.entries := [(["a.c".toList], .file 0), (["b.c".toList], .file 0)]
  tree.files := [(0, { bytes := "autoc:lines l\nx\nautoc#\nautoc:format-lines l \"%s\"\nautoc#\n".toUTF8.toList })]
  directory := []

def linkedPaths : List Path := ["a.c".toList, "b.c".toList].map Path.ofText

/-- Of two names of a file only the first is listed as updated. The other is listed as unchanged, although alone it
would be updated and although what stands there has changed. -/
theorem unchanged_linked_rewritten :
    linkedTree.tree.WellFormed ∧ ∃ summary after,
      linkedTree.regenerate .standard .default false linkedPaths = (.ok summary, after) ∧
      summary.updated = ["a.c".toList] ∧ summary.unchanged = ["b.c".toList] ∧
      Outcome.action? (linkedTree.regenerateFile .standard .default false (.ofText "b.c".toList)).1 = some .updated ∧
      after.tree.fileAt? ["b.c".toList] ≠ linkedTree.tree.fileAt? ["b.c".toList] := by
  have ran : (match linkedTree.regenerate .standard .default false linkedPaths with
      | (.ok summary, after) => summary.updated == ["a.c".toList] && summary.unchanged == ["b.c".toList] &&
        after.tree.fileAt? ["b.c".toList] != linkedTree.tree.fileAt? ["b.c".toList]
      | _ => false) = true := by decide +kernel
  split at ran
  · next summary after returned =>
    simp only [Bool.and_eq_true, beq_iff_eq, bne_iff_ne] at ran
    exact ⟨by decide +kernel, summary, after, returned, ran.1.1, ran.1.2, by decide +kernel, ran.2⟩
  · cases ran

end Workspace

end Regen
