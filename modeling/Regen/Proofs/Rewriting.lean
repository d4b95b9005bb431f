import Regen.Proofs.Isolation
import Regen.Proofs.Provenance

/-! # Files are written whole

What was read in a character set can be written in it after an expansion. Work on a file therefore never opens it for
writing only to find that the new text cannot be encoded: it leaves all files as they are, or it writes the expanded
text, all of it, in the character set of the old one.
-/

namespace Regen

/-- The name of an encoding stands for a character set, if it stands for a codec at all. -/
def Codecs.NamesCharset (codecs : Codecs) (encoding : WideText) : Prop :=
  ∀ codec, codecs encoding.display = .codec codec → ∃ charset : Charset, codec = charset.codec

theorem Codecs.namesCharset_standard (encoding : WideText) : Codecs.standard.NamesCharset encoding := by
  intro codec named
  unfold Codecs.standard at named
  split at named
  · cases named
  · split at named
    · next charset _ =>
      cases named
      exact ⟨charset, rfl⟩
    · cases named

theorem Charset.decode_of_codec {charset : Charset} {bytes : Bytes} {text : Text}
    (decoded : charset.codec.decode bytes = .ok text) : charset.decode bytes = .ok text :=
  eq_ok_of_mapError decoded

theorem Charset.codec_encode {charset : Charset} {text : Text} {bytes : Bytes}
    (encoded : charset.encode? text = some bytes) : charset.codec.encode text = .ok bytes := by
  simp only [codec, encoded]

namespace Workspace

variable {workspace : Workspace} {codecs : Codecs} {settings : Settings} {path : Path}

/-- Work on the file at a path finds new bytes for it: the file has a text in some character set, its expansion is
another text, and the bytes stand for that in the same character set. -/
structure Rewrites (workspace : Workspace) (settings : Settings) (path : Path) (id : FileId) (new : Bytes)
    (text : Text) (expansion : Expansion) : Prop where
  expanded : expand (some path.render) settings.limits text = .ok expansion
  changed : expansion.text ≠ text
  written : ∃ (charset : Charset) (old : Bytes), workspace.read path = .ok (id, old) ∧
    charset.decode old = .ok text ∧ charset.encode? expansion.text = some new

theorem readText_ne_unencodable (encoding : WideText) (path : Path) (message : Text) :
    workspace.readText codecs encoding path ≠ .error (.unencodable message) := by
  intro failed
  unfold readText at failed
  split at failed
  · cases failed
  · dsimp only at failed
    split at failed
    · cases failed
    · rcases bind_eq_error failed with notRead | ⟨⟨id, bytes⟩, _, failed⟩
      · cases isRead : workspace.read path with
        | ok file =>
          rw [isRead] at notRead
          cases notRead
        | error fault =>
          rw [isRead] at notRead
          cases notRead
      · dsimp only at failed
        split at failed
        · cases failed
        · cases failed
        · split at failed <;> cases failed

/-- All that work on a file can do: it leaves the files as they are, or the file has a new text, which is then written
unless the run is dry or the file is closed to writing. -/
theorem regenerateFile_outcome (names : codecs.NamesCharset settings.encoding) (workspace : Workspace) (path : Path) :
    (∃ result, (∀ dryRun, workspace.regenerateFile codecs settings dryRun path = (result, workspace)) ∧
      (∀ diagnostics, result ≠ .ok ⟨.updated, diagnostics⟩) ∧ ∀ message, result ≠ .error (.unencodable message)) ∨
    ∃ id new text expansion, workspace.Rewrites settings path id new text expansion ∧
      workspace.regenerateFile codecs settings true path = (.ok ⟨.updated, expansion.diagnostics⟩, workspace) ∧
      ((∃ after, workspace.write id new = .ok after ∧
          workspace.regenerateFile codecs settings false path = (.ok ⟨.updated, expansion.diagnostics⟩, after)) ∨
        ∃ fault, workspace.write id new = .error fault ∧
          workspace.regenerateFile codecs settings false path = (.error (.access path fault), workspace)) := by
  unfold regenerateFile
  cases read : workspace.readText codecs settings.encoding path with
  | error failure =>
    refine .inl ⟨_, fun _ => rfl, by simp, fun message same => ?_⟩
    cases same
    exact readText_ne_unencodable _ _ _ read
  | ok file =>
    obtain ⟨id, codec, text⟩ := file
    obtain ⟨named, old, isOld, decoded⟩ := read_of_readText read
    obtain ⟨charset, rfl⟩ := names codec named
    replace decoded := Charset.decode_of_codec decoded
    dsimp only
    cases expanded : expand (some path.render) settings.limits text with
    | error failure => exact .inl ⟨_, fun _ => rfl, by simp, by simp⟩
    | ok expansion =>
      obtain ⟨new, encoded⟩ := Expansion.encode?_of_expand decoded expanded
      dsimp only
      by_cases empty : expansion.directives.isEmpty = true
      · simp only [if_pos empty]
        exact .inl ⟨_, fun _ => rfl, by simp, by simp⟩
      by_cases same : expansion.text = text
      · simp only [if_neg empty, if_pos same]
        exact .inl ⟨_, fun _ => rfl, by simp, by simp⟩
      · simp only [if_neg empty, if_neg same, writeText, Charset.codec_encode encoded]
        refine .inr ⟨id, new, text, expansion, ⟨expanded, same, charset, old, isOld, decoded, encoded⟩, rfl, ?_⟩
        cases workspace.write id new with
        | ok after => exact .inl ⟨after, rfl, rfl⟩
        | error fault => exact .inr ⟨fault, rfl, rfl⟩

/-- Every character of an expanded text stands in the text or belongs to ASCII, so the bytes of a file that could be
read can be written again; and work on a file that fails has left all files as they were. -/
theorem expanded_written_back :
    (∀ (file : Option Text) (limits : Limits) (text : Text) (expansion : Expansion),
      expand file limits text = .ok expansion →
        (∀ c ∈ expansion.text, c ∈ text ∨ c.toNat < 0x80) ∧
        ∀ (charset : Charset) (bytes : Bytes), charset.decode bytes = .ok text →
          ∃ new, charset.encode? expansion.text = some new ∧ charset.decode new = .ok expansion.text) ∧
    ∀ (workspace : Workspace) (codecs : Codecs) (settings : Settings) (dryRun : Bool) (path : Path)
      (after : Workspace) (result : Except FileFailure FileReport), codecs.NamesCharset settings.encoding →
      workspace.regenerateFile codecs settings dryRun path = (result, after) →
        (∀ message, result ≠ .error (.unencodable message)) ∧
        (after = workspace ∨ ∃ id new text expansion,
          workspace.Rewrites settings path id new text expansion ∧ workspace.write id new = .ok after ∧
          result = .ok ⟨.updated, expansion.diagnostics⟩) := by
  refine ⟨fun file limits text expansion success => ⟨?_, fun charset bytes isRead => ?_⟩, ?_⟩
  · exact Expansion.within_of_expand (fun _ => .inr) (fun _ => .inl) success
  · obtain ⟨new, encoded⟩ := Expansion.encode?_of_expand isRead success
    exact ⟨new, encoded, Charset.decode_of_encode? encoded⟩
  · intro workspace codecs settings dryRun path after result names ran
    rcases regenerateFile_outcome names workspace path with
      ⟨other, same, _, encodable⟩ | ⟨id, new, text, expansion, rewrites, ranDry, ranReal⟩
    · rw [same] at ran
      cases ran
      exact ⟨encodable, .inl rfl⟩
    · cases dryRun with
      | true =>
        rw [ranDry] at ran
        cases ran
        exact ⟨by simp, .inl rfl⟩
      | false =>
        rcases ranReal with ⟨rewritten, wrote, ranReal⟩ | ⟨fault, _, ranReal⟩
        · rw [ranReal] at ran
          cases ran
          exact ⟨by simp, .inr ⟨id, new, text, expansion, rewrites, wrote, rfl⟩⟩
        · rw [ranReal] at ran
          cases ran
          exact ⟨by simp, .inl rfl⟩

/-- A function that writes a letter outside of ASCII, and a call of it. -/
def accented : Text := "autoc:defun f ()\n(insert \"é\")\nautoc#\nautoc:funcall f\nautoc#\n".toList

/-- A single file with this text in Latin-1. -/
def accentedFile : Workspace where
  tree.entries := [(["a.c".toList], .file 0)]
  tree.files := [(0, { bytes := accented.map fun c => c.toNat.toUInt8 })]
  directory := []

set_option maxRecDepth 4000 in
theorem accented_written_back :
    (∃ expansion new, expand none {} accented = .ok expansion ∧ expansion.text ≠ accented ∧
      Charset.latin1.encode? expansion.text = some new ∧ Charset.latin1.decode new = .ok expansion.text) ∧
    ∃ report after id new text expansion,
      accentedFile.regenerateFile .standard { Settings.default with encoding := .ofText "latin-1".toList } false
        (.ofText "a.c".toList) = (.ok report, after) ∧
      accentedFile.Rewrites { Settings.default with encoding := .ofText "latin-1".toList } (.ofText "a.c".toList)
        id new text expansion ∧ accentedFile.write id new = .ok after := by
  have expands : succeedsWith (fun expansion => expansion.text != accented) (expand none {} accented) = true := by
    decide +kernel
  have updates : (succeedsWith (fun _ => true) (accentedFile.regenerateFile .standard
        { Settings.default with encoding := .ofText "latin-1".toList } false (.ofText "a.c".toList)).1 &&
      (accentedFile.regenerateFile .standard { Settings.default with encoding := .ofText "latin-1".toList } false
        (.ofText "a.c".toList)).2.tree != accentedFile.tree) = true := by decide +kernel
  constructor
  · obtain ⟨expansion, success, changed⟩ := exists_of_succeedsWith expands
    have decoded : Charset.latin1.decode (accented.map fun c => c.toNat.toUInt8) = .ok accented := by decide +kernel
    obtain ⟨new, encoded, decodes⟩ := (expanded_written_back.1 none {} accented expansion success).2 _ _ decoded
    exact ⟨expansion, new, success, by simpa using changed, encoded, decodes⟩
  · generalize ran : accentedFile.regenerateFile .standard
      { Settings.default with encoding := .ofText "latin-1".toList } false (.ofText "a.c".toList) = outcome at updates
    obtain ⟨result, after⟩ := outcome
    rw [Bool.and_eq_true] at updates
    obtain ⟨succeeds, changed⟩ := updates
    obtain ⟨report, rfl, _⟩ := exists_of_succeedsWith succeeds
    rcases (expanded_written_back.2 _ _ _ _ _ _ _ (Codecs.namesCharset_standard _) ran).2 with
      rfl | ⟨id, new, text, expansion, rewrites, wrote, _⟩
    · simp at changed
    · exact ⟨report, _, id, new, text, expansion, rfl, rewrites, wrote⟩

end Workspace

end Regen
