import Regen.CommandLine
import Regen.Proofs.Routes

/-!
# Which settings are accepted

A file with settings holds nothing or a mapping. Its keys are looked at first, then the value of each known key for its
kind; a key that is missing keeps its default. Everything else is refused with the reason, and the program reports the
reason and ends with status 2, unless an unknown key is no text: such keys cannot be put into a message, and the
attempt ends the program.
-/

namespace Regen

namespace Settings

/-! ## The kinds of values -/

def IsTexts (value : Yaml.Value) (texts : List WideText) : Prop :=
  value = .list (texts.map fun text => .scalar (.text text))

/-- A value is a positive integer. A truth value is none. -/
def IsPositive (value : Yaml.Value) (n : Int) : Prop := value = .scalar (.int n) ∧ 0 < n

def IsText (value : Yaml.Value) (text : WideText) : Prop := value = .scalar (.text text)

theorem text?_eq_some_iff (value : Yaml.Value) (text : WideText) : text? value = some text ↔ IsText value text := by
  cases value with
  | scalar inner => cases inner <;> simp [text?, Yaml.Scalar.text?, IsText]
  | _ => simp [text?, IsText]

theorem texts?_eq_some_iff (value : Yaml.Value) (texts : List WideText) :
    texts? value = some texts ↔ IsTexts value texts := by
  cases value with
  | list items =>
    rw [texts?, IsTexts, Yaml.Value.list.injEq]
    exact mapM_eq_some_iff_map text?_eq_some_iff
  | _ => simp [texts?, IsTexts]

theorem positive?_eq_some_iff (value : Yaml.Value) (n : Int) : positive? value = some n ↔ IsPositive value n := by
  cases value with
  | scalar inner =>
    cases inner with
    | int m =>
      simp only [positive?, IsPositive, Yaml.Value.scalar.injEq, Yaml.Scalar.int.injEq]
      split
      · next positive =>
        rw [Option.some_inj]
        exact ⟨fun same => ⟨same, same ▸ positive⟩, And.left⟩
      · next negative =>
        refine ⟨fun none => (by cases none), ?_⟩
        rintro ⟨rfl, positive⟩
        exact absurd positive negative
    | _ => simp [positive?, IsPositive]
  | _ => simp [positive?, IsPositive]

/-! ## The setting of a key -/

abbrev Entries := List (Yaml.Scalar × Yaml.Value)

def valueOf? (entries : Entries) (key : String) : Option Yaml.Value := entries.lookup (.text (.ofText key.toList))

/-- A setting is what the value of its key is, or the default if the key is missing. -/
inductive Sets {α : Type} (entries : Entries) (key : String) (kind : Yaml.Value → α → Prop) (default : α) : α → Prop
  | absent (missing : valueOf? entries key = none) : Sets entries key kind default default
  | present {value : Yaml.Value} {result : α} (stands : valueOf? entries key = some value)
      (isKind : kind value result) : Sets entries key kind default result

/-- The value of a key is not of the kind asked for. -/
def IsUnfit {α : Type} (entries : Entries) (key : String) (kind : Yaml.Value → α → Prop) : Prop :=
  ∃ value, valueOf? entries key = some value ∧ ∀ result, ¬ kind value result

section Setting

variable {α : Type} {entries : Entries} {key : String} {read? : Yaml.Value → Option α} {kind : Yaml.Value → α → Prop}
  {fault : Text → SettingsFault} {default result : α}

theorem setting_eq_ok_iff (reads : ∀ value result, read? value = some result ↔ kind value result) :
    setting entries key read? fault default = .ok result ↔ Sets entries key kind default result := by
  unfold setting
  constructor
  · intro success
    split at success
    · next missing =>
      cases success
      exact .absent missing
    · next value stands =>
      split at success
      · next isRead =>
        cases success
        exact .present stands ((reads ..).mp isRead)
      · cases success
  · rintro (missing | ⟨stands, isKind⟩)
    · rw [valueOf?] at missing
      rw [missing]
    · rw [valueOf?] at stands
      rw [stands]
      dsimp only
      rw [(reads ..).mpr isKind]

theorem setting_eq_error {failure : SettingsFault}
    (reads : ∀ value result, read? value = some result ↔ kind value result)
    (failed : setting entries key read? fault default = .error failure) :
    failure = fault key.toList ∧ IsUnfit entries key kind := by
  unfold setting at failed
  split at failed
  · cases failed
  · next value stands =>
    split at failed
    · cases failed
    · next unread =>
      cases failed
      refine ⟨rfl, value, stands, fun result isKind => ?_⟩
      rw [(reads ..).mpr isKind] at unread
      cases unread

end Setting

/-! ## The keys of a mapping -/

/-- A key is one that settings have. -/
def IsKnown (key : Yaml.Scalar) : Prop := ∃ name ∈ keys, key = .text name

theorem isKnown_text_iff {name : WideText} : IsKnown (.text name) ↔ name ∈ keys := by
  refine ⟨?_, fun member => ⟨name, member, rfl⟩⟩
  rintro ⟨other, member, same⟩
  rwa [Yaml.Scalar.text.inj same]

def HasKnownKeys (entries : Entries) : Prop := ∀ key ∈ entries.map Prod.fst, IsKnown key

def HasTextKeys (entries : Entries) : Prop := ∀ key ∈ entries.map Prod.fst, ∃ name, key = .text name

theorem scalar_text?_eq_some_iff (key : Yaml.Scalar) (name : WideText) : key.text? = some name ↔ key = .text name := by
  cases key <;> simp [Yaml.Scalar.text?]

theorem any_text?_iff {key : Yaml.Scalar} : key.text?.any keys.contains = true ↔ IsKnown key := by
  rw [Option.any_eq_true]
  simp only [scalar_text?_eq_some_iff, List.contains_eq_mem, decide_eq_true_eq, IsKnown]
  exact exists_congr fun name => and_comm

/-- Why unknown keys are refused that cannot all be named. -/
def isUnnamed : SettingsFault → Bool
  | .keyNotText _ | .keysUnordered .. | .datesUnordered | .zonesUnordered => true
  | _ => false

theorem isUnnamed_unnamedKeys (first : Yaml.Scalar) (rest : List Yaml.Scalar) :
    isUnnamed (unnamedKeys first rest) = true := by
  unfold unnamedKeys
  dsimp only
  split
  · rfl
  · split
    · split_ifs <;> rfl
    · split <;> rfl

variable {path : Path} {entries : Entries}

theorem mem_unknown_iff {key : Yaml.Scalar} :
    (key ∈ (entries.map Prod.fst).filter fun key => !(key.text?.any keys.contains)) ↔
      key ∈ entries.map Prod.fst ∧ ¬ IsKnown key := by
  rw [List.mem_filter, Bool.not_eq_true', ← any_text?_iff, Bool.not_eq_true]

theorem checkKeys_eq_ok_iff : checkKeys path entries = .ok () ↔ HasKnownKeys entries := by
  unfold checkKeys
  dsimp only
  split
  · next none =>
    refine ⟨fun _ key member => ?_, fun _ => rfl⟩
    by_contra unknown
    have isThere := mem_unknown_iff.mpr ⟨member, unknown⟩
    rw [none] at isThere
    cases isThere
  · next first rest some =>
    have isThere : first ∈ (entries.map Prod.fst).filter fun key => !(key.text?.any keys.contains) := by
      rw [some]
      exact List.mem_cons_self ..
    obtain ⟨member, unknown⟩ := mem_unknown_iff.mp isThere
    refine ⟨fun success => ?_, fun known => absurd (known first member) unknown⟩
    split at success <;> cases success

theorem hasTextKeys_of_unknown (texts : ∀ key ∈ entries.map Prod.fst, ¬ IsKnown key → ∃ name, key = .text name) :
    HasTextKeys entries := by
  intro key member
  by_cases known : IsKnown key
  · obtain ⟨name, -, isName⟩ := known
    exact ⟨name, isName⟩
  · exact texts key member known

/-- Unknown keys are named if they are texts. -/
theorem checkKeys_eq_error {fault : SettingsFault} (failed : checkKeys path entries = .error fault) :
    (HasTextKeys entries ∧ ∃ names, fault = .unknownKeys path names ∧ names ≠ [] ∧
      ∀ name, name ∈ names ↔ .text name ∈ entries.map Prod.fst ∧ name ∉ keys) ∨
    (¬ HasTextKeys entries ∧ isUnnamed fault = true) := by
  unfold checkKeys at failed
  dsimp only at failed
  split at failed
  · cases failed
  · next first rest some =>
    split at failed
    · next names named =>
      cases failed
      have unknown : (entries.map Prod.fst).filter (fun key => !(key.text?.any keys.contains)) =
          names.map .text := (mapM_eq_some_iff_map scalar_text?_eq_some_iff).mp named
      refine .inl ⟨hasTextKeys_of_unknown fun key member isUnknown => ?_, _, rfl, ?_, fun name => ?_⟩
      · have isThere := mem_unknown_iff.mpr ⟨member, isUnknown⟩
        rw [unknown] at isThere
        obtain ⟨name, -, isName⟩ := List.mem_map.mp isThere
        exact ⟨name, isName.symm⟩
      · intro empty
        have none : names = [] := List.length_eq_zero_iff.mp (by rw [← List.length_mergeSort, empty, List.length_nil])
        rw [some, none] at unknown
        cases unknown
      · calc
          name ∈ names.mergeSort _ ↔ name ∈ names := List.mem_mergeSort
          _ ↔ .text name ∈ names.map Yaml.Scalar.text := (List.mem_map_of_injective @Yaml.Scalar.text.inj).symm
          _ ↔ .text name ∈ entries.map Prod.fst ∧ ¬ IsKnown (.text name) := by rw [← unknown, mem_unknown_iff]
          _ ↔ .text name ∈ entries.map Prod.fst ∧ name ∉ keys := by rw [isKnown_text_iff]
    · next unnamed =>
      cases failed
      refine .inr ⟨fun texts => ?_, isUnnamed_unnamedKeys first rest⟩
      obtain ⟨key, member, noText⟩ := exists_of_mapM_eq_none unnamed
      obtain ⟨name, isName⟩ := texts key (List.mem_filter.mp member).1
      rw [(scalar_text?_eq_some_iff ..).mpr isName] at noText
      cases noText

/-! ## The value of a file -/

/-- The settings that a mapping gives. -/
structure Gives (entries : Entries) (settings : Settings) : Prop where
  known : HasKnownKeys entries
  extensions : Sets entries "extensions" IsTexts default.extensions settings.extensions
  exclude : Sets entries "exclude" IsTexts default.exclude settings.exclude
  maxIterations : Sets entries "max_iterations" IsPositive default.maxIterations settings.maxIterations
  maxCallDepth : Sets entries "max_call_depth" IsPositive default.maxCallDepth settings.maxCallDepth
  encoding : Sets entries "encoding" IsText default.encoding settings.encoding

/-- The settings that the value of a file gives. A file with no value, or with the empty one, gives the default. -/
inductive IsConfiguration : Option Yaml.Value → Settings → Prop
  | none : IsConfiguration none .default
  | null : IsConfiguration (some (.scalar .null)) .default
  | mapping {entries : Entries} {settings : Settings} (gives : Gives entries settings) :
      IsConfiguration (some (.mapping entries)) settings

/-- What is wrong with the value of a file. -/
inductive Refuses (path : Path) : Option Yaml.Value → SettingsFault → Prop
  | notMapping {value : Yaml.Value} (notNull : value ≠ .scalar .null)
      (noMapping : ∀ entries, value ≠ .mapping entries) :
      Refuses path (some value) (.notMapping path)
  | unknownKeys {entries : Entries} {names : List WideText} (nonempty : names ≠ [])
      (unknown : ∀ name, name ∈ names ↔ .text name ∈ entries.map Prod.fst ∧ name ∉ keys) :
      Refuses path (some (.mapping entries)) (.unknownKeys path names)
  | notTexts {entries : Entries} {key : String} (known : HasKnownKeys entries)
      (isKey : key = "extensions" ∨ key = "exclude") (unfit : IsUnfit entries key IsTexts) :
      Refuses path (some (.mapping entries)) (.notTexts path key.toList)
  | notPositive {entries : Entries} {key : String} (known : HasKnownKeys entries)
      (isKey : key = "max_iterations" ∨ key = "max_call_depth") (unfit : IsUnfit entries key IsPositive) :
      Refuses path (some (.mapping entries)) (.notPositive path key.toList)
  | notText {entries : Entries} (known : HasKnownKeys entries)
      (unfit : IsUnfit entries "encoding" IsText) :
      Refuses path (some (.mapping entries)) (.notText path "encoding".toList)

/-- A value is a mapping with a key that is no text. -/
def HasForeignKey (value : Option Yaml.Value) : Prop :=
  ∃ entries, value = some (.mapping entries) ∧ ¬ HasTextKeys entries

theorem ofYaml_mapping_eq_ok_iff {settings : Settings} :
    ofYaml path (some (.mapping entries)) = .ok settings ↔ Gives entries settings := by
  unfold ofYaml
  constructor
  · intro success
    obtain ⟨_, known, success⟩ := bind_eq_ok success
    obtain ⟨extensions, isExtensions, success⟩ := bind_eq_ok success
    obtain ⟨exclude, isExclude, success⟩ := bind_eq_ok success
    obtain ⟨maxIterations, isMaxIterations, success⟩ := bind_eq_ok success
    obtain ⟨maxCallDepth, isMaxCallDepth, success⟩ := bind_eq_ok success
    obtain ⟨encoding, isEncoding, success⟩ := bind_eq_ok success
    cases success
    exact ⟨checkKeys_eq_ok_iff.mp known, (setting_eq_ok_iff texts?_eq_some_iff).mp isExtensions,
      (setting_eq_ok_iff texts?_eq_some_iff).mp isExclude, (setting_eq_ok_iff positive?_eq_some_iff).mp isMaxIterations,
      (setting_eq_ok_iff positive?_eq_some_iff).mp isMaxCallDepth, (setting_eq_ok_iff text?_eq_some_iff).mp isEncoding⟩
  · rintro ⟨known, extensions, exclude, maxIterations, maxCallDepth, encoding⟩
    dsimp only
    rw [checkKeys_eq_ok_iff.mpr known, (setting_eq_ok_iff texts?_eq_some_iff).mpr extensions,
      (setting_eq_ok_iff texts?_eq_some_iff).mpr exclude, (setting_eq_ok_iff positive?_eq_some_iff).mpr maxIterations,
      (setting_eq_ok_iff positive?_eq_some_iff).mpr maxCallDepth, (setting_eq_ok_iff text?_eq_some_iff).mpr encoding]
    rfl

theorem hasTextKeys_of_known (known : HasKnownKeys entries) : HasTextKeys entries :=
  hasTextKeys_of_unknown fun key member unknown => absurd (known key member) unknown

theorem ofYaml_mapping_eq_error {fault : SettingsFault}
    (failed : ofYaml path (some (.mapping entries)) = .error fault) :
    (HasTextKeys entries ∧ Refuses path (some (.mapping entries)) fault) ∨
      (¬ HasTextKeys entries ∧ isUnnamed fault = true) := by
  unfold ofYaml at failed
  obtain unknown | ⟨_, checked, failed⟩ := bind_eq_error failed
  · obtain ⟨texts, names, rfl, nonempty, unknown⟩ | unnamed := checkKeys_eq_error unknown
    · exact .inl ⟨texts, .unknownKeys nonempty unknown⟩
    · exact .inr unnamed
  -- A value is looked at only when all keys are known, so that from here on they are texts.
  have known := checkKeys_eq_ok_iff.mp checked
  refine .inl ⟨hasTextKeys_of_known known, ?_⟩
  obtain refused | ⟨_, -, failed⟩ := bind_eq_error failed
  · obtain ⟨rfl, unfit⟩ := setting_eq_error texts?_eq_some_iff refused
    exact .notTexts known (.inl rfl) unfit
  obtain refused | ⟨_, -, failed⟩ := bind_eq_error failed
  · obtain ⟨rfl, unfit⟩ := setting_eq_error texts?_eq_some_iff refused
    exact .notTexts known (.inr rfl) unfit
  obtain refused | ⟨_, -, failed⟩ := bind_eq_error failed
  · obtain ⟨rfl, unfit⟩ := setting_eq_error positive?_eq_some_iff refused
    exact .notPositive known (.inl rfl) unfit
  obtain refused | ⟨_, -, failed⟩ := bind_eq_error failed
  · obtain ⟨rfl, unfit⟩ := setting_eq_error positive?_eq_some_iff refused
    exact .notPositive known (.inr rfl) unfit
  obtain refused | ⟨_, -, failed⟩ := bind_eq_error failed
  · obtain ⟨rfl, unfit⟩ := setting_eq_error text?_eq_some_iff refused
    exact .notText known unfit
  cases failed

/-- What the shape of a value alone decides. -/
theorem ofYaml_cases (path : Path) (value : Option Yaml.Value) :
    ((value = none ∨ value = some (.scalar .null)) ∧ ofYaml path value = .ok .default) ∨
    (∃ entries, value = some (.mapping entries)) ∨
    (∃ other, value = some other ∧ other ≠ .scalar .null ∧ (∀ entries, other ≠ .mapping entries) ∧
      ofYaml path value = .error (.notMapping path)) := by
  cases value with
  | none => exact .inl ⟨.inl rfl, rfl⟩
  | some value =>
    cases value with
    | mapping entries => exact .inr (.inl ⟨entries, rfl⟩)
    | scalar inner =>
      cases inner with
      | null => exact .inl ⟨.inr rfl, rfl⟩
      | _ => exact .inr (.inr ⟨_, rfl, by simp, by simp, rfl⟩)
    | _ => exact .inr (.inr ⟨_, rfl, by simp, by simp, rfl⟩)

variable {value : Option Yaml.Value} {settings : Settings} {fault : SettingsFault}

theorem ofYaml_eq_ok_iff : ofYaml path value = .ok settings ↔ IsConfiguration value settings := by
  obtain ⟨isEmpty, success⟩ | ⟨entries, rfl⟩ | ⟨other, rfl, notNull, noMapping, failed⟩ := ofYaml_cases path value
  · rw [success, Except.ok.injEq]
    obtain rfl | rfl := isEmpty
    · refine ⟨fun same => same ▸ .none, ?_⟩
      rintro ⟨⟩
      rfl
    · refine ⟨fun same => same ▸ .null, ?_⟩
      rintro ⟨⟩
      rfl
  · rw [ofYaml_mapping_eq_ok_iff]
    refine ⟨.mapping, fun isConfiguration => ?_⟩
    cases isConfiguration with
    | mapping gives => exact gives
  · rw [failed]
    refine ⟨fun success => (by cases success), ?_⟩
    rintro (_ | _ | _)
    · exact absurd rfl notNull
    · exact absurd rfl (noMapping _)

theorem ofYaml_eq_error (failed : ofYaml path value = .error fault) :
    (¬ HasForeignKey value ∧ Refuses path value fault) ∨ (HasForeignKey value ∧ isUnnamed fault = true) := by
  obtain ⟨-, success⟩ | ⟨entries, rfl⟩ | ⟨other, rfl, notNull, noMapping, refused⟩ := ofYaml_cases path value
  · rw [success] at failed
    cases failed
  · obtain ⟨texts, refuses⟩ | ⟨foreign, unnamed⟩ := ofYaml_mapping_eq_error failed
    · refine .inl ⟨?_, refuses⟩
      rintro ⟨_, same, foreign⟩
      cases same
      exact foreign texts
    · exact .inr ⟨⟨entries, rfl, foreign⟩, unnamed⟩
  · rw [refused] at failed
    cases failed
    refine .inl ⟨?_, .notMapping notNull noMapping⟩
    rintro ⟨entries, same, -⟩
    exact noMapping entries (Option.some.inj same)

theorem Sets.pos {key : String} {default result : Int} (sets : Sets entries key IsPositive default result)
    (isDefault : 0 < default) : 0 < result := by
  cases sets with
  | absent => exact isDefault
  | present _ isPositive => exact isPositive.2

theorem IsConfiguration.limits_pos (isConfiguration : IsConfiguration value settings) :
    0 < settings.maxIterations ∧ 0 < settings.maxCallDepth := by
  cases isConfiguration with
  | mapping gives => exact ⟨gives.maxIterations.pos (by decide), gives.maxCallDepth.pos (by decide)⟩
  | _ => decide

theorem Refuses.isReported (refuses : Refuses path value fault) : CommandLine.isReported fault = true := by
  cases refuses <;> rfl

theorem isReported_of_isUnnamed (unnamed : isUnnamed fault = true) : CommandLine.isReported fault = false := by
  cases fault <;> first | rfl | cases unnamed

end Settings

/-! ## The file of a run -/

/-- A file holds a value for a run: it is the file that the flag names, or without one the file that is looked for, and
the loader gives the value for its text. -/
structure Surroundings.Configures (surroundings : Surroundings) (flag : Option (Option Text)) (path : Path)
    (value : Option Yaml.Value) : Prop where
  located : (∃ name, flag = some (some name) ∧ path = .ofText name) ∨
    (flag = none ∧ surroundings.defaultPath = .ok path)
  held : ∃ id bytes, surroundings.workspace.read path = .ok (id, bytes) ∧
    surroundings.loader (.ofPortions (Utf8.portions bytes).1 (Utf8.portions bytes).2.isSome) = .ok value

namespace CommandLine

variable {surroundings : Surroundings} {flag : Option (Option Text)} {path : Path} {value : Option Yaml.Value}
  {fault : SettingsFault}

theorem readSettings_eq_ofYaml (configures : surroundings.Configures flag path value) :
    readSettings surroundings flag = Settings.ofYaml path value := by
  obtain ⟨id, bytes, isRead, loaded⟩ := configures.held
  have atPath : surroundings.settingsAt path = Settings.ofYaml path value := by
    simp only [Surroundings.settingsAt, isRead, Except.mapError, bind, Except.bind, loaded]
  obtain ⟨name, rfl, rfl⟩ | ⟨rfl, isPath⟩ := configures.located
  · exact atPath
  · obtain ⟨location, leads⟩ := (Workspace.find_of_read isRead).1
    simp only [readSettings, Surroundings.settings, isPath, leads, bind, Except.bind, atPath]

/-- A fault of the settings is reported, or it ends the program. -/
theorem run_of_readSettings {arguments : List Text} {invocation : Invocation} {command : Command}
    (isRead : Invocation.read arguments = .ok invocation) (isCommand : invocation.command = some command)
    (failed : readSettings surroundings invocation.config = .error fault) :
    run surroundings arguments =
      if isReported fault then
        ((⟨[], "Error loading config: ".toList ++ fault.message ++ ['\n']⟩, .done 2), surroundings.workspace)
      else ((⟨[], []⟩, .misconfigured fault), surroundings.workspace) := by
  simp only [run, isRead, isCommand, failed]

end CommandLine

namespace Settings

open CommandLine in
/-- Settings are accepted exactly when the file holds nothing or a mapping with known keys and fitting values, and they
are then these values, and the defaults for the keys that are missing. Everything else is refused for what is wrong with
it and reported, except that a key that is no text ends the program. -/
theorem ofYaml_exact (path : Path) (value : Option Yaml.Value) :
    (∀ settings, ofYaml path value = .ok settings ↔ IsConfiguration value settings) ∧
    (∀ settings, ofYaml path value = .ok settings → 0 < settings.maxIterations ∧ 0 < settings.maxCallDepth) ∧
    (∀ fault, ofYaml path value = .error fault →
      (¬ HasForeignKey value ∧ Refuses path value fault) ∨ (HasForeignKey value ∧ isUnnamed fault = true)) ∧
    (∀ surroundings flag, surroundings.Configures flag path value →
      readSettings surroundings flag = ofYaml path value) ∧
    (∀ surroundings arguments invocation command, Invocation.read arguments = .ok invocation →
      invocation.command = some command → surroundings.Configures invocation.config path value →
      ∀ fault, ofYaml path value = .error fault →
        (¬ HasForeignKey value → run surroundings arguments =
          ((⟨[], "Error loading config: ".toList ++ fault.message ++ ['\n']⟩, .done 2), surroundings.workspace)) ∧
        (HasForeignKey value → run surroundings arguments =
          ((⟨[], []⟩, .misconfigured fault), surroundings.workspace))) := by
  refine ⟨fun settings => ofYaml_eq_ok_iff, fun settings success => (ofYaml_eq_ok_iff.mp success).limits_pos,
    fun fault => ofYaml_eq_error, fun surroundings flag => readSettings_eq_ofYaml, ?_⟩
  intro surroundings arguments invocation command isRead isCommand configures fault failed
  rw [run_of_readSettings isRead isCommand ((readSettings_eq_ofYaml configures).trans failed)]
  obtain ⟨texts, refuses⟩ | ⟨foreign, unnamed⟩ := ofYaml_eq_error failed
  · rw [refuses.isReported]
    exact ⟨fun _ => rfl, fun foreign => absurd foreign texts⟩
  · rw [isReported_of_isUnnamed unnamed]
    exact ⟨fun texts => absurd foreign texts, fun _ => rfl⟩

/-- A run with a file of settings in its directory. -/
def configured (content : Text) : Surroundings where
  workspace :=
    { tree.entries := [(["w".toList], .directory), (["w".toList, "autoc.yaml".toList], .file 0)]
      tree.files := [(0, { bytes := Utf8.encode content })]
      directory := ["w".toList] }
  home := []
  homes := []
  configured := none

def configuredPath : Path := ⟨['/'], ["w".toList, "autoc.yaml".toList]⟩

/-- The file that stands there holds what its content is. -/
theorem configures_configured (content : Text)
    (loads : succeedsWith (fun _ => true)
      (Yaml.load (.ofPortions (Utf8.portions (Utf8.encode content)).1
        (Utf8.portions (Utf8.encode content)).2.isSome)) = true) :
    ∃ value, (configured content).Configures none configuredPath value := by
  obtain ⟨value, loaded, -⟩ := exists_of_succeedsWith loads
  exact ⟨value, .inr ⟨rfl, rfl⟩, 0, Utf8.encode content, rfl, loaded⟩

def scanHere : List Text := ["scan".toList, ".".toList]

theorem read_scanHere : CommandLine.Invocation.read scanHere = .ok ⟨none, some .scan, false, [".".toList]⟩ := by
  decide +kernel

/-- A limit that is a truth value. -/
def truthLimit : Text := "max_call_depth: yes\n".toList

open CommandLine in
theorem ofYaml_exact_truthLimit :
    ∃ value fault, (configured truthLimit).Configures none configuredPath value ∧
      ofYaml configuredPath value = .error fault ∧ Refuses configuredPath value fault ∧
      run (configured truthLimit) scanHere =
        ((⟨[], "Error loading config: /w/autoc.yaml: 'max_call_depth' must be a positive integer\n".toList⟩, .done 2),
          (configured truthLimit).workspace) := by
  obtain ⟨value, configures⟩ := configures_configured truthLimit (by decide +kernel)
  have refused : refusedWith
      (fun fault => isReported fault &&
        fault.message == "/w/autoc.yaml: 'max_call_depth' must be a positive integer".toList)
      (readSettings (configured truthLimit) none) = true := by decide +kernel
  obtain ⟨fault, failed, tested⟩ := exists_of_refusedWith refused
  obtain ⟨reported, isMessage⟩ := Bool.and_eq_true_iff.mp tested
  obtain ⟨-, -, refuses, reads, runs⟩ := ofYaml_exact configuredPath value
  rw [reads _ _ configures] at failed
  obtain ⟨texts, refuses⟩ | ⟨-, unnamed⟩ := refuses fault failed
  · refine ⟨value, fault, configures, failed, refuses, ?_⟩
    rw [(runs _ _ _ .scan read_scanHere rfl configures fault failed).1 texts, eq_of_beq isMessage]
    rfl
  · rw [isReported_of_isUnnamed unnamed] at reported
    cases reported

/-- A key that is a number. -/
def numberKey : Text := "1: 2\n".toList

open CommandLine in
/-- Not every fault of the settings is reported. -/
theorem not_ofYaml_reported :
    ¬ ∀ surroundings arguments invocation command path value, Invocation.read arguments = .ok invocation →
      invocation.command = some command → surroundings.Configures invocation.config path value →
      ∀ fault, readSettings surroundings invocation.config = .error fault →
        Refuses path value fault ∧ (run surroundings arguments).1.2 = .done 2 := by
  intro claimed
  obtain ⟨value, configures⟩ := configures_configured numberKey (by decide +kernel)
  have refused : refusedWith (fun fault => !isReported fault) (readSettings (configured numberKey) none) = true := by
    decide +kernel
  obtain ⟨fault, failed, unreported⟩ := exists_of_refusedWith refused
  have refuses := (claimed _ _ _ .scan _ value read_scanHere rfl configures fault failed).1
  rw [refuses.isReported] at unreported
  cases unreported

end Settings

end Regen
