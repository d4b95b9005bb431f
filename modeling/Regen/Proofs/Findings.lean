import Mathlib.Data.List.Lex
import Regen.Proofs.Routes
import Regen.Workspace.Regeneration

/-!
# What discovery finds

A path stands for the file it leads to, or for the files below the directory it leads to that have a wanted ending and
no excluded directory above them. Discovery lists these path by path, those of one path in the order of their parts,
and leaves out what an earlier path stands for. The only things that stop it are a path that leads nowhere and a path
that is too long to be looked at.
-/

namespace Regen

/-! ## The order of paths -/

/-- A character has a lower code than another one. -/
def codeBefore (c d : Char) : Prop := c.toNat < d.toNat

instance : Std.Asymm codeBefore := ⟨fun _ _ => Nat.lt_asymm⟩

instance : Std.Trichotomous codeBefore where
  trichotomous c d notBefore notAfter := by
    have same : c.toNat = d.toNat := Nat.le_antisymm (Nat.not_lt.mp notAfter) (Nat.not_lt.mp notBefore)
    exact Char.toNat_inj.mp same

instance : IsOrderConnected Char codeBefore where
  conn c d e before := by
    unfold codeBefore at *
    omega

/-- Parts in order: one by one, and each by the codes of its characters. -/
def PartsBefore : List Text → List Text → Prop := List.Lex (List.Lex codeBefore)

instance : Std.Asymm PartsBefore := inferInstanceAs (Std.Asymm (List.Lex (List.Lex codeBefore)))

instance : Std.Trichotomous PartsBefore := inferInstanceAs (Std.Trichotomous (List.Lex (List.Lex codeBefore)))

instance : IsOrderConnected (List Text) PartsBefore :=
  inferInstanceAs (IsOrderConnected _ (List.Lex (List.Lex codeBefore)))

theorem lex_precedes_iff {first second : List Text} :
    first.lex second Text.precedes = true ↔ PartsBefore first second := by
  have names : (fun first second : Text => first.precedes second = true) = List.Lex codeBefore := by
    funext first second
    rw [Text.precedes, List.lex_eq_true_iff_lex]
    simp only [Nat.blt_eq]
    rfl
  rw [List.lex_eq_true_iff_lex, names]
  rfl

/-- A path stands before another one, part by part. -/
def Path.IsBefore (path other : Path) : Prop := PartsBefore path.parts other.parts

namespace Workspace

variable {workspace : Workspace} {path : Path} {location : Location} {entry : Entry}

/-- A path leads to a file or a directory. -/
def Reaches (workspace : Workspace) (path : Path) : Prop := ∃ target, workspace.find path = .ok target

/-- The place that a path names, by its parts alone: a step up takes the last name away. -/
def resolved (workspace : Workspace) (path : Path) : Location :=
  path.parts.foldl (fun here part => if part = Path.up then here.dropLast else here ++ [part])
    (if path.isAbsolute then [] else workspace.directory)

/-- A path leads to the place that it names. -/
theorem resolved_of_find (found : workspace.find path = .ok (location, entry)) :
    workspace.resolved path = location := by
  obtain ⟨-, leads⟩ := follow_of_find found
  rw [resolved]
  generalize (if path.isAbsolute then [] else workspace.directory) = here at leads
  generalize path.parts = parts at leads
  induction parts generalizing here with
  | nil =>
    cases leads
    rfl
  | cons part rest ih =>
    rw [FileTree.follow] at leads
    rw [List.foldl_cons]
    split at leads
    · next isUp =>
      rw [if_pos isUp]
      exact ih _ leads
    · next notUp =>
      rw [if_neg notUp]
      split at leads
      · cases leads
      · split at leads
        · cases leads
        · exact ih _ leads
        · split at leads
          · next last =>
            cases leads
            rw [List.isEmpty_iff.mp last, List.foldl_nil]
          · cases leads

end Workspace

namespace Discovery

/-- Ways are in order: none stands before one that is listed ahead of it. -/
theorem pairwise_waysBelow (workspace : Workspace) (location : Location) :
    (waysBelow workspace location).Pairwise fun way later => ¬ PartsBefore later way := by
  have sorted : (waysBelow workspace location).Pairwise fun way later => (!(later.lex way Text.precedes)) = true := by
    apply List.pairwise_mergeSort
    · intro a b c
      simp only [Bool.not_eq_true', ← Bool.not_eq_true, lex_precedes_iff]
      intro ab bc ca
      exact (IsOrderConnected.conn c b a ca).elim bc ab
    · intro a b
      simp only [Bool.or_eq_true, Bool.not_eq_true', ← Bool.not_eq_true, lex_precedes_iff]
      by_cases before : PartsBefore b a
      · exact .inr (asymm before)
      · exact .inl before
  refine sorted.imp fun {way later} isSorted before => ?_
  rw [lex_precedes_iff.mpr before] at isSorted
  cases isSorted

/-! ## What a path stands for -/

/-- The ending of a file name is its last dot with what follows, if something stands before the dot and behind it. -/
def IsEnding (name ending : Text) : Prop :=
  (∃ stem rest, name = stem ++ '.' :: rest ∧ '.' ∉ rest ∧ stem ≠ [] ∧ rest ≠ [] ∧ ending = '.' :: rest) ∨
    ((∀ stem rest, name = stem ++ '.' :: rest → '.' ∉ rest → stem = [] ∨ rest = []) ∧ ending = [])

theorem takeWhile_reverse_of_not_mem {text : Text} (dotless : '.' ∉ text) (before : Text) :
    (text.reverse ++ before).takeWhile (· != '.') = text.reverse ++ before.takeWhile (· != '.') := by
  apply List.takeWhile_append_of_pos
  intro c member
  rw [bne_iff_ne]
  rintro rfl
  exact dotless (List.mem_reverse.mp member)

theorem suffix_append {stem rest : Text} (last : '.' ∉ rest) :
    suffix (stem ++ '.' :: rest) = if stem = [] ∨ rest = [] then [] else '.' :: rest := by
  have after : ((stem ++ '.' :: rest).reverse.takeWhile (· != '.')).reverse = rest := by
    rw [List.reverse_append, List.reverse_cons, List.append_assoc, takeWhile_reverse_of_not_mem last]
    simp
  rw [suffix, after]
  by_cases noStem : stem = []
  · simp [noStem]
  · have stemLength : 0 < stem.length := List.length_pos_iff.mpr noStem
    have long : ¬ (stem ++ '.' :: rest).length < rest.length + 2 := by
      simp only [List.length_append, List.length_cons]
      omega
    simp [noStem, List.isEmpty_iff, -List.length_append, long]

theorem suffix_of_not_mem {name : Text} (dotless : '.' ∉ name) : suffix name = [] := by
  have whole := takeWhile_reverse_of_not_mem dotless []
  rw [List.append_nil, List.takeWhile_nil, List.append_nil] at whole
  rw [suffix, whole, List.reverse_reverse]
  simp

theorem exists_last_dot {name : Text} (dotted : '.' ∈ name) : ∃ stem rest, name = stem ++ '.' :: rest ∧ '.' ∉ rest := by
  obtain ⟨back, front, split, last⟩ := List.eq_append_cons_of_mem (List.mem_reverse.mpr dotted)
  refine ⟨front.reverse, back.reverse, ?_, by simpa using last⟩
  rw [← List.reverse_reverse name, split]
  simp

theorem suffix_eq_iff {name ending : Text} : suffix name = ending ↔ IsEnding name ending := by
  constructor
  · rintro rfl
    by_cases dotted : '.' ∈ name
    · obtain ⟨stem, rest, rfl, last⟩ := exists_last_dot dotted
      by_cases bare : stem = [] ∨ rest = []
      · refine .inr ⟨fun stem' rest' split last' => ?_, by rw [suffix_append last, if_pos bare]⟩
        have same : suffix (stem ++ '.' :: rest) = [] := by rw [suffix_append last, if_pos bare]
        rw [split, suffix_append last'] at same
        by_contra proper
        rw [if_neg proper] at same
        cases same
      · rw [not_or] at bare
        refine .inl ⟨stem, rest, rfl, last, bare.1, bare.2, ?_⟩
        rw [suffix_append last, if_neg (not_or.mpr bare)]
    · refine .inr ⟨fun stem rest split _ => absurd ?_ dotted, suffix_of_not_mem dotted⟩
      rw [split]
      simp
  · rintro (⟨stem, rest, rfl, last, hasStem, goesOn, rfl⟩ | ⟨bare, rfl⟩)
    · rw [suffix_append last, if_neg (not_or.mpr ⟨hasStem, goesOn⟩)]
    · by_cases dotted : '.' ∈ name
      · obtain ⟨stem, rest, rfl, last⟩ := exists_last_dot dotted
        rw [suffix_append last, if_pos (bare stem rest rfl last)]
      · exact suffix_of_not_mem dotted

/-- The files that a path stands for: the one that it leads to, or those below the directory that it leads to which
have a wanted ending, whatever the case of its letters, and are in no excluded directory. -/
inductive StandsFor (workspace : Workspace) (settings : Settings) (path : Path) : FoundFile → Prop
  | itself {location : Location} {id : FileId} (leads : workspace.find path = .ok (location, .file id)) :
      StandsFor workspace settings path ⟨path, location⟩
  | below {directory : Location} {way : List Text} {name ending : Text} {extension : WideText} {id : FileId}
      (leads : workspace.find path = .ok (directory, .directory))
      (stands : workspace.tree.entry? (directory ++ (way ++ [name])) = some (.file id))
      (entered : ∀ part ∈ way, WideText.ofText part ∉ settings.exclude)
      (ends : IsEnding name ending) (wanted : extension ∈ settings.extensions)
      (alike : extension.lowercase = .ofText ending.lowercase) :
      StandsFor workspace settings path ⟨path.append (way ++ [name]), directory ++ (way ++ [name])⟩

/-- A place is that of a file that one of the paths stands for. -/
def IsCovered (workspace : Workspace) (settings : Settings) (paths : List Path) (location : Location) : Prop :=
  ∃ path ∈ paths, ∃ file, StandsFor workspace settings path file ∧ file.location = location

/-- Files listed path by path, behind some earlier paths: those that the path stands for and no path before it, in the
order of their parts. -/
inductive Lists (workspace : Workspace) (settings : Settings) : List Path → List Path → List FoundFile → Prop
  | nil {earlier : List Path} : Lists workspace settings earlier [] []
  | cons {earlier rest : List Path} {path : Path} {contribution found : List FoundFile}
      (ordered : contribution.Pairwise fun file later => file.path.IsBefore later.path)
      (exact : ∀ file, file ∈ contribution ↔
        StandsFor workspace settings path file ∧ ¬ IsCovered workspace settings earlier file.location)
      (more : Lists workspace settings (earlier ++ [path]) rest found) :
      Lists workspace settings earlier (path :: rest) (contribution ++ found)

variable {workspace : Workspace} {settings : Settings} {path : Path} {paths earlier : List Path}
  {found : List FoundFile} {file other : FoundFile} {location : Location}

theorem isCovered_cons : IsCovered workspace settings (path :: paths) location ↔
    (∃ file, StandsFor workspace settings path file ∧ file.location = location) ∨
      IsCovered workspace settings paths location := by
  simp [IsCovered]

theorem isCovered_concat : IsCovered workspace settings (earlier ++ [path]) location ↔
    IsCovered workspace settings earlier location ∨
      ∃ file, StandsFor workspace settings path file ∧ file.location = location := by
  simp only [IsCovered, List.mem_append, List.mem_singleton, or_and_right, exists_or, exists_eq_left]

/-- What is listed are the places that the paths cover and no earlier path does. -/
theorem Lists.exists_mem_iff (lists : Lists workspace settings earlier paths found) (location : Location) :
    (∃ file ∈ found, file.location = location) ↔
      IsCovered workspace settings paths location ∧ ¬ IsCovered workspace settings earlier location := by
  induction lists with
  | nil => simp [IsCovered]
  | @cons earlier rest path contribution found _ exact _ ih =>
    have here : (∃ file ∈ contribution, file.location = location) ↔
        (∃ file, StandsFor workspace settings path file ∧ file.location = location) ∧
          ¬ IsCovered workspace settings earlier location := by
      constructor
      · rintro ⟨file, member, rfl⟩
        obtain ⟨stands, fresh⟩ := (exact file).mp member
        exact ⟨⟨file, stands, rfl⟩, fresh⟩
      · rintro ⟨⟨file, stands, rfl⟩, fresh⟩
        exact ⟨file, (exact file).mpr ⟨stands, fresh⟩, rfl⟩
    rw [isCovered_concat] at ih
    simp only [List.mem_append, or_and_right, exists_or]
    rw [here, ih, isCovered_cons]
    by_cases stands : ∃ file, StandsFor workspace settings path file ∧ file.location = location
    · simp [stands]
    · simp [stands]

/-- The files of one path are told apart by the ways that lead to them. -/
theorem exists_start (workspace : Workspace) (settings : Settings) (path : Path) :
    ∃ start, ∀ file, StandsFor workspace settings path file → ∃ way, file = ⟨path.append way, start ++ way⟩ := by
  cases leads : workspace.find path with
  | error fault =>
    refine ⟨[], fun file stands => ?_⟩
    cases stands with
    | itself leads' | below leads' =>
      rw [leads] at leads'
      cases leads'
  | ok target =>
    refine ⟨target.1, fun file stands => ?_⟩
    cases stands with
    | itself leads' =>
      rw [leads] at leads'
      cases leads'
      exact ⟨[], by simp [Path.append]⟩
    | below leads' =>
      rw [leads] at leads'
      cases leads'
      exact ⟨_, rfl⟩

theorem StandsFor.eq_of_location (stands : StandsFor workspace settings path file)
    (stands' : StandsFor workspace settings path other) (same : file.location = other.location) : file = other := by
  obtain ⟨start, ways⟩ := exists_start workspace settings path
  obtain ⟨way, rfl⟩ := ways file stands
  obtain ⟨way', rfl⟩ := ways other stands'
  rw [List.append_cancel_left same]

theorem StandsFor.eq_of_parts (stands : StandsFor workspace settings path file)
    (stands' : StandsFor workspace settings path other) (same : file.path.parts = other.path.parts) : file = other := by
  obtain ⟨start, ways⟩ := exists_start workspace settings path
  obtain ⟨way, rfl⟩ := ways file stands
  obtain ⟨way', rfl⟩ := ways other stands'
  rw [List.append_cancel_left same]

/-! ## What one path gives -/

theorem mem_below_iff {tree : FileTree} {way : List Text} :
    way ∈ tree.below location ↔ way ≠ [] ∧ ∃ entry, tree.entry? (location ++ way) = some entry := by
  have listed : way ∈ tree.below location ↔ way ≠ [] ∧ ∃ item ∈ tree.entries, item.1 = location ++ way := by
    rw [FileTree.below, List.mem_filterMap]
    constructor
    · rintro ⟨⟨place, entry⟩, member, made⟩
      dsimp only at made
      split at made
      · next name rest goesOn =>
        cases made
        exact ⟨List.cons_ne_nil name rest, _, member, (List.isPrefixOf?_eq_some_iff_append_eq.mp goesOn).symm⟩
      · cases made
    · rintro ⟨nonempty, ⟨place, entry⟩, member, rfl⟩
      obtain ⟨name, rest, rfl⟩ := List.exists_cons_of_ne_nil nonempty
      refine ⟨_, member, ?_⟩
      dsimp only
      rw [List.isPrefixOf?_eq_some_iff_append_eq.mpr rfl]
  rw [listed]
  refine and_congr_right fun nonempty => ?_
  have notRoot : (location ++ way).isEmpty = false := by simp [nonempty]
  simp only [FileTree.entry?, Table.find?, notRoot, Bool.false_eq_true, if_false]
  rw [← Option.isSome_iff_exists, List.lookup_isSome_iff]
  simp only [beq_iff_eq]
  exact exists_congr fun item => and_congr_right fun _ => eq_comm

theorem mem_waysBelow_iff {way : List Text} :
    way ∈ waysBelow workspace location ↔
      way ≠ [] ∧ ∃ entry, workspace.tree.entry? (location ++ way) = some entry := by
  rw [waysBelow, List.mem_mergeSort, mem_below_iff]

theorem isLeftOut_eq_false_iff {way : List Text} :
    isLeftOut settings way = false ↔ ∀ part ∈ way.dropLast, WideText.ofText part ∉ settings.exclude := by
  simp [isLeftOut]

theorem isWanted_concat_iff {way : List Text} {name : Text} :
    isWanted settings (way ++ [name]) = true ↔ ∃ ending, IsEnding name ending ∧
      ∃ extension ∈ settings.extensions, extension.lowercase = .ofText ending.lowercase := by
  simp only [isWanted, List.getLast?_concat, List.contains_eq_mem, decide_eq_true_eq, List.mem_map, ← suffix_eq_iff,
    exists_eq_left']

/-- The files of a directory are made of the ways below it, one of each way that leads to a wanted file. -/
theorem inDirectory_eq_ok (success : inDirectory workspace settings path location = .ok found) :
    ∃ make : List Text → Option FoundFile, found = (waysBelow workspace location).filterMap make ∧
      ∀ way file, make way = some file ↔ (∃ id, workspace.tree.entry? (location ++ way) = some (.file id)) ∧
        isLeftOut settings way = false ∧ isWanted settings way = true ∧ file = ⟨path.append way, location ++ way⟩ := by
  unfold inDirectory at success
  split at success
  · cases success
  · cases success
    refine ⟨_, rfl, fun way file => ?_⟩
    split
    · next id stands =>
      cases isLeftOut settings way <;> cases isWanted settings way <;> simp [stands, eq_comm]
    · next other =>
      refine ⟨fun made => (by cases made), ?_⟩
      rintro ⟨⟨id, stands⟩, -⟩
      exact absurd stands (other id)

theorem mem_of_inDirectory (leads : workspace.find path = .ok (location, .directory))
    (success : inDirectory workspace settings path location = .ok found) :
    file ∈ found ↔ StandsFor workspace settings path file := by
  obtain ⟨make, rfl, makes⟩ := inDirectory_eq_ok success
  simp only [List.mem_filterMap, makes, mem_waysBelow_iff, isLeftOut_eq_false_iff]
  constructor
  · rintro ⟨way, ⟨nonempty, -⟩, ⟨id, stands⟩, entered, wanted, rfl⟩
    obtain ⟨way, name, rfl⟩ := (List.eq_nil_or_concat' way).resolve_left nonempty
    rw [List.dropLast_concat] at entered
    obtain ⟨ending, ends, extension, wanted, alike⟩ := isWanted_concat_iff.mp wanted
    exact .below leads stands entered ends wanted alike
  · intro stands
    cases stands with
    | itself leads' =>
      rw [leads] at leads'
      cases leads'
    | @below directory way name ending extension id leads' stands entered ends wanted alike =>
      rw [leads] at leads'
      cases leads'
      refine ⟨way ++ [name], ⟨by simp, _, stands⟩, ⟨id, stands⟩, ?_, ?_, rfl⟩
      · rwa [List.dropLast_concat]
      · exact isWanted_concat_iff.mpr ⟨ending, ends, extension, wanted, alike⟩

/-- Going on from one path keeps the order of ways. -/
theorem isBefore_append_iff {way other : List Text} :
    (path.append way).IsBefore (path.append other) ↔ PartsBefore way other := by
  have prepend (parts : List Text) : PartsBefore (parts ++ way) (parts ++ other) ↔ PartsBefore way other := by
    induction parts with
    | nil => exact Iff.rfl
    | cons part parts ih => exact List.lex_cons_iff.trans ih
  exact prepend path.parts

theorem pairwise_of_inDirectory (success : inDirectory workspace settings path location = .ok found) :
    found.Pairwise fun file later => ¬ later.path.IsBefore file.path := by
  obtain ⟨make, rfl, makes⟩ := inDirectory_eq_ok success
  refine (pairwise_waysBelow workspace location).filterMap _ fun way later sorted file made other made' => ?_
  obtain ⟨-, -, -, rfl⟩ := (makes ..).mp made
  obtain ⟨-, -, -, rfl⟩ := (makes ..).mp made'
  rwa [isBefore_append_iff]

theorem atPath_spec (success : atPath workspace settings path = .ok found) :
    (∃ target, workspace.find path = .ok target) ∧ (∀ file, file ∈ found ↔ StandsFor workspace settings path file) ∧
      found.Pairwise fun file later => ¬ later.path.IsBefore file.path := by
  unfold atPath at success
  cases leads : workspace.find path with
  | error fault =>
    rw [leads] at success
    cases success
  | ok target =>
    rw [leads] at success
    refine ⟨⟨target, rfl⟩, ?_⟩
    obtain ⟨location, entry⟩ := target
    cases entry with
    | directory => exact ⟨fun _ => mem_of_inDirectory leads success, pairwise_of_inDirectory success⟩
    | file id =>
      cases success
      refine ⟨fun file => ?_, List.pairwise_singleton ..⟩
      rw [List.mem_singleton]
      constructor
      · rintro rfl
        exact .itself leads
      · intro stands
        cases stands with
        | itself leads' =>
          rw [leads] at leads'
          cases leads'
          rfl
        | below leads' =>
          rw [leads] at leads'
          cases leads'

/-! ## What is left out -/

/-- One step of leaving out: a file is kept if no file with its place has been kept. -/
theorem firstSpellings_step (found : List FoundFile) (file : FoundFile) :
    firstSpellings (found ++ [file]) = firstSpellings found ++
      if file.location ∈ (firstSpellings found).map FoundFile.location then [] else [file] := by
  have step (kept : List FoundFile) :
      (if kept.any fun earlier => earlier.location == file.location then kept else file :: kept).reverse =
        kept.reverse ++ if file.location ∈ kept.reverse.map FoundFile.location then [] else [file] := by
    have keeps : (kept.any fun earlier => earlier.location == file.location) = true ↔
        file.location ∈ kept.reverse.map FoundFile.location := by
      simp
    by_cases came : file.location ∈ kept.reverse.map FoundFile.location
    · rw [if_pos (keeps.mpr came), if_pos came, List.append_nil]
    · rw [if_neg (mt keeps.mp came), if_neg came, List.reverse_cons]
  rw [firstSpellings, List.foldl_append]
  exact step _

/-- Leaving out keeps all places. -/
theorem mem_locations_firstSpellings (found : List FoundFile) :
    location ∈ (firstSpellings found).map FoundFile.location ↔ location ∈ found.map FoundFile.location := by
  induction found using List.reverseRecOn with
  | nil => rfl
  | append_singleton found file ih =>
    rw [firstSpellings_step, List.map_append, List.map_append, List.mem_append, List.mem_append, ih]
    split
    · next came =>
      refine ⟨fun member => .inl (member.resolve_right List.not_mem_nil), ?_⟩
      rintro (member | isLast)
      · exact .inl member
      · rw [List.map_singleton, List.mem_singleton] at isLast
        exact .inl (ih.mp (isLast ▸ came))
    · exact Iff.rfl

theorem firstSpellings_append (found later : List FoundFile) :
    firstSpellings (found ++ later) = firstSpellings found ++
      (firstSpellings later).filter fun file => file.location ∉ found.map FoundFile.location := by
  induction later using List.reverseRecOn with
  | nil => rw [List.append_nil]; exact (List.append_nil _).symm
  | append_singleton later file ih =>
    rw [← List.append_assoc, firstSpellings_step, ih, firstSpellings_step, List.filter_append, ← List.append_assoc]
    congr 1
    rw [← ih]
    simp only [mem_locations_firstSpellings, List.map_append, List.mem_append]
    by_cases inLater : file.location ∈ later.map FoundFile.location
    · rw [if_pos (.inr inLater), if_pos inLater, List.filter_nil]
    · rw [if_neg inLater]
      by_cases inFound : file.location ∈ found.map FoundFile.location
      · rw [if_pos (.inl inFound), List.filter_cons_of_neg (by simpa using inFound), List.filter_nil]
      · rw [if_neg (not_or.mpr ⟨inFound, inLater⟩), List.filter_cons_of_pos (by simpa using inFound), List.filter_nil]

/-- The files of one path have different places, so that all of them are kept. -/
theorem mem_firstSpellings_of_standsFor (stand : ∀ file ∈ found, StandsFor workspace settings path file) :
    file ∈ firstSpellings found ↔ file ∈ found := by
  refine ⟨(firstSpellings_spec found).2 file, fun member => ?_⟩
  obtain ⟨other, kept, same⟩ := List.mem_map.mp
    ((mem_locations_firstSpellings found).mpr (List.mem_map_of_mem member))
  have stands := stand other ((firstSpellings_spec found).2 other kept)
  rwa [← stands.eq_of_location (stand file member) same]

theorem firstSpellings_sublist (found : List FoundFile) : (firstSpellings found).Sublist found := by
  induction found using List.reverseRecOn with
  | nil => exact List.nil_sublist _
  | append_singleton found file ih =>
    rw [firstSpellings_step]
    refine ih.append ?_
    split
    · exact List.nil_sublist _
    · exact List.Sublist.refl _

/-- The files that one path adds are in order. -/
theorem pairwise_isBefore (stand : ∀ file ∈ found, StandsFor workspace settings path file)
    (sorted : found.Pairwise fun file later => ¬ later.path.IsBefore file.path) :
    (firstSpellings found).Pairwise fun file later => file.path.IsBefore later.path := by
  have distinct : (firstSpellings found).Pairwise fun file later => file.location ≠ later.location :=
    List.pairwise_map.mp (firstSpellings_spec found).1
  -- Files of one contribution with equal parts are at one place, so that distinct places make the order strict.
  have both := distinct.and (sorted.sublist (firstSpellings_sublist found))
  refine both.imp_of_mem fun {file later} member member' ⟨differ, notAfter⟩ => ?_
  have stands := stand file ((firstSpellings_spec found).2 file member)
  have stands' := stand later ((firstSpellings_spec found).2 later member')
  rcases trichotomous_of PartsBefore file.path.parts later.path.parts with before | same | after
  · exact before
  · exact absurd (congrArg FoundFile.location (stands.eq_of_parts stands' same)) differ
  · exact absurd after notAfter

/-- Leaving out what came up before lists the files path by path. -/
theorem lists_firstSpellings {lists : List (List FoundFile)}
    (success : List.Forall₂ (fun path found => atPath workspace settings path = .ok found) paths lists)
    (seen : List FoundFile)
    (covers : ∀ location, location ∈ seen.map FoundFile.location ↔ IsCovered workspace settings earlier location) :
    Lists workspace settings earlier paths
      ((firstSpellings lists.flatten).filter fun file => file.location ∉ seen.map FoundFile.location) := by
  -- `seen` holds what the earlier paths stand for, before anything was left out of it.
  induction success generalizing earlier seen with
  | nil => exact .nil
  | @cons path found paths lists first _ ih =>
    obtain ⟨-, stand, sorted⟩ := atPath_spec first
    have ordered := pairwise_isBefore (fun file => (stand file).mp) sorted
    have covered : ∀ location, location ∈ (seen ++ found).map FoundFile.location ↔
        IsCovered workspace settings (earlier ++ [path]) location := by
      intro location
      rw [isCovered_concat, ← covers, List.map_append, List.mem_append]
      simp only [List.mem_map, stand]
    have fresh : ((firstSpellings lists.flatten).filter fun file => file.location ∉ found.map FoundFile.location).filter
        (fun file => file.location ∉ seen.map FoundFile.location) =
        (firstSpellings lists.flatten).filter fun file => file.location ∉ (seen ++ found).map FoundFile.location := by
      rw [List.filter_filter]
      refine List.filter_congr fun file _ => ?_
      simp only [List.map_append, List.mem_append, not_or, Bool.decide_and]
    rw [List.flatten_cons, firstSpellings_append, List.filter_append, fresh]
    refine .cons (ordered.filter _) (fun file => ?_) (ih (seen ++ found) covered)
    rw [List.mem_filter, mem_firstSpellings_of_standsFor fun file => (stand file).mp, stand, decide_eq_true_eq, covers]

/-! ## What stops discovery -/

/-- What is too long to be looked at for a path: the path itself, or one below its directory that has to be opened or
asked for its kind. -/
inductive IsOverlong (workspace : Workspace) (settings : Settings) (path : Path) : Path → Prop
  | given (refused : workspace.find path = .error .nameTooLong) : IsOverlong workspace settings path path
  | below {directory : Location} {way : List Text} {entry : Entry}
      (leads : workspace.find path = .ok (directory, .directory)) (nonempty : way ≠ [])
      (stands : workspace.tree.entry? (directory ++ way) = some entry)
      (looked : entry = .directory ∨ ∀ part ∈ way.dropLast, WideText.ofText part ∉ settings.exclude)
      (long : (path.append way).isTooLong = true) : IsOverlong workspace settings path (path.append way)

theorem inDirectory_eq_error {nowhere : Path × AccessFault} (leads : workspace.find path = .ok (location, .directory))
    (failed : inDirectory workspace settings path location = .error nowhere) :
    IsOverlong workspace settings path nowhere.1 ∧ nowhere.2 = .nameTooLong := by
  unfold inDirectory at failed
  split at failed
  · next way isFirst =>
    cases failed
    refine ⟨?_, rfl⟩
    have long := List.find?_some isFirst
    rcases List.mem_append.mp (List.mem_of_find?_eq_some isFirst) with opened | asked
    · obtain ⟨inWays, isDirectory⟩ := List.mem_filter.mp opened
      exact .below leads (mem_waysBelow_iff.mp inWays).1 (eq_of_beq isDirectory) (.inl rfl) long
    · obtain ⟨inWays, entered⟩ := List.mem_filter.mp asked
      obtain ⟨nonempty, entry, stands⟩ := mem_waysBelow_iff.mp inWays
      rw [Bool.not_eq_true', isLeftOut_eq_false_iff] at entered
      exact .below leads nonempty stands (.inr entered) long
  · cases failed

/-- A path stops discovery if it leads nowhere or is too long. -/
theorem atPath_eq_error {nowhere : Path × AccessFault} (failed : atPath workspace settings path = .error nowhere) :
    (FileFailure.ofPath nowhere = .noSuchPath path ∧ ¬ workspace.Reaches path) ∨
      ∃ long, FileFailure.ofPath nowhere = .access long .nameTooLong ∧ IsOverlong workspace settings path long := by
  unfold atPath at failed
  cases leads : workspace.find path with
  | error fault =>
    rw [leads] at failed
    cases failed
    by_cases tooLong : fault = .nameTooLong
    · subst tooLong
      exact .inr ⟨path, rfl, .given leads⟩
    · refine .inl ⟨?_, ?_⟩
      · cases fault with
        | nameTooLong => exact absurd rfl tooLong
        | _ => rfl
      · rintro ⟨target, reached⟩
        rw [leads] at reached
        cases reached
  | ok target =>
    rw [leads] at failed
    obtain ⟨location, entry⟩ := target
    cases entry with
    | file id => cases failed
    | directory =>
      obtain ⟨overlong, isTooLong⟩ := inDirectory_eq_error leads failed
      obtain ⟨long, fault⟩ := nowhere
      obtain rfl : fault = .nameTooLong := isTooLong
      exact .inr ⟨long, rfl, overlong⟩

/-! ## All paths -/

/-- The files found are those that the paths stand for, each once and under its first path. -/
structure Exact (workspace : Workspace) (settings : Settings) (paths : List Path) (found : List FoundFile) : Prop where
  /-- Each file is where its path leads. -/
  leads : ∀ file ∈ found, file.location = workspace.resolved file.path ∧
    ∃ id, workspace.find file.path = .ok (file.location, .file id)
  distinct : (found.map fun file => workspace.resolved file.path).Nodup
  complete : ∀ location, (∃ file ∈ found, file.location = location) ↔ IsCovered workspace settings paths location
  lists : Lists workspace settings [] paths found

theorem exact_of_discover (wellFormed : workspace.tree.WellFormed) (canonical : ∀ path ∈ paths, path.Canonical)
    (success : discover workspace settings paths = .ok found) :
    (∀ path ∈ paths, workspace.Reaches path) ∧ Exact workspace settings paths found := by
  obtain ⟨distinct, leads⟩ := discover_spec wellFormed canonical success
  obtain ⟨lists, all, success⟩ := bind_eq_ok success
  cases success
  have each := mapM_eq_ok_iff.mp all
  have listed : Lists workspace settings [] paths (firstSpellings lists.flatten) := by
    have none : ∀ location, location ∈ ([] : List FoundFile).map FoundFile.location ↔
        IsCovered workspace settings [] location := by
      simp [IsCovered]
    simpa using lists_firstSpellings each [] none
  have placed : ∀ file ∈ firstSpellings lists.flatten, file.location = workspace.resolved file.path := by
    intro file member
    obtain ⟨id, found⟩ := (leads file member).found
    exact (Workspace.resolved_of_find found).symm
  refine ⟨fun path member => ?_, fun file member => ⟨placed file member, (leads file member).found⟩, ?_, ?_, listed⟩
  · have reached := each.imp fun _ _ success => And.intro (atPath_spec success).1 success
    exact ((List.forall₂_and_left ..).mp reached).1 path member
  · rwa [← List.map_congr_left placed]
  · intro location
    rw [listed.exists_mem_iff]
    simp [IsCovered]

theorem exists_of_discover_eq_error {nowhere : Path × AccessFault}
    (failed : discover workspace settings paths = .error nowhere) :
    ∃ before path after, paths = before ++ path :: after ∧ (∀ other ∈ before, workspace.Reaches other) ∧
      ((FileFailure.ofPath nowhere = .noSuchPath path ∧ ¬ workspace.Reaches path) ∨
        ∃ long, FileFailure.ofPath nowhere = .access long .nameTooLong ∧
          IsOverlong workspace settings path long) := by
  unfold discover at failed
  cases all : paths.mapM (atPath workspace settings) with
  | ok lists =>
    rw [all] at failed
    cases failed
  | error other =>
    rw [all] at failed
    cases failed
    obtain ⟨before, path, after, split, succeed, failed⟩ := mapM_eq_error all
    refine ⟨before, path, after, split, fun other member => ?_, atPath_eq_error failed⟩
    obtain ⟨found, success⟩ := succeed other member
    exact (atPath_spec success).1

/-- Discovery finds exactly the files that the paths stand for. It stops at the first path that leads nowhere or has
something too long about it, and a path that leads nowhere is missing only if its length is not the reason. -/
theorem discover_exact (wellFormed : workspace.tree.WellFormed) (settings : Settings) (names : List Text) :
    (∀ found, discover workspace settings (names.map Path.ofText) = .ok found →
      (∀ path ∈ names.map Path.ofText, workspace.Reaches path) ∧
        Exact workspace settings (names.map Path.ofText) found) ∧
    (∀ nowhere, discover workspace settings (names.map Path.ofText) = .error nowhere →
      ∃ before path after, names.map Path.ofText = before ++ path :: after ∧
        (∀ other ∈ before, workspace.Reaches other) ∧
        ((FileFailure.ofPath nowhere = .noSuchPath path ∧ ¬ workspace.Reaches path) ∨
          ∃ long, FileFailure.ofPath nowhere = .access long .nameTooLong ∧
            IsOverlong workspace settings path long)) ∧
    ((∀ path ∈ names.map Path.ofText, ∀ long, ¬ IsOverlong workspace settings path long) →
      ((∃ nowhere path, discover workspace settings (names.map Path.ofText) = .error nowhere ∧
          FileFailure.ofPath nowhere = .noSuchPath path) ↔
        ∃ path ∈ names.map Path.ofText, ¬ workspace.Reaches path) ∧
      ((∃ found, discover workspace settings (names.map Path.ofText) = .ok found) ↔
        ∀ path ∈ names.map Path.ofText, workspace.Reaches path)) := by
  have canonical : ∀ path ∈ names.map Path.ofText, path.Canonical := fun _ => Path.canonical_of_mem
  refine ⟨fun found => exact_of_discover wellFormed canonical, fun nowhere => exists_of_discover_eq_error, ?_⟩
  intro short
  have missing : ∀ nowhere, discover workspace settings (names.map Path.ofText) = .error nowhere →
      ∃ path ∈ names.map Path.ofText, FileFailure.ofPath nowhere = .noSuchPath path ∧ ¬ workspace.Reaches path := by
    intro nowhere failed
    obtain ⟨before, path, after, split, -, isMissing | ⟨long, -, overlong⟩⟩ := exists_of_discover_eq_error failed
    · exact ⟨path, by simp [split], isMissing⟩
    · exact absurd overlong (short path (by simp [split]) long)
  cases outcome : discover workspace settings (names.map Path.ofText) with
  | ok found =>
    obtain ⟨reached, -⟩ := exact_of_discover wellFormed canonical outcome
    refine ⟨⟨?_, ?_⟩, fun _ => reached, fun _ => ⟨found, rfl⟩⟩
    · rintro ⟨nowhere, path, failed, -⟩
      cases failed
    · rintro ⟨path, member, unreached⟩
      exact absurd (reached path member) unreached
  | error nowhere =>
    obtain ⟨path, member, isMissing, unreached⟩ := missing nowhere outcome
    refine ⟨⟨fun _ => ⟨path, member, unreached⟩, fun _ => ⟨nowhere, path, rfl, isMissing⟩⟩, ?_, fun reached => ?_⟩
    · rintro ⟨found, success⟩
      cases success
    · exact absurd (reached path member) unreached

/-- A directory with files below it, some of them in a directory that is excluded by default. -/
def nestedTree : Workspace where
  tree.entries :=
    [(["w".toList], .directory), (["w".toList, "a".toList], .directory),
      (["w".toList, "a".toList, "build".toList], .directory),
      (["w".toList, "a".toList, "build".toList, "y.c".toList], .file 0),
      (["w".toList, "a".toList, "x.C".toList], .file 1), (["w".toList, "b.txt".toList], .file 2)]
  tree.files := []
  directory := ["w".toList]

/-- Paths to its files: one that is not wanted, the directory, the excluded directory, and a file once more. -/
def nestedNames : List Text := ["a/../b.txt".toList, ".".toList, "a//build".toList, "../w/a/x.C".toList]

def nestedFiles : List FoundFile :=
  [⟨.ofText "a/../b.txt".toList, ["w".toList, "b.txt".toList]⟩,
    ⟨.ofText "a/x.C".toList, ["w".toList, "a".toList, "x.C".toList]⟩,
    ⟨.ofText "a/build/y.c".toList, ["w".toList, "a".toList, "build".toList, "y.c".toList]⟩]

/-- Ways that are listed in order are looked at in that order. -/
theorem waysBelow_of_pairwise
    (sorted : (workspace.tree.below location).Pairwise fun way later => (!(later.lex way Text.precedes)) = true) :
    waysBelow workspace location = workspace.tree.below location := List.mergeSort_of_pairwise sorted

theorem discover_nestedTree :
    nestedTree.tree.WellFormed ∧
      discover nestedTree .default (nestedNames.map Path.ofText) = .ok nestedFiles ∧
      Exact nestedTree .default (nestedNames.map Path.ofText) nestedFiles := by
  have wellFormed : nestedTree.tree.WellFormed := by decide +kernel
  have whole : atPath nestedTree .default (.ofText ".".toList) =
      .ok [⟨.ofText "a/x.C".toList, ["w".toList, "a".toList, "x.C".toList]⟩] := by
    have leads : nestedTree.find (.ofText ".".toList) = .ok (["w".toList], .directory) := by decide +kernel
    rw [atPath, leads]
    change inDirectory nestedTree .default _ ["w".toList] = _
    rw [inDirectory, waysLookedAt, waysBelow_of_pairwise (by decide +kernel)]
    decide +kernel
  have inside : atPath nestedTree .default (.ofText "a//build".toList) =
      .ok [⟨.ofText "a/build/y.c".toList, ["w".toList, "a".toList, "build".toList, "y.c".toList]⟩] := by
    have leads : nestedTree.find (.ofText "a//build".toList) =
        .ok (["w".toList, "a".toList, "build".toList], .directory) := by decide +kernel
    rw [atPath, leads]
    change inDirectory nestedTree .default _ ["w".toList, "a".toList, "build".toList] = _
    rw [inDirectory, waysLookedAt, waysBelow_of_pairwise (by decide +kernel)]
    decide +kernel
  have first : atPath nestedTree .default (.ofText "a/../b.txt".toList) =
      .ok [⟨.ofText "a/../b.txt".toList, ["w".toList, "b.txt".toList]⟩] := by decide +kernel
  have last : atPath nestedTree .default (.ofText "../w/a/x.C".toList) =
      .ok [⟨.ofText "../w/a/x.C".toList, ["w".toList, "a".toList, "x.C".toList]⟩] := by decide +kernel
  have success : discover nestedTree .default (nestedNames.map Path.ofText) = .ok nestedFiles := by
    have all := mapM_eq_ok_iff.mpr (.cons first (.cons whole (.cons inside (.cons last .nil))))
    change (List.mapM (atPath nestedTree .default) [_, _, _, _] >>= _) = _
    rw [all]
    decide +kernel
  exact ⟨wellFormed, success, ((discover_exact wellFormed .default nestedNames).1 nestedFiles success).2⟩

/-- No file has a name of 256 bytes, but a path with one is not reported as missing. -/
theorem not_discover_missing :
    ¬ ∀ (workspace : Workspace) (settings : Settings) (names : List Text), workspace.tree.WellFormed →
      ((∃ nowhere path, discover workspace settings (names.map Path.ofText) = .error nowhere ∧
          FileFailure.ofPath nowhere = .noSuchPath path) ↔
        ∃ path ∈ names.map Path.ofText, ¬ workspace.Reaches path) := by
  intro claimed
  have failed : discover ⟨.empty, []⟩ .default [.ofText (List.replicate 256 'a')] =
      .error (.ofText (List.replicate 256 'a'), .nameTooLong) := by decide +kernel
  have unreached : ¬ Workspace.Reaches ⟨.empty, []⟩ (.ofText (List.replicate 256 'a')) := by
    have refused : Workspace.find ⟨.empty, []⟩ (.ofText (List.replicate 256 'a')) = .error .nameTooLong := by
      decide +kernel
    rintro ⟨target, reached⟩
    rw [refused] at reached
    cases reached
  obtain ⟨nowhere, path, stops, isMissing⟩ :=
    (claimed ⟨.empty, []⟩ .default [List.replicate 256 'a'] (by decide)).mpr ⟨_, List.mem_singleton_self _, unreached⟩
  obtain rfl : _ = nowhere := Except.error.inj (failed.symm.trans stops)
  cases isMissing

end Discovery

end Regen
