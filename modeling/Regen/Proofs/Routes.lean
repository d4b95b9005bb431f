import Mathlib.Data.List.Infix
import Mathlib.Data.List.Nodup
import Regen.Discovery
import Regen.Proofs.Outcomes

/-! # Where paths lead

A path that a text denotes is written in one way only. In a tree where everything stands in a directory, a path to a
directory and a way down from there make a path to what is at the end of the way. So every file that discovery
finds is where its path leads, no two of them are one file, and no two are shown alike.
-/

namespace Regen

namespace Path

/-- A path as texts denote it: at most two slashes in front, and parts that mean something. -/
structure Canonical (path : Path) : Prop where
  root : path.root = [] ∨ path.root = ['/'] ∨ path.root = ['/', '/']
  parts : ∀ part ∈ path.parts, part ≠ [] ∧ part ≠ ['.'] ∧ '/' ∉ part

theorem not_mem_of_mem_splitOn {text part : Text} (member : part ∈ text.splitOn '/') : '/' ∉ part := by
  induction text generalizing part with
  | nil =>
    obtain rfl : part = [] := by simpa [List.splitOn] using member
    exact List.not_mem_nil
  | cons c rest ih =>
    rw [List.splitOn, List.splitOnP_cons_eq_if_modifyHead, ← List.splitOn] at member
    split at member
    · rcases List.mem_cons.mp member with rfl | member
      · exact List.not_mem_nil
      · exact ih member
    · next other =>
      obtain ⟨first, later, split⟩ := List.exists_cons_of_ne_nil (List.splitOnP_ne_nil (· == '/') rest)
      rw [List.splitOn, split, List.modifyHead_cons] at member
      rw [List.splitOn, split] at ih
      rcases List.mem_cons.mp member with rfl | member
      · have differs : c ≠ '/' := by simpa using other
        simpa [differs.symm] using ih (List.mem_cons_self ..)
      · exact ih (List.mem_cons_of_mem _ member)

theorem canonical_ofText (text : Text) : (ofText text).Canonical where
  root := by
    have slashes : ∀ c ∈ text.takeWhile (· == '/'), c = '/' := fun c member =>
      beq_iff_eq.mp (List.all_eq_true.mp List.all_takeWhile c member)
    simp only [ofText]
    split
    · next short =>
      generalize text.takeWhile (· == '/') = front at slashes short
      match front with
      | [] => exact .inl rfl
      | [c] => simp_all
      | [c, d] => simp_all
      | _ :: _ :: _ :: _ => simp at short
    · exact .inr (.inl rfl)
  parts := by
    intro part member
    obtain ⟨member, meant⟩ := List.mem_filter.mp member
    simp only [Bool.and_eq_true, decide_eq_true_eq] at meant
    exact ⟨meant.1, meant.2, not_mem_of_mem_splitOn member⟩

variable {path other : Path}

theorem canonical_of_mem {texts : List Text} (member : path ∈ texts.map ofText) : path.Canonical := by
  obtain ⟨text, _, rfl⟩ := List.mem_map.mp member
  exact canonical_ofText text

theorem Canonical.append (canonical : path.Canonical) {way : List Text}
    (names : ∀ name ∈ way, name ≠ [] ∧ name ≠ ['.'] ∧ '/' ∉ name) : (path.append way).Canonical :=
  ⟨canonical.root, fun part member => (List.mem_append.mp member).elim (canonical.parts part) (names part)⟩

/-- What the text of a path falls into: the slashes in front, and the parts. -/
theorem splitOn_append_intercalate {root : Text} (isRoot : root = [] ∨ root = ['/'] ∨ root = ['/', '/'])
    {parts : List Text} (named : ∀ part ∈ parts, part ≠ [] ∧ part ≠ ['.'] ∧ '/' ∉ part) (some : parts ≠ []) :
    ((root ++ ['/'].intercalate parts).splitOn '/').filter (fun part => part ≠ [] && part ≠ ['.']) = parts := by
  have split : (['/'].intercalate parts).splitOn '/' = parts :=
    List.splitOn_intercalate '/' (fun part member => (named part member).2.2) some
  have kept : parts.filter (fun part => part ≠ [] && part ≠ ['.']) = parts := by
    rw [List.filter_eq_self]
    intro part member
    obtain ⟨nonempty, moves, _⟩ := named part member
    simp [nonempty, moves]
  have slash (text : Text) : (('/' :: text).splitOn '/').filter (fun part => part ≠ [] && part ≠ ['.']) =
      (text.splitOn '/').filter fun part => part ≠ [] && part ≠ ['.'] := by
    rw [List.splitOn, List.splitOnP_cons_eq_if_modifyHead]
    rfl
  rcases isRoot with rfl | rfl | rfl
  · rw [List.nil_append, split, kept]
  · rw [List.singleton_append, slash, split, kept]
  · rw [List.cons_append, List.singleton_append, slash, slash, split, kept]

/-- The path that the text of a path denotes is the path. -/
theorem ofText_render (canonical : path.Canonical) : ofText path.render = path := by
  obtain ⟨root, parts⟩ := path
  obtain ⟨isRoot, named⟩ := canonical
  cases parts with
  | nil => rcases isRoot with rfl | rfl | rfl <;> rfl
  | cons first later =>
    have front : (root ++ ['/'].intercalate (first :: later)).takeWhile (· == '/') = root := by
      obtain ⟨nonempty, _, noSlash⟩ := named first (List.mem_cons_self ..)
      obtain ⟨c, tail, rfl⟩ := List.exists_cons_of_ne_nil nonempty
      have starts : ∃ rest, ['/'].intercalate ((c :: tail) :: later) = c :: rest := by
        cases later with
        | nil => exact ⟨tail, by simp⟩
        | cons next rest => exact ⟨_, by rw [List.intercalate_cons_cons]; rfl⟩
      obtain ⟨rest, starts⟩ := starts
      have differs : c ≠ '/' := fun same => noSlash (same ▸ List.mem_cons_self ..)
      rw [starts]
      rcases isRoot with rfl | rfl | rfl <;> simp [differs]
    have short : root.length ≤ 2 := by
      rcases isRoot with rfl | rfl | rfl <;> decide
    have parts := splitOn_append_intercalate isRoot named (List.cons_ne_nil first later)
    simp only [render, List.isEmpty_cons, Bool.false_eq_true, if_false, ofText, front, if_pos short]
    exact congrArg (Path.mk root) parts

/-- Paths that texts denote are shown differently. -/
theorem eq_of_render_eq (canonical : path.Canonical) (canonical' : other.Canonical)
    (same : path.render = other.render) : path = other := by
  rw [← ofText_render canonical, same, ofText_render canonical']

theorem mem_intercalate_iff {c : Char} (differs : c ≠ '/') (parts : List Text) :
    c ∈ ['/'].intercalate parts ↔ ∃ part ∈ parts, c ∈ part := by
  induction parts with
  | nil => simp
  | cons part rest ih =>
    cases rest with
    | nil => simp
    | cons next rest =>
      rw [List.intercalate_cons_cons, List.mem_append, List.mem_append, ih]
      simp [differs]

/-- A path holds a character other than slash and dot exactly if its root or one of its parts does. -/
theorem mem_render_iff {c : Char} (noSlash : c ≠ '/') (noDot : c ≠ '.') :
    c ∈ path.render ↔ c ∈ path.root ∨ ∃ part ∈ path.parts, c ∈ part := by
  unfold render
  split
  · next empty =>
    obtain empty : path.parts = [] := List.isEmpty_iff.mp empty
    split
    · next rootless =>
      rw [List.isEmpty_iff.mp rootless, empty]
      simp [noDot]
    · simp [empty]
  · rw [List.mem_append, mem_intercalate_iff noSlash]

end Path

namespace FileTree

/-- What a file or directory may be called. -/
structure IsName (name : Text) : Prop where
  nonempty : name ≠ []
  noDot : name ≠ ['.']
  noStepUp : name ≠ Path.up
  noSlash : '/' ∉ name
  noNull : '\x00' ∉ name
  short : name.utf8Size ≤ Path.maxNameSize

instance (name : Text) : Decidable (IsName name) :=
  decidable_of_iff (name ≠ [] ∧ name ≠ ['.'] ∧ name ≠ Path.up ∧ '/' ∉ name ∧ '\x00' ∉ name ∧
      name.utf8Size ≤ Path.maxNameSize)
    ⟨fun ⟨nonempty, noDot, noStepUp, noSlash, noNull, short⟩ => ⟨nonempty, noDot, noStepUp, noSlash, noNull, short⟩,
      fun isName => ⟨isName.1, isName.2, isName.3, isName.4, isName.5, isName.6⟩⟩

/-- A tree in which all places have proper names and stand in directories. -/
structure WellFormed (tree : FileTree) : Prop where
  names : ∀ item ∈ tree.entries, ∀ name ∈ item.1, IsName name
  parents : ∀ item ∈ tree.entries, tree.entry? item.1.dropLast = some .directory

instance (tree : FileTree) : Decidable tree.WellFormed :=
  decidable_of_iff ((tree.entries.all fun item => item.1.all fun name => decide (IsName name)) = true ∧
      (tree.entries.all fun item => tree.entry? item.1.dropLast == some .directory) = true)
    ⟨fun ⟨names, parents⟩ => ⟨by simpa using names, by simpa using parents⟩,
      fun ⟨names, parents⟩ => ⟨by simpa using names, by simpa using parents⟩⟩

variable {tree : FileTree} {here location : Location} {entry : Entry} {parts way : List Text} {id : FileId}

theorem mem_entries (nonempty : location ≠ []) (stands : tree.entry? location = some entry) :
    (location, entry) ∈ tree.entries := by
  unfold entry? at stands
  rw [if_neg (by simpa using nonempty)] at stands
  exact Table.mem_of_find? stands

/-- All that a way to something passes through is a directory. -/
theorem WellFormed.directory_above (wellFormed : tree.WellFormed) (goesOn : way ≠ [])
    (stands : tree.entry? (here ++ way) = some entry) : tree.entry? here = some .directory := by
  induction way using List.reverseRecOn generalizing entry with
  | nil => exact absurd rfl goesOn
  | append_singleton way name ih =>
    rw [← List.append_assoc] at stands
    have parent := wellFormed.parents _ (mem_entries (by simp) stands)
    rw [List.dropLast_concat] at parent
    by_cases first : way = []
    · rwa [first, List.append_nil] at parent
    · exact ih first parent

/-- Going on from the directory that a path leads to. -/
theorem follow_append (leads : tree.follow here parts = .ok (location, .directory)) :
    tree.follow here (parts ++ way) = tree.follow location way := by
  induction parts generalizing here with
  | nil =>
    cases leads
    rfl
  | cons part rest ih =>
    rw [follow] at leads
    rw [List.cons_append, follow]
    split at leads
    · next isUp => rw [if_pos isUp, ih leads]
    · next notUp =>
      rw [if_neg notUp]
      split at leads
      · cases leads
      · next short =>
        rw [if_neg short]
        split at leads
        · cases leads
        · exact ih leads
        · split at leads <;> cases leads

/-- A way down from a place leads to what stands at its end. -/
theorem WellFormed.follow_way (wellFormed : tree.WellFormed) (goesOn : way ≠ [])
    (stands : tree.entry? (here ++ way) = some entry) : tree.follow here way = .ok (here ++ way, entry) := by
  induction way generalizing here with
  | nil => exact absurd rfl goesOn
  | cons name rest ih =>
    have isName : IsName name := wellFormed.names _ (mem_entries (by simp) stands) name (by simp)
    rw [follow, if_neg isName.noStepUp, if_neg (Nat.not_lt.mpr isName.short)]
    cases rest with
    | nil =>
      rw [stands]
      cases entry <;> rfl
    | cons next rest =>
      have split : here ++ name :: next :: rest = here ++ [name] ++ next :: rest := List.append_cons ..
      rw [split] at stands ⊢
      rw [wellFormed.directory_above (List.cons_ne_nil next rest) stands]
      exact ih (List.cons_ne_nil next rest) stands

/-- A path that leads to a file leads to where the file stands. -/
theorem entry?_of_follow (leads : tree.follow here parts = .ok (location, .file id)) :
    tree.entry? location = some (.file id) := by
  induction parts generalizing here with
  | nil => cases leads
  | cons part rest ih =>
    unfold follow at leads
    split at leads
    · exact ih leads
    · split at leads
      · cases leads
      · split at leads
        · cases leads
        · exact ih leads
        · next stands =>
          split at leads
          · cases leads
            exact stands
          · cases leads

end FileTree

namespace Workspace

variable {workspace : Workspace} {path : Path} {location : Location} {entry : Entry} {way : List Text} {id : FileId}

theorem follow_of_find (found : workspace.find path = .ok (location, entry)) :
    '\x00' ∉ path.render ∧
      workspace.tree.follow (if path.isAbsolute then [] else workspace.directory) path.parts =
        .ok (location, entry) := by
  unfold find at found
  split at found
  · cases found
  · next noNull =>
    split at found
    · cases found
    · exact ⟨by simpa using noNull, found⟩

theorem read_of_find (leads : workspace.find path = .ok (location, .file id)) :
    workspace.read path =
      if (workspace.tree.file id).readable then .ok (id, (workspace.tree.file id).bytes) else .error .denied := by
  unfold read
  rw [leads]
  rfl

/-- What is read is the content of the file to which the path leads. -/
theorem find_of_read {bytes : Bytes} (success : workspace.read path = .ok (id, bytes)) :
    (∃ location, workspace.find path = .ok (location, .file id)) ∧ (workspace.tree.file id).bytes = bytes := by
  obtain ⟨⟨location, entry⟩, leads, _⟩ := bind_eq_ok success
  cases entry with
  | directory =>
    unfold read at success
    rw [leads] at success
    cases success
  | file number =>
    rw [read_of_find leads] at success
    split at success
    · cases success
      exact ⟨⟨location, leads⟩, rfl⟩
    · cases success

theorem find_append (wellFormed : workspace.tree.WellFormed) (found : workspace.find path = .ok (location, .directory))
    (goesOn : way ≠ []) (stands : workspace.tree.entry? (location ++ way) = some entry)
    (short : (path.append way).isTooLong = false) :
    workspace.find (path.append way) = .ok (location ++ way, entry) := by
  obtain ⟨noNull, leads⟩ := follow_of_find found
  have names : ∀ name ∈ way, FileTree.IsName name := fun name member =>
    wellFormed.names _ (FileTree.mem_entries (by simp [goesOn]) stands) name (List.mem_append_right _ member)
  have stillNoNull : (path.append way).render.contains '\x00' = false := by
    rw [Path.mem_render_iff (by decide) (by decide), not_or] at noNull
    rw [List.contains_eq_mem, decide_eq_false_iff_not, Path.mem_render_iff (by decide) (by decide), not_or]
    refine ⟨noNull.1, ?_⟩
    rintro ⟨part, member, inside⟩
    rcases List.mem_append.mp member with member | member
    · exact noNull.2 ⟨part, member, inside⟩
    · exact (names part member).noNull inside
  rw [find, stillNoNull, short]
  exact (FileTree.follow_append leads).trans (wellFormed.follow_way goesOn stands)

end Workspace

/-- A file is where its path leads, and its path is one that a text denotes. -/
structure FoundFile.Leads (workspace : Workspace) (file : FoundFile) : Prop where
  canonical : file.path.Canonical
  found : ∃ id, workspace.find file.path = .ok (file.location, .file id)

namespace Discovery

variable {workspace : Workspace} {settings : Settings} {path : Path} {found : List FoundFile}

theorem inDirectory_leads (wellFormed : workspace.tree.WellFormed) (canonical : path.Canonical) {location : Location}
    (leads : workspace.find path = .ok (location, .directory))
    (success : inDirectory workspace settings path location = .ok found) :
    ∀ file ∈ found, file.Leads workspace := by
  unfold inDirectory at success
  split at success
  · cases success
  · next noneLong =>
    cases success
    intro file member
    obtain ⟨way, inWays, made⟩ := List.mem_filterMap.mp member
    split at made
    · next id stands =>
      split at made
      · next wanted =>
        cases made
        rw [Bool.and_eq_true] at wanted
        have goesOn : way ≠ [] := by
          rintro rfl
          cases wanted.2
        have lookedAt : way ∈ waysLookedAt workspace settings location :=
          List.mem_append_right _ (List.mem_filter.mpr ⟨inWays, wanted.1⟩)
        have short := List.find?_eq_none.mp noneLong way lookedAt
        refine ⟨canonical.append fun name inWay => ?_, id, ?_⟩
        · have isName := wellFormed.names _ (FileTree.mem_entries (by simp [goesOn]) stands) name
            (List.mem_append_right _ inWay)
          exact ⟨isName.nonempty, isName.noDot, isName.noSlash⟩
        · exact Workspace.find_append wellFormed leads goesOn stands (Bool.eq_false_iff.mpr short)
      · cases made
    · cases made

theorem atPath_leads (wellFormed : workspace.tree.WellFormed) (canonical : path.Canonical)
    (success : atPath workspace settings path = .ok found) : ∀ file ∈ found, file.Leads workspace := by
  unfold atPath at success
  cases leads : workspace.find path with
  | error fault =>
    rw [leads] at success
    cases success
  | ok target =>
    rw [leads] at success
    obtain ⟨location, entry⟩ := target
    cases entry with
    | file id =>
      cases success
      intro file member
      obtain rfl := List.mem_singleton.mp member
      exact ⟨canonical, id, leads⟩
    | directory => exact inDirectory_leads wellFormed canonical leads success

theorem forall_leads (wellFormed : workspace.tree.WellFormed) {paths : List Path} {lists : List (List FoundFile)}
    (canonical : ∀ path ∈ paths, path.Canonical)
    (success : List.Forall₂ (fun path found => atPath workspace settings path = .ok found) paths lists) :
    ∀ list ∈ lists, ∀ file ∈ list, file.Leads workspace := by
  induction success with
  | nil =>
    intro list member
    cases member
  | cons first _ ih =>
    rw [List.forall_mem_cons] at canonical ⊢
    exact ⟨atPath_leads wellFormed canonical.1 first, ih canonical.2⟩

/-- Leaving out what came up before keeps one file for each place. -/
theorem firstSpellings_spec (found : List FoundFile) :
    ((firstSpellings found).map FoundFile.location).Nodup ∧ ∀ file ∈ firstSpellings found, file ∈ found := by
  -- the invariant of the pass: what is kept has distinct places and came up
  have pass (later kept : List FoundFile) (distinct : (kept.map FoundFile.location).Nodup) :
      let result := later.foldl (fun kept file =>
        if kept.any fun earlier => earlier.location == file.location then kept else file :: kept) kept
      (result.map FoundFile.location).Nodup ∧ ∀ file ∈ result, file ∈ kept ∨ file ∈ later := by
    induction later generalizing kept with
    | nil => exact ⟨distinct, fun file member => .inl member⟩
    | cons next later ih =>
      rw [List.foldl_cons]
      split
      · obtain ⟨nodup, origin⟩ := ih kept distinct
        exact ⟨nodup, fun file member => (origin file member).imp_right (List.mem_cons_of_mem _)⟩
      · next fresh =>
        have notKept : next.location ∉ kept.map FoundFile.location := by
          simpa [List.any_eq_true] using fresh
        obtain ⟨nodup, origin⟩ := ih (next :: kept) (List.nodup_cons.mpr ⟨notKept, distinct⟩)
        refine ⟨nodup, fun file member => ?_⟩
        rcases origin file member with inKept | inLater
        · rcases List.mem_cons.mp inKept with rfl | inKept
          · exact .inr (List.mem_cons_self ..)
          · exact .inl inKept
        · exact .inr (List.mem_cons_of_mem _ inLater)
  obtain ⟨nodup, origin⟩ := pass found [] List.nodup_nil
  refine ⟨?_, fun file member => ?_⟩
  · rw [firstSpellings, List.map_reverse]
    exact List.nodup_reverse.mpr nodup
  · rcases origin file (List.mem_reverse.mp member) with none | inFound
    · cases none
    · exact inFound

/-- What discovery finds are files at different places, each where its path leads. -/
theorem discover_spec (wellFormed : workspace.tree.WellFormed) {paths : List Path}
    (canonical : ∀ path ∈ paths, path.Canonical) (success : discover workspace settings paths = .ok found) :
    (found.map FoundFile.location).Nodup ∧ ∀ file ∈ found, file.Leads workspace := by
  unfold discover at success
  cases all : paths.mapM (atPath workspace settings) with
  | error nowhere =>
    rw [all] at success
    cases success
  | ok lists =>
    rw [all] at success
    cases success
    obtain ⟨nodup, origin⟩ := firstSpellings_spec lists.flatten
    refine ⟨nodup, fun file member => ?_⟩
    obtain ⟨list, inLists, inList⟩ := List.mem_flatten.mp (origin file member)
    exact forall_leads wellFormed canonical (mapM_eq_ok_iff.mp all) list inLists file inList

/-- Files at different places are shown differently. -/
theorem nodup_render (distinct : (found.map FoundFile.location).Nodup) (leads : ∀ file ∈ found, file.Leads workspace) :
    (found.map fun file => file.path.render).Nodup := by
  refine List.Nodup.map_on (fun file member other member' same => ?_) (List.Nodup.of_map _ distinct)
  have samePath := Path.eq_of_render_eq (leads file member).canonical (leads other member').canonical same
  obtain ⟨id, found⟩ := (leads file member).found
  obtain ⟨id', found'⟩ := (leads other member').found
  rw [samePath, found'] at found
  exact List.inj_on_of_nodup_map distinct member member' (Prod.mk.inj (Except.ok.inj found)).1.symm

end Discovery

end Regen
