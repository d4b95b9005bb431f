import Regen.Proofs.Headers
import Regen.Proofs.Reordering
import Regen.Proofs.Rescan
import Regen.Proofs.Tiling

/-! # Lines that are put into a template

A directive with a template takes the collection of its name from the last directive that defines it, wherever that one
stands. The body of a definition is kept line by line, without what ends the lines and without the indentation of the
definition. Each line, or the block as a whole, goes into the slot of the template as it is, so a slot that a line holds
itself is not filled. Lines as indented as their definition come out as they went in exactly if all of them have its
line end.
-/

namespace Regen

open Text

theorem Text.intercalate_append {rows : List Text} (newline : Text) (nonempty : rows ≠ []) :
    newline.intercalate rows ++ newline = rows.flatMap (· ++ newline) := by
  induction rows with
  | nil => exact absurd rfl nonempty
  | cons row rows ih =>
    cases rows with
    | nil => simp
    | cons next rows =>
      rw [List.intercalate_cons_cons, List.flatMap_cons, List.append_assoc, ih (by simp)]

theorem Line.Opens.isValid {line : Line} {header : Header} {headerText leader : Text}
    (opens : line.Opens header headerText leader) : header.IsValid := by
  obtain ⟨_, _, isRead⟩ := opens
  exact Header.isValid_of_read (isRead 0)

namespace Line

/-- The line ends that generated text may have. -/
def IsNewline (newline : Text) : Prop := newline = ['\n'] ∨ newline = ['\r', '\n'] ∨ newline = ['\r']

def ended (newline : Text) (line : Line) : Line := ⟨line.body, newline⟩

variable {newline : Text}

theorem Proper.ended (isNewline : IsNewline newline) {line : Line} (proper : line.Proper) :
    (line.ended newline).Proper where
  unbroken := proper.unbroken
  ending := by
    rcases isNewline with rfl | rfl | rfl
    · exact .inr (.inr ⟨_, by decide, rfl⟩)
    · exact .inr (.inl rfl)
    · exact .inr (.inr ⟨_, by decide, rfl⟩)
  nonempty := by
    rcases isNewline with rfl | rfl | rfl <;> simp [Line.ended, Line.text]

/-- Lines with the same end do not run into each other: where one is empty, its end starts as the others do. -/
theorem canPrecede_ended (isNewline : IsNewline newline) {line next : Line} (proper : next.Proper) :
    (line.ended newline).CanPrecede (next.ended newline) := by
  have nonempty : newline ≠ [] := by rcases isNewline with rfl | rfl | rfl <;> simp
  refine ⟨nonempty, ?_⟩
  rintro ⟨isReturn, fused⟩
  by_cases empty : next.body = []
  · obtain rfl : newline = ['\r'] := isReturn
    rw [Line.text, Line.ended, empty] at fused
    exact absurd fused (by decide)
  · exact head?_text_ne (proper.ended isNewline) empty (by decide) fused

theorem Sequence.ended (isNewline : IsNewline newline) {lines : List Line} (proper : ∀ line ∈ lines, line.Proper) :
    Sequence (lines.map (Line.ended newline)) where
  proper := List.forall_mem_map.mpr fun line member => (proper line member).ended isNewline
  chain := by
    apply List.Pairwise.isChain
    rw [List.pairwise_map]
    apply List.pairwise_of_forall_mem_list
    intro line _ next member
    exact canPrecede_ended isNewline (proper next member)

/-- To end all lines of a text in the same way changes nothing exactly if they end in this way already. -/
theorem unlines_ended_eq_iff (isNewline : IsNewline newline) (text : Text) :
    unlines (text.lines.map (Line.ended newline)) = text ↔ ∀ line ∈ text.lines, line.terminator = newline := by
  constructor
  · intro same line member
    have sequence := Sequence.ended isNewline (lines_sequence text).proper
    have sameLines : text.lines.map (Line.ended newline) = text.lines.map id := by
      rw [← sequence.lines_unlines, same, List.map_id]
    have isEnded := List.map_inj_left.mp sameLines line member
    exact (congrArg Line.terminator isEnded).symm
  · intro uniform
    have sameLines : text.lines.map (Line.ended newline) = text.lines.map id := by
      apply List.map_congr_left
      intro line member
      rw [Line.ended, ← uniform line member, id]
    rw [sameLines, List.map_id, unlines_lines]

end Line

namespace Directive

variable {directive definition : Directive} {name before after : Text} {text : Text} {directives : List Directive}

/-- A line of the body without its end, and without the indentation of the directive if it starts with that. -/
def dedented (directive : Directive) (line : Line) : Text :=
  if directive.indent.isPrefixOf line.body then line.body.drop directive.indent.length else line.body

theorem storedLines_eq_map (directive : Directive) :
    directive.storedLines = directive.body.lines.map directive.dedented := by
  rw [storedLines, lineBodies, List.map_map]
  apply List.map_congr_left
  intro line _
  rw [Function.comp_apply, dedented]
  cases found : directive.indent.isPrefixOf? line.body with
  | none =>
    rw [if_neg]
    · rfl
    · intro starts
      obtain ⟨rest, isBody⟩ := List.isPrefixOf_iff_prefix.mp starts
      rw [List.isPrefixOf?_eq_some_iff_append_eq.mpr isBody] at found
      cases found
  | some rest =>
    rw [List.isPrefixOf?_eq_some_iff_append_eq] at found
    rw [← found, if_pos (List.isPrefixOf_iff_prefix.mpr (List.prefix_append ..)), List.drop_left]
    rfl

theorem collection?_of_lines (isLines : definition.kind = .lines) :
    definition.collection? = some ⟨definition.storedLines, some definition.line⟩ := by
  unfold collection?
  cases named : definition.header with
  | lines name => rfl
  | _ => cases isLines.symm.trans (congrArg Header.kind named)

theorem collection?_of_block (isBlock : definition.kind = .block) :
    definition.collection? = some ⟨[definition.newline.intercalate definition.storedLines], some definition.line⟩ := by
  unfold collection?
  cases named : definition.header with
  | block name => rfl
  | _ => cases isBlock.symm.trans (congrArg Header.kind named)

theorem indent_append_dedented {line : Line} (starts : directive.indent <+: line.body) :
    directive.indent ++ directive.dedented line = line.body := by
  obtain ⟨rest, isBody⟩ := starts
  rw [dedented, ← isBody, if_pos (List.isPrefixOf_iff_prefix.mpr (List.prefix_append ..)), List.drop_left]

/-- A line that starts with spaces and tabs has them in front of its end. -/
theorem prefix_body_of_prefix_text {indent : Text} (blank : ∀ c ∈ indent, Line.IsIndentation c) {line : Line}
    (proper : line.Proper) (starts : indent <+: line.text) : indent <+: line.body := by
  have bodyFirst : line.body <+: line.text := List.prefix_append ..
  rcases List.prefix_or_prefix_of_prefix starts bodyFirst with inside | ⟨rest, split⟩
  · exact inside
  · cases rest with
    | nil => rw [← split, List.append_nil]
    | cons c rest =>
      -- the indentation would run on into the terminator
      obtain ⟨tail, isText⟩ := starts
      have parts : line.body ++ c :: (rest ++ tail) = line.body ++ line.terminator := by
        rw [← List.cons_append, ← List.append_assoc, split, isText, Line.text]
      have isTerminator := List.append_cancel_left parts
      have isBreak : isLineBreak c = true := by
        rcases proper.ending with missing | pair | ⟨d, isBreak, single⟩
        · rw [missing] at isTerminator
          cases isTerminator
        · rw [pair] at isTerminator
          rw [(List.cons.inj isTerminator).1]
          decide
        · rw [single] at isTerminator
          rwa [(List.cons.inj isTerminator).1]
      have inIndent : c ∈ indent := by
        rw [← split]
        simp
      rcases blank c inIndent with rfl | rfl
      · exact absurd isBreak (by decide)
      · exact absurd isBreak (by decide)

theorem isValid_of_scan (scanned : scan text = .ok directives) (member : directive ∈ directives) :
    directive.header.IsValid := by
  obtain ⟨document, _, rfl⟩ := (Document.scan_eq_ok_iff ..).mp scanned
  obtain ⟨_, passage, _, _, rfl⟩ := Passage.exists_of_mem_directives member
  exact passage.opens.isValid

theorem blank_indent_of_scan (scanned : scan text = .ok directives) (member : directive ∈ directives) :
    ∀ c ∈ directive.indent, Line.IsIndentation c := by
  obtain ⟨document, _, rfl⟩ := (Document.scan_eq_ok_iff ..).mp scanned
  obtain ⟨_, passage, _, _, rfl⟩ := Passage.exists_of_mem_directives member
  exact passage.opening.indentOf_indent.blank

theorem isNewline_of_scan (scanned : scan text = .ok directives) (member : directive ∈ directives) :
    Line.IsNewline directive.newline := by
  obtain ⟨document, same, rfl⟩ := (Document.scan_eq_ok_iff ..).mp scanned
  obtain ⟨_, passage, _, split, rfl⟩ := Passage.exists_of_mem_directives member
  have inLines : passage.opening ∈ text.lines := by
    rw [← same, Document.lines, split]
    simp [Passage.lines]
  exact ((lines_sequence text).proper passage.opening inLines).newline_cases

/-- The region of a directive whose template has the two texts around its slot, for a definition of its collection. -/
structure Formats (directive definition : Directive) (before after region : Text) : Prop where
  ofLines : definition.kind = .lines → region = definition.body.lines.flatMap fun line =>
    directive.indent ++ before ++ definition.dedented line ++ after ++ directive.newline
  ofBlock : definition.kind = .block → region = directive.indent ++ before ++
    definition.newline.intercalate (definition.body.lines.map definition.dedented) ++ after ++ directive.newline
  verbatim : definition.kind = .lines → before = [] → after = [] → directive.indent = definition.indent →
    directive.newline = definition.newline → (∀ line ∈ definition.body.lines, definition.indent <+: line.text) →
    (region = definition.body ↔ ∀ line ∈ definition.body.lines, line.terminator = definition.newline)

theorem header_of_slot?_collection (sets : definition.slot? = some (.collection name)) :
    definition.header = .lines name ∨ definition.header = .block name := by
  unfold slot? at sets
  cases named : definition.header with
  | lines other =>
    rw [named] at sets
    cases sets
    exact .inl rfl
  | block other =>
    rw [named] at sets
    cases sets
    exact .inr rfl
  | _ =>
    rw [named] at sets
    cases sets

end Directive

namespace Expansion

open Directive Template

variable {program : Program} {limits : Limits} {directive definition : Directive} {name before after : Text}

/-- A template is filled once for each line of the collection, also if there is none. -/
theorem generate_formatLines {collection : Collection}
    (formats : directive.header = .formatLines name (before ++ slot ++ after))
    (single : HasSingleSlot (before ++ slot ++ after)) (found : program.collections.find? name = some collection) :
    generate program limits directive =
      .ok (collection.lines.flatMap fun line => directive.indent ++ before ++ line ++ after ++ directive.newline) := by
  unfold generate
  rw [formats]
  simp only [found]
  split
  · next empty =>
    rw [List.isEmpty_iff.mp empty]
    rfl
  · next nonempty =>
    rw [List.isEmpty_iff] at nonempty
    rw [fillEach, intercalate_append _ (by simpa using nonempty), List.flatMap_map]
    congr 1
    apply List.flatMap_congr
    intro line _
    rw [fill_of_single single]
    simp only [List.append_assoc]

/-- What a template makes of the collection of a definition, given line by line or as a block. -/
theorem formats_of_generate {collection : Collection} {text : Text}
    (blank : ∀ c ∈ definition.indent, Line.IsIndentation c) (isNewline : Line.IsNewline definition.newline)
    (stores : definition.collection? = some collection)
    (made : text = collection.lines.flatMap fun line =>
      directive.indent ++ before ++ line ++ after ++ directive.newline) :
    Formats directive definition before after text := by
  have ofLines : definition.kind = .lines → text = definition.body.lines.flatMap fun line =>
      directive.indent ++ before ++ definition.dedented line ++ after ++ directive.newline := by
    intro isLines
    rw [collection?_of_lines isLines] at stores
    cases stores
    rw [made, storedLines_eq_map, List.flatMap_map]
  refine ⟨ofLines, ?_, ?_⟩
  · intro isBlock
    rw [collection?_of_block isBlock] at stores
    cases stores
    rw [made, storedLines_eq_map, List.flatMap_singleton]
  · rintro isLines rfl rfl sameIndent sameNewline starts
    have ended : text = unlines (definition.body.lines.map (Line.ended definition.newline)) := by
      rw [ofLines isLines, unlines, List.flatMap_map]
      apply List.flatMap_congr
      intro line member
      have proper := (lines_sequence definition.body).proper line member
      have inBody := prefix_body_of_prefix_text blank proper (starts line member)
      rw [List.append_nil, List.append_nil, sameIndent, indent_append_dedented inBody, sameNewline]
      rfl
    rw [ended]
    exact Line.unlines_ended_eq_iff isNewline definition.body

variable {file : Option Text} {text : Text} {directives : List Directive} {expansion : Expansion} {gathered : Gathered}

/-- A template that makes a text has a collection, and the text is made of its last definition. -/
theorem exists_definition_of_generate {template piece : Text} (scanned : scan text = .ok directives)
    (gathers : gather file directives = .ok gathered) (formats : directive.header = .formatLines name template)
    (single : HasSingleSlot template) (made : generate gathered.program limits directive = .ok piece) :
    ∃ definition, latest (.collection name) directives = some definition ∧
      (definition.header = .lines name ∨ definition.header = .block name) ∧
      ∀ before after, template = before ++ slot ++ after → Formats directive definition before after piece := by
  have lookup := (find?_gather gathers name).2
  cases found : gathered.program.collections.find? name with
  | none =>
    unfold generate at made
    rw [formats] at made
    simp only [found] at made
    cases made
  | some collection =>
    rw [found] at lookup
    obtain ⟨definition, isLatest, stores⟩ := Option.bind_eq_some_iff.mp lookup.symm
    obtain ⟨isDirective, sets⟩ := mem_of_latest isLatest
    refine ⟨definition, isLatest, header_of_slot?_collection sets, ?_⟩
    rintro before after rfl
    rw [generate_formatLines formats single found] at made
    exact formats_of_generate (blank_indent_of_scan scanned isDirective) (isNewline_of_scan scanned isDirective) stores
      (Except.ok.inj made).symm

/-- An expanded text has the gaps of the text, with regions where the text has bodies. -/
theorem exists_pieces_of_expand (success : expand file limits text = .ok expansion) :
    ∃ gathered pieces, gather file expansion.directives = .ok gathered ∧
      List.Forall₂ (fun directive piece => region gathered.program limits directive = .ok piece)
        (outputs expansion.directives) pieces ∧
      text = weave (text.gaps (outputSpans expansion.directives)) ((outputs expansion.directives).map body) ∧
      expansion.text = weave (text.gaps (outputSpans expansion.directives)) pieces := by
  have scanned := scan_of_expand success
  rw [expand_of_scan scanned] at success
  obtain ⟨gathered, gathers, success⟩ := bind_eq_ok success
  obtain ⟨pieces, made, success⟩ := bind_eq_ok success
  obtain ⟨document, same, isScan⟩ := (Document.scan_eq_ok_iff ..).mp scanned
  have bodies := weave_gaps_slices text (Document.output_spans_ordered same)
  rw [Document.slices_output_spans same, isScan] at bodies
  have expanded := congrArg Expansion.text (Except.ok.inj success).symm
  exact ⟨gathered, pieces, gathers, regions_eq_ok_iff.mp made, bodies.symm, expanded⟩

theorem exists_region_of_mem {items : List Directive} {pieces : List Text}
    (each : List.Forall₂ (fun directive piece => region program limits directive = .ok piece) items pieces)
    (member : directive ∈ items) : ∃ piece, region program limits directive = .ok piece := by
  have both : List.Forall₂ (fun directive piece => (∃ piece, region program limits directive = .ok piece) ∧
      region program limits directive = .ok piece) items pieces :=
    each.imp fun _ piece made => ⟨⟨piece, made⟩, made⟩
  exact ((List.forall₂_and_left ..).mp both).1 directive member

/-- Every template of a text that can be expanded has one slot, and its collection is defined. The region that it gets
is made of the lines of the last definition, or of that definition as one block, and stands in the expanded text in
place of the body of the directive. -/
theorem formatted_regions (success : expand file limits text = .ok expansion) :
    ∃ gathered pieces, gather file expansion.directives = .ok gathered ∧
      List.Forall₂ (fun directive piece => region gathered.program limits directive = .ok piece)
        (outputs expansion.directives) pieces ∧
      text = weave (text.gaps (outputSpans expansion.directives)) ((outputs expansion.directives).map body) ∧
      expansion.text = weave (text.gaps (outputSpans expansion.directives)) pieces ∧
      ∀ directive ∈ expansion.directives, ∀ name template, directive.header = .formatLines name template →
        HasSingleSlot template ∧
        ∃ formatted definition, region gathered.program limits directive = .ok formatted ∧
          latest (.collection name) expansion.directives = some definition ∧
          (definition.header = .lines name ∨ definition.header = .block name) ∧
          ∀ before after, template = before ++ slot ++ after →
            Formats directive definition before after formatted := by
  have scanned := scan_of_expand success
  obtain ⟨gathered, pieces, gathers, each, bodies, expanded⟩ := exists_pieces_of_expand success
  refine ⟨gathered, pieces, gathers, each, bodies, expanded, ?_⟩
  intro directive member name template formats
  have valid := isValid_of_scan scanned member
  rw [formats] at valid
  have isOutput : directive ∈ outputs expansion.directives := by
    apply List.mem_filter.mpr
    refine ⟨member, ?_⟩
    rw [kind, formats]
    rfl
  obtain ⟨formatted, made⟩ := exists_region_of_mem each isOutput
  obtain ⟨generated, -, -⟩ := generate_of_region made
  obtain ⟨definition, isLatest, isNamed, all⟩ := exists_definition_of_generate scanned gathers formats valid.2 generated
  exact ⟨valid.2, formatted, definition, made, isLatest, isNamed, all⟩

/-- A template before two definitions of its collection, of which the last has a slot in its body. -/
def redefined : Text :=
  " autoc:format-lines f \"%s\"\nold\nautoc#\n".toList ++ "autoc:block f\nx\nautoc#\n".toList ++
    " autoc:lines f\n %s\n  y\n autoc#\n".toList

theorem formatted_regions_redefined :
    ∃ expansion directive definition, expand none {} redefined = .ok expansion ∧
      expansion.directives.head? = some directive ∧ directive.header = .formatLines "f".toList slot ∧
      latest (.collection "f".toList) expansion.directives = some definition ∧ definition.line = 7 ∧
      definition.body = " %s\n  y\n".toList ∧
      ∃ gathered, gather none expansion.directives = .ok gathered ∧
        region gathered.program {} directive = .ok definition.body := by
  have evaluated : succeedsWith (fun expansion =>
      (expansion.directives.head?.any fun directive => directive.header == .formatLines "f".toList slot &&
        directive.indent == [' '] && directive.newline == ['\n']) &&
      (latest (.collection "f".toList) expansion.directives).any fun definition => definition.kind == .lines &&
        definition.indent == [' '] && definition.newline == ['\n'] && definition.line == 7 &&
        definition.body == " %s\n  y\n".toList &&
        definition.body.lines.all fun line => [' '].isPrefixOf line.text && line.terminator == ['\n'])
      (expand none {} redefined) = true := by decide +kernel
  obtain ⟨expansion, success, test⟩ := exists_of_succeedsWith evaluated
  obtain ⟨first, last⟩ := Bool.and_eq_true_iff.mp test
  obtain ⟨directive, isFirst, first⟩ := (Option.any_eq_true ..).mp first
  obtain ⟨definition, isLatest, last⟩ := (Option.any_eq_true ..).mp last
  simp only [Bool.and_eq_true, beq_iff_eq, List.all_eq_true, List.isPrefixOf_iff_prefix] at first last
  obtain ⟨⟨formats, indent⟩, newline⟩ := first
  obtain ⟨⟨⟨⟨⟨isLines, definitionIndent⟩, definitionNewline⟩, line⟩, body⟩, uniform⟩ := last
  obtain ⟨gathered, pieces, gathers, -, -, -, all⟩ := formatted_regions success
  obtain ⟨-, formatted, other, made, isLatest', -, formatsAll⟩ :=
    all directive (List.mem_of_head? isFirst) _ _ formats
  obtain rfl : definition = other := Option.some.inj (isLatest.symm.trans isLatest')
  have verbatim : formatted = definition.body := by
    apply ((formatsAll [] [] rfl).verbatim isLines rfl rfl (indent.trans definitionIndent.symm)
      (newline.trans definitionNewline.symm) ?_).mpr
    · rw [definitionNewline]
      exact fun line member => (uniform line member).2
    · rw [definitionIndent]
      exact fun line member => (uniform line member).1
  exact ⟨expansion, directive, definition, success, isFirst, formats, isLatest, line, body, gathered, gathers,
    verbatim ▸ made⟩

end Expansion

end Regen
