import Regen.Proofs.FailureModes
import Regen.Proofs.Parts
import Regen.Proofs.Placeless
import Regen.Proofs.Spelling

/-! # The lines on which forms stand

The forms of a function are read from the body of its directive, without the comment leader where the lines repeat it.
Each form and expression starts with a character of the document. The line that it carries is the number of the physical
line on which this character stands, if the body is read line by line without its leader. A body without a leader is
read as it is, and only line feeds are counted in it: there the line is right exactly as far as every line end before it
holds a line feed.
-/

namespace Regen

open Text Directive

namespace Line

/-- The number of the line on which the character at an offset stands. -/
def numberAt : List Line → Nat → Nat
  | [], _ => 1
  | line :: rest, offset =>
    if offset < line.text.length then 1 else numberAt rest (offset - line.text.length) + 1

/-- A character stands at an offset of some lines, and `earlier` are the lines before its own. -/
def StandsAfter (lines earlier : List Line) (offset : Nat) (c : Char) : Prop :=
  ∃ line later column, lines = earlier ++ line :: later ∧ offset = (unlines earlier).length + column ∧
    line.text[column]? = some c

variable {lines earlier first last : List Line} {offset : Nat} {c : Char}

theorem StandsAfter.getElem? (stands : StandsAfter lines earlier offset c) : (unlines lines)[offset]? = some c := by
  obtain ⟨line, later, column, rfl, rfl, found⟩ := stands
  obtain ⟨inside, _⟩ := List.getElem?_eq_some_iff.mp found
  rw [unlines_append, unlines_cons, List.getElem?_append_right (by omega), Nat.add_sub_cancel_left,
    List.getElem?_append_left inside, found]

theorem StandsAfter.numberAt (stands : StandsAfter lines earlier offset c) :
    Line.numberAt lines offset = earlier.length + 1 := by
  obtain ⟨line, later, column, rfl, rfl, found⟩ := stands
  obtain ⟨inside, _⟩ := List.getElem?_eq_some_iff.mp found
  induction earlier with
  | nil =>
    rw [List.nil_append, Line.numberAt, if_pos]
    · rfl
    · simpa using inside
  | cons other earlier ih =>
    rw [List.cons_append, Line.numberAt, unlines_cons, List.length_append, if_neg (by omega), Nat.add_assoc,
      Nat.add_sub_cancel_left, ih, List.length_cons]

theorem StandsAfter.cons (line : Line) (stands : StandsAfter lines earlier offset c) :
    StandsAfter (line :: lines) (line :: earlier) (line.text.length + offset) c := by
  obtain ⟨own, later, column, rfl, rfl, found⟩ := stands
  exact ⟨own, later, column, rfl, by simp [Nat.add_assoc], found⟩

/-- Lines around others move the offset by their length. -/
theorem StandsAfter.inside (first last : List Line) (stands : StandsAfter lines earlier offset c) :
    StandsAfter (first ++ (lines ++ last)) (first ++ earlier) ((unlines first).length + offset) c := by
  obtain ⟨own, later, column, rfl, rfl, found⟩ := stands
  exact ⟨own, later ++ last, column, by simp, by simp [Nat.add_assoc], found⟩

theorem Proper.feed_not_mem_body {line : Line} (proper : line.Proper) : '\n' ∉ line.body := by
  intro member
  have unbroken := proper.unbroken _ member
  exact absurd unbroken (by decide)

/-- A terminator holds at most one line feed, so lines have as many line feeds as there are lines only if every
terminator holds one. -/
theorem count_unlines_eq_iff (proper : ∀ line ∈ lines, line.Proper) :
    (unlines lines).count '\n' ≤ lines.length ∧
      ((unlines lines).count '\n' = lines.length ↔ ∀ line ∈ lines, '\n' ∈ line.terminator) := by
  induction lines with
  | nil => simp
  | cons line rest ih =>
    obtain ⟨isProper, others⟩ := List.forall_mem_cons.mp proper
    obtain ⟨most, all⟩ := ih others
    have body : line.body.count '\n' = 0 := List.count_eq_zero.mpr isProper.feed_not_mem_body
    have own : line.text.count '\n' = if '\n' ∈ line.terminator then 1 else 0 := by
      rw [text, List.count_append, body, Nat.zero_add]
      rcases isProper.ending with missing | pair | ⟨d, _, single⟩
      · simp [missing]
      · rw [pair]
        decide
      · rw [single]
        by_cases isFeed : d = '\n'
        · rw [isFeed]
          decide
        · simp [isFeed, Ne.symm isFeed]
    rw [unlines_cons, List.count_append, List.length_cons, List.forall_mem_cons, ← all, own]
    by_cases feeds : '\n' ∈ line.terminator
    · rw [if_pos feeds]
      constructor
      · omega
      · simp only [feeds, true_and]
        omega
    · rw [if_neg feeds]
      constructor
      · omega
      · simp only [feeds, false_and, iff_false]
        omega

theorem Proper.not_mem_terminator {line : Line} (proper : line.Proper) (plain : isLineBreak c = false) :
    c ∉ line.terminator := by
  intro member
  rcases proper.ending with missing | pair | ⟨d, isBreak, single⟩
  · rw [missing] at member
    cases member
  · rw [pair] at member
    rcases List.mem_cons.mp member with rfl | member
    · cases plain
    · rw [List.mem_singleton.mp member] at plain
      cases plain
  · rw [single] at member
    rw [List.mem_singleton.mp member, isBreak] at plain
    cases plain

/-- On a proper line, no line feeds stand before a character that is no break. -/
theorem Proper.count_eq_zero {line : Line} (proper : line.Proper) (plain : isLineBreak c = false) {before tail : Text}
    (split : line.text = before ++ c :: tail) : before.count '\n' = 0 := by
  refine List.count_eq_zero.mpr fun member => ?_
  rcases List.append_eq_append_iff.mp split with ⟨more, rfl, terminator⟩ | ⟨more, body, _⟩
  · refine proper.not_mem_terminator plain ?_
    rw [terminator]
    simp
  · refine proper.feed_not_mem_body ?_
    rw [body]
    simp [member]

/-- In proper lines, the line feeds before a character that is no break are those of the lines before its own. -/
theorem standsAfter_of_split (proper : ∀ line ∈ lines, line.Proper) {before tail : Text}
    (split : unlines lines = before ++ c :: tail) (plain : isLineBreak c = false) :
    ∃ earlier, StandsAfter lines earlier before.length c ∧ before.count '\n' = (unlines earlier).count '\n' := by
  induction lines generalizing before with
  | nil => simp at split
  | cons line rest ih =>
    obtain ⟨isProper, others⟩ := List.forall_mem_cons.mp proper
    have onRest {more : Text} (isBefore : before = line.text ++ more) (split : unlines rest = more ++ c :: tail) :
        ∃ earlier, StandsAfter (line :: rest) earlier before.length c ∧
          before.count '\n' = (unlines earlier).count '\n' := by
      obtain ⟨earlier, stands, count⟩ := ih others split
      refine ⟨line :: earlier, ?_, ?_⟩
      · rw [isBefore, List.length_append]
        exact stands.cons line
      · rw [isBefore, unlines_cons, List.count_append, List.count_append, count]
    rw [unlines_cons] at split
    rcases List.append_eq_append_iff.mp split with ⟨more, isBefore, split⟩ | ⟨more, isText, split⟩
    · exact onRest isBefore split
    · cases more with
      | nil =>
        rw [List.append_nil] at isText
        exact onRest (isText.symm.trans (List.append_nil _).symm) split.symm
      | cons d more =>
        cases split
        refine ⟨[], ⟨line, rest, before.length, rfl, by simp, ?_⟩, isProper.count_eq_zero plain isText⟩
        rw [isText]
        simp

end Line

/-- The number of the physical line on which the character at an offset of a text stands. -/
def Text.lineAt (text : Text) (offset : Nat) : Nat := Line.numberAt text.lines offset

/-- A line break separates tokens. -/
theorem Text.not_isLineBreak_of_not_isBlank {c : Char} (notBlank : isBlank c = false) : isLineBreak c = false := by
  rw [Bool.eq_false_iff]
  intro isBreak
  simp only [isLineBreak, Bool.or_eq_true, beq_iff_eq] at isBreak
  rcases isBreak with ((((((((rfl | rfl) | rfl) | rfl) | rfl) | rfl) | rfl) | rfl) | rfl) | rfl
  all_goals exact absurd notBlank (by decide)

/-! ## Where the source of a function comes from -/

namespace Directive

/-- The offsets of what is kept of a line that starts at an offset, without the start of its comment. -/
def keptOrigins (leader : Text) (start : Nat) (line : Line) : List Nat :=
  List.range' (start + (line.body.length - (uncomment leader line.body).length)) (uncomment leader line.body).length

/-- The offsets of what is kept of lines, joined by line feeds, of which the first starts at an offset. A line feed
stands for the terminator of its line. -/
def joinedOrigins (leader : Text) : (start : Nat) → List Line → List Nat
  | _, [] => []
  | start, [line] => keptOrigins leader start line
  | start, line :: next :: rest =>
    keptOrigins leader start line ++
      (start + line.body.length) :: joinedOrigins leader (start + line.text.length) (next :: rest)

/-- The offset in the document that each character of the source of a function comes from. -/
def origins (directive : Directive) : List Nat :=
  if directive.leader.isEmpty then List.range' directive.bodySpan.start directive.body.length
  else joinedOrigins directive.leader directive.bodySpan.start directive.body.lines

/-- What is kept of a line stands on it where its origins tell. -/
theorem standsAfter_kept (leader : Text) (start : Nat) {line : Line} (unbroken : '\n' ∉ line.body) {c : Char}
    {before tail : Text} (split : uncomment leader line.body = before ++ c :: tail) (rest : List Line) :
    ∃ offset, (keptOrigins leader start line)[before.length]? = some (start + offset) ∧
      Line.StandsAfter (line :: rest) [] offset c ∧ before.count '\n' = 0 := by
  obtain ⟨dropped, isBody⟩ := uncomment_suffix leader line.body
  have size : line.body.length - (uncomment leader line.body).length = dropped.length := by
    have lengths := congrArg List.length isBody
    rw [List.length_append] at lengths
    omega
  refine ⟨dropped.length + before.length, ?_, ⟨line, rest, dropped.length + before.length, rfl, by simp, ?_⟩, ?_⟩
  · rw [keptOrigins, size, List.getElem?_range' (by simp [split])]
    simp [Nat.add_assoc]
  · rw [Line.text, ← isBody, split]
    simp
  · refine List.count_eq_zero.mpr fun member => unbroken ?_
    rw [← isBody, split]
    simp [member]

/-- The character of joined lines at some place stands where the origins tell, and the line feeds before it are as many
as the lines before its own. -/
theorem standsAfter_joined (leader : Text) (start : Nat) {lines : List Line}
    (unbroken : ∀ line ∈ lines, '\n' ∉ line.body) {c : Char} (notFeed : c ≠ '\n') {before tail : Text}
    (split : ['\n'].intercalate (lines.map fun line => uncomment leader line.body) = before ++ c :: tail) :
    ∃ earlier offset, (joinedOrigins leader start lines)[before.length]? = some (start + offset) ∧
      Line.StandsAfter lines earlier offset c ∧ before.count '\n' = earlier.length := by
  induction lines generalizing start before with
  | nil => simp at split
  | cons line rest ih =>
    obtain ⟨own, others⟩ := List.forall_mem_cons.mp unbroken
    cases rest with
    | nil =>
      obtain ⟨offset, origin, stands, count⟩ := standsAfter_kept leader start own (by simpa using split) []
      exact ⟨[], offset, origin, stands, count⟩
    | cons next rest =>
      have joined : ['\n'].intercalate ((line :: next :: rest).map fun line => uncomment leader line.body) =
          uncomment leader line.body ++
            '\n' :: ['\n'].intercalate ((next :: rest).map fun line => uncomment leader line.body) := by
        simp [List.intercalate_cons_cons]
      rw [joined] at split
      rcases List.append_eq_append_iff.mp split with ⟨more, rfl, after⟩ | ⟨more, kept, after⟩
      · -- the character stands behind the line feed of this line
        obtain _ | ⟨d, more⟩ := more
        · exact absurd (List.cons.inj after).1.symm notFeed
        obtain ⟨rfl, later⟩ := List.cons.inj after
        obtain ⟨earlier, offset, origin, stands, count⟩ := ih (start + line.text.length) others later
        refine ⟨line :: earlier, line.text.length + offset, ?_, stands.cons line, ?_⟩
        · have size : (keptOrigins leader start line).length = (uncomment leader line.body).length := by
            simp [keptOrigins]
          rw [joinedOrigins, List.length_append, ← size, List.getElem?_append_right (by omega), Nat.add_sub_cancel_left,
            List.length_cons, List.getElem?_cons_succ, origin, Nat.add_assoc]
        · have unbroken : '\n' ∉ uncomment leader line.body := fun member =>
            own ((uncomment_suffix leader line.body).subset member)
          rw [List.count_append, List.count_eq_zero.mpr unbroken, List.count_cons_self, count, List.length_cons,
            Nat.zero_add]
      · obtain _ | ⟨d, more⟩ := more
        · exact absurd (List.cons.inj after).1 notFeed
        obtain ⟨rfl, _⟩ := List.cons.inj after
        obtain ⟨offset, origin, stands, count⟩ := standsAfter_kept leader start own kept (next :: rest)
        refine ⟨[], offset, ?_, stands, count⟩
        obtain ⟨inside, _⟩ := List.getElem?_eq_some_iff.mp origin
        rw [joinedOrigins, List.getElem?_append_left inside, origin]

/-- A directive stands between two marker lines of a text and knows their numbers, which count from one. -/
def Numbered (text : Text) (directive : Directive) : Prop :=
  ∃ (before inside after : List Line) (opening closing : Line),
    text.lines = before ++ opening :: (inside ++ closing :: after) ∧ directive.body.lines = inside ∧
    directive.line = before.length + 1 ∧ directive.closeLine = directive.line + inside.length + 1 ∧
    directive.bodySpan.start = (unlines (before ++ [opening])).length

theorem numbered_of_scan {text : Text} {directives : List Directive} (scanned : scan text = .ok directives) :
    ∀ directive ∈ directives, directive.Numbered text := by
  obtain ⟨document, same, rfl⟩ := (Document.scan_eq_ok_iff ..).mp scanned
  intro directive member
  obtain ⟨first, passage, later, split, rfl⟩ := Passage.exists_of_mem_directives member
  have lines : text.lines = first.flatMap Passage.lines ++ passage.before ++
      passage.opening :: (passage.inside ++ passage.closing :: (later.flatMap Passage.lines ++ document.after)) := by
    rw [← same, Document.lines, split]
    simp [Passage.lines]
  have inside : (unlines passage.inside).lines = passage.inside := by
    have sequence := text.lines_sequence
    rw [lines, List.append_cons] at sequence
    exact sequence.of_append.2.of_append.1.lines_unlines
  refine ⟨_, passage.inside, _, passage.opening, passage.closing, lines, inside, ?_, ?_, ?_⟩
  · simp only [Passage.directive, List.length_append]
    omega
  · simp only [Passage.directive]
    omega
  · have texts : first.flatMap Passage.text = unlines (first.flatMap Passage.lines) := List.flatMap_assoc.symm
    simp [Passage.directive, bodySpan, texts, Nat.add_assoc]

/-- Every character of the source of a function but blanks comes from the document. The line feeds before it are as many
as the lines of the body before its own, unless the body is read as it is and one of these lines ends without. -/
theorem Numbered.standsAt {text : Text} {directive : Directive} (numbered : directive.Numbered text) {c : Char}
    (notBlank : isBlank c = false) {before tail : Text} (split : directive.source = before ++ c :: tail) :
    ∃ earlier later offset, directive.body.lines = earlier ++ later ∧
      directive.origins[before.length]? = some offset ∧ text[offset]? = some c ∧
      text.lineAt offset = directive.bodyLine + earlier.length ∧
      (before.count '\n' = earlier.length ↔
        directive.leader ≠ [] ∨ ∀ line ∈ earlier, '\n' ∈ line.terminator) := by
  obtain ⟨lines, inside, after, opening, closing, isText, isBody, number, _, start⟩ := numbered
  have plain := not_isLineBreak_of_not_isBlank notBlank
  have proper : ∀ line ∈ directive.body.lines, line.Proper := (lines_sequence _).proper
  -- what stands in the body stands behind the open marker in the text
  have placed {earlier : List Line} {offset : Nat} (stands : Line.StandsAfter directive.body.lines earlier offset c) :
      text[directive.bodySpan.start + offset]? = some c ∧
        text.lineAt (directive.bodySpan.start + offset) = directive.bodyLine + earlier.length := by
    have inText := stands.inside (lines ++ [opening]) (closing :: after)
    rw [isBody, ← List.append_cons, ← isText, ← start] at inText
    refine ⟨?_, ?_⟩
    · have found := inText.getElem?
      rwa [unlines_lines] at found
    · rw [lineAt, inText.numberAt, bodyLine, number]
      simp only [List.length_append, List.length_singleton]
      omega
  by_cases leaderless : directive.leader = []
  · have isSource : directive.source = directive.body := by simp [source, leaderless]
    rw [isSource, ← unlines_lines directive.body] at split
    obtain ⟨earlier, stands, count⟩ := Line.standsAfter_of_split proper split plain
    obtain ⟨found, atLine⟩ := placed stands
    obtain ⟨own, later, _, isSplit, _⟩ := stands
    refine ⟨earlier, own :: later, _, isSplit, ?_, found, atLine, ?_⟩
    · have inBody : before.length < directive.body.length := by
        rw [← unlines_lines directive.body, split]
        simp
      rw [origins, if_pos (by simp [leaderless]), List.getElem?_range' inBody]
      simp
    · have earlierProper : ∀ line ∈ earlier, line.Proper := by
        intro line member
        apply proper
        rw [isSplit]
        exact List.mem_append_left _ member
      rw [count, (Line.count_unlines_eq_iff earlierProper).2]
      simp [leaderless]
  · have isSource : directive.source =
        ['\n'].intercalate (directive.body.lines.map fun line => uncomment directive.leader line.body) := by
      rw [source, if_neg (by simpa using leaderless), lineBodies, List.map_map]
      rfl
    rw [isSource] at split
    have unbroken : ∀ line ∈ directive.body.lines, '\n' ∉ line.body := fun line member =>
      (proper line member).feed_not_mem_body
    have notFeed : c ≠ '\n' := by
      rintro rfl
      exact absurd plain (by decide)
    obtain ⟨earlier, offset, origin, stands, count⟩ :=
      standsAfter_joined directive.leader directive.bodySpan.start unbroken notFeed split
    obtain ⟨found, atLine⟩ := placed stands
    obtain ⟨own, later, _, isSplit, _⟩ := stands
    refine ⟨earlier, own :: later, _, isSplit, ?_, found, atLine, ?_⟩
    · rw [origins, if_neg (by simpa using leaderless)]
      exact origin
    · simp [count, leaderless]

end Directive

/-! ## Where forms start -/

namespace Node

/-- A character with which a node can start. -/
def StartsWith (c : Char) : Node → Prop
  | literal (.text _) _ => c = '"'
  | literal (.int _) _ => c = '-' ∨ (digit? c).isSome = true
  | literal (.bool _) _ => False
  | reference name _ => name.head? = some c
  | _ => c = '('

theorem Begins.startsWith {token : Token} {node : Node} (begins : Begins token node) {c : Char}
    (starts : token.lexeme.StartsWith c) : node.StartsWith c := by
  cases begins with
  | form isForm onLine =>
    cases node with
    | literal | reference => cases isForm
    | insert | newline | loop | call => exact starts
  | reference | text | integer => exact starts

theorem startsWith_relocate {move : Option Int → Option Int} {node : Node} {c : Char} (starts : node.StartsWith c) :
    (node.relocate move).StartsWith c := by
  cases node with
  | literal value line =>
    cases value with
    | bool => cases starts
    | int | text => simpa [StartsWith] using starts
  | reference | newline => simpa [StartsWith] using starts
  | insert | loop | call => simpa [StartsWith] using starts

theorem line_relocate (move : Option Int → Option Int) (node : Node) : (node.relocate move).line = move node.line := by
  cases node <;> simp [line]

/-- The forms that the lexemes of a text denote, with offsets in the place of lines. -/
def Placed (source : Text) (placed : List Node) : Prop :=
  ∃ spots, Lexes [] source spots ∧
    ofTokens (spots.map fun spot => ⟨spot.lexeme, spot.before.length⟩) = .ok placed

/-- The forms of a body are those that its lexemes denote, each on the line that the line feeds before it lead to. -/
theorem exists_placed_of_readBody {source : Text} {first : Int} {nodes : List Node}
    (isRead : readBody source first = .ok nodes) :
    ∃ placed, Placed source placed ∧
      nodes = placed.map (relocate (Option.map fun offset => first + (source.take offset.toNat).count '\n')) ∧
      ∀ label ∈ partsAll placed, ∃ before c tail, source = before ++ c :: tail ∧
        label.line = some (before.length : Int) ∧ label.StartsWith c ∧ isBlank c = false := by
  rw [readBody_eq] at isRead
  obtain ⟨tokens, scanned, isRead⟩ := bind_eq_ok isRead
  have lexed := Token.scan_lexes source first
  rw [scanned] at lexed
  obtain ⟨spots, lexes, rfl⟩ := lexed
  have starts := lexes.start_at
  rw [List.nil_append] at starts
  have moved : spots.map (Spot.token first) =
      (spots.map fun spot => (⟨spot.lexeme, spot.before.length⟩ : Token)).map
        (Token.relocate fun offset => first + (source.take offset.toNat).count '\n') := by
    rw [List.map_map]
    refine List.map_congr_left fun spot member => ?_
    obtain ⟨c, tail, split, _⟩ := starts spot member
    simp [Spot.token, Token.relocate, split]
  rw [moved, ofTokens_relocate] at isRead
  have parts := ofTokens_parts (spots.map fun spot => ⟨spot.lexeme, spot.before.length⟩)
  cases made : ofTokens (spots.map fun spot => ⟨spot.lexeme, spot.before.length⟩) with
  | error failure =>
    rw [made] at isRead
    cases isRead
  | ok placed =>
    rw [made] at isRead parts
    refine ⟨placed, ⟨spots, lexes, made⟩, (Except.ok.inj isRead).symm, fun label member => ?_⟩
    obtain ⟨token, inTokens, begins⟩ := parts label member
    obtain ⟨spot, inSpots, rfl⟩ := List.mem_map.mp inTokens
    obtain ⟨c, tail, split, startsWith, notBlank⟩ := starts spot inSpots
    exact ⟨spot.before, c, tail, split, begins.onLine, begins.startsWith startsWith, notBlank⟩

end Node

namespace Directive

variable {text : Text} {directives : List Directive} {directive : Directive}

/-- The first character of a node stands at an offset of the text: the node is the one with the label but for the line,
the label is the place in the source of the function at which it starts, and the character there comes from the
offset. -/
structure StandsAt (text : Text) (directive : Directive) (node label : Node) (offset : Nat) : Prop where
  same : node.unplaced = label.unplaced
  origin : ∃ place : Nat, label.line = some (place : Int) ∧ directive.origins[place]? = some offset
  first : ∃ c, text[offset]? = some c ∧ node.StartsWith c

/-- Every form and expression of a function carries the number of the physical line on which it starts, exactly if its
body has a leader or every line of the body before this one ends with a line feed. -/
theorem line_eq_lineAt_iff (scanned : scan text = .ok directives) (member : directive ∈ directives)
    {nodes : List Node} (isRead : Node.readBody directive.source directive.bodyLine = .ok nodes) :
    ∃ placed, Node.Placed directive.source placed ∧
      List.Forall₂ (fun node label => ∃ offset, directive.StandsAt text node label offset ∧
        (node.line = some (text.lineAt offset : Int) ↔ directive.leader ≠ [] ∨
          ∀ line ∈ directive.body.lines.take (text.lineAt offset - directive.bodyLine), '\n' ∈ line.terminator))
        (Node.partsAll nodes) (Node.partsAll placed) := by
  have numbered := numbered_of_scan scanned directive member
  obtain ⟨placed, isPlaced, rfl, labels⟩ := Node.exists_placed_of_readBody isRead
  refine ⟨placed, isPlaced, ?_⟩
  rw [Node.partsAll_relocate, List.forall₂_map_left_iff, List.forall₂_same]
  intro label inside
  obtain ⟨before, c, tail, split, onPlace, starts, notBlank⟩ := labels label inside
  obtain ⟨earlier, later, offset, isBody, origin, found, atLine, counted⟩ := numbered.standsAt notBlank split
  refine ⟨offset, ⟨Node.unplaced_relocate _ label, ⟨before.length, onPlace, origin⟩, c, found,
    Node.startsWith_relocate starts⟩, ?_⟩
  have isEarlier : directive.body.lines.take (text.lineAt offset - directive.bodyLine) = earlier := by
    rw [atLine, Nat.add_sub_cancel_left, isBody, List.take_left]
  have onLine : (label.relocate (Option.map fun place =>
      (directive.bodyLine : Int) + (directive.source.take place.toNat).count '\n')).line =
        some ((directive.bodyLine : Int) + before.count '\n') := by
    rw [Node.line_relocate, onPlace, split]
    simp
  rw [isEarlier, ← counted, onLine, atLine, Option.some.injEq]
  omega

/-- A function in comments, on lines that end in three ways. -/
def commented : Text := "// autoc:defun f (x)\r//\r//  (insert \"a\x0b// b\"\x0b//   x)\n// autoc#\n".toList

theorem line_eq_lineAt_commented :
    ∃ directives directive nodes, scan commented = .ok directives ∧ directive ∈ directives ∧
      Node.readBody directive.source directive.bodyLine = .ok nodes ∧ (Node.partsAll nodes).length = 3 ∧
      ∃ placed, Node.Placed directive.source placed ∧
        List.Forall₂ (fun node label => ∃ offset, directive.StandsAt commented node label offset ∧
          node.line = some (commented.lineAt offset : Int)) (Node.partsAll nodes) (Node.partsAll placed) := by
  have reads : succeedsWith (List.any · fun directive => !directive.leader.isEmpty &&
      succeedsWith (fun nodes => (Node.partsAll nodes).length == 3)
        (Node.readBody directive.source directive.bodyLine)) (scan commented) = true := by decide +kernel
  obtain ⟨directives, scanned, reads⟩ := exists_of_succeedsWith reads
  obtain ⟨directive, member, reads⟩ := List.any_eq_true.mp reads
  rw [Bool.and_eq_true] at reads
  obtain ⟨hasLeader, reads⟩ := reads
  obtain ⟨nodes, isRead, three⟩ := exists_of_succeedsWith reads
  obtain ⟨placed, isPlaced, lines⟩ := line_eq_lineAt_iff scanned member isRead
  refine ⟨directives, directive, nodes, scanned, member, isRead, by simpa using three, placed, isPlaced,
    lines.imp ?_⟩
  rintro node label ⟨offset, stands, onLine⟩
  exact ⟨offset, stands, onLine.mpr (.inl (by simpa using hasLeader))⟩

/-- A function without comments, on lines that end in carriage returns. -/
def returnEnds : Text := "autoc:defun f ()\r\r(insert x)\rautoc#\r".toList

/-- Where lines end in carriage returns alone, a form can carry another number than that of its line. -/
theorem not_line_eq_lineAt :
    ¬ ∀ (text : Text) (directives : List Directive) (directive : Directive) (name : Text) (parameters : List Text)
        (nodes : List Node), scan text = .ok directives → directive ∈ directives →
        directive.header = .defun name parameters →
        Node.readBody directive.source directive.bodyLine = .ok nodes →
        ∃ placed, Node.Placed directive.source placed ∧
          List.Forall₂ (fun node label => ∃ offset, directive.StandsAt text node label offset ∧
            node.line = some (text.lineAt offset : Int)) (Node.partsAll nodes) (Node.partsAll placed) := by
  intro always
  have reads : succeedsWith (List.any · fun directive => directive.kind == .defun &&
      (directive.origins.all fun offset => returnEnds[offset]? != some '(' || returnEnds.lineAt offset == 3) &&
      succeedsWith (fun nodes => (Node.partsAll nodes).head?.any fun node => !node.isExpression && node.line == some 2)
        (Node.readBody directive.source directive.bodyLine)) (scan returnEnds) = true := by decide +kernel
  obtain ⟨directives, scanned, reads⟩ := exists_of_succeedsWith reads
  obtain ⟨directive, member, reads⟩ := List.any_eq_true.mp reads
  rw [Bool.and_eq_true, Bool.and_eq_true] at reads
  obtain ⟨⟨isDefun, onThird⟩, reads⟩ := reads
  obtain ⟨nodes, isRead, first⟩ := exists_of_succeedsWith reads
  obtain ⟨form, isFirst, known⟩ := (Option.any_eq_true ..).mp first
  rw [Bool.and_eq_true, beq_iff_eq, Bool.not_eq_true'] at known
  obtain ⟨isForm, second⟩ := known
  obtain ⟨name, parameters, header⟩ : ∃ name parameters, directive.header = .defun name parameters := by
    cases header : directive.header with
    | defun name parameters => exact ⟨name, parameters, rfl⟩
    | _ => simp [kind, header, Header.kind] at isDefun
  obtain ⟨placed, _, lines⟩ := always _ _ directive name parameters _ scanned member header isRead
  obtain ⟨others, parts⟩ := List.head?_eq_some_iff.mp isFirst
  rw [parts] at lines
  obtain ⟨label, _, ⟨offset, stands, onLine⟩, _⟩ := List.forall₂_cons_left_iff.mp lines
  obtain ⟨c, found, starts⟩ := stands.first
  obtain ⟨place, _, origin⟩ := stands.origin
  obtain rfl : c = '(' := by
    cases form with
    | literal | reference => cases isForm
    | insert | newline | loop | call => exact starts
  have third : returnEnds.lineAt offset = 3 := by
    simpa [found] using List.all_eq_true.mp onThird offset (List.mem_of_getElem? origin)
  rw [third, second] at onLine
  cases onLine

end Directive

end Regen
