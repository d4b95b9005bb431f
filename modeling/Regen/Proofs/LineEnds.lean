import Mathlib.Data.List.TakeWhile
import Regen.Proofs.Locations
import Regen.Proofs.Provenance
import Regen.Proofs.Widening

/-!
# Line feeds and pairs

A document that ends its lines in line feeds can be rewritten to end them in pairs of a carriage return and a line
feed. Its lines keep their numbers, its headers and bodies their tokens, and its directives take the pair for their own
line end, so that a run breaks its lines in pairs where it broke them in feeds. Expanding thus commutes with the
rewriting. Only a string that denotes a line feed stands apart: what it inserts is no line end of the document.
-/

namespace Regen

open Text Directive

/-! ## Texts and lines -/

namespace Text

variable {text : Text}

/-- The text with every line feed turned into a carriage return and a line feed. -/
def crlf (text : Text) : Text := text.flatMap fun c => if c = '\n' then ['\r', '\n'] else [c]

@[simp] theorem crlf_nil : crlf [] = [] := rfl

@[simp] theorem crlf_append (first second : Text) : crlf (first ++ second) = crlf first ++ crlf second :=
  List.flatMap_append

theorem crlf_cons_feed (rest : Text) : crlf ('\n' :: rest) = '\r' :: '\n' :: crlf rest := rfl

theorem crlf_cons {c : Char} (other : c ≠ '\n') (rest : Text) : crlf (c :: rest) = c :: crlf rest := by
  rw [crlf, List.flatMap_cons, if_neg other]
  rfl

theorem crlf_flatMap {α : Type} (items : List α) (part : α → Text) :
    crlf (items.flatMap part) = items.flatMap fun a => crlf (part a) := List.flatMap_assoc

/-- A text without line feeds stays as it is. -/
theorem crlf_of_feedless (feedless : '\n' ∉ text) : crlf text = text := by
  induction text with
  | nil => rfl
  | cons c rest ih =>
    rw [List.mem_cons, not_or] at feedless
    rw [crlf_cons (Ne.symm feedless.1), ih feedless.2]

theorem crlf_eq_nil_iff : crlf text = [] ↔ text = [] := by
  cases text with
  | nil => simp
  | cons c rest =>
    by_cases feed : c = '\n'
    · simp [feed, crlf_cons_feed]
    · simp [crlf_cons feed]

/-- The last character stays the same. -/
theorem getLast?_crlf (text : Text) : (crlf text).getLast? = text.getLast? := by
  rcases List.eq_nil_or_concat' text with rfl | ⟨first, c, rfl⟩
  · rfl
  · by_cases feed : c = '\n'
    · have pair : crlf [c] = ['\r'] ++ [c] := by rw [feed]; rfl
      rw [crlf_append, pair, ← List.append_assoc, List.getLast?_concat, List.getLast?_concat]
    · have kept : crlf [c] = [c] := by rw [crlf_cons feed, crlf_nil]
      rw [crlf_append, kept, List.getLast?_concat, List.getLast?_concat]

theorem crlf_intercalate (pieces : List Text) :
    crlf (['\n'].intercalate pieces) = ['\r', '\n'].intercalate (pieces.map crlf) := by
  induction pieces with
  | nil => rfl
  | cons piece rest ih =>
    cases rest with
    | nil => simp
    | cons next rest =>
      rw [List.map_cons, List.intercalate_cons_cons, crlf_append, crlf_append, ih, List.map_cons,
        List.intercalate_cons_cons]
      rfl

/-- What holds no carriage return starts the rewritten text only if it starts the text. -/
theorem isPrefix_of_isPrefix_crlf {needle : Text} (noReturn : '\r' ∉ needle) (found : needle <+: crlf text) :
    needle <+: text := by
  induction needle generalizing text with
  | nil => exact List.nil_prefix
  | cons d needle ih =>
    rw [List.mem_cons, not_or] at noReturn
    cases text with
    | nil => exact absurd (List.prefix_nil.mp found) (by simp)
    | cons c rest =>
      by_cases feed : c = '\n'
      · rw [feed, crlf_cons_feed] at found
        exact absurd (List.cons_prefix_cons.mp found).1 (Ne.symm noReturn.1)
      · rw [crlf_cons feed, List.cons_prefix_cons] at found
        exact List.cons_prefix_cons.mpr ⟨found.1, ih noReturn.2 found.2⟩

theorem isInfix_of_isInfix_crlf {needle : Text} (noReturn : '\r' ∉ needle) (noFeed : '\n' ∉ needle)
    (found : needle <:+: crlf text) : needle <:+: text := by
  induction text with
  | nil => exact found
  | cons c rest ih =>
    by_cases feed : c = '\n'
    · rw [feed, crlf_cons_feed, List.infix_cons_iff, List.infix_cons_iff] at found
      rcases found with atReturn | atFeed | later
      · cases needle with
        | nil => exact List.nil_infix
        | cons d needle => exact absurd (by simp [(List.cons_prefix_cons.mp atReturn).1]) noReturn
      · cases needle with
        | nil => exact List.nil_infix
        | cons d needle => exact absurd (by simp [(List.cons_prefix_cons.mp atFeed).1]) noFeed
      · exact (ih later).trans (List.suffix_cons ..).isInfix
    · rw [crlf_cons feed, List.infix_cons_iff] at found
      rcases found with here | later
      · rw [← crlf_cons feed] at here
        exact (isPrefix_of_isPrefix_crlf noReturn here).isInfix
      · exact (ih later).trans (List.suffix_cons ..).isInfix

/-- The only characters of a text that end lines are line feeds. -/
def OnlyFeeds (text : Text) : Prop := ∀ c ∈ text, isLineBreak c = true → c = '\n'

end Text

namespace Line

variable {line : Line}

/-- The line with a line feed at its end turned into a carriage return and a line feed. -/
def crlf (line : Line) : Line := if line.terminator = ['\n'] then { line with terminator := ['\r', '\n'] } else line

/-- A line without breaks inside that ends in a line feed, if it ends. -/
structure Fed (line : Line) : Prop where
  proper : line.Proper
  ending : line.terminator = [] ∨ line.terminator = ['\n']

@[simp] theorem body_crlf (line : Line) : line.crlf.body = line.body := by
  unfold crlf
  split <;> rfl

theorem content_crlf (line : Line) : line.crlf.content = line.content := by
  unfold crlf
  split
  · next feed => simp [content, endsPlainly, feed]
  · rfl

theorem marker_crlf (line : Line) : line.crlf.marker = line.marker := by
  rw [marker, content_crlf, marker]

theorem indent_crlf (line : Line) : line.crlf.indent = line.indent := by
  rw [indent, content_crlf, indent]

theorem Fed.text_crlf (fed : line.Fed) : line.crlf.text = line.text.crlf := by
  have body : line.body.crlf = line.body := crlf_of_feedless fed.proper.feed_not_mem_body
  unfold crlf
  rcases fed.ending with missing | feed
  · rw [missing, if_neg (by simp), text, missing, List.append_nil, body]
  · rw [if_pos feed, text, text, feed, crlf_append, body]
    rfl

theorem Fed.terminator_crlf (fed : line.Fed) : line.crlf.terminator = [] ∨ line.crlf.terminator = ['\r', '\n'] := by
  unfold crlf
  rcases fed.ending with missing | feed
  · simp [missing]
  · simp [feed]

theorem terminator_crlf_eq_nil_iff : line.crlf.terminator = [] ↔ line.terminator = [] := by
  unfold crlf
  split
  · next feed => simp [feed]
  · rfl

theorem Fed.proper_crlf (fed : line.Fed) : line.crlf.Proper where
  unbroken := by
    rw [body_crlf]
    exact fed.proper.unbroken
  ending := fed.terminator_crlf.imp id .inl
  nonempty := by
    rw [fed.text_crlf, ne_eq, crlf_eq_nil_iff]
    exact fed.proper.nonempty

end Line

namespace Text

variable {text : Text}

theorem unlines_map_crlf {lines : List Line} (fed : ∀ line ∈ lines, line.Fed) :
    unlines (lines.map Line.crlf) = (unlines lines).crlf := by
  rw [unlines, unlines, crlf_flatMap, List.flatMap_map]
  exact List.flatMap_congr fun line member => (fed line member).text_crlf

theorem OnlyFeeds.fed (feeds : text.OnlyFeeds) : ∀ line ∈ text.lines, line.Fed := by
  intro line member
  have proper := (lines_sequence text).proper line member
  have inText : line.terminator ⊆ text :=
    ((List.suffix_append ..).isInfix.trans (infix_of_mem_lines member)).subset
  refine ⟨proper, ?_⟩
  rcases proper.ending with missing | pair | ⟨c, isBreak, single⟩
  · exact .inl missing
  · have isReturn : '\r' = '\n' := feeds '\r' (inText (by simp [pair])) rfl
    cases isReturn
  · have isFeed : c = '\n' := feeds c (inText (by simp [single])) isBreak
    exact .inr (by rw [single, isFeed])

/-- The lines of the rewritten text are the rewritten lines. -/
theorem OnlyFeeds.lines_crlf (feeds : text.OnlyFeeds) : text.crlf.lines = text.lines.map Line.crlf := by
  have fed := feeds.fed
  have sequence : Line.Sequence (text.lines.map Line.crlf) := by
    constructor
    · intro line member
      obtain ⟨original, inLines, rfl⟩ := List.mem_map.mp member
      exact (fed original inLines).proper_crlf
    · rw [List.isChain_map]
      refine (lines_sequence text).chain.imp_of_mem_imp fun line next inLines _ precedes => ⟨?_, ?_⟩
      · rw [ne_eq, Line.terminator_crlf_eq_nil_iff]
        exact precedes.1
      · rintro ⟨isReturn, _⟩
        rcases (fed line inLines).terminator_crlf with missing | pair
        · rw [missing] at isReturn
          cases isReturn
        · rw [pair] at isReturn
          cases isReturn
  have joined := sequence.lines_unlines
  rwa [unlines_map_crlf fed, unlines_lines] at joined

theorem OnlyFeeds.lineBodies_crlf (feeds : text.OnlyFeeds) : text.crlf.lineBodies = text.lineBodies := by
  rw [lineBodies, feeds.lines_crlf, List.map_map, lineBodies]
  exact List.map_congr_left fun line _ => line.body_crlf

theorem feedless_of_mem_lineBodies {body : Text} (member : body ∈ text.lineBodies) : '\n' ∉ body := by
  obtain ⟨line, inLines, rfl⟩ := List.mem_map.mp member
  exact ((lines_sequence text).proper line inLines).feed_not_mem_body

end Text

/-! ## Reading -/

/-- A string does not denote a line feed. -/
def Lexeme.Feedless : Lexeme → Prop
  | string chars => '\n' ∉ chars
  | _ => True

instance : DecidablePred Lexeme.Feedless
  | .string chars => inferInstanceAs (Decidable ('\n' ∉ chars))
  | .opening | .closing | .integer _ | .symbol _ => isTrue trivial

/-- No string in a text denotes a line feed. -/
def Text.StringsFeedless (text : Text) (line : Int) : Prop :=
  ∀ tokens, Token.scan text line = .ok tokens → ∀ token ∈ tokens, token.lexeme.Feedless

instance (text : Text) (line : Int) : Decidable (text.StringsFeedless line) :=
  match scanned : Token.scan text line with
  | .ok tokens =>
    decidable_of_iff (∀ token ∈ tokens, token.lexeme.Feedless)
      ⟨fun all _ same => Except.ok.inj (scanned.symm.trans same) ▸ all, fun all => all tokens scanned⟩
  | .error _ => isTrue fun _ same => by cases scanned.symm.trans same

namespace Lexer

/-- A string that is read, or one that was read, denotes a line feed. -/
def HasFeed (lexer : Lexer) : Prop :=
  (∃ start chars, (lexer.mode = .string start chars ∨ lexer.mode = .escape start chars) ∧ '\n' ∈ chars) ∨
    ∃ token ∈ lexer.tokens, ¬ token.lexeme.Feedless

theorem tokens_begin_suffix (lexer : Lexer) (c : Char) : lexer.tokens <:+ (lexer.begin c).tokens := by
  unfold begin
  split_ifs
  · exact List.suffix_rfl
  · exact List.suffix_rfl
  · exact List.suffix_cons ..
  · exact List.suffix_cons ..
  · exact List.suffix_rfl
  · exact List.suffix_rfl

theorem tokens_step_suffix {lexer next : Lexer} {c : Char} (stepped : lexer.step c = .ok next) :
    lexer.tokens <:+ next.tokens := by
  unfold step at stepped
  split at stepped
  · cases stepped
    exact lexer.tokens_begin_suffix c
  · cases stepped
    split
    · exact lexer.tokens_begin_suffix c
    · exact List.suffix_rfl
  · split at stepped
    · obtain ⟨lexeme, _, stepped⟩ := bind_eq_ok stepped
      cases stepped
      have emitted : lexer.tokens <:+ (lexer.emit lexeme lexer.line).tokens := List.suffix_cons ..
      exact emitted.trans (tokens_begin_suffix ..)
    · cases stepped
      exact List.suffix_rfl
  · split_ifs at stepped
    · cases stepped
      exact List.suffix_cons ..
    · cases stepped
      exact List.suffix_rfl
    · cases stepped
      exact List.suffix_rfl
  · cases stepped
    exact List.suffix_rfl

/-- A line feed in a string is there to stay. -/
theorem HasFeed.step {lexer next : Lexer} {c : Char} (hasFeed : lexer.HasFeed) (stepped : lexer.step c = .ok next) :
    next.HasFeed := by
  rcases hasFeed with ⟨start, chars, mode | mode, member⟩ | ⟨token, member, feed⟩
  · rw [Lexer.step, mode] at stepped
    dsimp only at stepped
    split_ifs at stepped
    · cases stepped
      exact .inr ⟨⟨.string chars.reverse, start⟩, List.mem_cons_self .., by simpa [Lexeme.Feedless] using member⟩
    · cases stepped
      exact .inl ⟨start, chars, .inr rfl, member⟩
    · cases stepped
      exact .inl ⟨start, c :: chars, .inl rfl, List.mem_cons_of_mem _ member⟩
  · rw [Lexer.step, mode] at stepped
    cases stepped
    exact .inl ⟨start, _, .inl rfl, List.mem_append_right _ member⟩
  · exact .inr ⟨token, (tokens_step_suffix stepped).subset member, feed⟩

theorem HasFeed.steps {lexer last : Lexer} {text : Text} (hasFeed : lexer.HasFeed)
    (ran : text.foldlM Lexer.step lexer = .ok last) : last.HasFeed := by
  induction text generalizing lexer with
  | nil =>
    cases ran
    exact hasFeed
  | cons c rest ih =>
    rw [List.foldlM_cons] at ran
    obtain ⟨next, stepped, ran⟩ := bind_eq_ok ran
    exact ih (hasFeed.step stepped) ran

theorem HasFeed.finish {lexer : Lexer} {tokens : List Token} (hasFeed : lexer.HasFeed)
    (finished : lexer.finish = .ok tokens) : ∃ token ∈ tokens, ¬ token.lexeme.Feedless := by
  rcases hasFeed with ⟨start, chars, mode | mode, _⟩ | ⟨token, member, feed⟩
  · rw [Lexer.finish, mode] at finished
    cases finished
  · rw [Lexer.finish, mode] at finished
    cases finished
  · refine ⟨token, ?_, feed⟩
    unfold Lexer.finish at finished
    split at finished
    · cases finished
      exact List.mem_reverse.mpr member
    · cases finished
      exact List.mem_reverse.mpr member
    · obtain ⟨lexeme, _, finished⟩ := bind_eq_ok finished
      cases finished
      exact List.mem_reverse.mpr (List.mem_cons_of_mem _ member)
    · cases finished
    · cases finished

/-- A carriage return before a line feed says nothing, unless a string takes in the two. -/
theorem step_return_feed (lexer : Lexer) :
    (lexer.step '\r' >>= fun next => next.step '\n') = lexer.step '\n' ∨
      ∃ next, lexer.step '\n' = .ok next ∧ next.HasFeed := by
  obtain ⟨mode, line, tokens⟩ := lexer
  cases mode with
  | between => exact .inl rfl
  | comment => exact .inl rfl
  | word chars =>
    refine .inl ?_
    have delimits : isDelimiter '\r' = true ∧ isDelimiter '\n' = true := by decide
    simp only [Lexer.step, delimits.1, delimits.2, if_true]
    cases Lexeme.ofWord chars.reverse with
    | error failure => rfl
    | ok lexeme => rfl
  | string start chars => exact .inr ⟨_, rfl, .inl ⟨start, '\n' :: chars, .inl rfl, List.mem_cons_self ..⟩⟩
  | escape start chars => exact .inr ⟨_, rfl, .inl ⟨start, _, .inl rfl, List.mem_append_left _ (by decide)⟩⟩

theorem steps_crlf {lexer : Lexer} {text : Text} {tokens : List Token}
    (feedless : ∀ token ∈ tokens, token.lexeme.Feedless)
    (scanned : (text.foldlM Lexer.step lexer >>= Lexer.finish) = .ok tokens) :
    (text.crlf.foldlM Lexer.step lexer >>= Lexer.finish) = .ok tokens := by
  induction text generalizing lexer with
  | nil => exact scanned
  | cons c rest ih =>
    rw [List.foldlM_cons] at scanned
    obtain ⟨last, ran, finished⟩ := bind_eq_ok scanned
    obtain ⟨next, stepped, ranRest⟩ := bind_eq_ok ran
    have later : (rest.foldlM Lexer.step next >>= Lexer.finish) = .ok tokens := by
      rw [ranRest]
      exact finished
    by_cases feed : c = '\n'
    · subst feed
      rcases lexer.step_return_feed with same | ⟨broken, isBroken, hasFeed⟩
      · rw [stepped] at same
        obtain ⟨between, first, second⟩ := bind_eq_ok same
        rw [crlf_cons_feed, List.foldlM_cons, first]
        change ('\n' :: Text.crlf rest).foldlM Lexer.step between >>= Lexer.finish = _
        rw [List.foldlM_cons, second]
        exact ih later
      · obtain rfl : next = broken := Except.ok.inj (stepped.symm.trans isBroken)
        obtain ⟨token, member, isFeed⟩ := (hasFeed.steps ranRest).finish finished
        exact absurd (feedless token member) isFeed
    · rw [crlf_cons feed, List.foldlM_cons, stepped]
      exact ih later

end Lexer

/-- Tokens are the same with either line end, if no string denotes a line feed. -/
theorem Token.scan_crlf {text : Text} {line : Int} {tokens : List Token} (feedless : text.StringsFeedless line)
    (scanned : Token.scan text line = .ok tokens) : Token.scan text.crlf line = .ok tokens :=
  Lexer.steps_crlf (feedless tokens scanned) scanned

/-- Names and integers hold no line feed, so that only strings need to be looked at. -/
theorem Token.scan_feedless {text : Text} {line : Int} (feedless : text.StringsFeedless line) :
    Ends (fun _ => True) (fun tokens => ∀ token ∈ tokens, token.lexeme.Within (· ≠ '\n')) (Token.scan text line) := by
  have lexes := Token.scan_lexes text line
  cases scanned : Token.scan text line with
  | error failure => trivial
  | ok tokens =>
    rw [scanned] at lexes
    obtain ⟨spots, lexes, rfl⟩ := lexes
    intro token member
    have plain := feedless _ scanned token member
    obtain ⟨⟨before, lexeme⟩, inSpots, rfl⟩ := List.mem_map.mp member
    obtain ⟨written, spelled⟩ := lexes.spelled _ inSpots
    dsimp only at spelled
    cases spelled with
    | opening => trivial
    | closing => trivial
    | string quoted => exact fun c inChars isFeed => plain (isFeed ▸ inChars)
    | word nonempty unbroken means =>
      have known : written.Within (· ≠ '\n') := fun c inWord isFeed => by
        have delimits := unbroken c inWord
        rw [isFeed] at delimits
        exact absurd delimits (by decide)
      have ends := Lexeme.within_ofWord known
      rwa [means] at ends

theorem Value.int_feedless (n : Int) : (Value.int n).Within (· ≠ '\n') := by
  have digit {n : Nat} {c : Char} (member : c ∈ Nat.toDigits 10 n) : c ≠ '\n' := by
    have isDigit := Nat.isDigit_of_mem_toDigits (by decide) (by decide) member
    rintro rfl
    cases isDigit
  intro c member
  cases n with
  | ofNat n => exact digit member
  | negSucc n =>
    rcases List.mem_cons.mp member with rfl | member
    · decide
    · exact digit member

/-! ## Directives -/

namespace Directive

/-- No string of a header or of the body of a function denotes a line feed. -/
structure Feedless (directive : Directive) : Prop where
  header : directive.headerText.StringsFeedless directive.line
  body : directive.kind = .defun → directive.source.StringsFeedless directive.bodyLine

instance (directive : Directive) : Decidable directive.Feedless :=
  decidable_of_iff (directive.headerText.StringsFeedless directive.line ∧
      (directive.kind = .defun → directive.source.StringsFeedless directive.bodyLine))
    ⟨fun both => ⟨both.1, both.2⟩, fun feedless => ⟨feedless.header, feedless.body⟩⟩

/-- The directive of a document that was rewritten, next to the one that it was before. -/
structure Rewritten (directive other : Directive) : Prop where
  header : other.header = directive.header
  line : other.line = directive.line
  indent : other.indent = directive.indent
  leader : other.leader = directive.leader
  body : other.body = directive.body.crlf
  feeds : directive.body.OnlyFeeds
  unfed : '\n' ∉ directive.indent
  newline : directive.newline = ['\n']
  pair : other.newline = ['\r', '\n']

variable {directive other : Directive}

theorem Rewritten.storedLines (rewritten : directive.Rewritten other) : other.storedLines = directive.storedLines := by
  rw [Directive.storedLines, Directive.storedLines, rewritten.body, rewritten.feeds.lineBodies_crlf, rewritten.indent]

theorem feedless_of_mem_storedLines {line : Text} (member : line ∈ directive.storedLines) : '\n' ∉ line := by
  obtain ⟨body, inBodies, rfl⟩ := List.mem_map.mp member
  have whole := feedless_of_mem_lineBodies inBodies
  cases found : directive.indent.isPrefixOf? body with
  | none => exact whole
  | some rest =>
    rw [List.isPrefixOf?_eq_some_iff_append_eq] at found
    exact fun member => whole (found ▸ List.mem_append_right _ member)

/-- The body of a function has the same tokens. -/
theorem Rewritten.readBody (rewritten : directive.Rewritten other)
    (feedless : directive.source.StringsFeedless directive.bodyLine) {body : List Node}
    (isRead : Node.readBody directive.source directive.bodyLine = .ok body) :
    Node.readBody other.source other.bodyLine = .ok body := by
  have sameLine : other.bodyLine = directive.bodyLine := by rw [bodyLine, bodyLine, rewritten.line]
  rw [sameLine]
  by_cases bare : directive.leader.isEmpty = true
  · have raw : other.source = directive.source.crlf := by
      rw [source, source, rewritten.leader, if_pos bare, if_pos bare, rewritten.body]
    rw [Node.readBody_eq] at isRead ⊢
    obtain ⟨tokens, scanned, made⟩ := bind_eq_ok isRead
    rw [raw, Token.scan_crlf feedless scanned]
    exact made
  · have same : other.source = directive.source := by
      rw [source, source, rewritten.leader, if_neg bare, if_neg bare, rewritten.body,
        rewritten.feeds.lineBodies_crlf]
    rwa [same]

end Directive

theorem Line.feed_not_mem_indent (line : Line) : '\n' ∉ line.indent := by
  intro member
  have inIndent := List.mem_takeWhile_imp member
  simp at inIndent

theorem Line.Opens.header_feedless {line : Line} {header : Header} {headerText leader : Text}
    (opens : line.Opens header headerText leader) {number : Int} (feedless : headerText.StringsFeedless number) :
    header.Within (· ≠ '\n') := by
  cases opens with
  | intro _ _ read => exact Header.within_of_tokens Value.int_feedless (Token.scan_feedless feedless) (read number)

theorem Line.Fed.onlyFeeds {line : Line} (fed : line.Fed) : line.text.OnlyFeeds := by
  intro c member isBreak
  rcases List.mem_append.mp member with inBody | inEnd
  · rw [fed.proper.unbroken c inBody] at isBreak
    cases isBreak
  · rcases fed.ending with missing | feed
    · rw [missing] at inEnd
      cases inEnd
    · rw [feed] at inEnd
      exact List.mem_singleton.mp inEnd

namespace Passage

variable {passage : Passage}

def crlf (passage : Passage) : Passage where
  before := passage.before.map Line.crlf
  opening := passage.opening.crlf
  header := passage.header
  headerText := passage.headerText
  leader := passage.leader
  inside := passage.inside.map Line.crlf
  closing := passage.closing.crlf
  before_plain := List.forall_mem_map.mpr fun line member =>
    (line.marker_crlf).trans (passage.before_plain line member)
  opens := passage.opens.of_marker (Line.marker_crlf _)
  inside_plain := List.forall_mem_map.mpr fun line member =>
    (line.marker_crlf).trans (passage.inside_plain line member)
  closes := (Line.marker_crlf _).trans passage.closes

/-- The lines of a passage end in line feeds, that of its open marker in any case. -/
structure Fed (passage : Passage) : Prop where
  lines : ∀ line ∈ passage.lines, line.Fed
  opening : passage.opening.terminator = ['\n']

theorem lines_crlf (passage : Passage) : passage.crlf.lines = passage.lines.map Line.crlf := by
  simp [lines, crlf]

theorem Fed.before (fed : passage.Fed) : ∀ line ∈ passage.before, line.Fed :=
  fun line member => fed.lines line (by simp [Passage.lines, member])

theorem Fed.inside (fed : passage.Fed) : ∀ line ∈ passage.inside, line.Fed :=
  fun line member => fed.lines line (by simp [Passage.lines, member])

/-- The directive of the rewritten passage stands on the same line. -/
theorem Fed.rewritten (fed : passage.Fed) (number start start' : Nat) :
    (passage.directive number start).Rewritten (passage.crlf.directive number start') where
  header := rfl
  line := by simp [directive, crlf]
  indent := Line.indent_crlf _
  leader := rfl
  body := unlines_map_crlf fed.inside
  feeds := by
    intro c member
    obtain ⟨line, inLines, inText⟩ := List.mem_flatMap.mp member
    exact (fed.inside line inLines).onlyFeeds c inText
  unfed := passage.opening.feed_not_mem_indent
  newline := by simp [directive, Line.newline, Line.endsPlainly, fed.opening]
  pair := by simp [directive, crlf, Line.crlf, Line.newline, Line.endsPlainly, fed.opening]

theorem rewritten_directives {passages : List Passage} (fed : ∀ passage ∈ passages, passage.Fed)
    (number start start' : Nat) :
    List.Forall₂ Rewritten (directives number start passages) (directives number start' (passages.map crlf)) := by
  induction passages generalizing number start start' with
  | nil => exact .nil
  | cons passage rest ih =>
    obtain ⟨first, others⟩ := List.forall_mem_cons.mp fed
    rw [List.map_cons, directives_cons, directives_cons, lines_crlf, List.length_map]
    exact .cons (first.rewritten number start start') (ih others _ _ _)

/-- A new region is rewritten along with the lines around it. -/
theorem Fed.filled_crlf (fed : passage.Fed) {region region' : Text}
    (regions : passage.producesOutput = true → region' = region.crlf) :
    passage.crlf.filled region' = (passage.filled region).crlf := by
  have same : passage.crlf.producesOutput = passage.producesOutput := rfl
  unfold filled
  rw [same]
  split
  · next produces =>
    have before : unlines passage.crlf.before = (unlines passage.before).crlf := unlines_map_crlf fed.before
    have opening : passage.crlf.opening.text = passage.opening.text.crlf :=
      (fed.lines _ (by simp [Passage.lines])).text_crlf
    have closing : passage.crlf.closing.text = passage.closing.text.crlf :=
      (fed.lines _ (by simp [Passage.lines])).text_crlf
    rw [before, opening, closing, regions produces, crlf_append, crlf_append, crlf_append]
  · rw [text, text, lines_crlf, unlines_map_crlf fed.lines]

end Passage

namespace Document

def crlf (document : Document) : Document where
  passages := document.passages.map Passage.crlf
  after := document.after.map Line.crlf
  after_plain := List.forall_mem_map.mpr fun line member =>
    (line.marker_crlf).trans (document.after_plain line member)

theorem lines_crlf (document : Document) : document.crlf.lines = document.lines.map Line.crlf := by
  rw [lines, lines, List.map_append, List.map_flatMap, crlf, List.flatMap_map]
  exact congrArg (· ++ _) (List.flatMap_congr fun passage _ => passage.lines_crlf)

variable {document : Document} {text : Text}

/-- In a text with line feeds only, every passage ends its lines in them; the line of an open marker has a line after
it, so that it ends. -/
theorem fed_passages (feeds : text.OnlyFeeds) (same : document.lines = text.lines) :
    ∀ passage ∈ document.passages, passage.Fed := by
  intro passage member
  have fed : ∀ line ∈ passage.lines, line.Fed := fun line inPassage => by
    refine feeds.fed line ?_
    rw [← same, lines]
    exact List.mem_append_left _ (List.mem_flatMap_of_mem member inPassage)
  refine ⟨fed, ?_⟩
  obtain ⟨first, later, split⟩ := List.append_of_mem member
  have chain := (lines_sequence text).chain
  rw [← same, lines, split, List.flatMap_append, List.flatMap_cons, List.append_assoc] at chain
  have own := chain.right_of_append.left_of_append.left_of_append
  have opens := own.right_of_append
  have ends : passage.opening.terminator ≠ [] := by
    obtain ⟨heads, _⟩ := List.isChain_cons.mp opens
    cases inside : passage.inside with
    | nil => exact (heads passage.closing (by simp [inside])).1
    | cons next rest => exact (heads next (by simp [inside])).1
  exact (fed passage.opening (by simp [Passage.lines])).ending.resolve_left ends

theorem fed_after (feeds : text.OnlyFeeds) (same : document.lines = text.lines) :
    ∀ line ∈ document.after, line.Fed := by
  intro line member
  refine feeds.fed line ?_
  rw [← same, lines]
  exact List.mem_append_right _ member

end Document

/-! ## Both passes -/

def Collection.crlf (collection : Collection) : Collection := ⟨collection.lines.map Text.crlf, collection.line⟩

def Program.crlf (program : Program) : Program := ⟨program.functions, program.collections.mapEntries Collection.crlf⟩

theorem Program.crlf_addCollection (program : Program) (name : Text) (collection : Collection) :
    (program.addCollection name collection).crlf = program.crlf.addCollection name collection.crlf := by
  simp only [crlf, addCollection, Table.insert_mapEntries]

namespace Expansion

variable {file : Option Text} {limits : Limits} {program : Program} {directive other : Directive}
  {directives others : List Directive}

def Gathered.crlf (gathered : Gathered) : Gathered := ⟨gathered.program.crlf, gathered.warnings⟩

theorem Gathered.crlf_addCollection (gathered : Gathered) (file : Option Text) (line : Nat) (name : Text)
    (collection : Collection) :
    (gathered.addCollection file line name collection).crlf =
      gathered.crlf.addCollection file line name collection.crlf := by
  simp only [crlf, addCollection, Program.crlf_addCollection, Gathered.mk.injEq, true_and]
  simp only [Program.crlf, Table.find?_mapEntries, Option.map_map]
  rfl

theorem Gathered.add_crlf {gathered next : Gathered} (rewritten : directive.Rewritten other)
    (feedless : directive.Feedless) (added : gathered.add file directive = .ok next) :
    gathered.crlf.add file other = .ok next.crlf := by
  have stored : directive.storedLines.map Text.crlf = directive.storedLines := by
    rw [List.map_congr_left fun line member => crlf_of_feedless (feedless_of_mem_storedLines member), List.map_id']
  unfold Gathered.add at added ⊢
  rw [rewritten.header, rewritten.line, rewritten.storedLines]
  cases named : directive.header with
  | defun name parameters =>
    rw [named] at added
    obtain ⟨body, isRead, added⟩ := bind_eq_ok added
    cases added
    have isDefun : directive.kind = .defun := by rw [Directive.kind, named]; rfl
    dsimp only
    rw [rewritten.readBody (feedless.body isDefun) isRead]
    rfl
  | lines name =>
    rw [named] at added
    cases added
    dsimp only
    rw [Gathered.crlf_addCollection, Collection.crlf, stored]
  | block name =>
    rw [named] at added
    cases added
    dsimp only
    rw [Gathered.crlf_addCollection, Collection.crlf, rewritten.newline, rewritten.pair, List.map_singleton,
      crlf_intercalate, stored]
  | _ =>
    rw [named] at added
    cases added
    rfl

/-- The first pass over rewritten directives finds the same, with the same warnings. -/
theorem gather_crlf {gathered : Gathered} (rewritten : List.Forall₂ Rewritten directives others)
    (feedless : ∀ directive ∈ directives, directive.Feedless) (gathers : gather file directives = .ok gathered) :
    gather file others = .ok gathered.crlf := by
  have start : (⟨.empty, []⟩ : Gathered) = Gathered.crlf ⟨.empty, []⟩ := rfl
  unfold gather at gathers ⊢
  rw [start]
  generalize (⟨.empty, []⟩ : Gathered) = begun at gathers
  induction rewritten generalizing begun with
  | nil =>
    cases gathers
    rfl
  | @cons directive other directives others first _ ih =>
    obtain ⟨own, rest⟩ := List.forall_mem_cons.mp feedless
    rw [List.foldlM_cons] at gathers ⊢
    obtain ⟨next, added, gathers⟩ := bind_eq_ok gathers
    have added' : atDirective file other (begun.crlf.add file other) = .ok next.crlf :=
      atDirective_eq_ok_iff.mpr (Gathered.add_crlf first own (atDirective_eq_ok_iff.mp added))
    rw [added']
    exact ih rest next gathers

theorem functions_feedless {gathered : Gathered} (feedless : ∀ directive ∈ directives, directive.Feedless)
    (gathers : gather file directives = .ok gathered) (name : Text) (function : Function)
    (found : gathered.program.functions.find? name = some function) :
    ∀ form ∈ function.body, form.Within (· ≠ '\n') := by
  obtain ⟨definition, defines⟩ := defines_of_gather gathers found
  have isDefun : definition.kind = .defun := by rw [Directive.kind, defines.header]; rfl
  have forms : Ends (fun _ => True) (fun nodes => ∀ node ∈ nodes, node.Within (· ≠ '\n'))
      (Node.readBody definition.source definition.bodyLine) := by
    rw [Node.readBody_eq]
    exact (Token.scan_feedless ((feedless definition defines.mem).body isDefun)).bind fun _ all =>
      Node.ofTokens_within Value.int_feedless all
  rwa [defines.body] at forms

theorem messages_crlf (rewritten : List.Forall₂ Rewritten directives others) :
    messages file others = messages file directives := by
  induction rewritten with
  | nil => rfl
  | cons first _ ih =>
    rw [messages, messages, List.filterMap_cons, List.filterMap_cons, first.header, first.line]
    rw [messages, messages] at ih
    rw [ih]

end Expansion

namespace Buffer

variable {buffer : Buffer}

/-- No line feed was inserted, and none stands in the indentation. -/
structure Feedless (buffer : Buffer) : Prop where
  indent : '\n' ∉ buffer.indent
  inserted : ∀ text, .insert text ∈ buffer.events → '\n' ∉ text

theorem Feedless.push_insert (feedless : buffer.Feedless) {text : Text} (also : text.Within (· ≠ '\n')) :
    (buffer.push (.insert text)).Feedless where
  indent := feedless.indent
  inserted := inserted_push_insert feedless.inserted fun inText => also _ inText rfl

theorem Feedless.push_newline (feedless : buffer.Feedless) : (buffer.push .newline).Feedless where
  indent := feedless.indent
  inserted := inserted_push_newline feedless.inserted

theorem layout_crlf {indent : Text} {events : List Event} (feedless : Feedless ⟨indent, ['\n'], events⟩) :
    layout ⟨indent, ['\r', '\n'], events⟩ = (layout ⟨indent, ['\n'], events⟩).crlf := by
  rw [layout, layout, crlf_append, crlf_of_feedless feedless.indent, crlf_flatMap]
  refine congrArg (indent ++ ·) (List.flatMap_congr fun event member => ?_)
  cases event with
  | insert text => exact (crlf_of_feedless (feedless.inserted text (List.mem_reverse.mp member))).symm
  | newline =>
    rw [written, written, crlf_append, crlf_of_feedless feedless.indent]
    rfl

/-- A buffer that breaks its lines in pairs holds the rewritten text. -/
theorem value_crlf {indent : Text} {events : List Event} (feedless : Feedless ⟨indent, ['\n'], events⟩) :
    value ⟨indent, ['\r', '\n'], events⟩ = (value ⟨indent, ['\n'], events⟩).crlf := by
  cases events with
  | nil => rw [value_nil, value_nil, crlf_nil]
  | cons event older =>
    cases event with
    | insert text => exact layout_crlf feedless
    | newline =>
      have earlier : Feedless ⟨indent, ['\n'], older⟩ :=
        ⟨feedless.indent, fun text member => feedless.inserted text (List.mem_cons_of_mem _ member)⟩
      rw [value_newline, value_newline, crlf_append, layout_crlf earlier]
      rfl

end Buffer

theorem Text.asRegion_crlf (text : Text) : text.crlf.asRegion ['\r', '\n'] = (text.asRegion ['\n']).crlf := by
  have empty : text.crlf.isEmpty = text.isEmpty := by
    rw [Bool.eq_iff_iff, List.isEmpty_iff, List.isEmpty_iff, crlf_eq_nil_iff]
  rw [asRegion, asRegion, empty, getLast?_crlf]
  split
  · rfl
  · rw [crlf_append]
    rfl

theorem Template.fill_crlf {template : Text} (feedless : '\n' ∉ template) (line : Text) :
    fill template line.crlf = (fill template line).crlf := by
  unfold fill
  split
  · next before after split =>
    rw [eq_of_splitAtFirst? split] at feedless
    simp only [List.mem_append, not_or] at feedless
    rw [crlf_append, crlf_append, crlf_of_feedless feedless.1.1, crlf_of_feedless feedless.2]
  · exact (crlf_of_feedless feedless).symm

namespace Expansion

variable {limits : Limits} {program : Program} {directive other : Directive} {text : Text}

section Rewritten

variable (rewritten : directive.Rewritten other) (header : directive.header.Within (· ≠ '\n'))
  (functions : ∀ name function, program.functions.find? name = some function →
    ∀ form ∈ function.body, form.Within (· ≠ '\n'))

include rewritten header functions

/-- A rewritten directive generates the rewritten text. -/
theorem generate_crlf (generated : generate program limits directive = .ok text) :
    generate program.crlf limits other = .ok text.crlf := by
  unfold generate at generated ⊢
  rw [rewritten.header, rewritten.line, rewritten.indent, rewritten.pair]
  rw [rewritten.newline] at generated
  cases named : directive.header with
  | funcall name arguments =>
    rw [named] at generated header
    have start : (Buffer.start directive.indent ['\n']).Feedless := ⟨rewritten.unfed, fun _ member => by cases member⟩
    have kept := Program.call_keeps Value.int_feedless functions (fun _ _ holds also => holds.push_insert also)
      (fun _ holds => holds.push_newline) limits name header (some directive.line)
      (.start (.start directive.indent ['\n'])) start
    have newline := program.newline_call limits name arguments (some directive.line)
      (.start (.start directive.indent ['\n']))
    -- the call on the other buffer takes the same steps
    have sameCall : program.crlf.call limits = program.call limits := Program.call_congr limits fun _ => rfl
    have mirrored : program.call limits name arguments (some directive.line)
        (.start (.start directive.indent ['\r', '\n'])) = _ :=
      program.relocate_id ▸ program.call_mirrors limits id ['\r', '\n'] name arguments (some directive.line)
        (.start (.start directive.indent ['\n']))
    dsimp only at generated ⊢
    rw [sameCall, mirrored]
    generalize program.call limits name arguments (some directive.line) _ = outcome at generated kept newline ⊢
    obtain ⟨result, after⟩ := outcome
    cases result with
    | error failure => cases generated
    | ok _ =>
      cases generated
      obtain ⟨depth, iterations, indent, feed, events⟩ := after
      obtain rfl : feed = ['\n'] := newline
      exact congrArg Except.ok ((congrArg (asRegion · _) (Buffer.value_crlf kept)).trans (asRegion_crlf _))
  | formatLines name template =>
    rw [named] at generated header
    dsimp only at generated ⊢
    rw [Program.crlf, Table.find?_mapEntries]
    cases found : program.collections.find? name with
    | none =>
      rw [found] at generated
      cases generated
    | some collection =>
      rw [found] at generated
      dsimp only [Option.map_some, Collection.crlf] at generated ⊢
      rw [List.isEmpty_map]
      split at generated
      · next empty =>
        cases generated
        rw [if_pos empty]
        rfl
      · next filled =>
        cases generated
        have feedless : '\n' ∉ template := fun member => header _ member rfl
        rw [if_neg filled, Template.fillEach, Template.fillEach, crlf_append, crlf_intercalate, List.map_map,
          List.map_map]
        have rows : (fun line => directive.indent ++ Template.fill template line) ∘ Text.crlf =
            Text.crlf ∘ fun line => directive.indent ++ Template.fill template line := by
          funext line
          rw [Function.comp, Function.comp, Template.fill_crlf feedless, crlf_append,
            crlf_of_feedless rewritten.unfed]
        rw [rows]
        rfl
  | _ =>
    rw [named] at generated
    cases generated
    rfl

theorem region_crlf (success : region program limits directive = .ok text) :
    region program.crlf limits other = .ok text.crlf := by
  obtain ⟨generated, noOpen, noClose⟩ := generate_of_region success
  have clean : ¬ (openToken.occursIn text.crlf || closeToken.occursIn text.crlf) = true := by
    rw [Bool.or_eq_true, occursIn_iff_infix, occursIn_iff_infix]
    rintro (found | found)
    · exact noOpen (isInfix_of_isInfix_crlf (by decide) (by decide) found)
    · exact noClose (isInfix_of_isInfix_crlf (by decide) (by decide) found)
  rw [region, generate_crlf rewritten header functions generated]
  exact if_neg clean

end Rewritten

/-- What the headers of a document write holds no line feed. -/
theorem headers_feedless {document : Document} (feedless : ∀ directive ∈ document.directives, directive.Feedless) :
    ∀ passage ∈ document.passages, passage.header.Within (· ≠ '\n') := by
  have headers : ∀ directive ∈ document.directives, directive.header.Within (· ≠ '\n') := by
    intro directive member
    have strings := (feedless directive member).header
    obtain ⟨first, passage, later, _, rfl⟩ := Passage.exists_of_mem_directives member
    exact passage.opens.header_feedless strings
  exact (Passage.forall_mem_directives_iff fun passage _ number start => Iff.rfl).mp headers

/-- The regions of a rewritten document are the rewritten regions. -/
theorem text_regenerate_crlf {document : Document} (fed : ∀ passage ∈ document.passages, passage.Fed)
    (fedAfter : ∀ line ∈ document.after, line.Fed)
    (regions : ∀ passage ∈ document.passages, passage.producesOutput = true →
      (passage.crlf.generated program.crlf limits).text = (passage.generated program limits).text.crlf) :
    (document.crlf.regenerate program.crlf limits).text = (document.regenerate program limits).text.crlf := by
  rw [Document.regenerate, Document.text_refill, Document.regenerate, Document.text_refill, crlf_append, crlf_flatMap,
    ← unlines_map_crlf fedAfter, Document.crlf, List.flatMap_map]
  refine congrArg (· ++ _) (List.flatMap_congr fun passage member => ?_)
  exact (fed passage member).filled_crlf (regions passage member)

/-- Expanding commutes with turning line feeds into pairs: if the lines of a text end in line feeds only, no string of a
header or of the body of a function denotes one, and the text can be expanded, then the rewritten text can, into the
rewritten result, with the same diagnostics. -/
theorem expand_crlf {file : Option Text} {expansion : Expansion} (feeds : text.OnlyFeeds)
    (success : expand file limits text = .ok expansion)
    (feedless : ∀ directive ∈ expansion.directives, directive.Feedless) :
    ∃ rewritten, expand file limits text.crlf = .ok rewritten ∧ rewritten.text = expansion.text.crlf ∧
      rewritten.diagnostics = expansion.diagnostics := by
  obtain ⟨document, same, isDirectives⟩ := (Document.scan_eq_ok_iff ..).mp (scan_of_expand success)
  rw [← isDirectives] at feedless
  obtain ⟨gathered, gathers, all, rfl⟩ := (expand_eq_ok_iff same).mp success
  have fed := Document.fed_passages feeds same
  have headers := headers_feedless feedless
  have directives := Passage.rewritten_directives fed 1 0 0
  have functions := functions_feedless feedless gathers
  have regions : ∀ passage ∈ document.passages, passage.producesOutput = true → ∃ piece,
      region gathered.program limits (passage.directive 0 0) = .ok piece ∧
        region gathered.program.crlf limits (passage.crlf.directive 0 0) = .ok piece.crlf := by
    intro passage member produces
    obtain ⟨piece, made⟩ := all passage member produces
    exact ⟨piece, made, region_crlf ((fed passage member).rewritten 0 0 0) (headers passage member) functions made⟩
  have sameLines : document.crlf.lines = text.crlf.lines := by
    rw [document.lines_crlf, same, feeds.lines_crlf]
  refine ⟨_, (expand_eq_ok_iff sameLines).mpr ⟨gathered.crlf, gather_crlf directives feedless gathers, ?_, rfl⟩, ?_, ?_⟩
  · intro passage member produces
    obtain ⟨original, inPassages, rfl⟩ := List.mem_map.mp member
    obtain ⟨piece, _, made⟩ := regions original inPassages produces
    exact ⟨piece.crlf, made⟩
  · refine text_regenerate_crlf fed (Document.fed_after feeds same) fun passage member produces => ?_
    obtain ⟨piece, made, made'⟩ := regions passage member produces
    rw [Passage.text_generated made, Passage.text_generated made']
  · exact congrArg (gathered.warnings ++ ·) (messages_crlf directives)

/-- A function whose body stands in a comment and one whose body does not, with breaks and a comment of its own, a
block of two lines, and uses of all of them. -/
def feedEnds : Text :=
  "autoc:defun f ()\n(insert \"a\") ; b\n".toList ++ "(newline-and-indent)\nautoc#\n".toList ++
    "// autoc:defun f ()\n// (insert 1\n//)\n// autoc#\n".toList ++ "autoc:block b\nx\ny\nautoc#\n".toList ++
    " autoc:funcall f\nold\n autoc#\n".toList ++ "autoc:format-lines b \"<%s>\"\nautoc#\n".toList ++
    "autoc:message \"m\"\nautoc#".toList

theorem expand_crlf_feedEnds :
    ∃ expansion rewritten, feedEnds.OnlyFeeds ∧ expand none {} feedEnds = .ok expansion ∧
      (∀ directive ∈ expansion.directives, directive.Feedless) ∧ expand none {} feedEnds.crlf = .ok rewritten ∧
      rewritten.text = expansion.text.crlf ∧ rewritten.diagnostics = expansion.diagnostics ∧
      expansion.diagnostics.length = 2 ∧ expansion.text ≠ feedEnds := by
  have feeds : feedEnds.OnlyFeeds := by
    have all : (feedEnds.all fun c => !isLineBreak c || c == '\n') = true := by decide +kernel
    intro c member isBreak
    have allowed := List.all_eq_true.mp all c member
    simpa [isBreak] using allowed
  have expands : succeedsWith (fun expansion => decide ((∀ directive ∈ expansion.directives, directive.Feedless) ∧
      expansion.diagnostics.length = 2 ∧ expansion.text ≠ feedEnds)) (expand none {} feedEnds) = true := by
    decide +kernel
  obtain ⟨expansion, success, tested⟩ := exists_of_succeedsWith expands
  obtain ⟨feedless, diagnostics, changed⟩ := of_decide_eq_true tested
  obtain ⟨rewritten, success', text, same⟩ := expand_crlf feeds success feedless
  exact ⟨expansion, rewritten, feeds, success, feedless, success', text, same, diagnostics, changed⟩

end Expansion

end Regen
