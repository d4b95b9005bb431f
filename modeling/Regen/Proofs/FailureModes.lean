import Mathlib.Data.List.Infix
import Regen.Proofs.Forms
import Regen.Proofs.Locality
import Regen.Workspace.Regeneration

/-! # How an expansion fails

What is read of a document, a header or the body of a function, stands in its text apart from the start of comments, so
an integer that cannot be read is one of the text. All that is read can be run and written. An expansion therefore fails
with a fault, which a report on files lists, unless the text holds a row of more digits than can be converted or
a limit itself has too many digits. A row of digits that is too long does end the work on all files.
-/

namespace Regen

open Text Directive

namespace Text

variable {text part : Text}

theorem trimStart_suffix (text : Text) : text.trimStart <:+ text := List.dropWhile_suffix _

theorem trimEnd_isPrefix (text : Text) : text.trimEnd <+: text := by
  have dropped : text.reverse.dropWhile isBlank <:+ text.reverse := List.dropWhile_suffix _
  rw [← List.reverse_prefix, List.reverse_reverse] at dropped
  exact dropped

theorem trim_isInfix (text : Text) : text.trim <:+: text :=
  (trimEnd_isPrefix _).isInfix.trans text.trimStart_suffix.isInfix

theorem infix_of_mem_lines {line : Line} (member : line ∈ text.lines) : line.text <:+: text := by
  have inside : line.text <:+: (text.lines.map Line.text).flatten :=
    List.infix_of_mem_flatten (List.mem_map_of_mem member)
  rwa [← List.flatMap_def, ← unlines, unlines_lines] at inside

/-- Text without line feeds that stands in pieces joined by line feeds stands in one of the pieces. -/
theorem infix_of_infix_intercalate (noFeed : '\n' ∉ part) (nonempty : part ≠ []) {pieces : List Text}
    (inside : part <:+: ['\n'].intercalate pieces) : ∃ piece ∈ pieces, part <:+: piece := by
  induction pieces with
  | nil => exact absurd (List.infix_nil.mp inside) nonempty
  | cons piece rest ih =>
    cases rest with
    | nil => exact ⟨piece, List.mem_cons_self .., by simpa using inside⟩
    | cons next rest =>
      rw [List.intercalate_cons_cons, List.append_assoc, List.singleton_append] at inside
      -- a part that reaches beyond the piece holds the line feed
      have upToFeed {first second : Text} (split : part = first ++ second)
          (starts : second <+: '\n' :: ['\n'].intercalate (next :: rest)) : part = first := by
        rcases List.prefix_cons_iff.mp starts with rfl | ⟨tail, rfl, _⟩
        · rwa [List.append_nil] at split
        · exact absurd (by simp [split]) noFeed
      rcases List.infix_append_iff.mp inside with inside | inside | ⟨first, second, split, ends, starts⟩
      · exact ⟨piece, List.mem_cons_self .., inside⟩
      · rcases List.infix_cons_iff.mp inside with starts | inside
        · exact absurd (upToFeed (List.nil_append part).symm starts) nonempty
        · obtain ⟨other, member, inside⟩ := ih inside
          exact ⟨other, List.mem_cons_of_mem _ member, inside⟩
      · exact ⟨piece, List.mem_cons_self .., upToFeed split starts ▸ ends.isInfix⟩

end Text

namespace Marker

theorem suffix_of_opening? {content before name after : Text} (opens : opening? content = some (before, name, after)) :
    after <:+ content := by
  induction content generalizing before with
  | nil => cases opens
  | cons c rest ih =>
    rw [opening?] at opens
    split at opens
    · next found atStart =>
      cases opens
      obtain ⟨remaining, isPrefix, named⟩ := Option.bind_eq_some_iff.mp atStart
      rw [List.isPrefixOf?_eq_some_iff_append_eq] at isPrefix
      have ends : remaining <:+ c :: rest := ⟨openToken, isPrefix⟩
      cases remaining with
      | nil => cases named
      | cons d remaining =>
        rw [name?] at named
        split at named
        · cases named
          exact (List.dropWhile_suffix _).trans ((List.suffix_cons ..).trans ends)
        · cases named
    · obtain ⟨⟨earlier, _, _⟩, opens, same⟩ := Option.map_eq_some_iff.mp opens
      cases same
      exact (ih opens).trans (List.suffix_cons ..)

theorem suffix_of_opens {content before name after : Text} (opens : ofLine content = .opens before name after) :
    after <:+ content := by
  unfold ofLine at opens
  split at opens
  · next found =>
    cases opens
    exact suffix_of_opening? found
  · split at opens <;> cases opens

end Marker

namespace Directive

variable {text : Text} {directive : Directive}

theorem dropCloser_isInfix (header : Text) : dropCloser header <:+: header := by
  unfold dropCloser
  split
  · next rest found =>
    obtain ⟨closer, _, isSuffix⟩ := List.exists_of_findSome?_eq_some found
    rw [List.isSuffixOf?_eq_some_iff_append_eq] at isSuffix
    exact (trimEnd_isPrefix rest).isInfix.trans ⟨[], closer, isSuffix⟩
  · exact List.infix_rfl

/-- A header stands where markers are looked for. -/
theorem header_isInfix_content {line : Line} {before name after : Text}
    (marked : line.marker = .opens before name after) : dropCloser after.trim <:+: line.content :=
  calc dropCloser after.trim
    _ <:+: after.trim := dropCloser_isInfix _
    _ <:+: after := after.trim_isInfix
    _ <:+: line.content := (Marker.suffix_of_opens marked).isInfix

/-- A header stands on the line of its open marker. -/
theorem header_isInfix {line : Line} {before name after : Text} (marked : line.marker = .opens before name after) :
    dropCloser after.trim <:+: line.text :=
  (header_isInfix_content marked).trans line.content_prefix.isInfix

theorem uncomment_suffix (leader line : Text) : uncomment leader line <:+ line := by
  unfold uncomment
  cases found : leader.isPrefixOf? line.trimStart with
  | none => exact List.suffix_rfl
  | some rest =>
    rw [List.isPrefixOf?_eq_some_iff_append_eq] at found
    exact List.IsSuffix.trans ⟨leader, found⟩ line.trimStart_suffix

/-- A number in the source of a function stands in the text between the markers. -/
theorem infix_body_of_infix_source {number : Text} (isNumber : IsNumber number)
    (inside : number <:+: directive.source) : number <:+: directive.body := by
  by_cases empty : number = []
  · rw [empty]
    exact List.nil_infix
  unfold source at inside
  split at inside
  · exact inside
  · have noFeed : '\n' ∉ number := isNumber.not_mem (by decide)
    obtain ⟨piece, member, inside⟩ := infix_of_infix_intercalate noFeed empty inside
    obtain ⟨body, inBodies, rfl⟩ := List.mem_map.mp member
    obtain ⟨line, inLines, rfl⟩ := List.mem_map.mp inBodies
    calc number
      _ <:+: uncomment directive.leader line.body := inside
      _ <:+: line.body := (uncomment_suffix ..).isInfix
      _ <:+: line.text := (List.prefix_append ..).isInfix
      _ <:+: directive.body := infix_of_mem_lines inLines

end Directive

theorem Line.Opens.header_writable {line : Line} {header : Header} {headerText leader : Text}
    (opens : line.Opens header headerText leader) : header.Writable := by
  cases opens with
  | @intro before name after header marked named read =>
    have ends := Header.read_ends header.kind (dropCloser after.trim) 0
    rwa [read 0] at ends

namespace Directive

variable {text : Text} {directive : Directive}

/-- A directive whose body stands in a text and whose arguments can be written. -/
structure Readable (text : Text) (directive : Directive) : Prop where
  body : directive.body <:+: text
  header : directive.header.Writable

theorem Delimited.readable (delimited : Delimited text directive) : directive.Readable text := by
  obtain ⟨before, inside, after, opening, closing, lines, opens, _, _, _, _, body⟩ := delimited
  refine ⟨⟨unlines before ++ opening.text, closing.text ++ unlines after, ?_⟩, opens.header_writable⟩
  rw [body, ← unlines_lines text, lines]
  simp

theorem opened_ends {line : Line} {before name after : Text} (marked : line.marker = .opens before name after)
    (number start : Nat) :
    Ends (Failure.OfText line.text) (fun _ => True) (opened number start line before name after) := by
  unfold opened
  cases Kind.ofName? name with
  | none => trivial
  | some kind =>
    refine Ends.bind ?_ fun header (_ : header.Writable) => trivial
    refine (Header.read_ends kind (dropCloser after.trim) number).imp (fun failure ofHeader => ?_) fun _ => id
    exact ofHeader.imp fun digits _ inside => inside.trans (header_isInfix marked)

/-- Scanning lines fails with a fault or on an integer in one of them. -/
theorem ofLines_ends (number start : Nat) (state : Option Opened) (lines : List Line) :
    Ends (Failure.OfText (unlines lines)) (fun _ => True) (ofLines number start state lines) := by
  induction lines generalizing number start state with
  | nil => cases state <;> trivial
  | cons line rest ih =>
    have later (state : Option Opened) : Ends (Failure.OfText (unlines (line :: rest))) (fun _ => True)
        (ofLines (number + 1) (start + line.text.length) state rest) := by
      refine (ih _ _ state).imp (fun failure ofRest => ?_) fun _ _ => trivial
      refine ofRest.imp fun digits _ inside => inside.trans ?_
      rw [unlines_cons]
      exact (List.suffix_append ..).isInfix
    rw [ofLines_cons]
    cases marked : line.marker with
    | opens before name after =>
      cases state with
      | some pending => trivial
      | none =>
        refine Ends.bind ?_ fun pending (_ : True) => later (some pending)
        refine (opened_ends marked number start).imp (fun failure ofLine => ?_) fun _ _ => trivial
        refine ofLine.imp fun digits _ inside => inside.trans ?_
        rw [unlines_cons]
        exact (List.prefix_append ..).isInfix
    | closes =>
      cases state with
      | some pending => exact (later none).bind fun more _ => trivial
      | none => trivial
    | plain => cases state <;> exact later _

/-- Scanning a text fails with a fault or on an integer in it; the directives that it finds can be read. -/
theorem scan_ends (text : Text) :
    Ends (Failure.OfText text) (fun directives => ∀ directive ∈ directives, directive.Readable text) (scan text) := by
  have ends := ofLines_ends 1 0 none text.lines
  rw [unlines_lines] at ends
  cases scanned : scan text with
  | error failure =>
    rw [← scan, scanned] at ends
    exact ends
  | ok directives =>
    obtain ⟨document, same, rfl⟩ := (Document.scan_eq_ok_iff ..).mp scanned
    intro directive member
    exact (Document.delimited same member).readable

end Directive

/-- The ways in which the expansion of a text may fail: as reading it may, and as a run may. -/
def Failure.OfExpansion (limits : Limits) (text : Text) (failure : Failure) : Prop :=
  failure.OfText text ∨ failure.Reportable limits

theorem Failure.OfExpansion.locate {limits : Limits} {text : Text} {failure : Failure}
    (ofExpansion : failure.OfExpansion limits text) (line : Option Int) (file : Option Text) :
    (failure.locate line file).OfExpansion limits text := by
  cases failure with
  | fault f => exact .inl trivial
  | _ => exact ofExpansion

namespace Expansion

variable {limits : Limits} {text : Text} {program : Program} {directive : Directive}

/-- A failure gets the place of a directive where it has none. -/
theorem ends_atDirective {α : Type} {allowed placed : Failure → Prop} {good : α → Prop} {result : Except Failure α}
    {file : Option Text} {directive : Directive} (ends : Ends allowed good result)
    (located : ∀ failure, allowed failure → placed (failure.locate (some directive.line) file)) :
    Ends placed good (atDirective file directive result) := by
  cases result with
  | ok a => exact ends
  | error failure => exact located failure ends

theorem atDirective_ends {α : Type} {good : α → Prop} {result : Except Failure α}
    (ends : Ends (Failure.OfExpansion limits text) good result) (file : Option Text) (directive : Directive) :
    Ends (Failure.OfExpansion limits text) good (atDirective file directive result) :=
  ends_atDirective ends fun _ ofExpansion => ofExpansion.locate _ _

/-- A function that can be read can be run. -/
theorem Gathered.add_ends {gathered : Gathered} (runnable : gathered.program.Runnable)
    (readable : directive.Readable text) (file : Option Text) :
    Ends (Failure.OfText text) (fun gathered => gathered.program.Runnable) (gathered.add file directive) := by
  unfold Gathered.add
  split
  · have bodyRead : Ends (Failure.OfText text) (fun body => ∀ form ∈ body, form.Runnable)
        (Node.readBody directive.source directive.bodyLine) := by
      refine (Node.readBody_ends _ _).imp (fun failure ofSource => ?_) fun _ => id
      exact ofSource.imp fun number isNumber inside =>
        (infix_body_of_infix_source isNumber inside).trans readable.body
    refine bodyRead.bind fun body areRunnable => ?_
    intro name function found
    simp only [addFunction, Program.addFunction, Table.find?_insert] at found
    split at found
    · cases found
      exact areRunnable
    · exact runnable name function found
  · exact runnable
  · exact runnable
  · exact runnable

theorem gather_ends {directives : List Directive} (readable : ∀ directive ∈ directives, directive.Readable text)
    (limits : Limits) (file : Option Text) :
    Ends (Failure.OfExpansion limits text) (fun gathered => gathered.program.Runnable) (gather file directives) := by
  refine Ends.foldlM directives (fun gathered directive member runnable => ?_) ?_
  · have added := Gathered.add_ends runnable (readable directive member) file
    exact atDirective_ends (added.imp (fun failure => .inl) fun _ => id) file directive
  · intro name function found
    cases found

theorem region_ends (runnable : program.Runnable) (readable : directive.Readable text) (limits : Limits) :
    Ends (Failure.OfExpansion limits text) (fun _ => True) (region program limits directive) := by
  have generated : Ends (Failure.OfExpansion limits text) (fun _ => True) (generate program limits directive) := by
    unfold generate
    split
    · next name arguments isCall =>
      have writable : (Header.funcall name arguments).Writable := isCall ▸ readable.header
      dsimp only
      split
      · trivial
      · next failed => exact .inr (Program.call_reportable runnable rfl writable (congrArg Prod.fst failed))
    · split
      · exact .inl trivial
      · split <;> trivial
    · trivial
  refine generated.bind fun text _ => ?_
  split
  · exact .inl trivial
  · trivial

theorem expand_ends (file : Option Text) (limits : Limits) (text : Text) :
    Ends (Failure.OfExpansion limits text) (fun _ => True) (expand file limits text) := by
  have scans := scan_ends text
  cases scanned : scan text with
  | error failure =>
    rw [scanned] at scans
    rw [expand, scanned]
    exact Failure.OfExpansion.locate (.inl scans) none file
  | ok directives =>
    rw [scanned] at scans
    rw [expand_of_scan scanned]
    refine (gather_ends scans limits file).bind fun gathered runnable => ?_
    have made : Ends (Failure.OfExpansion limits text) (fun pieces => ∀ piece ∈ pieces, True)
        (regions file gathered.program limits directives) := by
      refine .mapM _ fun directive member => ?_
      have readable := scans directive (List.mem_filter.mp member).1
      exact atDirective_ends (region_ends runnable readable limits) file directive
    exact made.bind fun pieces _ => trivial

end Expansion

/-- A failure that stays with its document: a fault of the families for scanning and evaluation, which a report on files
lists. -/
structure Failure.Confined (failure : Failure) : Prop where
  family : ∃ fault, failure = .fault fault ∧
    (fault.content.category = .scan ∨ fault.content.category.isEvaluation = true)
  listed : ∀ path, ( FileFailure.entry? path (.document failure)).isSome = true

theorem Failure.confined_fault (fault : Located Fault) : (Failure.fault fault).Confined where
  family := by
    refine ⟨fault, rfl, ?_⟩
    cases fault.content <;> simp [Fault.category, Category.isEvaluation]
  listed path := rfl

namespace Expansion

variable {file : Option Text} {limits : Limits} {text : Text} {failure : Failure}

/-- An expansion fails with a fault that stays with its document, except for two ways: on a row of digits in the text
that is too long to be converted, and with limits of so many digits themselves. -/
theorem confined_of_expand_eq_error (failed : expand file limits text = .error failure) :
    failure.Confined ∨
      (∃ number, number <:+: text ∧ IsNumber number ∧ Value.maxDigits < number.length ∧
        failure = .oversizedInteger (some number.length)) ∨
      (limits.isWritable = false ∧ failure = .oversizedInteger none) := by
  have ends := expand_ends file limits text
  rw [failed] at ends
  cases failure with
  | fault fault => exact .inl (Failure.confined_fault fault)
  | oversizedInteger digits =>
    rcases ends with ofText | reportable
    · cases digits with
      | none => cases ofText
      | some digits =>
        obtain ⟨many, number, inside, isNumber, rfl⟩ := ofText
        exact .inr (.inl ⟨number, inside, isNumber, many, rfl⟩)
    · cases digits with
      | none => exact .inr (.inr ⟨reportable, rfl⟩)
      | some digits => cases reportable
  | _ => rcases ends with ofText | reportable <;> contradiction

/-- A function that calls itself. -/
def endlessCalls : Text := "autoc:defun f ()\n(funcall f)\nautoc#\nautoc:funcall f\nautoc#".toList

theorem confined_endlessCalls :
    ∃ failure, expand none { callDepth := 2 } endlessCalls = .error failure ∧ failure.Confined := by
  have fails : failsWith (fun _ => true) (expand none { callDepth := 2 } endlessCalls) = true := by decide +kernel
  obtain ⟨fault, failed, -⟩ := exists_of_failsWith fails
  refine ⟨_, failed, ?_⟩
  rcases confined_of_expand_eq_error failed with confined | ⟨_, _, _, _, oversized⟩ | ⟨_, oversized⟩
  · exact confined
  · cases oversized
  · cases oversized

end Expansion

/-! ## A row of digits that is too long -/

namespace Lexer

theorem foldlM_ones (n : Nat) (chars : Text) (line : Int) (tokens : List Token) :
    (List.replicate n '1').foldlM step ⟨.word chars, line, tokens⟩ =
      .ok ⟨.word (List.replicate n '1' ++ chars), line, tokens⟩ := by
  induction n generalizing chars with
  | zero => rfl
  | succ n ih =>
    have first : step ⟨.word chars, line, tokens⟩ '1' = .ok ⟨.word ('1' :: chars), line, tokens⟩ := rfl
    rw [List.replicate_succ, List.foldlM_cons, first]
    refine (ih ('1' :: chars)).trans ?_
    rw [← List.replicate_succ, List.replicate_succ', List.append_assoc, List.singleton_append]

end Lexer

theorem Lexeme.ofWord_ones {n : Nat} (many : Value.maxDigits < n) :
    ofWord (List.replicate n '1') = .error (.oversizedInteger (some n)) := by
  obtain ⟨m, rfl⟩ : ∃ m, n = m + 1 := ⟨n - 1, by omega⟩
  have isNumber : IsNumber (List.replicate (m + 1) '1') := by
    intro c member
    rw [List.eq_of_mem_replicate member]
    decide
  obtain ⟨value, read⟩ := isNumber.exists_digits?
  have integer : integer? (List.replicate (m + 1) '1') = some (Int.ofNat value) := by
    change (digits? (List.replicate (m + 1) '1')).map Int.ofNat = _
    rw [read]
    rfl
  simp only [ofWord, integer, isNumber.filter_ne_minus, List.length_replicate, gt_iff_lt, if_pos many]


theorem Marker.opening?_of_start {content name after : Text}
    (starts : (openToken.isPrefixOf? content).bind name? = some (name, after)) :
    opening? content = some ([], name, after) := by
  cases content with
  | nil => cases starts
  | cons c rest => rw [opening?, starts]

theorem Marker.opening?_of_kind {c : Char} {word : Text} (letter : c.isAlpha = true)
    (named : ∀ d ∈ word, isNameChar d = true) (after : Text) :
    opening? (openToken ++ (c :: word ++ ' ' :: after)) = some ([], c :: word, ' ' :: after) := by
  have stop : ¬ isNameChar ' ' = true := by decide +kernel
  have isName : name? (c :: word ++ ' ' :: after) = some (c :: word, ' ' :: after) := by
    rw [List.cons_append, name?, if_pos letter, List.takeWhile_append_of_pos named,
      List.dropWhile_append_of_pos named, List.takeWhile_cons_of_neg stop, List.dropWhile_cons_of_neg stop,
      List.append_nil]
  have start : openToken.isPrefixOf? (openToken ++ (c :: word ++ ' ' :: after)) = some (c :: word ++ ' ' :: after) :=
    List.isPrefixOf?_eq_some_iff_append_eq.mpr rfl
  apply opening?_of_start
  rw [start, Option.bind_some, isName]

namespace Expansion

/-- A list with an integer of `n` digits. -/
def ones (n : Nat) : Text := '(' :: (List.replicate n '1' ++ [')'])

/-- A document with such a list for the header of a message. -/
def overlong (n : Nat) : Text := openToken ++ ("message".toList ++ ' ' :: ones n)

theorem scan_ones {n : Nat} (many : Value.maxDigits < n) (line : Int) :
    Token.scan (ones n) line = .error (.oversizedInteger (some n)) := by
  obtain ⟨m, rfl⟩ : ∃ m, n = m + 1 := ⟨n - 1, by omega⟩
  have word := Lexer.foldlM_ones m ['1'] line [⟨.opening, line⟩]
  have reversed : (List.replicate m '1' ++ ['1']).reverse = List.replicate (m + 1) '1' := by
    rw [← List.replicate_succ', List.reverse_replicate]
  rw [Token.scan, ones, ← List.cons_append, List.foldlM_append]
  change (((List.replicate m '1').foldlM Lexer.step ⟨.word ['1'], line, [⟨.opening, line⟩]⟩ >>= _) >>= _) = _
  rw [word]
  change ((Lexer.step ⟨.word (List.replicate m '1' ++ ['1']), line, _⟩ ')' >>= _) >>= _) = _
  simp only [Lexer.step]
  rw [reversed, Lexeme.ofWord_ones many]
  rfl

theorem dropCloser_trim_ones (n : Nat) : dropCloser (Text.trim (' ' :: ones n)) = ones n := by
  have reversed : (ones n).reverse = ')' :: (List.replicate n '1' ++ ['(']) := by simp [ones]
  have start : trimStart (' ' :: ones n) = ones n := by
    rw [trimStart, List.dropWhile_cons_of_pos (by decide)]
    exact List.dropWhile_cons_of_neg (by decide)
  have stop : trimEnd (ones n) = ones n := by
    rw [trimEnd, dropEndWhile, reversed, List.dropWhile_cons_of_neg (by decide), ← reversed, List.reverse_reverse]
  have noCloser : commentClosers.findSome? (fun closer => closer.isSuffixOf? (ones n)) = none := by
    rw [List.findSome?_eq_none_iff]
    intro closer member
    by_contra found
    obtain ⟨rest, found⟩ := Option.ne_none_iff_exists'.mp found
    rw [List.isSuffixOf?_eq_some_iff_append_eq] at found
    have same := congrArg List.reverse found
    rw [reversed, List.reverse_append] at same
    simp only [commentClosers, List.mem_cons, List.not_mem_nil, or_false] at member
    rcases member with rfl | rfl | rfl
    · cases same
    · cases same
    · cases n <;> cases same
  rw [Text.trim, start, stop, dropCloser, noCloser]

theorem expand_overlong {n : Nat} (many : Value.maxDigits < n) (file : Option Text) (limits : Limits) :
    expand file limits (overlong n) = .error (.oversizedInteger (some n)) := by
  have unbroken : ∀ c ∈ overlong n, isLineBreak c = false := by
    have plain (text : Text) (all : (text.all fun c => !isLineBreak c) = true) :
        ∀ c ∈ text, isLineBreak c = false := by simpa using all
    refine plain _ ?_
    simp only [overlong, ones, List.all_append, List.all_cons, List.all_replicate, List.all_nil]
    split <;> decide
  have lines : (overlong n).lines = [⟨overlong n, []⟩] := lines_unbroken unbroken (by simp [overlong, openToken])
  have marked : Line.marker ⟨overlong n, []⟩ = .opens [] "message".toList (' ' :: ones n) := by
    have named : ∀ d ∈ "essage".toList, Marker.isNameChar d = true := List.all_eq_true.mp (by decide +kernel)
    have opening : Marker.opening? (overlong n) = some ([], "message".toList, ' ' :: ones n) :=
      Marker.opening?_of_kind (by decide) named (ones n)
    simp only [Line.marker, Line.content, Line.endsPlainly, List.all_nil, if_true, Marker.ofLine, opening]
  have read : Header.read .message (ones n) (1 : Nat) = .error (.oversizedInteger (some n)) := by
    rw [Header.read, Datum.read, scan_ones many]
    rfl
  have scanned : scan (overlong n) = .error (.oversizedInteger (some n)) := by
    rw [scan, lines, ofLines_cons, marked]
    dsimp only
    rw [opened, show Kind.ofName? "message".toList = some .message by decide, dropCloser_trim_ones]
    change (Header.read .message (ones n) (1 : Nat) >>= _) >>= _ = _
    rw [read]
    rfl
  rw [expand, scanned]
  rfl

/-- Not every failure stays with its document. -/
theorem not_expand_confined : ¬ ∀ (file : Option Text) (limits : Limits) (text : Text) (failure : Failure),
    expand file limits text = .error failure → failure.Confined := by
  intro confined
  have failed := expand_overlong (show Value.maxDigits < 4301 by decide) none {}
  obtain ⟨fault, isFault, _⟩ := (confined none {} _ _ failed).family
  cases isFault

end Expansion

end Regen
