import Regen.Proofs.Consecutive
import Regen.Proofs.Pairing

/-! # Headers inside of comments

Blanks around a header do not matter, and neither does the closer of the comment that the header stands in: the
directive gets the header that is read without them. A closer is known by its spelling alone, so a header that ends in
one itself has to be followed by another one to be kept as it is.
-/

namespace Regen

/-! ## Blanks around a text -/

namespace Text

/-- A text is what trimming leaves, with blanks after it. -/
theorem exists_trimEnd_append (text : Text) :
    ∃ blanks, text = text.trimEnd ++ blanks ∧ ∀ c ∈ blanks, isBlank c = true := by
  refine ⟨(text.reverse.takeWhile isBlank).reverse, ?_, ?_⟩
  · rw [trimEnd, dropEndWhile, ← List.reverse_append, List.takeWhile_append_dropWhile, List.reverse_reverse]
  · intro c member
    exact List.mem_takeWhile_imp (List.mem_reverse.mp member)

/-- Trimming stops at a character that is no blank. -/
theorem trimStart_append_cons {c : Char} (notBlank : isBlank c = false) (text rest : Text) :
    (text ++ c :: rest).trimStart = text.trimStart ++ c :: rest := by
  have stops : (c :: rest).dropWhile isBlank = c :: rest := List.dropWhile_cons_of_neg (by simp [notBlank])
  rw [trimStart, trimStart, List.dropWhile_append, stops]
  split
  · next empty => rw [List.isEmpty_iff.mp empty, List.nil_append]
  · rfl

theorem trimEnd_append_cons {c : Char} (notBlank : isBlank c = false) (text rest : Text) :
    (text ++ c :: rest).trimEnd = text ++ c :: rest.trimEnd := by
  have mirrored : (text ++ c :: rest).reverse = rest.reverse ++ c :: text.reverse := by simp
  have trimmed := trimStart_append_cons notBlank rest.reverse text.reverse
  rw [← mirrored] at trimmed
  change (trimStart (text ++ c :: rest).reverse).reverse = text ++ c :: (trimStart rest.reverse).reverse
  rw [trimmed, List.reverse_append, List.reverse_cons, List.reverse_reverse, List.append_assoc, List.singleton_append]

end Text

/-- A text can end before a blank just as after it. -/
theorem Lexer.finish_after_blank {c : Char} (isBlank : Text.isBlank c = true) (lexer : Lexer) :
    lexer.step c >>= finish = lexer.finish := by
  obtain ⟨mode, line, tokens⟩ := lexer
  cases mode with
  | between =>
    change finish (begin _ c) = _
    rw [begin_blank isBlank]
    rfl
  | comment =>
    simp only [step]
    split
    · change finish (begin _ c) = _
      rw [begin_blank isBlank]
      rfl
    · rfl
  | word chars =>
    have delimits : isDelimiter c = true := by simp only [isDelimiter, isBlank, Bool.true_or]
    simp only [step, finish, delimits, if_true]
    cases Lexeme.ofWord chars.reverse with
    | error failure => rfl
    | ok lexeme =>
      change finish (begin _ c) = _
      rw [begin_blank isBlank]
      rfl
  | string start chars =>
    have notQuote : (c == '"') = false := by
      rw [beq_eq_false_iff_ne]
      rintro rfl
      exact absurd isBlank (by decide)
    simp only [step, notQuote, Bool.false_eq_true, if_false]
    split <;> rfl
  | escape start chars => rfl

theorem Lexer.readOn_blanks {blanks : Text} (areBlank : ∀ c ∈ blanks, Text.isBlank c = true) (lexer : Lexer) :
    lexer.readOn blanks = lexer.finish := by
  induction blanks generalizing lexer with
  | nil => rfl
  | cons c blanks ih =>
    rw [List.forall_mem_cons] at areBlank
    rw [readOn_cons]
    simp only [ih areBlank.2]
    exact finish_after_blank areBlank.1 lexer

namespace Token

/-- A comment after a text adds no tokens. -/
theorem scan_append_comment {text body : Text} {line : Int} {tokens : List Token}
    (scanned : Token.scan text line = .ok tokens) (inLine : '\n' ∉ body) :
    Token.scan (text ++ ';' :: body) line = .ok tokens := by
  obtain ⟨lexer, reached, finished⟩ := bind_eq_ok scanned
  have comment : Lexer.readOn ⟨.comment, lexer.line, []⟩ (body ++ []) = .ok [] :=
    Lexer.readOn_append (Lexer.foldlM_comment inLine) []
  have begins : Lexer.begin ⟨.between, lexer.line, []⟩ ';' = ⟨.comment, lexer.line, []⟩ := rfl
  rw [List.append_nil] at comment
  change Lexer.readOn ⟨.between, line, []⟩ (text ++ ';' :: body) = _
  rw [Lexer.readOn_append reached, Lexer.readOn_of_step (Lexer.step_of_finish finished (.inr rfl)), Lexer.readOn_behind,
    begins, comment]
  exact congrArg Except.ok (List.append_nil tokens)

theorem scan_append_blanks {blanks : Text} (areBlank : ∀ c ∈ blanks, Text.isBlank c = true) (text : Text) (line : Int) :
    Token.scan (text ++ blanks) line = Token.scan text line := by
  rw [Token.scan, List.foldlM_append, bind_assoc]
  exact bind_congr (Lexer.readOn_blanks areBlank)

theorem scan_blanks_append {blanks : Text} (areBlank : ∀ c ∈ blanks, Text.isBlank c = true) (inLine : '\n' ∉ blanks)
    (text : Text) (line : Int) : Token.scan (blanks ++ text) line = Token.scan text line := by
  induction blanks with
  | nil => rfl
  | cons c blanks ih =>
    rw [List.forall_mem_cons] at areBlank
    rw [List.mem_cons, not_or] at inLine
    have begins : Lexer.step ⟨.between, line, []⟩ c = .ok ⟨.between, line, []⟩ := by
      simp only [Lexer.step, Lexer.begin_blank areBlank.1, Lexer.lineAfter_of_ne (Ne.symm inLine.1)]
    exact (Lexer.readOn_of_step begins (blanks ++ text)).trans (ih areBlank.2 inLine.2)

theorem scan_trimStart {text : Text} (inLine : '\n' ∉ text) (line : Int) :
    Token.scan text.trimStart line = Token.scan text line := by
  have split := List.takeWhile_append_dropWhile (p := Text.isBlank) (l := text)
  have beforeInLine : '\n' ∉ text.takeWhile Text.isBlank :=
    fun member => inLine ((List.takeWhile_prefix _).subset member)
  have same := scan_blanks_append (fun c => List.mem_takeWhile_imp) beforeInLine text.trimStart line
  rw [Text.trimStart, split] at same
  exact same.symm

/-- Blanks around a text on a single line make no difference to its tokens. -/
theorem scan_trim {text : Text} (inLine : '\n' ∉ text) (line : Int) :
    Token.scan text.trim line = Token.scan text line := by
  obtain ⟨blanks, split, areBlank⟩ := text.trimStart.exists_trimEnd_append
  calc Token.scan text.trim line
    _ = Token.scan (text.trim ++ blanks) line := (scan_append_blanks areBlank _ line).symm
    _ = Token.scan text.trimStart line := by rw [Text.trim, ← split]
    _ = Token.scan text line := scan_trimStart inLine line

end Token

/-! ## Closers of comments -/

theorem Kind.name_spelled (kind : Kind) :
    ∃ c rest, kind.name = c :: rest ∧ c.isAlpha = true ∧ ∀ d ∈ rest, Marker.isNameChar d = true := by
  cases kind <;> exact ⟨_, _, rfl, by decide, List.all_eq_true.mp (by decide +kernel)⟩

/-- The first match of the open pattern on a line is its marker, up to blanks after it. -/
theorem Line.marker_of_opensAt {line : Line} {before name whole : Text}
    (opens : Marker.OpensAt line.text before name whole) :
    ∃ after, line.marker = .opens before name after ∧ after.trim = whole.trim := by
  obtain ⟨found, named, after, marked⟩ := Line.isOpen_iff.mp opens.isMatch
  obtain ⟨rest, opensFound, sameTrim⟩ := Line.opensAt_of_marker marked
  obtain ⟨rfl, rfl, rfl⟩ := opens.unique opensFound
  exact ⟨after, marked, sameTrim.symm⟩

namespace Directive

open Text

/-- The characters that end a line. -/
def IsLineEnd (ending : Text) : Prop := ending = ['\r', '\n'] ∨ ∃ c, isLineBreak c = true ∧ ending = [c]

/-- What may follow a header on its line and is no part of it. -/
inductive Trails (header : Text) : (trailer : Text) → Prop
  /-- The closer of a comment, after blanks if there are any. -/
  | closer {blanks closer : Text} (areBlank : ∀ c ∈ blanks, isBlank c = true ∧ isLineBreak c = false)
      (closes : closer ∈ commentClosers) : Trails header (blanks ++ closer)
  /-- Nothing, if the header does not end like a closer itself. -/
  | nothing (notClosed : ∀ closer ∈ commentClosers, ¬ closer <:+ header.trim) : Trails header []
  /-- Nothing, if the header ends in a comment of its own, whatever this ends like. -/
  | comment {before body : Text} {tokens : List Token} (split : header = before ++ ';' :: body)
      (scanned : Token.scan before 1 = .ok tokens) : Trails header []

/-- A directive without a body: the line of its open marker, with a header and what trails it, and the line of its close
marker. -/
def twoLines (kind : Kind) (header trailer ending last : Text) : Text :=
  openToken ++ kind.name ++ [' '] ++ header ++ trailer ++ ending ++ closeToken ++ last

/-- A closer starts and ends with characters that are no blanks. -/
theorem exists_closer_eq {closer : Text} (closes : closer ∈ commentClosers) :
    (∃ c rest, closer = c :: rest ∧ isBlank c = false) ∧ ∃ rest c, closer = rest ++ [c] ∧ isBlank c = false := by
  simp only [commentClosers, List.mem_cons, List.not_mem_nil, or_false] at closes
  rcases closes with rfl | rfl | rfl
  · exact ⟨⟨'*', ['/'], rfl, by decide⟩, ['*'], '/', rfl, by decide⟩
  · exact ⟨⟨'-', ['-', '>'], rfl, by decide⟩, ['-', '-'], '>', rfl, by decide⟩
  · exact ⟨⟨'*', [')'], rfl, by decide⟩, ['*'], ')', rfl, by decide⟩

/-- No text ends in two closers. -/
theorem closer_eq_of_append_eq {closer other text rest : Text} (closes : closer ∈ commentClosers)
    (alsoCloses : other ∈ commentClosers) (same : rest ++ other = text ++ closer) : other = closer := by
  have lasts : other.getLast? = closer.getLast? := by
    have ends := congrArg List.getLast? same
    obtain ⟨-, front, c, rfl, -⟩ := exists_closer_eq closes
    obtain ⟨-, otherFront, d, rfl, -⟩ := exists_closer_eq alsoCloses
    simpa using ends
  have distinct : commentClosers.all (fun closer => commentClosers.all fun other =>
      other.getLast? != closer.getLast? || other == closer) = true := by decide
  have apart := List.all_eq_true.mp (List.all_eq_true.mp distinct closer closes) other alsoCloses
  simpa [lasts] using apart

theorem dropCloser_append {closer : Text} (closes : closer ∈ commentClosers) (text : Text) :
    dropCloser (text ++ closer) = text.trimEnd := by
  have isSuffix : closer.isSuffixOf? (text ++ closer) = some text := List.isSuffixOf?_eq_some_iff_append_eq.mpr rfl
  unfold dropCloser
  split
  · next rest found =>
    obtain ⟨other, alsoCloses, isSuffix⟩ := List.exists_of_findSome?_eq_some found
    rw [List.isSuffixOf?_eq_some_iff_append_eq] at isSuffix
    obtain rfl := closer_eq_of_append_eq closes alsoCloses isSuffix
    rw [List.append_cancel_right isSuffix]
  · next missing =>
    rw [List.findSome?_eq_none_iff.mp missing closer closes] at isSuffix
    cases isSuffix

theorem dropCloser_of_not_suffix {header : Text} (notClosed : ∀ closer ∈ commentClosers, ¬ closer <:+ header) :
    dropCloser header = header := by
  unfold dropCloser
  split
  · next rest found =>
    obtain ⟨closer, closes, isSuffix⟩ := List.exists_of_findSome?_eq_some found
    rw [List.isSuffixOf?_eq_some_iff_append_eq] at isSuffix
    exact absurd ⟨rest, isSuffix⟩ (notClosed closer closes)
  · rfl

/-- The closer after a header is dropped, and the blanks around the header. -/
theorem dropCloser_trim_append {blanks closer : Text} (areBlank : ∀ c ∈ blanks, isBlank c = true)
    (closes : closer ∈ commentClosers) (header : Text) :
    dropCloser (header ++ (blanks ++ closer)).trim = header.trim := by
  have starts : (header ++ blanks ++ closer).trimStart = (header ++ blanks).trimStart ++ closer := by
    obtain ⟨⟨c, rest, rfl, notBlank⟩, -⟩ := exists_closer_eq closes
    exact trimStart_append_cons notBlank ..
  have ends : ((header ++ blanks).trimStart ++ closer).trimEnd = (header ++ blanks).trimStart ++ closer := by
    obtain ⟨-, rest, c, rfl, notBlank⟩ := exists_closer_eq closes
    rw [← List.append_assoc]
    exact trimEnd_append_cons notBlank _ []
  calc dropCloser (header ++ (blanks ++ closer)).trim
    _ = dropCloser ((header ++ blanks).trimStart ++ closer) := by rw [← List.append_assoc, trim, starts, ends]
    _ = (header ++ blanks).trim := dropCloser_append closes _
    _ = header.trim := trim_append_blank areBlank

/-- A closer is never longer than the comment of a header in which it stands. -/
theorem exists_dropCloser_comment (text body : Text) :
    ∃ rest, dropCloser (text ++ ';' :: body) = text ++ ';' :: rest ∧ rest <+: body := by
  unfold dropCloser
  split
  · next front found =>
    obtain ⟨closer, closes, isSuffix⟩ := List.exists_of_findSome?_eq_some found
    rw [List.isSuffixOf?_eq_some_iff_append_eq] at isSuffix
    have closers : commentClosers.all (fun closer => !closer.contains ';') = true := by decide
    have outside : ';' ∉ closer := by simpa using List.all_eq_true.mp closers closer closes
    rcases List.append_eq_append_iff.mp isSuffix with ⟨more, -, rfl⟩ | ⟨more, rfl, split⟩
    · simp at outside
    · cases more with
      | nil =>
        rw [List.nil_append] at split
        simp [← split] at outside
      | cons c more =>
        obtain ⟨rfl, rfl⟩ := List.cons.inj split
        refine ⟨trimEnd more, trimEnd_append_cons (by decide) text more, ?_⟩
        exact (trimEnd_isPrefix more).trans (List.prefix_append more closer)
  · exact ⟨body, rfl, List.prefix_refl body⟩

/-- What trails a header does not change its tokens. -/
theorem Trails.scan_dropCloser {header trailer : Text} (trails : Trails header trailer) (inLine : '\n' ∉ header) :
    Token.scan (dropCloser (header ++ trailer).trim) 1 = Token.scan header 1 := by
  cases trails with
  | closer areBlank closes =>
    rw [dropCloser_trim_append (fun c member => (areBlank c member).1) closes, Token.scan_trim inLine]
  | nothing notClosed => rw [List.append_nil, dropCloser_of_not_suffix notClosed, Token.scan_trim inLine]
  | @comment before body tokens split scanned =>
    subst split
    simp only [List.mem_append, List.mem_cons, not_or] at inLine
    obtain ⟨inLineBefore, -, inLineBody⟩ := inLine
    have trimmed : (before ++ ';' :: body).trim = before.trimStart ++ ';' :: body.trimEnd := by
      rw [trim, trimStart_append_cons (by decide), trimEnd_append_cons (by decide)]
    obtain ⟨rest, dropped, isPrefix⟩ := exists_dropCloser_comment before.trimStart body.trimEnd
    have inLineRest : '\n' ∉ rest := fun member =>
      inLineBody ((trimEnd_isPrefix body).subset (isPrefix.subset member))
    rw [List.append_nil, trimmed, dropped, Token.scan_append_comment scanned inLineBody]
    exact Token.scan_append_comment ((Token.scan_trimStart inLineBefore 1).trans scanned) inLineRest

theorem Trails.unbroken {header trailer : Text} (trails : Trails header trailer) :
    ∀ c ∈ trailer, isLineBreak c = false := by
  cases trails with
  | @closer blanks closer areBlank closes =>
    have closers : commentClosers.all (fun closer => closer.all fun c => !isLineBreak c) = true := by decide
    have unbroken := unbroken_of_all (List.all_eq_true.mp closers closer closes)
    exact List.forall_mem_append.mpr ⟨fun c member => (areBlank c member).2, unbroken⟩
  | nothing | comment => exact fun c member => by cases member

section TwoLines

variable {kind : Kind} {header trailer ending last : Text}

def openingLine (kind : Kind) (header trailer ending : Text) : Line :=
  ⟨openToken ++ kind.name ++ [' '] ++ header ++ trailer, ending⟩

theorem IsLineEnd.isBlank (ends : IsLineEnd ending) : ∀ c ∈ ending, isBlank c = true := by
  intro c member
  rcases ends with rfl | ⟨d, isBreak, rfl⟩
  · exact List.all_eq_true.mp (by decide : ['\r', '\n'].all Text.isBlank = true) c member
  · obtain rfl := List.mem_singleton.mp member
    by_contra notBlank
    rw [not_isLineBreak_of_not_isBlank (by simpa using notBlank)] at isBreak
    cases isBreak

theorem openingLine_proper (unbroken : ∀ c ∈ header, isLineBreak c = false) (trails : Trails header trailer)
    (ends : IsLineEnd ending) : (openingLine kind header trailer ending).Proper := by
  have unbrokenMarker : ∀ c ∈ openToken ++ kind.name ++ [' '], isLineBreak c = false :=
    unbroken_of_all (by cases kind <;> decide)
  refine ⟨?_, .inr ends, ?_⟩
  · exact List.forall_mem_append.mpr ⟨List.forall_mem_append.mpr ⟨unbrokenMarker, unbroken⟩, trails.unbroken⟩
  · simp [openingLine, Line.text]

theorem closingLine_proper (lastEnds : last = [] ∨ IsLineEnd last) : (Line.mk closeToken last).Proper := by
  have unbroken : ∀ c ∈ closeToken, isLineBreak c = false := unbroken_of_all (by decide)
  refine ⟨unbroken, lastEnds, ?_⟩
  exact List.append_ne_nil_of_left_ne_nil (by decide : closeToken ≠ []) last

theorem lines_twoLines (unbroken : ∀ c ∈ header, isLineBreak c = false) (trails : Trails header trailer)
    (ends : IsLineEnd ending) (lastEnds : last = [] ∨ IsLineEnd last) :
    (twoLines kind header trailer ending last).lines =
      [openingLine kind header trailer ending, ⟨closeToken, last⟩] := by
  have sequence : Line.Sequence [openingLine kind header trailer ending, ⟨closeToken, last⟩] := by
    refine ⟨?_, List.isChain_pair.mpr ⟨?_, ?_⟩⟩
    · exact List.forall_mem_cons.mpr ⟨openingLine_proper unbroken trails ends,
        List.forall_mem_singleton.mpr (closingLine_proper lastEnds)⟩
    · rcases ends with rfl | ⟨c, _, rfl⟩
      · simp [openingLine]
      · simp [openingLine]
    · have starts : (closeToken ++ last).head? = some 'a' := rfl
      simp [Line.text, starts]
  have split := sequence.lines_unlines
  have same : unlines [openingLine kind header trailer ending, ⟨closeToken, last⟩] =
      twoLines kind header trailer ending last := by
    simp only [unlines_cons, unlines_nil, Line.text, openingLine, twoLines, List.append_assoc, List.append_nil]
  rwa [same] at split

/-- The open marker line opens a directive with the header that is read without its trailer. -/
theorem openingLine_opens {read : Header} (unbroken : ∀ c ∈ header, isLineBreak c = false)
    (isRead : Header.read kind header 1 = .ok read) (trails : Trails header trailer) (ends : IsLineEnd ending) :
    (openingLine kind header trailer ending).Opens read (dropCloser (header ++ trailer).trim) [] := by
  have opensAt : Marker.OpensAt (openingLine kind header trailer ending).text [] kind.name
      (' ' :: (header ++ trailer) ++ ending) := by
    refine ⟨?_, kind.name_spelled, ?_, fun _ _ _ _ _ => Nat.zero_le _⟩
    · simp [openingLine, Line.text]
    · rintro c ⟨⟩
      decide +kernel
  obtain ⟨after, marked, sameTrim⟩ := Line.marker_of_opensAt opensAt
  have trimmed : after.trim = (header ++ trailer).trim := by
    have blankFirst : Text.trim (' ' :: (header ++ trailer)) = (header ++ trailer).trim := by
      rw [trim, trim, trimStart, trimStart, List.dropWhile_cons_of_pos (by decide)]
    rw [sameTrim, trim_append_blank ends.isBlank, blankFirst]
  have inLine : '\n' ∉ header := fun member => absurd (unbroken _ member) (by decide)
  have readTrimmed : Header.read kind (dropCloser after.trim) 1 = .ok read := by
    rw [← isRead, trimmed, Header.read, Header.read, Datum.read, Datum.read, trails.scan_dropCloser inLine]
  obtain rfl := Header.kind_of_read isRead
  rw [← trimmed]
  exact .intro marked (Kind.ofName?_name _) (Header.read_anywhere readTrimmed)

theorem closingLine_closes (lastEnds : last = [] ∨ IsLineEnd last) : (Line.mk closeToken last).marker = .closes := by
  rw [← Line.isClose_iff]
  refine ⟨?_, (List.prefix_append closeToken last).isInfix⟩
  rintro ⟨before, c, after, split, -⟩
  have inToken : ':' ∈ openToken := by decide
  have member : ':' ∈ closeToken ++ last := by
    change closeToken ++ last = _ at split
    simp [split, inToken]
  rcases List.mem_append.mp member with inToken | inEnd
  · exact absurd inToken (by decide)
  · rcases lastEnds with rfl | ends
    · cases inEnd
    · exact absurd (ends.isBlank _ inEnd) (by decide)

/-- A header is the same with and without the closer of a comment after it. -/
theorem scan_trailed_header {read : Header} (unbroken : ∀ c ∈ header, isLineBreak c = false)
    (isRead : Header.read kind header 1 = .ok read) (trails : Trails header trailer)
    (ends : IsLineEnd ending) (lastEnds : last = [] ∨ IsLineEnd last) :
    ∃ directive, scan (twoLines kind header trailer ending last) = .ok [directive] ∧ directive.header = read := by
  let passage : Passage :=
    { before := [], opening := openingLine kind header trailer ending, header := read, headerText := _, leader := []
      inside := [], closing := ⟨closeToken, last⟩
      before_plain := by simp
      opens := openingLine_opens unbroken isRead trails ends
      inside_plain := by simp
      closes := closingLine_closes lastEnds }
  refine ⟨passage.directive 1 0, ?_, rfl⟩
  rw [Document.scan_eq_ok_iff]
  refine ⟨⟨[passage], [], by simp⟩, ?_, rfl⟩
  rw [lines_twoLines unbroken trails ends lastEnds]
  rfl

theorem scan_trailed_header_starred :
    (∃ directive, scan (twoLines .defun "f (a *)".toList " */".toList ['\r', '\n'] []) = .ok [directive] ∧
      directive.header = .defun "f".toList ["a".toList, "*".toList]) ∧
    (∃ directive, scan (twoLines .message "\"-->\" ".toList [] ['\n'] ['\n']) = .ok [directive] ∧
      directive.header = .message "-->".toList) ∧
    ∃ directive, scan (twoLines .funcall "f 1 ;*)".toList [] ['\x0b'] ['\n']) = .ok [directive] ∧
      directive.header = .funcall "f".toList [.int 1] := by
  have reads : succeedsWith (· == .defun "f".toList ["a".toList, "*".toList])
        (Header.read .defun "f (a *)".toList 1) = true ∧
      succeedsWith (· == .message "-->".toList) (Header.read .message "\"-->\" ".toList 1) = true ∧
      succeedsWith (· == .funcall "f".toList [.int 1]) (Header.read .funcall "f 1 ;*)".toList 1) = true ∧
      succeedsWith (fun _ => true) (Token.scan "f 1 ".toList 1) = true := by decide +kernel
  have unbroken : "f (a *)".toList.all (fun c => !isLineBreak c) = true ∧
      "\"-->\" ".toList.all (fun c => !isLineBreak c) = true ∧
      "f 1 ;*)".toList.all (fun c => !isLineBreak c) = true ∧
      commentClosers.all (fun closer => !closer.isSuffixOf (Text.trim "\"-->\" ".toList)) = true := by decide +kernel
  obtain ⟨readsStarred, readsMessage, readsCall, scansCall⟩ := reads
  obtain ⟨unbrokenStarred, unbrokenMessage, unbrokenCall, notClosed⟩ := unbroken
  obtain ⟨starred, isStarred, sameStarred⟩ := exists_of_succeedsWith readsStarred
  obtain ⟨message, isMessage, sameMessage⟩ := exists_of_succeedsWith readsMessage
  obtain ⟨call, isCall, sameCall⟩ := exists_of_succeedsWith readsCall
  obtain ⟨tokens, scanned, _⟩ := exists_of_succeedsWith scansCall
  rw [← eq_of_beq sameStarred, ← eq_of_beq sameMessage, ← eq_of_beq sameCall]
  have space : ∀ c ∈ [' '], isBlank c = true ∧ isLineBreak c = false :=
    List.forall_mem_singleton.mpr ⟨by decide, by decide⟩
  have closer : Trails "f (a *)".toList ([' '] ++ "*/".toList) := .closer space (by decide)
  have nothing : Trails "\"-->\" ".toList [] := by
    refine .nothing fun closer closes isSuffix => ?_
    have missing := List.all_eq_true.mp notClosed closer closes
    rw [List.isSuffixOf_iff_suffix.mpr isSuffix] at missing
    cases missing
  have comment : Trails "f 1 ;*)".toList [] := .comment (by decide : _ = "f 1 ".toList ++ ';' :: "*)".toList) scanned
  have feed : IsLineEnd ['\n'] := .inr ⟨'\n', by decide, rfl⟩
  have tabulation : IsLineEnd ['\x0b'] := .inr ⟨'\x0b', by decide, rfl⟩
  refine ⟨?_, ?_, ?_⟩
  · exact scan_trailed_header (unbroken_of_all unbrokenStarred) isStarred closer (.inl rfl) (.inl rfl)
  · exact scan_trailed_header (unbroken_of_all unbrokenMessage) isMessage nothing feed (.inr feed)
  · exact scan_trailed_header (unbroken_of_all unbrokenCall) isCall comment tabulation (.inr feed)

/-- A header that ends like a closer is not kept if nothing follows it. -/
theorem not_scan_untrailed_header : ¬ ∀ (kind : Kind) (header trailer : Text) (read : Header),
    (∀ c ∈ header, isLineBreak c = false) → Header.read kind header 1 = .ok read →
    (trailer = [] ∨ ∃ closer ∈ commentClosers, trailer = ' ' :: closer) →
    ∃ directive, scan (twoLines kind header trailer ['\n'] []) = .ok [directive] ∧ directive.header = read := by
  intro kept
  have reads : succeedsWith (· == .funcall "f".toList [.text "-->".toList]) (Header.read .funcall "f -->".toList 1) =
        true ∧
      succeedsWith (fun directives => directives.map Directive.header == [.funcall "f".toList []])
        (scan (twoLines .funcall "f -->".toList [] ['\n'] [])) = true ∧
      "f -->".toList.all (fun c => !isLineBreak c) = true := by decide +kernel
  obtain ⟨reads, scans, unbroken⟩ := reads
  obtain ⟨read, isRead, same⟩ := exists_of_succeedsWith reads
  obtain ⟨directives, scanned, headers⟩ := exists_of_succeedsWith scans
  obtain ⟨directive, alone, sameHeader⟩ :=
    kept .funcall "f -->".toList [] read (unbroken_of_all unbroken) isRead (.inl rfl)
  cases scanned.symm.trans alone
  rw [List.map_singleton, sameHeader, eq_of_beq same] at headers
  exact absurd headers (by decide)

end TwoLines

end Directive

end Regen
