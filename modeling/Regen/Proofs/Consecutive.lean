import Regen.Proofs.Failures
import Regen.Proofs.RoundTrip

/-! # Texts on consecutive lines

A text that can be read leaves nothing open at its end: a word, a comment and the last line end with a line feed, and no
string and no list goes on. So what stands on the lines after it is read as if it stood alone, on lines that are counted
on from those of the first text, and what is wrong with it is the same.
-/

namespace Regen

/-- A reader reads a text and the lines after it one after the other: the first text's results come first, and the rest
is read, or refused, as a text that starts on the line where it stands. -/
def ReadsOn {α : Type} (reader : Text → Int → Except Failure (List α)) : Prop :=
  ∀ (first second : Text) (line : Int) (results : List α), reader first line = .ok results →
    reader (first ++ '\n' :: second) line = (reader second (line + 1 + first.count '\n')).map (results ++ ·)

/-- Results are made of one sequence and then of the sequence after it. -/
def GoesOn {α β : Type} (make : List α → Except Failure (List β)) : Prop :=
  ∀ (first second : List α) (results : List β), make first = .ok results →
    make (first ++ second) = (make second).map (results ++ ·)

/-- What goes on after each part can be made of what is read. -/
theorem ReadsOn.andThen {α β : Type} {reader : Text → Int → Except Failure (List α)}
    {make : List α → Except Failure (List β)} (readsOn : ReadsOn reader) (goesOn : GoesOn make) :
    ReadsOn fun text line => reader text line >>= make := by
  intro first second line results success
  obtain ⟨earlier, read, made⟩ := bind_eq_ok success
  dsimp only
  rw [readsOn first second line earlier read]
  cases reader second (line + 1 + first.count '\n') with
  | error failure => rfl
  | ok later => exact goesOn earlier later results made

/-- If every step of a pass, and its end, leave what is there already in front, then so does the whole pass. -/
theorem foldlM_behind {σ α β : Type} {step : σ → α → Except Failure σ} {finish : σ → Except Failure (List β)}
    {behind : σ → σ} {earlier : List β} (steps : ∀ state a, step (behind state) a = relabel id behind (step state a))
    (ends : ∀ state, finish (behind state) = relabel id (earlier ++ ·) (finish state)) (items : List α) (state : σ) :
    items.foldlM step (behind state) >>= finish = (items.foldlM step state >>= finish).map (earlier ++ ·) := by
  have pass : (items.map id).foldlM step (behind state) = _ := foldlM_relabel steps items state
  rw [List.map_id] at pass
  rw [pass, relabel_bind behind _ ends]
  cases items.foldlM step state >>= finish <;> rfl

/-! ## Tokens -/

namespace Lexer

variable {lexer next : Lexer} {tokens : List Token}

/-- A point in the pass over the characters with other tokens before its own. -/
def behind (earlier : List Token) (lexer : Lexer) : Lexer := { lexer with tokens := lexer.tokens ++ earlier.reverse }

theorem begin_behind (earlier : List Token) (lexer : Lexer) (c : Char) :
    (lexer.behind earlier).begin c = (lexer.begin c).behind earlier := by
  unfold begin
  split_ifs <;> rfl

/-- Reading a character leaves the tokens before as they are. -/
theorem step_behind (earlier : List Token) (lexer : Lexer) (c : Char) :
    (lexer.behind earlier).step c = relabel id (behind earlier) (lexer.step c) := by
  obtain ⟨mode, line, tokens⟩ := lexer
  cases mode with
  | between => exact congrArg Except.ok (begin_behind earlier _ c)
  | comment =>
    simp only [step, behind]
    split
    · exact congrArg Except.ok (begin_behind earlier ⟨.comment, line, tokens⟩ c)
    · rfl
  | word chars =>
    simp only [step, behind]
    split
    · cases Lexeme.ofWord chars.reverse with
      | error failure => rfl
      | ok lexeme => exact congrArg Except.ok (begin_behind earlier (emit ⟨.word chars, line, tokens⟩ lexeme line) c)
    · rfl
  | string start chars =>
    simp only [step, behind]
    split_ifs <;> rfl
  | escape start chars => rfl

theorem finish_behind (earlier : List Token) (lexer : Lexer) :
    (lexer.behind earlier).finish = relabel id (earlier ++ ·) lexer.finish := by
  obtain ⟨mode, line, tokens⟩ := lexer
  cases mode with
  | between | comment => simp only [finish, behind, relabel, List.reverse_append, List.reverse_reverse]
  | word chars =>
    simp only [finish, behind]
    cases Lexeme.ofWord chars.reverse with
    | error failure => rfl
    | ok lexeme =>
      change Except.ok (⟨lexeme, line⟩ :: tokens ++ earlier.reverse).reverse = Except.ok (earlier ++ _)
      rw [List.reverse_append, List.reverse_reverse]
      rfl
  | string start chars | escape start chars => rfl

/-- The tokens before come first, and what is read after them is read as without them. -/
theorem readOn_behind (earlier : List Token) (lexer : Lexer) (rest : Text) :
    (lexer.behind earlier).readOn rest = (lexer.readOn rest).map (earlier ++ ·) :=
  foldlM_behind (step_behind earlier) (finish_behind earlier) rest lexer

theorem lineAfter_of_ne {c : Char} (notFeed : c ≠ '\n') (line : Int) : lineAfter line c = line :=
  if_neg (by simpa using notFeed)

theorem line_begin (lexer : Lexer) (c : Char) : (lexer.begin c).line = lineAfter lexer.line c := by
  unfold begin
  split_ifs with isBlank
  · rfl
  all_goals
    have notFeed : c ≠ '\n' := by
      rintro rfl
      exact isBlank (by decide)
    exact (lineAfter_of_ne notFeed lexer.line).symm

/-- Every line feed counts once, whatever it stands in. -/
theorem line_of_step {c : Char} (stepped : lexer.step c = .ok next) : next.line = lineAfter lexer.line c := by
  obtain ⟨mode, line, tokens⟩ := lexer
  cases mode with
  | between =>
    cases stepped
    exact line_begin _ c
  | comment =>
    simp only [step] at stepped
    split at stepped
    · cases stepped
      exact line_begin _ c
    · next notFeed =>
      cases stepped
      exact (lineAfter_of_ne (by simpa using notFeed) line).symm
  | word chars =>
    simp only [step] at stepped
    split at stepped
    · obtain ⟨lexeme, _, stepped⟩ := bind_eq_ok stepped
      cases stepped
      exact line_begin _ c
    · next goesOn =>
      cases stepped
      have notFeed : c ≠ '\n' := by
        rintro rfl
        exact goesOn (by decide)
      exact (lineAfter_of_ne notFeed line).symm
  | string start chars =>
    simp only [step] at stepped
    split_ifs at stepped with closes escapes
    · cases stepped
      obtain rfl : c = '"' := by simpa using closes
      rfl
    · cases stepped
      obtain rfl : c = '\\' := by simpa using escapes
      rfl
    · cases stepped
      rfl
  | escape start chars =>
    cases stepped
    rfl

theorem line_of_foldlM {text : Text} (reached : text.foldlM step lexer = .ok next) :
    next.line = lexer.line + text.count '\n' := by
  induction text generalizing lexer with
  | nil =>
    cases reached
    simp
  | cons c rest ih =>
    rw [List.foldlM_cons] at reached
    obtain ⟨middle, stepped, reached⟩ := bind_eq_ok reached
    rw [ih reached, line_of_step stepped, List.count_cons, lineAfter]
    split
    · push_cast
      omega
    · push_cast
      omega

/-- Where a text can end, a line feed or a semicolon ends what is open. -/
theorem step_of_finish (finished : lexer.finish = .ok tokens) {c : Char} (ends : c = '\n' ∨ c = ';') :
    lexer.step c = .ok ((begin ⟨.between, lexer.line, []⟩ c).behind tokens) := by
  rw [← begin_behind]
  obtain ⟨mode, line, earlier⟩ := lexer
  cases mode with
  | between =>
    cases finished
    simp only [behind, List.reverse_reverse, List.nil_append]
    rfl
  | comment =>
    cases finished
    simp only [behind, List.reverse_reverse, List.nil_append]
    rcases ends with rfl | rfl
    · rfl
    · rfl
  | word chars =>
    obtain ⟨lexeme, means, finished⟩ := bind_eq_ok finished
    cases finished
    have delimits : isDelimiter c = true := by rcases ends with rfl | rfl <;> decide
    simp only [step, delimits, if_true, means, behind, List.reverse_reverse, List.nil_append]
    rfl
  | string start chars | escape start chars => cases finished

end Lexer

theorem Token.readsOn_scan : ReadsOn Token.scan := by
  intro first second line tokens scanned
  obtain ⟨lexer, reached, finished⟩ := bind_eq_ok scanned
  have counted : lexer.line = line + first.count '\n' := Lexer.line_of_foldlM reached
  have line_eq : lexer.line + 1 = line + 1 + first.count '\n' := by omega
  have begins : Lexer.begin ⟨.between, lexer.line, []⟩ '\n' = ⟨.between, line + 1 + first.count '\n', []⟩ := by
    rw [← line_eq]
    rfl
  change Lexer.readOn ⟨.between, line, []⟩ (first ++ '\n' :: second) = _
  rw [Lexer.readOn_append reached, Lexer.readOn_of_step (Lexer.step_of_finish finished (.inl rfl)), Lexer.readOn_behind,
    begins]
  rfl

/-! ## Data and forms -/

namespace Nesting

/-- A point in the pass over the tokens with other data before its own. -/
def behind (earlier : List Datum) (nesting : Nesting) : Nesting :=
  { nesting with data := nesting.data ++ earlier.reverse }

theorem add_behind (earlier : List Datum) (nesting : Nesting) (datum : Datum) :
    (nesting.behind earlier).add datum = (nesting.add datum).behind earlier := by
  obtain ⟨data, pending⟩ := nesting
  cases pending <;> rfl

theorem step_behind (earlier : List Datum) (nesting : Nesting) (token : Token) :
    (nesting.behind earlier).step token = relabel id (behind earlier) (nesting.step token) := by
  obtain ⟨lexeme, line⟩ := token
  cases lexeme with
  | opening => rfl
  | closing =>
    obtain ⟨data, pending⟩ := nesting
    cases pending with
    | nil => rfl
    | cons inner outer => exact congrArg Except.ok (add_behind earlier ⟨data, outer⟩ _)
  | string | integer | symbol => exact congrArg Except.ok (add_behind earlier nesting _)

theorem finish_behind (earlier : List Datum) (nesting : Nesting) :
    (nesting.behind earlier).finish = relabel id (earlier ++ ·) nesting.finish := by
  obtain ⟨data, pending⟩ := nesting
  cases pending with
  | nil => simp only [finish, behind, relabel, List.reverse_append, List.reverse_reverse]
  | cons inner outer => rfl

/-- Where tokens can end, no list is open. -/
theorem eq_behind_of_finish {nesting : Nesting} {data : List Datum} (finished : nesting.finish = .ok data) :
    nesting = behind data ⟨[], []⟩ := by
  obtain ⟨earlier, pending⟩ := nesting
  cases pending with
  | nil =>
    cases finished
    simp only [behind, List.reverse_reverse, List.nil_append]
  | cons inner outer => cases finished

end Nesting

theorem Datum.goesOn_ofTokens : GoesOn Datum.ofTokens := by
  intro first second data nested
  obtain ⟨nesting, reached, finished⟩ := bind_eq_ok nested
  rw [ofTokens, List.foldlM_append, reached, Nesting.eq_behind_of_finish finished]
  exact foldlM_behind (Nesting.step_behind data) (Nesting.finish_behind data) second _

theorem Node.goesOn_ofData : GoesOn Node.ofData := by
  intro first second nodes made
  rw [ofData_eq_mapM] at made
  rw [ofData_eq_mapM, ofData_eq_mapM, List.mapM_append, made]
  cases second.mapM ofDatum <;> rfl

/-- Tokens, data and forms are read line after line. -/
theorem consecutive_lines : ReadsOn Token.scan ∧ ReadsOn Datum.read ∧ ReadsOn Node.readBody := by
  have data : ReadsOn Datum.read := Token.readsOn_scan.andThen Datum.goesOn_ofTokens
  exact ⟨Token.readsOn_scan, data, data.andThen Node.goesOn_ofData⟩

/-- A form with a string over three lines, of which one ends after a backslash, and a comment that does not end. -/
def openEnded : Text := "(insert \"a\\\n\n\" x); (".toList

theorem consecutive_lines_openEnded :
    ∃ nodes later, Node.readBody openEnded 7 = .ok nodes ∧ later.map Node.line = [some 11] ∧
      Node.readBody (openEnded ++ '\n' :: "\n(newline-and-indent)".toList) 7 = .ok (nodes ++ later) ∧
      Node.readBody (openEnded ++ '\n' :: "word\n)".toList) 7 = .error (.fault ⟨.unexpectedClose, some 11, none⟩) := by
  have reads : succeedsWith (fun _ => true) (Node.readBody openEnded 7) = true ∧
      succeedsWith (fun nodes => nodes.map Node.line == [some 11])
        (Node.readBody "\n(newline-and-indent)".toList 10) = true ∧
      failsWith (· == ⟨.unexpectedClose, some 11, none⟩) (Node.readBody "word\n)".toList 10) = true ∧
      (7 : Int) + 1 + openEnded.count '\n' = 10 := by decide +kernel
  obtain ⟨readsFirst, readsLater, failsLater, feeds⟩ := reads
  obtain ⟨nodes, read, _⟩ := exists_of_succeedsWith readsFirst
  obtain ⟨later, readLater, lines⟩ := exists_of_succeedsWith readsLater
  obtain ⟨fault, failed, same⟩ := exists_of_failsWith failsLater
  have readsOn (second : Text) := consecutive_lines.2.2 openEnded second 7 nodes read
  rw [feeds] at readsOn
  refine ⟨nodes, later, read, eq_of_beq lines, ?_, ?_⟩
  · rw [readsOn, readLater]
    rfl
  · rw [readsOn, failed, eq_of_beq same]
    rfl

end Regen
