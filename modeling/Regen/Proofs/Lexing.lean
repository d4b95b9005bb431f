import Regen.Proofs.Spelling

/-! # Texts that scan

A text that falls into blanks, comments and lexemes is scanned into the tokens of these lexemes, so the texts that can
be scanned are exactly those that fall apart like this. Texts that are put together from spelled lexemes do: what a text
adds to the lexemes around it is the same wherever it stands, as long as a delimiter follows it.
-/

namespace Regen

namespace Lexer

/-- The tokens of a text whose first characters led to `lexer`. -/
def readOn (lexer : Lexer) (rest : Text) : Except Failure (List Token) := rest.foldlM step lexer >>= finish

variable {line : Int} {tokens : List Token} {rest : Text}

theorem readOn_cons (lexer : Lexer) (c : Char) (rest : Text) :
    lexer.readOn (c :: rest) = lexer.step c >>= fun next => next.readOn rest := by
  rw [readOn, List.foldlM_cons, bind_assoc]
  rfl

theorem readOn_of_step {lexer next : Lexer} {c : Char} (stepped : lexer.step c = .ok next) (rest : Text) :
    lexer.readOn (c :: rest) = next.readOn rest := by
  rw [readOn_cons, stepped]
  rfl

theorem readOn_append {lexer next : Lexer} {read : Text} (reached : read.foldlM step lexer = .ok next) (rest : Text) :
    lexer.readOn (read ++ rest) = next.readOn rest := by
  rw [readOn, List.foldlM_append, reached]
  rfl

theorem begin_blank {c : Char} (isBlank : Text.isBlank c = true) (lexer : Lexer) :
    lexer.begin c = { lexer with mode := .between, line := lineAfter lexer.line c } := by
  rw [begin, if_pos isBlank]

/-- A character that is no delimiter starts a word. -/
theorem begin_word {c : Char} (unbroken : isDelimiter c = false) (lexer : Lexer) :
    lexer.begin c = { lexer with mode := .word [c] } := by
  simp only [isDelimiter, Bool.or_eq_false_iff] at unbroken
  obtain ⟨⟨⟨⟨notBlank, notOpening⟩, notClosing⟩, notQuote⟩, notComment⟩ := unbroken
  simp only [begin, notBlank, notComment, notOpening, notClosing, notQuote, Bool.false_eq_true, if_false]

theorem foldlM_comment {body : Text} (inLine : '\n' ∉ body) :
    body.foldlM step ⟨.comment, line, tokens⟩ = .ok ⟨.comment, line, tokens⟩ := by
  induction body with
  | nil => rfl
  | cons c body ih =>
    rw [List.mem_cons, not_or] at inLine
    have stays : step ⟨.comment, line, tokens⟩ c = .ok ⟨.comment, line, tokens⟩ := by
      simp only [step, beq_iff_eq, Ne.symm inLine.1, if_false]
    rw [List.foldlM_cons, stays]
    exact ih inLine.2

/-- A comment ends where its line does. -/
theorem readOn_comment (ends : ∀ c ∈ rest.head?, c = '\n') :
    readOn ⟨.comment, line, tokens⟩ rest = readOn ⟨.between, line, tokens⟩ rest := by
  cases rest with
  | nil => rfl
  | cons c rest =>
    obtain rfl : c = '\n' := ends c rfl
    rw [readOn_cons, readOn_cons]
    rfl

theorem foldlM_word {word : Text} (unbroken : ∀ c ∈ word, isDelimiter c = false) (chars : Text) :
    word.foldlM step ⟨.word chars, line, tokens⟩ = .ok ⟨.word (word.reverse ++ chars), line, tokens⟩ := by
  induction word generalizing chars with
  | nil => rfl
  | cons c word ih =>
    rw [List.forall_mem_cons] at unbroken
    have goesOn : step ⟨.word chars, line, tokens⟩ c = .ok ⟨.word (c :: chars), line, tokens⟩ := by
      simp only [step, unbroken.1, Bool.false_eq_true, if_false]
    rw [List.foldlM_cons, goesOn, List.reverse_cons, List.append_assoc]
    exact ih unbroken.2 (c :: chars)

/-- A word ends before a delimiter or with the text. -/
theorem readOn_word {word : Text} {lexeme : Lexeme} (means : Lexeme.ofWord word = .ok lexeme)
    (ends : ∀ c ∈ rest.head?, isDelimiter c = true) :
    readOn ⟨.word word.reverse, line, tokens⟩ rest = readOn ⟨.between, line, ⟨lexeme, line⟩ :: tokens⟩ rest := by
  cases rest with
  | nil =>
    change (Lexeme.ofWord word.reverse.reverse >>= _) = _
    rw [List.reverse_reverse, means]
    rfl
  | cons c rest =>
    have ended : step ⟨.word word.reverse, line, tokens⟩ c = step ⟨.between, line, ⟨lexeme, line⟩ :: tokens⟩ c := by
      simp only [step, ends c rfl, if_true, List.reverse_reverse, means]
      rfl
    rw [readOn_cons, readOn_cons, ended]

/-- Between its quotes a string collects the characters that it denotes. -/
theorem foldlM_string {body chars : Text} (quoted : Quoted body chars) (start : Int) :
    body.foldlM step ⟨.string start [], line, tokens⟩ =
      .ok ⟨.string start chars.reverse, line + body.count '\n', tokens⟩ := by
  induction quoted with
  | nil =>
    rw [List.count_nil, Int.natCast_zero, Int.add_zero]
    rfl
  | @plain body chars c quoted notQuote notBackslash ih =>
    rw [List.foldlM_append, ih, List.reverse_append, ← lineAfter_eq]
    change step _ c >>= pure = _
    simp only [step, beq_iff_eq, notQuote, notBackslash, if_false]
    rfl
  | @escape body chars quoted c ih =>
    rw [List.foldlM_append, ih, List.reverse_append, List.reverse_reverse,
      show body ++ ['\\', c] = body ++ ['\\'] ++ [c] by simp, ← lineAfter_eq, count_concat_of_ne (by decide)]
    rfl

end Lexer

open Lexer

variable {before rest text written : Text} {spots : List Spot} {line : Int}

/-- Reading a lexeme adds its token. -/
theorem Lexeme.Spelled.readOn {lexeme : Lexeme} (spelled : lexeme.Spelled written)
    (ends : (∀ c ∈ written, isDelimiter c = false) → ∀ c ∈ rest.head?, isDelimiter c = true) (tokens : List Token) :
    Lexer.readOn ⟨.between, line, tokens⟩ (written ++ rest) =
      Lexer.readOn ⟨.between, line + written.count '\n', ⟨lexeme, line⟩ :: tokens⟩ rest := by
  cases spelled with
  | opening | closing =>
    rw [List.singleton_append, List.count_eq_zero_of_not_mem (by decide), Int.natCast_zero, Int.add_zero, readOn_cons]
    rfl
  | @string body chars quoted =>
    have opens : step ⟨.between, line, tokens⟩ '"' = .ok ⟨.string line [], line, tokens⟩ := rfl
    have closes : step ⟨.string line chars.reverse, line + body.count '\n', tokens⟩ '"' =
        .ok ⟨.between, line + body.count '\n', ⟨.string chars, line⟩ :: tokens⟩ := by
      simp only [step, beq_self_eq_true, if_true, List.reverse_reverse]
      rfl
    have feeds : ('"' :: (body ++ ['"'])).count '\n' = body.count '\n' := by simp
    rw [feeds, List.cons_append, List.append_assoc, readOn_of_step opens, readOn_append (foldlM_string quoted line),
      List.singleton_append, readOn_of_step closes]
  | word nonempty unbroken means =>
    have feeds : written.count '\n' = 0 := by
      refine List.count_eq_zero_of_not_mem fun member => ?_
      exact absurd (unbroken _ member) (by decide)
    obtain ⟨c, word, rfl⟩ := List.exists_cons_of_ne_nil nonempty
    have delimited := ends unbroken
    rw [List.forall_mem_cons] at unbroken
    have begins : step ⟨.between, line, tokens⟩ c = .ok ⟨.word [c], line, tokens⟩ :=
      congrArg Except.ok (begin_word unbroken.1 _)
    rw [feeds, List.cons_append, readOn_of_step begins, readOn_append (foldlM_word unbroken.2 [c]),
      ← List.reverse_cons, readOn_word means delimited, Int.natCast_zero, Int.add_zero]

/-- A rest that falls into lexemes is read as their tokens. -/
theorem Lexes.readOn (lexes : Lexes before rest spots) (tokens : List Token) :
    Lexer.readOn ⟨.between, line + before.count '\n', tokens⟩ rest =
      .ok (tokens.reverse ++ spots.map (Spot.token line)) := by
  induction lexes generalizing tokens with
  | done before => exact congrArg Except.ok (List.append_nil _).symm
  | @blank before rest c spots isBlank later ih =>
    have begins : step ⟨.between, line + before.count '\n', tokens⟩ c =
        .ok ⟨.between, line + (before ++ [c]).count '\n', tokens⟩ := by
      rw [← lineAfter_eq]
      exact congrArg Except.ok (begin_blank isBlank _)
    rw [readOn_of_step begins]
    exact ih tokens
  | @comment before body rest spots inLine ends later ih =>
    have opens (line : Int) : step ⟨.between, line, tokens⟩ ';' = .ok ⟨.comment, line, tokens⟩ := rfl
    have feeds : (before ++ ';' :: body).count '\n' = before.count '\n' := by
      rw [List.count_append, List.count_eq_zero_of_not_mem (l := ';' :: body) (by simpa using inLine), Nat.add_zero]
    rw [readOn_of_step (opens _), readOn_append (foldlM_comment inLine), readOn_comment ends, ← feeds]
    exact ih tokens
  | @lexeme before written rest lexeme spots spelled ends later ih =>
    have reached : line + before.count '\n' + written.count '\n' = line + (before ++ written).count '\n' := by
      rw [List.count_append]
      push_cast
      omega
    rw [spelled.readOn ends, reached, ih, List.reverse_cons, List.append_assoc]
    rfl

/-- A text is scanned exactly into the tokens of the lexemes that it falls into. -/
theorem Token.scan_eq_ok_iff {tokens : List Token} :
    Token.scan text line = .ok tokens ↔ ∃ spots, Lexes [] text spots ∧ tokens = spots.map (Spot.token line) := by
  constructor
  · intro success
    have ended := Token.scan_lexes text line
    rw [success] at ended
    exact ended
  · rintro ⟨spots, lexes, rfl⟩
    have read : Lexer.readOn ⟨.between, line + ([] : Text).count '\n', []⟩ text = _ := lexes.readOn []
    rw [List.count_nil, Int.natCast_zero, Int.add_zero] at read
    exact read

/-- A text that adds the same lexemes wherever it stands, as long as a delimiter or nothing follows it. -/
def Writes (written : Text) (lexemes : List Lexeme) : Prop :=
  ∀ before rest spots, (∀ c ∈ rest.head?, isDelimiter c = true) → Lexes (before ++ written) rest spots →
    ∃ own, Lexes before (written ++ rest) (own ++ spots) ∧ own.map Spot.lexeme = lexemes

namespace Writes

variable {first second : Text} {lexemes later : List Lexeme}

theorem nil : Writes [] [] := by
  intro before rest spots _ lexes
  rw [List.append_nil] at lexes
  exact ⟨[], lexes, rfl⟩

theorem spelled {lexeme : Lexeme} (spelled : lexeme.Spelled written) : Writes written [lexeme] :=
  fun before _ _ ends lexes => ⟨[⟨before, lexeme⟩], .lexeme spelled (fun _ => ends) lexes, rfl⟩

theorem blank_cons {c : Char} (isBlank : Text.isBlank c = true) (writes : Writes written lexemes) :
    Writes (c :: written) lexemes := by
  intro before rest spots ends lexes
  rw [← List.singleton_append, ← List.append_assoc] at lexes
  obtain ⟨own, lexes, same⟩ := writes _ _ _ ends lexes
  exact ⟨own, .blank isBlank lexes, same⟩

theorem opening_cons (writes : Writes written lexemes) : Writes ('(' :: written) (.opening :: lexemes) := by
  intro before rest spots ends lexes
  rw [← List.singleton_append, ← List.append_assoc] at lexes
  obtain ⟨own, lexes, same⟩ := writes _ _ _ ends lexes
  have delimited : (∀ c ∈ ['('], isDelimiter c = false) → ∀ c ∈ (written ++ rest).head?, isDelimiter c = true :=
    fun unbroken => absurd (unbroken '(' (List.mem_singleton_self _)) (by decide)
  have opened : Lexes before (['('] ++ (written ++ rest)) (⟨before, .opening⟩ :: (own ++ spots)) :=
    .lexeme .opening delimited lexes
  exact ⟨⟨before, .opening⟩ :: own, opened, by rw [List.map_cons, same]⟩

/-- Two texts after each other, if the second cannot go on with a word of the first. -/
theorem append (writes : Writes first lexemes) (ends : ∀ c ∈ second.head?, isDelimiter c = true)
    (after : Writes second later) : Writes (first ++ second) (lexemes ++ later) := by
  intro before rest spots restEnds lexes
  rw [← List.append_assoc] at lexes
  obtain ⟨ownSecond, lexes, sameSecond⟩ := after _ _ _ restEnds lexes
  have delimited : ∀ c ∈ (second ++ rest).head?, isDelimiter c = true := by
    cases second with
    | nil => exact restEnds
    | cons c second => exact ends
  obtain ⟨ownFirst, lexes, sameFirst⟩ := writes _ _ _ delimited lexes
  refine ⟨ownFirst ++ ownSecond, ?_, by rw [List.map_append, sameFirst, sameSecond]⟩
  rwa [List.append_assoc, List.append_assoc]

/-- Parts with a blank between them. -/
theorem intercalate {separator : Char} (isBlank : Text.isBlank separator = true) {parts : List Text}
    {lexemes : List (List Lexeme)} (each : List.Forall₂ Writes parts lexemes) :
    Writes ([separator].intercalate parts) lexemes.flatten := by
  have delimits : isDelimiter separator = true := by simp only [isDelimiter, isBlank, Bool.true_or]
  induction each with
  | nil => exact nil
  | @cons part own parts lexemes writes each ih =>
    cases each with
    | nil =>
      rw [List.intercalate_singleton, List.flatten_singleton]
      exact writes
    | @cons next nextOwn parts lexemes writesNext each =>
      rw [List.intercalate_cons_cons, List.append_assoc, List.singleton_append, List.flatten_cons]
      refine writes.append ?_ (ih.blank_cons isBlank)
      simpa using delimits

/-- The tokens of a whole text. -/
theorem scan (writes : Writes text lexemes) (line : Int) :
    ∃ tokens, Token.scan text line = .ok tokens ∧ tokens.map Token.lexeme = lexemes := by
  obtain ⟨own, lexes, same⟩ := writes [] [] [] (by simp) (.done _)
  rw [List.append_nil, List.append_nil] at lexes
  refine ⟨own.map (Spot.token line), Token.scan_eq_ok_iff.mpr ⟨own, lexes, rfl⟩, ?_⟩
  rw [List.map_map, ← same]
  rfl

end Writes

end Regen
