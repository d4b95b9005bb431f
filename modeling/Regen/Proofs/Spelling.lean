import Regen.Proofs.Forms

/-! # How tokens are spelled

A text with tokens in it falls into blanks, comments and lexemes, and this tells where each lexeme starts. Scanning
gives the lexemes in order, each on the line that the line feeds before it lead to; it is refused on such a line too.
-/

namespace Regen

/-- What stands between the quotes of a string, and the characters that it denotes. -/
inductive Quoted : (body chars : Text) → Prop
  | nil : Quoted [] []
  | plain {body chars : Text} {c : Char} (quoted : Quoted body chars) (notQuote : c ≠ '"') (notBackslash : c ≠ '\\') :
      Quoted (body ++ [c]) (chars ++ [c])
  | escape {body chars : Text} (quoted : Quoted body chars) (c : Char) :
      Quoted (body ++ ['\\', c]) (chars ++ (Lexer.unescape c).reverse)

namespace Lexeme

/-- How a lexeme is written. -/
inductive Spelled : (written : Text) → Lexeme → Prop
  | opening : Spelled ['('] .opening
  | closing : Spelled [')'] .closing
  | string {body chars : Text} (quoted : Quoted body chars) : Spelled ('"' :: (body ++ ['"'])) (.string chars)
  | word {word : Text} {lexeme : Lexeme} (nonempty : word ≠ [])
      (unbroken : ∀ c ∈ word, Lexer.isDelimiter c = false) (means : ofWord word = .ok lexeme) : Spelled word lexeme

/-- A character with which a lexeme can start. -/
def StartsWith (c : Char) : Lexeme → Prop
  | opening => c = '('
  | closing => c = ')'
  | string _ => c = '"'
  | integer _ => c = '-' ∨ (Text.digit? c).isSome = true
  | symbol name => name.head? = some c

theorem startsWith_ofWord {c : Char} {rest : Text} {lexeme : Lexeme} (means : ofWord (c :: rest) = .ok lexeme) :
    lexeme.StartsWith c := by
  unfold ofWord at means
  split at means
  · cases means
    rfl
  · next n isInteger =>
    dsimp only at means
    split at means
    · cases means
    · cases means
      obtain ⟨number, isSuffix, isNumber, digits, _⟩ := Text.integer?_eq_some isInteger
      by_cases minus : c = '-'
      · exact .inl minus
      · refine .inr (isNumber c ?_)
        rw [← digits]
        simp [minus]

/-- What is written starts with a character that tells what it is and that is no blank. -/
theorem Spelled.start {written : Text} {lexeme : Lexeme} (spelled : lexeme.Spelled written) :
    ∃ c rest, written = c :: rest ∧ lexeme.StartsWith c ∧ Text.isBlank c = false := by
  cases spelled with
  | opening => exact ⟨_, _, rfl, rfl, by decide⟩
  | closing => exact ⟨_, _, rfl, rfl, by decide⟩
  | string quoted => exact ⟨_, _, rfl, rfl, by decide⟩
  | word nonempty unbroken means =>
    obtain ⟨c, rest, rfl⟩ := List.exists_cons_of_ne_nil nonempty
    refine ⟨c, rest, rfl, startsWith_ofWord means, ?_⟩
    have noDelimiter := unbroken c (List.mem_cons_self ..)
    simp only [Lexer.isDelimiter, Bool.or_eq_false_iff] at noDelimiter
    exact noDelimiter.1.1.1.1

end Lexeme

/-- A lexeme in a text, with the text before it. -/
structure Spot where
  before : Text
  lexeme : Lexeme

/-- The token of a lexeme in a text that starts on `line`. -/
def Spot.token (line : Int) (spot : Spot) : Token := ⟨spot.lexeme, line + spot.before.count '\n'⟩

/-- The lexemes in the rest of a text: between them stand blanks and comments, a comment runs to the end of its line,
and a word to the next delimiter. -/
inductive Lexes : (before rest : Text) → List Spot → Prop
  | done (before : Text) : Lexes before [] []
  | blank {before rest : Text} {c : Char} {spots : List Spot} (isBlank : Text.isBlank c = true)
      (later : Lexes (before ++ [c]) rest spots) : Lexes before (c :: rest) spots
  | comment {before body rest : Text} {spots : List Spot} (inLine : '\n' ∉ body) (ends : ∀ c ∈ rest.head?, c = '\n')
      (later : Lexes (before ++ ';' :: body) rest spots) : Lexes before (';' :: (body ++ rest)) spots
  | lexeme {before written rest : Text} {lexeme : Lexeme} {spots : List Spot} (spelled : lexeme.Spelled written)
      (ends : (∀ c ∈ written, Lexer.isDelimiter c = false) → ∀ c ∈ rest.head?, Lexer.isDelimiter c = true)
      (later : Lexes (before ++ written) rest spots) : Lexes before (written ++ rest) (⟨before, lexeme⟩ :: spots)

/-- A lexeme starts right after the text before it. -/
theorem Lexes.start_at {before rest : Text} {spots : List Spot} (lexes : Lexes before rest spots) :
    ∀ spot ∈ spots, ∃ c tail, before ++ rest = spot.before ++ c :: tail ∧ spot.lexeme.StartsWith c ∧
      Text.isBlank c = false := by
  induction lexes with
  | done before => exact fun spot member => by cases member
  | blank isBlank later ih =>
    rw [List.append_assoc, List.singleton_append] at ih
    exact ih
  | comment inLine ends later ih =>
    rw [List.append_assoc, List.cons_append] at ih
    exact ih
  | @lexeme before written rest lexeme spots spelled ends later ih =>
    rw [List.append_assoc] at ih
    refine List.forall_mem_cons.mpr ⟨?_, ih⟩
    obtain ⟨c, tail, rfl, starts, notBlank⟩ := spelled.start
    exact ⟨c, tail ++ rest, rfl, starts, notBlank⟩

theorem Lexes.spelled {before rest : Text} {spots : List Spot} (lexes : Lexes before rest spots) :
    ∀ spot ∈ spots, ∃ written, spot.lexeme.Spelled written := by
  induction lexes with
  | done before => exact List.forall_mem_nil _
  | blank isBlank later ih => exact ih
  | comment inLine ends later ih => exact ih
  | lexeme spelled ends later ih => exact List.forall_mem_cons.mpr ⟨⟨_, spelled⟩, ih⟩

/-- What has been read leads to the lexemes of the whole text, whatever those of the rest are. -/
def Leads (done : Text) (spots : List Spot) (rest : Text) : Prop :=
  ∀ later, Lexes done rest later → Lexes [] (done ++ rest) (spots ++ later)

namespace Leads

variable {done before rest : Text} {spots : List Spot}

theorem blank {c : Char} (isBlank : Text.isBlank c = true) (leads : Leads done spots (c :: rest)) :
    Leads (done ++ [c]) spots rest := by
  intro later lexes
  rw [List.append_assoc]
  exact leads later (.blank isBlank lexes)

theorem comment {body : Text} (inLine : '\n' ∉ body) (ends : ∀ c ∈ rest.head?, c = '\n')
    (leads : Leads before spots (';' :: (body ++ rest))) : Leads (before ++ ';' :: body) spots rest := by
  intro later lexes
  rw [List.append_assoc, List.cons_append]
  exact leads later (.comment inLine ends lexes)

theorem lexeme {written : Text} {lexeme : Lexeme} (spelled : lexeme.Spelled written)
    (ends : (∀ c ∈ written, Lexer.isDelimiter c = false) → ∀ c ∈ rest.head?, Lexer.isDelimiter c = true)
    (leads : Leads before spots (written ++ rest)) :
    Leads (before ++ written) (spots ++ [⟨before, lexeme⟩]) rest := by
  intro later lexes
  rw [List.append_assoc, List.append_assoc]
  exact leads _ (.lexeme spelled ends lexes)

end Leads

/-- A failure on a line of a text that starts on `line`, unless it is no fault. -/
def Failure.OnLineOf (text : Text) (line : Int) (failure : Failure) : Prop :=
  ∀ fault, failure = .fault fault → fault.file = none ∧
    ∃ before, before <+: text ∧ fault.line = some (line + before.count '\n')

namespace Lexer

/-- What holds of a point in the pass over a text that starts on `line`: the tokens so far are those of the lexemes that
were read, and what is not finished stands behind them. -/
inductive Tracks (line : Int) (done : Text) : Lexer → Prop
  | between {spots : List Spot} (leads : ∀ rest, Leads done spots rest) :
      Tracks line done ⟨.between, line + done.count '\n', (spots.map (Spot.token line)).reverse⟩
  | comment {before body : Text} {spots : List Spot} (split : done = before ++ ';' :: body) (inLine : '\n' ∉ body)
      (leads : ∀ rest, Leads before spots (';' :: rest)) :
      Tracks line done ⟨.comment, line + done.count '\n', (spots.map (Spot.token line)).reverse⟩
  | word {before chars : Text} {spots : List Spot} (split : done = before ++ chars.reverse) (nonempty : chars ≠ [])
      (unbroken : ∀ c ∈ chars, isDelimiter c = false) (leads : ∀ rest, Leads before spots (chars.reverse ++ rest)) :
      Tracks line done ⟨.word chars, line + done.count '\n', (spots.map (Spot.token line)).reverse⟩
  | string {before body chars : Text} {spots : List Spot} (split : done = before ++ '"' :: body)
      (quoted : Quoted body chars.reverse) (leads : ∀ rest, Leads before spots ('"' :: rest)) :
      Tracks line done
        ⟨.string (line + before.count '\n') chars, line + done.count '\n', (spots.map (Spot.token line)).reverse⟩
  | escape {before body chars : Text} {spots : List Spot} (split : done = before ++ '"' :: (body ++ ['\\']))
      (quoted : Quoted body chars.reverse) (leads : ∀ rest, Leads before spots ('"' :: rest)) :
      Tracks line done
        ⟨.escape (line + before.count '\n') chars, line + done.count '\n', (spots.map (Spot.token line)).reverse⟩

variable {line : Int} {done : Text} {spots : List Spot} {lexer : Lexer}

theorem lineAfter_eq (line : Int) (done : Text) (c : Char) :
    lineAfter (line + done.count '\n') c = line + (done ++ [c]).count '\n' := by
  unfold lineAfter
  rw [List.count_append, List.count_singleton]
  split
  · push_cast
    omega
  · push_cast
    omega

theorem count_concat_of_ne {c : Char} (notFeed : c ≠ '\n') (done : Text) :
    (done ++ [c]).count '\n' = done.count '\n' := by
  rw [List.count_append, List.count_singleton, if_neg (by simpa using notFeed), Nat.add_zero]

theorem emit_eq (mode : Mode) (reached : Int) (spots : List Spot) (before : Text) (lexeme : Lexeme) :
    emit ⟨mode, reached, (spots.map (Spot.token line)).reverse⟩ lexeme (line + before.count '\n') =
      ⟨.between, reached, ((spots ++ [Spot.mk before lexeme]).map (Spot.token line)).reverse⟩ := by
  simp [emit, Spot.token]

/-- A lexeme that is finished goes to the tokens. -/
theorem Tracks.emit {before written : Text} {lexeme : Lexeme} (split : done = before ++ written)
    (spelled : lexeme.Spelled written) (delimited : ∃ c ∈ written, isDelimiter c = true)
    (leads : ∀ rest, Leads before spots (written ++ rest)) (mode : Mode) :
    Tracks line done
      (emit ⟨mode, line + done.count '\n', (spots.map (Spot.token line)).reverse⟩ lexeme
        (line + before.count '\n')) := by
  rw [emit_eq]
  refine .between fun rest => ?_
  rw [split]
  refine .lexeme spelled (fun unbroken => ?_) (leads rest)
  obtain ⟨c, member, isDelimiter⟩ := delimited
  rw [unbroken c member] at isDelimiter
  cases isDelimiter

/-- A character that starts something new. -/
theorem Tracks.begin {c : Char} (leads : ∀ rest, Leads done spots (c :: rest)) (mode : Mode) :
    Tracks line (done ++ [c])
      (begin ⟨mode, line + done.count '\n', (spots.map (Spot.token line)).reverse⟩ c) := by
  unfold Lexer.begin
  split_ifs with isBlank isComment isOpening isClosing isQuote
  · rw [lineAfter_eq]
    exact .between fun rest => (leads rest).blank isBlank
  · obtain rfl : c = ';' := by simpa using isComment
    have tracks : Tracks line (done ++ [';']) ⟨.comment, line + (done ++ [';']).count '\n', _⟩ :=
      .comment rfl (by simp) leads
    rwa [count_concat_of_ne (by decide)] at tracks
  · obtain rfl : c = '(' := by simpa using isOpening
    have tracks : Tracks line (done ++ ['('])
        (Lexer.emit ⟨mode, line + (done ++ ['(']).count '\n', _⟩ .opening (line + done.count '\n')) :=
      .emit rfl .opening ⟨'(', by simp, by decide⟩ leads mode
    rwa [count_concat_of_ne (by decide)] at tracks
  · obtain rfl : c = ')' := by simpa using isClosing
    have tracks : Tracks line (done ++ [')'])
        (Lexer.emit ⟨mode, line + (done ++ [')']).count '\n', _⟩ .closing (line + done.count '\n')) :=
      .emit rfl .closing ⟨')', by simp, by decide⟩ leads mode
    rwa [count_concat_of_ne (by decide)] at tracks
  · obtain rfl : c = '"' := by simpa using isQuote
    have tracks : Tracks line (done ++ ['"'])
        ⟨.string (line + done.count '\n') [], line + (done ++ ['"']).count '\n', _⟩ := .string rfl .nil leads
    rwa [count_concat_of_ne (by decide)] at tracks
  · have notFeed : c ≠ '\n' := by
      rintro rfl
      exact isBlank (by decide)
    have unbroken : isDelimiter c = false := by
      simp only [Bool.not_eq_true] at *
      simp only [isDelimiter, *, Bool.or_self]
    have tracks : Tracks line (done ++ [c]) ⟨.word [c], line + (done ++ [c]).count '\n', _⟩ :=
      .word rfl (by simp) (List.forall_mem_singleton.mpr unbroken) leads
    rwa [count_concat_of_ne notFeed] at tracks

/-- The lexeme of a word that ends. -/
theorem leads_word {before chars rest : Text} (nonempty : chars ≠ []) (unbroken : ∀ c ∈ chars, isDelimiter c = false)
    {lexeme : Lexeme} (means : Lexeme.ofWord chars.reverse = .ok lexeme)
    (ends : ∀ c ∈ rest.head?, isDelimiter c = true) (leads : Leads before spots (chars.reverse ++ rest)) :
    Leads (before ++ chars.reverse) (spots ++ [⟨before, lexeme⟩]) rest := by
  have spelled : lexeme.Spelled chars.reverse :=
    .word (by simpa using nonempty) (fun c member => unbroken c (List.mem_reverse.mp member)) means
  exact .lexeme spelled (fun _ => ends) leads

theorem count_word (before : Text) {chars : Text} (unbroken : ∀ c ∈ chars, isDelimiter c = false) :
    (before ++ chars.reverse).count '\n' = before.count '\n' := by
  have noFeed : '\n' ∉ chars.reverse := by
    intro member
    have isDelimited := unbroken _ (List.mem_reverse.mp member)
    exact absurd isDelimited (by decide)
  rw [List.count_append, List.count_eq_zero_of_not_mem noFeed, Nat.add_zero]

theorem ofWord_onLineOf (word text : Text) (line : Int) :
    Ends (Failure.OnLineOf text line) (fun lexeme => Lexeme.ofWord word = .ok lexeme) (Lexeme.ofWord word) := by
  unfold Lexeme.ofWord
  split
  · rfl
  · dsimp only
    split
    · exact fun fault same => by cases same
    · rfl

theorem Tracks.step (tracks : lexer.Tracks line done) (text : Text) (c : Char) :
    Ends (Failure.OnLineOf text line) (Tracks line (done ++ [c])) (lexer.step c) := by
  cases tracks with
  | between leads => exact Tracks.begin (fun rest => leads (c :: rest)) _
  | @comment before body spots split inLine leads =>
    simp only [Lexer.step]
    split
    · next isFeed =>
      obtain rfl : c = '\n' := by simpa using isFeed
      refine Tracks.begin (fun rest => ?_) _
      rw [split]
      exact .comment inLine (by simp) (leads _)
    · next notFeed =>
      have notFeed : c ≠ '\n' := by simpa using notFeed
      have split : done ++ [c] = before ++ ';' :: (body ++ [c]) := by simp [split]
      rw [← count_concat_of_ne notFeed]
      exact .comment split (by simp [inLine, notFeed.symm]) leads
  | @word before chars spots split nonempty unbroken leads =>
    simp only [Lexer.step]
    split
    · next delimits =>
      refine (ofWord_onLineOf _ _ _).bind fun lexeme means => ?_
      have sameLine : line + done.count '\n' = line + before.count '\n' := by rw [split, count_word before unbroken]
      have leadsOn (rest : Text) : Leads done (spots ++ [⟨before, lexeme⟩]) (c :: rest) := by
        rw [split]
        refine leads_word nonempty unbroken means ?_ (leads _)
        simpa using delimits
      have tracks : Tracks line (done ++ [c]) _ := .begin leadsOn .between
      rw [← emit_eq (.word chars), ← sameLine] at tracks
      exact tracks
    · next goesOn =>
      have goesOn : isDelimiter c = false := by simpa using goesOn
      have notFeed : c ≠ '\n' := by
        rintro rfl
        exact absurd goesOn (by decide)
      have split : done ++ [c] = before ++ (c :: chars).reverse := by simp [split]
      rw [← count_concat_of_ne notFeed]
      refine .word split (by simp) (List.forall_mem_cons.mpr ⟨goesOn, unbroken⟩) fun rest => ?_
      have longer := leads (c :: rest)
      rwa [← List.singleton_append, ← List.append_assoc, ← List.reverse_cons] at longer
  | @string before body chars spots split quoted leads =>
    simp only [Lexer.step]
    split_ifs with closes escapes
    · obtain rfl : c = '"' := by simpa using closes
      have split : done ++ ['"'] = before ++ '"' :: (body ++ ['"']) := by simp [split]
      rw [← count_concat_of_ne (show '"' ≠ '\n' by decide) done]
      exact .emit split (.string quoted) ⟨'"', by simp, by decide⟩ (fun rest => leads _) _
    · obtain rfl : c = '\\' := by simpa using escapes
      have split : done ++ ['\\'] = before ++ '"' :: (body ++ ['\\']) := by simp [split]
      rw [← count_concat_of_ne (show '\\' ≠ '\n' by decide) done]
      exact .escape split quoted leads
    · have split : done ++ [c] = before ++ '"' :: (body ++ [c]) := by simp [split]
      have longer : Quoted (body ++ [c]) (c :: chars).reverse := by
        rw [List.reverse_cons]
        exact quoted.plain (by simpa using closes) (by simpa using escapes)
      rw [lineAfter_eq]
      exact .string split longer leads
  | @escape before body chars spots split quoted leads =>
    have split : done ++ [c] = before ++ '"' :: (body ++ ['\\', c]) := by simp [split]
    have longer : Quoted (body ++ ['\\', c]) (unescape c ++ chars).reverse := by
      rw [List.reverse_append]
      exact quoted.escape c
    simp only [Lexer.step, lineAfter_eq]
    exact .string split longer leads

theorem Tracks.finish (tracks : lexer.Tracks line done) :
    Ends (Failure.OnLineOf done line)
      (fun tokens => ∃ spots, Lexes [] done spots ∧ tokens = spots.map (Spot.token line)) lexer.finish := by
  have lexed {spots : List Spot} (leads : Leads done spots []) : Lexes [] done spots := by
    have lexes := leads [] (.done done)
    rwa [List.append_nil, List.append_nil] at lexes
  have unterminated {before body : Text} (split : done = before ++ '"' :: body) :
      Failure.OnLineOf done line (.onLine .unterminatedString (some (line + before.count '\n'))) := by
    rintro fault ⟨⟩
    exact ⟨rfl, before, ⟨_, split.symm⟩, rfl⟩
  cases tracks with
  | between leads => exact ⟨_, lexed (leads []), List.reverse_reverse _⟩
  | @comment before body spots split inLine leads =>
    refine ⟨spots, lexed ?_, List.reverse_reverse _⟩
    rw [split]
    exact .comment inLine (by simp) (leads _)
  | @word before chars spots split nonempty unbroken leads =>
    refine (ofWord_onLineOf _ _ _).bind fun lexeme means => ?_
    have sameLine : line + done.count '\n' = line + before.count '\n' := by rw [split, count_word before unbroken]
    refine ⟨spots ++ [⟨before, lexeme⟩], lexed ?_, ?_⟩
    · rw [split]
      exact leads_word nonempty unbroken means (by simp) (leads _)
    · rw [sameLine, emit_eq, List.reverse_reverse]
  | string split quoted leads => exact unterminated split
  | escape split quoted leads => exact unterminated split

end Lexer

/-- Scanning gives the tokens of the lexemes in a text, or fails on one of its lines. -/
theorem Token.scan_lexes (text : Text) (line : Int) :
    Ends (Failure.OnLineOf text line)
      (fun tokens => ∃ spots, Lexes [] text spots ∧ tokens = spots.map (Spot.token line)) (Token.scan text line) := by
  have pass (rest done : Text) {lexer : Lexer} (tracks : lexer.Tracks line done) :
      Ends (Failure.OnLineOf text line) (Lexer.Tracks line (done ++ rest)) (rest.foldlM Lexer.step lexer) := by
    induction rest generalizing done lexer with
    | nil =>
      rw [List.append_nil]
      exact tracks
    | cons c rest ih =>
      rw [List.foldlM_cons]
      refine (tracks.step text c).bind fun next nextTracks => ?_
      have later := ih (done ++ [c]) nextTracks
      rwa [List.append_assoc, List.singleton_append] at later
  have start : Lexer.Tracks line [] ⟨.between, line, []⟩ := by
    have tracks : Lexer.Tracks line [] ⟨.between, line + (0 : Nat), []⟩ :=
      @Lexer.Tracks.between line [] [] fun rest later => id
    simpa using tracks
  exact (pass text [] start).bind fun lexer tracks => tracks.finish

end Regen
