import Regen.Proofs.Encoding
import Regen.Proofs.FailureModes
import Regen.Proofs.Parts
import Regen.Proofs.Rescan
import Regen.Proofs.Spelling

/-! # Where characters come from

An expansion brings no characters into a text but those of ASCII. Reading keeps characters and turns escapes into ASCII,
integers are written in ASCII, and all else that a run writes are texts of the document: literals, arguments, stored
lines, templates, indentation and line ends. What was read in a character set can therefore be written in it after an
expansion.
-/

namespace Regen

open Text Directive

variable {known : Char → Prop}

/-- All characters of a text are known. -/
def Text.Within (known : Char → Prop) (text : Text) : Prop := ∀ c ∈ text, known c

namespace Text

variable {text part other separator : Text}

theorem Within.subset (within : text.Within known) (inside : part ⊆ text) : part.Within known :=
  fun c member => within c (inside member)

theorem Within.append (within : text.Within known) (also : other.Within known) : (text ++ other).Within known := by
  intro c member
  rcases List.mem_append.mp member with member | member
  · exact within c member
  · exact also c member

theorem Within.reverse (within : text.Within known) : Within known text.reverse :=
  fun c member => within c (List.mem_reverse.mp member)

theorem Within.intercalate (within : separator.Within known) {pieces : List Text}
    (all : ∀ piece ∈ pieces, piece.Within known) : Within known (separator.intercalate pieces) := by
  induction pieces with
  | nil => exact fun c member => by cases member
  | cons piece rest ih =>
    obtain ⟨first, others⟩ := List.forall_mem_cons.mp all
    cases rest with
    | nil => simpa using first
    | cons next rest =>
      rw [List.intercalate_cons_cons]
      exact (first.append within).append (ih others)

theorem Within.weave {gaps pieces : List Text} (outside : ∀ gap ∈ gaps, gap.Within known)
    (all : ∀ piece ∈ pieces, piece.Within known) : Within known (Text.weave gaps pieces) := by
  induction gaps generalizing pieces with
  | nil =>
    intro c member
    obtain ⟨piece, inPieces, member⟩ := List.mem_flatten.mp member
    exact all piece inPieces c member
  | cons gap gaps ih =>
    obtain ⟨first, others⟩ := List.forall_mem_cons.mp outside
    cases pieces with
    | nil => exact first.append (ih others all)
    | cons piece pieces =>
      obtain ⟨now, later⟩ := List.forall_mem_cons.mp all
      exact (first.append now).append (ih others later)

/-- Integers are written in ASCII. -/
theorem toNat_lt_of_mem_ofInt {n : Int} {c : Char} (member : c ∈ Text.ofInt n) : c.toNat < 0x80 := by
  have digit {n : Nat} (member : c ∈ Nat.toDigits 10 n) : c.toNat < 0x80 := by
    have isDigit := Nat.isDigit_of_mem_toDigits (by decide) (by decide) member
    simp only [Char.isDigit, Bool.and_eq_true, decide_eq_true_eq] at isDigit
    have most : c.toNat ≤ 57 := isDigit.2
    omega
  cases n with
  | ofNat n => exact digit member
  | negSucc n =>
    rcases List.mem_cons.mp member with rfl | member
    · decide
    · exact digit member

theorem within_slice (within : text.Within known) (span : Span) : (text.slice span).Within known :=
  within.subset (List.Subset.trans (List.take_subset ..) (List.drop_subset ..))

theorem within_lineBodies (within : text.Within known) : ∀ body ∈ text.lineBodies, body.Within known := by
  intro body member
  obtain ⟨line, inLines, rfl⟩ := List.mem_map.mp member
  exact within.subset ((List.prefix_append ..).isInfix.trans (infix_of_mem_lines inLines)).subset

end Text

/-- Writing the value writes known characters. -/
def Value.Within (known : Char → Prop) (value : Value) : Prop := value.written.Within known

theorem Value.within_int (ascii : ∀ c : Char, c.toNat < 0x80 → known c) (n : Int) : (Value.int n).Within known :=
  fun c member => ascii c (toNat_lt_of_mem_ofInt (n := n) member)

namespace Lexeme

/-- The characters of strings and names are known. -/
def Within (known : Char → Prop) : Lexeme → Prop
  | string chars => chars.Within known
  | symbol name => name.Within known
  | _ => True

theorem within_ofWord {word : Text} (within : word.Within known) :
    Ends (fun _ => True) (Within known) (ofWord word) := by
  unfold ofWord
  split
  · exact within
  · dsimp only
    split <;> trivial

end Lexeme

/-! ## Reading -/

section Reading

variable (ascii : ∀ c : Char, c.toNat < 0x80 → known c)

include ascii

/-- An escape stands for characters of ASCII, or for itself. -/
theorem within_unescape {c : Char} (isKnown : known c) : Text.Within known (Lexer.unescape c) := by
  unfold Lexer.unescape
  split_ifs
  · exact List.forall_mem_singleton.mpr (ascii _ (by decide))
  · exact List.forall_mem_singleton.mpr (ascii _ (by decide))
  · exact List.forall_mem_singleton.mpr isKnown
  · exact List.forall_mem_cons.mpr ⟨isKnown, List.forall_mem_singleton.mpr (ascii _ (by decide))⟩

theorem Quoted.within {body chars : Text} (quoted : Quoted body chars) (within : body.Within known) :
    chars.Within known := by
  induction quoted with
  | nil => exact within
  | plain quoted _ _ ih =>
    exact (ih (within.subset (List.subset_append_left ..))).append (within.subset (List.subset_append_right ..))
  | escape quoted c ih =>
    have isKnown : known c := within c (by simp)
    exact (ih (within.subset (List.subset_append_left ..))).append (within_unescape ascii isKnown).reverse

theorem Lexeme.Spelled.within {written : Text} {lexeme : Lexeme} (spelled : lexeme.Spelled written)
    (within : written.Within known) : lexeme.Within known := by
  cases spelled with
  | opening => trivial
  | closing => trivial
  | string quoted => exact quoted.within ascii (within.subset fun c member => by simp [member])
  | word nonempty unbroken means =>
    have ends := Lexeme.within_ofWord within
    rwa [means] at ends

theorem Lexes.within {before rest : Text} {spots : List Spot} (lexes : Lexes before rest spots)
    (within : rest.Within known) : ∀ spot ∈ spots, spot.lexeme.Within known := by
  induction lexes with
  | done => exact fun spot member => by cases member
  | blank _ _ ih => exact ih (within.subset (List.subset_cons_self ..))
  | comment _ _ _ ih => exact ih (within.subset fun c member => by simp [member])
  | lexeme spelled _ _ ih =>
    have written := spelled.within ascii (within.subset (List.subset_append_left ..))
    exact List.forall_mem_cons.mpr ⟨written, ih (within.subset (List.subset_append_right ..))⟩

variable {text : Text} (within : text.Within known) (line : Int)

include within

theorem Token.scan_within :
    Ends (fun _ => True) (fun tokens => ∀ token ∈ tokens, token.lexeme.Within known) (Token.scan text line) := by
  refine (Token.scan_lexes text line).imp (fun _ _ => trivial) ?_
  rintro tokens ⟨spots, lexes, rfl⟩ token member
  obtain ⟨spot, inSpots, rfl⟩ := List.mem_map.mp member
  exact lexes.within ascii within spot inSpots

end Reading

/-- The atoms that stand on their own are known if the tokens are. -/
theorem Datum.ofTokens_within {tokens : List Token} (all : ∀ token ∈ tokens, token.lexeme.Within known) :
    Ends (fun _ => True) (fun data => ∀ atom line, Datum.atom atom line ∈ data → atom.lexeme.Within known)
      (Datum.ofTokens tokens) := by
  refine (Datum.ofTokens_essence tokens).imp (fun _ _ => trivial) fun data same atom atomLine member => ?_
  have inside : (⟨atom.lexeme, atomLine⟩ : Token) ∈ flattenAll data := by
    rw [flattenAll_eq_flatMap]
    exact List.mem_flatMap_of_mem member (List.mem_singleton_self _)
  have notClosing : atom.lexeme ≠ .closing := by cases atom <;> simp [Atom.lexeme]
  exact all _ (Token.mem_of_essence_mem (same ▸ List.mem_map_of_mem inside) notClosing)

/-- The literals that stand in a node are known. -/
def Node.Within (known : Char → Prop) (node : Node) : Prop :=
  ∀ value line, Node.literal value line ∈ node.parts → value.Within known

theorem Node.ofTokens_within (integers : ∀ n : Int, (Value.int n).Within known) {tokens : List Token}
    (all : ∀ token ∈ tokens, token.lexeme.Within known) :
    Ends (fun _ => True) (fun nodes => ∀ node ∈ nodes, node.Within known) (Node.ofTokens tokens) := by
  refine (Node.ofTokens_parts tokens).imp (fun _ _ => trivial) fun nodes start node member value valueLine inside => ?_
  rw [Node.partsAll_eq_flatMap] at start
  obtain ⟨token, inTokens, begins⟩ := start _ (List.mem_flatMap_of_mem member inside)
  cases begins with
  | form isForm => cases isForm
  | text chars line => exact all _ inTokens
  | integer n line => exact integers n

theorem Node.readBody_within (ascii : ∀ c : Char, c.toNat < 0x80 → known c) {text : Text} (within : text.Within known)
    (line : Int) : Ends (fun _ => True) (fun nodes => ∀ node ∈ nodes, node.Within known) (Node.readBody text line) := by
  rw [Node.readBody_eq]
  exact (Token.scan_within ascii within line).bind fun _ all => ofTokens_within (Value.within_int ascii) all

/-- What a header writes is known. -/
def Header.Within (known : Char → Prop) : Header → Prop
  | funcall _ arguments => ∀ value ∈ arguments, value.Within known
  | formatLines _ template => template.Within known
  | _ => True

/-- What a header writes is known if its tokens are. -/
theorem Header.within_of_tokens (integers : ∀ n : Int, (Value.int n).Within known) {text : Text} {line : Int}
    (all : Ends (fun _ => True) (fun tokens => ∀ token ∈ tokens, token.lexeme.Within known) (Token.scan text line))
    {kind : Kind} {header : Header} (success : read kind text line = .ok header) : header.Within known := by
  obtain ⟨data, isRead, success⟩ := bind_eq_ok success
  have atoms : Ends (fun _ => True) (fun data => ∀ atom line, Datum.atom atom line ∈ data → atom.lexeme.Within known)
      (Datum.read text line) := all.bind fun _ inside => Datum.ofTokens_within inside
  rw [isRead] at atoms
  cases made : ofData kind data with
  | error reason =>
    rw [made] at success
    cases success
  | ok other =>
    rw [made] at success
    cases success
    cases kind with
    | funcall =>
      simp only [ofData] at made
      split at made
      · next name nameLine arguments =>
        split at made
        · cases made
        · next values valued =>
          cases made
          intro value member
          obtain ⟨datum, inArguments, isValue⟩ := (mapM_eq_some valued).2.2 value member
          cases datum with
          | list items line => cases isValue
          | atom atom line =>
            cases isValue
            have inside := atoms atom line (List.mem_cons_of_mem _ inArguments)
            cases atom with
            | integer n => exact integers n
            | string chars => exact inside
            | symbol name => exact inside
      · cases made
    | formatLines =>
      simp only [ofData] at made
      split at made
      · split at made
        · cases made
          exact atoms (.string _) _ (List.mem_cons_of_mem _ (List.mem_singleton_self _))
        · cases made
      · cases made
    | _ =>
      have kept := kind_of_ofData made
      cases header with
      | funcall name arguments => cases kept
      | formatLines name template => cases kept
      | _ => trivial

/-! ## Definitions -/

theorem Line.Opens.header_within (ascii : ∀ c : Char, c.toNat < 0x80 → known c) {line : Line} {header : Header}
    {headerText leader : Text} (opens : line.Opens header headerText leader) (within : line.text.Within known) :
    header.Within known := by
  cases opens with
  | @intro before name after header marked named read =>
    have inside := within.subset (header_isInfix marked).subset
    exact Header.within_of_tokens (Value.within_int ascii) (Token.scan_within ascii inside 0) (read 0)

namespace Directive

variable {directive : Directive}

/-- What a directive writes or reads is known. -/
structure Within (known : Char → Prop) (directive : Directive) : Prop where
  header : directive.header.Within known
  body : directive.body.Within known
  indent : directive.indent.Within known
  newline : directive.newline.Within known

theorem Within.source (ascii : ∀ c : Char, c.toNat < 0x80 → known c) (within : directive.Within known) :
    directive.source.Within known := by
  unfold Directive.source
  split
  · exact within.body
  · refine .intercalate (List.forall_mem_singleton.mpr (ascii _ (by decide))) fun piece member => ?_
    obtain ⟨line, inLines, rfl⟩ := List.mem_map.mp member
    exact (within_lineBodies within.body line inLines).subset (uncomment_suffix ..).subset

theorem Within.storedLines (within : directive.Within known) :
    ∀ line ∈ directive.storedLines, line.Within known := by
  intro stored member
  obtain ⟨line, inLines, rfl⟩ := List.mem_map.mp member
  have whole := within_lineBodies within.body line inLines
  cases found : directive.indent.isPrefixOf? line with
  | none => exact whole
  | some rest =>
    rw [List.isPrefixOf?_eq_some_iff_append_eq] at found
    exact whole.subset (List.IsSuffix.subset ⟨directive.indent, found⟩)

/-- What a directive writes comes from its text. -/
theorem within_of_scan (ascii : ∀ c : Char, c.toNat < 0x80 → known c) {text : Text} (within : text.Within known)
    {directives : List Directive} (scanned : scan text = .ok directives) :
    ∀ directive ∈ directives, directive.Within known := by
  obtain ⟨document, same, rfl⟩ := (Document.scan_eq_ok_iff ..).mp scanned
  intro directive member
  have readable := (Document.delimited same member).readable
  obtain ⟨first, passage, later, split, rfl⟩ := Passage.exists_of_mem_directives member
  have inLines : passage.opening ∈ text.lines := by
    rw [← same, Document.lines, split]
    simp [Passage.lines]
  have opening : passage.opening.text.Within known := within.subset (infix_of_mem_lines inLines).subset
  refine ⟨passage.opens.header_within ascii opening, within.subset readable.body.subset, ?_, ?_⟩
  · refine opening.subset ?_
    exact ((List.takeWhile_prefix _).isInfix.trans passage.opening.content_prefix.isInfix).subset
  · intro c member
    rcases Line.mem_newline member with rfl | rfl
    · exact ascii _ (by decide)
    · exact ascii _ (by decide)

end Directive

/-- What the functions and collections of a program write is known. -/
structure Program.Within (known : Char → Prop) (program : Program) : Prop where
  functions : ∀ name function, program.functions.find? name = some function → ∀ form ∈ function.body, form.Within known
  collections : ∀ name collection, program.collections.find? name = some collection →
    ∀ line ∈ collection.lines, line.Within known

namespace Program

variable {program : Program}

theorem Within.addFunction (within : program.Within known) (name : Text) {function : Function}
    (also : ∀ form ∈ function.body, form.Within known) : (program.addFunction name function).Within known where
  functions other found isFound := by
    simp only [Program.addFunction, Table.find?_insert] at isFound
    split at isFound
    · cases isFound
      exact also
    · exact within.functions other found isFound
  collections := within.collections

theorem Within.addCollection (within : program.Within known) (name : Text) {collection : Collection}
    (also : ∀ line ∈ collection.lines, line.Within known) : (program.addCollection name collection).Within known where
  functions := within.functions
  collections other found isFound := by
    simp only [Program.addCollection, Table.find?_insert] at isFound
    split at isFound
    · cases isFound
      exact also
    · exact within.collections other found isFound

end Program

/-- All that directives define is known if they are. -/
theorem Expansion.gather_within (ascii : ∀ c : Char, c.toNat < 0x80 → known c) {directives : List Directive}
    (within : ∀ directive ∈ directives, directive.Within known) (file : Option Text) :
    Ends (fun _ => True) (fun gathered => gathered.program.Within known) (gather file directives) := by
  refine .foldlM directives (fun gathered directive member inside => ?_) ⟨fun _ _ found => ?_, fun _ _ found => ?_⟩
  · have own := within directive member
    have added : Ends (fun _ => True) (fun gathered => gathered.program.Within known)
        (gathered.add file directive) := by
      unfold Gathered.add
      split
      · refine (Node.readBody_within ascii (own.source ascii) _).bind fun body forms => ?_
        exact inside.addFunction _ forms
      · exact inside.addCollection _ own.storedLines
      · exact inside.addCollection _ (List.forall_mem_singleton.mpr (own.newline.intercalate own.storedLines))
      · exact inside
    exact ends_atDirective added fun _ _ => trivial
  · cases found
  · cases found

/-! ## Runs -/

namespace Run

/-- Whether it fails or not, the run keeps a property of the buffer. -/
def Keeps (good : Buffer → Prop) (run : Run) : Prop := ∀ machine, good machine.buffer → good (run machine).2.buffer

namespace Keeps

variable {good : Buffer → Prop} {run next : Run}

theorem done : Keeps good Run.done := fun _ holds => holds

theorem fail (failure : Failure) : Keeps good (Run.fail failure) := fun _ holds => holds

theorem emit {event : Event} (pushed : ∀ buffer, good buffer → good (buffer.push event)) :
    Keeps good (Run.emit event) :=
  fun machine holds => pushed machine.buffer holds

theorem andThen (first : Keeps good run) (second : Keeps good next) : Keeps good (run.andThen next) := by
  intro machine holds
  have between := first machine holds
  unfold Run.andThen
  split
  · next ran =>
    rw [ran] at between
    exact second _ between
  · next ran =>
    rw [ran] at between
    exact between

theorem each {α : Type} {work : α → Run} (items : List α) (all : ∀ a ∈ items, Keeps good (work a)) :
    Keeps good (Run.each work items) := by
  induction items with
  | nil => exact done
  | cons a rest ih =>
    exact (all a (List.mem_cons_self ..)).andThen (ih fun b member => all b (List.mem_cons_of_mem _ member))

theorem withResult {α : Type} {allowed : Failure → Prop} {first : α → Prop} {result : Except Failure α}
    {work : α → Run} (ends : Ends allowed first result) (onValue : ∀ a, first a → Keeps good (work a)) :
    Keeps good (Run.withResult result work) := by
  cases result with
  | ok a => exact onValue a ends
  | error failure => exact fail failure

theorem countRound (limits : Limits) (line : Option Int) : Keeps good (Run.countRound limits line) := by
  intro machine holds
  simp only [Run.countRound]
  split
  · exact holds
  · exact holds

theorem repeatFrom {body : Nat → Run} (all : ∀ round, Keeps good (body round)) (rounds first : Nat) :
    Keeps good (Run.repeatFrom body rounds first) := by
  induction rounds generalizing first with
  | zero => exact done
  | succ rounds ih => exact (all first).andThen (ih (first + 1))

theorem invoke {program : Program} {limits : Limits} {inner : Scope → List Node → Run} {name : Text}
    {arguments : List Value} (line : Option Int)
    (onBody : ∀ function, program.functions.find? name = some function →
      Keeps good (inner (.ofArguments function.parameters arguments) function.body)) :
    Keeps good (program.invoke limits inner name arguments line) := by
  intro machine holds
  rw [Program.invoke_eq]
  cases found : program.functions.find? name with
  | none => exact holds
  | some function =>
    dsimp only
    split_ifs
    · exact holds
    · exact holds
    · exact onBody function found machine.enter holds

end Keeps

end Run

/-- What a buffer holds is known. -/
structure Buffer.Within (known : Char → Prop) (buffer : Buffer) : Prop where
  indent : buffer.indent.Within known
  newline : buffer.newline.Within known
  inserted : ∀ text, .insert text ∈ buffer.events → text.Within known

namespace Buffer

variable {buffer : Buffer}

/-- What holds of all that was inserted goes on to hold if it holds of what is inserted next. -/
theorem inserted_push_insert {holds : Text → Prop} (inserted : ∀ text, .insert text ∈ buffer.events → holds text)
    {text : Text} (also : holds text) : ∀ other, .insert other ∈ (buffer.push (.insert text)).events → holds other := by
  intro other member
  rcases List.mem_cons.mp member with same | member
  · cases same
    exact also
  · exact inserted other member

theorem inserted_push_newline {holds : Text → Prop} (inserted : ∀ text, .insert text ∈ buffer.events → holds text) :
    ∀ other, .insert other ∈ (buffer.push .newline).events → holds other := by
  intro other member
  rcases List.mem_cons.mp member with same | member
  · cases same
  · exact inserted other member

theorem Within.push_insert (within : buffer.Within known) {text : Text} (also : text.Within known) :
    (buffer.push (.insert text)).Within known where
  indent := within.indent
  newline := within.newline
  inserted := inserted_push_insert within.inserted also

theorem Within.push_newline (within : buffer.Within known) : (buffer.push .newline).Within known where
  indent := within.indent
  newline := within.newline
  inserted := inserted_push_newline within.inserted

theorem Within.value (within : buffer.Within known) : buffer.value.Within known := by
  have layout : buffer.layout.Within known := by
    refine within.indent.append fun c member => ?_
    obtain ⟨event, inEvents, member⟩ := List.mem_flatMap.mp member
    have inEvents := List.mem_reverse.mp inEvents
    cases event with
    | insert text => exact within.inserted text inEvents c member
    | newline => exact within.newline.append within.indent c member
  unfold Buffer.value
  split
  · exact layout.subset (List.take_subset ..)
  · exact layout

end Buffer

namespace Node

variable {scope : Scope} {node : Node}

theorem Within.eval_ends (within : node.Within known) (holds : scope.Holds (Value.Within known)) :
    Ends (fun _ => True) (Value.Within known) (node.eval scope) := by
  cases node with
  | literal value line => exact within value line (List.mem_singleton_self _)
  | reference name line =>
    simp only [Node.eval]
    cases found : scope.find? name with
    | some value => exact holds name value found
    | none => trivial
  | _ => trivial

/-- A node is known only if the nodes inside of it are. -/
theorem Within.of_subset {outer : Node} (within : outer.Within known) (inside : node.parts ⊆ outer.parts) :
    node.Within known :=
  fun value line member => within value line (inside member)

theorem parts_subset_partsAll {nodes : List Node} (member : node ∈ nodes) : node.parts ⊆ partsAll nodes := by
  rw [partsAll_eq_flatMap]
  exact fun part inside => List.mem_flatMap_of_mem member inside

end Node

namespace Program

open Run

variable {program : Program}

section Kept

variable {good : Buffer → Prop} (integers : ∀ n : Int, (Value.int n).Within known)
  (functions : ∀ name function, program.functions.find? name = some function →
    ∀ form ∈ function.body, form.Within known)
  (inserts : ∀ buffer text, good buffer → text.Within known → good (buffer.push (.insert text)))
  (breaks : ∀ buffer, good buffer → good (buffer.push .newline))

include integers functions inserts breaks

/-- A run of what is known keeps what insertions of known text and new lines keep. -/
theorem runForm_keeps (limits : Limits) (stack : Nat) {scope : Scope} (holds : scope.Holds (Value.Within known))
    {node : Node} (inside : node.Within known) : Keeps good (program.runForm limits stack scope node) := by
  induction stack using Nat.strongRecOn generalizing scope node with
  | ind stack ih =>
    cases node with
    | literal value line =>
      rw [runForm.eq_def]
      exact .fail _
    | reference name line =>
      rw [runForm.eq_def]
      exact .fail _
    | insert arguments line =>
      rw [runForm.eq_def]
      refine .each arguments fun argument member => ?_
      have argumentWithin : argument.Within known := inside.of_subset fun part inArgument =>
        List.mem_cons_of_mem _ (Node.parts_subset_partsAll member inArgument)
      refine .withResult (argumentWithin.eval_ends holds) fun value valueWithin => ?_
      unfold Run.write
      split
      · exact .emit fun buffer kept => inserts buffer _ kept valueWithin
      · exact .fail _
    | newline line =>
      rw [runForm.eq_def]
      exact .emit breaks
    | loop counter count body line =>
      rw [runForm.eq_def]
      have countWithin : count.Within known := inside.of_subset fun part inCount =>
        List.mem_cons_of_mem _ (List.mem_append_left _ inCount)
      refine .withResult (countWithin.eval_ends holds) fun value _ => ?_
      split
      · split
        · refine .repeatFrom (fun round => .andThen (.countRound limits line) (.each body fun form member => ?_)) _ _
          refine ih _ (by omega) (holds.bind counter (integers round)) (inside.of_subset fun part inForm => ?_)
          exact List.mem_cons_of_mem _ (List.mem_append_right _ (Node.parts_subset_partsAll member inForm))
        · exact .fail _
      · exact .fail _
    | call function arguments line =>
      rw [runForm.eq_def]
      have argumentsWithin : ∀ argument ∈ arguments, argument.Within known := fun argument member =>
        inside.of_subset fun part inArgument =>
          List.mem_cons_of_mem _ (Node.parts_subset_partsAll member inArgument)
      refine .withResult (.mapM arguments fun argument member =>
        (argumentsWithin argument member).eval_ends holds) fun values valuesWithin => ?_
      split
      · refine .invoke line fun callee found => .each callee.body fun form member => ?_
        exact ih _ (by omega) (Scope.holds_ofArguments _ valuesWithin) (functions _ callee found form member)
      · exact .invoke line fun _ _ => .fail _

theorem call_keeps (limits : Limits) (name : Text) {arguments : List Value}
    (all : ∀ value ∈ arguments, value.Within known) (line : Option Int) :
    Keeps good (program.call limits name arguments line) :=
  .invoke line fun function found => .each function.body fun form member =>
    runForm_keeps integers functions inserts breaks limits limits.stack (Scope.holds_ofArguments _ all)
      (functions name function found form member)

end Kept

end Program

/-! ## Regions -/

/-- A text that is split at a needle consists of the two parts and the needle between them. -/
theorem Text.eq_of_splitAtFirst? {needle text before after : Text}
    (split : splitAtFirst? needle text = some (before, after)) : text = before ++ needle ++ after := by
  induction text generalizing before with
  | nil =>
    rw [splitAtFirst?] at split
    split at split
    · next isEmpty =>
      cases split
      rw [List.isEmpty_iff.mp isEmpty]
      rfl
    · cases split
  | cons c rest ih =>
    rw [splitAtFirst?] at split
    split at split
    · next starts =>
      cases split
      rw [List.isPrefixOf?_eq_some_iff_append_eq] at starts
      exact starts.symm
    · obtain ⟨⟨earlier, later⟩, found, same⟩ := Option.map_eq_some_iff.mp split
      cases same
      rw [ih found]
      rfl

theorem Template.within_fill {template line : Text} (within : template.Within known) (also : line.Within known) :
    Text.Within known (fill template line) := by
  unfold fill
  split
  · next before after split =>
    have parts := Text.eq_of_splitAtFirst? split
    have outside : before ⊆ template ∧ after ⊆ template := by
      rw [parts]
      exact ⟨fun c member => by simp [member], fun c member => by simp [member]⟩
    exact ((within.subset outside.1).append also).append (within.subset outside.2)
  · exact within

namespace Expansion

variable {program : Program} {directive : Directive} {text : Text}

/-- A region is known if the program and the directive are. -/
theorem within_of_generate (ascii : ∀ c : Char, c.toNat < 0x80 → known c) (within : program.Within known)
    (own : directive.Within known) {limits : Limits} (generated : generate program limits directive = .ok text) :
    text.Within known := by
  have header := own.header
  unfold generate at generated
  split at generated
  · next name arguments isCall =>
    rw [isCall] at header
    have start : (Buffer.start directive.indent directive.newline).Within known :=
      ⟨own.indent, own.newline, fun _ member => (by cases member)⟩
    have kept := Program.call_keeps (Value.within_int ascii) within.functions
      (fun _ _ holds also => holds.push_insert also) (fun _ holds => holds.push_newline) limits name header
      (some directive.line) (.start (.start directive.indent directive.newline)) start
    dsimp only at generated
    split at generated
    · next after ran =>
      cases generated
      rw [ran] at kept
      unfold Text.asRegion
      split
      · exact kept.value
      · exact kept.value.append own.newline
    · cases generated
  · next name template isFormat =>
    rw [isFormat] at header
    split at generated
    · cases generated
    · next collection found =>
      split at generated
      · cases generated
        exact fun c member => by cases member
      · cases generated
        refine Text.Within.append (own.newline.intercalate fun piece member => ?_) own.newline
        obtain ⟨line, inLines, rfl⟩ := List.mem_map.mp member
        exact own.indent.append (Template.within_fill header (within.collections name collection found line inLines))
  · cases generated
    exact fun c member => by cases member

theorem region_within (ascii : ∀ c : Char, c.toNat < 0x80 → known c) (within : program.Within known)
    (own : directive.Within known) (limits : Limits) :
    Ends (fun _ => True) (Text.Within known) (region program limits directive) := by
  cases made : region program limits directive with
  | ok text => exact within_of_generate ascii within own (generate_of_region made).1
  | error failure => trivial

/-- An expansion brings no characters but those of ASCII into a text. -/
theorem within_of_expand (ascii : ∀ c : Char, c.toNat < 0x80 → known c) (within : text.Within known)
    {file : Option Text} {limits : Limits} {expansion : Expansion} (success : expand file limits text = .ok expansion) :
    expansion.text.Within known := by
  have scanned := scan_of_expand success
  have own := within_of_scan ascii within scanned
  rw [expand_of_scan scanned] at success
  obtain ⟨gathered, defined, success⟩ := bind_eq_ok success
  obtain ⟨pieces, made, success⟩ := bind_eq_ok success
  have programWithin := gather_within ascii own file
  rw [defined] at programWithin
  have piecesWithin : Ends (fun _ => True) (fun pieces => ∀ piece ∈ pieces, piece.Within known)
      (regions file gathered.program limits expansion.directives) := by
    refine .mapM _ fun directive member => ?_
    have made := region_within ascii programWithin (own directive (List.mem_filter.mp member).1) limits
    exact ends_atDirective made fun _ _ => trivial
  rw [made] at piecesWithin
  rw [← Except.ok.inj success]
  refine Text.Within.weave (fun gap member => ?_) piecesWithin
  obtain ⟨span, _, rfl⟩ := List.mem_map.mp member
  exact within_slice within span

/-- What was read in a character set can be written in it after an expansion. -/
theorem encode?_of_expand {charset : Charset} {bytes : Bytes} (isRead : charset.decode bytes = .ok text)
    {file : Option Text} {limits : Limits} {expansion : Expansion} (success : expand file limits text = .ok expansion) :
    ∃ new, charset.encode? expansion.text = some new := by
  refine Option.isSome_iff_exists.mp (Charset.encode?_isSome_iff.mpr ?_)
  exact within_of_expand (fun _ => charset.has_of_ascii) (Charset.has_of_decode isRead) success

end Expansion

end Regen
