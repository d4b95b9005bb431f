import Regen.Header
import Regen.Node.Body
import Regen.Proofs.Outcomes

/-! # Line numbers in what is read

Data, forms and faults take their lines over from tokens, so tokens on other lines give the same result on these
lines. The lines of tokens are counted from the line on which a text starts: reading a text that starts further down
gives the same result with every line moved by the same distance, and the same fault on the moved line. A header keeps
no line at all, so where it stands decides nothing about it.
-/

namespace Regen

/-- A result with other names for its value and its failure. -/
def relabel {α β : Type} (failure : Failure → Failure) (value : α → β) : Except Failure α → Except Failure β
  | .ok a => .ok (value a)
  | .error f => .error (failure f)

section Relabel

variable {α β γ δ : Type} {failure : Failure → Failure}

/-- A result succeeds if it does under other names. -/
theorem relabel_eq_ok {value : α → β} {result : Except Failure α} {b : β}
    (success : relabel failure value result = .ok b) : ∃ a, result = .ok a ∧ value a = b := by
  cases result with
  | ok a => exact ⟨a, rfl, Except.ok.inj success⟩
  | error f => cases success

/-- Two computations in a row are relabelled one after the other. -/
theorem relabel_bind {value : γ → δ} {next : α → Except Failure γ} {next' : β → Except Failure δ}
    (middle : α → β) (result : Except Failure α) (agree : ∀ a, next' (middle a) = relabel failure value (next a)) :
    relabel failure middle result >>= next' = relabel failure value (result >>= next) := by
  cases result with
  | ok a => exact agree a
  | error f => rfl

/-- A pass whose steps agree under a relabelling agrees as a whole. -/
theorem foldlM_relabel {view : α → α} {item : β → γ} {step : α → β → Except Failure α}
    {step' : α → γ → Except Failure α}
    (agree : ∀ state b, step' (view state) (item b) = relabel failure view (step state b))
    (items : List β) (state : α) :
    (items.map item).foldlM step' (view state) = relabel failure view (items.foldlM step state) := by
  induction items generalizing state with
  | nil => rfl
  | cons b rest ih =>
    rw [List.map_cons, List.foldlM_cons, List.foldlM_cons, agree]
    exact relabel_bind _ _ ih

theorem mapM_relabel {item : α → β} {value : γ → δ} {make : α → Except Failure γ} {make' : β → Except Failure δ}
    (items : List α) (agree : ∀ a ∈ items, make' (item a) = relabel failure value (make a)) :
    (items.map item).mapM make' = relabel failure (List.map value) (items.mapM make) := by
  induction items with
  | nil => rfl
  | cons a rest ih =>
    rw [List.map_cons, List.mapM_cons, List.mapM_cons, agree a (List.mem_cons_self ..),
      ih fun b member => agree b (List.mem_cons_of_mem _ member)]
    refine relabel_bind _ _ fun first => ?_
    exact relabel_bind (List.map value) _ fun more => rfl

end Relabel

/-- A line number moved down by a distance. -/
def moveLine (distance : Int) : Option Int → Option Int := Option.map (· + distance)

namespace Node

mutual

/-- A node with another line for each of its parts. -/
def relocate (move : Option Int → Option Int) : Node → Node
  | literal value line => literal value (move line)
  | reference name line => reference name (move line)
  | insert arguments line => insert (relocateAll move arguments) (move line)
  | newline line => newline (move line)
  | loop counter count body line => loop counter (count.relocate move) (relocateAll move body) (move line)
  | call function arguments line => call function (relocateAll move arguments) (move line)

def relocateAll (move : Option Int → Option Int) : List Node → List Node
  | [] => []
  | node :: rest => node.relocate move :: relocateAll move rest

end

@[simp] theorem relocateAll_eq_map (move : Option Int → Option Int) (nodes : List Node) :
    relocateAll move nodes = nodes.map (relocate move) := by
  induction nodes with
  | nil => rfl
  | cons node rest ih => rw [relocateAll, ih, List.map_cons]

@[simp] theorem relocate_literal (move : Option Int → Option Int) (value : Value) (line : Option Int) :
    (literal value line).relocate move = literal value (move line) := by rw [relocate]

@[simp] theorem relocate_reference (move : Option Int → Option Int) (name : Text) (line : Option Int) :
    (reference name line).relocate move = reference name (move line) := by rw [relocate]

@[simp] theorem relocate_insert (move : Option Int → Option Int) (arguments : List Node) (line : Option Int) :
    (insert arguments line).relocate move = insert (arguments.map (relocate move)) (move line) := by
  rw [relocate, relocateAll_eq_map]

@[simp] theorem relocate_newline (move : Option Int → Option Int) (line : Option Int) :
    (newline line).relocate move = newline (move line) := by rw [relocate]

@[simp] theorem relocate_loop (move : Option Int → Option Int) (counter : Text) (count : Node) (body : List Node)
    (line : Option Int) :
    (loop counter count body line).relocate move =
      loop counter (count.relocate move) (body.map (relocate move)) (move line) := by
  rw [relocate, relocateAll_eq_map]

@[simp] theorem relocate_call (move : Option Int → Option Int) (function : Text) (arguments : List Node)
    (line : Option Int) :
    (call function arguments line).relocate move = call function (arguments.map (relocate move)) (move line) := by
  rw [relocate, relocateAll_eq_map]

mutual

theorem relocate_relocate (first second : Option Int → Option Int) (node : Node) :
    (node.relocate first).relocate second = node.relocate (second ∘ first) := by
  cases node with
  | literal | reference | newline => rfl
  | insert arguments | call _ arguments => simp only [relocate, relocateAll_relocateAll first second arguments]; rfl
  | loop _ count body =>
    simp only [relocate, relocate_relocate first second count, relocateAll_relocateAll first second body]; rfl

theorem relocateAll_relocateAll (first second : Option Int → Option Int) (nodes : List Node) :
    relocateAll second (relocateAll first nodes) = relocateAll (second ∘ first) nodes := by
  cases nodes with
  | nil => rfl
  | cons node rest =>
    simp only [relocateAll, relocate_relocate first second node, relocateAll_relocateAll first second rest]

end

mutual

theorem relocate_id (node : Node) : node.relocate id = node := by
  cases node with
  | literal | reference | newline => rfl
  | insert arguments | call _ arguments => rw [relocate, relocateAll_id arguments]; rfl
  | loop _ count body => rw [relocate, relocate_id count, relocateAll_id body]; rfl

theorem relocateAll_id (nodes : List Node) : relocateAll id nodes = nodes := by
  cases nodes with
  | nil => rfl
  | cons node rest => rw [relocateAll, relocate_id node, relocateAll_id rest]

end

end Node

namespace Failure

def relocate (move : Option Int → Option Int) : Failure → Failure
  | fault f => fault { f with line := move f.line }
  | misplacedForm node => misplacedForm (node.relocate move)
  | misplacedExpression node => misplacedExpression (node.relocate move)
  | failure => failure

@[simp] theorem relocate_onLine (move : Option Int → Option Int) (fault : Fault) (line : Option Int) :
    (onLine fault line).relocate move = onLine fault (move line) := by
  unfold onLine
  split <;> rfl

end Failure

/-- A word is refused for its number of digits only, wherever it stands. -/
theorem Lexeme.relabel_ofWord (move : Option Int → Option Int) (word : Text) :
    relabel (Failure.relocate move) id (ofWord word) = ofWord word := by
  unfold ofWord
  split
  · rfl
  · dsimp only
    split <;> rfl

namespace Token

def relocate (move : Int → Int) (token : Token) : Token := { token with line := move token.line }

end Token

namespace Lexer

/-- A point in the pass over characters that are further down. -/
def shift (distance : Int) (lexer : Lexer) : Lexer where
  mode := match lexer.mode with
    | .string start chars => .string (start + distance) chars
    | .escape start chars => .escape (start + distance) chars
    | mode => mode
  line := lexer.line + distance
  tokens := lexer.tokens.map (Token.relocate (· + distance))

theorem lineAfter_add (line distance : Int) (c : Char) :
    lineAfter (line + distance) c = lineAfter line c + distance := by
  unfold lineAfter
  split <;> omega

theorem begin_shift (distance : Int) (lexer : Lexer) (c : Char) :
    (lexer.shift distance).begin c = (lexer.begin c).shift distance := by
  unfold begin
  split_ifs
  · simp only [shift, lineAfter_add]
  all_goals rfl

theorem step_shift (distance : Int) (lexer : Lexer) (c : Char) :
    (lexer.shift distance).step c =
      relabel (Failure.relocate (moveLine distance)) (shift distance) (lexer.step c) := by
  obtain ⟨mode, line, tokens⟩ := lexer
  cases mode with
  | between => exact congrArg Except.ok (begin_shift distance _ c)
  | comment =>
    simp only [step, shift]
    split
    · exact congrArg Except.ok (begin_shift distance ⟨.comment, line, tokens⟩ c)
    · rfl
  | word chars =>
    simp only [step, shift]
    split
    · conv_lhs => rw [← Lexeme.relabel_ofWord (moveLine distance)]
      refine relabel_bind _ _ fun lexeme => ?_
      exact congrArg Except.ok (begin_shift distance (emit ⟨.word chars, line, tokens⟩ lexeme line) c)
    · rfl
  | string start chars =>
    simp only [step, shift]
    split_ifs
    · rfl
    · rfl
    · simp only [lineAfter_add]; rfl
  | escape start chars => simp only [step, shift, lineAfter_add]; rfl

theorem finish_shift (distance : Int) (lexer : Lexer) :
    (lexer.shift distance).finish =
      relabel (Failure.relocate (moveLine distance)) (List.map (Token.relocate (· + distance))) lexer.finish := by
  obtain ⟨mode, line, tokens⟩ := lexer
  cases mode with
  | between | comment => simp only [finish, shift, ← List.map_reverse]; rfl
  | word chars =>
    simp only [finish, shift]
    conv_lhs => rw [← Lexeme.relabel_ofWord (moveLine distance)]
    refine relabel_bind _ _ fun lexeme => ?_
    refine congrArg Except.ok (Eq.symm ?_)
    exact List.map_reverse (f := Token.relocate (· + distance)) (l := ⟨lexeme, line⟩ :: tokens)
  | string start chars | escape start chars => rfl

end Lexer

/-- The tokens of a text that starts further down. -/
theorem Token.scan_add (text : Text) (line distance : Int) :
    Token.scan text (line + distance) =
      relabel (Failure.relocate (moveLine distance)) (List.map (Token.relocate (· + distance)))
        (Token.scan text line) := by
  have pass := foldlM_relabel (fun lexer (c : Char) => Lexer.step_shift distance lexer c) text ⟨.between, line, []⟩
  rw [List.map_id'] at pass
  have := relabel_bind _ (text.foldlM Lexer.step ⟨.between, line, []⟩) (Lexer.finish_shift distance)
  rw [← pass] at this
  exact this

namespace Datum

mutual

def relocate (move : Int → Int) : Datum → Datum
  | atom a line => atom a (move line)
  | list items line => list (relocateAll move items) (move line)

def relocateAll (move : Int → Int) : List Datum → List Datum
  | [] => []
  | datum :: rest => datum.relocate move :: relocateAll move rest

end

@[simp] theorem relocateAll_eq_map (move : Int → Int) (data : List Datum) :
    relocateAll move data = data.map (relocate move) := by
  induction data with
  | nil => rfl
  | cons datum rest ih => rw [relocateAll, ih, List.map_cons]

@[simp] theorem symbol?_relocate (move : Int → Int) (datum : Datum) :
    (datum.relocate move).symbol? = datum.symbol? := by
  cases datum with
  | atom a line => cases a <;> rfl
  | list items line => rfl

end Datum

namespace Nesting

/-- Open lists and data on other lines. -/
def relocate (move : Int → Int) (nesting : Nesting) : Nesting where
  data := nesting.data.map (Datum.relocate move)
  pending := nesting.pending.map fun inner => ⟨move inner.line, inner.items.map (Datum.relocate move)⟩

theorem add_relocate (move : Int → Int) (nesting : Nesting) (datum : Datum) :
    (nesting.relocate move).add (datum.relocate move) = (nesting.add datum).relocate move := by
  obtain ⟨data, pending⟩ := nesting
  cases pending <;> rfl

theorem step_relocate (move : Int → Int) (nesting : Nesting) (token : Token) :
    (nesting.relocate move).step (token.relocate move) =
      relabel (Failure.relocate (Option.map move)) (relocate move) (nesting.step token) := by
  obtain ⟨data, pending⟩ := nesting
  obtain ⟨lexeme, line⟩ := token
  cases lexeme with
  | opening => rfl
  | closing =>
    cases pending with
    | nil => rfl
    | cons inner outer =>
      have list : Datum.list (inner.items.map (Datum.relocate move)).reverse (move inner.line) =
          (Datum.list inner.items.reverse inner.line).relocate move := by
        rw [Datum.relocate, Datum.relocateAll_eq_map, List.map_reverse]
      exact congrArg Except.ok ((congrArg _ list).trans (add_relocate move ⟨data, outer⟩ _))
  | string chars => exact congrArg Except.ok (add_relocate move ⟨data, pending⟩ (.atom (.string chars) line))
  | integer n => exact congrArg Except.ok (add_relocate move ⟨data, pending⟩ (.atom (.integer n) line))
  | symbol name => exact congrArg Except.ok (add_relocate move ⟨data, pending⟩ (.atom (.symbol name) line))

theorem finish_relocate (move : Int → Int) (nesting : Nesting) :
    (nesting.relocate move).finish =
      relabel (Failure.relocate (Option.map move)) (List.map (Datum.relocate move)) nesting.finish := by
  obtain ⟨data, pending⟩ := nesting
  cases pending with
  | nil => exact congrArg Except.ok List.map_reverse.symm
  | cons inner outer => rfl

end Nesting

/-- Data are the same for tokens on other lines. -/
theorem Datum.ofTokens_relocate (move : Int → Int) (tokens : List Token) :
    Datum.ofTokens (tokens.map (Token.relocate move)) =
      relabel (Failure.relocate (Option.map move)) (List.map (Datum.relocate move)) (Datum.ofTokens tokens) := by
  rw [Datum.ofTokens, Datum.ofTokens, show (⟨[], []⟩ : Nesting) = Nesting.relocate move ⟨[], []⟩ from rfl,
    foldlM_relabel (Nesting.step_relocate move) tokens]
  exact relabel_bind _ _ (Nesting.finish_relocate move)

/-- The data of a text that starts further down. -/
theorem Datum.read_add (text : Text) (line distance : Int) :
    Datum.read text (line + distance) =
      relabel (Failure.relocate (moveLine distance)) (List.map (Datum.relocate (· + distance)))
        (Datum.read text line) := by
  rw [Datum.read, Token.scan_add]
  exact relabel_bind _ _ fun tokens => Datum.ofTokens_relocate (· + distance) tokens

namespace Header

@[simp] theorem argument?_relocate (move : Int → Int) (datum : Datum) :
    argument? (datum.relocate move) = argument? datum := by
  cases datum <;> rfl

/-- What a header says does not depend on the lines of its data. -/
theorem ofData_relocate (kind : Kind) (data : List Datum) (move : Int → Int) :
    ofData kind (data.map (Datum.relocate move)) = ofData kind data := by
  have symbols (items : List Datum) :
      (items.map (Datum.relocate move)).mapM Datum.symbol? = items.mapM Datum.symbol? := by
    simp only [List.mapM_map, Function.comp_def, Datum.symbol?_relocate]
  have arguments (items : List Datum) :
      (items.map (Datum.relocate move)).mapM argument? = items.mapM argument? := by
    simp only [List.mapM_map, Function.comp_def, argument?_relocate]
  cases kind with
  | funcall =>
    rcases data with _ | ⟨⟨atom, line⟩ | _, rest⟩
    · rfl
    · cases atom with
      | symbol name => simp only [List.map_cons, Datum.relocate, ofData, arguments]
      | integer | string => rfl
    · rfl
  | defun | formatLines =>
    rcases data with _ | ⟨⟨atom, line⟩ | _, _ | ⟨⟨second, _⟩ | ⟨items, _⟩, _ | _⟩⟩
    all_goals try cases atom
    all_goals try cases second
    all_goals simp only [List.map_cons, List.map_nil, Datum.relocate, Datum.relocateAll_eq_map, ofData, symbols]
  | block | lines | message =>
    rcases data with _ | ⟨⟨atom, line⟩ | _, _ | _⟩
    all_goals try cases atom
    all_goals rfl

/-- A header says the same wherever it stands. -/
theorem read_add (kind : Kind) (text : Text) (line distance : Int) :
    read kind text (line + distance) =
      relabel (Failure.relocate (moveLine distance)) id (read kind text line) := by
  rw [read, Datum.read_add]
  refine relabel_bind _ _ fun data => ?_
  rw [ofData_relocate]
  cases ofData kind data <;> rfl

/-- A header that can be read on some line can be read on every line. -/
theorem read_anywhere {kind : Kind} {text : Text} {line : Int} {header : Header}
    (success : read kind text line = .ok header) (other : Int) : read kind text other = .ok header := by
  have moved := read_add kind text line (other - line)
  rw [success, show line + (other - line) = other by omega] at moved
  exact moved

theorem kind_of_ofData {kind : Kind} {data : List Datum} {header : Header}
    (success : ofData kind data = .ok header) : header.kind = kind := by
  cases kind with
  | defun | funcall | formatLines =>
    simp only [ofData] at success
    split at success
    · split at success <;> grind [Header.kind]
    · cases success
  | block | lines | message =>
    simp only [ofData] at success
    split at success
    · cases success
      rfl
    · cases success

/-- A header that is read belongs to the kind it is read for. -/
theorem kind_of_read {kind : Kind} {text : Text} {line : Int} {header : Header}
    (success : read kind text line = .ok header) : header.kind = kind := by
  obtain ⟨data, _, made⟩ := bind_eq_ok success
  cases header' : ofData kind data with
  | error reason =>
    rw [header'] at made
    cases made
  | ok other =>
    rw [header'] at made
    cases made
    exact kind_of_ofData header'

end Header

namespace Node

theorem ofArgument_relocate (move : Int → Int) (datum : Datum) :
    ofArgument (datum.relocate move) =
      relabel (Failure.relocate (Option.map move)) (relocate (Option.map move)) (ofArgument datum) := by
  cases datum with
  | atom atom line => cases atom <;> rfl
  | list items line => rfl

theorem mapM_ofArgument_relocate (move : Int → Int) (data : List Datum) :
    (data.map (Datum.relocate move)).mapM ofArgument =
      relabel (Failure.relocate (Option.map move)) (List.map (relocate (Option.map move)))
        (data.mapM ofArgument) :=
  mapM_relabel data fun datum _ => ofArgument_relocate move datum

mutual

/-- A form is the same on other lines, and so is what is wrong with it. -/
theorem ofDatum_relocate (move : Int → Int) (datum : Datum) :
    ofDatum (datum.relocate move) =
      relabel (Failure.relocate (Option.map move)) (relocate (Option.map move)) (ofDatum datum) := by
  match datum with
  | .atom found line => rw [Datum.relocate, ofDatum, ofDatum, relabel, Failure.relocate_onLine]; rfl
  | .list [] line => rw [Datum.relocate, Datum.relocateAll, ofDatum, ofDatum]; rfl
  | .list (head :: rest) line =>
    rw [Datum.relocate, Datum.relocateAll, Datum.relocateAll_eq_map, ofDatum.eq_def, ofDatum.eq_def]
    dsimp only
    rw [Datum.symbol?_relocate]
    cases head.symbol? with
    | none => rfl
    | some name =>
      dsimp only
      rw [List.isEmpty_map]
      split_ifs with isInsert noArguments isNewline noArguments isLoop isCall
      · rfl
      · rw [mapM_ofArgument_relocate]
        refine relabel_bind _ _ fun arguments => ?_
        exact congrArg Except.ok (relocate_insert (Option.map move) arguments (some line)).symm
      · rfl
      · rfl
      · rcases rest with _ | ⟨_ | ⟨_ | ⟨counter, _ | ⟨count, _ | _⟩⟩, _⟩, body⟩
        case cons.list.cons.cons.nil =>
          simp only [List.map_cons, Datum.relocate, Datum.relocateAll, Datum.symbol?_relocate]
          cases counter.symbol? with
          | none => rfl
          | some counter =>
            dsimp only
            rw [ofData_relocate move body, ofArgument_relocate]
            refine relabel_bind _ _ fun body => ?_
            refine relabel_bind _ _ fun count => ?_
            exact congrArg Except.ok (relocate_loop (Option.map move) counter count body (some line)).symm
        all_goals simp only [List.map_cons, List.map_nil, Datum.relocate, Datum.relocateAll]; rfl
      · rcases rest with _ | ⟨⟨_ | _ | function, _⟩ | _, arguments⟩
        case cons.atom.symbol =>
          simp only [List.map_cons, Datum.relocate]
          rw [mapM_ofArgument_relocate]
          refine relabel_bind _ _ fun arguments => ?_
          exact congrArg Except.ok (relocate_call (Option.map move) function arguments (some line)).symm
        all_goals simp only [List.map_cons, List.map_nil, Datum.relocate]; rfl
      · rfl

theorem ofData_relocate (move : Int → Int) (data : List Datum) :
    ofData (data.map (Datum.relocate move)) =
      relabel (Failure.relocate (Option.map move)) (List.map (relocate (Option.map move))) (ofData data) := by
  match data with
  | [] => rw [List.map_nil, ofData]; rfl
  | datum :: rest =>
    rw [List.map_cons, ofData, ofData, ofDatum_relocate move datum, ofData_relocate move rest]
    refine relabel_bind _ _ fun form => ?_
    exact relabel_bind (List.map (relocate (Option.map move))) _ fun forms => rfl

end

/-- The forms of a body that starts further down. -/
theorem readBody_add (text : Text) (line distance : Int) :
    readBody text (line + distance) =
      relabel (Failure.relocate (moveLine distance)) (List.map (relocate (moveLine distance)))
        (readBody text line) := by
  rw [readBody, Datum.read_add]
  exact relabel_bind _ _ (ofData_relocate (· + distance))

end Node

end Regen
