import Regen.Proofs.Culprits
import Regen.Proofs.Definitions
import Regen.Proofs.LineNumbers

/-! # Where faults are reported

Every fault of an expansion carries the file that was given and a line of the text. While a text is scanned, the line is
that of a marker. Once its directives are known, the line lies between the markers of one of them, and this one is to
blame: it defines a function that cannot be read, it generates output and fails itself, or it is the definition in
force of the function in whose body a run came to a part that fails.
-/

namespace Regen

open Text Directive

/-- A line is known and lies between two others. -/
def LineWithin (first last : Nat) (line : Option Int) : Prop :=
  ∃ number : Nat, line = some (number : Int) ∧ first ≤ number ∧ number ≤ last

/-- A fault on one of the lines from `first` to `last`, still without a file. Other failures have no line. -/
def Failure.Between (first last : Nat) (failure : Failure) : Prop :=
  ∀ fault, failure = .fault fault → fault.file = none ∧ LineWithin first last fault.line

namespace Failure

variable {first last : Nat}

theorem between_onLine (fault : Fault) {line : Option Int} (within : LineWithin first last line) :
    (onLine fault line).Between first last := by
  intro located same
  rw [eq_of_onLine same]
  exact ⟨rfl, within⟩

theorem Between.mono {start stop : Nat} {failure : Failure} (between : failure.Between first last)
    (earlier : start ≤ first) (later : last ≤ stop) : failure.Between start stop := by
  intro fault isFault
  obtain ⟨noFile, line, onLine, after, before⟩ := between fault isFault
  exact ⟨noFile, line, onLine, earlier.trans after, before.trans later⟩

/-- What is wrong with tokens on some lines is reported there. -/
theorem OnToken.between {tokens : List Token} {failure : Failure} (onToken : failure.OnToken tokens)
    (within : ∀ token ∈ tokens, LineWithin first last (some token.line)) : failure.Between first last := by
  obtain ⟨token, member, fault, rfl⟩ := onToken
  exact between_onLine fault (within token member)

end Failure

/-! ## Reading -/

/-- The line behind the first part of a text is one of its lines. -/
theorem lineWithin_of_isPrefix {before text : Text} (isBefore : before <+: text) (line : Nat) :
    LineWithin line (line + text.count '\n') (some ((line : Int) + before.count '\n')) := by
  have fewer := isBefore.sublist.count_le '\n'
  exact ⟨line + before.count '\n', by simp, by omega, by omega⟩

/-- Tokens stand on the lines of their text, and so does a string without an end. -/
theorem Token.scan_between (text : Text) (line : Nat) :
    Ends (Failure.Between line (line + text.count '\n'))
      (fun tokens => ∀ token ∈ tokens, LineWithin line (line + text.count '\n') (some token.line))
      (Token.scan text line) := by
  refine (Token.scan_lexes text line).imp ?_ ?_
  · intro failure onLineOf fault isFault
    obtain ⟨noFile, before, isBefore, onLine⟩ := onLineOf fault isFault
    rw [onLine]
    exact ⟨noFile, lineWithin_of_isPrefix isBefore line⟩
  · rintro tokens ⟨spots, lexes, rfl⟩ token member
    obtain ⟨spot, inSpots, rfl⟩ := List.mem_map.mp member
    obtain ⟨c, tail, split, _⟩ := lexes.start_at spot inSpots
    exact lineWithin_of_isPrefix ⟨c :: tail, split.symm⟩ line

/-- A header without line feeds fails on its line. -/
theorem Header.read_between (kind : Kind) {text : Text} (noFeed : '\n' ∉ text) (line : Nat) :
    Ends (Failure.Between line line) (fun _ => True) (Header.read kind text line) := by
  have scans := Token.scan_between text line
  rw [List.count_eq_zero_of_not_mem noFeed, Nat.add_zero] at scans
  have data : Ends (Failure.Between line line) (fun _ => True) (Datum.read text line) := by
    refine scans.bind fun tokens within => ?_
    exact (Datum.ofTokens_essence tokens).imp (fun _ onToken => onToken.between within) fun _ _ => trivial
  refine data.bind fun data _ => ?_
  split
  · trivial
  · exact Failure.between_onLine _ ⟨line, rfl, Nat.le_refl line, Nat.le_refl line⟩

/-- The parts of a body stand on the lines of its text, and what is wrong with it is reported there. -/
theorem Node.readBody_between (text : Text) (line : Nat) :
    Ends (Failure.Between line (line + text.count '\n'))
      (fun nodes => ∀ part ∈ partsAll nodes, LineWithin line (line + text.count '\n') part.line)
      (readBody text line) := by
  rw [readBody_eq]
  refine (Token.scan_between text line).bind fun tokens within => ?_
  refine (ofTokens_parts tokens).imp (fun _ onToken => onToken.between within) fun nodes start part inside => ?_
  obtain ⟨token, member, begins⟩ := start part inside
  rw [begins.onLine]
  exact within token member

/-! ## Scanning -/

theorem Line.Proper.not_mem_content {line : Line} (proper : line.Proper) : '\n' ∉ line.content := by
  unfold content
  split
  · exact proper.feed_not_mem_body
  · next notPlain =>
    rw [text, List.mem_append, not_or]
    refine ⟨proper.feed_not_mem_body, fun member => notPlain ?_⟩
    rcases proper.ending with missing | pair | ⟨c, _, single⟩
    · simp [endsPlainly, missing]
    · simp [endsPlainly, pair]
    · rw [single] at member
      simp [endsPlainly, single, ← List.mem_singleton.mp member]

namespace Directive

/-- An open marker fails on its own line. -/
theorem opened_between {line : Line} (proper : line.Proper) {before name after : Text}
    (marked : line.marker = .opens before name after) (number start : Nat) :
    Ends (Failure.Between number number) (fun pending => pending.line = number)
      (opened number start line before name after) := by
  unfold opened
  cases Kind.ofName? name with
  | none => exact Failure.between_onLine _ ⟨number, rfl, Nat.le_refl number, Nat.le_refl number⟩
  | some kind =>
    have noFeed : '\n' ∉ dropCloser after.trim := fun member =>
      proper.not_mem_content ((header_isInfix_content marked).subset member)
    exact (Header.read_between kind noFeed number).bind fun header _ => rfl

/-- Scanning lines fails on one of them, or on the line of the directive that is still open. -/
theorem ofLines_between {number : Nat} (start : Nat) {state : Option Opened} {lines : List Line}
    (proper : ∀ line ∈ lines, line.Proper) (positive : 1 ≤ number)
    (earlier : ∀ pending ∈ state, 1 ≤ pending.line ∧ pending.line < number) :
    Ends (Failure.Between 1 (number + lines.length - 1)) (fun _ => True) (ofLines number start state lines) := by
  induction lines generalizing number start state with
  | nil =>
    cases state with
    | none => trivial
    | some pending =>
      obtain ⟨after, before⟩ := earlier pending rfl
      exact Failure.between_onLine _ ⟨pending.line, rfl, after, by simp only [List.length_nil]; omega⟩
  | cons line rest ih =>
    obtain ⟨isProper, others⟩ := List.forall_mem_cons.mp proper
    have last : number + 1 + rest.length - 1 = number + (line :: rest).length - 1 := by
      rw [List.length_cons]
      omega
    have inside : number ≤ number + (line :: rest).length - 1 := by omega
    have here (fault : Fault) : (Failure.onLine fault (some number)).Between 1 (number + (line :: rest).length - 1) :=
      Failure.between_onLine fault ⟨number, rfl, positive, inside⟩
    have later {state : Option Opened} (earlier : ∀ pending ∈ state, 1 ≤ pending.line ∧ pending.line < number + 1) :
        Ends (Failure.Between 1 (number + (line :: rest).length - 1)) (fun _ => True)
          (ofLines (number + 1) (start + line.text.length) state rest) :=
      last ▸ ih (start + line.text.length) others (by omega) earlier
    have noneOpen : ∀ pending ∈ (none : Option Opened), 1 ≤ pending.line ∧ pending.line < number + 1 :=
      fun _ isOpen => by cases isOpen
    rw [ofLines_cons]
    cases marked : line.marker with
    | opens before name after =>
      cases state with
      | some pending => exact here _
      | none =>
        have opens := (opened_between isProper marked number start).imp
          (fun failure between => between.mono positive inside) fun _ => id
        refine opens.bind fun pending onLine => later ?_
        rintro _ ⟨⟩
        omega
    | closes =>
      cases state with
      | some pending => exact (later noneOpen).bind fun more _ => trivial
      | none => exact here _
    | plain =>
      cases state with
      | none => exact later noneOpen
      | some pending =>
        obtain ⟨after, before⟩ := earlier pending rfl
        refine later ?_
        rintro _ ⟨⟩
        exact ⟨after, Nat.lt_succ_of_lt before⟩

theorem scan_between (text : Text) :
    Ends (Failure.Between 1 text.lines.length) (fun _ => True) (scan text) := by
  have noneOpen : ∀ pending ∈ (none : Option Opened), 1 ≤ pending.line ∧ pending.line < 1 :=
    fun _ isOpen => by cases isOpen
  have between := ofLines_between 0 (lines_sequence text).proper (Nat.le_refl 1) noneOpen
  rwa [Nat.add_sub_cancel_left] at between

/-! ## The lines of a definition -/

theorem count_intercalate_le {pieces : List Text} (noFeed : ∀ piece ∈ pieces, '\n' ∉ piece) :
    (['\n'].intercalate pieces).count '\n' ≤ pieces.length := by
  induction pieces with
  | nil => simp
  | cons piece rest ih =>
    obtain ⟨own, others⟩ := List.forall_mem_cons.mp noFeed
    have none := List.count_eq_zero_of_not_mem own
    cases rest with
    | nil => simp [none]
    | cons next rest =>
      have fewer := ih others
      rw [List.intercalate_cons_cons, List.count_append, List.count_append, none, List.length_cons]
      simp only [List.count_singleton_self]
      omega

/-- The source of a function has no more line feeds than its body has lines. -/
theorem count_source_le (directive : Directive) : directive.source.count '\n' ≤ directive.body.lines.length := by
  have proper : ∀ line ∈ directive.body.lines, line.Proper := (lines_sequence _).proper
  unfold source
  split
  · have most := (Line.count_unlines_eq_iff proper).1
    rwa [unlines_lines] at most
  · have noFeed : ∀ piece ∈ directive.body.lineBodies.map (uncomment directive.leader), '\n' ∉ piece := by
      intro piece member feed
      obtain ⟨body, inBodies, rfl⟩ := List.mem_map.mp member
      obtain ⟨line, inLines, rfl⟩ := List.mem_map.mp inBodies
      exact (proper line inLines).feed_not_mem_body ((uncomment_suffix ..).subset feed)
    simpa [lineBodies] using count_intercalate_le noFeed

variable {text : Text} {directive : Directive}

/-- The lines of a directive are lines of the text. -/
theorem Numbered.bounds (numbered : directive.Numbered text) :
    1 ≤ directive.line ∧ directive.line ≤ directive.closeLine ∧ directive.closeLine ≤ text.lines.length ∧
      directive.bodyLine + directive.source.count '\n' ≤ directive.closeLine := by
  obtain ⟨before, inside, after, opening, closing, lines, body, line, closeLine, _⟩ := numbered
  have feeds := directive.count_source_le
  rw [body] at feeds
  rw [bodyLine, lines]
  simp only [List.length_append, List.length_cons]
  omega

/-- The definition in force of a function: the last directive that defines the name, with its body read. -/
structure Defines (directives : List Directive) (directive : Directive) (name : Text) (function : Function) : Prop where
  last : ∃ before after, directives = before ++ directive :: after ∧
    ∀ later ∈ after, ∀ parameters, later.header ≠ .defun name parameters
  header : directive.header = .defun name function.parameters
  body : Node.readBody directive.source directive.bodyLine = .ok function.body

theorem Defines.mem {directives : List Directive} {name : Text} {function : Function}
    (defines : Defines directives directive name function) : directive ∈ directives := by
  obtain ⟨before, after, rfl, _⟩ := defines.last
  simp

end Directive

namespace Expansion

variable {file : Option Text} {limits : Limits} {directives : List Directive}

theorem atDirective_eq_error {α : Type} {directive : Directive} {result : Except Failure α} {fault : Located Fault}
    (failed : atDirective file directive result = .error (.fault fault)) :
    ∃ own, result = .error (.fault own) ∧ fault = own.locate (some directive.line) file := by
  cases result with
  | ok a => cases failed
  | error failure =>
    cases failure with
    | fault own => exact ⟨own, rfl, (Failure.fault.inj (Except.error.inj failed)).symm⟩
    | _ => cases failed

/-- Every function that is gathered has a definition in force. -/
theorem defines_of_gather {gathered : Gathered} (success : gather file directives = .ok gathered) {name : Text}
    {function : Function} (found : gathered.program.functions.find? name = some function) :
    ∃ directive, Defines directives directive name function := by
  rw [(find?_gather success name).1] at found
  obtain ⟨definition, isLatest, defined⟩ := Option.bind_eq_some_iff.mp found
  obtain ⟨sets, before, after, rfl, others⟩ := latest_eq_some_iff.mp isLatest
  obtain ⟨parameters, header⟩ := slot?_eq_function_iff.mp sets
  unfold function? at defined
  rw [header] at defined
  cases isRead : Node.readBody definition.source definition.bodyLine with
  | error failure =>
    rw [isRead] at defined
    cases defined
  | ok body =>
    rw [isRead] at defined
    cases defined
    refine ⟨definition, ⟨before, after, rfl, fun later member parameters same => ?_⟩, header, isRead⟩
    exact others later member (slot?_eq_function_iff.mpr ⟨parameters, same⟩)

/-- Gathering fails on a definition that cannot be read. -/
theorem gather_eq_fault {fault : Located Fault} (failed : gather file directives = .error (.fault fault)) :
    ∃ directive ∈ directives, ∃ name parameters own, directive.header = .defun name parameters ∧
      Node.readBody directive.source directive.bodyLine = .error (.fault own) ∧
      fault = own.locate (some directive.line) file := by
  obtain ⟨directive, member, gathered, failed⟩ := foldlM_eq_error failed
  obtain ⟨own, failed, located⟩ := atDirective_eq_error failed
  refine ⟨directive, member, ?_⟩
  unfold Gathered.add at failed
  split at failed
  · next name parameters header =>
    cases isRead : Node.readBody directive.source directive.bodyLine with
    | ok body =>
      rw [isRead] at failed
      cases failed
    | error failure =>
      rw [isRead] at failed
      cases failed
      exact ⟨name, parameters, own, header, rfl, located⟩
  · cases failed
  · cases failed
  · cases failed

/-- The call of a directive comes to a part that fails. -/
def Raises (program : Program) (limits : Limits) (directive : Directive) (culprit : Culprit) : Prop :=
  ∃ name arguments, directive.header = .funcall name arguments ∧
    program.Raises limits none (limits.stack + 3) [] (Program.outerCall name arguments (some directive.line))
      (.start (.start directive.indent directive.newline)) culprit

theorem Raises.exists_function {program : Program} {directive : Directive} {culprit : Culprit}
    (raises : Raises program limits directive culprit) (inFunction : culprit.function ≠ none) :
    ∃ name function, culprit.function = some name ∧ program.functions.find? name = some function ∧
      culprit.part ∈ Node.partsAll function.body := by
  obtain ⟨_, _, _, raises⟩ := raises
  rcases raises.part_mem with ⟨outside, _⟩ | called
  · exact absurd outside inFunction
  · exact called

/-- Why a directive is to blame for a fault on a line. -/
inductive Blames (file : Option Text) (limits : Limits) (directives : List Directive) :
    Directive → Fault → Nat → Prop
  /-- It defines a function that cannot be read. -/
  | unreadable {directive : Directive} {name : Text} {parameters : List Text} {fault : Fault} {line : Nat}
      (header : directive.header = .defun name parameters)
      (unread : Node.readBody directive.source directive.bodyLine = .error (.fault ⟨fault, some (line : Int), none⟩)) :
      Blames file limits directives directive fault line
  /-- It formats lines that are not there. -/
  | collection {directive : Directive} {gathered : Gathered} {name template : Text}
      (gathers : gather file directives = .ok gathered) (header : directive.header = .formatLines name template)
      (missing : gathered.program.collections.find? name = none) :
      Blames file limits directives directive (.undefinedCollection name) directive.line
  /-- It generates a marker. -/
  | marker {directive : Directive} {gathered : Gathered} {text : Text}
      (gathers : gather file directives = .ok gathered)
      (generated : generate gathered.program limits directive = .ok text)
      (marked : (openToken.occursIn text || closeToken.occursIn text) = true) :
      Blames file limits directives directive .markerInOutput directive.line
  /-- Its call is refused. -/
  | call {directive : Directive} {gathered : Gathered} {culprit : Culprit}
      (gathers : gather file directives = .ok gathered) (raises : Raises gathered.program limits directive culprit)
      (outside : culprit.function = none) : Blames file limits directives directive culprit.fault directive.line
  /-- It is the definition in force of the function that was running below the call of a directive. -/
  | callee {directive caller : Directive} {gathered : Gathered} {culprit : Culprit} {name : Text} {function : Function}
      {line : Nat} (gathers : gather file directives = .ok gathered) (member : caller ∈ directives)
      (raises : Raises gathered.program limits caller culprit) (inside : culprit.function = some name)
      (defines : Defines directives directive name function) (part : culprit.part ∈ Node.partsAll function.body)
      (onLine : culprit.part.line = some (line : Int)) : Blames file limits directives directive culprit.fault line

/-- A region that cannot be generated fails on the line of its directive, unless its call fails inside a function. -/
theorem region_eq_fault {gathered : Gathered} (gathers : gather file directives = .ok gathered) {directive : Directive}
    {fault : Located Fault} (failed : region gathered.program limits directive = .error (.fault fault)) :
    (fault = ⟨fault.content, some directive.line, none⟩ ∧
        Blames file limits directives directive fault.content directive.line) ∨
      ∃ culprit, Raises gathered.program limits directive culprit ∧ culprit.function ≠ none ∧
        fault = ⟨culprit.fault, culprit.part.line, none⟩ := by
  cases generated : generate gathered.program limits directive with
  | ok text =>
    rw [region, generated] at failed
    change (if _ then _ else _) = _ at failed
    split at failed
    · next marked =>
      obtain rfl := Failure.eq_of_onLine (Except.error.inj failed)
      exact .inl ⟨rfl, .marker gathers generated marked⟩
    · cases failed
  | error failure =>
    rw [region, generated] at failed
    obtain rfl := Except.error.inj failed
    unfold generate at generated
    split at generated
    · next name arguments header =>
      dsimp only at generated
      split at generated
      · cases generated
      · next ran =>
        cases generated
        rw [Program.call_eq_runForm] at ran
        obtain ⟨culprit, raises, rfl⟩ := Program.raises_of_runForm none (congrArg Prod.fst ran)
        have isRaised : Raises gathered.program limits directive culprit := ⟨name, arguments, header, raises⟩
        cases isFunction : culprit.function with
        | none =>
          rcases raises.part_mem with ⟨_, inside⟩ | ⟨name, _, isSome, _⟩
          · have onLine := Program.line_of_mem_outerCall inside
            exact .inl ⟨by rw [onLine], .call gathers isRaised isFunction⟩
          · rw [isFunction] at isSome
            cases isSome
        | some name => exact .inr ⟨culprit, isRaised, by simp [isFunction], rfl⟩
    · next name template header =>
      split at generated
      · next missing =>
        obtain rfl := Failure.eq_of_onLine (Except.error.inj generated)
        exact .inl ⟨rfl, .collection gathers header missing⟩
      · split at generated <;> cases generated
    · cases generated

theorem regions_eq_fault {program : Program} {fault : Located Fault}
    (failed : regions file program limits directives = .error (.fault fault)) :
    ∃ directive ∈ directives, ∃ own, region program limits directive = .error (.fault own) ∧
      fault = own.locate (some directive.line) file := by
  obtain ⟨before, directive, after, split, _, failed⟩ := mapM_eq_error failed
  have member : directive ∈ outputs directives := by
    rw [split]
    simp
  exact ⟨directive, List.mem_of_mem_filter member, atDirective_eq_error failed⟩

/-- Once a text is scanned, a fault lies between the markers of the directive that is to blame for it. -/
theorem blames_of_expand {text : Text} (scanned : scan text = .ok directives) {fault : Located Fault}
    (failed : expand file limits text = .error (.fault fault)) :
    ∃ directive ∈ directives, ∃ line : Nat, fault = ⟨fault.content, some (line : Int), file⟩ ∧
      directive.line ≤ line ∧ line ≤ directive.closeLine ∧
      Blames file limits directives directive fault.content line := by
  have numbered := numbered_of_scan scanned
  rw [expand_of_scan scanned] at failed
  cases gathers : gather file directives with
  | error failure =>
    rw [gathers] at failed
    obtain rfl := Except.error.inj failed
    obtain ⟨directive, member, name, parameters, own, header, unread, rfl⟩ := gather_eq_fault gathers
    obtain ⟨_, _, _, most⟩ := (numbered directive member).bounds
    have between := Node.readBody_between directive.source directive.bodyLine
    rw [unread] at between
    obtain ⟨content, onLine, noFile⟩ := own
    obtain ⟨rfl, line, rfl, after, before⟩ := between _ rfl
    refine ⟨directive, member, line, rfl, ?_, before.trans most, .unreadable header unread⟩
    exact (Nat.le_succ _).trans after
  | ok gathered =>
    rw [gathers] at failed
    change (regions file gathered.program limits directives >>= _) = _ at failed
    cases made : regions file gathered.program limits directives with
    | ok pieces =>
      rw [made] at failed
      cases failed
    | error failure =>
      rw [made] at failed
      obtain rfl := Except.error.inj failed
      obtain ⟨directive, member, own, fails, rfl⟩ := regions_eq_fault made
      rcases region_eq_fault gathers fails with ⟨isOwn, blames⟩ | ⟨culprit, raises, inFunction, rfl⟩
      · obtain ⟨_, ordered, _, _⟩ := (numbered directive member).bounds
        rw [isOwn]
        exact ⟨directive, member, directive.line, rfl, Nat.le_refl _, ordered, blames⟩
      · obtain ⟨name, function, isFunction, found, inside⟩ := raises.exists_function inFunction
        obtain ⟨definition, defines⟩ := defines_of_gather gathers found
        obtain ⟨_, _, _, most⟩ := (numbered definition defines.mem).bounds
        have within := Node.readBody_between definition.source definition.bodyLine
        rw [defines.body] at within
        obtain ⟨line, onLine, after, before⟩ := within culprit.part inside
        refine ⟨definition, defines.mem, line, ?_, (Nat.le_succ _).trans after, before.trans most,
          .callee gathers member raises isFunction defines inside onLine⟩
        rw [onLine]
        rfl

/-- Every fault of an expansion is located: in the file that was given, on a line of the text, and once the text is
scanned, between the markers of the directive that is to blame for it. -/
theorem located_of_expand_eq_error {text : Text} {fault : Located Fault}
    (failed : expand file limits text = .error (.fault fault)) :
    fault.file = file ∧ ∃ line : Nat, fault.line = some (line : Int) ∧ 1 ≤ line ∧ line ≤ text.lines.length ∧
      ∀ directives, scan text = .ok directives → ∃ directive ∈ directives,
        directive.line ≤ line ∧ line ≤ directive.closeLine ∧
        Blames file limits directives directive fault.content line := by
  cases scanned : scan text with
  | error failure =>
    have between := scan_between text
    rw [scanned] at between
    rw [expand, scanned] at failed
    cases failure with
    | fault own =>
      obtain ⟨noFile, line, onLine, after, before⟩ := between own rfl
      obtain rfl := Failure.fault.inj (Except.error.inj failed)
      refine ⟨?_, line, ?_, after, before, fun _ success => by cases success⟩
      · simp [Located.locate, noFile]
      · simp [Located.locate, onLine]
    | _ => cases failed
  | ok directives =>
    obtain ⟨directive, member, line, located, after, before, blames⟩ := blames_of_expand scanned failed
    obtain ⟨first, _, last, _⟩ := (numbered_of_scan scanned directive member).bounds
    refine ⟨by rw [located], line, by rw [located], first.trans after, before.trans last, ?_⟩
    rintro _ ⟨⟩
    exact ⟨directive, member, after, before, blames⟩

/-- A function in comments that names a variable it does not have, called from the loop of another one. -/
def strayName : Text :=
  "// autoc:defun g (x)\r\n//  (insert x\r\n//    y)\r\n// autoc#\r\n// autoc:defun f ()\r\n".toList ++
    "// (dotimes (i 2) (funcall g i))\r\n// autoc#\r\n// autoc:funcall f\r\n// autoc#".toList

theorem located_strayName :
    ∃ fault, expand (some "a.c".toList) {} strayName = .error (.fault fault) ∧
      fault.content = .undefinedVariable "y".toList ∧ fault.file = some "a.c".toList ∧ fault.line = some 3 ∧
      3 ≤ strayName.lines.length ∧ ∀ directives, scan strayName = .ok directives → ∃ directive ∈ directives,
        directive.line ≤ 3 ∧ 3 ≤ directive.closeLine ∧
        Blames (some "a.c".toList) {} directives directive (.undefinedVariable "y".toList) 3 := by
  have fails : failsWith (fun fault => fault.content == .undefinedVariable "y".toList && fault.line == some 3)
      (expand (some "a.c".toList) {} strayName) = true := by decide +kernel
  obtain ⟨fault, failed, known⟩ := exists_of_failsWith fails
  rw [Bool.and_eq_true, beq_iff_eq, beq_iff_eq] at known
  obtain ⟨content, third⟩ := known
  obtain ⟨inFile, line, onLine, _, last, blamed⟩ := located_of_expand_eq_error failed
  obtain rfl : line = 3 := by
    rw [third] at onLine
    have same := Option.some.inj onLine
    omega
  rw [content] at blamed
  exact ⟨fault, failed, content, inFile, third, last, blamed⟩

end Expansion

end Regen
