import Regen.Proofs.Markers
import Regen.Proofs.Places

/-! # Documents in passages

The lines of a text that can be scanned fall into passages: plain lines, the open marker of a directive, the plain
lines inside it and its close marker. Plain lines come last. Scanning such a document gives the directives of
its passages, and every text that can be scanned is such a document.
-/

namespace Regen

open Text

/-- A line opens a directive with a header that can be read. -/
inductive Line.Opens (line : Line) : (header : Header) → (headerText leader : Text) → Prop
  | intro {before name after : Text} {header : Header} (marked : line.marker = .opens before name after)
      (named : Kind.ofName? name = some header.kind)
      (read : ∀ number : Int, Header.read header.kind (Directive.dropCloser after.trim) number = .ok header) :
      Opens line header (Directive.dropCloser after.trim) before.trim

/-- The lines of a directive with the plain lines before it. -/
structure Passage where
  before : List Line
  opening : Line
  header : Header
  headerText : Text
  leader : Text
  inside : List Line
  closing : Line
  before_plain : ∀ line ∈ before, line.marker = .plain
  opens : opening.Opens header headerText leader
  inside_plain : ∀ line ∈ inside, line.marker = .plain
  closes : closing.marker = .closes

namespace Passage

def lines (passage : Passage) : List Line :=
  passage.before ++ passage.opening :: (passage.inside ++ [passage.closing])

def text (passage : Passage) : Text := unlines passage.lines

/-- Whether the inside of a passage is regenerated. -/
def producesOutput (passage : Passage) : Bool := passage.header.kind.producesOutput

/-- The directive of a passage whose first line has the number and the offset given. -/
def directive (number start : Nat) (passage : Passage) : Directive :=
  let openStart := start + (unlines passage.before).length
  let bodyStart := openStart + passage.opening.text.length
  let closeStart := bodyStart + (unlines passage.inside).length
  { header := passage.header
    headerText := passage.headerText
    line := number + passage.before.length
    closeLine := number + passage.before.length + 1 + passage.inside.length
    openSpan := ⟨openStart, bodyStart⟩
    closeSpan := ⟨closeStart, closeStart + passage.closing.text.length⟩
    body := unlines passage.inside
    indent := passage.opening.indent
    leader := passage.leader
    newline := passage.opening.newline }

/-- The directives of passages of which the first line has the number and the offset given. -/
def directives (number start : Nat) : List Passage → List Directive
  | [] => []
  | passage :: rest =>
    passage.directive number start ::
      directives (number + passage.lines.length) (start + passage.text.length) rest

theorem text_eq (passage : Passage) :
    passage.text =
      unlines passage.before ++ passage.opening.text ++ unlines passage.inside ++ passage.closing.text := by
  simp [text, lines]

variable {number start : Nat}

@[simp] theorem directives_nil : directives number start [] = [] := rfl

@[simp] theorem directives_cons (passage : Passage) (rest : List Passage) :
    directives number start (passage :: rest) =
      passage.directive number start ::
        directives (number + passage.lines.length) (start + passage.text.length) rest := rfl

/-- A change to passages that keeps a relation of their directives, wherever these stand, keeps it throughout a list. -/
theorem forall₂_directives_map {change : Passage → Passage} {related : Directive → Directive → Prop}
    (each : ∀ (passage : Passage) (number start number' start' : Nat),
      related (passage.directive number start) ((change passage).directive number' start'))
    {passages : List Passage} {number' start' : Nat} :
    List.Forall₂ related (directives number start passages) (directives number' start' (passages.map change)) := by
  induction passages generalizing number start number' start' with
  | nil => exact .nil
  | cons passage rest ih => exact .cons (each passage ..) ih

/-- What holds of passages wherever they stand holds of their directives. -/
theorem forall_mem_directives_iff {passages : List Passage} {holds : Directive → Prop} {holdsOf : Passage → Prop}
    (agree : ∀ passage ∈ passages, ∀ number start, holds (passage.directive number start) ↔ holdsOf passage) :
    (∀ directive ∈ directives number start passages, holds directive) ↔ ∀ passage ∈ passages, holdsOf passage := by
  induction passages generalizing number start with
  | nil => exact ⟨fun _ _ member => (by cases member), fun _ _ member => (by cases member)⟩
  | cons passage rest ih =>
    rw [directives_cons, List.forall_mem_cons, List.forall_mem_cons, agree passage (List.mem_cons_self ..),
      ih fun other member => agree other (List.mem_cons_of_mem _ member)]

theorem exists_of_mem_directives {passages : List Passage} {found : Directive}
    (member : found ∈ directives number start passages) :
    ∃ first passage later, passages = first ++ passage :: later ∧
      found = passage.directive (number + (first.flatMap lines).length) (start + (first.flatMap text).length) := by
  induction passages generalizing number start with
  | nil => cases member
  | cons passage rest ih =>
    rcases List.mem_cons.mp member with rfl | member
    · exact ⟨[], passage, rest, rfl, rfl⟩
    · obtain ⟨first, other, later, rfl, rfl⟩ := ih member
      refine ⟨passage :: first, other, later, rfl, ?_⟩
      simp only [List.flatMap_cons, List.length_append, Nat.add_assoc]

end Passage

/-- Passages with plain lines after them. -/
structure Document where
  passages : List Passage
  after : List Line
  after_plain : ∀ line ∈ after, line.marker = .plain

namespace Document

def lines (document : Document) : List Line := document.passages.flatMap Passage.lines ++ document.after

def text (document : Document) : Text := unlines document.lines

def directives (document : Document) : List Directive := Passage.directives 1 0 document.passages

end Document

namespace Directive

variable {number start : Nat} {line : Line} {rest : List Line}

/-- One step of scanning, by the marker on the line and the directive that is open. -/
theorem ofLines_cons (state : Option Opened) :
    ofLines number start state (line :: rest) =
      match line.marker, state with
      | .opens _ _ _, some pending => .error (.onLine (.nestedDirective pending.line) (some number))
      | .opens before name after, none =>
        opened number start line before name after >>= fun pending =>
          ofLines (number + 1) (start + line.text.length) (some pending) rest
      | .closes, none => .error (.onLine .strayClose (some number))
      | .closes, some pending =>
        ofLines (number + 1) (start + line.text.length) none rest >>= fun more =>
          .ok (pending.close number start line :: more)
      | .plain, none => ofLines (number + 1) (start + line.text.length) none rest
      | .plain, some pending =>
        ofLines (number + 1) (start + line.text.length) (some { pending with body := line :: pending.body }) rest := by
  rw [ofLines.eq_def]
  cases state <;> rfl

/-- Plain lines outside of directives are passed over. -/
theorem ofLines_plain_append {plain : List Line} (isPlain : ∀ line ∈ plain, line.marker = .plain) :
    ofLines number start none (plain ++ rest) =
      ofLines (number + plain.length) (start + (unlines plain).length) none rest := by
  induction plain generalizing number start with
  | nil => rfl
  | cons line plain ih =>
    rw [List.cons_append, ofLines_cons, isPlain line (List.mem_cons_self ..)]
    dsimp only
    rw [ih fun other member => isPlain other (List.mem_cons_of_mem _ member)]
    simp only [unlines_cons, List.length_cons, List.length_append, Nat.add_assoc, Nat.add_comm 1]

/-- Plain lines inside of a directive are kept. -/
theorem ofLines_inside_append (pending : Opened) {inside : List Line}
    (isPlain : ∀ line ∈ inside, line.marker = .plain) :
    ofLines number start (some pending) (inside ++ rest) =
      ofLines (number + inside.length) (start + (unlines inside).length)
        (some { pending with body := inside.reverse ++ pending.body }) rest := by
  induction inside generalizing number start pending with
  | nil => rfl
  | cons line inside ih =>
    rw [List.cons_append, ofLines_cons, isPlain line (List.mem_cons_self ..)]
    dsimp only
    rw [ih _ fun other member => isPlain other (List.mem_cons_of_mem _ member)]
    simp only [unlines_cons, List.length_cons, List.length_append, Nat.add_assoc, Nat.add_comm 1,
      List.reverse_cons, List.append_assoc, List.singleton_append]

/-- The directive that an open marker line opens. -/
def Opened.ofLine (number start : Nat) (line : Line) (header : Header) (headerText leader : Text) : Opened where
  header := header
  headerText := headerText
  line := number
  span := ⟨start, start + line.text.length⟩
  indent := line.indent
  leader := leader
  newline := line.newline
  body := []

theorem opened_of_opens (number start : Nat) {header : Header} {headerText leader : Text}
    (opens : line.Opens header headerText leader) :
    ∃ before name after, line.marker = .opens before name after ∧
      opened number start line before name after = .ok (.ofLine number start line header headerText leader) := by
  cases opens with
  | @intro before name after header marked named read =>
    refine ⟨before, name, after, marked, ?_⟩
    simp only [opened, named, read]
    rfl

theorem opens_of_opened {before name after : Text} {pending : Opened}
    (marked : line.marker = .opens before name after)
    (success : opened number start line before name after = .ok pending) :
    ∃ header headerText leader, line.Opens header headerText leader ∧
      pending = .ofLine number start line header headerText leader := by
  unfold opened at success
  cases named : Kind.ofName? name with
  | none =>
    rw [named] at success
    cases success
  | some kind =>
    rw [named] at success
    obtain ⟨header, read, made⟩ := bind_eq_ok success
    cases made
    obtain rfl := Header.kind_of_read read
    exact ⟨header, _, _, .intro marked named (Header.read_anywhere read), rfl⟩

/-- Scanning a passage gives its directive. -/
theorem ofLines_passage (passage : Passage) :
    ofLines number start none (passage.lines ++ rest) =
      ofLines (number + passage.lines.length) (start + passage.text.length) none rest >>= fun more =>
        .ok (passage.directive number start :: more) := by
  obtain ⟨before, name, after, marked, opens⟩ :=
    opened_of_opens (number + passage.before.length) (start + (unlines passage.before).length) passage.opens
  rw [Passage.lines, List.append_assoc, ofLines_plain_append passage.before_plain, List.cons_append,
    ofLines_cons, marked]
  dsimp only
  rw [opens]
  change ofLines _ _ (some _) _ = _
  rw [List.append_assoc, ofLines_inside_append _ passage.inside_plain, List.singleton_append, ofLines_cons,
    passage.closes]
  dsimp only
  have number_eq : number + passage.before.length + 1 + passage.inside.length + 1 = number + passage.lines.length := by
    simp only [Passage.lines, List.length_append, List.length_cons, List.length_nil]
    omega
  have start_eq : start + (unlines passage.before).length + passage.opening.text.length +
      (unlines passage.inside).length + passage.closing.text.length = start + passage.text.length := by
    simp only [Passage.text, Passage.lines, unlines_append, unlines_cons, unlines_nil, List.length_append,
      List.length_nil]
    omega
  rw [number_eq, start_eq]
  congr 1
  funext more
  have body : (passage.inside.reverse ++ []).reverse.flatMap Line.text = unlines passage.inside := by
    rw [List.append_nil, List.reverse_reverse, unlines]
  simp only [Opened.close, Opened.ofLine, Passage.directive, body]

end Directive

namespace Document

/-- A document with a plain line in front of it. -/
def consPlain (line : Line) (plain : line.marker = .plain) : Document → Document
  | ⟨[], after, after_plain⟩ =>
    ⟨[], line :: after, by
      rintro other (_ | ⟨_, member⟩)
      · exact plain
      · exact after_plain other member⟩
  | ⟨first :: passages, after, after_plain⟩ =>
    ⟨{ first with
        before := line :: first.before
        before_plain := by
          rintro other (_ | ⟨_, member⟩)
          · exact plain
          · exact first.before_plain other member } :: passages, after, after_plain⟩

@[simp] theorem lines_consPlain (line : Line) (plain : line.marker = .plain) (document : Document) :
    (document.consPlain line plain).lines = line :: document.lines := by
  obtain ⟨_ | ⟨first, passages⟩, after, after_plain⟩ := document
  · rfl
  · simp [consPlain, lines, Passage.lines]

/-- Scanning the lines of a document gives the directives of its passages. -/
theorem ofLines_lines (number start : Nat) (document : Document) :
    Directive.ofLines number start none document.lines = .ok (Passage.directives number start document.passages) := by
  obtain ⟨passages, after, after_plain⟩ := document
  dsimp only [lines]
  induction passages generalizing number start with
  | nil =>
    have passed : Directive.ofLines number start none (after ++ []) = _ :=
      Directive.ofLines_plain_append after_plain
    rw [List.append_nil] at passed
    exact passed
  | cons first passages ih =>
    rw [List.flatMap_cons, List.append_assoc, Directive.ofLines_passage, ih]
    rfl

/-- Lines that can be scanned are the lines of a document; if a directive is open, they start with the rest of its
inside and its close marker. -/
theorem exists_of_ofLines {state : Option Directive.Opened} {lines : List Line} {number start : Nat}
    {directives : List Directive} (scanned : Directive.ofLines number start state lines = .ok directives) :
    match state with
    | none => ∃ document : Document, document.lines = lines
    | some _ => ∃ (inside : List Line) (closing : Line) (document : Document),
        (∀ line ∈ inside, line.marker = .plain) ∧ closing.marker = .closes ∧
          lines = inside ++ closing :: document.lines := by
  induction lines generalizing number start state directives with
  | nil =>
    cases state with
    | none => exact ⟨⟨[], [], by simp⟩, rfl⟩
    | some pending => cases scanned
  | cons line rest ih =>
    rw [Directive.ofLines_cons] at scanned
    cases marked : line.marker with
    | opens before name after =>
      cases state with
      | some pending =>
        rw [marked] at scanned
        cases scanned
      | none =>
        rw [marked] at scanned
        obtain ⟨pending, opened, scanned⟩ := bind_eq_ok scanned
        obtain ⟨header, headerText, leader, opens, _⟩ := Directive.opens_of_opened marked opened
        obtain ⟨inside, closing, document, plain, closes, rfl⟩ := ih scanned
        let passage : Passage :=
          { before := [], opening := line, header, headerText, leader, inside, closing
            before_plain := by simp
            opens, closes
            inside_plain := plain }
        refine ⟨⟨passage :: document.passages, document.after, document.after_plain⟩, ?_⟩
        simp [Document.lines, Passage.lines, passage]
    | closes =>
      cases state with
      | none =>
        rw [marked] at scanned
        cases scanned
      | some pending =>
        rw [marked] at scanned
        obtain ⟨more, scanned, _⟩ := bind_eq_ok scanned
        obtain ⟨document, rfl⟩ := ih scanned
        exact ⟨[], line, document, by simp, marked, rfl⟩
    | plain =>
      cases state with
      | none =>
        rw [marked] at scanned
        obtain ⟨document, rfl⟩ := ih scanned
        exact ⟨document.consPlain line marked, lines_consPlain line marked document⟩
      | some pending =>
        rw [marked] at scanned
        obtain ⟨inside, closing, document, plain, closes, rfl⟩ := ih scanned
        refine ⟨line :: inside, closing, document, ?_, closes, rfl⟩
        rintro other (_ | ⟨_, member⟩)
        · exact marked
        · exact plain other member

/-- A text can be scanned if and only if its lines are those of a document, and then its directives are those of
the document. -/
theorem scan_eq_ok_iff (text : Text) (directives : List Directive) :
    Directive.scan text = .ok directives ↔
      ∃ document : Document, document.lines = text.lines ∧ document.directives = directives := by
  constructor
  · intro scanned
    obtain ⟨document, same⟩ := exists_of_ofLines scanned
    refine ⟨document, same, ?_⟩
    have forward := document.ofLines_lines 1 0
    rw [same] at forward
    exact Except.ok.inj (forward.symm.trans scanned)
  · rintro ⟨document, same, rfl⟩
    rw [Directive.scan, ← same]
    exact document.ofLines_lines 1 0

end Document

end Regen
