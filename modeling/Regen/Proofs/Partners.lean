import Regen.Proofs.Parts
import Regen.Proofs.Printing

/-! # Parentheses and their partners

Two parentheses belong together if the tokens between them are balanced. Data are read exactly from the tokens that they
flatten to, whatever the lines of closing parentheses. Tokens that are no data have a parenthesis without a partner, and
this decides the fault: the first closing one, if there is any, and otherwise the last opening one.
-/

namespace Regen

namespace Token

variable {tokens before after inner : List Token} {token : Token}

/-- How many more lists are open after tokens than before them. -/
def depth (tokens : List Token) : Int :=
  tokens.countP (·.lexeme == .opening) - tokens.countP (·.lexeme == .closing)

/-- Tokens that open as many lists as they close, and never close more than they have opened. -/
structure IsBalanced (tokens : List Token) : Prop where
  level : depth tokens = 0
  above : ∀ front rest, tokens = front ++ rest → 0 ≤ depth front

/-- A closing parenthesis after these tokens has its partner among them. -/
def HasOpening (before : List Token) : Prop :=
  ∃ (earlier : List Token) (line : Int) (inner : List Token),
    before = earlier ++ ⟨.opening, line⟩ :: inner ∧ IsBalanced inner

/-- An opening parenthesis before these tokens has its partner among them. -/
def HasClosing (after : List Token) : Prop :=
  ∃ (inner : List Token) (line : Int) (later : List Token),
    after = inner ++ ⟨.closing, line⟩ :: later ∧ IsBalanced inner

/-- Every closing parenthesis has a partner. -/
def AllOpened (tokens : List Token) : Prop :=
  ∀ before line after, tokens = before ++ ⟨.closing, line⟩ :: after → HasOpening before

/-- Every opening parenthesis has a partner. -/
def AllClosed (tokens : List Token) : Prop :=
  ∀ before line after, tokens = before ++ ⟨.opening, line⟩ :: after → HasClosing after

/-- The first closing parenthesis without a partner stands on `line`. -/
def FirstUnopened (tokens : List Token) (line : Int) : Prop :=
  ∃ before after, tokens = before ++ ⟨.closing, line⟩ :: after ∧ AllOpened before ∧ ¬ HasOpening before

/-- The last opening parenthesis without a partner, which is the innermost one, stands on `line`. -/
def LastUnclosed (tokens : List Token) (line : Int) : Prop :=
  ∃ before after, tokens = before ++ ⟨.opening, line⟩ :: after ∧ ¬ HasClosing after ∧ AllClosed after

section Depth

@[simp] theorem depth_nil : depth [] = 0 := rfl

@[simp] theorem depth_append (first second : List Token) : depth (first ++ second) = depth first + depth second := by
  simp only [depth, List.countP_append]
  omega

theorem depth_cons (token : Token) (rest : List Token) : depth (token :: rest) = depth [token] + depth rest :=
  depth_append [token] rest

@[simp] theorem depth_opening (line : Int) : depth [⟨.opening, line⟩] = 1 := rfl

@[simp] theorem depth_closing (line : Int) : depth [⟨.closing, line⟩] = -1 := rfl

/-- No token closes more than one list, and only a closing parenthesis closes one. -/
theorem eq_closing_of_depth_neg (falls : depth [token] < 0) :
    ∃ line, token = ⟨.closing, line⟩ ∧ depth [token] = -1 := by
  obtain ⟨lexeme, line⟩ := token
  cases lexeme with
  | closing => exact ⟨line, rfl, rfl⟩
  | opening =>
    rw [depth_opening] at falls
    omega
  | string | integer | symbol => exact absurd falls (Int.lt_irrefl 0)

/-- Tokens that close more lists than they open have a first closing parenthesis that does so. -/
theorem exists_first_closing {level : Int} (nonneg : 0 ≤ level) (falls : level + depth tokens < 0) :
    ∃ (inner : List Token) (line : Int) (later : List Token), tokens = inner ++ ⟨.closing, line⟩ :: later ∧
      level + depth inner = 0 ∧ ∀ front rest, inner = front ++ rest → 0 ≤ level + depth front := by
  induction tokens generalizing level with
  | nil =>
    rw [depth_nil] at falls
    omega
  | cons token rest ih =>
    rw [depth_cons] at falls
    by_cases stays : 0 ≤ level + depth [token]
    · obtain ⟨inner, line, later, rfl, back, above⟩ := ih stays (by omega)
      refine ⟨token :: inner, line, later, rfl, ?_, ?_⟩
      · rw [depth_cons]
        omega
      · intro front others split
        cases front with
        | nil =>
          rw [depth_nil]
          omega
        | cons first front =>
          obtain ⟨rfl, sameRest⟩ := List.cons.inj split
          have := above front others sameRest
          rw [depth_cons]
          omega
    · obtain ⟨line, rfl, one⟩ := eq_closing_of_depth_neg (show depth [token] < 0 by omega)
      refine ⟨[], line, rest, rfl, ?_, ?_⟩
      · rw [depth_nil]
        omega
      · intro front others split
        obtain ⟨rfl, -⟩ := List.append_eq_nil_iff.mp split.symm
        rw [depth_nil]
        omega

theorem hasClosing_of_depth_neg (falls : depth after < 0) : HasClosing after := by
  have fallsBelow : 0 + depth after < 0 := by omega
  obtain ⟨inner, line, later, split, level, above⟩ := exists_first_closing (Int.le_refl 0) fallsBelow
  refine ⟨inner, line, later, split, by omega, fun front rest split => ?_⟩
  have := above front rest split
  omega

end Depth

namespace IsBalanced

theorem nil : IsBalanced [] := by
  refine ⟨rfl, fun front rest split => ?_⟩
  obtain ⟨rfl, -⟩ := List.append_eq_nil_iff.mp split.symm
  exact Int.le_refl 0

theorem append {first second : List Token} (balanced : IsBalanced first) (also : IsBalanced second) :
    IsBalanced (first ++ second) := by
  constructor
  · rw [depth_append, balanced.level, also.level]
    rfl
  · intro front rest split
    rcases List.append_eq_append_iff.mp split with ⟨more, rfl, rest⟩ | ⟨more, start, _⟩
    · have := also.above _ _ rest
      rw [depth_append, balanced.level]
      omega
    · exact balanced.above _ _ start

/-- A token that is no parenthesis. -/
theorem singleton (flat : depth [token] = 0) : IsBalanced [token] := by
  refine ⟨flat, fun front rest split => ?_⟩
  rcases List.append_eq_singleton_iff.mp split.symm with ⟨rfl, _⟩ | ⟨rfl, _⟩
  · exact Int.le_refl 0
  · exact Int.le_of_eq flat.symm

/-- Balanced tokens between parentheses. -/
theorem enclose (balanced : IsBalanced inner) (line line' : Int) :
    IsBalanced (⟨.opening, line⟩ :: inner ++ [⟨.closing, line'⟩]) := by
  constructor
  · rw [depth_append, depth_cons, balanced.level]
    rfl
  · intro front rest split
    cases front with
    | nil => exact Int.le_refl 0
    | cons first front =>
      obtain ⟨rfl, sameRest⟩ := List.cons.inj split
      rw [depth_cons, depth_opening]
      rcases List.append_eq_append_iff.mp sameRest with ⟨more, rfl, rest⟩ | ⟨more, start, _⟩
      · rw [depth_append, balanced.level]
        rcases List.append_eq_singleton_iff.mp rest.symm with ⟨rfl, _⟩ | ⟨rfl, _⟩
        · rw [depth_nil]
          omega
        · rw [depth_closing]
          omega
      · have := balanced.above _ _ start
        omega

/-- Balanced tokens have no open list at their end. -/
theorem not_hasOpening (balanced : IsBalanced before) : ¬ HasOpening before := by
  rintro ⟨earlier, line, inner, rfl, innerBalanced⟩
  have level := balanced.level
  have above := balanced.above _ _ rfl
  rw [depth_append, depth_cons, depth_opening, innerBalanced.level] at level
  omega

/-- Balanced tokens close no list from before them. -/
theorem not_hasClosing (balanced : IsBalanced after) : ¬ HasClosing after := by
  rintro ⟨inner, line, later, rfl, innerBalanced⟩
  have above := balanced.above (inner ++ [⟨.closing, line⟩]) later (by simp)
  rw [depth_append, depth_closing, innerBalanced.level] at above
  omega

theorem allClosed (balanced : IsBalanced tokens) : AllClosed tokens := by
  rintro before line after rfl
  have level := balanced.level
  have above := balanced.above _ _ rfl
  rw [depth_append, depth_cons, depth_opening] at level
  apply hasClosing_of_depth_neg
  omega

end IsBalanced

/-- Tokens after which lists are open that start on these lines, innermost first. -/
inductive Leaves : List Token → List Int → Prop
  | nil {tokens : List Token} (balanced : IsBalanced tokens) : Leaves tokens []
  | cons {before inner : List Token} {lines : List Int} (outer : Leaves before lines) (line : Int)
      (balanced : IsBalanced inner) : Leaves (before ++ ⟨.opening, line⟩ :: inner) (line :: lines)

theorem Leaves.append {lines : List Int} {more : List Token} (leaves : Leaves tokens lines)
    (balanced : IsBalanced more) : Leaves (tokens ++ more) lines := by
  cases leaves with
  | nil before => exact .nil (before.append balanced)
  | cons outer line inner =>
    rw [List.append_assoc, List.cons_append]
    exact .cons outer line (inner.append balanced)

/-- What follows decides nothing about the parentheses before it. -/
theorem AllOpened.concat (allOpened : AllOpened tokens) (opened : token.lexeme = .closing → HasOpening tokens) :
    AllOpened (tokens ++ [token]) := by
  intro before line after split
  rcases List.eq_nil_or_concat' after with rfl | ⟨later, last, rfl⟩
  · obtain ⟨rfl, same⟩ := List.append_inj' split rfl
    cases same
    exact opened rfl
  · rw [← List.cons_append, ← List.append_assoc] at split
    obtain ⟨rfl, -⟩ := List.append_inj' split rfl
    exact allOpened before line later rfl

end Token

namespace Nesting

open Token

variable {done : List Token} {nesting next : Nesting}

/-- What holds of a point in the pass over tokens: the open lists are those that the tokens so far leave, and these
tokens close no list that they have not opened. -/
structure Follows (done : List Token) (nesting : Nesting) : Prop where
  leaves : Leaves done (nesting.pending.map OpenList.line)
  allOpened : AllOpened done

theorem Follows.start : Follows [] ⟨[], []⟩ := by
  refine ⟨.nil .nil, fun before line after split => ?_⟩
  cases (List.append_eq_nil_iff.mp split.symm).2

theorem lines_add (nesting : Nesting) (datum : Datum) :
    (nesting.add datum).pending.map OpenList.line = nesting.pending.map OpenList.line := by
  obtain ⟨data, pending⟩ := nesting
  cases pending <;> rfl

/-- A token that opens and closes nothing. -/
theorem Follows.add (follows : Follows done nesting) {token : Token} (flat : depth [token] = 0) (datum : Datum) :
    Follows (done ++ [token]) (nesting.add datum) := by
  constructor
  · rw [lines_add]
    exact follows.leaves.append (.singleton flat)
  · apply follows.allOpened.concat
    intro closes
    obtain ⟨lexeme, line⟩ := token
    cases closes
    cases flat

/-- Reading a token fails only on a closing parenthesis without a partner. -/
theorem Follows.step (follows : Follows done nesting) (token : Token) :
    Ends (fun failure => token.lexeme = .closing ∧ ¬ HasOpening done ∧
        failure = .fault ⟨.unexpectedClose, some token.line, none⟩)
      (Follows (done ++ [token])) (nesting.step token) := by
  obtain ⟨lexeme, line⟩ := token
  cases lexeme with
  | opening =>
    constructor
    · exact .cons follows.leaves line .nil
    · exact follows.allOpened.concat fun closes => (by cases closes)
  | closing =>
    obtain ⟨data, pending⟩ := nesting
    have leaves := follows.leaves
    cases pending with
    | nil =>
      cases leaves with
      | nil balanced => exact ⟨rfl, balanced.not_hasOpening, rfl⟩
    | cons inner outer =>
      rw [List.map_cons] at leaves
      cases leaves with
      | @cons before between _ leavesOuter _ balanced =>
        constructor
        · rw [lines_add, List.append_assoc]
          exact leavesOuter.append (balanced.enclose inner.line line)
        · exact follows.allOpened.concat fun _ => ⟨before, inner.line, between, rfl, balanced⟩
  | string | integer | symbol => exact follows.add rfl _

theorem Follows.foldlM (follows : Follows done nesting) (tokens : List Token) :
    Ends (fun failure => ∃ line, FirstUnopened (done ++ tokens) line ∧
        failure = .fault ⟨.unexpectedClose, some line, none⟩)
      (Follows (done ++ tokens)) (tokens.foldlM Nesting.step nesting) := by
  induction tokens generalizing done nesting with
  | nil =>
    rw [List.append_nil]
    exact follows
  | cons token rest ih =>
    rw [List.foldlM_cons]
    refine ((follows.step token).imp ?_ fun _ => id).bind fun next nextFollows => ?_
    · rintro failure ⟨closes, notOpened, rfl⟩
      obtain ⟨lexeme, line⟩ := token
      cases closes
      exact ⟨line, ⟨done, rest, rfl, follows.allOpened, notOpened⟩, rfl⟩
    · have later := ih nextFollows
      rwa [List.append_assoc, List.singleton_append] at later

/-- At the end of the tokens, an open list is reported on the line of the last parenthesis that is not closed. -/
theorem Follows.finish (follows : Follows done nesting) :
    Ends (fun failure => ∃ line, LastUnclosed done line ∧ failure = .fault ⟨.unclosedList, some line, none⟩)
      (fun _ => True) nesting.finish := by
  obtain ⟨data, pending⟩ := nesting
  have leaves := follows.leaves
  cases pending with
  | nil => trivial
  | cons inner outer =>
    rw [List.map_cons] at leaves
    cases leaves with
    | @cons before between _ _ _ balanced =>
      exact ⟨inner.line, ⟨before, between, rfl, balanced.not_hasClosing, balanced.allClosed⟩, rfl⟩

/-- The line of a closing parenthesis does not matter. -/
theorem step_of_essence {token other : Token} (same : token.essence = other.essence)
    (success : nesting.step other = .ok next) : nesting.step token = .ok next := by
  obtain ⟨lexeme, line⟩ := token
  obtain ⟨lexeme', line'⟩ := other
  obtain ⟨rfl, lines⟩ := Prod.mk.inj same
  by_cases closes : lexeme = .closing
  · subst closes
    obtain ⟨data, pending⟩ := nesting
    cases pending with
    | nil => cases success
    | cons inner outer => exact success
  · rw [if_neg closes, if_neg closes] at lines
    cases lines
    exact success

theorem foldlM_of_essence {tokens others : List Token} (same : tokens.map essence = others.map essence)
    (success : others.foldlM step nesting = .ok next) : tokens.foldlM step nesting = .ok next := by
  induction tokens generalizing others nesting with
  | nil =>
    obtain rfl := List.map_eq_nil_iff.mp same.symm
    exact success
  | cons token rest ih =>
    obtain _ | ⟨other, others⟩ := others
    · cases same
    obtain ⟨first, later⟩ := List.cons.inj same
    rw [List.foldlM_cons] at success ⊢
    obtain ⟨middle, stepped, success⟩ := bind_eq_ok success
    rw [step_of_essence first stepped]
    exact ih later success

end Nesting

namespace Datum

open Token

variable {tokens : List Token}

/-- Data that fall into these tokens, whatever the lines of closing parentheses. -/
def FlattenTo (data : List Datum) (tokens : List Token) : Prop :=
  (flattenAll data).map essence = tokens.map essence

theorem ofTokens_eq_ok_iff {data : List Datum} : ofTokens tokens = .ok data ↔ FlattenTo data tokens := by
  constructor
  · intro nested
    have ends := ofTokens_essence tokens
    rw [nested] at ends
    exact ends
  · intro same
    obtain ⟨nesting, reached, finished⟩ := bind_eq_ok (ofTokens_flattenAll data)
    rw [ofTokens, Nesting.foldlM_of_essence same.symm reached]
    exact finished

theorem ofTokens_partners (tokens : List Token) :
    Ends (fun failure =>
        (∃ line, FirstUnopened tokens line ∧ failure = .fault ⟨.unexpectedClose, some line, none⟩) ∨
        (AllOpened tokens ∧ ∃ line, LastUnclosed tokens line ∧ failure = .fault ⟨.unclosedList, some line, none⟩))
      (fun _ => True) (ofTokens tokens) := by
  refine ((Nesting.Follows.start.foldlM tokens).imp (fun _ => .inl) fun _ => id).bind fun nesting follows => ?_
  exact follows.finish.imp (fun _ unclosed => .inr ⟨follows.allOpened, unclosed⟩) fun _ => id

/-- A text is read as the data that its tokens are those of. If there are none, then the fault stands on the line of the
first closing parenthesis without a partner, or, if there is no such parenthesis, on the line of the innermost opening
one that is not closed. -/
theorem read_partners {text : Text} {line : Int} (scanned : Token.scan text line = .ok tokens) :
    (∀ data, read text line = .ok data ↔ FlattenTo data tokens) ∧
    ((∀ data, ¬ FlattenTo data tokens) →
      (∃ stray, FirstUnopened tokens stray ∧
        read text line = .error (.fault ⟨.unexpectedClose, some stray, none⟩)) ∨
      (AllOpened tokens ∧ ∃ unclosed, LastUnclosed tokens unclosed ∧
        read text line = .error (.fault ⟨.unclosedList, some unclosed, none⟩))) := by
  have same : read text line = ofTokens tokens := by
    rw [read, scanned]
    rfl
  rw [same]
  refine ⟨fun data => ofTokens_eq_ok_iff, fun none => ?_⟩
  have ends := ofTokens_partners tokens
  cases nested : ofTokens tokens with
  | ok data => exact absurd (ofTokens_eq_ok_iff.mp nested) (none data)
  | error failure =>
    rw [nested] at ends
    rcases ends with ⟨stray, first, rfl⟩ | ⟨allOpened, unclosed, last, rfl⟩
    · exact .inl ⟨stray, first, rfl⟩
    · exact .inr ⟨allOpened, unclosed, last, rfl⟩

/-- Lists in lists, with a closing parenthesis on a line of its own and another one inside a comment. -/
def overLines : Text := "(a (\"b\"; )\n) -1)\nb".toList

/-- Two closing parentheses too many, before a list that is not closed. -/
def overClosed : Text := "(a)\n)) (".toList

/-- Two lists that are not closed, with one inside that is. -/
def underClosed : Text := "(a\n(b (c)\n".toList

theorem read_partners_overLines :
    (∃ tokens data, Token.scan overLines 1 = .ok tokens ∧ read overLines 1 = .ok data ∧ FlattenTo data tokens) ∧
    (∃ tokens, Token.scan overClosed 1 = .ok tokens ∧ FirstUnopened tokens 2 ∧
      read overClosed 1 = .error (.fault ⟨.unexpectedClose, some 2, none⟩)) ∧
    (∃ tokens, Token.scan underClosed 1 = .ok tokens ∧ AllOpened tokens ∧ LastUnclosed tokens 2 ∧
      read underClosed 1 = .error (.fault ⟨.unclosedList, some 2, none⟩)) := by
  have scans : [overLines, overClosed, underClosed].all (fun text => succeedsWith (fun _ => true) (Token.scan text 1)) =
        true ∧ succeedsWith (fun _ => true) (read overLines 1) = true ∧
      failsWith (· == ⟨.unexpectedClose, some 2, none⟩) (read overClosed 1) = true ∧
      failsWith (· == ⟨.unclosedList, some 2, none⟩) (read underClosed 1) = true := by decide +kernel
  obtain ⟨scan, reads, closes, opens⟩ := scans
  simp only [List.all_cons, List.all_nil, Bool.and_true, Bool.and_eq_true] at scan
  obtain ⟨tokens, scanned, _⟩ := exists_of_succeedsWith scan.1
  obtain ⟨closing, scannedClosing, _⟩ := exists_of_succeedsWith scan.2.1
  obtain ⟨opening, scannedOpening, _⟩ := exists_of_succeedsWith scan.2.2
  obtain ⟨data, isRead, _⟩ := exists_of_succeedsWith reads
  obtain ⟨fault, failedClosing, same⟩ := exists_of_failsWith closes
  obtain rfl := eq_of_beq same
  obtain ⟨fault, failedOpening, same⟩ := exists_of_failsWith opens
  obtain rfl := eq_of_beq same
  refine ⟨⟨tokens, data, scanned, isRead, ((read_partners scanned).1 data).mp isRead⟩, ⟨closing, scannedClosing, ?_⟩,
    ⟨opening, scannedOpening, ?_⟩⟩
  · have none : ∀ data, ¬ FlattenTo data closing := by
      intro data flattens
      cases failedClosing.symm.trans (((read_partners scannedClosing).1 data).mpr flattens)
    rcases (read_partners scannedClosing).2 none with ⟨stray, first, failed⟩ | ⟨_, unclosed, _, failed⟩
    · cases failedClosing.symm.trans failed
      exact ⟨first, failed⟩
    · cases failedClosing.symm.trans failed
  · have none : ∀ data, ¬ FlattenTo data opening := by
      intro data flattens
      cases failedOpening.symm.trans (((read_partners scannedOpening).1 data).mpr flattens)
    rcases (read_partners scannedOpening).2 none with ⟨stray, _, failed⟩ | ⟨allOpened, unclosed, last, failed⟩
    · cases failedOpening.symm.trans failed
    · cases failedOpening.symm.trans failed
      exact ⟨allOpened, last, failed⟩

end Datum

end Regen
