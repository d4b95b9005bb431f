import Mathlib.Data.List.TakeWhile
import Regen.Proofs.Failures
import Regen.Proofs.Refilling

/-! # Functions inside comments

The body of a function may stand in a comment of the host language, each line of it behind blanks and the start of the
comment that the open marker has too. Lines are cut as the host document has them, whatever ends them, and put together
again with line feeds. What remains is the source as it would stand outside of the comment, so the function that it
defines, or the fault in it, is the same, line by line.
-/

namespace Regen

open Text

/-- The start of a comment: not empty, without blanks around it, on one line. -/
structure Text.IsLeader (leader : Text) : Prop where
  nonempty : leader ≠ []
  trimmed : leader.trim = leader
  unbroken : ∀ c ∈ leader, isLineBreak c = false

/-- A line of source inside a comment: blanks before the start of the comment, the source behind it, and what ends the
line. -/
structure CommentLine where
  blanks : Text
  source : Text
  terminator : Text
  areBlanks : ∀ c ∈ blanks, isBlank c = true ∧ isLineBreak c = false
  unbroken : ∀ c ∈ source, isLineBreak c = false
  ends : terminator = ['\r', '\n'] ∨ ∃ c, isLineBreak c = true ∧ terminator = [c]

theorem Text.blanks_of_all {text : Text} (all : (text.all fun c => isBlank c && !isLineBreak c) = true) :
    ∀ c ∈ text, isBlank c = true ∧ isLineBreak c = false := by simpa using all

theorem Text.IsLeader.trimStart {leader : Text} (isLeader : leader.IsLeader) : leader.trimStart = leader := by
  -- trimming at the end only shortens, so nothing was lost at the start
  have shorter : leader.trim.length ≤ leader.trimStart.length := by
    rw [trim, trimEnd, dropEndWhile, List.length_reverse, ← leader.trimStart.length_reverse]
    exact (List.dropWhile_suffix _).length_le
  rw [isLeader.trimmed] at shorter
  exact (List.dropWhile_suffix _).eq_of_length_le shorter

namespace CommentLine

variable {leader : Text}

/-- The line as the document has it. -/
def line (leader : Text) (line : CommentLine) : Line := ⟨line.blanks ++ leader ++ line.source, line.terminator⟩

theorem terminator_ne_nil (line : CommentLine) : line.terminator ≠ [] := by
  rcases line.ends with pair | ⟨c, _, single⟩
  · simp [pair]
  · simp [single]

theorem body_ne_nil (isLeader : leader.IsLeader) (line : CommentLine) : (line.line leader).body ≠ [] := by
  simp [CommentLine.line, isLeader.nonempty]

theorem proper (isLeader : leader.IsLeader) (line : CommentLine) : (line.line leader).Proper where
  unbroken := by
    intro c member
    rcases List.mem_append.mp member with member | inSource
    · rcases List.mem_append.mp member with inBlanks | inLeader
      · exact (line.areBlanks c inBlanks).2
      · exact isLeader.unbroken c inLeader
    · exact line.unbroken c inSource
  ending := .inr line.ends
  nonempty := by simp [Line.text, body_ne_nil isLeader line]

/-- Lines in a comment do not run into each other: each has the start of the comment in front of it. -/
theorem sequence (isLeader : leader.IsLeader) (lines : List CommentLine) :
    Line.Sequence (lines.map (CommentLine.line leader)) where
  proper := List.forall_mem_map.mpr fun line _ => line.proper isLeader
  chain := by
    apply List.Pairwise.isChain
    rw [List.pairwise_map]
    apply List.pairwise_of_forall
    intro line next
    exact .of_body line.terminator_ne_nil (next.proper isLeader) (next.body_ne_nil isLeader)

/-- Taking a line out of its comment gives its source. -/
theorem uncomment_body (isLeader : leader.IsLeader) (line : CommentLine) :
    Directive.uncomment leader (line.line leader).body = line.source := by
  have start : (line.line leader).body.trimStart = leader ++ line.source := by
    have kept : (leader ++ line.source).trimStart = leader ++ line.source := by
      obtain ⟨c, rest, isCons⟩ := List.exists_cons_of_ne_nil isLeader.nonempty
      have same := isLeader.trimStart
      rw [isCons, trimStart, List.dropWhile_eq_self_iff] at same
      rw [isCons, trimStart, List.dropWhile_eq_self_iff]
      exact fun _ => same (Nat.succ_pos _)
    rw [CommentLine.line, List.append_assoc, trimStart,
      List.dropWhile_append_of_pos fun c member => (line.areBlanks c member).1]
    exact kept
  rw [Directive.uncomment, start, List.isPrefixOf?_eq_some_iff_append_eq.mpr rfl]
  rfl

end CommentLine

namespace Directive

variable {directive : Directive} {lines : List CommentLine}

/-- The body of the directive is the lines given, inside a comment that starts as the one of the open marker does. -/
structure HoldsCommented (directive : Directive) (lines : List CommentLine) : Prop where
  isLeader : directive.leader.IsLeader
  body : directive.body = unlines (lines.map (CommentLine.line directive.leader))

/-- The same directive outside of a comment, with the bare source on its lines. -/
def bare (directive : Directive) (lines : List CommentLine) : Directive :=
  { directive with leader := [], body := ['\n'].intercalate (lines.map CommentLine.source) }

/-- The source of a function in a comment is that of the bare lines. -/
theorem HoldsCommented.source (holds : directive.HoldsCommented lines) :
    directive.source = ['\n'].intercalate (lines.map CommentLine.source) := by
  have nonempty : directive.leader.isEmpty = false := List.isEmpty_eq_false_iff.mpr holds.isLeader.nonempty
  rw [Directive.source, nonempty, if_neg Bool.false_ne_true, lineBodies, holds.body,
    (CommentLine.sequence holds.isLeader lines).lines_unlines, List.map_map, List.map_map]
  congr 1
  exact List.map_congr_left fun line _ => line.uncomment_body holds.isLeader

end Directive

namespace Expansion

open Directive

variable {directive : Directive} {lines : List CommentLine}

/-- A function in a comment is added as the function outside of it. -/
theorem Gathered.add_bare (isFunction : directive.kind = .defun) (holds : directive.HoldsCommented lines)
    (file : Option Text) (gathered : Gathered) :
    gathered.add file (directive.bare lines) = gathered.add file directive := by
  have header : (directive.bare lines).header = directive.header := rfl
  have bareSource : (directive.bare lines).source = ['\n'].intercalate (lines.map CommentLine.source) := rfl
  have source : (directive.bare lines).source = directive.source := bareSource.trans holds.source.symm
  unfold Gathered.add
  rw [header, source]
  cases named : directive.header with
  | defun name parameters => rfl
  | _ => cases isFunction.symm.trans (congrArg Header.kind named)

/-- A function whose body is in a comment is read as from the bare lines, with the same forms on the same lines or the
same failure, and nothing that a document defines depends on whether the function is in the comment. -/
theorem gather_commented (isFunction : directive.kind = .defun) (holds : directive.HoldsCommented lines) :
    Node.readBody directive.source directive.bodyLine =
      Node.readBody (['\n'].intercalate (lines.map CommentLine.source)) directive.bodyLine ∧
    ∀ file before after, gather file (before ++ directive :: after) =
      gather file (before ++ directive.bare lines :: after) := by
  constructor
  · rw [holds.source]
  · intro file before after
    rw [gather, gather, List.foldlM_append, List.foldlM_append]
    congr 1
    funext gathered
    rw [List.foldlM_cons, List.foldlM_cons, Gathered.add_bare isFunction holds]
    rfl

/-- A string over two lines, a comment of the notation itself, an empty line, and four ways to end a line. -/
def inComment : List CommentLine :=
  [⟨['\t'], "(insert \"a".toList, ['\r'], blanks_of_all (by decide), unbroken_of_all (by decide),
      .inr ⟨_, by decide, rfl⟩⟩,
    ⟨[], " b\" x) ; c".toList, ['\u2028'], blanks_of_all (by decide), unbroken_of_all (by decide),
      .inr ⟨_, by decide, rfl⟩⟩,
    ⟨[' ', '\u00a0'], [], ['\x0b'], blanks_of_all (by decide), unbroken_of_all (by decide),
      .inr ⟨_, by decide, rfl⟩⟩,
    ⟨[], "(newline-and-indent)".toList, ['\r', '\n'], blanks_of_all (by decide), unbroken_of_all (by decide), .inl rfl⟩]

/-- A function in a comment that starts as a list of the notation does. -/
def commentedFunction : Text :=
  " (*autoc:defun f (x)\r\n".toList ++ unlines (inComment.map (CommentLine.line "(*".toList)) ++ "(*autoc#".toList

theorem gather_commentedFunction :
    ∃ directive, scan commentedFunction = .ok [directive] ∧ directive.kind = .defun ∧
      directive.HoldsCommented inComment ∧
      (∃ forms, Node.readBody directive.source directive.bodyLine = .ok forms ∧
        Node.readBody (['\n'].intercalate (inComment.map CommentLine.source)) directive.bodyLine = .ok forms ∧
        forms.map Node.line = [some 2, some 5]) ∧
      gather none [directive] = gather none [directive.bare inComment] := by
  have evaluated : succeedsWith (fun directives => directives.map (fun directive => (directive.kind, directive.leader,
        directive.body)) == [(.defun, "(*".toList, unlines (inComment.map (CommentLine.line "(*".toList)))] &&
      directives.all fun directive => succeedsWith (fun forms => forms.map Node.line == [some 2, some 5])
        (Node.readBody directive.source directive.bodyLine)) (scan commentedFunction) = true := by decide +kernel
  obtain ⟨directives, scanned, test⟩ := exists_of_succeedsWith evaluated
  obtain ⟨only, reads⟩ := Bool.and_eq_true_iff.mp test
  obtain ⟨directive, rfl, parts⟩ := List.map_eq_singleton_iff.mp (eq_of_beq only)
  simp only [Prod.mk.injEq] at parts
  obtain ⟨isFunction, leader, body⟩ := parts
  have isLeader : IsLeader "(*".toList := ⟨by decide, by decide, unbroken_of_all (by decide)⟩
  have holds : directive.HoldsCommented inComment := ⟨leader ▸ isLeader, leader ▸ body⟩
  obtain ⟨sameForms, sameProgram⟩ := gather_commented isFunction holds
  rw [List.all_cons, List.all_nil, Bool.and_true] at reads
  obtain ⟨forms, isRead, lines⟩ := exists_of_succeedsWith reads
  exact ⟨directive, scanned, isFunction, holds, ⟨forms, isRead, sameForms ▸ isRead, eq_of_beq lines⟩,
    sameProgram none [] []⟩

end Expansion

end Regen
