import Mathlib.Data.List.Chain
import Regen.Text.Line

/-! # Texts as sequences of physical lines

Splitting a text loses nothing, and the lines that come out are exactly the sequences in which every line has an
unbroken body and one terminator, only the last may lack it, and no carriage return stands before a line feed of
the next line. These conditions are local, so a stretch of lines can be exchanged for another one as soon as
they hold at its two ends.
-/

namespace Regen

open Text

namespace Line

/-- A line as splitting gives it: its body holds no break and its terminator is a single break, a carriage return
with a line feed, or missing. -/
structure Proper (line : Line) : Prop where
  unbroken : ∀ c ∈ line.body, isLineBreak c = false
  ending : line.terminator = [] ∨ line.terminator = ['\r', '\n'] ∨
    ∃ c, isLineBreak c = true ∧ line.terminator = [c]
  nonempty : line.text ≠ []

/-- The first line ends, and its end does not run on into the second line. -/
def CanPrecede (line next : Line) : Prop :=
  line.terminator ≠ [] ∧ ¬ (line.terminator = ['\r'] ∧ next.text.head? = some '\n')

/-- Lines that splitting their text gives back. -/
structure Sequence (lines : List Line) : Prop where
  proper : ∀ line ∈ lines, line.Proper
  chain : lines.IsChain CanPrecede

end Line

namespace Text

def unlines (lines : List Line) : Text := lines.flatMap Line.text

@[simp] theorem unlines_nil : unlines [] = [] := rfl

@[simp] theorem unlines_cons (line : Line) (lines : List Line) :
    unlines (line :: lines) = line.text ++ unlines lines := List.flatMap_cons

@[simp] theorem unlines_append (first second : List Line) :
    unlines (first ++ second) = unlines first ++ unlines second := List.flatMap_append

theorem unbroken_of_all {text : Text} (all : (text.all fun c => !isLineBreak c) = true) :
    ∀ c ∈ text, isLineBreak c = false := by simpa using all

theorem lines_carriageReturn_lineFeed (rest : Text) :
    lines ('\r' :: '\n' :: rest) = ⟨[], ['\r', '\n']⟩ :: lines rest := rfl

/-- A break ends an empty line, unless it is the first half of a longer one. -/
theorem lines_break {c : Char} {rest : Text} (isBreak : isLineBreak c = true)
    (alone : ¬ (c = '\r' ∧ rest.head? = some '\n')) : lines (c :: rest) = ⟨[], [c]⟩ :: lines rest := by
  rw [lines.eq_def]
  split
  · contradiction
  · next same =>
    cases same
    exact absurd ⟨rfl, rfl⟩ alone
  · next same =>
    cases same
    rw [if_pos isBreak]

/-- Any other character goes to the front of the first line. -/
theorem lines_plain {c : Char} (rest : Text) (plain : isLineBreak c = false) :
    lines (c :: rest) =
      match lines rest with
      | [] => [⟨[c], []⟩]
      | line :: more => ⟨c :: line.body, line.terminator⟩ :: more := by
  rw [lines.eq_def]
  split
  · contradiction
  · next same =>
    cases same
    exact absurd plain (by decide)
  · next same =>
    cases same
    exact if_neg (by simp [plain])

/-- Splitting a text loses nothing. -/
@[simp] theorem unlines_lines (text : Text) : unlines text.lines = text := by
  fun_induction lines text with
  | case1 => rfl
  | case2 rest ih => simp [Line.text, ih]
  | case3 c rest _ isBreak ih => simp [Line.text, ih]
  | case4 c rest _ plain empty ih => simp_all [Line.text]
  | case5 c rest _ plain line more split ih => simp_all [Line.text]

/-- Splitting gives proper lines in which no terminator is cut in two. -/
theorem lines_sequence (text : Text) : Line.Sequence text.lines := by
  fun_induction lines text with
  | case1 => exact ⟨by simp, .nil⟩
  | case2 rest ih =>
    refine ⟨?_, ?_⟩
    · rintro line (_ | ⟨_, member⟩)
      · exact ⟨by simp, .inr (.inl rfl), by simp [Line.text]⟩
      · exact ih.proper line member
    · exact List.isChain_cons.mpr ⟨fun next _ => ⟨by simp, by simp⟩, ih.chain⟩
  | case3 c rest alone isBreak ih =>
    refine ⟨?_, ?_⟩
    · rintro line (_ | ⟨_, member⟩)
      · exact ⟨by simp, .inr (.inr ⟨c, isBreak, rfl⟩), by simp [Line.text]⟩
      · exact ih.proper line member
    · refine List.isChain_cons.mpr ⟨fun next atNext => ⟨by simp, ?_⟩, ih.chain⟩
      rintro ⟨isReturn, startsFeed⟩
      -- the text after the break starts as its first line does
      obtain ⟨more, split⟩ : ∃ more, lines rest = next :: more :=
        ⟨_, (List.cons_head?_tail atNext).symm⟩
      have start : rest = next.text ++ unlines more := by
        rw [← unlines_lines rest, split, unlines_cons]
      obtain ⟨after, isNext⟩ := List.head?_eq_some_iff.mp startsFeed
      exact alone (after ++ unlines more) (by simpa using isReturn) (by rw [start, isNext]; rfl)
  | case4 c rest _ plain empty ih =>
    refine ⟨?_, .singleton _⟩
    intro line member
    obtain rfl := List.mem_singleton.mp member
    exact ⟨by simpa using plain, .inl rfl, by simp [Line.text]⟩
  | case5 c rest _ plain line more split ih =>
    rw [split] at ih
    have head := ih.proper line (List.mem_cons_self ..)
    refine ⟨?_, ?_⟩
    · rintro other (_ | ⟨_, member⟩)
      · refine ⟨?_, head.ending, by simp [Line.text]⟩
        rintro d (_ | ⟨_, member⟩)
        · simpa using plain
        · exact head.unbroken d member
      · exact ih.proper other (List.mem_cons_of_mem _ member)
    · obtain ⟨heads, chain⟩ := List.isChain_cons.mp ih.chain
      exact List.isChain_cons.mpr ⟨heads, chain⟩

/-- An unbroken stretch goes to the front of the first line of what follows. -/
theorem lines_unbroken_append {body rest terminator : Text} {more : List Line}
    (unbroken : ∀ c ∈ body, isLineBreak c = false) (split : rest.lines = ⟨[], terminator⟩ :: more) :
    (body ++ rest).lines = ⟨body, terminator⟩ :: more := by
  induction body with
  | nil => exact split
  | cons c body ih =>
    rw [List.cons_append, lines_plain _ (unbroken c (List.mem_cons_self ..)),
      ih fun d member => unbroken d (List.mem_cons_of_mem _ member)]

/-- An unbroken text is a single line. -/
theorem lines_unbroken {body : Text} (unbroken : ∀ c ∈ body, isLineBreak c = false) (nonempty : body ≠ []) :
    body.lines = [⟨body, []⟩] := by
  induction body with
  | nil => exact absurd rfl nonempty
  | cons c body ih =>
    rw [lines_plain _ (unbroken c (List.mem_cons_self ..))]
    cases body with
    | nil => rfl
    | cons d body => rw [ih (fun e member => unbroken e (List.mem_cons_of_mem _ member)) (by simp)]

end Text

namespace Line.Sequence

variable {first second lines : List Line} {line : Line}

theorem of_append (sequence : Sequence (first ++ second)) : Sequence first ∧ Sequence second :=
  ⟨⟨fun line member => sequence.proper line (List.mem_append_left _ member), sequence.chain.left_of_append⟩,
    ⟨fun line member => sequence.proper line (List.mem_append_right _ member), sequence.chain.right_of_append⟩⟩

/-- Splitting the text of such lines gives them back. -/
theorem lines_unlines (sequence : Sequence lines) : (unlines lines).lines = lines := by
  induction lines with
  | nil => rfl
  | cons line lines ih =>
    have proper := sequence.proper line (List.mem_cons_self ..)
    have tail := ih (sequence.of_append : Sequence [line] ∧ Sequence lines).2
    have heads := (List.isChain_cons.mp sequence.chain).1
    rw [unlines_cons, Line.text, List.append_assoc]
    rcases proper.ending with missing | pair | ⟨c, isBreak, single⟩
    · -- only the last line can lack its terminator
      obtain rfl : lines = [] := by
        cases lines with
        | nil => rfl
        | cons next more => exact absurd missing (heads next rfl).1
      have nonempty : line.body ≠ [] := by
        have := proper.nonempty
        rwa [Line.text, missing, List.append_nil] at this
      rw [missing, unlines_nil, List.append_nil, List.append_nil,
        lines_unbroken proper.unbroken nonempty, ← missing]
    · rw [pair]
      rw [lines_unbroken_append proper.unbroken (by
        rw [List.cons_append, List.singleton_append, lines_carriageReturn_lineFeed]), tail, ← pair]
    · have alone : ¬ (c = '\r' ∧ (unlines lines).head? = some '\n') := by
        rintro ⟨rfl, startsFeed⟩
        cases lines with
        | nil => simp at startsFeed
        | cons next more =>
          have nonempty := sequence.proper next (by simp)
          obtain ⟨d, after, start⟩ := List.exists_cons_of_ne_nil nonempty.nonempty
          refine (heads next rfl).2 ⟨single, ?_⟩
          rw [unlines_cons, start] at startsFeed
          rw [start]
          exact startsFeed
      rw [single, lines_unbroken_append proper.unbroken (by
        rw [List.singleton_append, lines_break isBreak alone]), tail, ← single]

end Line.Sequence

end Regen
