import Regen.Proofs.Independence
import Regen.Proofs.Widening

/-! # The rows of a region

Steps of writing fall into rows: the texts inserted up to a line break, and those after the last one. The text of a
buffer has a line for each of these rows, the indentation with the texts of the row behind it. A row that was begun and
in which nothing was inserted is left out, so its indentation, which then is the end of what was written, is taken back.
A region ends the last line too, if there is anything on it.
-/

namespace Regen

open Text

namespace Event

/-- The steps that write rows, each with a line break behind it, and then insert texts after the last break. -/
def script (rows : List (List Text)) (last : List Text) : List Event :=
  rows.flatMap (fun row => row.map insert ++ [newline]) ++ last.map insert

/-- The text that a step inserts. -/
def inserted? : Event → Option Text
  | insert text => some text
  | newline => none

theorem script_cons (row : List Text) (rows : List (List Text)) (last : List Text) :
    script (row :: rows) last = row.map insert ++ newline :: script rows last := by
  simp [script]

/-- Steps of writing fall into rows. -/
theorem exists_script (events : List Event) : ∃ rows last, events = script rows last := by
  induction events with
  | nil => exact ⟨[], [], rfl⟩
  | cons event rest ih =>
    obtain ⟨rows, last, rfl⟩ := ih
    cases event with
    | newline => exact ⟨[] :: rows, last, (script_cons [] rows last).symm⟩
    | insert text =>
      cases rows with
      | nil => exact ⟨[], text :: last, rfl⟩
      | cons row rows =>
        refine ⟨(text :: row) :: rows, last, ?_⟩
        rw [script_cons, script_cons, List.map_cons, List.cons_append]

theorem count_newline_script (rows : List (List Text)) (last : List Text) :
    (script rows last).count newline = rows.length := by
  have inserts (row : List Text) : (row.map insert).count newline = 0 :=
    List.count_eq_zero_of_not_mem (by simp)
  induction rows with
  | nil => exact inserts last
  | cons row rows ih =>
    rw [script_cons, List.count_append, inserts, List.count_cons_self, ih, List.length_cons, Nat.zero_add]

theorem filterMap_inserted?_script (rows : List (List Text)) (last : List Text) :
    (script rows last).filterMap inserted? = rows.flatten ++ last := by
  have inserts (row : List Text) : (row.map insert).filterMap inserted? = row := by
    rw [List.filterMap_map]
    exact List.filterMap_some
  induction rows with
  | nil => exact inserts last
  | cons row rows ih =>
    rw [script_cons, List.filterMap_append, inserts, List.filterMap_cons_none (by rfl), ih, List.flatten_cons,
      List.append_assoc]

end Event

namespace Buffer

variable {indent newline : Text}

/-! ## What a buffer holds -/

theorem layout_extend (buffer : Buffer) (events : List Event) :
    (buffer.extend events).layout = buffer.layout ++ events.flatMap buffer.written := by
  induction events generalizing buffer with
  | nil => exact (List.append_nil _).symm
  | cons event rest ih =>
    have same : (buffer.push event).written = buffer.written := by
      funext other
      cases other <;> rfl
    rw [List.flatMap_cons, ← List.append_assoc, ← layout_push, ← same]
    exact ih (buffer.push event)

/-- At the start of a line the indentation is the end of all that was written, and it is what the text lacks. -/
theorem value_append_indent {buffer : Buffer} (atStart : buffer.atLineStart = true) :
    buffer.value ++ buffer.indent = buffer.layout := by
  obtain ⟨indent, newline, events⟩ := buffer
  obtain _ | ⟨event, events⟩ := events
  · rw [value_nil, List.nil_append, layout, List.reverse_nil, List.flatMap_nil, List.append_nil]
  · cases event with
    | insert text => cases atStart
    | newline =>
      rw [value_newline, List.append_assoc]
      exact (layout_push ⟨indent, newline, events⟩ .newline).symm

/-- Lines that are indented and ended, one for each row. -/
def lines (indent newline : Text) (rows : List (List Text)) : Text :=
  rows.flatMap fun row => indent ++ row.flatten ++ newline

theorem flatMap_written_inserts (buffer : Buffer) (row : List Text) :
    (row.map Event.insert).flatMap buffer.written = row.flatten := by
  rw [List.flatMap_map, List.flatten_eq_flatMap]
  rfl

/-- What is written for rows: the lines, and the indentation with the texts after the last break. -/
theorem layout_script (indent newline : Text) (rows : List (List Text)) (last : List Text) :
    ((start indent newline).extend (Event.script rows last)).layout =
      lines indent newline rows ++ (indent ++ last.flatten) := by
  have begins : (start indent newline).layout = indent := List.append_nil _
  rw [layout_extend, begins]
  induction rows with
  | nil =>
    rw [Event.script, List.flatMap_nil, List.nil_append, flatMap_written_inserts]
    rfl
  | cons row rows ih =>
    have breaks : (start indent newline).written .newline = newline ++ indent := rfl
    rw [Event.script_cons, List.flatMap_append, flatMap_written_inserts, List.flatMap_cons, breaks, lines,
      List.flatMap_cons, List.append_assoc, List.append_assoc, ← lines, ← ih]
    simp only [List.append_assoc]

/-- Nothing was inserted after the last break exactly if the last row is empty. -/
theorem atLineStart_script (indent newline : Text) (rows : List (List Text)) (last : List Text) :
    ((start indent newline).extend (Event.script rows last)).atLineStart = last.isEmpty := by
  rcases List.eq_nil_or_concat' last with rfl | ⟨earlier, text, rfl⟩
  · rcases List.eq_nil_or_concat' rows with rfl | ⟨others, row, rfl⟩
    · rfl
    · have steps : Event.script (others ++ [row]) [] = Event.script others row ++ [.newline] := by simp [Event.script]
      rw [steps, extend_append]
      rfl
  · have steps : Event.script rows (earlier ++ [text]) = Event.script rows earlier ++ [.insert text] := by
      simp [Event.script]
    rw [steps, extend_append, List.isEmpty_eq_false_iff.mpr (by simp)]
    rfl

/-- A row in which nothing was inserted is left out. -/
theorem value_script_nil (indent newline : Text) (rows : List (List Text)) :
    ((start indent newline).extend (Event.script rows [])).value = lines indent newline rows := by
  have kept := value_append_indent (atLineStart_script indent newline rows [])
  rw [layout_script, List.flatten_nil, List.append_nil, indent_extend] at kept
  exact List.append_cancel_right kept

theorem value_script_of_ne_nil (indent newline : Text) (rows : List (List Text)) {last : List Text}
    (begun : last ≠ []) :
    ((start indent newline).extend (Event.script rows last)).value =
      lines indent newline rows ++ (indent ++ last.flatten) := by
  have inside := atLineStart_script indent newline rows last
  rw [List.isEmpty_eq_false_iff.mpr begun] at inside
  rw [value, inside, if_neg Bool.false_ne_true, layout_script]

/-! ## Regions -/

/-- What ends in a line feed, or is empty, is a region as it stands. -/
theorem asRegion_lines (ends : newline.getLast? = some '\n') (rows : List (List Text)) :
    (lines indent newline rows).asRegion newline = lines indent newline rows := by
  rcases List.eq_nil_or_concat' rows with rfl | ⟨others, row, rfl⟩
  · rfl
  · have nonempty : newline ≠ [] := by
      rintro rfl
      cases ends
    have last : (lines indent newline (others ++ [row])).getLast? = some '\n' := by
      rw [lines, List.flatMap_append, List.flatMap_singleton, ← List.append_assoc,
        List.getLast?_append_of_ne_nil _ nonempty, ends]
    rw [asRegion, last, beq_self_eq_true, Bool.or_true, if_pos rfl]

/-- Any other text gets a line end of its own. -/
theorem asRegion_of_feedless {before text : Text} (nonempty : text ≠ []) (feedless : '\n' ∉ text) :
    (before ++ text).asRegion newline = before ++ text ++ newline := by
  have something : (before ++ text).isEmpty = false := by simp [nonempty]
  have last : ((before ++ text).getLast? == some '\n') = false := by
    rw [List.getLast?_append_of_ne_nil _ nonempty, beq_eq_false_iff_ne]
    exact fun isFeed => feedless (List.mem_of_getLast? isFeed)
  rw [asRegion, something, last, Bool.or_false, if_neg Bool.false_ne_true]

/-- The region of rows, and of texts after the last break: a line for each row, and one more if some text was inserted
after the last break and that line is not empty. No line holds a line feed but the one that ends it. -/
structure IsRegion (indent newline : Text) (rows : List (List Text)) (last : List Text) (region : Text) : Prop where
  begun : last ≠ [] → indent ++ last.flatten ≠ [] → region = lines indent newline (rows ++ [last])
  otherwise : last = [] ∨ indent ++ last.flatten = [] → region = lines indent newline rows
  feedless : ∀ row ∈ rows ++ [last], '\n' ∉ indent ++ row.flatten

theorem flatten_concat (rows : List (List Text)) (last : List Text) :
    (rows ++ [last]).flatten = rows.flatten ++ last := by
  rw [List.flatten_append, List.flatten_singleton]

theorem feedless_row {rows : List (List Text)} {last row : List Text} (plain : '\n' ∉ indent)
    (feedless : ∀ text ∈ rows.flatten ++ last, '\n' ∉ text) (member : row ∈ rows ++ [last]) :
    '\n' ∉ indent ++ row.flatten := by
  rw [List.mem_append, List.mem_flatten, not_or]
  refine ⟨plain, ?_⟩
  rintro ⟨text, inRow, isFeed⟩
  refine feedless text ?_ isFeed
  rw [← flatten_concat]
  exact List.mem_flatten_of_mem member inRow

theorem isRegion_script {rows : List (List Text)} {last : List Text} (ends : newline.getLast? = some '\n')
    (plain : '\n' ∉ indent) (feedless : ∀ text ∈ rows.flatten ++ last, '\n' ∉ text) :
    IsRegion indent newline rows last
      (((start indent newline).extend (Event.script rows last)).value.asRegion newline) where
  begun inserted nonempty := by
    have inLine : '\n' ∉ indent ++ last.flatten := feedless_row plain feedless List.mem_concat_self
    rw [value_script_of_ne_nil _ _ _ inserted, asRegion_of_feedless nonempty inLine, lines, lines, List.flatMap_append,
      List.flatMap_singleton, List.append_assoc]
  otherwise nothing := by
    have value : ((start indent newline).extend (Event.script rows last)).value = lines indent newline rows := by
      by_cases begun : last = []
      · rw [begun, value_script_nil]
      · rw [value_script_of_ne_nil _ _ _ begun, nothing.resolve_left begun, List.append_nil]
    rw [value, asRegion_lines ends]
  feedless row member := feedless_row plain feedless member

/-- Every text that was inserted stays, and so do its blanks. -/
theorem IsRegion.sublist {rows : List (List Text)} {last : List Text} {region : Text}
    (isRegion : IsRegion indent newline rows last region) :
    (rows.flatten ++ last).flatten.Sublist region := by
  have inLines (rows : List (List Text)) : rows.flatten.flatten.Sublist (lines indent newline rows) := by
    induction rows with
    | nil => exact List.Sublist.refl _
    | cons row rows ih =>
      rw [List.flatten_cons, List.flatten_append, lines, List.flatMap_cons]
      refine List.Sublist.append ?_ ih
      exact (List.sublist_append_right indent _).trans (List.sublist_append_left _ newline)
  by_cases nothing : last = [] ∨ indent ++ last.flatten = []
  · have dropped : last.flatten = [] := by
      rcases nothing with rfl | blank
      · rfl
      · exact (List.append_eq_nil_iff.mp blank).2
    rw [isRegion.otherwise nothing, List.flatten_append, dropped, List.append_nil]
    exact inLines rows
  · rw [not_or] at nothing
    rw [isRegion.begun nothing.1 nothing.2, ← flatten_concat]
    exact inLines (rows ++ [last])

end Buffer

namespace Expansion

open Directive Buffer

/-- What a call generates is the region of the steps of writing that it makes. -/
theorem exists_steps_of_generate {program : Program} {limits : Limits} {directive : Directive} {name : Text}
    {arguments : List Value} {text : Text} (calls : directive.header = .funcall name arguments)
    (made : generate program limits directive = .ok text) :
    ∃ rounds events, program.call limits name arguments (some directive.line)
        (.start (.start directive.indent directive.newline)) =
        (.ok (), ⟨0, rounds, (start directive.indent directive.newline).extend events⟩) ∧
      text = ((start directive.indent directive.newline).extend events).value.asRegion directive.newline := by
  obtain ⟨outcome, rounds, events, ran⟩ := program.call_onlyAppends limits name arguments (some directive.line) 0 0
  have called := ran (start directive.indent directive.newline)
  unfold generate at made
  rw [calls] at made
  simp only [Machine.start, called] at made
  cases outcome with
  | error failure => cases made
  | ok done =>
    cases made
    exact ⟨rounds, events, called, rfl⟩

/-- Steps of writing whose texts hold no line feed give a region of lines, each of them the indentation with the texts
that were inserted on it, and one line end. There is a line for each break, and one more if some text was inserted after
the last break and that line is not empty; all that was inserted is kept. The region of a call is made of such steps. -/
theorem region_rows {indent newline : Text} (blank : ∀ c ∈ indent, c = ' ' ∨ c = '\t')
    (ends : newline = ['\n'] ∨ newline = ['\r', '\n']) :
    (∀ events : List Event, (∀ text, .insert text ∈ events → '\n' ∉ text) →
      let value := ((start indent newline).extend events).value
      ∃ rows last, events = Event.script rows last ∧ rows.length = events.count .newline ∧
        (value = [] → value.asRegion newline = []) ∧ IsRegion indent newline rows last (value.asRegion newline) ∧
        (events.filterMap Event.inserted?).flatten.Sublist (value.asRegion newline)) ∧
    ∀ (program : Program) (limits : Limits) (directive : Directive) (name : Text) (arguments : List Value)
      (text : Text), directive.header = .funcall name arguments → directive.indent = indent →
      directive.newline = newline →
      generate program limits directive = .ok text →
      ∃ rounds events, program.call limits name arguments (some directive.line) (.start (.start indent newline)) =
          (.ok (), ⟨0, rounds, (start indent newline).extend events⟩) ∧
        text = ((start indent newline).extend events).value.asRegion newline := by
  constructor
  · intro events feedless value
    obtain ⟨rows, last, rfl⟩ := Event.exists_script events
    have plain : '\n' ∉ indent := by
      intro member
      rcases blank _ member with isSpace | isTab
      · exact absurd isSpace (by decide)
      · exact absurd isTab (by decide)
    have endsInFeed : newline.getLast? = some '\n' := by
      rcases ends with rfl | rfl
      · rfl
      · rfl
    have isRegion : IsRegion indent newline rows last (value.asRegion newline) := by
      apply isRegion_script endsInFeed plain
      intro text member
      rw [← Event.filterMap_inserted?_script, List.mem_filterMap] at member
      obtain ⟨event, member, inserts⟩ := member
      cases event with
      | newline => cases inserts
      | insert other =>
        cases inserts
        exact feedless text member
    refine ⟨rows, last, rfl, (Event.count_newline_script rows last).symm, ?_, isRegion, ?_⟩
    · intro empty
      rw [empty]
      rfl
    · rw [Event.filterMap_inserted?_script]
      exact isRegion.sublist
  · rintro program limits directive name arguments text calls rfl rfl made
    exact exists_steps_of_generate calls made

/-- A text that ends in a blank, two breaks in a row, and an empty text after them. -/
def emptyRows : List Event := [.insert "a ".toList, .insert "b ".toList, .newline, .newline, .insert []]

/-- A function that ends its last line. -/
def endsLine : Program :=
  ⟨[("f".toList, ⟨["x".toList], [.insert [.reference "x".toList none] none, .newline none], none⟩)], []⟩

theorem region_rows_emptyRows :
    (∀ text, .insert text ∈ emptyRows → '\n' ∉ text) ∧
    (∃ rows last, emptyRows = Event.script rows last ∧ rows.length = 2 ∧
      IsRegion ['\t'] ['\r', '\n'] rows last "\ta b \r\n\t\r\n\t\r\n".toList) ∧
    ∃ directive, scan "\tautoc:funcall f 3\r\nautoc#".toList = .ok [directive] ∧
      ∃ rounds events, endsLine.call {} "f".toList [.int 3] (some directive.line)
          (.start (.start ['\t'] ['\r', '\n'])) =
          (.ok (), ⟨0, rounds, (start ['\t'] ['\r', '\n']).extend events⟩) ∧
        "\t3\r\n".toList = ((start ['\t'] ['\r', '\n']).extend events).value.asRegion ['\r', '\n'] := by
  obtain ⟨ofSteps, ofCall⟩ := region_rows (by simp : ∀ c ∈ ['\t'], c = ' ' ∨ c = '\t') (.inr rfl)
  have feedless : ∀ text, .insert text ∈ emptyRows → '\n' ∉ text := by
    simp [emptyRows]
  obtain ⟨rows, last, split, count, -, isRegion, -⟩ := ofSteps emptyRows feedless
  have evaluated : succeedsWith (fun directives => directives.map (fun directive => (directive.header, directive.indent,
        directive.newline)) == [(.funcall "f".toList [.int 3], ['\t'], ['\r', '\n'])] &&
      directives.all fun directive => succeedsWith (fun text => text == "\t3\r\n".toList)
        (generate endsLine {} directive)) (scan "\tautoc:funcall f 3\r\nautoc#".toList) = true := by decide +kernel
  obtain ⟨directives, scanned, test⟩ := exists_of_succeedsWith evaluated
  obtain ⟨only, generates⟩ := Bool.and_eq_true_iff.mp test
  obtain ⟨directive, rfl, parts⟩ := List.map_eq_singleton_iff.mp (eq_of_beq only)
  simp only [Prod.mk.injEq] at parts
  rw [List.all_cons, List.all_nil, Bool.and_true] at generates
  obtain ⟨text, made, same⟩ := exists_of_succeedsWith generates
  obtain rfl := eq_of_beq same
  exact ⟨feedless, ⟨rows, last, split, count, isRegion⟩, directive, scanned,
    ofCall endsLine {} directive _ _ _ parts.1 parts.2.1 parts.2.2 made⟩

end Expansion

end Regen
