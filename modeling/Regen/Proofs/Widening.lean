import Regen.Proofs.Rescan

/-! # Wider line ends

A directive whose line end changes from a carriage return to a carriage return with a line feed writes the same
steps with the wider line end. Whatever it generated before it still generates, without any new unbroken text in it
and never shorter.
-/

namespace Regen

namespace Text

variable {text wide part : Text}

/-- The second text is the first one with line feeds added after some of its carriage returns. -/
inductive Widens : (text wide : Text) → Prop
  | nil : Widens [] []
  | cons (c : Char) {text wide : Text} (rest : Widens text wide) : Widens (c :: text) (c :: wide)
  | feed {text wide : Text} (rest : Widens text wide) : Widens ('\r' :: text) ('\r' :: '\n' :: wide)

namespace Widens

theorem refl (text : Text) : Widens text text := by
  induction text with
  | nil => exact .nil
  | cons c rest ih => exact .cons c ih

theorem append {text' wide' : Text} (first : Widens text wide) (second : Widens text' wide') :
    Widens (text ++ text') (wide ++ wide') := by
  induction first with
  | nil => exact second
  | cons c _ ih => exact .cons c ih
  | feed _ ih => exact .feed ih

theorem flatMap {α : Type} {write writeWide : α → Text} (each : ∀ a, Widens (write a) (writeWide a)) (items : List α) :
    Widens (items.flatMap write) (items.flatMap writeWide) := by
  induction items with
  | nil => exact .nil
  | cons a rest ih => exact (each a).append ih

theorem length_le (widens : Widens text wide) : text.length ≤ wide.length := by
  induction widens with
  | nil => exact le_rfl
  | cons c _ ih => exact Nat.succ_le_succ ih
  | feed _ ih => exact Nat.succ_le_succ (Nat.le_succ_of_le ih)

/-- A text that got no longer got no line feed. -/
theorem eq_of_length_le (widens : Widens text wide) (short : wide.length ≤ text.length) : wide = text := by
  induction widens with
  | nil => rfl
  | cons c _ ih => rw [ih (Nat.le_of_succ_le_succ short)]
  | feed rest _ =>
    have longer := rest.length_le
    simp only [List.length_cons] at short
    omega

/-- Where no carriage return is passed, both texts start the same. -/
theorem isPrefix (widens : Widens text wide) (noReturn : '\r' ∉ part) (starts : part <+: wide) : part <+: text := by
  induction widens generalizing part with
  | nil => exact starts
  | cons c _ ih =>
    cases part with
    | nil => exact List.nil_prefix
    | cons d part =>
      obtain ⟨rfl, later⟩ := List.cons_prefix_cons.mp starts
      rw [List.mem_cons, not_or] at noReturn
      exact List.cons_prefix_cons.mpr ⟨rfl, ih noReturn.2 later⟩
  | feed _ _ =>
    cases part with
    | nil => exact List.nil_prefix
    | cons d part =>
      obtain ⟨rfl, _⟩ := List.cons_prefix_cons.mp starts
      exact absurd (List.mem_cons_self ..) noReturn

/-- The wider text holds no new text without line ends. -/
theorem isInfix (widens : Widens text wide) (noReturn : '\r' ∉ part) (noFeed : '\n' ∉ part) (found : part <:+: wide) :
    part <:+: text := by
  induction widens with
  | nil => exact found
  | cons c rest ih =>
    rcases List.infix_cons_iff.mp found with starts | later
    · exact ((Widens.cons c rest).isPrefix noReturn starts).isInfix
    · exact (ih later).trans (List.suffix_cons ..).isInfix
  | feed rest ih =>
    rcases List.infix_cons_iff.mp found with starts | found
    · exact ((Widens.feed rest).isPrefix noReturn starts).isInfix
    rcases List.infix_cons_iff.mp found with starts | later
    · cases part with
      | nil => exact List.nil_infix
      | cons d part =>
        obtain ⟨rfl, _⟩ := List.cons_prefix_cons.mp starts
        exact absurd (List.mem_cons_self ..) noFeed
    · exact (ih later).trans (List.suffix_cons ..).isInfix

theorem intercalate (rows : List Text) : Widens (['\r'].intercalate rows) (['\r', '\n'].intercalate rows) := by
  induction rows with
  | nil => exact .nil
  | cons row rows ih =>
    cases rows with
    | nil => simpa using refl row
    | cons next rest =>
      rw [List.intercalate_cons_cons, List.intercalate_cons_cons]
      exact ((refl row).append (.feed .nil)).append ih

end Widens

/-- The grown text is at least as long and holds no new text without line ends. -/
structure Outgrows (grown text : Text) : Prop where
  length_le : text.length ≤ grown.length
  isInfix : ∀ part, '\r' ∉ part → '\n' ∉ part → part <:+: grown → part <:+: text

theorem Widens.outgrows (widens : Widens text wide) : Outgrows wide text where
  length_le := widens.length_le
  isInfix _ noReturn noFeed found := widens.isInfix noReturn noFeed found

theorem infix_of_infix_concat {c : Char} (outside : c ∉ part) (found : part <:+: text ++ [c]) : part <:+: text := by
  rcases List.infix_concat_iff.mp found with isSuffix | found
  · rcases List.suffix_concat_iff.mp isSuffix with rfl | ⟨rest, rfl, _⟩
    · exact List.nil_infix
    · simp at outside
  · exact found

theorem prefix_asRegion (text newline : Text) : text <+: asRegion text newline := by
  unfold asRegion
  split
  · exact List.prefix_refl text
  · exact List.prefix_append text newline

theorem asRegion_prefix_append (text newline : Text) : asRegion text newline <+: text ++ newline := by
  unfold asRegion
  split
  · exact List.prefix_append text newline
  · exact List.prefix_refl _

/-- Ending the last line where it is not ended keeps the wider text ahead. -/
theorem Widens.asRegion (widens : Widens text wide) :
    Outgrows (asRegion wide ['\r', '\n']) (asRegion text ['\r']) where
  length_le := by
    have atLeast := (prefix_asRegion wide ['\r', '\n']).length_le
    have longer := widens.length_le
    unfold Text.asRegion at atLeast ⊢
    split
    · exact longer.trans atLeast
    · next notEnded =>
      split
      · next ended =>
        -- the last line of the wider text ends in a line feed that the other one lacks
        have differs : wide ≠ text := by
          rintro rfl
          exact notEnded ended
        have shorter : text.length < wide.length := by
          by_contra short
          exact differs (widens.eq_of_length_le (Nat.le_of_not_lt short))
        rw [List.length_append]
        exact shorter
      · simp only [List.length_append, List.length_cons, List.length_nil]
        omega
  isInfix part noReturn noFeed found := by
    have ended : part <:+: wide ++ ['\r', '\n'] := found.trans (asRegion_prefix_append wide _).isInfix
    have narrow := (widens.append (.feed .nil)).isInfix noReturn noFeed ended
    exact (infix_of_infix_concat noReturn narrow).trans (prefix_asRegion text _).isInfix

end Text

namespace Buffer

variable (indent newline : Text) (events : List Event)

/-- Indentation after the last line end is left out. -/
theorem value_newline :
    value ⟨indent, newline, .newline :: events⟩ = layout ⟨indent, newline, events⟩ ++ newline := by
  have shape : layout ⟨indent, newline, .newline :: events⟩ =
      layout ⟨indent, newline, events⟩ ++ newline ++ indent := by
    simp only [layout, List.reverse_cons, List.flatMap_append, List.flatMap_singleton, List.append_assoc]
    rfl
  have started : atLineStart ⟨indent, newline, .newline :: events⟩ = true := rfl
  rw [value, if_pos started, shape, List.length_append, Nat.add_sub_cancel, List.take_left]

theorem value_nil : value ⟨indent, newline, []⟩ = [] := by
  simp [value, atLineStart, layout]

theorem layout_widens :
    Text.Widens (layout ⟨indent, ['\r'], events⟩) (layout ⟨indent, ['\r', '\n'], events⟩) := by
  refine (Text.Widens.refl indent).append (.flatMap (fun event => ?_) _)
  cases event with
  | insert text => exact .refl text
  | newline => exact .feed (.refl indent)

theorem value_widens :
    Text.Widens (value ⟨indent, ['\r'], events⟩) (value ⟨indent, ['\r', '\n'], events⟩) := by
  cases events with
  | nil =>
    rw [value_nil, value_nil]
    exact .nil
  | cons event older =>
    cases event with
    | insert text => exact layout_widens indent (.insert text :: older)
    | newline =>
      rw [value_newline, value_newline]
      exact (layout_widens indent older).append (.feed .nil)

end Buffer

/-- A draft with the wider line end outgrows itself. -/
theorem Draft.text_widened (draft : Draft) : (draft.text ['\r', '\n']).Outgrows (draft.text ['\r']) := by
  cases draft with
  | steps indent events => exact (Buffer.value_widens indent events).asRegion
  | rows parts =>
    rw [text, text]
    split
    · exact Text.Widens.nil.outgrows
    · exact ((Text.Widens.intercalate parts).append (.feed .nil)).outgrows

namespace Expansion

open Directive

variable {program program' : Program} {limits : Limits} {directive directive' : Directive} {text : Text}

/-- With a wider line end a directive still generates its text, and never a shorter one. -/
theorem generate_widened (same : program.unplaced = program'.unplaced) (resembles : directive.Resembles directive')
    (narrow : directive.newline = ['\r']) (wide : directive'.newline = ['\r', '\n'])
    (generated : generate program limits directive = .ok text) :
    ∃ grown, generate program' limits directive' = .ok grown ∧ grown.Outgrows text := by
  have drafted := generate_drafted same limits resembles
  rw [generated, narrow, wide] at drafted
  obtain ⟨grown, made, draft, rfl, rfl⟩ := drafted.exists_ok
  exact ⟨_, made, draft.text_widened⟩

theorem region_widened (same : program.unplaced = program'.unplaced) (resembles : directive.Resembles directive')
    (narrow : directive.newline = ['\r']) (wide : directive'.newline = ['\r', '\n'])
    (success : region program limits directive = .ok text) :
    ∃ grown, region program' limits directive' = .ok grown ∧ text.length ≤ grown.length := by
  obtain ⟨generated, noOpen, noClose⟩ := generate_of_region success
  obtain ⟨grown, made, outgrows⟩ := generate_widened same resembles narrow wide generated
  have clean : ¬ (openToken.occursIn grown || closeToken.occursIn grown) = true := by
    rw [Bool.or_eq_true, not_or, Text.occursIn_iff_infix, Text.occursIn_iff_infix]
    exact ⟨fun found => noOpen (outgrows.isInfix _ (by decide) (by decide) found),
      fun found => noClose (outgrows.isInfix _ (by decide) (by decide) found)⟩
  refine ⟨grown, ?_, outgrows.length_le⟩
  rw [region, made]
  exact if_neg clean

end Expansion

end Regen
