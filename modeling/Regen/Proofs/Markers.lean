import Regen.Directive
import Regen.Proofs.Lines

/-! # Marker lines

Only a line that holds one of the two tokens is a marker line, so text without them adds none. A marker line has a
body of its own: it never starts with a break, and its terminator can be exchanged for another plain one without a
change to what the marker says.
-/

namespace Regen

namespace Text

theorem occursIn_iff_infix (needle text : Text) : occursIn needle text = true ↔ needle <:+: text := by
  induction text with
  | nil => simp [occursIn]
  | cons c rest ih => simp [occursIn, ih, List.infix_cons_iff]

end Text

namespace Marker

/-- An open marker holds the open token. -/
theorem infix_of_opening? {content : Text} {found : Text × Text × Text} (opens : opening? content = some found) :
    openToken <:+: content := by
  induction content generalizing found with
  | nil => cases opens
  | cons c rest ih =>
    rw [opening?] at opens
    split at opens
    · next name after atStart =>
      obtain ⟨remaining, isPrefix, _⟩ := Option.bind_eq_some_iff.mp atStart
      rw [List.isPrefixOf?_eq_some_iff_append_eq] at isPrefix
      exact ⟨[], remaining, by simpa using isPrefix⟩
    · obtain ⟨later, opens, _⟩ := Option.map_eq_some_iff.mp opens
      exact (ih opens).trans (List.suffix_cons ..).isInfix

/-- A line without the tokens has no marker. -/
theorem ofLine_eq_plain {content : Text} (noOpen : ¬ openToken <:+: content) (noClose : ¬ closeToken <:+: content) :
    ofLine content = .plain := by
  unfold ofLine
  split
  · next opens => exact absurd (infix_of_opening? opens) noOpen
  · rw [if_neg]
    rwa [Text.occursIn_iff_infix]

/-- A marker stands on a line that holds one of the tokens. -/
theorem infix_of_ofLine_ne_plain {content : Text} (marked : ofLine content ≠ .plain) :
    openToken <:+: content ∨ closeToken <:+: content := by
  by_contra neither
  rw [not_or] at neither
  exact marked (ofLine_eq_plain neither.1 neither.2)

end Marker

namespace Line

variable {line : Line}

def marker (line : Line) : Marker := Marker.ofLine line.content

theorem content_prefix (line : Line) : line.content <+: line.text := by
  unfold content
  split
  · exact List.prefix_append ..
  · exact List.prefix_refl _

/-- A marker needs more room than a terminator has. -/
theorem body_ne_nil_of_marker (proper : line.Proper) (marked : line.marker ≠ .plain) : line.body ≠ [] := by
  intro empty
  have short : line.content.length ≤ 2 := by
    refine line.content_prefix.length_le.trans ?_
    rw [text, empty, List.nil_append]
    rcases proper.ending with missing | pair | ⟨c, _, single⟩
    · simp [missing]
    · simp [pair]
    · simp [single]
  rcases Marker.infix_of_ofLine_ne_plain marked with found | found
  · exact absurd (found.length_le.trans short) (by decide)
  · exact absurd (found.length_le.trans short) (by decide)

/-- A line with a body starts with a character that is no break. -/
theorem head?_text_ne (proper : line.Proper) (nonempty : line.body ≠ []) {c : Char}
    (isBreak : Text.isLineBreak c = true) : line.text.head? ≠ some c := by
  obtain ⟨d, rest, body⟩ := List.exists_cons_of_ne_nil nonempty
  have plain := proper.unbroken d (by rw [body]; exact List.mem_cons_self ..)
  rw [text, body]
  rintro ⟨⟩
  rw [plain] at isBreak
  cases isBreak

end Line

end Regen
