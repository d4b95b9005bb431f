import Regen.Proofs.Placeless
import Regen.Proofs.Printing

/-! # Bodies that are written and read

A form is written as the datum that denotes it, and that datum is read as the form. So every body whose names are names
and whose integers can be written is, once it is printed and read, the same body on other lines.
-/

namespace Regen

/-- The atom that denotes a value; a truth value has none of its own and goes by its name. -/
def Value.atom : Value → Atom
  | int n => .integer n
  | text chars => .string chars
  | bool b => .symbol (bool b).written

namespace Node

/-- An expression that can be written: a text, an integer without too many digits, or a name. -/
inductive IsExpressible : Node → Prop
  | text (chars : Text) (line : Option Int) : IsExpressible (literal (.text chars) line)
  | integer {n : Int} (line : Option Int) (short : (Value.int n).isWritable = true) :
      IsExpressible (literal (.int n) line)
  | reference {name : Text} (line : Option Int) (isName : name.IsName) : IsExpressible (reference name line)

/-- A form that can be written: its names are names, its expressions can be written, and an insert has some. -/
inductive IsPrintable : Node → Prop
  | insert {arguments : List Node} (line : Option Int) (nonempty : arguments ≠ [])
      (expressible : ∀ argument ∈ arguments, argument.IsExpressible) : IsPrintable (insert arguments line)
  | newline (line : Option Int) : IsPrintable (newline line)
  | loop {counter : Text} {count : Node} {body : List Node} (line : Option Int) (isName : counter.IsName)
      (expressible : count.IsExpressible) (printable : ∀ form ∈ body, form.IsPrintable) :
      IsPrintable (loop counter count body line)
  | call {function : Text} {arguments : List Node} (line : Option Int) (isName : function.IsName)
      (expressible : ∀ argument ∈ arguments, argument.IsExpressible) : IsPrintable (call function arguments line)

/-- A list that starts with a name. -/
def listOf (name : Text) (parts : List Datum) (line : Int) : Datum := .list (.atom (.symbol name) line :: parts) line

mutual

def datum : Node → Datum
  | literal value line => .atom value.atom (line.getD 0)
  | reference name line => .atom (.symbol name) (line.getD 0)
  | insert arguments line => listOf "insert".toList (data arguments) (line.getD 0)
  | newline line => listOf "newline-and-indent".toList [] (line.getD 0)
  | loop counter count body line =>
    listOf "dotimes".toList (listOf counter [count.datum] (line.getD 0) :: data body) (line.getD 0)
  | call function arguments line =>
    listOf "funcall".toList (.atom (.symbol function) (line.getD 0) :: data arguments) (line.getD 0)

def data : List Node → List Datum
  | [] => []
  | node :: rest => node.datum :: data rest

end

@[simp] theorem data_eq_map (nodes : List Node) : data nodes = nodes.map datum := by
  induction nodes with
  | nil => rfl
  | cons node rest ih => rw [data, ih, List.map_cons]

@[simp] theorem printForms_eq_map (forms : List Node) : printForms forms = forms.map print := by
  induction forms with
  | nil => rfl
  | cons form rest ih => rw [printForms, ih, List.map_cons]

/-- The line of a node that is read from the datum that denotes it. -/
def datumLine (line : Option Int) : Option Int := some (line.getD 0)

namespace IsExpressible

variable {expression : Node}

theorem print_datum (expressible : expression.IsExpressible) : expression.datum.print = expression.printExpression := by
  cases expressible <;> rfl

theorem datum_isPrintable (expressible : expression.IsExpressible) : expression.datum.IsPrintable := by
  cases expressible with
  | text chars line => exact .atom _ trivial
  | integer line short => exact .atom _ short
  | reference line isName => exact .atom _ isName

theorem ofArgument_datum (expressible : expression.IsExpressible) :
    ofArgument expression.datum = .ok (expression.relocate datumLine) := by
  cases expressible <;> rfl

theorem map_print_datum {expressions : List Node} (expressible : ∀ e ∈ expressions, e.IsExpressible) :
    (expressions.map datum).map Datum.print = expressions.map printExpression := by
  rw [List.map_map]
  exact List.map_congr_left fun e member => (expressible e member).print_datum

theorem mapM_ofArgument {expressions : List Node} (expressible : ∀ e ∈ expressions, e.IsExpressible) :
    (expressions.map datum).mapM ofArgument = .ok (expressions.map (relocate datumLine)) :=
  mapM_map_eq_ok fun e member => (expressible e member).ofArgument_datum

end IsExpressible

theorem isPrintable_listOf {name : Text} {parts : List Datum} (line : Int) (isName : name.IsName)
    (printable : ∀ part ∈ parts, part.IsPrintable) : (listOf name parts line).IsPrintable :=
  .list line (List.forall_mem_cons.mpr ⟨.atom line isName, printable⟩)

namespace IsPrintable

variable {form : Node}

/-- A form is written as the datum that denotes it. -/
theorem print_datum (printable : form.IsPrintable) : form.datum.print = form.print := by
  induction printable with
  | insert line nonempty expressible =>
    rw [datum, print, listOf, Datum.print_list, List.map_cons, data_eq_map, IsExpressible.map_print_datum expressible]
    rfl
  | newline line => rfl
  | @loop counter count body line isName expressible _ ih =>
    have forms : (body.map datum).map Datum.print = body.map print := by
      rw [List.map_map]
      exact List.map_congr_left ih
    rw [datum, print, listOf, listOf, Datum.print_list, List.map_cons, List.map_cons, Datum.print_list, data_eq_map,
      forms, printForms_eq_map, List.map_cons, List.map_singleton, expressible.print_datum]
    rfl
  | call line isName expressible =>
    rw [datum, print, listOf, Datum.print_list, List.map_cons, List.map_cons, data_eq_map,
      IsExpressible.map_print_datum expressible]
    rfl

theorem datum_isPrintable (printable : form.IsPrintable) : form.datum.IsPrintable := by
  induction printable with
  | insert line nonempty expressible =>
    rw [datum, data_eq_map]
    refine isPrintable_listOf _ (by decide) (List.forall_mem_map.mpr fun argument member => ?_)
    exact (expressible argument member).datum_isPrintable
  | newline line => exact isPrintable_listOf _ (by decide) (List.forall_mem_nil _)
  | loop line isName expressible _ ih =>
    rw [datum, data_eq_map]
    refine isPrintable_listOf _ (by decide) (List.forall_mem_cons.mpr ⟨?_, List.forall_mem_map.mpr ih⟩)
    exact isPrintable_listOf _ isName (List.forall_mem_singleton.mpr expressible.datum_isPrintable)
  | call line isName expressible =>
    rw [datum, data_eq_map]
    refine isPrintable_listOf _ (by decide) (List.forall_mem_cons.mpr ⟨.atom _ isName, ?_⟩)
    exact List.forall_mem_map.mpr fun argument member => (expressible argument member).datum_isPrintable

end IsPrintable

theorem ofData_eq_mapM (data : List Datum) : ofData data = data.mapM ofDatum := by
  induction data with
  | nil => rfl
  | cons datum rest ih => rw [ofData, ih, List.mapM_cons]

theorem ofData_map_datum {forms : List Node}
    (each : ∀ form ∈ forms, ofDatum form.datum = .ok (form.relocate datumLine)) :
    ofData (forms.map datum) = .ok (forms.map (relocate datumLine)) := by
  rw [ofData_eq_mapM]
  exact mapM_map_eq_ok each

/-- The datum that denotes a form is read as the form. -/
theorem IsPrintable.ofDatum_datum {form : Node} (printable : form.IsPrintable) :
    ofDatum form.datum = .ok (form.relocate datumLine) := by
  induction printable with
  | @insert arguments line nonempty expressible =>
    have someArgument : (arguments.map datum).isEmpty = false := by simpa using nonempty
    rw [datum, data_eq_map, listOf, relocate_insert, ofDatum.eq_def]
    dsimp only [Datum.symbol?]
    rw [if_pos rfl, someArgument, IsExpressible.mapM_ofArgument expressible]
    rfl
  | newline line => rfl
  | @loop counter count body line isName expressible _ ih =>
    rw [datum, data_eq_map, listOf, listOf, relocate_loop, ofDatum.eq_def]
    dsimp only [Datum.symbol?]
    rw [if_neg (by decide), if_neg (by decide), if_pos rfl, ofData_map_datum ih, expressible.ofArgument_datum]
    rfl
  | @call function arguments line isName expressible =>
    rw [datum, data_eq_map, listOf, relocate_call, ofDatum.eq_def]
    dsimp only [Datum.symbol?]
    rw [if_neg (by decide), if_neg (by decide), if_neg (by decide), if_pos rfl,
      IsExpressible.mapM_ofArgument expressible]
    rfl

/-- Data that are the same up to lines are read as forms that are. -/
theorem ofData_of_unplaced {data data' : List Datum} {forms : List Node}
    (same : data'.map Datum.unplaced = data.map Datum.unplaced) (read : ofData data = .ok forms) :
    ∃ forms', ofData data' = .ok forms' ∧ forms'.map unplaced = forms.map unplaced := by
  have agree := ofData_relocate (fun _ => 0) data'
  rw [same, ofData_relocate, read] at agree
  obtain ⟨forms', made, sameForms⟩ := relabel_eq_ok agree.symm
  have unplacedForms := congrArg (List.map unplaced) sameForms
  simp only [List.map_map, Function.comp_def, unplaced_relocate] at unplacedForms
  exact ⟨forms', made, unplacedForms⟩

/-- A body that is written and read is the same up to its lines. -/
theorem readBody_printBody {forms : List Node} (printable : ∀ form ∈ forms, form.IsPrintable) (line : Int) :
    ∃ read, readBody (printBody forms) line = .ok read ∧ read.map unplaced = forms.map unplaced := by
  have written : printBody forms = ['\n'].intercalate ((forms.map datum).map Datum.print) := by
    rw [printBody, printForms_eq_map, List.map_map]
    exact congrArg _ (List.map_congr_left fun form member => (printable form member).print_datum.symm)
  have dataPrintable : ∀ d ∈ forms.map datum, d.IsPrintable :=
    List.forall_mem_map.mpr fun form member => (printable form member).datum_isPrintable
  obtain ⟨data, dataRead, sameData⟩ := Datum.read_print (by decide : Text.isBlank '\n' = true) dataPrintable line
  have made := ofData_map_datum fun form member => (printable form member).ofDatum_datum
  obtain ⟨read, isRead, same⟩ := ofData_of_unplaced sameData made
  refine ⟨read, ?_, ?_⟩
  · rw [readBody, written, dataRead]
    exact isRead
  · rw [same, List.map_map]
    exact List.map_congr_left fun form _ => form.unplaced_relocate datumLine

/-- A loop in a loop, a text with characters that a literal escapes, and a name that starts like an integer. -/
def nested : List Node :=
  [.loop "n".toList (.literal (.int 3) none)
    [.insert [.literal (.text "a\"\\\nb".toList) none, .reference "n".toList none, .literal (.int (-12)) none] none,
      .loop "m".toList (.reference "n".toList none) [] none] none,
    .call "-f".toList [.literal (.text []) none] none]

theorem nested_isPrintable : ∀ form ∈ nested, form.IsPrintable := by
  have insertion : IsPrintable (.insert _ none) := .insert none (by simp)
    (List.forall_mem_cons.mpr ⟨.text "a\"\\\nb".toList none, List.forall_mem_cons.mpr
      ⟨.reference none (by decide : Text.IsName "n".toList), List.forall_mem_singleton.mpr
        (.integer none (by decide : (Value.int (-12)).isWritable = true))⟩⟩)
  have inner : IsPrintable (.loop "m".toList (.reference "n".toList none) [] none) :=
    .loop none (by decide) (.reference none (by decide)) (List.forall_mem_nil _)
  have outer := IsPrintable.loop none (by decide : Text.IsName "n".toList)
    (.integer none (by decide : (Value.int 3).isWritable = true))
    (List.forall_mem_cons.mpr ⟨insertion, List.forall_mem_singleton.mpr inner⟩)
  have calling : IsPrintable (.call "-f".toList [.literal (.text []) none] none) :=
    .call none (by decide) (List.forall_mem_singleton.mpr (.text [] none))
  exact List.forall_mem_cons.mpr ⟨outer, List.forall_mem_singleton.mpr calling⟩

theorem readBody_printBody_nested :
    printBody nested =
      "(dotimes (n 3) (insert \"a\\\"\\\\".toList ++ "\nb\" n -12) (dotimes (m n)))".toList ++
        "\n(funcall -f \"\")".toList ∧
    ∃ read, readBody (printBody nested) 7 = .ok read ∧ read.map unplaced = nested.map unplaced :=
  ⟨by decide +kernel, readBody_printBody nested_isPrintable 7⟩

end Node

end Regen
