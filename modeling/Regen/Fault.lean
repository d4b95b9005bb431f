import Regen.Kind
import Regen.Located
import Regen.Node

/-!
# Faults

Every reason for which a document cannot be expanded is a `Fault`, with its wording in `Fault.message`. A
`Failure` is a fault with its place, or one of the ways to stop that carry no place of their own.
-/

namespace Regen

/-- Why a header does not fit the kind of its directive. -/
inductive HeaderFault where
  | definitionShape
  | parameterNotName
  | duplicateParameter
  | callShape
  | argumentNotLiteral
  | nameShape
  | formatShape
  | templateSlots
  | messageShape
deriving DecidableEq, Repr

namespace HeaderFault

/-- What a header of the kind has to look like. -/
def message : HeaderFault → Text
  | definitionShape => "expected NAME (PARAM*)".toList
  | parameterNotName => "parameters must be names".toList
  | duplicateParameter => "duplicate parameter name".toList
  | callShape => "expected NAME ARG*".toList
  | argumentNotLiteral => "arguments must be literals".toList
  | nameShape => "expected NAME".toList
  | formatShape => "expected NAME \"TEMPLATE\"".toList
  | templateSlots => "template must contain exactly one %s".toList
  | messageShape => "expected \"TEXT\"".toList

end HeaderFault

/-- The families of faults. -/
inductive Category where
  /-- Any fault at all. -/
  | general
  /-- A malformed directive or body. -/
  | scan
  /-- A failure of evaluation that has no family of its own. -/
  | evaluation
  | undefinedFunction
  | arityMismatch
  | typeMismatch
  | undefinedName
  | resourceLimit
deriving DecidableEq, Repr

namespace Category

/-- The families, each with the name that reports give it. -/
def all : List Category :=
  [general, scan, evaluation, undefinedFunction, arityMismatch, typeMismatch, undefinedName, resourceLimit]

def name : Category → Text
  | general => "AutocError".toList
  | scan => "ScanError".toList
  | evaluation => "EvalError".toList
  | undefinedFunction => "UndefinedFunction".toList
  | arityMismatch => "ArityMismatch".toList
  | typeMismatch => "TypeMismatch".toList
  | undefinedName => "UndefinedName".toList
  | resourceLimit => "ResourceLimitExceeded".toList

def ofName? (name : Text) : Option Category := all.find? fun category => category.name == name

/-- Whether faults of this family arise while output is generated. -/
def isEvaluation : Category → Bool
  | general | scan => false
  | _ => true

end Category

/-- Why a document cannot be expanded. -/
inductive Fault where
  /-- The text ends inside a string. -/
  | unterminatedString
  /-- A closing parenthesis without an opening one. -/
  | unexpectedClose
  /-- An opening parenthesis without a closing one. -/
  | unclosedList
  /-- A literal or name where a form is due. -/
  | notAForm (found : Value)
  | emptyForm
  | unnamedForm
  | insertWithoutArguments
  | newlineWithArguments
  | loopShape
  | loopCounterNotName
  | callWithoutName
  /-- A list where an argument is due. -/
  | nestedArgument
  | unknownForm (name : Text)
  | malformedHeader (kind : Kind) (reason : HeaderFault)
  | unknownKind (name : Text)
  /-- An open marker before the directive opened on the line given is closed. -/
  | nestedDirective (opened : Nat)
  | strayClose
  | neverClosed (kind : Kind)
  | undefinedFunction (name : Text)
  | wrongArity (function : Text) (expected given : Nat)
  | undefinedVariable (name : Text)
  | undefinedCollection (name : Text)
  | loopCountType (value : Value)
  | tooManyIterations (limit : Int)
  | callsTooDeep (limit : Int) (function : Text)
  /-- The stack ran out below the call of the function given before the limit on calls was reached. -/
  | callStackExhausted (function : Text) (limit : Int)
  /-- Generated text would be taken for a marker. -/
  | markerInOutput
deriving DecidableEq, Repr

namespace Fault

def category : Fault → Category
  | undefinedFunction _ => .undefinedFunction
  | wrongArity .. => .arityMismatch
  | undefinedVariable _ | undefinedCollection _ => .undefinedName
  | loopCountType _ => .typeMismatch
  | tooManyIterations _ | callsTooDeep .. | callStackExhausted .. => .resourceLimit
  | markerInOutput => .evaluation
  | _ => .scan

/-- A name between single quotes, as it is. -/
def named (name : Text) : Text := '\'' :: name ++ ['\'']

def message : Fault → Text
  | unterminatedString => "unterminated string literal".toList
  | unexpectedClose => "unexpected ')'".toList
  | unclosedList => "unbalanced '(': missing ')'".toList
  | notAForm found => "expected a form, found ".toList ++ found.shown
  | emptyForm => "empty form '()'".toList
  | unnamedForm => "form must start with a name".toList
  | insertWithoutArguments => "insert expects at least one argument".toList
  | newlineWithArguments => "newline-and-indent takes no arguments".toList
  | loopShape => "dotimes expects (dotimes (VAR COUNT) BODY...)".toList
  | loopCounterNotName => "dotimes variable must be a name".toList
  | callWithoutName => "funcall expects a function name".toList
  | nestedArgument => "arguments must be literals or variable names, not forms".toList
  | unknownForm name => "unknown form ".toList ++ named name
  | malformedHeader kind reason =>
    "malformed ".toList ++ named kind.name ++ " header: ".toList ++ reason.message
  | unknownKind name => "unknown directive kind ".toList ++ named name
  | nestedDirective opened =>
    "directive opened before the one on line ".toList ++ Text.ofNat opened ++
      " was closed (directives do not nest)".toList
  | strayClose => "close marker without a matching open marker".toList
  | neverClosed kind => named kind.name ++ " directive is never closed with autoc#".toList
  | undefinedFunction name => "undefined function ".toList ++ named name
  | wrongArity function expected given =>
    "function ".toList ++ named function ++ " expects ".toList ++ Text.ofNat expected ++
      " argument(s) but got ".toList ++ Text.ofNat given
  | undefinedVariable name => "undefined variable ".toList ++ named name
  | undefinedCollection name => "undefined line collection ".toList ++ named name
  | loopCountType value => "dotimes count must be a non-negative integer, got ".toList ++ value.shown
  | tooManyIterations limit => "more than ".toList ++ Text.ofInt limit ++ " loop iterations".toList
  | callsTooDeep limit function =>
    "call depth exceeded ".toList ++ Text.ofInt limit ++ " in ".toList ++ named function
  | callStackExhausted function limit =>
    "call depth in ".toList ++ named function ++ " exceeded the interpreter stack (max_call_depth is ".toList ++
      Text.ofInt limit ++ ")".toList
  | markerInOutput => "generated text contains a directive marker ('autoc:' or 'autoc#')".toList

/-- Whether the wording of a fault can be written. It shows values and limits, which may have too many digits. -/
def isWritable : Fault → Bool
  | notAForm value | loopCountType value => value.isWritable
  | tooManyIterations limit | callsTooDeep limit _ | callStackExhausted _ limit => (Value.int limit).isWritable
  | _ => true

end Fault

/-- What a report says about a fault: its family and its wording. -/
structure Complaint where
  category : Category
  message : Text
deriving DecidableEq, Repr

def Fault.complaint (fault : Fault) : Complaint := ⟨fault.category, fault.message⟩

/-- A report on one line: the place as far as it is known, the family and the wording. -/
def Located.render (report : Located Complaint) : Text :=
  let what := report.content.category.name ++ ": ".toList ++ report.content.message
  match report.shownFile, report.line with
  | some file, some line => file ++ ":".toList ++ Text.ofInt line ++ ": ".toList ++ what
  | some file, none => file ++ ": ".toList ++ what
  | none, some line => "line ".toList ++ Text.ofInt line ++ ": ".toList ++ what
  | none, none => what

/-- How the work on a document stops short. -/
inductive Failure where
  /-- A fault of the document, with its place. -/
  | fault (fault : Located Fault)
  /-- An integer with more digits than can be converted. Their number is known of an integer that is read. -/
  | oversizedInteger (digits : Option Nat)
  /-- A node that is no form, in a body. -/
  | misplacedForm (node : Node)
  /-- A node without a value, as an argument. -/
  | misplacedExpression (node : Node)
  /-- The stack ran out. -/
  | stackExhausted
  /-- A replacement that overlaps the one before it or leaves the text. -/
  | badSpan (start stop : Int)
deriving Repr

namespace Failure

/-- A fault on a line. Its wording is written right away. -/
def onLine (fault : Fault) (line : Option Int) : Failure :=
  if fault.isWritable then .fault ⟨fault, line, none⟩ else .oversizedInteger none

def message : Failure → Text
  | fault f => f.content.message
  | oversizedInteger digits =>
    let number := match digits with
      | some digits => ": value has ".toList ++ Text.ofNat digits ++ " digits".toList
      | none => []
    "Exceeds the limit (4300 digits) for integer string conversion".toList ++ number ++
      "; use sys.set_int_max_str_digits() to increase the limit".toList
  | misplacedForm node => "unknown form node ".toList ++ node.shown
  | misplacedExpression node => "unknown expression node ".toList ++ node.shown
  | stackExhausted => "maximum recursion depth exceeded".toList
  | badSpan start stop =>
    "invalid or overlapping region span (".toList ++ Text.ofInt start ++ ", ".toList ++ Text.ofInt stop ++
      ")".toList

/-- Fills in the place of a fault; the other failures have none. -/
def locate (line : Option Int) (file : Option Text) : Failure → Failure
  | fault f => fault (f.locate line file)
  | failure => failure

end Failure

end Regen
