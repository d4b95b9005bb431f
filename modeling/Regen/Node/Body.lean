import Regen.Datum
import Regen.Node

/-!
# Bodies of functions

A body is a sequence of data, each of which is a form: `(insert ARG...)`, `(newline-and-indent)`,
`(dotimes (VAR COUNT) FORM...)` or `(funcall NAME ARG...)`. Arguments are literals or names of variables. The
first datum that is none of these decides the fault.
-/

namespace Regen.Node

def ofArgument : Datum → Except Failure Node
  | .list _ line => .error (.onLine .nestedArgument (some line))
  | .atom (.symbol name) line => .ok (.reference name (some line))
  | .atom (.string chars) line => .ok (.literal (.text chars) (some line))
  | .atom (.integer n) line => .ok (.literal (.int n) (some line))

mutual

/-- The form that a datum denotes. The body of a loop is looked at before its count. -/
def ofDatum : Datum → Except Failure Node
  | .atom found line => .error (.onLine (.notAForm found.value) (some line))
  | .list [] line => .error (.onLine .emptyForm (some line))
  | .list (head :: rest) line =>
    match head.symbol? with
    | none => .error (.onLine .unnamedForm (some line))
    | some name =>
      if name = "insert".toList then
        if rest.isEmpty then .error (.onLine .insertWithoutArguments (some line))
        else do return .insert (← rest.mapM ofArgument) (some line)
      else if name = "newline-and-indent".toList then
        if rest.isEmpty then .ok (.newline (some line))
        else .error (.onLine .newlineWithArguments (some line))
      else if name = "dotimes".toList then
        match rest with
        | .list [counter, count] _ :: body =>
          match counter.symbol? with
          | none => .error (.onLine .loopCounterNotName (some line))
          | some counter => do
            let body ← ofData body
            return .loop counter (← ofArgument count) body (some line)
        | _ => .error (.onLine .loopShape (some line))
      else if name = "funcall".toList then
        match rest with
        | .atom (.symbol function) _ :: arguments => do
          return .call function (← arguments.mapM ofArgument) (some line)
        | _ => .error (.onLine .callWithoutName (some line))
      else .error (.onLine (.unknownForm name) (some line))

def ofData : List Datum → Except Failure (List Node)
  | [] => .ok []
  | datum :: rest => do
    let form ← ofDatum datum
    return form :: (← ofData rest)

end

/-- The forms of a body whose first character stands on `line`. -/
def readBody (text : Text) (line : Int) : Except Failure (List Node) := do
  ofData (← Datum.read text line)

end Regen.Node
