import Regen.Text.Digit
import Regen.Text.Quoted

/-!
# Arguments

The arguments of a command are flags and operands. A long flag may be cut short as long as no other flag starts
the same way, and takes its value after an equals sign or as the next argument. Operands stand together: once
they have begun, the next flag ends them, and whatever stands elsewhere is left over. After `--` there are only
operands.

`read` gives what was found in order, up to the first thing that is wrong. Whoever follows the order learns of
a flag that asks for help before hearing of faults after it.
-/

namespace Regen.CommandLine

/-- A flag with all its spellings. -/
structure Flag where
  names : List Text
  takesValue : Bool
deriving DecidableEq, Repr

/-- The operands that a command takes. -/
inductive Operands where
  /-- A command and everything after it, flags included. -/
  | command
  /-- One path or more. -/
  | paths
deriving DecidableEq, Repr

/-- What a command takes. -/
structure Grammar where
  flags : List Flag
  operands : Operands
deriving DecidableEq, Repr

/-- Why arguments are refused. -/
inductive Refusal where
  | ambiguous (argument : Text) (candidates : List Text)
  | valueMissing (flag : Flag)
  | valueIgnored (flag : Flag) (value : Text)
  | pathsMissing
  | unknownCommand (name : Text) (known : List Text)
  | unrecognized (arguments : List Text)
deriving DecidableEq, Repr

namespace Refusal

/-- How messages name a flag. -/
def nameOf (flag : Flag) : Text := "argument ".toList ++ ['/'].intercalate flag.names ++ ": ".toList

def message : Refusal → Text
  | ambiguous argument candidates =>
    "ambiguous option: ".toList ++ argument ++ " could match ".toList ++ ", ".toList.intercalate candidates
  | valueMissing flag => nameOf flag ++ "expected one argument".toList
  | valueIgnored flag value => nameOf flag ++ "ignored explicit argument ".toList ++ value.quoted
  | pathsMissing => "the following arguments are required: paths".toList
  | unknownCommand name known =>
    "argument command: invalid choice: ".toList ++ name.quoted ++ " (choose from ".toList ++
      ", ".toList.intercalate (known.map Text.quoted) ++ ")".toList
  | unrecognized arguments => "unrecognized arguments: ".toList ++ [' '].intercalate arguments

end Refusal

/-- A flag that an argument denotes: the spelling in full, and the value in the same argument. -/
structure FlagUse where
  flag : Flag
  name : Text
  attached : Option Text
deriving DecidableEq, Repr

/-- What an argument looks like. -/
inductive Shape where
  /-- The first `--`. -/
  | separator
  | operand
  /-- A flag, or something that looks like one and is unknown. -/
  | flag (use : Option FlagUse)
deriving DecidableEq, Repr

namespace Grammar

def spellings (grammar : Grammar) : List (Text × Flag) :=
  grammar.flags.flatMap fun flag => flag.names.map fun name => (name, flag)

/-- The flags that an argument may be short for. -/
def candidates (grammar : Grammar) (argument : Text) : List FlagUse :=
  let long := "--".toList.isPrefixOf argument
  grammar.spellings.filterMap fun (name, flag) =>
    if long then
      match Text.splitAtFirst? ['='] argument with
      | some (start, value) => if start.isPrefixOf name then some ⟨flag, name, some value⟩ else none
      | none => if argument.isPrefixOf name then some ⟨flag, name, none⟩ else none
    else if name = argument.take 2 then some ⟨flag, name, some (argument.drop 2)⟩
    else if argument.isPrefixOf name then some ⟨flag, name, none⟩
    else none

/-- Whether a text is digits, or digits that are split by a point and do not end before it. -/
def isDecimal (text : Text) : Bool :=
  let isDigit (c : Char) := (Text.digit? c).isSome
  match text.dropWhile isDigit with
  | [] => !text.isEmpty
  | '.' :: digits => !digits.isEmpty && digits.all isDigit
  | _ => false

/-- Whether an argument is a negative number, which is an operand. A line feed may end it. -/
def isNegativeNumber : Text → Bool
  | '-' :: rest => isDecimal (if rest.getLast? == some '\n' then rest.dropLast else rest)
  | _ => false

def shape (grammar : Grammar) (argument : Text) : Except Refusal Shape :=
  if argument.head? ≠ some '-' then .ok .operand
  else
    match grammar.spellings.lookup argument with
    | some flag => .ok (.flag (some ⟨flag, argument, none⟩))
    | none =>
      if argument.length = 1 then .ok .operand
      else
        let exact := do
          let (name, value) ← Text.splitAtFirst? ['='] argument
          let flag ← grammar.spellings.lookup name
          return (⟨flag, name, some value⟩ : FlagUse)
        match exact, grammar.candidates argument with
        | some use, _ => .ok (.flag (some use))
        | none, [use] => .ok (.flag (some use))
        | none, [] =>
          if isNegativeNumber argument || argument.contains ' ' then .ok .operand else .ok (.flag none)
        | none, several => .error (.ambiguous argument (several.map FlagUse.name))

def shapes (grammar : Grammar) : List Text → Except Refusal (List (Text × Shape))
  | [] => .ok []
  | argument :: rest =>
    if argument = "--".toList then .ok ((argument, .separator) :: rest.map fun operand => (operand, .operand))
    else do
      let shape ← grammar.shape argument
      return (argument, shape) :: (← grammar.shapes rest)

end Grammar

/-- Something found among arguments. -/
inductive Finding where
  | flag (flag : Flag) (value : Option Text)
  | operands (arguments : List Text)
deriving DecidableEq, Repr

/-- What was found among arguments: findings in order, then what is wrong or what is left over. -/
structure Reading where
  findings : List Finding
  ending : Except Refusal (List Text)

namespace Reading

/-- Nothing but what is wrong. -/
def refused (refusal : Refusal) : Reading := ⟨[], .error refusal⟩

/-- Adds findings and leftovers in front. -/
def after (reading : Reading) (findings : List Finding) (leftover : List Text) : Reading :=
  ⟨findings ++ reading.findings, reading.ending.map (leftover ++ ·)⟩

end Reading

/-- The flags in one argument, and the number of arguments after it that are taken for a value. A value of `--`
in the same argument leaves the flag without one. -/
def readFlag (grammar : Grammar) (following : List (Text × Shape)) :
    (fuel : Nat) → FlagUse → Except Refusal (List Finding × Nat)
  | 0, use => .error (.valueIgnored use.flag [])
  | fuel + 1, use =>
    match use.attached with
    | none =>
      if use.flag.takesValue then
        match following with
        | (value, .operand) :: _ => .ok ([.flag use.flag (some value)], 1)
        | _ => .error (.valueMissing use.flag)
      else .ok ([.flag use.flag none], 0)
    | some value =>
      if use.flag.takesValue then
        .ok ([.flag use.flag (if value = "--".toList then none else some value)], 0)
      else
        -- Short flags without values may share one argument.
        match use.name, value with
        | _ :: mark :: _, c :: rest =>
          match if mark == '-' then none else grammar.spellings.lookup ['-', c] with
          | none => .error (.valueIgnored use.flag value)
          | some flag => do
            let attached := if rest.isEmpty then none else some rest
            let (findings, taken) ← readFlag grammar following fuel ⟨flag, ['-', c], attached⟩
            return (.flag use.flag none :: findings, taken)
        | _, _ => .error (.valueIgnored use.flag value)

/-- The operands at the start of arguments, if they begin there. -/
def operandsAhead (operands : Operands) (arguments : List (Text × Shape)) : List Text :=
  let isPlain (argument : Text × Shape) := argument.2 == .separator || argument.2 == .operand
  match arguments.dropWhile fun argument => argument.2 == .separator with
  | (_, .operand) :: _ =>
    match operands with
    | .command => arguments.map Prod.fst
    | .paths => (arguments.takeWhile isPlain).map Prod.fst
  | _ => []

def isFlag (argument : Text × Shape) : Bool :=
  match argument.2 with
  | .flag _ => true
  | _ => false

/-- Reads arguments; `wanted` tells whether operands are still to come. -/
def readFrom (grammar : Grammar) : (fuel : Nat) → (wanted : Bool) → List (Text × Shape) → Reading
  | 0, _, _ => ⟨[], .ok []⟩
  | fuel + 1, wanted, arguments =>
    let operands := if wanted then operandsAhead grammar.operands arguments else []
    match arguments with
    | (argument, .flag use) :: rest =>
      match use with
      | none => (readFrom grammar fuel wanted rest).after [] [argument]
      | some use =>
        match readFlag grammar rest argument.length use with
        | .error refusal => .refused refusal
        | .ok (findings, taken) => (readFrom grammar fuel wanted (rest.drop taken)).after findings []
    | arguments =>
      if !operands.isEmpty then
        (readFrom grammar fuel false (arguments.drop operands.length)).after [.operands operands] []
      else
        let unexpected := arguments.takeWhile (!isFlag ·)
        match arguments.drop unexpected.length with
        | [] =>
          if wanted && grammar.operands == .paths then .refused .pathsMissing
          else ⟨[], .ok (unexpected.map Prod.fst)⟩
        | rest => (readFrom grammar fuel wanted rest).after [] (unexpected.map Prod.fst)

/-- Reads the arguments of a command. Every step but the last takes an argument. -/
def Grammar.read (grammar : Grammar) (arguments : List Text) : Reading :=
  match grammar.shapes arguments with
  | .error refusal => .refused refusal
  | .ok shapes => readFrom grammar (shapes.length + 1) true shapes

end Regen.CommandLine
