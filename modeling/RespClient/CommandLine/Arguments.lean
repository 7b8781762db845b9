import RespClient.Error
import RespClient.Text.Decimal

/-!
# Reading arguments

Arguments are read from left to right by a `Grammar`: the options with their values, the number of
operands, and the subcommands. The first argument that settles the outcome settles it, such as a
request for help, or an argument that the grammar has no place for.

An option is written `--name value`, `--name=value`, `-n value`, `-nvalue` or `-n=value`. A value
that stands by itself does not begin with a dash, unless it is one. Behind `--` there are only
operands.
-/

namespace RespClient.CommandLine

/-- An option with a value. -/
structure Flag where
  name : String
  short : Option Char := none
  /-- Whether the option may be given again. -/
  repeatable : Bool := false
  /-- The values that the option can have. -/
  accepts : String → Bool := fun _ => true

/-- What may be written. -/
structure Grammar where
  flags : List Flag
  /-- Whether the version can be asked for. -/
  versioned : Bool := false
  /-- The most operands; with no limit if absent. -/
  operandLimit : Option Nat := some 0
  /-- The names of the subcommands. -/
  subcommands : List String := []

/-- The outcomes that leave nothing to be done. -/
inductive Exit where
  | help
  | version
  | misuse
  deriving DecidableEq, Repr

/-- The options by name and the operands that were read, in order. -/
structure Given where
  options : List (String × String) := []
  operands : List String := []
  deriving DecidableEq, Repr

namespace Given

/-- The values of an option. -/
def values (given : Given) (name : String) : List String :=
  (given.options.filter fun option => option.1 = name).map Prod.snd

/-- The last value of an option. -/
def value? (given : Given) (name : String) : Option String := (given.values name).getLast?

/-- The number that an option gives, or a number for its absence. -/
def number (given : Given) (name : String) (absent : Nat) : Nat :=
  ((given.value? name).bind fun value => Decimal.word? 64 (utf8 value)).getD absent

end Given

/-- Whether a value is a number of 64 bits without a sign. -/
def isNumber (value : String) : Bool := (Decimal.word? 64 (utf8 value)).isSome

/-- Adds the value of an option. -/
def Given.withOption (given : Given) (flag : Flag) (value : String) : Except Exit Given :=
  if !flag.accepts value then .error .misuse
  else if !flag.repeatable && (given.value? flag.name).isSome then .error .misuse
  else .ok { given with options := given.options ++ [(flag.name, value)] }

/-- Adds an operand. -/
def Given.withOperand (given : Given) (limit : Option Nat) (operand : String) :
    Except Exit Given :=
  if limit.all fun limit => given.operands.length < limit then
    .ok { given with operands := given.operands ++ [operand] }
  else .error .misuse

/-- What one argument turns out to be. -/
inductive Reading where
  /-- The end of the options. -/
  | divider
  /-- A request that ends the reading. -/
  | exit (exit : Exit)
  /-- An option, with its value if that is attached. -/
  | option (flag : Flag) (attached : Option String)
  /-- Anything else. -/
  | operand

/-- The text behind one character in front, if it is there. -/
def dropFront (front : Char) : List Char → List Char
  | c :: rest => if c = front then rest else c :: rest
  | [] => []

/-- The reading of a long option, without its dashes. -/
def Grammar.readLong (grammar : Grammar) (text : List Char) : Reading :=
  let name := String.ofList (text.takeWhile (· ≠ '='))
  let attached :=
    match text.dropWhile (· ≠ '=') with
    | [] => none
    | _ :: value => some (String.ofList value)
  match name, attached with
  | "help", none => .exit .help
  | "help", some _ => .exit .misuse
  | name, attached =>
    if name = "version" && grammar.versioned then
      .exit (if attached.isNone then .version else .misuse)
    else
      match grammar.flags.find? fun flag => flag.name = name with
      | some flag => .option flag attached
      | none => .exit .misuse

/-- The reading of a short option, without its dash. -/
def Grammar.readShort (grammar : Grammar) (short : Char) (rest : List Char) : Reading :=
  if short = 'h' then .exit .help
  else if short = 'V' && grammar.versioned then .exit .version
  else
    match grammar.flags.find? fun flag => flag.short = some short with
    | some flag =>
      .option flag (if rest.isEmpty then none else some (String.ofList (dropFront '=' rest)))
    | none => .exit .misuse

/-- The reading of an argument. -/
def Grammar.read (grammar : Grammar) (argument : String) : Reading :=
  match argument.toList with
  | ['-', '-'] => .divider
  | '-' :: '-' :: text => grammar.readLong text
  | '-' :: short :: rest => grammar.readShort short rest
  | _ => .operand

/-- Whether an argument can be a value that stands by itself. -/
def standsAlone (argument : String) : Bool :=
  match argument.toList with
  | '-' :: _ :: _ => false
  | _ => true

/-- Reads operands only. -/
def scanOperands (limit : Option Nat) : Given → List String → Except Exit Given
  | given, [] => .ok given
  | given, operand :: rest => do scanOperands limit (← given.withOperand limit operand) rest

/-- Reads arguments up to a subcommand. The answer is what was given, and the subcommand with the
arguments behind it. -/
def Grammar.scan (grammar : Grammar) :
    Given → List String → Except Exit (Given × Option (String × List String))
  | given, [] => .ok (given, none)
  | given, argument :: rest =>
    match grammar.read argument with
    | .exit exit => .error exit
    | .divider => do return (← scanOperands grammar.operandLimit given rest, none)
    | .option flag (some value) => do grammar.scan (← given.withOption flag value) rest
    | .option flag none =>
      match rest with
      | [] => .error .misuse
      | value :: rest =>
        if standsAlone value then do grammar.scan (← given.withOption flag value) rest
        else .error .misuse
    | .operand =>
      if grammar.subcommands.contains argument then .ok (given, some (argument, rest))
      else do grammar.scan (← given.withOperand grammar.operandLimit argument) rest

end RespClient.CommandLine
