import AccessTrace.Numeral
import AccessTrace.Snapshot.File

/-!
The words of a command line and the options among them. A value is looked at no sooner than the
next option, argument or the end is reached, so of several mistakes the first one that is looked at
is reported.
-/

namespace AccessTrace.Command

inductive UsageError where
  | help
  | helpForNothing
  | missingSubcommand
  | invalidSubcommand
  | unknownArgument
  | invalidValue
  | valueValidation
  | tooManyValues
  | argumentConflict
  | missingRequiredArgument
  deriving DecidableEq, Repr

inductive ValueType where
  | path
  | number
  | format
  | filter
  deriving DecidableEq, Repr

inductive Value where
  | flag
  | path (path : Path)
  | number (n : UInt64)
  | format (format : Format)
  | filter (filter : KindFilter)
  deriving DecidableEq, Repr

def ValueType.read (type : ValueType) (text : String) : Except UsageError Value :=
  match type with
  | .path => if text.isEmpty then .error .invalidValue else .ok (.path ⟨text⟩)
  | .number =>
    match Numeral.decimal text.toList with
    | .ok n => .ok (.number n)
    | .error _ => .error .valueValidation
  | .format =>
    if text = "bincode" then .ok (.format .binary)
    else if text = "json" then .ok (.format .json)
    else .error .invalidValue
  | .filter =>
    if text = "all" then .ok (.filter .all)
    else if text = "load" then .ok (.filter .load)
    else if text = "store" then .ok (.filter .store)
    else .error .invalidValue

/-- An option, or an argument without a name of its own on the command line. One without a type is
a flag. -/
structure Parameter where
  name : String
  letter : Option Char := none
  type : Option ValueType := none
  deriving DecidableEq, Repr

def Parameter.help : Parameter := { name := "help", letter := some 'h' }

structure Grammar where
  options : List Parameter
  argument : Option Parameter := none
  subcommands : List String := []

def Grammar.named? (g : Grammar) (name : String) : Option Parameter :=
  (Parameter.help :: g.options).find? fun parameter => parameter.name = name

def Grammar.lettered? (g : Grammar) (letter : Char) : Option Parameter :=
  (Parameter.help :: g.options).find? fun parameter => parameter.letter = some letter

structure Reading where
  values : List (String × Value) := []
  pending : Option (Parameter × Option String) := none
  argumentGiven : Bool := false
  onlyArguments : Bool := false
  deriving DecidableEq, Repr

namespace Reading

def awaits (r : Reading) : Bool :=
  match r.pending with
  | some (_, none) => true
  | _ => false

def value? (r : Reading) (name : String) : Option Value :=
  r.values.lookup name

def bind (r : Reading) (parameter : Parameter) (text : Option String) : Except UsageError Reading :=
  if parameter = .help then .error .help
  else
    match parameter.type, text with
    | some _, none => .error .invalidValue
    | some type, some text =>
      if (r.value? parameter.name).isSome then .error .argumentConflict
      else do return { r with values := (parameter.name, ← type.read text) :: r.values }
    | none, _ =>
      if (r.value? parameter.name).isSome then .error .argumentConflict
      else .ok { r with values := (parameter.name, .flag) :: r.values }

def settle (r : Reading) : Except UsageError Reading :=
  match r.pending with
  | none => .ok r
  | some (parameter, text) => { r with pending := none }.bind parameter text

def option (r : Reading) (parameter : Parameter) (attached : Option String) :
    Except UsageError Reading :=
  match parameter.type, attached with
  | none, some _ => .error .tooManyValues
  | none, none => do (← r.settle).bind parameter none
  | some _, some text => do (← r.settle).bind parameter (some text)
  | some _, none => do return { ← r.settle with pending := some (parameter, none) }

def split (word : List Char) : String × Option String :=
  match word.dropWhile (· ≠ '=') with
  | [] => (String.ofList word, none)
  | _ :: text => (String.ofList (word.takeWhile (· ≠ '=')), some (String.ofList text))

def long (g : Grammar) (r : Reading) (word : List Char) : Except UsageError Reading :=
  let (name, attached) := split word
  match g.named? name with
  | some parameter => r.option parameter attached
  | none => .error .unknownArgument

/-- Takes letters. The first one that has a value takes the other letters for it. -/
def letters (g : Grammar) (r : Reading) : List Char → Except UsageError Reading
  | [] => .ok r
  | letter :: rest =>
    match g.lettered? letter with
    | none => .error .unknownArgument
    | some parameter =>
      match parameter.type, rest with
      | none, _ => do (← r.option parameter none).letters g rest
      | some _, [] => r.option parameter none
      | some _, '=' :: text => r.option parameter (some (String.ofList text))
      | some _, text => r.option parameter (some (String.ofList text))

def argument (g : Grammar) (r : Reading) (word : String) : Except UsageError Reading :=
  match g.argument with
  | some parameter =>
    if r.argumentGiven then .error .unknownArgument
    else do
      return { ← r.settle with pending := some (parameter, some word), argumentGiven := true }
  | none =>
    if g.subcommands.isEmpty then .error .unknownArgument
    else if r.onlyArguments ∧ word ∈ g.subcommands then .error .unknownArgument
    else .error .invalidSubcommand

def word (g : Grammar) (r : Reading) (word : String) : Except UsageError Reading :=
  if r.onlyArguments then r.argument g word
  else
    match word.toList with
    | ['-', '-'] => .ok { r with onlyArguments := true }
    | '-' :: '-' :: rest => r.long g rest
    | '-' :: letter :: rest => r.letters g (letter :: rest)
    | _ =>
      match r.pending with
      | some (parameter, none) => .ok { r with pending := some (parameter, some word) }
      | _ => r.argument g word

def words (g : Grammar) (r : Reading) :
    List String → Except UsageError (Reading × Option (String × List String))
  | [] => .ok (r, none)
  | next :: rest =>
    if !r.onlyArguments && !r.awaits && g.subcommands.contains next then
      .ok (r, some (next, rest))
    else do (← r.word g next).words g rest

end Reading

end AccessTrace.Command
