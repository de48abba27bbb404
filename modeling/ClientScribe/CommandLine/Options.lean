/-!
Options among the arguments of a command.  A long option starts with two hyphens and may have its
value behind an equals sign; short options are single letters, several of which may share a hyphen,
and what follows a letter that needs a value is its value.  The last value given counts.
-/

namespace ClientScribe.CommandLine

/-- What is wrong with arguments. -/
inductive UsageFault where
  | noSuchOption (name : String)
  | noValue (name : String)
  | needlessValue (name : String)
  | noCommand
  | noSuchCommand (name : String)
  | missing (what : String)
  | unexpected (argument : String)
  | badCount (text : String)
  | noFile (path : String)
  | notFile (path : String)
  | notFolder (path : String)
  /-- A path with the character that no path holds. -/
  | zeroInPath
deriving DecidableEq, Repr

def UsageFault.message : UsageFault → String
  | .noSuchOption name => s!"No such option: {name}"
  | .noValue name => s!"Option '{name}' requires an argument."
  | .needlessValue name => s!"Option '{name}' does not take a value."
  | .noCommand => "Missing command."
  | .noSuchCommand name => s!"No such command '{name}'."
  | .missing what => s!"Missing {what}."
  | .unexpected argument => s!"Got unexpected extra argument ({argument})"
  | .badCount text => s!"'{text}' is not an integer that is at least 1."
  | .noFile path => s!"File '{path}' does not exist."
  | .notFile path => s!"File '{path}' is a directory."
  | .notFolder path => s!"Directory '{path}' is a file."
  | .zeroInPath => "embedded null byte"

/-- An option: its spellings, what it sets, and whether a value follows. -/
structure OptionRule (σ : Type) where
  spellings : List String
  sets : σ
  takesValue : Bool

/-- What arguments say: settings with their values, in order, and the other arguments. -/
structure Arguments (σ : Type) where
  settings : List (σ × String)
  others : List String

namespace Arguments

variable {σ : Type}

def set (given : Arguments σ) (setting : σ) (value : String) : Arguments σ :=
  { given with settings := given.settings ++ [(setting, value)] }

/-- The last value of a setting. -/
def value? [DecidableEq σ] (given : Arguments σ) (setting : σ) : Option String :=
  (given.settings.filter (·.1 = setting)).getLast?.map Prod.snd

def has [DecidableEq σ] (given : Arguments σ) (setting : σ) : Bool :=
  given.settings.any (·.1 = setting)

/-- The settings in the order in which they were given first. -/
def order [DecidableEq σ] (given : Arguments σ) : List σ := (given.settings.map Prod.fst).eraseDups

def ruleFor (rules : List (OptionRule σ)) (name : String) : Option (OptionRule σ) :=
  rules.find? fun r => r.spellings.contains name

/-- Takes the value of an option from the next argument. -/
def takeNext (given : Arguments σ) (rule : OptionRule σ) (name : String) (rest : List String) :
    Except UsageFault (Arguments σ × List String) :=
  match rest with
  | value :: rest => .ok (given.set rule.sets value, rest)
  | [] => .error (.noValue name)

/-- Takes letters that share a hyphen. -/
def takeShort (rules : List (OptionRule σ)) (rest : List String) (given : Arguments σ) :
    List Char → Except UsageFault (Arguments σ × List String)
  | [] => .ok (given, rest)
  | c :: cs =>
    let name := String.ofList ['-', c]
    match ruleFor rules name with
    | none => .error (.noSuchOption name)
    | some rule =>
      if !rule.takesValue then takeShort rules rest (given.set rule.sets "") cs
      else if cs.isEmpty then given.takeNext rule name rest
      else .ok (given.set rule.sets (String.ofList cs), rest)

/-- Takes an option that is spelled out, with the value written behind it, if any. -/
def takeLong (rules : List (OptionRule σ)) (given : Arguments σ) (name : String)
    (value : Option String) (rest : List String) :
    Except UsageFault (Arguments σ × List String) :=
  match ruleFor rules name, value with
  | none, _ => .error (.noSuchOption name)
  | some rule, some value =>
    if rule.takesValue then .ok (given.set rule.sets value, rest) else .error (.needlessValue name)
  | some rule, none =>
    if rule.takesValue then given.takeNext rule name rest else .ok (given.set rule.sets "", rest)

/-- The name in front of the first equals sign, and the value behind it. -/
def splitValue (argument : List Char) : String × Option String :=
  let name := String.ofList (argument.takeWhile (· ≠ '='))
  match argument.dropWhile (· ≠ '=') with
  | [] => (name, none)
  | _ :: value => (name, some (String.ofList value))

/-- Takes one argument that starts with a hyphen. -/
def takeOption (rules : List (OptionRule σ)) (given : Arguments σ) (argument : List Char)
    (rest : List String) : Except UsageFault (Arguments σ × List String) :=
  match argument with
  | '-' :: '-' :: _ =>
    let (name, value) := splitValue argument
    takeLong rules given name value rest
  | _ => takeShort rules rest given (argument.drop 1)

/-- Reads arguments in order.  A lone pair of hyphens ends the options; so does the first other
argument unless they may be mixed.  Each round takes an argument, so `rounds` may be the number of
arguments. -/
def readFrom (rules : List (OptionRule σ)) (mixed : Bool) (rounds : Nat) (given : Arguments σ)
    (arguments : List String) : Except UsageFault (Arguments σ) :=
  match rounds, arguments with
  | 0, _ | _, [] => .ok { given with others := given.others ++ arguments }
  | rounds + 1, a :: rest =>
    if a = "--" then .ok { given with others := given.others ++ rest }
    else if a.startsWith "-" && a ≠ "-" then
      match takeOption rules given a.toList rest with
      | .ok (given, rest) => readFrom rules mixed rounds given rest
      | .error fault => .error fault
    else if mixed then readFrom rules mixed rounds { given with others := given.others ++ [a] } rest
    else .ok { given with others := given.others ++ a :: rest }

/-- Reads arguments. -/
def read (rules : List (OptionRule σ)) (mixed : Bool) (arguments : List String) :
    Except UsageFault (Arguments σ) :=
  readFrom rules mixed arguments.length ⟨[], []⟩ arguments

end Arguments

end ClientScribe.CommandLine
