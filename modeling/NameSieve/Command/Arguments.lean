import NameSieve.Text.Basic

/-!
# Arguments of commands

A command takes *settings*, which begin with two dashes, and *operands*, which do not.  A setting
is a flag or has a value, which stands behind it or behind an equals sign; it is given at most
once.  Some flags have a letter, and letters share one dash.  Two dashes alone make operands of
all that follows.

`Arguments.read` goes through the arguments from left to right and stops at the first that does
not fit, or at the one that asks for the version.
-/

namespace NameSieve

structure Setting where
  /-- The name, without its dashes. -/
  name : String
  letter : Option Char := none
  /-- Which values it takes; a flag takes none. -/
  accepts : Option (String → Bool) := none

structure Usage where
  /-- The settings. -/
  settings : List Setting
  operands : Nat

structure Arguments where
  /-- The names of the settings given, with their values; a flag has an empty value. -/
  settings : List (String × String) := []
  operands : List String := []
deriving DecidableEq

/-- Why the arguments were not read to the end. -/
inductive Stop where
  | refused
  | version
deriving DecidableEq

/-- Is the value more than an empty text?  An empty path leads nowhere. -/
def isFilled (value : String) : Bool :=
  !value.isEmpty

/-- The count that a text stands for: decimal digits, perhaps behind a plus sign, and less than
two to the sixty-fourth. -/
def count? (text : String) : Option Nat :=
  let digits := match text.toList with
    | '+' :: rest => rest
    | all => all
  if digits.isEmpty || !digits.all Char.isDigit then none
  else
    let value := Text.digitsValue 0 digits
    if value < UInt64.size then some value else none

/-- The flag that asks for the version. -/
def versionFlag : Setting where
  name := "version"
  letter := some 'V'

namespace Arguments

def has (arguments : Arguments) (name : String) : Bool :=
  (arguments.settings.lookup name).isSome

def value? (arguments : Arguments) (name : String) : Option String :=
  arguments.settings.lookup name

/-- Adds a setting that has not been given yet. -/
def addSetting (arguments : Arguments) (name value : String) : Except Stop Arguments :=
  if arguments.has name then .error .refused
  else .ok { arguments with settings := (name, value) :: arguments.settings }

/-- Adds an operand, of which there may be so many, and which is not empty. -/
def addOperand (most : Nat) (arguments : Arguments) (operand : String) :
    Except Stop Arguments :=
  if arguments.operands.length < most ∧ isFilled operand then
    .ok { arguments with operands := arguments.operands ++ [operand] }
  else .error .refused

/-- Adds a flag, or stops at the one that asks for the version. -/
def addFlag (arguments : Arguments) (setting : Setting) : Except Stop Arguments :=
  if setting.accepts.isSome then .error .refused
  else if setting.name = versionFlag.name then .error .version
  else arguments.addSetting setting.name ""

/-- Adds the flags of some letters, from left to right. -/
def addLetters (settings : List Setting) (arguments : Arguments) :
    List Char → Except Stop Arguments
  | [] => .ok arguments
  | c :: rest =>
      match settings.find? fun setting => setting.letter == some c with
      | none => .error .refused
      | some setting =>
          match arguments.addFlag setting with
          | .error stop => .error stop
          | .ok arguments => addLetters settings arguments rest

def addValue (arguments : Arguments) (setting : Setting) (value : String) :
    Except Stop Arguments :=
  match setting.accepts with
  | none => .error .refused
  | some accepts =>
      if accepts value then arguments.addSetting setting.name value else .error .refused

/-- Is the argument a setting, or letters, and no operand? -/
def isDashed (argument : String) : Bool :=
  match argument.toList with
  | '-' :: _ :: _ => true
  | _ => false

/-- Reads arguments from here on; behind two dashes alone there are operands only. -/
def readFrom (usage : Usage) (arguments : Arguments) (operandsOnly : Bool) :
    List String → Except Stop Arguments
  | [] => .ok arguments
  | argument :: rest =>
      if operandsOnly || !isDashed argument then
        match addOperand usage.operands arguments argument with
        | .error stop => .error stop
        | .ok arguments => readFrom usage arguments operandsOnly rest
      else
        match argument.toList with
        | ['-', '-'] => readFrom usage arguments true rest
        | '-' :: '-' :: long =>
            let name := String.ofList (long.takeWhile (· ≠ '='))
            match usage.settings.find? fun setting => setting.name == name with
            | none => .error .refused
            | some setting =>
                match long.dropWhile (· ≠ '=') with
                | _ :: value =>
                    match arguments.addValue setting (String.ofList value) with
                    | .error stop => .error stop
                    | .ok arguments => readFrom usage arguments false rest
                | [] =>
                    if setting.accepts.isNone then
                      match arguments.addFlag setting with
                      | .error stop => .error stop
                      | .ok arguments => readFrom usage arguments false rest
                    else
                      match rest with
                      | [] => .error .refused
                      | value :: rest =>
                          if isDashed value then .error .refused
                          else
                            match arguments.addValue setting value with
                            | .error stop => .error stop
                            | .ok arguments => readFrom usage arguments false rest
        | letters =>
            match addLetters usage.settings arguments letters.tail with
            | .error stop => .error stop
            | .ok arguments => readFrom usage arguments false rest

/-- Reads the arguments of a command, which also takes the flag for the version. -/
def read (usage : Usage) (arguments : List String) : Except Stop Arguments :=
  readFrom { usage with settings := versionFlag :: usage.settings } {} false arguments

end Arguments

end NameSieve
