import ApiSchema.Files.OsText

/-!
# Command-line options

Splits the arguments of a command into options and operands.  An option has a long name and may
have a letter; letters can be run together.  A value follows its option or is attached to it, and
each option may be given once.
-/

namespace ApiSchema.CommandLine

open Files (OsText)

/-- An option that a command knows. -/
structure OptionSpec where
  name : String
  letter : Option Char
  takesValue : Bool

/-- An option that is on or off. -/
def switch (name : String) : OptionSpec := ⟨name, none, false⟩

/-- An option with a value. -/
def valued (name : String) : OptionSpec := ⟨name, none, true⟩

def OptionSpec.orLetter (spec : OptionSpec) (letter : Char) : OptionSpec :=
  { spec with letter := some letter }

/-- Why the arguments are of no use, or what is asked for in place of a command. -/
inductive Interruption where
  | misuse
  | help
  | version
  deriving DecidableEq, Repr

/-- The byte that options start with. -/
def dash : UInt8 := 0x2D

/-- The byte between an option and the value attached to it. -/
def equalsSign : UInt8 := 0x3D

/-- Has the argument a dash and more? -/
def isOption (arg : OsText) : Bool := arg.bytes.head? == some dash && arg.bytes.length != 1

/-- The arguments read so far. -/
structure Arguments where
  /-- The options that are given, with their values; a switch has the empty value. -/
  options : List (String × OsText)
  operands : List OsText
  /-- The option that waits for its value. -/
  pending : Option OptionSpec
  /-- Are all further arguments operands? -/
  ended : Bool

namespace Arguments

def empty : Arguments := ⟨[], [], none, false⟩

def has (a : Arguments) (name : String) : Bool := a.options.any (·.1 == name)

def value? (a : Arguments) (name : String) : Option OsText :=
  (a.options.find? (·.1 == name)).map (·.2)

/-- The value of an option that has to be a text, or a default where it is not given. -/
def textOr (a : Arguments) (name default : String) : Option String :=
  match a.value? name with
  | some value => value.text?
  | none => some default

/-- Adds an option that is not given yet. -/
def give (a : Arguments) (spec : OptionSpec) (value : OsText) : Except Interruption Arguments :=
  if a.has spec.name then .error .misuse
  else .ok { a with options := a.options ++ [(spec.name, value)], pending := none }

/-- Takes a switch; help and version are answered at once. -/
def flip (a : Arguments) (spec : OptionSpec) : Except Interruption Arguments :=
  if spec.name = "help" then .error .help
  else if spec.name = "version" then .error .version
  else a.give spec ""

/-- Takes an option by its long name, with the value attached to it. -/
def takeLong (specs : List OptionSpec) (a : Arguments) (name : OsText) (value : Option OsText) :
    Except Interruption Arguments :=
  match specs.find? (.ofString ·.name == name), value with
  | none, _ => .error .misuse
  | some spec, none => if spec.takesValue then .ok { a with pending := spec } else a.flip spec
  | some spec, some value => if spec.takesValue then a.give spec value else .error .misuse

/-- Takes options by their letters; the rest of the letters can be a value. -/
def takeLetters (specs : List OptionSpec) (a : Arguments) :
    List UInt8 → Except Interruption Arguments
  | [] => .ok a
  | letter :: rest =>
    match specs.find? (·.letter.any (·.toNat == letter.toNat)) with
    | none => .error .misuse
    | some spec =>
      if spec.takesValue then
        match rest with
        | [] => .ok { a with pending := spec }
        | first :: value => a.give spec ⟨if first = equalsSign then value else first :: value⟩
      else do takeLetters specs (← a.flip spec) rest

/-- Takes an argument that starts with a dash, given what stands after the dash. -/
def takeOption (specs : List OptionSpec) (a : Arguments) (name : List UInt8) :
    Except Interruption Arguments :=
  match name with
  | [] => .ok { a with operands := a.operands ++ [⟨[dash]⟩] }
  | first :: rest =>
    if first = dash then
      if rest.isEmpty then .ok { a with ended := true }
      else
        let long := rest.takeWhile (· != equalsSign)
        match rest.drop long.length with
        | [] => takeLong specs a ⟨long⟩ none
        | _ :: value => takeLong specs a ⟨long⟩ (some ⟨value⟩)
    else takeLetters specs a (first :: rest)

def take (specs : List OptionSpec) (a : Arguments) (arg : OsText) :
    Except Interruption Arguments :=
  if a.ended then .ok { a with operands := a.operands ++ [arg] }
  else
    match a.pending with
    | some spec => if isOption arg then .error .misuse else a.give spec arg
    | none =>
      match arg.bytes with
      | [] => .ok { a with operands := a.operands ++ [arg] }
      | first :: name =>
        if first = dash then takeOption specs a name
        else .ok { a with operands := a.operands ++ [arg] }

def ofList (specs : List OptionSpec) (args : List OsText) : Except Interruption Arguments := do
  let a ← args.foldlM (take specs) empty
  if a.pending.isSome then .error .misuse else return a

end Arguments

end ApiSchema.CommandLine
