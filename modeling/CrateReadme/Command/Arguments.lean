import CrateReadme.Command.Usage

/-!
# Command lines

A long option takes its value from behind an equals sign or from the next argument, a short one from
the rest of its argument or from the next one. Short options without values can be written together.
Behind `--` nothing is an option.
-/

namespace CrateReadme.Command

/-- A command line that was understood: what its options say, their long names in the order in which
they were given, and the arguments that are no options. -/
structure Arguments where
  options : Options := {}
  given : List String := []
  rest : List String := []
  deriving DecidableEq, Repr, Inhabited

namespace Arguments

def note (arguments : Arguments) (switch : Switch) : Arguments :=
  { arguments with given := arguments.given ++ [switch.long] }

/-- An option that waits for its value: the name by which it was given, and what to do then. -/
structure Pending where
  name : String
  switch : Switch
  apply : Options → String → Options

/-- What one argument leads to: the options in it are applied, and the last one may wait for its
value. -/
abbrev Step :=
  Except UsageError (Arguments × Option Pending)

def put (arguments : Arguments) (switch : Switch) (apply : Options → String → Options)
    (value : String) : Arguments :=
  { arguments.note switch with options := apply arguments.options value }

def readShort (arguments : Arguments) : List Char → Step
  | [] => .ok (arguments, none)
  | c :: text =>
    let name := "-" ++ String.singleton c
    match switches.find? fun switch => switch.short == some c with
    | none => .error (.noSuchOption name [])
    | some switch =>
      match switch.action with
      | .notice => readShort (arguments.note switch) text
      | .flag apply =>
        readShort { arguments.note switch with options := apply arguments.options } text
      | .value _ apply =>
        if text.isEmpty then .ok (arguments, some ⟨name, switch, apply⟩)
        else .ok (arguments.put switch apply (String.ofList text), none)

/-- Reads a long option with the value behind its equals sign, if there is one. -/
def readLong (arguments : Arguments) (switch : Switch) (value : Option String) : Step :=
  match switch.action, value with
  | .value _ apply, some value => .ok (arguments.put switch apply value, none)
  | .value _ apply, none => .ok (arguments, some ⟨switch.long, switch, apply⟩)
  | _, some _ => .error (.needlessValue switch.long)
  | .flag apply, none =>
    .ok ({ arguments.note switch with options := apply arguments.options }, none)
  | .notice, none => .ok (arguments.note switch, none)

def readOne (arguments : Arguments) (text : String) : Step :=
  match text.toList with
  | '-' :: c :: more =>
    let (name, behind) := ('-' :: c :: more).span (· ≠ '=')
    let name := String.ofList name
    match switches.find? fun switch => switch.long == name with
    | some switch =>
      readLong arguments switch (if behind.isEmpty then none else some (String.ofList behind.tail))
    | none =>
      if c = '-' then .error (.noSuchOption name (suggestions name))
      else readShort arguments (c :: more)
  | _ => .ok ({ arguments with rest := arguments.rest ++ [text] }, none)

def readAll (arguments : Arguments) : List String → Except UsageError Arguments
  | [] => .ok arguments
  | text :: texts =>
    if text = "--" then
      .ok { arguments with rest := arguments.rest ++ texts }
    else
      match readOne arguments text with
      | .error error => .error error
      | .ok (arguments, none) => readAll arguments texts
      | .ok (arguments, some pending) =>
        match texts with
        | [] => .error (.missingValue pending.name)
        | value :: texts => readAll (arguments.put pending.switch pending.apply value) texts

def parse (texts : List String) : Except UsageError Arguments :=
  readAll {} texts

/-- The first option that asks for a notice, if one was given. -/
def notice? (arguments : Arguments) : Option String :=
  match arguments.given.find? (· ∈ ["--help", "--version"]) with
  | some "--help" => some helpNotice
  | some _ => some versionNotice
  | none => none

/-- The files that options name, in the order in which the options were given. -/
def namedFiles (arguments : Arguments) : List (String × String) :=
  arguments.given.eraseDups.filterMap fun name =>
    let value? := match name with
      | "--manifest-path" => arguments.options.manifestPath
      | "--config" => arguments.options.config
      | _ => none
    value?.map fun value => (name, value)

end Arguments

end CrateReadme.Command
