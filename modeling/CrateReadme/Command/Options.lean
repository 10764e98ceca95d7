/-!
# Options of the command

Options have long names and some have short ones. Some are followed by a value.
-/

namespace CrateReadme.Command

/-- What the options of a command line say. -/
structure Options where
  manifestPath : Option String := none
  package : Option String := none
  output : Option String := none
  template : Option String := none
  expandMacros : Bool := false
  features : Option String := none
  allFeatures : Bool := false
  noDefaultFeatures : Bool := false
  binary : Bool := false
  library : Bool := false
  check : Bool := false
  diff : Bool := false
  config : Option String := none
  noColor : Bool := false
  quiet : Nat := 0
  verbose : Nat := 0
  deriving DecidableEq, Repr, Inhabited

/-- What giving an option does: it changes what is said, or with the value behind it, or it asks for
a notice in place of everything else. -/
inductive Action where
  | flag (apply : Options → Options)
  | value (kind : String) (apply : Options → String → Options)
  | notice

/-- An option: its names, what it does, and the lines that describe it. -/
structure Switch where
  short : Option Char := none
  long : String
  action : Action
  help : List String

namespace Switch

/-- The names of an option as the help shows them. -/
def shown (switch : Switch) : String :=
  let short := match switch.short with
    | some c => "-" ++ String.singleton c ++ ", "
    | none => ""
  let kind := match switch.action with
    | .value kind _ => " " ++ kind
    | _ => ""
  short ++ switch.long ++ kind

end Switch

/-- The options of the command, in the order in which the help shows them. -/
def switches : List Switch :=
  [{ long := "--manifest-path"
     action := .value "FILE" fun options value => { options with manifestPath := value }
     help := ["Path to Cargo.toml."] },
   { short := 'p', long := "--package"
     action := .value "TEXT" fun options value => { options with package := value }
     help := ["Package to document, in a workspace."] },
   { short := 'o', long := "--out"
     action := .value "TEXT" fun options value => { options with output := value }
     help := ["Output file ('-' for stdout). Defaults to README.md."] },
   { short := 't', long := "--template"
     action := .value "TEXT" fun options value => { options with template := value }
     help := ["Template file (Jinja2). Defaults to README.j2; a built-",
       "in template is used when it does not exist."] },
   { long := "--expand-macros"
     action := .flag fun options => { options with expandMacros := true }
     help := ["Use nightly rustc to expand macros before reading the",
       "source. Needed for function-like macros in doc", "attributes."] },
   { short := 'F', long := "--features"
     action := .value "TEXT" fun options value => { options with features := value }
     help := ["Space or comma separated list of features to activate", "(with --expand-macros)."] },
   { long := "--all-features"
     action := .flag fun options => { options with allFeatures := true }
     help := ["Activate all available features (with --expand-macros)."] },
   { long := "--no-default-features"
     action := .flag fun options => { options with noDefaultFeatures := true }
     help := ["Do not activate the `default` feature (with --expand-", "macros)."] },
   { long := "--bin"
     action := .flag fun options => { options with binary := true }
     help := ["Prefer binary targets over library targets."] },
   { long := "--lib"
     action := .flag fun options => { options with library := true }
     help := ["Prefer library targets over binary targets (default)."] },
   { long := "--check"
     action := .flag fun options => { options with check := true }
     help := ["Verify that the output file is up to date and fail if",
       "it needs updating. The file is not changed."] },
   { long := "--diff"
     action := .flag fun options => { options with diff := true }
     help := ["With --check, show what would change."] },
   { long := "--config"
     action := .value "FILE" fun options value => { options with config := value }
     help := ["Additional configuration file (same keys as", "doc2readme.toml)."] },
   { long := "--no-color"
     action := .flag fun options => { options with noColor := true }
     help := ["Disable colored output."] },
   { short := 'q', long := "--quiet"
     action := .flag fun options => { options with quiet := options.quiet + 1 }
     help := ["Only report errors."] },
   { short := 'v', long := "--verbose"
     action := .flag fun options => { options with verbose := options.verbose + 1 }
     help := ["Increase verbosity. Repeat for more detail."] },
   { long := "--version"
     action := .notice
     help := ["Show the version and exit."] },
   { short := 'h', long := "--help"
     action := .notice
     help := ["Show this message and exit."] }]

end CrateReadme.Command
