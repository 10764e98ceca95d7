import CrateReadme.Data.Toml.Tree
import CrateReadme.Files.Store

/-!
# Configuration

The settings of a run come from several sources, one after the other: a later source wins. Locations
in a source are relative to the directory that the source belongs to. Settings that are still put
together are a draft; the settings of a run are a frozen draft, which can be thawed again.
-/

namespace CrateReadme

/-- The settings of a run. Without an output the readme goes to standard output. -/
structure Config where
  output : Option Files.Location
  template : Files.Location
  expandMacros : Bool := false
  features : List String := []
  allFeatures : Bool := false
  noDefaultFeatures : Bool := false
  preferBinary : Bool := false
  /-- The sources that were merged, in order. -/
  sources : List String
  /-- What was odd about the sources. -/
  warnings : List String := []
  deriving DecidableEq, Repr

/-- Settings that are still put together. A template may be missing, and a feature may be named more
than once. -/
structure Config.Draft where
  output : Option Files.Location := none
  template : Option Files.Location := none
  expandMacros : Bool := false
  features : List String := []
  allFeatures : Bool := false
  noDefaultFeatures : Bool := false
  preferBinary : Bool := false
  sources : List String := []
  warnings : List String := []
  deriving DecidableEq, Repr

/-- Why settings cannot be used. -/
inductive ConfigError where
  | notFound (place : String)
  | unreadable (place : String)
  | malformed (source : String)
  | clash (cause : Data.Toml.Clash)
  | noToolTable
  | wrongType (source key expected actual : String)
  | featuresNotTexts (source : String)
  deriving DecidableEq, Repr

def ConfigError.message : ConfigError → String
  | notFound place => "Config file not found: " ++ place
  | unreadable place => "Error loading TOML from " ++ place
  | malformed source => "Error decoding TOML from " ++ source
  | clash .repeated => "Key already exists"
  | clash .reopened => "Redefinition of an existing table"
  | noToolTable => "[package.metadata.doc2readme] must be a table"
  | wrongType source key expected actual =>
    source ++ ": `" ++ key ++ "` must be of type " ++ expected ++ ", got " ++ actual
  | featuresNotTexts source => source ++ ": `features` must list strings"

namespace Config

/-- The names in lists of features; white space and commas divide them. -/
def featureNames (items : List String) : List String :=
  items.flatMap fun item =>
    (Text.runsOf (fun c => !(Text.isBlank c || c = ',')) item.toList).map String.ofList

/-- What stands for standard output in place of a file. -/
def stdoutMark : String :=
  "-"

def outputOf (base : Files.Location) (text : String) : Option Files.Location :=
  if text = stdoutMark then none else some (base.under (.ofText text))

def usualOutput (directory : Files.Location) : Files.Location :=
  directory.under (.ofText "README.md")

def usualTemplate (directory : Files.Location) : Files.Location :=
  directory.under (.ofText "README.j2")

namespace Draft

/-- The settings for a directory when no source says otherwise. -/
def defaults (directory : Files.Location) : Draft where
  output := usualOutput directory
  template := usualTemplate directory
  sources := ["<defaults>"]

/-- The settings of a run in a directory. Each feature counts once, where it is named first. -/
def freeze (draft : Draft) (directory : Files.Location) : Config where
  output := draft.output
  template := draft.template.getD (usualTemplate directory)
  expandMacros := draft.expandMacros
  features := draft.features.eraseDups
  allFeatures := draft.allFeatures
  noDefaultFeatures := draft.noDefaultFeatures
  preferBinary := draft.preferBinary
  sources := draft.sources
  warnings := draft.warnings

end Draft

def thaw (config : Config) : Draft where
  output := config.output
  template := config.template
  expandMacros := config.expandMacros
  features := config.features
  allFeatures := config.allFeatures
  noDefaultFeatures := config.noDefaultFeatures
  preferBinary := config.preferBinary
  sources := config.sources
  warnings := config.warnings

/-! ### Merging tables -/

def keys : List String :=
  ["out", "template", "expand_macros", "features", "all_features", "no_default_features",
   "prefer_bin"]

/-- Changing a draft: a failure keeps what was changed before. -/
abbrev Merging :=
  ExceptT ConfigError (StateM Draft)

def wrongType (source key expected : String) (value : Data.Value) : ConfigError :=
  .wrongType source key expected value.typeName

def textOf? : Data.Value → Option String
  | .text text => some text
  | _ => none

def featureItems (source : String) : Data.Value → Except ConfigError (List String)
  | .text value => .ok [value]
  | .list items =>
    match items.mapM textOf? with
    | some texts => .ok texts
    | none => .error (.featuresNotTexts source)
  | value => .error (wrongType source "features" "str or list" value)

/-- Changes a draft by the value of a key, if the table has the key. -/
def mergeKey (table : Data.Table) (key : String)
    (change : Draft → Data.Value → Except ConfigError Draft) : Merging Unit :=
  match table.get? key with
  | none => return
  | some value => do
    match change (← get) value with
    | .ok draft => set draft
    | .error error => throw error

def changeText (source key : String) (change : Draft → String → Draft) (draft : Draft)
    (value : Data.Value) : Except ConfigError Draft :=
  match value with
  | .text text => .ok (change draft text)
  | value => .error (wrongType source key "str" value)

def changeFlag (source key : String) (change : Draft → Bool → Draft) (draft : Draft)
    (value : Data.Value) : Except ConfigError Draft :=
  match value with
  | .bool flag => .ok (change draft flag)
  | value => .error (wrongType source key "bool" value)

def changeFeatures (source : String) (draft : Draft) (value : Data.Value) :
    Except ConfigError Draft := do
  return { draft with features := featureNames (← featureItems source value) }

def unknownKeys (table : Data.Table) (source : String) : List String :=
  (table.filter fun entry => entry.1 ∉ keys).map fun entry =>
    source ++ ": unknown configuration key `" ++ entry.1 ++ "`"

def mergeTable (table : Data.Table) (base : Files.Location) (source : String) : Merging Unit := do
  modify fun draft => { draft with warnings := draft.warnings ++ unknownKeys table source }
  let text (key : String) (change : Draft → String → Draft) : Merging Unit :=
    mergeKey table key (changeText source key change)
  let flag (key : String) (change : Draft → Bool → Draft) : Merging Unit :=
    mergeKey table key (changeFlag source key change)
  text "out" fun draft value => { draft with output := outputOf base value }
  text "template" fun draft value => { draft with template := base.under (.ofText value) }
  mergeKey table "features" (changeFeatures source)
  flag "expand_macros" fun draft value => { draft with expandMacros := value }
  flag "all_features" fun draft value => { draft with allFeatures := value }
  flag "no_default_features" fun draft value => { draft with noDefaultFeatures := value }
  flag "prefer_bin" fun draft value => { draft with preferBinary := value }
  modify fun draft => { draft with sources := draft.sources ++ [source] }

/-! ### The command line -/

/-- What the command line says about the settings. -/
structure Overrides where
  output : Option String := none
  template : Option String := none
  features : Option (List String) := none
  expandMacros : Option Bool := none
  allFeatures : Option Bool := none
  noDefaultFeatures : Option Bool := none
  preferBinary : Option Bool := none
  deriving DecidableEq, Repr, Inhabited

def Overrides.features? (overrides : Overrides) : Option (List String) :=
  overrides.features.filter fun items => !items.isEmpty

def Draft.override (draft : Draft) (overrides : Overrides) (base : Files.Location) : Draft where
  output := (overrides.output.map (outputOf base)).getD draft.output
  template := (overrides.template.map fun text => base.under (.ofText text)).or draft.template
  features := (overrides.features?.map featureNames).getD draft.features
  expandMacros := overrides.expandMacros.getD draft.expandMacros
  allFeatures := overrides.allFeatures.getD draft.allFeatures
  noDefaultFeatures := overrides.noDefaultFeatures.getD draft.noDefaultFeatures
  preferBinary := overrides.preferBinary.getD draft.preferBinary
  sources := draft.sources ++ ["<cli>"]
  warnings := draft.warnings

/-! ### Settings of a run that are changed

Settings of a run are thawed, changed and frozen again.
-/

/-- The settings for a directory when no source says otherwise. -/
def defaults (directory : Files.Location) : Config :=
  (Draft.defaults directory).freeze directory

/-- Merges a table of settings; a failure keeps what was changed before. -/
def merge (config : Config) (table : Data.Table) (base : Files.Location) (source : String) :
    Except ConfigError Unit × Config :=
  let (result, draft) := (mergeTable table base source).run.run config.thaw
  (result, draft.freeze base)

/-- The settings as the command line wants them. -/
def override (config : Config) (overrides : Overrides) (base : Files.Location) : Config :=
  (config.thaw.override overrides base).freeze base

end Config

end CrateReadme
