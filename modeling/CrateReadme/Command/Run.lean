import CrateReadme.Command.Arguments
import CrateReadme.Command.Session
import CrateReadme.Config.Source
import CrateReadme.Data.Json
import CrateReadme.Package.Basic
import CrateReadme.Patch.Unified

/-!
# Runs of the command

A run reads the settings, the package and its documentation, and then either writes the readme or
checks the one that is there.
-/

namespace CrateReadme.Command

/-! ## Command line and settings -/

/-- Understands a command line. A notice that was asked for ends the run. -/
def understand (texts : List String) : Run Arguments := do
  match Arguments.parse texts with
  | .error error => throw (.misuse error)
  | .ok arguments =>
    if let some notice := arguments.notice? then
      print notice
      throw (.exit 0)
    for (option, file) in arguments.namedFiles do
      if (← read).files.find (← locate file) matches .ok .directory ∧ file ≠ "" then
        throw (.misuse (.isDirectory option file))
    if 1 < arguments.rest.length then
      throw (.misuse (.extraArguments (arguments.rest.drop 1)))
    return arguments

/-- Sets the log level and the colours. The environment wins over the command line, but options that
contradict each other are an error in any case. -/
def prepare (options : Options) : Run Unit := do
  match Logging.levelOfCounts? options.verbose options.quiet with
  | none => fail .usage "The '--verbose' and '--quiet' options are mutually exclusive."
  | some wanted =>
    let level ← match Logging.Setting.ofText (← read).logSetting with
      | .unset => pure wanted
      | .level level => pure level
      | .noNumber => crash .logSetting
    let colored := (← read).terminal && !options.noColor
    modify fun session => { session with level, console := { session.console with colored } }

/-- Refuses options that do not go together. -/
def refuse (arguments : Arguments) : Run Unit := do
  if let some word := arguments.rest.head? then
    if word ≠ commandName then
      fail .usage ("Unexpected argument '" ++ word ++ "'.")
  if arguments.options.binary ∧ arguments.options.library then
    fail .usage "The '--bin' and '--lib' options are mutually exclusive."
  if arguments.options.diff ∧ ¬arguments.options.check then
    fail .usage "The '--diff' option requires '--check'."

def Options.overrides (options : Options) : Config.Overrides :=
  let given (flag : Bool) : Option Bool := if flag then some true else none
  { output := options.output
    template := options.template
    features := (options.features.filter (· ≠ "")).map fun text => [text]
    expandMacros := given options.expandMacros
    allFeatures := given options.allFeatures
    noDefaultFeatures := given options.noDefaultFeatures
    preferBinary :=
      if options.binary then some true else if options.library then some false else none }

/-- The settings of the run. What is odd about their sources is logged. -/
def configure (options : Options) : Run Config := do
  let world ← read
  let (result, draft) := (Config.mergeSources world.files world.directory options.manifestPath
    options.config).run.run (Config.Draft.defaults world.directory)
  for warning in draft.warnings do
    log Logging.warningLevel warning
  match result with
  | .error (.clash cause) => crash (.settings cause)
  | .error error => fail .config error.message
  | .ok () => return (draft.override options.overrides world.directory).freeze world.directory

/-- The warnings for settings about features that have no effect. -/
def featureWarnings (config : Config) : DiagnosticLog :=
  let warning (active : Bool) (option : String) : List Diagnostic :=
    if active ∧ ¬config.expandMacros then
      [{ level := .warning
         message := option ++ " has no effect without the --expand-macros flag" }]
    else
      []
  { filename := ""
    items := warning (!config.features.isEmpty) "--features option" ++
      warning config.noDefaultFeatures "--no-default-features flag" ++
      warning config.allFeatures "--all-features flag" }

/-! ## Input -/

def isReported : Package.MetadataError → Bool
  | .noSuchPackage _ | .noRootPackage | .noTarget | .missingField _ | .badVersion _ _ => true
  | _ => false

def readPackage (options : Options) : Run Package := do
  let manifest ← options.manifestPath.mapM locate
  let answer ← callTool (Package.metadataCommand manifest) (← read).metadata
  let messages := String.ofList (Text.universalNewlines answer.messages.toList)
  match Files.text? answer.output with
  | none => crash .undecodable
  | some text =>
    if answer.status ≠ 0 then
      failTool messages "Failed to get cargo metadata"
    match Data.Json.parse? text.toList with
    | none => failTool messages "cargo metadata returned invalid JSON"
    | some (.table document) =>
      let (result, warnings) := Package.ofMetadata document options.package
      for warning in warnings do
        log Logging.warningLevel warning
      match result with
      | .ok package => return package
      | .error error =>
        if isReported error then fail .notFound error.message else crash (.metadata error)
    | some _ => fail .external "cargo metadata returned an unexpected document"

/-- The code of a target with its macros expanded by the build tool. -/
def expandCode (options : Options) (config : Config) (target : Target) (artifact : Artifact) :
    Run String := do
  log Logging.infoLevel
    ("Expanding macros of " ++ artifact.label ++ " target `" ++ target.name ++ "`")
  let choice : Package.FeatureChoice :=
    { features := config.features
      all := config.allFeatures
      noDefault := config.noDefaultFeatures }
  let manifest := options.manifestPath.map Files.Location.ofText
  let answer ← callTool (Package.expansionCommand target.name artifact manifest choice)
    (← read).expansion
  if answer.status ≠ 0 then
    failTool answer.messages "Failed to expand macros"
  match Text.ofUtf8? answer.output with
  | some code => return code
  | none => failTool answer.messages "rustc output is not valid UTF-8"

def readCode (target : Target) : Run String := do
  let place := Files.Location.ofText target.sourcePath
  log Logging.infoLevel ("Reading " ++ place.render)
  match (← read).files.read ((← read).directory.under place) with
  | .error _ => fail .io "Failed to read crate code"
  | .ok content =>
    match Files.text? content with
    | some code => return code
    | none => fail .io (place.render ++ " is not valid UTF-8")

/-- What the readme is made from. Problems in the source are shown. -/
def collect (options : Options) (config : Config) : Run Readme.Input := do
  let package ← readPackage options
  let (target, artifact) ← match package.selectTarget config.preferBinary with
    | .ok choice => pure choice
    | .error error => fail .notFound error.message
  let code ← if config.expandMacros then expandCode options config target artifact
    else readCode target
  let filename := (Files.Location.ofText target.sourcePath).name
  match Readme.Input.read package artifact { filename, code } with
  | .error cause => crash (.source cause)
  | .ok (input, diagnostics) =>
    for _ in diagnostics.items.filter fun diagnostic => diagnostic.level = .warning do
      log Logging.infoLevel "Found an unexpanded macro in a doc attribute"
    showDiagnostics diagnostics
    if diagnostics.failed then
      fail .data ("Could not read " ++ filename)
    return input

/-- The template: the one in the file, or the bundled one if there is no file. -/
def readTemplate (config : Config) : Run String := do
  let files := (← read).files
  if files.holds config.template then
    log Logging.infoLevel ("Reading template " ++ config.template.render)
    let text? := match files.read config.template with
      | .ok content => Files.text? content
      | .error _ => none
    match text? with
    | some text => return text
    | none => fail .io ("Failed to read template " ++ config.template.render)
  else
    return Template.bundled

/-! ## Output -/

/-- Stops because no readme could be made. -/
def failRender {α : Type} : Readme.RenderError → Run α
  | .badRepository => crash .badRepository
  | .template (.fault cause) => crash (.template cause)
  | .template error => fail .data error.message

/-- Logs the references that could not be resolved while a readme is made. -/
def logGiveUps (input : Readme.Input) (template : String) : Run Unit := do
  for path in (Readme.draft input template).trace.gaveUp do
    log Logging.warningLevel ("Giving up resolving " ++ Text.quoted path ++ ": import cycle")

def renderReadme (input : Readme.Input) (template : String) : Run Readme.Rendering := do
  logGiveUps input template
  match Readme.render input template with
  | .ok rendering => return rendering
  | .error error => failRender error

def linkLog (input : Readme.Input) (diagnostics : List Diagnostic) : DiagnosticLog :=
  { filename := input.crate, items := diagnostics }

/-- Stops at a readme that has no bytes. This is found out only after the write has begun. -/
def breakOff (place : Files.Location) : Run Unit := do
  match (← get).files.beginWrite place (← read).marks with
  | .ok files =>
    modify fun session => { session with files }
    crash .unencodable
  | .error _ => fail .io ("Unable to write " ++ place.render)

def writeReadme (config : Config) (input : Readme.Input) (template : String) : Run Unit := do
  let rendering ← renderReadme input template
  showDiagnostics (linkLog input rendering.diagnostics)
  match config.output with
  | none =>
    log Logging.infoLevel "Writing README to stdout"
    if Readme.isEncodable input template then print rendering.text else crash .unencodable
  | some place =>
    log Logging.infoLevel ("Writing README to " ++ place.render)
    if Readme.isEncodable input template then
      match (← get).files.write place (Text.utf8 rendering.text) with
      | .ok files => modify fun session => { session with files }
      | .error _ => fail .io ("Unable to write " ++ place.render)
    else
      breakOff place

def readReadme (place : Files.Location) : Run Readme.Existing := do
  log Logging.infoLevel ("Reading " ++ place.render)
  match (← read).files.read place with
  | .ok content =>
    return { text := Files.lossyText content, damaged := (Text.ofUtf8? content).isNone }
  | .error .missing => fail .notFound ("File not found: " ++ place.render)
  | .error .blocked => fail .io ("Unable to read " ++ place.render)

/-- Judges the readme that is there, and makes a new one where the changes are to be shown. -/
def judgeReadme (input : Readme.Input) (template : String) (readme : Readme.Existing)
    (showChanges : Bool) : Run Readme.Verdict := do
  if (Readme.token? readme.text).isNone then
    log Logging.infoLevel "Readme has no dependency info; comparing the full output"
    logGiveUps input template
  match Readme.check input template readme with
  | .error error => failRender error
  | .ok verdict =>
    if showChanges ∧ ¬verdict.outcome.isOk ∧ verdict.rendering.isNone then
      return { verdict with rendering := ← renderReadme input template }
    else
      return verdict

/-- Shows the outcome of a check, and the changes if they are wanted. -/
def reportVerdict (place : Files.Location) (readme : Readme.Existing) (verdict : Readme.Verdict)
    (showChanges : Bool) : Run Unit := do
  let outcome := verdict.outcome
  let colored := (← get).console.colored
  log Logging.infoLevel
    ("Check outcome: " ++ outcome.level.style.paintIf colored outcome.label)
  message (outcome.diagnostic.report place.render "" colored) false
  if showChanges ∧ ¬outcome.isOk then
    if let some rendering := verdict.rendering then
      let patch := Patch.unified readme.text rendering.text place.name
      message (Patch.report colored patch) false

def checkReadme (config : Config) (input : Readme.Input) (template : String) (showChanges : Bool) :
    Run Unit := do
  match config.output with
  | none => fail .usage "'--check' needs an output file, not stdout."
  | some place =>
    let readme ← readReadme place
    let verdict ← judgeReadme input template readme showChanges
    let diagnostics := (verdict.rendering.map Readme.Rendering.diagnostics).getD []
    showDiagnostics (linkLog input diagnostics)
    reportVerdict place readme verdict showChanges
    unless verdict.outcome.isOk do
      throw (.exit 1)

/-! ## The command -/

def command (texts : List String) : Run Unit := do
  let arguments ← understand texts
  let options := arguments.options
  prepare options
  refuse arguments
  let config ← configure options
  showDiagnostics (featureWarnings config)
  let input ← collect options config
  let template ← readTemplate config
  if options.check then
    checkReadme config input template options.diff
  else
    writeReadme config input template

/-- What a run leaves behind. -/
structure Transcript where
  status : Nat
  out : String
  err : String
  /-- The calls of the build tool, in order. -/
  commands : List (List String)
  files : Files.Store
  crash : Option Crash := none

def Stop.show (console : Terminal.Console) : Stop → Terminal.Console
  | .misuse cause => console.message cause.report false
  | .error _ text => console.message ("Error: " ++ text) true
  | .exit _ => console
  | .crash _ => console

def run (world : World) (texts : List String) : Transcript :=
  let start : Session := { console := { colored := false }, files := world.files }
  let (result, session) := ((command texts).run.run world).run start
  let (status, console, cause) : Nat × Terminal.Console × Option Crash := match result with
    | .ok () => (0, session.console, none)
    | .error stop =>
      let cause := match stop with
        | .crash cause => some cause
        | _ => none
      (stop.status, stop.show session.console, cause)
  { status
    out := console.out
    err := console.err
    commands := session.commands
    files := session.files
    crash := cause }

end CrateReadme.Command
