import CrateReadme.Readme.Render

/-!
# Is a readme up to date?

A readme with a token is judged by the snapshot in it: the schema, the template and the
documentation must be those of now, and every dependency must still accept the version that the
links lead to. A readme without a token is made anew and compared.
-/

namespace CrateReadme.Readme

inductive Outcome where
  | upToDate
  | invalidInfo (cause : Snapshot.TokenError)
  | inputChanged
  | incompatible (dependency : String)
  | outdatedSchema
  | outputDiffers
  deriving Repr

namespace Outcome

def isOk : Outcome → Bool
  | upToDate => true
  | _ => false

def label : Outcome → String
  | upToDate => "up to date"
  | invalidInfo _ => "invalid dependency info"
  | inputChanged => "input changed"
  | incompatible _ => "incompatible dependency"
  | outdatedSchema => "outdated schema"
  | outputDiffers => "output differs"

/-- What an outcome is about, if there is anything to name. -/
def detail? : Outcome → Option String
  | invalidInfo cause => some cause.message
  | incompatible dependency => some dependency
  | _ => none

def message : Outcome → String
  | upToDate => "Readme is up to date"
  | invalidInfo cause => "Readme has invalid dependency info: " ++ cause.message
  | inputChanged => "Input has changed"
  | incompatible dependency =>
    "Readme links to incompatible version of dependency `" ++ dependency ++ "`"
  | outdatedSchema => "The readme was created with an outdated version of this tool"
  | outputDiffers => "Readme has changed"

def level : Outcome → Level
  | upToDate => .info
  | invalidInfo _ => .warning
  | _ => .error

def diagnostic (outcome : Outcome) : Diagnostic :=
  { level := outcome.level, message := outcome.message }

end Outcome

/-- A readme as it was found. A damaged one has bytes that are no text; they were replaced. -/
structure Existing where
  text : String
  damaged : Bool := false
  deriving Repr, Inhabited

/-- The result of a check. If the readme was made anew, it is here. -/
structure Verdict where
  outcome : Outcome
  rendering : Option Rendering := none

/-- The first dependency that does not agree with a snapshot. Dependencies that no link leads to do
not matter. -/
def incompatible? (snapshot : Snapshot) (dependencies : List Dependency) : Option Dependency :=
  dependencies.find? fun dependency =>
    !snapshot.accepts dependency.published dependency.requirement dependency.libName true

def judge (snapshot : Snapshot) (input : Input) (template : String) : Outcome :=
  if snapshot.isOutdated then .outdatedSchema
  else if !snapshot.isOf template input.docs then .inputChanged
  else
    match incompatible? snapshot input.dependencies with
    | some dependency => .incompatible dependency.published
    | none => .upToDate

def check (input : Input) (template : String) (readme : Existing) : Except RenderError Verdict :=
  match token? readme.text with
  | some token =>
    match Snapshot.ofToken token with
    | .error cause => .ok { outcome := .invalidInfo cause }
    | .ok snapshot => .ok { outcome := judge snapshot input template }
  | none =>
    match render input template with
    | .error error => .error error
    | .ok rendering =>
      let agrees := rendering.text = readme.text ∧ ¬readme.damaged
      .ok { outcome := if agrees then .upToDate else .outputDiffers, rendering }

end CrateReadme.Readme
