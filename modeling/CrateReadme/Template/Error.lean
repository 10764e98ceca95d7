import CrateReadme.Text.Integer

/-!
# Errors of templates

A template is refused because it is malformed, on a line that is named, or because filling it in
fails, for which there is a message. Some mistakes are not reported as mistakes of the template;
they only have a kind.
-/

namespace CrateReadme.Template

/-- Mistakes of a template that are not reported as such. -/
inductive Fault where
  /-- An operation does not apply to values of this kind. -/
  | kind
  /-- An operation does not apply to this value. -/
  | value
  | zeroDivision
  /-- A number is too large. -/
  | overflow
  /-- A sequence has no item at an index. -/
  | index
  /-- A table has no entry with a key. -/
  | key
  /-- A value has no member of a name. -/
  | member
  /-- Something that was taken for granted does not hold. -/
  | assertion
  /-- Calls are nested too deep. -/
  | depth
  /-- An expression has no meaning in its place. -/
  | form
  /-- A value is not in a state in which this can be done. -/
  | state
  /-- A text cannot be encoded. -/
  | encoding
  /-- An encoding or the like is not known. -/
  | lookup
  deriving DecidableEq, Repr

/-- Why a template cannot be filled in. -/
inductive TemplateError where
  | malformed (line : Nat)
  | failed (message : String)
  | fault (fault : Fault)
  deriving DecidableEq, Repr

def TemplateError.message : TemplateError → String
  | malformed line => "Template syntax error on line " ++ Text.decimalString line
  | failed message => "Failed to render template: " ++ message
  | fault _ => "Failed to render template"

end CrateReadme.Template
