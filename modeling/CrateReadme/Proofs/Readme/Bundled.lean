import CrateReadme.Proofs.Template.Filled
import CrateReadme.Readme.Render

/-!
# Readmes made with the bundled template

The bundled template can be filled in with any fields: that never fails, and the result can be
written down. The fields of an input are a case of this. The template writes a masthead and leaves
the documentation and the link definitions behind it as they are, whatever they hold.
-/

namespace CrateReadme.Readme

open Template

/-- What a template can refer to. -/
structure Fields where
  crate : String
  crateVersion : String
  target : String
  repository : Option String
  host : Option String
  license : Option String
  rustVersion : Option String
  readme : String
  links : String

namespace Fields

/-- The fields by the names under which a template knows them. -/
def values (fields : Fields) : List (String × Data.Value) :=
  [("crate", .text fields.crate),
   ("crate_version", .text fields.crateVersion),
   ("target", .text fields.target),
   ("repository", optionalValue fields.repository),
   ("repository_host", optionalValue fields.host),
   ("license", optionalValue fields.license),
   ("rust_version", optionalValue fields.rustVersion),
   ("readme", .text fields.readme),
   ("links", .text fields.links)]

def sheet (fields : Fields) : Sheet where
  crate := fields.crate.toList
  target := fields.target.toList
  repository := fields.repository.map String.toList
  host := fields.host.map String.toList
  license := fields.license.map String.toList
  rustVersion := fields.rustVersion.map String.toList
  readme := fields.readme.toList
  links := fields.links.toList

/-- The values that a template can refer to. -/
def givenValues (fields : Fields) : List (String × Value) :=
  [("crate", .text fields.crate.toList), ("crate_version", .text fields.crateVersion.toList),
   ("target", .text fields.target.toList),
   ("repository", valueOfText (fields.repository.map String.toList)),
   ("repository_host", valueOfText (fields.host.map String.toList)),
   ("license", valueOfText (fields.license.map String.toList)),
   ("rust_version", valueOfText (fields.rustVersion.map String.toList)),
   ("readme", .text fields.readme.toList), ("links", .text fields.links.toList)]

end Fields

theorem valueOfData_optionalValue (text : Option String) (state : State) :
    valueOfData (optionalValue text) state = .ok (valueOfText (text.map String.toList), state) := by
  cases text <;> rfl

namespace Fields

variable (fields : Fields)

theorem mapM_values (state : State) :
    (fields.values.mapM fun (word, data) => do
      return (word, ← valueOfData data) : Run (List (String × Value))) state =
        .ok (fields.givenValues, state) := by
  have hvalue : ∀ word text, (do return (word, ← valueOfData (optionalValue text)) :
      Run (String × Value)) state = .ok ((word, valueOfText (text.map String.toList)), state) := by
    intro word text
    rw [Run.bind_of_ok (valueOfData_optionalValue text state)]
    rfl
  exact Run.mapM_of_forall₂ (.cons rfl (.cons rfl (.cons rfl (.cons (hvalue _ _)
    (.cons (hvalue _ _) (.cons (hvalue _ _) (.cons (hvalue _ _) (.cons rfl
      (.cons rfl .nil)))))))))

/-- The names of the bundled template start with the values of the sheet. -/
theorem enter_bundled (standIns : Text.StandIns) :
    let given := fields.givenValues ++ functionKinds.map fun (word, kind) => (word, Value.kind kind)
    let start : State :=
      { (default : State) with blocks := [], contexts := #[⟨[], given⟩], standIns }
    let sheet : Sheet := { fields.sheet with standIns }
    Template.Scope.enter ⟨[], 0, .off, true⟩ bundledLocals start =
      .ok ((0, ⟨[0], 0, .off, false⟩), sheet.start.state #[⟨[], given⟩]) := by
  intro given start sheet
  have hnames : (bundledLocals.mapM fun entry => do
      return (entry.1, ← Template.Scope.start ⟨[], 0, .off, true⟩ entry.1 entry.2) : Run Frame)
        start = .ok (sheet.start.frame, start) :=
    Run.mapM_of_forall₂ (.cons rfl (.cons rfl (.cons rfl (.cons rfl (.cons rfl (.cons rfl
      (.cons rfl (.cons rfl (.cons rfl (.cons rfl (.cons rfl .nil)))))))))))
  rw [Template.Scope.enter]
  exact Run.bind_of_ok hnames

/-- Filling in the bundled template never fails, and the result can be written down. What stands for
surrogates has no part in it. -/
theorem render_values (standIns : Text.StandIns) :
    Template.render bundled.toList fields.values standIns = .ok fields.sheet.text := by
  have hrun : ∃ last,
      bundledProgram.run fields.values { (default : State) with blocks := [], standIns } =
        .ok (fields.sheet.text, last) := by
    obtain ⟨next, contexts, hwritten, hall⟩ := executeAll_bundled (callsWithin callDepth)
      { fields.sheet with standIns } #[⟨[], fields.givenValues ++
        functionKinds.map fun (word, kind) => (word, Value.kind kind)⟩]
    obtain ⟨last, hlast⟩ := capturing_eq rfl hall rfl
    rw [hwritten] at hlast
    refine ⟨last, ?_⟩
    rw [Program.run, Run.bind_of_ok (fields.mapM_values _)]
    dsimp only
    rw [Run.bind_of_ok (Run.modify_eq _ _)]
    refine (Run.bind_of_ok (fields.enter_bundled standIns)).trans ?_
    exact hlast
  obtain ⟨last, hrun⟩ := hrun
  rw [Template.render, ofText_bundled]
  change Except.bind (bundledProgram.run _ _) _ = _
  rw [show bundledProgram.blocks = [] from rfl, hrun]
  rfl

end Fields

def sheet (input : Input) (host : Option String) (readme : List Char) (links : String) : Sheet where
  crate := input.crate.toList
  target := input.artifact.label.toList
  repository := input.repository.map String.toList
  host := host.map String.toList
  license := input.license.map String.toList
  rustVersion := input.rustVersion.map String.toList
  readme := readme
  links := links.toList

theorem render_bundled (input : Input) (host : Option String) (readme : List Char)
    (links : String) (standIns : Text.StandIns) :
    Template.render bundled.toList (templateValues input host readme links) standIns =
      .ok (sheet input host readme links).text := by
  let fields : Fields :=
    ⟨input.crate, input.version.render, input.artifact.label, input.repository, host,
      input.license, input.rustVersion, String.ofList readme, links⟩
  have hsheet : fields.sheet = sheet input host readme links := by
    simp only [fields, Fields.sheet, sheet, String.toList_ofList]
  rw [← hsheet]
  exact fields.render_values standIns

/-- With the bundled template a readme has bytes, unless the metadata holds a surrogate. -/
theorem isEncodable_bundled {input : Input} (hmetadata : input.respelled .other = input) :
    isEncodable input bundled = true := by
  have hsame : render input bundled .other = render input bundled := by
    simp only [render, render_bundled]
  rw [isEncodable, hmetadata, hsame]
  cases render input bundled with
  | error cause => rfl
  | ok rendering => exact decide_eq_true rfl

/-! ## The masthead -/

/-- The fields that the masthead of a readme is made from. -/
structure Masthead where
  crate : String
  target : String
  repository : Option String
  host : Option String
  license : Option String
  rustVersion : Option String

def Fields.masthead (fields : Fields) : Masthead :=
  ⟨fields.crate, fields.target, fields.repository, fields.host, fields.license, fields.rustVersion⟩

namespace Masthead

def badges (masthead : Masthead) : List (List Char) :=
  Template.Sheet.badges
    { crate := masthead.crate.toList
      target := masthead.target.toList
      repository := masthead.repository.map String.toList
      host := masthead.host.map String.toList
      license := masthead.license.map String.toList
      rustVersion := masthead.rustVersion.map String.toList
      readme := []
      links := [] }

/-- The title and, if there are any, the badges. -/
def text (masthead : Masthead) : List Char :=
  "# ".toList ++ masthead.crate.toList ++
    if masthead.badges = [] then [] else "\n\n".toList ++ Text.joinWith " ".toList masthead.badges

end Masthead

theorem Fields.front_sheet (fields : Fields) :
    fields.sheet.front = fields.masthead.text ++ "\n\n".toList ++ fields.readme.toList :=
  rfl

/-- With link definitions, the bundled template writes a masthead that starts with the name of the
crate, then the documentation and the link definitions as they are. Neither of them is read as a
template, trimmed or escaped, and neither has a part in the masthead. -/
theorem render_masthead (fields : Fields) (hlinks : fields.links ≠ "") :
    "# ".toList ++ fields.crate.toList <+: fields.masthead.text ∧
      Template.render Template.bundled.toList fields.values =
        .ok (fields.masthead.text ++ "\n\n".toList ++ fields.readme.toList ++
          "\n\n".toList ++ fields.links.toList ++ "\n".toList) := by
  have hsome : fields.sheet.links ≠ [] := fun hnil => hlinks (String.toList_eq_nil_iff.mp hnil)
  refine ⟨List.prefix_append _ _, ?_⟩
  rw [fields.render_values .usual, Template.Sheet.text, if_neg hsome, fields.front_sheet]
  simp only [List.append_assoc, Fields.sheet]

theorem render_masthead_braces :
    let fields : Fields :=
      { crate := "my-crate", crateVersion := "1.2.3", target := "bin", repository := none,
        host := none, license := none, rustVersion := none,
        readme := "\x7b\x7b crate \x7d\x7d & \x7b% raw %\x7d \n\n",
        links := " \x7b# gone? #\x7d\n" }
    fields.links ≠ "" ∧
      Template.render Template.bundled.toList fields.values =
        .ok ("# my-crate\n\n\x7b\x7b crate \x7d\x7d & \x7b% raw %\x7d \n\n".toList ++
          "\n\n \x7b# gone? #\x7d\n\n".toList) := by
  intro fields
  have hlinks : fields.links ≠ "" := by decide
  exact ⟨hlinks, (render_masthead fields hlinks).2.trans (by decide +kernel)⟩

end CrateReadme.Readme
