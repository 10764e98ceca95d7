import CrateReadme.Template.Bundled
import CrateReadme.Template.Program

/-!
# The program of the bundled template

Whether a template is read as a given program can be decided by evaluation if programs can be
compared. The comparison knows the statements of plain templates: texts, outputs, assignments and
conditions. It says that two programs are the same only if they are. The bundled template is read as
a program that writes a title, collects badges and writes them, and writes the documentation and the
link definitions.
-/

namespace CrateReadme.Template

/-! ## Comparing programs -/

mutual

/-- Whether two expressions are the same expression of a plain template. -/
def Expr.same : Expr → Expr → Bool
  | .literal value, .literal other => value = other
  | .name word, .name other => word = other
  | .list items, .list others => sameExprs items others
  | .member object word, .member other word' => object.same other && word = word'
  | .call function arguments passing, .call function' arguments' passing' =>
    function.same function' && sameExprs arguments arguments' && passing = passing'
  | .filter line word value arguments passing, .filter line' word' value' arguments' passing' =>
    line = line' && word = word' && value.same value' && sameExprs arguments arguments' &&
      passing = passing'
  | .concat parts, .concat others => sameExprs parts others
  | .compare first ops rest, .compare first' ops' rest' =>
    first.same first' && ops = ops' && sameExprs rest rest'
  | _, _ => false

def sameExprs : List Expr → List Expr → Bool
  | [], [] => true
  | first :: rest, other :: others => first.same other && sameExprs rest others
  | _, _ => false

end

def Pattern.same : Pattern → Pattern → Bool
  | .name line word, .name line' word' => line = line' && word = word'
  | _, _ => false

mutual

def Statement.same : Statement → Statement → Bool
  | .text content, .text other => content = other
  | .output values, .output others => sameExprs values others
  | .cond condition body otherwise, .cond condition' body' otherwise' =>
    condition.same condition' && sameStatements body body' && sameStatements otherwise otherwise'
  | .assign pattern value, .assign pattern' value' => pattern.same pattern' && value.same value'
  | _, _ => false

def sameStatements : List Statement → List Statement → Bool
  | [], [] => true
  | first :: rest, other :: others => first.same other && sameStatements rest others
  | _, _ => false

end

/-- Whether two programs are the same program of a plain template, which has no blocks. -/
def Program.same (program other : Program) : Bool :=
  program.locals = other.locals && sameStatements program.body other.body &&
    program.blocks.isEmpty && other.blocks.isEmpty

mutual

/-- Expressions that compare as the same are equal. -/
theorem Expr.eq_of_same {value other : Expr} (hsame : value.same other) : value = other := by
  match value, other, hsame with
  | .literal _, .literal _, hsame =>
      rw [of_decide_eq_true hsame]
  | .name _, .name _, hsame =>
      rw [of_decide_eq_true hsame]
  | .list _, .list _, hsame =>
      rw [eq_of_sameExprs hsame]
  | .member _ _, .member _ _, hsame =>
      simp only [Expr.same, Bool.and_eq_true, decide_eq_true_eq] at hsame
      rw [Expr.eq_of_same hsame.1, hsame.2]
  | .call _ _ _, .call _ _ _, hsame =>
      simp only [Expr.same, Bool.and_eq_true, decide_eq_true_eq] at hsame
      obtain ⟨⟨hfunction, harguments⟩, hpassing⟩ := hsame
      rw [Expr.eq_of_same hfunction, eq_of_sameExprs harguments, hpassing]
  | .filter _ _ _ _ _, .filter _ _ _ _ _, hsame =>
      simp only [Expr.same, Bool.and_eq_true, decide_eq_true_eq] at hsame
      obtain ⟨⟨⟨⟨hline, hword⟩, hvalue⟩, harguments⟩, hpassing⟩ := hsame
      rw [hline, hword, Expr.eq_of_same hvalue, eq_of_sameExprs harguments, hpassing]
  | .concat _, .concat _, hsame =>
      rw [eq_of_sameExprs hsame]
  | .compare _ _ _, .compare _ _ _, hsame =>
      simp only [Expr.same, Bool.and_eq_true, decide_eq_true_eq] at hsame
      obtain ⟨⟨hfirst, hops⟩, hrest⟩ := hsame
      rw [Expr.eq_of_same hfirst, hops, eq_of_sameExprs hrest]

theorem eq_of_sameExprs {values others : List Expr} (hsame : sameExprs values others) :
    values = others := by
  match values, others, hsame with
  | [], [], _ => rfl
  | _ :: _, _ :: _, hsame =>
      simp only [sameExprs, Bool.and_eq_true] at hsame
      rw [Expr.eq_of_same hsame.1, eq_of_sameExprs hsame.2]

end

theorem Pattern.eq_of_same {pattern other : Pattern} (hsame : pattern.same other) :
    pattern = other := by
  match pattern, other, hsame with
  | .name _ _, .name _ _, hsame =>
      simp only [Pattern.same, Bool.and_eq_true, decide_eq_true_eq] at hsame
      rw [hsame.1, hsame.2]

mutual

/-- Statements that compare as the same are equal. -/
theorem Statement.eq_of_same {statement other : Statement} (hsame : statement.same other) :
    statement = other := by
  match statement, other, hsame with
  | .text _, .text _, hsame =>
      rw [of_decide_eq_true hsame]
  | .output _, .output _, hsame =>
      rw [eq_of_sameExprs hsame]
  | .cond _ _ _, .cond _ _ _, hsame =>
      simp only [Statement.same, Bool.and_eq_true] at hsame
      obtain ⟨⟨hcondition, hbody⟩, hotherwise⟩ := hsame
      rw [Expr.eq_of_same hcondition, eq_of_sameStatements hbody, eq_of_sameStatements hotherwise]
  | .assign _ _, .assign _ _, hsame =>
      simp only [Statement.same, Bool.and_eq_true] at hsame
      rw [Pattern.eq_of_same hsame.1, Expr.eq_of_same hsame.2]

theorem eq_of_sameStatements {statements others : List Statement}
    (hsame : sameStatements statements others) : statements = others := by
  match statements, others, hsame with
  | [], [], _ => rfl
  | _ :: _, _ :: _, hsame =>
      simp only [sameStatements, Bool.and_eq_true] at hsame
      rw [Statement.eq_of_same hsame.1, eq_of_sameStatements hsame.2]

end

theorem Program.eq_of_same {program other : Program} (hsame : program.same other) :
    program = other := by
  obtain ⟨locals, body, blocks⟩ := program
  obtain ⟨locals', body', blocks'⟩ := other
  simp only [Program.same, Bool.and_eq_true, decide_eq_true_eq, List.isEmpty_iff] at hsame
  obtain ⟨⟨⟨hlocals, hbody⟩, hblocks⟩, hblocks'⟩ := hsame
  rw [hlocals, eq_of_sameStatements hbody, hblocks, hblocks']

def Program.isOf (program : Program) (text : List Char) (standIns : Text.StandIns := .usual) :
    Bool :=
  match Program.ofText text standIns with
  | .ok other => other.same program
  | .error _ => false

theorem Program.ofText_eq_of_isOf {program : Program} {text : List Char}
    {standIns : Text.StandIns} (hprogram : program.isOf text standIns) :
    Program.ofText text standIns = .ok program := by
  rw [Program.isOf] at hprogram
  split at hprogram
  · next other hread => rw [hread, Program.eq_of_same hprogram]
  · cases hprogram

/-! ## The bundled template -/

def constant (text : String) : Expr :=
  .literal (.text text.toList)

/-- A comparison of the value of a name with a text. -/
def isText (word text : String) : Expr :=
  .compare (.name word) [.eq] [constant text]

/-- The statement that puts a badge behind those that there are. -/
def badge (line : Nat) (parts : List Expr) : Statement :=
  .assign (.name line "_") (.call (.member (.name "badges") "append") [.concat parts] [.plain])

/-- The part of the repository's address behind the host. -/
def repositoryPath : Expr :=
  .filter 5 "trim"
    (.filter 5 "replace" (.name "repository") [constant "https://github.com/", constant ""]
      [.plain, .plain])
    [constant "/"] [.plain]

def testBadge : List Expr :=
  [constant "[![Rust](https://github.com/", .name "repo",
   constant "/actions/workflows/rust.yml/badge.svg)](https://github.com/", .name "repo",
   constant "/actions/workflows/rust.yml)"]

def crateBadge : List Expr :=
  [constant "[![crates.io](https://img.shields.io/crates/v/", .name "crate",
   constant ".svg)](https://crates.io/crates/", .name "crate", constant ")"]

def docsBadge : List Expr :=
  [constant "[![docs.rs](https://img.shields.io/docsrs/", .name "crate",
   constant ")](https://docs.rs/", .name "crate", constant ")"]

def licenseBadge : List Expr :=
  [constant "![License: ", .name "license", constant "](https://img.shields.io/badge/license-",
   .filter 13 "urlencode"
    (.filter 13 "replace" (.name "license") [constant "-", constant "--"] [.plain, .plain]) [] [],
   constant "-blue.svg)"]

def compilerBadge : List Expr :=
  [constant "[![Rust Version: ", .name "rust_version",
   constant "](https://img.shields.io/badge/rustc-", .name "rust_version",
   constant "-orange.svg)](https://blog.rust-lang.org/)"]

def badgeStatements : List Statement :=
  [.assign (.name 3 "badges") (.list []),
   .cond (isText "repository_host" "github.com")
    [.assign (.name 5 "repo") repositoryPath, badge 6 testBadge] [],
   .cond (isText "target" "lib") [badge 9 crateBadge, badge 10 docsBadge] [],
   .cond (.name "license") [badge 13 licenseBadge] [],
   .cond (.name "rust_version") [badge 16 compilerBadge] []]

/-- The statements that write the badges, the documentation and the link definitions. -/
def partStatements : List Statement :=
  [.cond (.name "badges")
    [.text "\n\n".toList, .output [.filter 20 "join" (.name "badges") [constant " "] [.plain]]] [],
   .text "\n\n".toList,
   .output [.name "readme"],
   .cond (.name "links") [.text "\n\n".toList, .output [.name "links"]] [],
   .text "\n".toList]

def bundledLocals : Locals :=
  [("crate", .given), ("badges", .unset), ("repository_host", .given), ("repository", .given),
   ("repo", .given), ("_", .given), ("target", .given), ("license", .given),
   ("rust_version", .given), ("readme", .given), ("links", .given)]

def bundledProgram : Program where
  locals := bundledLocals
  body := .text "# ".toList :: .output [.name "crate"] :: (badgeStatements ++ partStatements)
  blocks := []

set_option maxRecDepth 100000 in
theorem ofText_bundled (standIns : Text.StandIns) :
    Program.ofText bundled.toList standIns = .ok bundledProgram := by
  apply Program.ofText_eq_of_isOf
  simp only [bundled, bundledLines, bundledProgram, bundledLocals, badgeStatements, partStatements,
    testBadge, crateBadge, docsBadge, licenseBadge, compilerBadge, repositoryPath, badge, isText,
    constant, String.toList_intercalate, String.toList_append, List.map_cons, List.map_nil,
    List.cons_append, List.nil_append]
  -- Texts are spelled out here: decoding them would take the kernel far longer than all the rest.
  repeat rw [String.toList_ofList]
  cases standIns <;> decide +kernel

end CrateReadme.Template
