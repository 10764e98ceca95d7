import CrateReadme.Proofs.Template.Bundled
import CrateReadme.Proofs.Template.Filling
import Mathlib.Data.List.Forall2

/-!
# The bundled template, filled in

Filling in the bundled template never fails, and its result can be written down: the title, the
badges, the documentation and the link definitions. The proof goes through the statements of the
program; in between, all that matters is which badges there are and what is written.
-/

namespace CrateReadme.Template

structure Sheet where
  crate : List Char
  target : List Char
  repository : Option (List Char)
  host : Option (List Char)
  license : Option (List Char)
  rustVersion : Option (List Char)
  readme : List Char
  links : List Char
  standIns : Text.StandIns := .usual

/-- A text that may be missing, as a value. -/
def valueOfText : Option (List Char) → Value
  | some text => .text text
  | none => .none

namespace Sheet

/-- The part of the repository's address behind the host. -/
def repositoryPath (sheet : Sheet) : List Char :=
  Text.trim (fun c => c ∈ "/".toList)
    (Filter.replaced "https://github.com/".toList "".toList (-1)
      (sheet.repository.getD "None".toList))

/-- The badge for the tests of a repository on a known host. -/
def testBadges (sheet : Sheet) : List (List Char) :=
  if sheet.host = some "github.com".toList then
    ["[![Rust](https://github.com/".toList ++ sheet.repositoryPath ++
      "/actions/workflows/rust.yml/badge.svg)](https://github.com/".toList ++
      sheet.repositoryPath ++ "/actions/workflows/rust.yml)".toList]
  else []

/-- The badges for the version and the documentation of a library. -/
def crateBadges (sheet : Sheet) : List (List Char) :=
  if sheet.target = "lib".toList then
    ["[![crates.io](https://img.shields.io/crates/v/".toList ++ sheet.crate ++
      ".svg)](https://crates.io/crates/".toList ++ sheet.crate ++ ")".toList,
     "[![docs.rs](https://img.shields.io/docsrs/".toList ++ sheet.crate ++
      ")](https://docs.rs/".toList ++ sheet.crate ++ ")".toList]
  else []

def licenseBadges (sheet : Sheet) : List (List Char) :=
  match sheet.license with
  | some (c :: license) =>
    ["![License: ".toList ++ (c :: license) ++ "](https://img.shields.io/badge/license-".toList ++
      Filter.encoded (Filter.replaced "-".toList "--".toList (-1) (c :: license)) ++
      "-blue.svg)".toList]
  | _ => []

def compilerBadges (sheet : Sheet) : List (List Char) :=
  match sheet.rustVersion with
  | some (c :: version) =>
    ["[![Rust Version: ".toList ++ (c :: version) ++
      "](https://img.shields.io/badge/rustc-".toList ++ (c :: version) ++
      "-orange.svg)](https://blog.rust-lang.org/)".toList]
  | _ => []

def badges (sheet : Sheet) : List (List Char) :=
  sheet.testBadges ++ sheet.crateBadges ++ sheet.licenseBadges ++ sheet.compilerBadges

/-- What stands in front of the link definitions: the title, the badges and the documentation. -/
def front (sheet : Sheet) : List Char :=
  "# ".toList ++ sheet.crate ++
    (if sheet.badges = [] then [] else "\n\n".toList ++ Text.joinWith " ".toList sheet.badges) ++
    "\n\n".toList ++ sheet.readme

def text (sheet : Sheet) : List Char :=
  sheet.front ++ (if sheet.links = [] then [] else "\n\n".toList ++ sheet.links) ++ "\n".toList

end Sheet

/-- How far the program of the bundled template has come: the badges that there are, the values of
`repo` and `_`, and what is written. -/
structure Stage where
  sheet : Sheet
  badges : Option (List (List Char))
  repo : Option Value
  last : Option Value
  written : List (List Char)

namespace Stage

def frame (stage : Stage) : Frame :=
  [("crate", some (.text stage.sheet.crate)), ("badges", stage.badges.map fun _ => .list 0),
   ("repository_host", some (valueOfText stage.sheet.host)),
   ("repository", some (valueOfText stage.sheet.repository)), ("repo", stage.repo),
   ("_", stage.last), ("target", some (.text stage.sheet.target)),
   ("license", some (valueOfText stage.sheet.license)),
   ("rust_version", some (valueOfText stage.sheet.rustVersion)),
   ("readme", some (.text stage.sheet.readme)), ("links", some (.text stage.sheet.links))]

/-- The state at a stage. What is bound for the whole template does not matter. -/
def state (stage : Stage) (contexts : Array Context) : State where
  blocks := []
  objects := (stage.badges.map fun badges => Object.list (badges.map .text)).toList.toArray
  frames := #[stage.frame]
  contexts := contexts
  escapes := false
  output := (stage.written.map some).toArray
  standIns := stage.sheet.standIns

end Stage

/-- Where the statements of the bundled template stand. -/
def top (calls : Calls) : Here :=
  ⟨calls, ⟨[0], 0, .off, true⟩, .none⟩

variable {calls : Calls} {stage next last : Stage}

def Gives (calls : Calls) (stage : Stage) (expr : Expr) (value : Value) : Prop :=
  ∀ contexts, evaluate (top calls) expr (stage.state contexts) = .ok (value, stage.state contexts)

def Leads (calls : Calls) (stage : Stage) (statements : List Statement) (next : Stage) : Prop :=
  ∀ contexts, ∃ contexts', executeAll (top calls) statements (stage.state contexts) =
    .ok ((), next.state contexts')

theorem escapes_eq (state : State) : (top calls).escapes state = .ok (false, state) :=
  rfl

/-- The names and their values after an assignment. -/
def rebound (frame : Frame) (word : String) (value : Value) : Frame :=
  frame.map fun entry => if entry.1 = word then (word, some value) else entry

section Names

variable (calls : Calls) {state : State} {frame : Frame} (hframes : state.frames = #[frame])
include hframes

theorem cell?_eq {word : String} {value : Option Value} (hword : frame.lookup word = some value) :
    Scope.cell? (top calls).scope word state = .ok (some (0, value), state) := by
  rw [Scope.cell?, Run.bind_of_ok (Run.get_eq _)]
  change Except.ok (List.findSome? _ [0], _) = _
  simp [hframes, hword]

/-- An assignment changes the value of the name, also for the whole template. -/
theorem assign_eq {word : String} (hword : (frame.lookup word).isSome) (new : Value) :
    ∃ contexts, Scope.assign (top calls).scope word new state =
      .ok ((), { state with frames := #[rebound frame word new], contexts }) := by
  obtain ⟨value, hvalue⟩ := Option.isSome_iff_exists.mp hword
  have hbind : Scope.bind (top calls).scope word new state =
      .ok ((), { state with frames := #[rebound frame word new] }) := by
    rw [Scope.bind, Run.bind_of_ok (cell?_eq calls hframes hvalue)]
    change Except.ok ((), _) = _
    simp [hframes, rebound]
  rw [Scope.assign, Run.bind_of_ok hbind]
  exact ⟨_, rfl⟩

end Names

namespace Gives

-- The equations of the evaluator are worked out here, once, for all the proofs below.
attribute [local simp] evaluate execute in
theorem constant (text : String) : Gives calls stage (constant text) (.text text.toList) := by
  intro contexts
  simp [Template.constant]
  rfl

theorem name {word : String} {value : Value} (hword : stage.frame.lookup word = some (some value)) :
    Gives calls stage (.name word) value := by
  intro contexts
  change Scope.lookup (top calls).scope word _ = _
  have hvalue : Scope.value? (top calls).scope word (stage.state contexts) =
      .ok (some value, stage.state contexts) := by
    rw [Scope.value?, Run.bind_of_ok (cell?_eq calls rfl hword)]
    rfl
  rw [Scope.lookup, Run.bind_of_ok hvalue]
  rfl

theorem trim {line : Nat} {value : Expr} {text : List Char} (chars : String)
    (hvalue : Gives calls stage value (.text text)) :
    Gives calls stage (.filter line "trim" value [Template.constant chars] [.plain])
      (.text (Text.trim (fun c => c ∈ chars.toList) text)) := by
  intro contexts
  rw [evaluate, Run.bind_of_ok (hvalue contexts)]
  exact Filter.apply_trim text chars.toList

theorem replace {line : Nat} {value : Expr} {given : Value} {text : List Char} (old new : String)
    (hvalue : Gives calls stage value given)
    (hshown : ∀ state, given.shown state = .ok (text, state)) :
    Gives calls stage
      (.filter line "replace" value [Template.constant old, Template.constant new] [.plain, .plain])
      (.text (Filter.replaced old.toList new.toList (-1) text)) := by
  intro contexts
  rw [evaluate, Run.bind_of_ok (hvalue contexts)]
  have hescapes : (stage.state contexts).escapes = false := rfl
  exact Filter.apply_replace hescapes (hshown _) old.toList new.toList

theorem urlencode {line : Nat} {value : Expr} {text : List Char}
    (hvalue : Gives calls stage value (.text text)) :
    Gives calls stage (.filter line "urlencode" value [] []) (.text (Filter.encoded text)) := by
  intro contexts
  rw [evaluate, Run.bind_of_ok (hvalue contexts)]
  exact Filter.apply_urlencode text

/-- A comparison with a text tells whether that text was given. -/
theorem isText {word : String} (given : Option (List Char)) (text : String)
    (hword : stage.frame.lookup word = some (some (valueOfText given))) :
    Gives calls stage (isText word text) (.bool (given = some text.toList)) := by
  intro contexts
  have hequal : (valueOfText given).equal (.text text.toList) (stage.state contexts) =
      .ok (decide (given = some text.toList), stage.state contexts) := by
    cases given with
    | none => exact Value.equal_none text.toList
    | some other =>
        rw [valueOfText, Value.equal_text]
        simp
  have hchain : compareChain (top calls) (valueOfText given) [.eq] [Template.constant text]
      (stage.state contexts) = .ok (decide (given = some text.toList), stage.state contexts) := by
    rw [compareChain, Run.bind_of_ok (constant text contexts), Value.compare,
      Run.bind_of_ok hequal]
    cases decide (given = some text.toList) <;> rfl
  rw [Template.isText, evaluate, Run.bind_of_ok (name hword contexts), Run.bind_of_ok hchain]
  rfl

/-- The values of the parts of a text. -/
theorem concat {parts : List Expr} {texts : List (List Char)}
    (hparts : List.Forall₂ (fun part text => Gives calls stage part (.text text)) parts texts) :
    Gives calls stage (.concat parts) (.text texts.flatten) := by
  intro contexts
  have hall : evaluateAll (top calls) parts (stage.state contexts) =
      .ok (texts.map .text, stage.state contexts) := by
    induction hparts with
    | nil => rfl
    | cons hpart _ ih =>
        rw [evaluateAll, Run.bind_of_ok (hpart contexts), Run.bind_of_ok ih]
        rfl
  rw [evaluate, Run.bind_of_ok hall, Run.bind_of_ok (escapes_eq _), Bool.and_false]
  exact joinedTexts_text texts

/-- The text of a badge, which shows two values. -/
theorem shield {first second : Expr} {shown shown' : List Char}
    (hfirst : Gives calls stage first (.text shown))
    (hsecond : Gives calls stage second (.text shown')) (start middle stop : String) :
    Gives calls stage
      (.concat [Template.constant start, first, Template.constant middle, second,
        Template.constant stop])
      (.text (start.toList ++ shown ++ middle.toList ++ shown' ++ stop.toList)) := by
  have hstart : Gives calls stage (Template.constant start) (.text start.toList) := constant start
  have hparts := concat (.cons hstart (.cons hfirst (.cons (constant middle)
    (.cons hsecond (.cons (constant stop) .nil)))))
  simpa using hparts

end Gives

namespace Leads

theorem nil : Leads calls stage [] stage :=
  fun contexts => ⟨contexts, rfl⟩

theorem append {first second : List Statement} (hfirst : Leads calls stage first next)
    (hsecond : Leads calls next second last) : Leads calls stage (first ++ second) last := by
  have happend : ∀ statements, executeAll (top calls) (statements ++ second) =
      executeAll (top calls) statements >>= fun _ => executeAll (top calls) second := by
    intro statements
    induction statements with
    | nil => rfl
    | cons statement statements ih =>
        rw [List.cons_append, executeAll, executeAll, ih, bind_assoc]
  intro contexts
  obtain ⟨middle, hmiddle⟩ := hfirst contexts
  rw [happend, Run.bind_of_ok hmiddle]
  exact hsecond middle

theorem of_execute {statement : Statement}
    (hstatement : ∀ contexts, ∃ contexts', execute (top calls) statement (stage.state contexts) =
      .ok ((), next.state contexts')) : Leads calls stage [statement] next := by
  intro contexts
  obtain ⟨contexts', hexecute⟩ := hstatement contexts
  refine ⟨contexts', ?_⟩
  rw [executeAll, Run.bind_of_ok hexecute]
  rfl

theorem text (content : List Char) : Leads calls stage [.text content]
    { stage with written := stage.written ++ [content] } := by
  refine of_execute fun contexts => ⟨contexts, ?_⟩
  change Except.ok ((), _) = _
  simp [Stage.state, Stage.frame]

theorem output {expr : Expr} {value : Value} {content : List Char}
    (hvalue : Gives calls stage expr value)
    (hshown : ∀ state, value.shown state = .ok (content, state)) :
    Leads calls stage [.output [expr]]
      { stage with written := stage.written ++ [content] } := by
  refine of_execute fun contexts => ⟨contexts, ?_⟩
  rw [execute, writeAll, Run.bind_of_ok (hvalue contexts), Run.bind_of_ok (escapes_eq _)]
  simp only [Bool.and_false, Bool.false_eq_true, if_false]
  rw [Run.bind_of_ok (hshown _)]
  change Except.ok ((), _) = _
  simp [Stage.state, Stage.frame]

theorem cond {condition : Expr} {value : Value} {holds : Bool} {body : List Statement}
    (hcondition : Gives calls stage condition value)
    (htruth : ∀ contexts,
      value.truth (stage.state contexts) = .ok (holds, stage.state contexts))
    (hbody : Leads calls stage (if holds then body else []) next) :
    Leads calls stage [.cond condition body []] next := by
  refine of_execute fun contexts => ?_
  obtain ⟨contexts', hrun⟩ := hbody contexts
  refine ⟨contexts', ?_⟩
  rw [execute, Run.bind_of_ok (hcondition contexts), Run.bind_of_ok (htruth contexts)]
  cases holds <;> exact hrun

theorem assign {line : Nat} {word : String} {expr : Expr} {value : Value}
    {after : Array Context → State}
    (hvalue : ∀ contexts, evaluate (top calls) expr (stage.state contexts) =
      .ok (value, after contexts))
    (hframes : ∀ contexts, (after contexts).frames = #[stage.frame])
    (hword : (stage.frame.lookup word).isSome)
    (hnext : ∀ contexts contexts',
      { after contexts with frames := #[rebound stage.frame word value], contexts := contexts' } =
        next.state contexts') :
    Leads calls stage [.assign (.name line word) expr] next := by
  refine of_execute fun contexts => ?_
  have hrecords : requireRecords (top calls).scope (.name line word) (stage.state contexts) =
      .ok ((), stage.state contexts) := rfl
  obtain ⟨contexts', hassign⟩ := assign_eq calls (hframes contexts) hword value
  refine ⟨contexts', ?_⟩
  rw [execute, Run.bind_of_ok hrecords, Run.bind_of_ok (hvalue contexts), ← hnext contexts]
  exact hassign

theorem list {line : Nat} (hbadges : stage.badges = none) :
    Leads calls stage [.assign (.name line "badges") (.list [])]
      { stage with badges := some [] } := by
  have hvalue : ∀ contexts, evaluate (top calls) (.list []) (stage.state contexts) =
      .ok (.list 0, { stage.state contexts with objects := #[.list []] }) := by
    intro contexts
    change Except.ok (_, _) = _
    simp [Stage.state, hbadges]
  refine assign hvalue (fun _ => rfl) ?_ fun contexts contexts' => ?_
  · simp [Stage.frame, List.lookup_cons, hbadges]
  · simp [Stage.state, Stage.frame, rebound]

theorem repo {line : Nat} {expr : Expr} {value : Value} (hvalue : Gives calls stage expr value) :
    Leads calls stage [.assign (.name line "repo") expr] { stage with repo := some value } := by
  refine assign hvalue (fun _ => rfl) ?_ fun contexts contexts' => ?_
  · simp [Stage.frame, List.lookup_cons]
  · simp [Stage.state, Stage.frame, rebound]

/-- A badge is added behind the others. -/
theorem badge {line : Nat} {parts : List Expr} {badges : List (List Char)}
    {content : List Char} (hbadges : stage.badges = some badges)
    (hcontent : Gives calls stage (.concat parts) (.text content)) :
    Leads calls stage [badge line parts]
      { stage with badges := some (badges ++ [content]), last := some .none } := by
  have hlist : Gives calls stage (.name "badges") (.list 0) :=
    Gives.name (by simp [Stage.frame, List.lookup_cons, hbadges])
  have hobjects : ∀ contexts, (stage.state contexts).objects[0]? =
      some (.list (badges.map .text)) := by
    intro contexts
    simp [Stage.state, hbadges]
  have hvalue : ∀ contexts, evaluate (top calls)
      (.call (.member (.name "badges") "append") [.concat parts] [.plain]) (stage.state contexts) =
      .ok (.none, { stage.state contexts with
        objects := #[.list ((badges ++ [content]).map .text)] }) := by
    intro contexts
    have hmethod : evaluate (top calls) (.member (.name "badges") "append")
        (stage.state contexts) = .ok (.method (.list 0) "append", stage.state contexts) := by
      rw [evaluate, Run.bind_of_ok (hlist contexts)]
      rfl
    have harguments : evaluateArguments (top calls) ⟨[], []⟩ [.concat parts] [.plain]
        (stage.state contexts) = .ok (⟨[.text content], []⟩, stage.state contexts) := by
      rw [evaluateArguments, Run.bind_of_ok (hcontent contexts)]
      rfl
    rw [evaluate, Run.bind_of_ok hmethod, Run.bind_of_ok harguments]
    change Method.callValue (.method (.list 0) "append") ⟨[.text content], []⟩
      (stage.state contexts) = _
    rw [callValue_append (hobjects contexts)]
    simp [Stage.state, hbadges]
  refine assign hvalue (fun _ => rfl) ?_ fun contexts contexts' => ?_
  · simp [Stage.frame, List.lookup_cons]
  · simp [Stage.state, Stage.frame, rebound, hbadges]

end Leads

/-! ### The badges -/

/-- Statements put badges behind those that there are. -/
def Collects (calls : Calls) (sheet : Sheet) (statements : List Statement)
    (new : List (List Char)) : Prop :=
  ∀ badges repo last written, ∃ repo' last',
    Leads calls ⟨sheet, some badges, repo, last, written⟩ statements
      ⟨sheet, some (badges ++ new), repo', last', written⟩

namespace Collects

variable {sheet : Sheet}

theorem append {first second : List Statement} {new others : List (List Char)}
    (hfirst : Collects calls sheet first new) (hsecond : Collects calls sheet second others) :
    Collects calls sheet (first ++ second) (new ++ others) := by
  intro badges repo last written
  obtain ⟨repo', last', hnew⟩ := hfirst badges repo last written
  obtain ⟨repo'', last'', hothers⟩ := hsecond (badges ++ new) repo' last' written
  refine ⟨repo'', last'', ?_⟩
  rw [← List.append_assoc]
  exact hnew.append hothers

theorem nil : Collects calls sheet [] [] := by
  intro badges repo last written
  exact ⟨repo, last, by simpa using Leads.nil⟩

theorem badge {line : Nat} {parts : List Expr} {content : List Char}
    (hcontent : ∀ stage : Stage, stage.sheet = sheet →
      Gives calls stage (.concat parts) (.text content)) :
    Collects calls sheet [badge line parts] [content] :=
  fun _ repo _ _ => ⟨repo, some .none, Leads.badge rfl (hcontent _ rfl)⟩

theorem cond {condition : Expr} {value : Value} {holds : Bool} {body : List Statement}
    {new : List (List Char)}
    (hcondition : ∀ stage : Stage, stage.sheet = sheet → Gives calls stage condition value)
    (htruth : ∀ state, value.truth state = .ok (holds, state))
    (hbody : Collects calls sheet (if holds then body else []) new) :
    Collects calls sheet [.cond condition body []] new := by
  intro badges repo last written
  obtain ⟨repo', last', hleads⟩ := hbody badges repo last written
  exact ⟨repo', last', Leads.cond (hcondition _ rfl) (fun _ => htruth _) hleads⟩

/-- The badge of the tests is collected for repositories on `github.com`. -/
theorem testBadges : Collects calls sheet
    [.cond (isText "repository_host" "github.com")
      [.assign (.name 5 "repo") repositoryPath, Template.badge 6 testBadge] []]
    sheet.testBadges := by
  refine cond (fun stage hsheet => Gives.isText sheet.host "github.com" ?_) (fun _ => rfl) ?_
  · simp [Stage.frame, List.lookup_cons, hsheet]
  · by_cases hhost : sheet.host = some "github.com".toList
    · rw [Sheet.testBadges, if_pos hhost, decide_eq_true hhost, if_pos rfl]
      intro badges repo last written
      refine ⟨some (.text sheet.repositoryPath), some .none, ?_⟩
      have hpath : ∀ stage : Stage, stage.sheet = sheet →
          Gives calls stage repositoryPath (.text sheet.repositoryPath) := by
        intro stage hsheet
        have hrepository : Gives calls stage (.name "repository") (valueOfText sheet.repository) :=
          Gives.name (by simp [Stage.frame, List.lookup_cons, hsheet])
        refine Gives.trim "/" (Gives.replace "https://github.com/" "" hrepository ?_)
        cases sheet.repository <;> exact fun _ => rfl
      have hrepo : Gives calls
          ⟨sheet, some badges, some (.text sheet.repositoryPath), last, written⟩ (.name "repo")
          (.text sheet.repositoryPath) :=
        Gives.name (by simp [Stage.frame, List.lookup_cons])
      exact Leads.append (Leads.repo (hpath _ rfl)) (Leads.badge rfl (hrepo.shield hrepo _ _ _))
    · rw [Sheet.testBadges, if_neg hhost, decide_eq_false hhost, if_neg Bool.false_ne_true]
      exact nil

/-- The badges of the crate and its documentation are collected for libraries. -/
theorem crateBadges : Collects calls sheet
    [.cond (isText "target" "lib") [Template.badge 9 crateBadge, Template.badge 10 docsBadge] []]
    sheet.crateBadges := by
  refine cond (fun stage hsheet => Gives.isText (some sheet.target) "lib" ?_) (fun _ => rfl) ?_
  · simp [Stage.frame, List.lookup_cons, hsheet, valueOfText]
  · by_cases htarget : sheet.target = "lib".toList
    · rw [Sheet.crateBadges, if_pos htarget, decide_eq_true (congrArg some htarget), if_pos rfl]
      have hcrate : ∀ stage : Stage, stage.sheet = sheet →
          Gives calls stage (.name "crate") (.text sheet.crate) := fun stage hsheet =>
        Gives.name (by simp [Stage.frame, hsheet])
      refine append (badge fun stage hsheet => ?_) (badge fun stage hsheet => ?_)
      · exact (hcrate stage hsheet).shield (hcrate stage hsheet) _ _ _
      · exact (hcrate stage hsheet).shield (hcrate stage hsheet) _ _ _
    · have hother : some sheet.target ≠ some "lib".toList := fun h => htarget (Option.some.inj h)
      rw [Sheet.crateBadges, if_neg htarget, decide_eq_false hother, if_neg Bool.false_ne_true]
      exact nil

/-- The badge of the licence is collected if there is one. -/
theorem licenseBadges : Collects calls sheet
    [.cond (.name "license") [Template.badge 13 licenseBadge] []] sheet.licenseBadges := by
  have hlicense : ∀ stage : Stage, stage.sheet = sheet →
      Gives calls stage (.name "license") (valueOfText sheet.license) := fun stage hsheet =>
    Gives.name (by simp [Stage.frame, List.lookup_cons, hsheet])
  rw [Sheet.licenseBadges]
  cases htext : sheet.license with
  | none =>
      rw [htext] at hlicense
      exact cond hlicense (fun _ => rfl) nil
  | some text =>
      rw [htext] at hlicense
      cases text with
      | nil => exact cond hlicense (fun _ => rfl) nil
      | cons c license =>
          have hgiven : ∀ stage : Stage, stage.sheet = sheet →
              Gives calls stage (.name "license") (.text (c :: license)) := hlicense
          refine cond hlicense (fun _ => rfl) (badge fun stage hsheet => ?_)
          exact (hgiven stage hsheet).shield
            (Gives.urlencode (Gives.replace "-" "--" (hgiven stage hsheet) fun _ => rfl)) _ _ _

/-- The badge of the compiler is collected if its version is given. -/
theorem compilerBadges : Collects calls sheet
    [.cond (.name "rust_version") [Template.badge 16 compilerBadge] []]
    sheet.compilerBadges := by
  have hversion : ∀ stage : Stage, stage.sheet = sheet →
      Gives calls stage (.name "rust_version") (valueOfText sheet.rustVersion) :=
    fun stage hsheet => Gives.name (by simp [Stage.frame, List.lookup_cons, hsheet])
  rw [Sheet.compilerBadges]
  cases htext : sheet.rustVersion with
  | none =>
      rw [htext] at hversion
      exact cond hversion (fun _ => rfl) nil
  | some text =>
      rw [htext] at hversion
      cases text with
      | nil => exact cond hversion (fun _ => rfl) nil
      | cons c version =>
          have hgiven : ∀ stage : Stage, stage.sheet = sheet →
              Gives calls stage (.name "rust_version") (.text (c :: version)) := hversion
          refine cond hversion (fun _ => rfl) (badge fun stage hsheet => ?_)
          exact (hgiven stage hsheet).shield (hgiven stage hsheet) _ _ _

end Collects

theorem leads_badgeStatements (sheet : Sheet) (repo last : Option Value)
    (written : List (List Char)) : ∃ repo' last',
      Leads calls ⟨sheet, none, repo, last, written⟩ badgeStatements
        ⟨sheet, some sheet.badges, repo', last', written⟩ := by
  have hcollects : Collects calls sheet badgeStatements.tail sheet.badges :=
    ((Collects.testBadges.append Collects.crateBadges).append Collects.licenseBadges).append
      Collects.compilerBadges
  obtain ⟨repo', last', hbadges⟩ := hcollects [] repo last written
  exact ⟨repo', last', Leads.append (Leads.list rfl) hbadges⟩

/-! ### The text -/

/-- Statements write a text and change nothing else. -/
def Writes (calls : Calls) (stage : Stage) (statements : List Statement) (content : List Char) :
    Prop :=
  ∀ written, ∃ pieces, pieces.flatten = content ∧
    Leads calls { stage with written } statements { stage with written := written ++ pieces }

namespace Writes

theorem nil : Writes calls stage [] [] :=
  fun written => ⟨[], rfl, by simpa using Leads.nil⟩

theorem append {first second : List Statement} {content more : List Char}
    (hfirst : Writes calls stage first content) (hsecond : Writes calls stage second more) :
    Writes calls stage (first ++ second) (content ++ more) := by
  intro written
  obtain ⟨pieces, hpieces, hcontent⟩ := hfirst written
  obtain ⟨others, hothers, hmore⟩ := hsecond (written ++ pieces)
  refine ⟨pieces ++ others, by rw [List.flatten_append, hpieces, hothers], ?_⟩
  rw [← List.append_assoc]
  exact hcontent.append hmore

theorem text (content : List Char) : Writes calls stage [.text content] content :=
  fun _ => ⟨[content], by simp, Leads.text content⟩

theorem output {expr : Expr} {value : Value} {content : List Char}
    (hvalue : ∀ written, Gives calls { stage with written } expr value)
    (hshown : ∀ state, value.shown state = .ok (content, state)) :
    Writes calls stage [.output [expr]] content :=
  fun written => ⟨[content], by simp, Leads.output (hvalue written) hshown⟩

theorem cond {condition : Expr} {value : Value} {holds : Bool} {body : List Statement}
    {content : List Char}
    (hcondition : ∀ written, Gives calls { stage with written } condition value)
    (htruth : ∀ written contexts, value.truth (Stage.state { stage with written } contexts) =
      .ok (holds, Stage.state { stage with written } contexts))
    (hbody : Writes calls stage (if holds then body else []) content) :
    Writes calls stage [.cond condition body []] content := by
  intro written
  obtain ⟨pieces, hpieces, hleads⟩ := hbody written
  exact ⟨pieces, hpieces, Leads.cond (hcondition written) (htruth written) hleads⟩

/-- Badges are written with an empty line in front of them, and nothing without any. -/
theorem badges {badges : List (List Char)} (hbadges : stage.badges = some badges) :
    Writes calls stage
      [.cond (.name "badges")
        [.text "\n\n".toList, .output [.filter 20 "join" (.name "badges") [constant " "] [.plain]]]
        []]
      (if badges = [] then [] else "\n\n".toList ++ Text.joinWith " ".toList badges) := by
  have hobjects : ∀ written contexts, (Stage.state { stage with written } contexts).objects[0]? =
      some (.list (badges.map .text)) := by
    intro written contexts
    simp [Stage.state, hbadges]
  have hlist : ∀ written, Gives calls { stage with written } (.name "badges") (.list 0) := by
    intro written
    exact Gives.name (by simp [Stage.frame, List.lookup_cons, hbadges])
  have htruth : ∀ written contexts, Value.truth (.list 0)
      (Stage.state { stage with written } contexts) =
        .ok (decide (badges ≠ []), Stage.state { stage with written } contexts) := by
    intro written contexts
    rw [Value.truth_list (hobjects written contexts)]
    cases badges <;> rfl
  refine cond hlist htruth ?_
  by_cases hnone : badges = []
  · rw [if_pos hnone, hnone]
    exact nil
  · rw [if_neg hnone, decide_eq_true hnone, if_pos rfl]
    have hjoin : ∀ written, Gives calls { stage with written }
        (.filter 20 "join" (.name "badges") [constant " "] [.plain])
        (.text (Text.joinWith " ".toList badges)) := by
      intro written contexts
      have hescapes : (Stage.state { stage with written } contexts).escapes = false := rfl
      rw [evaluate, Run.bind_of_ok (hlist written contexts)]
      exact Filter.apply_join hescapes (hobjects written contexts) " ".toList
    exact (text "\n\n".toList).append (output hjoin fun _ => rfl)

theorem links : Writes calls stage
    [.cond (.name "links") [.text "\n\n".toList, .output [.name "links"]] []]
    (if stage.sheet.links = [] then [] else "\n\n".toList ++ stage.sheet.links) := by
  have hlinks : ∀ written,
      Gives calls { stage with written } (.name "links") (.text stage.sheet.links) := fun _ =>
    Gives.name (by simp [Stage.frame, List.lookup_cons])
  refine cond hlinks (fun _ _ => rfl) ?_
  by_cases hnone : stage.sheet.links = []
  · rw [if_pos hnone, hnone]
    exact nil
  · rw [if_neg hnone, decide_eq_true hnone, if_pos rfl]
    exact (text "\n\n".toList).append (output hlinks fun _ => rfl)

variable (calls stage) in
theorem parts (hbadges : stage.badges = some stage.sheet.badges) :
    Writes calls stage partStatements
      ((if stage.sheet.badges = [] then []
        else "\n\n".toList ++ Text.joinWith " ".toList stage.sheet.badges) ++ "\n\n".toList ++
        stage.sheet.readme ++
        (if stage.sheet.links = [] then [] else "\n\n".toList ++ stage.sheet.links) ++
        "\n".toList) := by
  have hreadme : ∀ written,
      Gives calls { stage with written } (.name "readme") (.text stage.sheet.readme) := fun _ =>
    Gives.name (by simp [Stage.frame, List.lookup_cons])
  exact ((((badges hbadges).append (text "\n\n".toList)).append
    (output hreadme fun _ => rfl)).append links).append (text "\n".toList)

end Writes

/-- The stage at which the program of the bundled template begins. -/
def Sheet.start (sheet : Sheet) : Stage :=
  ⟨sheet, none, none, none, []⟩

/-- The program of the bundled template writes the filled in template. -/
theorem executeAll_bundled (calls : Calls) (sheet : Sheet) (contexts : Array Context) :
    ∃ (next : Stage) (contexts' : Array Context), next.written.flatten = sheet.text ∧
      executeAll (top calls) bundledProgram.body (sheet.start.state contexts) =
        .ok ((), next.state contexts') := by
  have hcrate : Gives calls { sheet.start with written := ["# ".toList] } (.name "crate")
      (.text sheet.crate) :=
    Gives.name (by simp [Stage.frame, Sheet.start])
  obtain ⟨repo, last, hbadges⟩ : ∃ repo last, Leads calls
      ⟨sheet, none, none, none, ["# ".toList, sheet.crate]⟩ badgeStatements
      ⟨sheet, some sheet.badges, repo, last, ["# ".toList, sheet.crate]⟩ :=
    leads_badgeStatements sheet none none _
  obtain ⟨pieces, hpieces, hparts⟩ := Writes.parts calls
    ⟨sheet, some sheet.badges, repo, last, []⟩ rfl ["# ".toList, sheet.crate]
  have hall : Leads calls sheet.start bundledProgram.body _ :=
    (((Leads.text "# ".toList).append (Leads.output hcrate fun _ => rfl)).append hbadges).append
      hparts
  obtain ⟨contexts', hrun⟩ := hall contexts
  refine ⟨_, contexts', ?_, hrun⟩
  rw [List.flatten_append, hpieces, Sheet.text, Sheet.front]
  simp only [List.flatten_cons, List.flatten_nil, List.append_nil, List.append_assoc]

/-- What a run writes is the result of capturing it. -/
theorem capturing_eq {run : Run Unit} {state after : State} {written : List (List Char)}
    (houtput : state.output = #[]) (hrun : run state = .ok ((), after))
    (hwritten : after.output = (written.map some).toArray) :
    ∃ last, capturing run state = .ok (written.flatten, last) := by
  have hjoined : ∀ last : State, joinedOutput after.output last = .ok (written.flatten, last) := by
    intro last
    rw [joinedOutput, if_pos (by simp [hwritten]), hwritten]
    change Except.ok ((List.filterMap id (written.map some)).flatten, _) = _
    rw [List.filterMap_map]
    simp
  have hstart : { state with output := #[] } = state := by
    rw [← houtput]
  refine ⟨{ after with output := state.output }, ?_⟩
  have hreset : (modify fun state => { state with output := #[] } : Run Unit) state =
      .ok ((), state) := by
    exact congrArg (fun state => Except.ok ((), state)) hstart
  rw [capturing, Run.bind_of_ok (Run.get_eq state), Run.bind_of_ok hreset, Run.bind_of_ok hrun,
    Run.bind_of_ok (Run.get_eq after)]
  exact hjoined _

end CrateReadme.Template
