import CrateReadme.Proofs.Command.Effects

/-!
# Everything before the output is quiet

A run first gathers its settings, its input and its template. All of that is quiet, unless help or
the version was asked for, and then it writes the readme or checks the one that is there
(`command_eq`).
-/

namespace CrateReadme.Command

/-! ## Settings -/

/-- Understanding a command line that asks for no notice changes no file. -/
theorem quiet_understand {texts : List String}
    (h : ∀ arguments, Arguments.parse texts = .ok arguments → arguments.notice? = none) :
    Quiet (understand texts) := by
  unfold understand
  split
  case h_1 error _ => exact .throw (by simp [Stop.status])
  case h_2 arguments hparse =>
    extract_lets last rest
    -- Only the branch of a notice would end in a status of zero, and it is not taken.
    rw [h arguments hparse]
    refine .bind (.forIn fun named _ => ?_) fun _ => ?_
    · refine Quiet.read.bind fun world => (quiet_locate _).bind fun place => ?_
      exact .ite (.bind (.throw (by simp [Stop.status])) fun _ => .pure _) (.pure _)
    · exact .ite (.bind (.throw (by simp [Stop.status])) fun _ => .pure _) (.pure _)

theorem quiet_prepare (options : Options) : Quiet (prepare options) := by
  unfold prepare
  split
  case h_1 => exact quiet_fail ..
  case h_2 wanted _ =>
    refine Quiet.read.bind fun world => ?_
    extract_lets rest
    have hrest : ∀ level, Quiet (rest level) := fun level =>
      Quiet.read.bind fun world => .modify fun _ => rfl
    split
    case h_1 => exact .bind (.pure _) hrest
    case h_2 => exact .bind (.pure _) hrest
    case h_3 => exact .bind (quiet_crash _) hrest

theorem quiet_refuse (arguments : Arguments) : Quiet (refuse arguments) := by
  unfold refuse
  -- Each check goes on with the next one; they are taken from the last to the first.
  extract_lets diff kinds
  have hdiff : ∀ value, Quiet (diff value) := fun _ => .ite (quiet_fail ..) (.pure ())
  have hkinds : ∀ value, Quiet (kinds value) := fun _ =>
    .ite (.bind (quiet_fail ..) hdiff) (hdiff ())
  split
  case h_1 => exact .ite (.bind (quiet_fail ..) hkinds) (hkinds ())
  case h_2 => exact hkinds ()

theorem quiet_configure (options : Options) : Quiet (configure options) := by
  refine Quiet.read.bind fun world => ?_
  split
  case h_1 result config _ =>
    refine .bind (.forIn fun warning _ => (quiet_log ..).bind fun _ => .pure _) fun _ => ?_
    split
    case h_1 => exact quiet_crash _
    case h_2 => exact quiet_fail ..
    case h_3 => exact .pure _

/-! ## Input -/

theorem quiet_readPackage (options : Options) : Quiet (readPackage options) := by
  have hmanifest : Quiet (options.manifestPath.mapM locate) := by
    cases options.manifestPath with
    | none => exact .pure none
    | some text => exact (quiet_locate text).bind fun _ => .pure _
  refine hmanifest.bind fun manifest => Quiet.read.bind fun world =>
    (quiet_callTool ..).bind fun answer => ?_
  extract_lets messages
  split
  case h_1 => exact quiet_crash _
  case h_2 text _ =>
    extract_lets rest
    suffices hrest : ∀ value, Quiet (rest value) from
      .ite (.bind (quiet_failTool ..) hrest) (hrest ())
    intro _
    dsimp only [rest]
    split
    case h_1 => exact quiet_failTool ..
    case h_2 document _ =>
      refine .bind (.forIn fun warning _ => (quiet_log ..).bind fun _ => .pure _) fun _ => ?_
      split
      case h_1 => exact .pure _
      case h_2 => exact .ite (quiet_fail ..) (quiet_crash _)
    case h_3 => exact quiet_fail ..

theorem quiet_expandCode (options : Options) (config : Config) (target : Target)
    (artifact : Artifact) : Quiet (expandCode options config target artifact) := by
  refine (quiet_log ..).bind fun _ => Quiet.read.bind fun world =>
    (quiet_callTool ..).bind fun answer => ?_
  extract_lets rest
  suffices hrest : ∀ value, Quiet (rest value) from
    .ite (.bind (quiet_failTool ..) hrest) (hrest ())
  intro _
  dsimp only [rest]
  split
  case h_1 => exact .pure _
  case h_2 => exact quiet_failTool ..

theorem quiet_readCode (target : Target) : Quiet (readCode target) := by
  refine (quiet_log ..).bind fun _ => Quiet.read.bind fun world => Quiet.read.bind fun world => ?_
  split
  case h_1 => exact quiet_fail ..
  case h_2 content _ =>
    split
    case h_1 => exact .pure _
    case h_2 => exact quiet_fail ..

theorem quiet_collect (options : Options) (config : Config) : Quiet (collect options config) := by
  refine (quiet_readPackage options).bind fun package => ?_
  extract_lets rest
  suffices hrest : ∀ choice, Quiet (rest choice) by
    split
    case h_1 choice _ => exact .bind (.pure choice) hrest
    case h_2 => exact .bind (quiet_fail ..) hrest
  rintro ⟨target, artifact⟩
  dsimp -zeta only [rest]
  extract_lets filename read
  suffices hread : ∀ code, Quiet (read code) from
    .ite (.bind (quiet_expandCode ..) hread) (.bind (quiet_readCode target) hread)
  intro code
  dsimp only [read]
  split
  case h_1 => exact quiet_crash _
  case h_2 input diagnostics _ =>
    refine .bind (.forIn fun _ _ => (quiet_log ..).bind fun _ => .pure _) fun _ =>
      (quiet_showDiagnostics diagnostics).bind fun _ => ?_
    exact .ite (.bind (quiet_fail ..) fun _ => .pure input) (.pure input)

theorem quiet_readTemplate (config : Config) : Quiet (readTemplate config) := by
  refine Quiet.read.bind fun world => .ite ((quiet_log ..).bind fun _ => ?_) (.pure _)
  extract_lets text?
  cases text? with
  | none => exact quiet_fail ..
  | some text => exact .pure text

/-! ## All of it -/

/-- What a run has gathered when it comes to its output. -/
structure Job where
  options : Options
  config : Config
  input : Readme.Input
  template : String

/-- Everything that a run does before its output. -/
def gather (texts : List String) : Run Job := do
  let arguments ← understand texts
  let options := arguments.options
  prepare options
  refuse arguments
  let config ← configure options
  showDiagnostics (featureWarnings config)
  let input ← collect options config
  let template ← readTemplate config
  return { options, config, input, template }

/-- The output of a run: the check, or the readme. -/
def Job.finish (job : Job) : Run Unit :=
  if job.options.check then checkReadme job.config job.input job.template job.options.diff
  else writeReadme job.config job.input job.template

theorem command_eq (texts : List String) : command texts = gather texts >>= Job.finish := by
  simp [command, gather, Job.finish]

theorem quiet_gather {texts : List String}
    (h : ∀ arguments, Arguments.parse texts = .ok arguments → arguments.notice? = none) :
    Quiet (gather texts) :=
  (quiet_understand h).bind fun arguments =>
    (quiet_prepare arguments.options).bind fun _ =>
      (quiet_refuse arguments).bind fun _ =>
        (quiet_configure arguments.options).bind fun config =>
          (quiet_showDiagnostics (featureWarnings config)).bind fun _ =>
            (quiet_collect arguments.options config).bind fun _ =>
              (quiet_readTemplate config).bind fun _ => .pure _

/-- Only a command line that can be parsed is understood. -/
theorem parse_of_outcome_understand {world : World} {session last : Session} {texts : List String}
    {arguments : Arguments} (h : outcome (understand texts) world session = (.ok arguments, last)) :
    Arguments.parse texts = .ok arguments := by
  unfold understand at h
  split at h
  case h_1 => simp at h
  case h_2 parsed hparse =>
    extract_lets done rest at h
    -- What follows the notice may stop the run, but it does not change the arguments.
    have hrest : ∀ value between, outcome (rest value) world between = (.ok arguments, last) →
        parsed = arguments := by
      intro value between hvalue
      obtain ⟨_, _, -, hvalue⟩ := outcome_bind_eq_ok.mp hvalue
      split at hvalue
      · obtain ⟨_, _, hthrow, -⟩ := outcome_bind_eq_ok.mp hvalue
        simp at hthrow
      · simpa [done] using congrArg Prod.fst hvalue
    rw [hparse]
    split at h
    case h_1 =>
      obtain ⟨_, _, -, h⟩ := outcome_bind_eq_ok.mp h
      obtain ⟨_, _, hthrow, -⟩ := outcome_bind_eq_ok.mp h
      simp at hthrow
    case h_2 => rw [hrest () _ h]

/-- The options that a run ends up with are those of its command line. -/
theorem parse_of_outcome_gather {world : World} {session last : Session} {texts : List String}
    {job : Job} (h : outcome (gather texts) world session = (.ok job, last)) :
    ∃ arguments, Arguments.parse texts = .ok arguments ∧ arguments.options = job.options := by
  obtain ⟨arguments, _, hunderstand, h⟩ := outcome_bind_eq_ok.mp h
  refine ⟨arguments, parse_of_outcome_understand hunderstand, ?_⟩
  obtain ⟨_, _, -, h⟩ := outcome_bind_eq_ok.mp h
  obtain ⟨_, _, -, h⟩ := outcome_bind_eq_ok.mp h
  obtain ⟨_, _, -, h⟩ := outcome_bind_eq_ok.mp h
  obtain ⟨_, _, -, h⟩ := outcome_bind_eq_ok.mp h
  obtain ⟨_, _, -, h⟩ := outcome_bind_eq_ok.mp h
  obtain ⟨_, _, -, h⟩ := outcome_bind_eq_ok.mp h
  cases h
  rfl

end CrateReadme.Command
