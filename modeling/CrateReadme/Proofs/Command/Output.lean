import CrateReadme.Proofs.Command.Gathering
import CrateReadme.Proofs.Readme.Bundled
import CrateReadme.Proofs.Files.Store

/-!
# What a run does to the files

A run writes in one place only, at its very end. If it checks or prints, the files are as they were;
a check succeeds just if it is reached and the readme is up to date; and any other run that succeeds
has put the readme in its place and touched nothing else. If it fails, the files are as they were
unless the readme has no bytes: then the write has begun, and its temporary file stays.
-/

namespace CrateReadme

def Readme.Existing.ofContent (content : List UInt8) : Readme.Existing :=
  { text := Files.lossyText content, damaged := (Text.ofUtf8? content).isNone }

theorem Readme.Outcome.isOk_iff {outcome : Readme.Outcome} :
    outcome.isOk = true ↔ outcome = .upToDate := by
  cases outcome <;> simp [Readme.Outcome.isOk]

namespace Command

variable {α : Type} {world : World} {session last : Session} {config : Config}
  {input : Readme.Input} {template : String} {place : Files.Location}

/-! ## Making the readme -/

theorem gives_logGiveUps (input : Readme.Input) (template : String) :
    Gives world (logGiveUps input template) () :=
  .bind (gives_forIn fun _ => (gives_log _ _).bind (gives_pure _)) (gives_pure ())

theorem quiet_failRender (error : Readme.RenderError) : Quiet (failRender error : Run α) := by
  unfold failRender
  split
  · exact quiet_crash _
  · exact quiet_crash _
  · exact quiet_fail ..

theorem outcome_failRender_ne_ok {error : Readme.RenderError} {value : α} :
    outcome (failRender error) world session ≠ (.ok value, last) := by
  unfold failRender
  split <;> simp [crash, fail]

theorem quiet_logGiveUps (input : Readme.Input) (template : String) :
    Quiet (logGiveUps input template) :=
  .bind (.forIn fun _ _ => (quiet_log ..).bind fun _ => .pure _) fun _ => .pure ()

theorem quiet_renderReadme (input : Readme.Input) (template : String) :
    Quiet (renderReadme input template) := by
  refine (quiet_logGiveUps input template).bind fun _ => ?_
  split
  · exact .pure _
  · exact quiet_failRender _

theorem render_of_outcome_renderReadme {rendering : Readme.Rendering}
    (h : outcome (renderReadme input template) world session = (.ok rendering, last)) :
    Readme.render input template = .ok rendering := by
  obtain ⟨_, _, -, h⟩ := outcome_bind_eq_ok.mp h
  split at h
  case h_1 made hmade => simpa [hmade] using congrArg Prod.fst h
  case h_2 => exact absurd h outcome_failRender_ne_ok

/-! ## Writing the readme -/

/-- The readme goes to a file and has no bytes, so that its write begins and breaks off. -/
def BreaksOff (config : Config) (input : Readme.Input) (template : String)
    (old new : Files.Store) : Prop :=
  ∃ place temporary, config.output = some place ∧ Readme.isEncodable input template = false ∧
    old.Begins new place temporary

/-- Breaking off leaves a write that has only begun. -/
theorem stopsWith_breakOff (place : Files.Location) :
    StopsWith (fun old new => ∃ temporary, old.Begins new place temporary) (breakOff place) := by
  intro world session stop last houtcome
  simp only [breakOff, outcome_bind, outcome_get, outcome_read] at houtcome
  split at houtcome
  case h_1 files hbegin =>
    simp only [outcome_bind, outcome_modify, crash, outcome_throw, Prod.mk.injEq,
      Except.error.injEq] at houtcome
    obtain ⟨rfl, rfl⟩ := houtcome
    exact ⟨by simp [Stop.status], .inr (Files.Store.beginWrite_begins hbegin)⟩
  case h_2 =>
    simp only [fail, outcome_throw, Prod.mk.injEq, Except.error.injEq] at houtcome
    obtain ⟨rfl, rfl⟩ := houtcome
    exact ⟨ErrorKind.io.status_ne_zero, .inl rfl⟩

theorem outcome_breakOff_ne_ok (place : Files.Location) :
    outcome (breakOff place) world session ≠ (.ok (), last) := by
  simp only [breakOff, outcome_bind, outcome_get, outcome_read]
  split <;> simp [outcome_bind, crash, fail]

/-- If writing the readme stops the run, nothing was written or the write has broken off. -/
theorem stopsWith_writeReadme (config : Config) (input : Readme.Input) (template : String) :
    StopsWith (BreaksOff config input template) (writeReadme config input template) := by
  refine (quiet_renderReadme input template).bind_stopsWith fun rendering =>
    (quiet_showDiagnostics _).bind_stopsWith fun _ => ?_
  split
  case h_1 =>
    exact ((quiet_log ..).bind fun _ => .ite (quiet_print _) (quiet_crash _)).stopsWith
  case h_2 place hplace =>
    refine (quiet_log ..).bind_stopsWith fun _ => .ite (fun _ => ?_) fun hencodable => ?_
    · refine Quiet.get.bind_stopsWith fun session => ?_
      split
      case h_1 => exact stopsWith_modify _
      case h_2 => exact (quiet_fail ..).stopsWith
    · intro world session stop last houtcome
      obtain ⟨hstop, hfiles⟩ := stopsWith_breakOff place world session stop last houtcome
      refine ⟨hstop, hfiles.imp_right ?_⟩
      rintro ⟨temporary, hbegins⟩
      exact ⟨place, temporary, hplace, by simpa using hencodable, hbegins⟩

theorem quiet_writeReadme (h : config.output = none) :
    Quiet (writeReadme config input template) := by
  refine (quiet_renderReadme input template).bind fun rendering =>
    (quiet_showDiagnostics _).bind fun _ => ?_
  rw [h]
  exact (quiet_log ..).bind fun _ => .ite (quiet_print _) (quiet_crash _)

/-- A readme that goes to a file is there in the end. -/
theorem write_of_outcome_writeReadme (hplace : config.output = some place)
    (h : outcome (writeReadme config input template) world session = (.ok (), last)) :
    ∃ rendering, Readme.render input template = .ok rendering ∧
      session.files.write place (Text.utf8 rendering.text) = .ok last.files := by
  obtain ⟨rendering, afterRender, hrender, h⟩ := outcome_bind_eq_ok.mp h
  obtain ⟨_, afterLinks, hlinks, h⟩ := outcome_bind_eq_ok.mp h
  rw [hplace] at h
  obtain ⟨_, afterLog, hlog, h⟩ := outcome_bind_eq_ok.mp h
  split at h
  case isFalse => exact absurd h (outcome_breakOff_ne_ok place)
  obtain ⟨now, _, hget, h⟩ := outcome_bind_eq_ok.mp h
  cases hget
  have hfiles : afterLog.files = session.files :=
    calc afterLog.files = afterLinks.files := (quiet_log ..).files_eq hlog
      _ = afterRender.files := (quiet_showDiagnostics _).files_eq hlinks
      _ = session.files := (quiet_renderReadme input template).files_eq hrender
  refine ⟨rendering, render_of_outcome_renderReadme hrender, ?_⟩
  rw [← hfiles]
  split at h
  case h_1 files hwrite =>
    cases h
    exact hwrite
  case h_2 => simp [fail] at h

/-! ## Checking the readme -/

theorem quiet_readReadme (place : Files.Location) : Quiet (readReadme place) := by
  refine (quiet_log ..).bind fun _ => Quiet.read.bind fun world => ?_
  split
  · exact .pure _
  · exact quiet_fail ..
  · exact quiet_fail ..

theorem quiet_judgeReadme (input : Readme.Input) (template : String) (readme : Readme.Existing)
    (showChanges : Bool) : Quiet (judgeReadme input template readme showChanges) := by
  unfold judgeReadme
  extract_lets rest
  suffices hrest : ∀ value, Quiet (rest value) from
    .ite ((quiet_log ..).bind fun _ => (quiet_logGiveUps ..).bind hrest) (hrest ())
  intro _
  dsimp only [rest]
  split
  · exact quiet_failRender _
  · exact .ite ((quiet_renderReadme ..).bind fun _ => .pure _) (.pure _)

theorem quiet_reportVerdict (place : Files.Location) (readme : Readme.Existing)
    (verdict : Readme.Verdict) (showChanges : Bool) :
    Quiet (reportVerdict place readme verdict showChanges) := by
  refine Quiet.get.bind fun session => (quiet_log ..).bind fun _ => (quiet_message ..).bind fun _ =>
    .ite ?_ (.pure ())
  split
  · exact quiet_message ..
  · exact .pure ()

theorem quiet_checkReadme (config : Config) (input : Readme.Input) (template : String)
    (showChanges : Bool) : Quiet (checkReadme config input template showChanges) := by
  unfold checkReadme
  split
  case h_1 => exact quiet_fail ..
  case h_2 place _ =>
    exact (quiet_readReadme place).bind fun readme =>
      (quiet_judgeReadme input template readme showChanges).bind fun verdict =>
        (quiet_showDiagnostics _).bind fun _ =>
          (quiet_reportVerdict place readme verdict showChanges).bind fun _ =>
            .ite (.pure ()) (.throw (by simp [Stop.status]))

theorem outcome_readReadme_eq_ok {readme : Readme.Existing}
    (h : outcome (readReadme place) world session = (.ok readme, last)) :
    ∃ content, world.files.read place = .ok content ∧ readme = .ofContent content := by
  obtain ⟨_, _, -, h⟩ := outcome_bind_eq_ok.mp h
  obtain ⟨_, _, hread, h⟩ := outcome_bind_eq_ok.mp h
  cases hread
  split at h
  case h_1 content hcontent =>
    cases h
    exact ⟨content, hcontent, rfl⟩
  case h_2 => simp [fail] at h
  case h_3 => simp [fail] at h

theorem gives_readReadme {content : List UInt8} (h : world.files.read place = .ok content) :
    Gives world (readReadme place) (.ofContent content) := by
  refine (gives_log _ _).bind (gives_read_bind ?_)
  rw [h]
  exact gives_pure _

/-- Judging a readme gives the outcome of the check, whatever is shown of the changes. -/
theorem outcome_judgeReadme_eq_ok {readme : Readme.Existing} {verdict : Readme.Verdict}
    {showChanges : Bool}
    (h : outcome (judgeReadme input template readme showChanges) world session =
      (.ok verdict, last)) :
    ∃ judged, Readme.check input template readme = .ok judged ∧
      verdict.outcome = judged.outcome := by
  unfold judgeReadme at h
  extract_lets rest at h
  have hrest : ∀ between, outcome (rest ()) world between = (.ok verdict, last) →
      ∃ judged, Readme.check input template readme = .ok judged ∧
        verdict.outcome = judged.outcome := by
    intro between h
    dsimp only [rest] at h
    split at h
    case h_1 => exact absurd h outcome_failRender_ne_ok
    case h_2 judged hjudged =>
      refine ⟨judged, hjudged, ?_⟩
      split at h
      · obtain ⟨_, _, -, h⟩ := outcome_bind_eq_ok.mp h
        cases h
        rfl
      · cases h
        rfl
  split at h
  · obtain ⟨_, _, -, h⟩ := outcome_bind_eq_ok.mp h
    obtain ⟨_, _, -, h⟩ := outcome_bind_eq_ok.mp h
    exact hrest _ h
  · exact hrest _ h

/-- A readme that is up to date is not made anew, whether changes are to be shown or not. -/
theorem gives_judgeReadme {readme : Readme.Existing} {verdict : Readme.Verdict}
    (h : Readme.check input template readme = .ok verdict) (houtcome : verdict.outcome = .upToDate)
    (showChanges : Bool) :
    Gives world (judgeReadme input template readme showChanges) verdict := by
  unfold judgeReadme
  extract_lets rest
  have hrest : Gives world (rest ()) verdict := by
    dsimp only [rest]
    have hok : verdict.outcome.isOk = true := Readme.Outcome.isOk_iff.mpr houtcome
    simp only [h, hok, not_true_eq_false, false_and, and_false, if_false]
    exact gives_pure verdict
  split
  · exact (gives_log _ _).bind ((gives_logGiveUps input template).bind hrest)
  · exact hrest

theorem gives_reportVerdict (place : Files.Location) (readme : Readme.Existing)
    (verdict : Readme.Verdict) (showChanges : Bool) :
    Gives world (reportVerdict place readme verdict showChanges) () := by
  refine gives_get_bind fun session => (gives_log _ _).bind ((gives_message _ _).bind ?_)
  split
  · split
    · exact gives_message _ _
    · exact gives_pure ()
  · exact gives_pure ()

/-- There is a readme where the settings want it, and the check of it as it was read finds it up to
date. -/
def IsUpToDate (world : World) (config : Config) (input : Readme.Input) (template : String) :
    Prop :=
  ∃ place content verdict, config.output = some place ∧ world.files.read place = .ok content ∧
    Readme.check input template (.ofContent content) = .ok verdict ∧ verdict.outcome = .upToDate

/-- Checking succeeds if and only if the readme that is there is up to date. -/
theorem outcome_checkReadme_eq_ok_iff {showChanges : Bool} :
    (∃ last, outcome (checkReadme config input template showChanges) world session =
      (.ok (), last)) ↔ IsUpToDate world config input template := by
  constructor
  · rintro ⟨last, h⟩
    unfold checkReadme at h
    split at h
    case h_1 => simp [fail] at h
    case h_2 place hplace =>
      obtain ⟨readme, _, hread, h⟩ := outcome_bind_eq_ok.mp h
      obtain ⟨verdict, _, hjudge, h⟩ := outcome_bind_eq_ok.mp h
      obtain ⟨_, _, -, h⟩ := outcome_bind_eq_ok.mp h
      obtain ⟨_, _, -, hend⟩ := outcome_bind_eq_ok.mp h
      obtain ⟨content, hcontent, rfl⟩ := outcome_readReadme_eq_ok hread
      obtain ⟨judged, hjudged, houtcome⟩ := outcome_judgeReadme_eq_ok hjudge
      refine ⟨place, content, judged, hplace, hcontent, hjudged, ?_⟩
      split at hend
      case isTrue hok => rw [← houtcome, ← Readme.Outcome.isOk_iff, hok]
      case isFalse => simp at hend
  · rintro ⟨place, content, verdict, hplace, hcontent, hcheck, houtcome⟩
    have hok : verdict.outcome.isOk = true := Readme.Outcome.isOk_iff.mpr houtcome
    suffices Gives world (checkReadme config input template showChanges) () from this session
    unfold checkReadme
    rw [hplace]
    refine (gives_readReadme hcontent).bind
      ((gives_judgeReadme hcheck houtcome showChanges).bind ?_)
    refine (gives_showDiagnostics _).bind ((gives_reportVerdict _ _ _ _).bind ?_)
    rw [if_pos hok]
    exact gives_pure ()

/-! ## Whole runs -/

def Session.start (world : World) : Session :=
  { console := { colored := false }, files := world.files }

/-- What a run has gathered for its output, or how it has stopped before that. -/
def gathered (world : World) (texts : List String) : Except Stop Job :=
  (outcome (gather texts) world (.start world)).1

/-- Whether a command line asks for help or for the version. -/
def asksForNotice (texts : List String) : Bool :=
  match Arguments.parse texts with
  | .ok arguments => arguments.notice?.isSome
  | .error _ => false

def asksForCheck (texts : List String) : Bool :=
  match Arguments.parse texts with
  | .ok arguments => arguments.options.check
  | .error _ => false

/-- The run comes to its output, and that is to be printed. -/
def Prints (world : World) (texts : List String) : Prop :=
  ∃ job, gathered world texts = .ok job ∧ job.config.output = none

/-- The run comes to its output, and the readme that is there is up to date. -/
def FindsUpToDate (world : World) (texts : List String) : Prop :=
  ∃ job, gathered world texts = .ok job ∧
    IsUpToDate world job.config job.input job.template

/-- The status of a run that ends in this way. -/
def statusOf : Except Stop Unit → Nat
  | .ok () => 0
  | .error stop => stop.status

variable {texts : List String} {job : Job} {result : Except Stop Unit}

theorem run_of_outcome (h : outcome (command texts) world (.start world) = (result, last)) :
    (run world texts).status = statusOf result ∧ (run world texts).files = last.files := by
  have hrun : ((command texts).run.run world).run
      { console := { colored := false }, files := world.files } = (result, last) := h
  simp only [run, hrun]
  cases result <;> simp [statusOf]

theorem asksForCheck_eq (h : gathered world texts = .ok job) :
    asksForCheck texts = job.options.check := by
  obtain ⟨arguments, hparse, hoptions⟩ := parse_of_outcome_gather (Prod.ext h rfl)
  simp [asksForCheck, hparse, hoptions]

theorem quiet_gather_of_asksForNotice (h : asksForNotice texts = false) : Quiet (gather texts) :=
  quiet_gather fun arguments hparse => by simpa [asksForNotice, hparse] using h

theorem stopsWith_finish (job : Job) :
    StopsWith (fun old new => job.options.check = false ∧
      BreaksOff job.config job.input job.template old new) job.finish := by
  refine .ite (fun _ => (quiet_checkReadme ..).stopsWith) fun hcheck => ?_
  intro world session stop last houtcome
  obtain ⟨hstop, hfiles⟩ := stopsWith_writeReadme _ _ _ world session stop last houtcome
  exact ⟨hstop, hfiles.imp_right fun hbroken => ⟨by simpa using hcheck, hbroken⟩⟩

/-- The run is to write a readme without bytes into a file: its write begins and breaks off. -/
def LeavesTemporary (world : World) (texts : List String) : Prop :=
  ∃ job, gathered world texts = .ok job ∧ job.options.check = false ∧
    BreaksOff job.config job.input job.template world.files (run world texts).files

/-- A run fails and has not touched the files, or has left a temporary file; or it comes to its
output and succeeds there. -/
theorem run_cases (world : World) (h : asksForNotice texts = false) :
    ((run world texts).status ≠ 0 ∧
        ((run world texts).files = world.files ∨ LeavesTemporary world texts)) ∨
      ∃ job before last, gathered world texts = .ok job ∧ before.files = world.files ∧
        outcome job.finish world before = (.ok (), last) ∧ (run world texts).status = 0 ∧
        (run world texts).files = last.files := by
  have hgather := quiet_gather_of_asksForNotice h
  rcases houtcome : outcome (command texts) world (.start world) with ⟨stop | _, last⟩
  case error =>
    obtain ⟨hstatus, hfiles⟩ := run_of_outcome houtcome
    rw [command_eq] at houtcome
    rcases outcome_bind_eq_error.mp houtcome with hstop | ⟨job, before, hjob, hstop⟩
    · have hlast : last.files = world.files := hgather.files_eq hstop
      exact .inl ⟨hstatus ▸ hgather.status_ne_zero _ _ stop (by rw [hstop]),
        .inl (hfiles.trans hlast)⟩
    · have hbefore : before.files = world.files := hgather.files_eq hjob
      obtain ⟨hnonzero, hkept⟩ := stopsWith_finish job world before stop last hstop
      rw [← hfiles, hbefore] at hkept
      exact .inl ⟨hstatus ▸ hnonzero,
        hkept.imp_right fun hbroken => ⟨job, congrArg Prod.fst hjob, hbroken⟩⟩
  case ok =>
    obtain ⟨hstatus, hfiles⟩ := run_of_outcome houtcome
    rw [command_eq] at houtcome
    obtain ⟨job, before, hjob, hfinish⟩ := outcome_bind_eq_ok.mp houtcome
    exact .inr ⟨job, before, last, congrArg Prod.fst hjob, hgather.files_eq hjob, hfinish, hstatus,
      hfiles⟩

theorem not_leavesTemporary (h : asksForCheck texts = true ∨ Prints world texts) :
    ¬LeavesTemporary world texts := by
  rintro ⟨job, hjob, hcheck, place, temporary, hplace, -⟩
  rcases h with hchecked | ⟨other, hother, hnone⟩
  · rw [asksForCheck_eq hjob, hcheck] at hchecked
    cases hchecked
  · rw [hjob] at hother
    cases hother
    rw [hplace] at hnone
    cases hnone

theorem files_run_of_status (h : asksForNotice texts = false)
    (hstatus : (run world texts).status ≠ 0) :
    (run world texts).files = world.files ∨ LeavesTemporary world texts := by
  obtain ⟨-, hfiles⟩ | ⟨-, -, -, -, -, -, hzero, -⟩ := run_cases world h
  · exact hfiles
  · exact absurd hzero hstatus

/-- The bundled template spells no lone surrogate. So a run with it that fails leaves the files as
they were, unless the metadata spells one. -/
theorem files_run_of_bundled (h : asksForNotice texts = false)
    (hstatus : (run world texts).status ≠ 0)
    (hbundled : ∀ job, gathered world texts = .ok job →
      job.template = Template.bundled ∧ job.input.respelled .other = job.input) :
    (run world texts).files = world.files := by
  refine (files_run_of_status h hstatus).resolve_right ?_
  rintro ⟨job, hjob, -, place, temporary, -, hencodable, -⟩
  obtain ⟨htemplate, hmetadata⟩ := hbundled job hjob
  rw [htemplate, Readme.isEncodable_bundled hmetadata] at hencodable
  cases hencodable

/-- A run that checks or prints leaves the files as they are, however it ends. -/
theorem files_run_eq (h : asksForNotice texts = false)
    (hkept : asksForCheck texts = true ∨ Prints world texts) :
    (run world texts).files = world.files := by
  obtain ⟨-, hfiles⟩ | ⟨job, before, last, hjob, hbefore, hfinish, -, hfiles⟩ := run_cases world h
  · exact hfiles.resolve_right (not_leavesTemporary hkept)
  have hquiet : Quiet job.finish := by
    unfold Job.finish
    split
    case isTrue => exact quiet_checkReadme ..
    case isFalse hcheck =>
      rcases hkept with hchecked | ⟨other, hother, hnone⟩
      · exact absurd (asksForCheck_eq hjob ▸ hchecked) hcheck
      · rw [hjob] at hother
        cases hother
        exact quiet_writeReadme hnone
  rw [hfiles, hquiet.files_eq hfinish, hbefore]

/-- A check ends well if and only if it is reached and finds the readme up to date. -/
theorem status_run_eq_zero_iff (h : asksForNotice texts = false)
    (hcheck : asksForCheck texts = true) :
    (run world texts).status = 0 ↔ FindsUpToDate world texts := by
  constructor
  · intro hstatus
    obtain ⟨hfailed, -⟩ | ⟨job, before, last, hjob, -, hfinish, -⟩ := run_cases world h
    · exact absurd hstatus hfailed
    rw [asksForCheck_eq hjob] at hcheck
    rw [Job.finish, if_pos hcheck] at hfinish
    exact ⟨job, hjob, outcome_checkReadme_eq_ok_iff.mp ⟨last, hfinish⟩⟩
  · rintro ⟨job, hjob, hfound⟩
    rw [asksForCheck_eq hjob] at hcheck
    obtain ⟨last, hfinish⟩ := outcome_checkReadme_eq_ok_iff.mpr hfound
    have houtcome : outcome (command texts) world (.start world) = (.ok (), last) := by
      rw [command_eq, outcome_bind_eq_ok]
      refine ⟨job, _, Prod.ext hjob rfl, ?_⟩
      rw [Job.finish, if_pos hcheck]
      exact hfinish
    exact (run_of_outcome houtcome).1

/-- A run that ends well and neither checks nor prints has written the rendered readme. -/
theorem writes_of_run (h : asksForNotice texts = false) (hstatus : (run world texts).status = 0)
    (hcheck : asksForCheck texts = false) (hprints : ¬Prints world texts) :
    ∃ job place rendering, gathered world texts = .ok job ∧ job.config.output = some place ∧
      Readme.render job.input job.template = .ok rendering ∧
      world.files.Writes (run world texts).files place (Text.utf8 rendering.text) := by
  obtain ⟨hfailed, -⟩ | ⟨job, before, last, hjob, hbefore, hfinish, -, hfiles⟩ :=
    run_cases world h
  · exact absurd hstatus hfailed
  rw [asksForCheck_eq hjob] at hcheck
  rw [Job.finish, if_neg (by simp [hcheck])] at hfinish
  cases hplace : job.config.output with
  | none => exact absurd ⟨job, hjob, hplace⟩ hprints
  | some place =>
    obtain ⟨rendering, hrender, hwrite⟩ := write_of_outcome_writeReadme hplace hfinish
    rw [hbefore] at hwrite
    exact ⟨job, place, rendering, hjob, hplace, hrender, hfiles ▸ Files.Store.write_writes hwrite⟩

/-- A run leaves the files as they were if it checks or prints, and also if it fails, unless it was
to write a readme without bytes: then there are a temporary file and directories on the way there. A
check succeeds just if it is reached and the readme is up to date. Any other run that succeeds has
put the readme in its place, and there is nothing else new but directories on the way there. -/
theorem files_of_run (world : World) (h : asksForNotice texts = false) :
    (asksForCheck texts = true ∨ Prints world texts →
      (run world texts).files = world.files) ∧
    ((run world texts).status ≠ 0 →
      (run world texts).files = world.files ∨ LeavesTemporary world texts) ∧
    (asksForCheck texts = true →
      ((run world texts).status = 0 ↔ FindsUpToDate world texts)) ∧
    ((run world texts).status = 0 → asksForCheck texts = false → ¬Prints world texts →
      ∃ job place rendering, gathered world texts = .ok job ∧ job.config.output = some place ∧
        Readme.render job.input job.template = .ok rendering ∧
        world.files.Writes (run world texts).files place (Text.utf8 rendering.text)) :=
  ⟨files_run_eq h, files_run_of_status h, status_run_eq_zero_iff h, writes_of_run h⟩

/-- The description of a package whose crate root is `/lib.rs`. -/
def rootDescription : ToolAnswer where
  output := Text.utf8 (
    "\x7b\"packages\":[\x7b\"id\":\"a\",\"name\":\"a\",\"version\":\"1.0.0\"," ++
    "\"targets\":[\x7b\"kind\":[\"lib\"],\"src_path\":\"/lib.rs\"\x7d]\x7d]," ++
    "\"workspace_members\":[\"a\"]\x7d")

/-- The world of a package with one line of documentation and the given template. -/
def rootWorld (template : String) : World where
  files := { entries := [(["lib.rs"], .file (Text.utf8 "//! Hi\n")),
    (["README.j2"], .file (Text.utf8 template))] }
  directory := Files.Location.ofText "/"
  metadata := some rootDescription
  marks := ["k3x0a_9q"]

theorem files_of_run_nested :
    let world := rootWorld "\x7b\x7b readme \x7d\x7d\n"
    let texts := ["--out", "docs/README.md"]
    asksForNotice texts = false ∧ (run world texts).status = 0 ∧
      ∃ job place rendering, gathered world texts = .ok job ∧ job.config.output = some place ∧
        Readme.render job.input job.template = .ok rendering ∧
        world.files.Writes (run world texts).files place (Text.utf8 rendering.text) := by
  intro world texts
  have hnotice : asksForNotice texts = false := by decide +kernel
  have hcheck : asksForCheck texts = false := by decide +kernel
  have hrun : (run world texts).status = 0 ∧
      (run world texts).files.get? ["docs", "README.md"] = some (.file (Text.utf8 "Hi\n")) := by
    decide +kernel
  obtain ⟨hkept, -, -, hwrites⟩ := files_of_run world hnotice
  refine ⟨hnotice, hrun.1, hwrites hrun.1 hcheck fun hprints => ?_⟩
  have hmissing : world.files.get? ["docs", "README.md"] = none := by decide +kernel
  rw [hkept (.inr hprints), hmissing] at hrun
  simp at hrun

/-- A template that writes a lone surrogate makes a run fail and leave an empty file and a directory
that were not there before. -/
theorem run_leaves_temporary :
    ∃ world texts, asksForNotice texts = false ∧ (run world texts).status ≠ 0 ∧
      world.files.get? ["docs", ".README.md.k3x0a_9q"] = none ∧
      (run world texts).files.get? ["docs", ".README.md.k3x0a_9q"] = some (.file []) :=
  ⟨rootWorld "\x7b\x7b \"\\ud800\" \x7d\x7d\n", ["--out", "docs/README.md"], by decide +kernel⟩

end Command

end CrateReadme
