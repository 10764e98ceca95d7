import CrateReadme.Command.Run
import Mathlib.Logic.Basic

/-!
# What parts of a run do

Part of a run is *quiet* if it leaves the files alone and stops with a status other than zero, if
at all. Being quiet carries over from steps to sequences, branches and loops, so that it is shown
for a part by going through its steps.
-/

namespace CrateReadme.Command

variable {α β : Type} {world : World} {session : Session}

/-! ## Outcomes -/

/-- What comes of part of a run, and the session that it leaves. -/
def outcome (action : Run α) (world : World) (session : Session) : Except Stop α × Session :=
  (action.run.run world).run session

@[simp] theorem outcome_pure (value : α) :
    outcome (pure value) world session = (.ok value, session) := rfl

@[simp] theorem outcome_throw (stop : Stop) :
    outcome (throw stop : Run α) world session = (.error stop, session) := rfl

@[simp] theorem outcome_read : outcome read world session = (.ok world, session) := rfl

@[simp] theorem outcome_get : outcome get world session = (.ok session, session) := rfl

@[simp] theorem outcome_modify (change : Session → Session) :
    outcome (modify change) world session = (.ok (), change session) := rfl

theorem outcome_bind (action : Run α) (next : α → Run β) :
    outcome (action >>= next) world session =
      match outcome action world session with
      | (.ok value, session) => outcome (next value) world session
      | (.error stop, session) => (.error stop, session) := by
  simp only [outcome, ExceptT.run_bind, ReaderT.run_bind, StateT.run_bind]
  show (match (action.run.run world).run session with | (result, session) => _) = _
  generalize (action.run.run world).run session = result
  rcases result with ⟨_ | _, _⟩ <;> rfl

theorem outcome_bind_eq_ok {action : Run α} {next : α → Run β} {value : β} {last : Session} :
    outcome (action >>= next) world session = (.ok value, last) ↔
      ∃ first between, outcome action world session = (.ok first, between) ∧
        outcome (next first) world between = (.ok value, last) := by
  rw [outcome_bind]
  rcases outcome action world session with ⟨stop | first, between⟩
  · simp
  · constructor
    · exact fun h => ⟨first, between, rfl, h⟩
    · rintro ⟨_, _, ⟨⟩, h⟩
      exact h

theorem outcome_bind_eq_error {action : Run α} {next : α → Run β} {stop : Stop} {last : Session} :
    outcome (action >>= next) world session = (.error stop, last) ↔
      outcome action world session = (.error stop, last) ∨
        ∃ first between, outcome action world session = (.ok first, between) ∧
          outcome (next first) world between = (.error stop, last) := by
  rw [outcome_bind]
  rcases outcome action world session with ⟨cause | first, between⟩
  · simp
  · constructor
    · exact fun h => .inr ⟨first, between, rfl, h⟩
    · rintro (⟨⟨⟩⟩ | ⟨_, _, ⟨⟩, h⟩)
      exact h

/-! ## Quiet parts -/

/-- Whatever comes of it, the files are left as they are, and a stop does not look like a
success. -/
structure Quiet (action : Run α) : Prop where
  files : ∀ world session, (outcome action world session).2.files = session.files
  status_ne_zero : ∀ world session stop,
    (outcome action world session).1 = .error stop → stop.status ≠ 0

namespace Quiet

theorem files_eq {action : Run α} {result : Except Stop α} {last : Session} (h : Quiet action)
    (houtcome : outcome action world session = (result, last)) : last.files = session.files := by
  simpa [houtcome] using h.files world session

protected theorem pure (value : α) : Quiet (pure value : Run α) :=
  ⟨fun _ _ => rfl, by simp⟩

protected theorem throw {stop : Stop} (h : stop.status ≠ 0) : Quiet (throw stop : Run α) :=
  ⟨fun _ _ => rfl, by simp [h]⟩

protected theorem read : Quiet (read : Run World) :=
  ⟨fun _ _ => rfl, by simp⟩

protected theorem get : Quiet (get : Run Session) :=
  ⟨fun _ _ => rfl, by simp⟩

protected theorem modify {change : Session → Session}
    (h : ∀ session, (change session).files = session.files) : Quiet (modify change : Run Unit) :=
  ⟨fun _ session => h session, by simp⟩

protected theorem bind {action : Run α} {next : α → Run β} (haction : Quiet action)
    (hnext : ∀ value, Quiet (next value)) : Quiet (action >>= next) := by
  constructor
  · intro world session
    have hfiles := haction.files world session
    rw [outcome_bind]
    generalize outcome action world session = result at hfiles ⊢
    rcases result with ⟨stop | value, between⟩
    · exact hfiles
    · exact ((hnext value).files world between).trans hfiles
  · intro world session stop
    have hstatus := haction.status_ne_zero world session
    rw [outcome_bind]
    generalize outcome action world session = result at hstatus ⊢
    rcases result with ⟨cause | value, between⟩
    · rintro ⟨⟩
      exact hstatus _ rfl
    · exact (hnext value).status_ne_zero world between stop

protected theorem ite {condition : Prop} [Decidable condition] {yes no : Run α}
    (hyes : Quiet yes) (hno : Quiet no) : Quiet (if condition then yes else no) := by
  split
  · exact hyes
  · exact hno

protected theorem forIn {items : List α} {start : β} {body : α → β → Run (ForInStep β)}
    (hbody : ∀ item state, Quiet (body item state)) : Quiet (forIn items start body) := by
  induction items generalizing start with
  | nil => exact .pure start
  | cons item items ih =>
    rw [List.forIn_cons]
    refine (hbody item start).bind fun step => ?_
    cases step with
    | done state => exact .pure state
    | yield state => exact ih

end Quiet

/-! ## Parts that stop -/

/-- If it stops, the stop does not look like a success, and the files are left as they are or have
changed in the given way. -/
def StopsWith (change : Files.Store → Files.Store → Prop) (action : Run α) : Prop :=
  ∀ world session stop last, outcome action world session = (.error stop, last) →
    stop.status ≠ 0 ∧ (last.files = session.files ∨ change session.files last.files)

variable {change : Files.Store → Files.Store → Prop}

theorem Quiet.stopsWith {action : Run α} (h : Quiet action) : StopsWith change action := by
  intro world session stop last houtcome
  exact ⟨h.status_ne_zero world session stop (by rw [houtcome]), .inl (h.files_eq houtcome)⟩

theorem Quiet.bind_stopsWith {action : Run α} {next : α → Run β} (haction : Quiet action)
    (hnext : ∀ value, StopsWith change (next value)) : StopsWith change (action >>= next) := by
  intro world session stop last houtcome
  rcases outcome_bind_eq_error.mp houtcome with hstop | ⟨value, between, hvalue, hstop⟩
  · exact haction.stopsWith world session stop last hstop
  · rw [← haction.files_eq hvalue]
    exact hnext value world between stop last hstop

theorem StopsWith.ite {condition : Prop} [Decidable condition] {yes no : Run α}
    (hyes : condition → StopsWith change yes) (hno : ¬condition → StopsWith change no) :
    StopsWith change (if condition then yes else no) := by
  split
  case isTrue hcondition => exact hyes hcondition
  case isFalse hcondition => exact hno hcondition

theorem stopsWith_modify (update : Session → Session) :
    StopsWith change (modify update : Run Unit) := by
  intro world session stop last houtcome
  simp at houtcome

/-! ## Parts that give a value -/

/-- The part gives the value and does not stop. -/
def Gives (world : World) (action : Run α) (value : α) : Prop :=
  ∀ session, ∃ last, outcome action world session = (.ok value, last)

theorem gives_pure (value : α) : Gives world (pure value) value :=
  fun session => ⟨session, rfl⟩

theorem gives_modify (change : Session → Session) : Gives world (modify change) () :=
  fun session => ⟨change session, rfl⟩

theorem Gives.bind {action : Run α} {next : α → Run β} {first : α} {value : β}
    (haction : Gives world action first) (hnext : Gives world (next first) value) :
    Gives world (action >>= next) value := by
  intro session
  obtain ⟨between, haction⟩ := haction session
  obtain ⟨last, hnext⟩ := hnext between
  exact ⟨last, outcome_bind_eq_ok.mpr ⟨first, between, haction, hnext⟩⟩

theorem gives_read_bind {next : World → Run α} {value : α}
    (h : Gives world (next world) value) : Gives world (read >>= next) value :=
  .bind (fun session => ⟨session, rfl⟩) h

theorem gives_get_bind {next : Session → Run α} {value : α}
    (h : ∀ session, Gives world (next session) value) : Gives world (get >>= next) value := by
  intro session
  obtain ⟨last, h⟩ := h session session
  exact ⟨last, outcome_bind_eq_ok.mpr ⟨session, session, rfl, h⟩⟩

theorem gives_forIn {items : List α} {body : α → PUnit → Run (ForInStep PUnit)}
    (h : ∀ item, Gives world (body item ⟨⟩) (.yield ⟨⟩)) :
    Gives world (forIn items ⟨⟩ body) ⟨⟩ := by
  induction items with
  | nil => exact gives_pure _
  | cons item items ih =>
    rw [List.forIn_cons]
    exact (h item).bind ih

/-! ## Stopping, messages and the build tool -/

theorem ErrorKind.status_ne_zero (kind : ErrorKind) : kind.status ≠ 0 := by
  cases kind <;> decide

theorem quiet_fail (kind : ErrorKind) (message : String) : Quiet (fail kind message : Run α) :=
  .throw kind.status_ne_zero

theorem quiet_crash (cause : Crash) : Quiet (crash cause : Run α) :=
  .throw (by simp [Stop.status])

theorem quiet_message (text : String) (newline : Bool) : Quiet (message text newline) :=
  .modify fun _ => rfl

theorem quiet_print (text : String) : Quiet (print text) :=
  .modify fun _ => rfl

theorem quiet_log (level : Nat) (text : String) : Quiet (log level text) :=
  .modify fun session => by split <;> rfl

theorem quiet_showDiagnostics (diagnostics : DiagnosticLog) : Quiet (showDiagnostics diagnostics) :=
  .ite (.pure _) (Quiet.get.bind fun _ => quiet_message ..)

theorem quiet_callTool (command : List String) (answer : Option ToolAnswer) :
    Quiet (callTool command answer) := by
  refine .bind (.modify fun _ => rfl) fun _ => ?_
  cases answer with
  | none => exact quiet_fail ..
  | some answer => exact .pure answer

theorem quiet_failTool (messages text : String) : Quiet (failTool messages text : Run α) := by
  unfold failTool
  -- Both ways through the branch go on with the same rest, so it is looked at once.
  extract_lets rest
  have hrest : ∀ value, Quiet (rest value) := fun _ => quiet_fail ..
  exact .ite ((quiet_message ..).bind hrest) (hrest ())

theorem quiet_locate (text : String) : Quiet (locate text) :=
  Quiet.read.bind fun _ => .pure _

theorem gives_message (text : String) (newline : Bool) : Gives world (message text newline) () :=
  gives_modify _

theorem gives_log (level : Nat) (text : String) : Gives world (log level text) () :=
  gives_modify _

theorem gives_showDiagnostics (diagnostics : DiagnosticLog) :
    Gives world (showDiagnostics diagnostics) () := by
  unfold showDiagnostics
  split
  · exact gives_pure ()
  · exact gives_get_bind fun _ => gives_message _ _

end CrateReadme.Command
