import Mathlib.Data.List.Basic
import WhatsGoingOn.Host.TerminalControl

/-!
# Taking control of a terminal

A request for control changes the record of its session, applies its size to the
pseudo-terminal, and tells the subscribers what has changed of the record.  When
the pseudo-terminal refuses the size, the record keeps a change that nobody was
told of, and a later request that asks for the same tells nobody either.
-/

namespace WhatsGoingOn
namespace Host

open Daemon (ServiceError)

/-! ## What a subscriber is told -/

/-- What the first event of an attach stream tells. -/
def AttachedTerminal.control (attached : AttachedTerminal) : ControlView :=
  ⟨attached.primaryAttachId, (attached.session.cols, attached.session.rows)⟩

namespace AttachStream

/-- Whether a stream ends with its session: the exit or the close of that was sent
to it, or it attached after the exit. -/
def ended (stream : AttachStream) (session : TerminalSession) : Bool :=
  stream.attached.session.exit.isSome ||
    (session.outputTx.drop stream.attached.receiver).any endsWith

/-- The control of the session by all that was sent to a stream since it
attached. -/
def told (stream : AttachStream) (session : TerminalSession) : ControlView :=
  (session.outputTx.drop stream.attached.receiver).foldl ControlView.see
    stream.attached.control

/-- Whether a stream is told what a request for control asks for: it was told
already, or the request changes the record. -/
def learns (request : TakeTerminalControlReq) (session : TerminalSession)
    (stream : AttachStream) : Bool :=
  (decide (session.info.primaryAttachId ≠ some request.attachId) ||
    decide ((stream.told session).primaryAttachId = some request.attachId)) &&
  (decide ((session.info.cols, session.info.rows) ≠
      (request.viewportCols, request.viewportRows)) ||
    decide ((stream.told session).size =
      (request.viewportCols, request.viewportRows)))

end AttachStream

/-- The stream of a task that still writes events. -/
def TerminalTask.subscriber : TerminalTask → Option AttachStream
  | .announcing _ (.streaming stream) | .streaming stream => some stream
  | _ => none

/-- The streams that write the events of a session. -/
def subscribers (state : TerminalRun) (index : Nat) : List AttachStream :=
  (state.tasks.filterMap TerminalTask.subscriber).filter fun stream =>
    stream.index == index

/-- The streams of a session are those of the tasks. -/
theorem mem_subscribers
    {state : TerminalRun} {index : Nat} {stream : AttachStream} :
    stream ∈ subscribers state index ↔
      ∃ (place : Nat) (task : TerminalTask), state.tasks[place]? = some task ∧
        task.subscriber = some stream ∧ stream.index = index := by
  simp only [subscribers, List.mem_filter, List.mem_filterMap, beq_iff_eq]
  constructor
  · rintro ⟨⟨task, member, subscribed⟩, same⟩
    obtain ⟨place, found⟩ := List.mem_iff_getElem?.mp member
    exact ⟨place, task, found, subscribed, same⟩
  · rintro ⟨place, task, found, subscribed, same⟩
    exact ⟨⟨task, List.mem_of_getElem? found, subscribed⟩, same⟩

theorem stream_of_subscriber
    {task : TerminalTask} {stream : AttachStream}
    (subscribed : task.subscriber = some stream) :
    task.stream = some stream := by
  cases task with
  | announcing announcement followup =>
      cases followup with
      | streaming stream => exact subscribed
      | _ => cases subscribed
  | streaming stream => exact subscribed
  | _ => cases subscribed

section Told

variable {stream : AttachStream} {session changed : TerminalSession}
  {events : List TerminalEvent}

/-- A stream is told what is sent. -/
theorem AttachStream.told_append
    (inside : stream.attached.receiver ≤ session.outputTx.length)
    (sent : changed.outputTx = session.outputTx ++ events) :
    stream.told changed = events.foldl ControlView.see (stream.told session) := by
  rw [told, told, sent, List.drop_append_of_le_length inside,
    List.foldl_append]

/-- What ended a stream has ended it for good. -/
theorem AttachStream.ended_append
    (inside : stream.attached.receiver ≤ session.outputTx.length)
    (sent : changed.outputTx = session.outputTx ++ events) :
    stream.ended changed =
      (stream.ended session || events.any endsWith) := by
  rw [ended, ended, sent, List.drop_append_of_le_length inside,
    List.any_append, Bool.or_assoc]

end Told

/-! ## What a request for control tells -/

section Request

variable (request : TakeTerminalControlReq)

theorem TakeTerminalControlReq.events_goOn (info : TerminalSessionInfo) :
    ∀ event ∈ request.events info, AttachStream.endsWith event = false := by
  unfold events
  split <;> split <;> simp [AttachStream.endsWith]

/-- The events of a request change what it changes of the record. -/
theorem TakeTerminalControlReq.see_events (info : TerminalSessionInfo)
    (view : ControlView) :
    (request.events info).foldl ControlView.see view =
      ⟨if info.primaryAttachId ≠ some request.attachId then
          some request.attachId
        else view.primaryAttachId,
        if (info.cols, info.rows) ≠
            (request.viewportCols, request.viewportRows) then
          (request.viewportCols, request.viewportRows)
        else view.size⟩ := by
  unfold events
  split <;> split <;> rfl

/-- Whether a stream is told what a request asks for is known before. -/
theorem AttachStream.told_control_iff
    {stream : AttachStream} {session changed : TerminalSession}
    (inside : stream.attached.receiver ≤ session.outputTx.length)
    (sent : changed.outputTx =
      session.outputTx ++ request.events session.info) :
    stream.told changed = request.control ↔
      stream.learns request session = true := by
  rw [told_append inside sent, request.see_events]
  simp only [learns, TakeTerminalControlReq.control, ControlView.ext_iff,
    Bool.and_eq_true, Bool.or_eq_true, decide_eq_true_eq]
  split <;> split <;> simp_all

end Request

/-! ## Streams and their sessions -/

section Effect

variable {windows : Bool}

/-- A request that fails sends nothing. -/
theorem TerminalSession.takeControl_error_outputTx
    {session changed : TerminalSession} {request : TakeTerminalControlReq}
    {rpcSessionId : Nat} {resizeError : Option String} {error : ServiceError}
    (result : session.takeControl request rpcSessionId resizeError =
      (changed, .error error)) :
    changed.outputTx = session.outputTx := by
  unfold takeControl at result
  split at result
  · cases result
    rfl
  · split at result <;> cases result
    rfl

theorem see_metadataEvents (metadata : List TerminalMetadata)
    (view : ControlView) :
    (metadata.map TerminalSession.metadataEvent).foldl ControlView.see view =
      view := by
  induction metadata generalizing view with
  | nil => rfl
  | cons first rest inductionHypothesis =>
      rw [List.map_cons, List.foldl_cons, inductionHypothesis]
      cases first <;> rfl

/-- The events that a session sends in a step tell what the step changes of the
control, or end the streams. -/
def TellsControl (session changed : TerminalSession)
    (events : List TerminalEvent) : Prop :=
  events.any AttachStream.endsWith = true ∨
    (∀ event ∈ events, AttachStream.endsWith event = false) ∧
      events.foldl ControlView.see session.info.control = changed.info.control

/-- Output tells nothing of control. -/
theorem TerminalSession.recordOutput_tells
    {session changed : TerminalSession} {bytes : List UInt8} {nowMs : Nat}
    {announced : Option TerminalSessionInfo}
    (result : session.recordOutput windows bytes nowMs =
      some (changed, announced)) :
    ∃ events, changed.outputTx = session.outputTx ++ events ∧
      TellsControl session changed events := by
  obtain ⟨-, -, title, cwd, metadataParser, metadata, -, rfl⟩ :=
    TerminalSession.recordOutput_eq result
  refine ⟨_, rfl, Or.inr ⟨?_, see_metadataEvents metadata _⟩⟩
  intro event member
  rcases List.mem_cons.mp member with rfl | member
  · rfl
  · obtain ⟨metadata, -, rfl⟩ := List.mem_map.mp member
    cases metadata <;> rfl

/-- What a step under the lock of a session sends tells what it changes of the
control, unless the pseudo-terminal refuses a change. -/
theorem LockedEffect.tells
    {session changed : TerminalSession} {answers : TerminalAnswers}
    {task after : TerminalTask}
    (effect : LockedEffect windows session answers task changed after) :
    ∃ events, changed.outputTx = session.outputTx ++ events ∧
      (TellsControl session changed events ∨
        ∃ request rpcSessionId index,
          task = .controllingOf request rpcSessionId index ∧
          refusesResize request rpcSessionId answers.resizeError session =
            true) := by
  have quiet {changed : TerminalSession}
      (same : changed.outputTx = session.outputTx)
      (control : changed.info.control = session.info.control) :
      ∃ events, changed.outputTx = session.outputTx ++ events ∧
        (TellsControl session changed events ∨
          ∃ request rpcSessionId index,
            task = .controllingOf request rpcSessionId index ∧
            refusesResize request rpcSessionId answers.resizeError session =
              true) :=
    ⟨[], by rw [same, List.append_nil],
      Or.inl (Or.inr ⟨by simp, control.symm⟩)⟩
  cases effect with
  | attach request rpcSessionId index attachId changed attached result =>
      unfold TerminalSession.attach at result
      split at result
      · cases result
      · cases result
        exact quiet rfl rfl
  | control request rpcSessionId index changed result =>
      obtain ⟨-, -, control, -, sent⟩ :=
        TerminalSession.takeControl_success result
      refine ⟨_, sent, Or.inl (Or.inr ⟨request.events_goOn _, ?_⟩)⟩
      rw [control, request.see_events]
      ext <;> simp only [TerminalSessionInfo.control,
        TakeTerminalControlReq.control] <;> split <;> simp_all
  | controlFails request rpcSessionId index changed error result =>
      cases refused : refusesResize request rpcSessionId answers.resizeError
        session with
      | false =>
          rw [(TerminalSession.takeControl_error result).mpr refused]
          exact quiet rfl rfl
      | true =>
          refine ⟨[], ?_, Or.inr ⟨request, rpcSessionId, index, rfl, refused⟩⟩
          rw [TerminalSession.takeControl_error_outputTx result,
            List.append_nil]
  | write index attachId bytes rpcSessionId changed outcome result =>
      rw [TerminalSession.writeInput_effect result]
      exact quiet rfl rfl
  | close terminalSessionId index =>
      exact ⟨[.sessionClosed .closedByClient], rfl, Or.inl (Or.inl rfl)⟩
  | record terminalSessionId index bytes changed result =>
      obtain ⟨events, sent, tells⟩ :=
        TerminalSession.recordOutput_tells result
      exact ⟨events, sent, Or.inl tells⟩
  | recordMetadata terminalSessionId index bytes changed info result =>
      obtain ⟨events, sent, tells⟩ :=
        TerminalSession.recordOutput_tells result
      exact ⟨events, sent, Or.inl tells⟩
  | mark index status changed result =>
      unfold TerminalSession.markExited at result
      split at result
      · cases result
      · cases result
        exact ⟨_, rfl, Or.inl (Or.inl rfl)⟩
  | _ => exact quiet rfl rfl

/-- A stream is attached in a step: it starts at the end of the channel, with
the record of its session. -/
def AttachesNow (next : TerminalManager) (stream : AttachStream) : Prop :=
  ∃ changed, next.objects[stream.index]? = some changed ∧
    stream.attached.receiver = changed.outputTx.length ∧
    stream.attached.control = changed.info.control

/-- A stream was there before a step, or the step has attached it. -/
theorem TerminalEffect.stream_before
    {manager next : TerminalManager} {task after : TerminalTask}
    {input : TerminalInput} {stream : AttachStream}
    (effect : TerminalEffect windows manager task input next after)
    (holds : after.stream = some stream) :
    (∃ earlier, task.stream = some earlier ∧
        earlier.attached = stream.attached ∧ earlier.index = stream.index ∧
        (after.subscriber = some stream → task.subscriber = some earlier)) ∨
      AttachesNow next stream := by
  cases effect with
  | locked _ answers index session changed lock found effect =>
      cases effect with
      | attach request rpcSessionId index attachId changed attached result =>
          cases lock
          cases holds
          have placed := List.getElem?_set_self
            (a := changed) (List.getElem?_eq_some_iff.mp found).1
          unfold TerminalSession.attach at result
          split at result
          · cases result
          · cases result
            exact Or.inr ⟨_, placed, rfl, rfl⟩
      | detach stream index =>
          cases holds
          exact Or.inl ⟨_, rfl, rfl, rfl,
                fun impossible => by cases impossible⟩
      | _ => cases holds
  | unlocked _ answers _ lock effect =>
      left
      cases effect with
      | announce announcement followup =>
          cases followup with
          | streaming stream => exact ⟨_, holds, rfl, rfl, id⟩
          | detached stream => exact ⟨_, holds, rfl, rfl, id⟩
          | _ => cases holds
      | quiet _ _ effect =>
          cases effect with
          | replay stream event pending first =>
              cases holds
              exact ⟨_, rfl, rfl, rfl, fun _ => rfl⟩
          | receive stream session received place next _ written running
              found got delivers goes =>
              subst goes delivers
              split at holds <;> cases holds
              · exact ⟨_, rfl, rfl, rfl, fun _ => rfl⟩
              · exact ⟨_, rfl, rfl, rfl, fun _ => rfl⟩
          | replayed stream written exited =>
              exact ⟨_, holds, rfl, rfl,
                fun impossible => by cases impossible⟩
          | detachMissing stream unknown => exact ⟨_, holds, rfl, rfl,
                fun impossible => by cases impossible⟩
          | detach stream index found => exact ⟨_, holds, rfl, rfl,
                fun impossible => by cases impossible⟩
          | _ => cases holds
      | _ => cases holds
  | broken _ error effect =>
      cases effect with
      | streaming stream => exact Or.inl ⟨_, holds, rfl, rfl,
                fun impossible => by cases impossible⟩
      | _ => cases holds

end Effect

/-- The receiver of every stream is in the channel of its session. -/
def ReceiversInside (state : TerminalRun) : Prop :=
  ∀ (place : Nat) (task : TerminalTask) (stream : AttachStream)
    (session : TerminalSession), state.tasks[place]? = some task →
      task.stream = some stream →
        state.shared.objects[stream.index]? = some session →
          stream.attached.receiver ≤ session.outputTx.length

section Run

variable {windows : Bool} {history : List TerminalHistoryEvent}
  {state : TerminalRun} {place : Nat} {acting after : TerminalTask}
  {input : TerminalInput} {manager : TerminalManager}

/-- The session of a stream is as before a step, or the step has sent something
in it. -/
theorem session_of_stream
    {other : Nat} {task : TerminalTask} {stream : AttachStream}
    {changed : TerminalSession}
    (reached : terminalRun windows history = some state)
    (effect : TerminalEffect windows state.shared acting input manager after)
    (found : state.tasks[other]? = some task)
    (holds : task.stream = some stream)
    (present : manager.objects[stream.index]? = some changed) :
    state.shared.objects[stream.index]? = some changed ∨
      ∃ session answers, state.shared.objects[stream.index]? = some session ∧
        input = .proceed answers ∧ acting.lockOf = some stream.index ∧
        LockedEffect windows session answers acting changed after := by
  rcases effect.session_before present with
    held | locked | ⟨request, terminalSessionId, creatorClientId, initialCwd,
      createdAtMs, -, new, -⟩
  · exact Or.inl held
  · exact Or.inr locked
  · obtain ⟨session, there, -⟩ :=
      (registry reached).target found (target_of_stream holds)
    have inside := (List.getElem?_eq_some_iff.mp there).1
    omega

/-- What was sent in a session stays sent. -/
theorem receiver_inside_step
    {other : Nat} {task : TerminalTask} {stream : AttachStream}
    {changed : TerminalSession}
    (reached : terminalRun windows history = some state)
    (inside : ReceiversInside state)
    (effect : TerminalEffect windows state.shared acting input manager after)
    (found : state.tasks[other]? = some task)
    (holds : task.stream = some stream)
    (present : manager.objects[stream.index]? = some changed) :
    stream.attached.receiver ≤ changed.outputTx.length := by
  rcases session_of_stream reached effect found holds present with
    held | ⟨session, answers, held, -, -, locked⟩
  · exact inside _ _ _ _ found holds held
  · obtain ⟨events, sent, -⟩ := locked.tells
    have before := inside _ _ _ _ found holds held
    rw [sent, List.length_append]
    omega

/-- A stream's place is within what was sent. -/
theorem receivers_inside
    (reached : terminalRun windows history = some state) :
    ReceiversInside state := by
  apply run_invariant _ _ reached
  · intro place task stream session found
    simp at found
  · intro history state event next earlier inside taken
    cases terminal_step taken with
    | launch request =>
        intro place task stream session found holds present
        rcases TaskSystem.getElem?_concat_cases found with
          ⟨-, rfl⟩ | ⟨-, older⟩
        · have none := target_of_fresh (start_fresh request)
          rw [target_of_stream holds] at none
          cases none
        · exact inside _ _ _ _ older holds present
    | advance place acting after input manager found effect =>
        intro other task stream changed lookup holds present
        rcases TaskSystem.getElem?_set_cases lookup with
          ⟨-, rfl⟩ | ⟨-, older⟩
        · rcases effect.stream_before holds with
            ⟨before, held, attached, index, -⟩ | ⟨session, there, receiver, -⟩
          · rw [← index] at present
            rw [← attached]
            exact receiver_inside_step earlier inside effect found held present
          · cases there.symm.trans present
            exact receiver.le
        · exact receiver_inside_step earlier inside effect older holds present

/-! ## Runs without refusals -/

/-- Whether a pseudo-terminal refuses a change of control in a step. -/
def refusesControl (state : TerminalRun) : TerminalHistoryEvent → Bool
  | .advance place (.proceed answers) =>
      match state.tasks[place]? with
      | some (.controllingOf request rpcSessionId index) =>
          (state.shared.objects[index]?).any
            (refusesResize request rpcSessionId answers.resizeError)
      | _ => false
  | _ => false

/-- Every stream that goes on is told the control that is recorded. -/
def SubscribersInformed (state : TerminalRun) : Prop :=
  ∀ (index : Nat) (session : TerminalSession) (stream : AttachStream),
    state.shared.objects[index]? = some session →
      stream ∈ subscribers state index → stream.ended session = false →
        stream.told session = session.info.control

/-- A stream that was there before a step is told what the step changes. -/
theorem SubscribersInformed.kept
    {other : Nat} {task : TerminalTask} {stream : AttachStream}
    {changed : TerminalSession}
    (reached : terminalRun windows history = some state)
    (informed : SubscribersInformed state)
    (acts : state.tasks[place]? = some acting)
    (allowed : refusesControl state (.advance place input) = false)
    (effect : TerminalEffect windows state.shared acting input manager after)
    (found : state.tasks[other]? = some task)
    (subscribed : task.subscriber = some stream)
    (present : manager.objects[stream.index]? = some changed)
    (goesOn : stream.ended changed = false) :
    stream.told changed = changed.info.control := by
  have holds := stream_of_subscriber subscribed
  have member : stream ∈ subscribers state stream.index :=
    mem_subscribers.mpr ⟨other, task, found, subscribed, rfl⟩
  rcases session_of_stream reached effect found holds present with
    held | ⟨session, answers, held, rfl, lock, locked⟩
  · exact informed _ _ _ held member goesOn
  · have inside := receivers_inside reached _ _ _ _ found holds held
    obtain ⟨events, sent, tells | ⟨request, rpcSessionId, index, rfl, refused⟩⟩ :=
      locked.tells
    · rw [AttachStream.ended_append inside sent, Bool.or_eq_false_iff] at goesOn
      rcases tells with ends | ⟨silent, control⟩
      · rw [goesOn.2] at ends
        cases ends
      · rw [AttachStream.told_append inside sent,
          informed _ _ _ held member goesOn.1, control]
    · cases lock
      simp only [refusesControl, acts, held, Option.any_some, refused]
        at allowed
      cases allowed

/-- A step without a refusal leaves the streams informed. -/
theorem subscribers_informed_step
    {event : TerminalHistoryEvent} {next : TerminalRun}
    (reached : terminalRun windows history = some state)
    (informed : SubscribersInformed state)
    (allowed : refusesControl state event = false)
    (taken : (terminalSystem windows).step state event = some next) :
    SubscribersInformed next := by
  intro index changed stream present member goesOn
  obtain ⟨other, task, lookup, subscribed, rfl⟩ := mem_subscribers.mp member
  cases terminal_step taken with
  | launch request =>
      rcases TaskSystem.getElem?_concat_cases lookup with
        ⟨-, rfl⟩ | ⟨-, older⟩
      · have none := target_of_fresh (start_fresh request)
        rw [target_of_stream (stream_of_subscriber subscribed)] at none
        cases none
      · exact informed _ _ _ present
          (mem_subscribers.mpr ⟨other, task, older, subscribed, rfl⟩) goesOn
  | advance place acting after input manager found effect =>
      rcases TaskSystem.getElem?_set_cases lookup with
        ⟨-, rfl⟩ | ⟨-, older⟩
      · rcases effect.stream_before (stream_of_subscriber subscribed) with
          ⟨before, -, attached, index, subscribes⟩ |
            ⟨session, there, receiver, control⟩
        · have same : before.told changed = stream.told changed ∧
              before.ended changed = stream.ended changed := by
            simp only [AttachStream.told, AttachStream.ended, attached,
              and_self]
          rw [← same.1]
          exact informed.kept reached found allowed effect found
            (subscribes subscribed) (index ▸ present) (same.2.trans goesOn)
        · cases there.symm.trans present
          rw [AttachStream.told, receiver, List.drop_length]
          exact control
      · exact informed.kept reached found allowed effect older subscribed
          present goesOn

end Run

/-! ## Sizes -/

/-- Steps other than those of requests for control keep the size. -/
theorem LockedEffect.size
    {windows : Bool} {session changed : TerminalSession}
    {answers : TerminalAnswers} {task after : TerminalTask}
    (effect : LockedEffect windows session answers task changed after) :
    (∃ request rpcSessionId index,
        task = .controllingOf request rpcSessionId index) ∨
      (changed.size = session.size ∧ changed.info.cols = session.info.cols ∧
        changed.info.rows = session.info.rows) := by
  have record {bytes : List UInt8} {changed : TerminalSession}
      {announced : Option TerminalSessionInfo}
      (result : session.recordOutput windows bytes answers.nowMs =
        some (changed, announced)) :
      changed.size = session.size ∧ changed.info.cols = session.info.cols ∧
        changed.info.rows = session.info.rows := by
    obtain ⟨-, -, title, cwd, metadataParser, metadata, -, rfl⟩ :=
      TerminalSession.recordOutput_eq result
    exact ⟨rfl, rfl, rfl⟩
  cases effect with
  | attach request rpcSessionId index attachId changed attached result =>
      unfold TerminalSession.attach at result
      split at result
      · cases result
      · cases result
        exact Or.inr ⟨rfl, rfl, rfl⟩
  | control request rpcSessionId index changed result =>
      exact Or.inl ⟨request, rpcSessionId, index, rfl⟩
  | controlFails request rpcSessionId index changed error result =>
      exact Or.inl ⟨request, rpcSessionId, index, rfl⟩
  | write index attachId bytes rpcSessionId changed outcome result =>
      rw [TerminalSession.writeInput_effect result]
      exact Or.inr ⟨rfl, rfl, rfl⟩
  | record terminalSessionId index bytes changed result =>
      exact Or.inr (record result)
  | recordMetadata terminalSessionId index bytes changed info result =>
      exact Or.inr (record result)
  | mark index status changed result =>
      unfold TerminalSession.markExited at result
      split at result
      · cases result
      · cases result
        exact Or.inr ⟨rfl, rfl, rfl⟩
  | _ => exact Or.inr ⟨rfl, rfl, rfl⟩

/-- The recorded size of every session is the one last applied to its
pseudo-terminal. -/
def SizesRecorded (state : TerminalRun) : Prop :=
  ∀ (index : Nat) (session : TerminalSession),
    state.shared.objects[index]? = some session →
      session.size = (session.info.cols, session.info.rows)

/-- A request for control that is not refused records the size it applies. -/
theorem controlled_size
    {windows : Bool} {session changed : TerminalSession}
    {request : TakeTerminalControlReq} {rpcSessionId index : Nat}
    {answers : TerminalAnswers} {after : TerminalTask}
    (effect : LockedEffect windows session answers
      (.controllingOf request rpcSessionId index) changed after)
    (allowed : refusesResize request rpcSessionId answers.resizeError session =
      false)
    (recorded : session.size = (session.info.cols, session.info.rows)) :
    changed.size = (changed.info.cols, changed.info.rows) := by
  cases effect with
  | control _ _ _ _ result =>
      obtain ⟨-, -, control, size, -⟩ :=
        TerminalSession.takeControl_success result
      have view := congrArg ControlView.size control
      rw [size]
      exact view.symm
  | controlFails _ _ _ _ error result =>
      rw [(TerminalSession.takeControl_error result).mpr allowed]
      exact recorded

/-- A step that refuses no change keeps the recorded sizes those of the
pseudo-terminals. -/
theorem sizes_recorded_step
    {windows : Bool} {state next : TerminalRun}
    {event : TerminalHistoryEvent} (recorded : SizesRecorded state)
    (allowed : refusesControl state event = false)
    (taken : (terminalSystem windows).step state event = some next) :
    SizesRecorded next := by
  cases terminal_step taken with
  | launch request => exact recorded
  | advance place task after input manager found effect =>
      intro index changed present
      rcases effect.session_before present with
        held | ⟨session, answers, held, rfl, lock, locked⟩ |
          ⟨request, terminalSessionId, creatorClientId, initialCwd,
            createdAtMs, -, -, rfl⟩
      · exact recorded index changed held
      · rcases locked.size with
          ⟨request, rpcSessionId, target, rfl⟩ | ⟨size, cols, rows⟩
        · cases lock
          apply controlled_size locked _ (recorded index session held)
          simpa only [refusesControl, found, held, Option.any_some]
            using allowed
        · rw [size, cols, rows]
          exact recorded index session held
      · rfl

/-! ## Requests for control -/

/-- What a request for control promises of the step that carries it out.  When
it fails nothing has changed.  When it succeeds the record and the
pseudo-terminal have the new control, the record is in the table and is
announced, and every stream of the session that goes on is told the new
control. -/
structure ControlHonoured (request : TakeTerminalControlReq)
    (place index : Nat) (state next : TerminalRun) : Prop where
  fails : ∀ error, next.tasks[place]? = some (.failed error) →
    next.shared = state.shared
  succeeds : (∀ error, next.tasks[place]? ≠ some (.failed error)) →
    ∃ changed, next.shared.objects[index]? = some changed ∧
      changed.info.control = request.control ∧
      changed.size = (request.viewportCols, request.viewportRows) ∧
      next.tasks[place]? = some (.announcing (.upsert changed.info) .done) ∧
      next.shared.registers index ∧
      ∀ stream ∈ subscribers next index, stream.ended changed = false →
        stream.told changed = request.control

/-- Whether a request that succeeds is not seen by all: its session has left the
table, or a stream that goes on is not told. -/
def goesUnseen (state : TerminalRun) (request : TakeTerminalControlReq)
    (rpcSessionId index : Nat) (resizeError : Option String)
    (session : TerminalSession) : Bool :=
  decide (session.attachOwners request.attachId = some rpcSessionId) &&
    resizeError.isNone &&
    (!(state.shared.sessions.map Prod.snd).contains index ||
      (subscribers state index).any fun stream =>
        !stream.ended session && !stream.learns request session)

theorem contains_of_registers {manager : TerminalManager} {index : Nat}
    (registered : manager.registers index) :
    (manager.sessions.map Prod.snd).contains index = true := by
  obtain ⟨terminalSessionId, found⟩ := registered
  exact List.contains_iff_mem.mpr
    (List.mem_map.mpr ⟨_, SortedMap.mem_of_lookup found, rfl⟩)

/-- A step of a task without a stream leaves the streams. -/
theorem mem_subscribers_set
    {state : TerminalRun} {place index : Nat} {acting after : TerminalTask}
    {manager : TerminalManager} {stream : AttachStream}
    (found : state.tasks[place]? = some acting)
    (before : acting.subscriber = none) (later : after.subscriber = none) :
    stream ∈ subscribers ⟨manager, state.tasks.set place after⟩ index ↔
      stream ∈ subscribers state index := by
  simp only [mem_subscribers]
  constructor
  · rintro ⟨other, task, lookup, subscribed, same⟩
    rcases TaskSystem.getElem?_set_cases lookup with ⟨-, rfl⟩ | ⟨-, older⟩
    · rw [later] at subscribed
      cases subscribed
    · exact ⟨other, task, older, subscribed, same⟩
  · rintro ⟨other, task, lookup, subscribed, same⟩
    have apart : place ≠ other := by
      rintro rfl
      cases found.symm.trans lookup
      rw [before] at subscribed
      cases subscribed
    exact ⟨other, task, (List.getElem?_set_ne apart).trans lookup, subscribed,
      same⟩

section Honoured

variable {windows : Bool} {history : List TerminalHistoryEvent}
  {state next : TerminalRun} {request : TakeTerminalControlReq}
  {rpcSessionId place index : Nat} {answers : TerminalAnswers}

/-- A request that succeeds is honoured exactly when it is seen by all. -/
theorem success_honoured_iff
    {session changed : TerminalSession}
    (reached : terminalRun windows history = some state)
    (found : state.tasks[place]? =
      some (.controllingOf request rpcSessionId index))
    (held : state.shared.objects[index]? = some session)
    (result : session.takeControl request rpcSessionId answers.resizeError =
      (changed, .ok ())) :
    ControlHonoured request place index state
        ⟨state.shared.setSession index changed,
          state.tasks.set place (.announcing (.upsert changed.info) .done)⟩ ↔
      goesUnseen state request rpcSessionId index answers.resizeError session =
        false := by
  obtain ⟨accepted, owner, control, size, sent⟩ :=
    TerminalSession.takeControl_success result
  have inside := List.getElem?_set_self
    (a := TerminalTask.announcing (.upsert changed.info) .done)
    (List.getElem?_eq_some_iff.mp found).1
  have placed := List.getElem?_set_self
    (a := changed) (List.getElem?_eq_some_iff.mp held).1
  -- What a stream is told is known before the step.
  have learns {stream : AttachStream}
      (member : stream ∈ subscribers state index) :
      (stream.ended changed = false → stream.told changed = request.control) ↔
        (!stream.ended session && !stream.learns request session) = false := by
    obtain ⟨other, task, lookup, subscribed, rfl⟩ := mem_subscribers.mp member
    have receiver := receivers_inside reached _ _ _ _ lookup
      (stream_of_subscriber subscribed) held
    rw [AttachStream.told_control_iff request receiver sent,
      AttachStream.ended_append receiver sent,
      List.any_eq_false.mpr fun event member => Bool.eq_false_iff.mp
        (request.events_goOn session.info event member), Bool.or_false]
    cases stream.ended session <;> simp
  simp only [goesUnseen, owner, accepted, decide_true, Option.isNone_none,
    Bool.true_and, Bool.or_eq_false_iff, Bool.not_eq_false',
    List.any_eq_false, Bool.not_eq_true]
  constructor
  · intro honoured
    obtain ⟨after, there, -, -, -, registered, told⟩ := honoured.succeeds (by
      intro error failed
      cases inside.symm.trans failed)
    cases placed.symm.trans there
    refine ⟨contains_of_registers registered, fun stream member => ?_⟩
    exact (learns member).mp
      (told stream ((mem_subscribers_set found rfl rfl).mpr member))
  · rintro ⟨registered, told⟩
    constructor
    · intro error failed
      cases inside.symm.trans failed
    · intro _
      have inTable : state.shared.registers index :=
        registers_of_contains reached registered
      refine ⟨changed, placed, control, size, inside, inTable,
        fun stream member => ?_⟩
      have before := (mem_subscribers_set found rfl rfl).mp member
      exact (learns before).mpr (told stream before)

/-- A request that fails is honoured exactly when the pseudo-terminal has not
refused a change. -/
theorem failure_honoured_iff
    {session changed : TerminalSession} {error : ServiceError}
    (found : state.tasks[place]? =
      some (.controllingOf request rpcSessionId index))
    (held : state.shared.objects[index]? = some session)
    (result : session.takeControl request rpcSessionId answers.resizeError =
      (changed, .error error)) :
    ControlHonoured request place index state
        ⟨state.shared.setSession index changed,
          state.tasks.set place (.failed error)⟩ ↔
      refusesResize request rpcSessionId answers.resizeError session =
        false := by
  have inside := List.getElem?_set_self
    (a := TerminalTask.failed error)
    (List.getElem?_eq_some_iff.mp found).1
  rw [← TerminalSession.takeControl_error result]
  constructor
  · intro honoured
    have same := congrArg (fun manager => manager.objects[index]?)
      (honoured.fails error inside)
    dsimp only at same
    rw [TerminalManager.setSession, List.getElem?_set_self
      (List.getElem?_eq_some_iff.mp held).1, held] at same
    exact Option.some.inj same
  · rintro rfl
    exact ⟨fun _ _ => setSession_self held,
      fun goesOn => absurd inside (goesOn error)⟩

/-- A request for control is honoured exactly when its owner is not refused the
new size, and what succeeds is seen by all. -/
theorem controlling_honoured_iff
    (reached : terminalRun windows history = some state)
    (found : state.tasks[place]? =
      some (.controllingOf request rpcSessionId index))
    (taken : (terminalSystem windows).step state
      (.advance place (.proceed answers)) = some next) :
    ControlHonoured request place index state next ↔
      (state.shared.objects[index]?).any (fun session =>
        refusesResize request rpcSessionId answers.resizeError session ||
          goesUnseen state request rpcSessionId index answers.resizeError
            session) = false := by
  cases terminal_step taken with
  | advance _ task after _ manager lookup effect =>
      cases found.symm.trans lookup
      cases effect with
      | locked _ _ other session changed lock held effect =>
          cases lock
          rw [held, Option.any_some, Bool.or_eq_false_iff]
          cases effect with
          | control _ _ _ _ result =>
              have accepted := (TerminalSession.takeControl_success result).1
              rw [success_honoured_iff reached found held result]
              simp [refusesResize, accepted]
          | controlFails _ _ _ _ error result =>
              rw [failure_honoured_iff found held result]
              refine (and_iff_left ?_).symm
              unfold TerminalSession.takeControl at result
              split at result
              · rename_i invalid
                have unowned : session.attachOwners request.attachId ≠
                    some rpcSessionId := by
                  intro owner
                  rw [TerminalSession.validateAttachOwner_eq_ok.mpr owner]
                    at invalid
                  cases invalid
                simp [goesUnseen, unowned]
              · split at result
                · rename_i refused
                  simp [goesUnseen, refused]
                · cases result
      | unlocked _ _ _ lock => cases lock

end Honoured

/-- A request for control changes nothing before it takes the lock of its
session.  There it keeps its promise exactly when the pseudo-terminal does not
refuse a change that its owner asks for, and what succeeds is seen by all.  In
runs without such refusals the recorded sizes are those of the pseudo-terminals,
and every stream that goes on is told the recorded control. -/
theorem control_is_honoured_iff (windows : Bool) :
    (∀ (state next : TerminalRun) (request : TakeTerminalControlReq)
      (rpcSessionId place : Nat) (event : TerminalHistoryEvent),
      event = .launch (.takeControl request rpcSessionId) ∨
        (state.tasks[place]? = some (.controlling request rpcSessionId) ∧
          ∃ input, event = .advance place input) →
      (terminalSystem windows).step state event = some next →
        next.shared = state.shared) ∧
      (∀ (history : List TerminalHistoryEvent) (state next : TerminalRun)
        (request : TakeTerminalControlReq) (rpcSessionId place index : Nat)
        (answers : TerminalAnswers),
        terminalRun windows history = some state →
          state.tasks[place]? =
              some (.controllingOf request rpcSessionId index) →
            (terminalSystem windows).step state
                (.advance place (.proceed answers)) = some next →
              (ControlHonoured request place index state next ↔
                (state.shared.objects[index]?).any (fun session =>
                  refusesResize request rpcSessionId answers.resizeError
                      session ||
                    goesUnseen state request rpcSessionId index
                      answers.resizeError session) = false)) ∧
      ∀ (history : List TerminalHistoryEvent) (state : TerminalRun),
        terminalRun windows history = some state →
          Throughout (terminalSystem windows).step ⟨.new, []⟩
            (fun state event => refusesControl state event = false) history →
            SizesRecorded state ∧ SubscribersInformed state := by
  refine ⟨?_, ?_, ?_⟩
  · rintro state next request rpcSessionId place event
      (rfl | ⟨found, input, rfl⟩) taken
    · cases terminal_step taken with
      | launch request => rfl
    · cases terminal_step taken with
      | advance _ task after _ manager lookup effect =>
          cases found.symm.trans lookup
          cases effect with
          | locked _ answers index session changed lock => cases lock
          | unlocked _ answers _ lock effect =>
              cases effect with
              | quiet => rfl
          | broken _ error effect => rfl
  · intro history state next request rpcSessionId place index answers reached
      found taken
    exact controlling_honoured_iff reached found taken
  · intro history state reached allowed
    apply run_invariant_throughout _ _ reached allowed
    · constructor
      · intro index session found
        simp [TerminalManager.new] at found
      · intro index session stream found
        simp [TerminalManager.new] at found
    · intro history state event next earlier holds allowed taken
      exact ⟨sizes_recorded_step holds.1 allowed taken,
        subscribers_informed_step earlier holds.2 allowed taken⟩

/-- A request that is granted is recorded and applied. -/
theorem control_is_honoured_sample :
    ∃ state, terminalRun false controlledSample = some state ∧
      state.shared.objects[0]?.map (fun session =>
        (session.info.control, session.size)) =
          some (⟨some "attach-1", (100, 30)⟩, (100, 30)) ∧
      SizesRecorded state ∧ SubscribersInformed state := by
  have sample : (terminalRun false controlledSample).map (fun state =>
      state.shared.objects[0]?.map fun session =>
        (session.info.control, session.size)) =
      some (some (⟨some "attach-1", (100, 30)⟩, (100, 30))) := by
    rfl
  obtain ⟨state, reached, values⟩ := Option.map_eq_some_iff.mp sample
  exact ⟨state, reached, values, (control_is_honoured_iff false).2.2
    controlledSample state reached (throughout_of_checkEach_eq_false
      (by rfl))⟩

/-- A client attaches, and its request for control is about to take the lock of
the session. -/
def controllingSample : List TerminalHistoryEvent :=
  sampleSession ++
    .launch (.attach ⟨"terminal-1", none, 80, 24⟩ 7) ::
      terminalGoesOn sampleAnswers 1 4 ++
    .launch (.takeControl ⟨"terminal-1", "attach-1", 100, 30⟩ 7) ::
      terminalGoesOn sampleAnswers 2 1

/-- The pseudo-terminal refuses the size that the client asks for. -/
def refusingAnswers : TerminalAnswers :=
  { sampleAnswers with resizeError := some "ioctl failed" }

/-- A request that is refused is recorded but not applied. -/
theorem refused_control_is_recorded :
    ∃ state next session,
      terminalRun false controllingSample = some state ∧
      (terminalSystem false).step state
        (.advance 2 (.proceed refusingAnswers)) = some next ∧
      next.tasks[2]? =
        some (.failed (.operationFailed "ioctl failed")) ∧
      next.shared.objects[0]? = some session ∧
      session.info.control = ⟨some "attach-1", (100, 30)⟩ ∧
      session.size = (80, 24) ∧ session.outputTx = [] ∧
      ¬ControlHonoured ⟨"terminal-1", "attach-1", 100, 30⟩ 2 0 state next := by
  have before : (terminalRun false controllingSample).map (fun state =>
      state.shared.objects[0]?.map fun session => session.info.control) =
      some (some ⟨none, (80, 24)⟩) := by
    rfl
  have refused : (terminalRun false
      (controllingSample ++ [.advance 2 (.proceed refusingAnswers)])).map
        (fun next => next.tasks[2]?) =
      some (some (.failed (.operationFailed "ioctl failed"))) := by
    rfl
  have recorded : (terminalRun false
      (controllingSample ++ [.advance 2 (.proceed refusingAnswers)])).map
        (fun next => next.shared.objects[0]?.map fun session =>
          (session.info.control, session.size, session.outputTx)) =
      some (some (⟨some "attach-1", (100, 30)⟩, (80, 24), [])) := by
    rfl
  obtain ⟨state, reached, initial⟩ := Option.map_eq_some_iff.mp before
  obtain ⟨next, whole, failed⟩ := Option.map_eq_some_iff.mp refused
  rw [whole, Option.map_some, Option.some.injEq] at recorded
  simp only [Prod.mk.injEq, Option.map_eq_some_iff] at recorded
  obtain ⟨session, found, control, size, sent⟩ := recorded
  obtain ⟨early, arrived, taken⟩ := run_concat_eq_some.mp whole
  cases arrived.symm.trans reached
  refine ⟨state, next, session, reached, taken, failed, found, control, size,
    sent, ?_⟩
  intro honoured
  rw [honoured.fails _ failed] at found
  rw [found, Option.map_some, control] at initial
  revert initial
  decide

end Host
end WhatsGoingOn
