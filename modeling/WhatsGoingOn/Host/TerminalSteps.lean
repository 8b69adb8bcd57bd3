import WhatsGoingOn.Host.TerminalManager

/-!
# What a step of the terminal manager does

Every step of a task is one of a few: it changes one session under its lock, or
the table, a counter or the channel of the table, or nothing that is shared.
All invariants of the manager are read off these.
-/

namespace WhatsGoingOn
namespace Host

open Broadcast
open Daemon (ServiceError)

/-- The manager with the tasks of its requests. -/
abbrev TerminalRun := TaskState TerminalManager TerminalTask

/-- What happens in a run of the manager. -/
abbrev TerminalHistoryEvent := TaskEvent TerminalRequest TerminalInput Empty

/-- A run of the terminal manager, from the start of the daemon. -/
def terminalRun (windows : Bool) (history : List TerminalHistoryEvent) :
    Option TerminalRun :=
  run (terminalSystem windows).step ⟨.new, []⟩ history

/-! ## Under the lock of a session -/

/-- Writing changes nothing but the input. -/
theorem TerminalSession.writeInput_effect
    {session changed : TerminalSession} {attachId : String}
    {bytes : List UInt8} {rpcSessionId : Nat} {written : PtyWrite}
    {outcome : Except ServiceError Unit}
    (result : session.writeInput attachId bytes rpcSessionId written =
      (changed, outcome)) :
    changed = { session with input := changed.input } := by
  unfold writeInput at result
  split at result
  · cases result
    rfl
  · split at result
    · cases result
      rfl
    · split at result
      · cases result
        rfl
      · cases result
        rfl

/-- Metadata changes the title and the working directory. -/
theorem TerminalSession.learn_eq (info : TerminalSessionInfo)
    (metadata : TerminalMetadata) :
    ∃ title cwd, (learn info metadata).1 =
      { info with lastKnownTitle := title, lastKnownCwd := cwd } := by
  cases metadata with
  | title title =>
      simp only [learn]
      split <;> exact ⟨_, _, rfl⟩
  | cwd cwd =>
      simp only [learn]
      split <;> exact ⟨_, _, rfl⟩

/-- Metadata changes the title and the directory only. -/
theorem TerminalSession.learnAll_eq (info : TerminalSessionInfo)
    (metadata : List TerminalMetadata) :
    ∃ title cwd, (learnAll info metadata).1 =
      { info with lastKnownTitle := title, lastKnownCwd := cwd } := by
  unfold learnAll
  generalize false = changed
  induction metadata generalizing info changed with
  | nil => exact ⟨_, _, rfl⟩
  | cons event metadata inductionHypothesis =>
      obtain ⟨title, cwd, first⟩ := learn_eq info event
      obtain ⟨later, there, rest⟩ := inductionHypothesis (learn info event).1
        (changed || (learn info event).2)
      refine ⟨later, there, rest.trans ?_⟩
      rw [first]

/-- Metadata that is no news changes nothing. -/
theorem TerminalSession.learn_unchanged
    {info : TerminalSessionInfo} {metadata : TerminalMetadata}
    (unchanged : (learn info metadata).2 = false) :
    (learn info metadata).1 = info := by
  cases metadata with
  | title title =>
      simp only [learn] at unchanged ⊢
      split at unchanged
      · cases unchanged
      · rename_i same
        rw [if_neg same]
  | cwd cwd =>
      simp only [learn] at unchanged ⊢
      split at unchanged
      · cases unchanged
      · rename_i same
        rw [if_neg same]

/-- What has changed nothing says so. -/
theorem TerminalSession.learnAll_unchanged
    {info : TerminalSessionInfo} {metadata : List TerminalMetadata}
    (unchanged : (learnAll info metadata).2 = false) :
    (learnAll info metadata).1 = info := by
  have flagged (learned : TerminalSessionInfo × Bool)
      (quiet : (metadata.foldl
        (fun learned event =>
          ((learn learned.1 event).1,
            learned.2 || (learn learned.1 event).2)) learned).2 = false) :
      learned.2 = false ∧ (metadata.foldl
        (fun learned event =>
          ((learn learned.1 event).1,
            learned.2 || (learn learned.1 event).2)) learned).1 =
              learned.1 := by
    clear unchanged
    induction metadata generalizing learned with
    | nil => exact ⟨quiet, rfl⟩
    | cons event metadata inductionHypothesis =>
        obtain ⟨both, rest⟩ := inductionHypothesis _ quiet
        rw [Bool.or_eq_false_iff] at both
        exact ⟨both.1, rest.trans (learn_unchanged both.2)⟩
  exact (flagged (info, false) unchanged).2

/-- What recording a chunk makes of a session, and what is announced of it. -/
theorem TerminalSession.recordOutput_eq
    {windows : Bool} {session changed : TerminalSession}
    {bytes : List UInt8} {nowMs : Nat}
    {announced : Option TerminalSessionInfo}
    (recorded : session.recordOutput windows bytes nowMs =
      some (changed, announced)) :
    (session.closed || bytes.isEmpty) = false ∧
      (∀ info, announced = some info → info = changed.info) ∧
      ∃ title cwd metadataParser, ∃ metadata : List TerminalMetadata,
        (announced = none → title = session.info.lastKnownTitle ∧
          cwd = session.info.lastKnownCwd) ∧
        changed = { session with
          info := { session.info with
            latestOutputSeq := session.info.latestOutputSeq + 1
            lastOutputAtMs := some nowMs
            lastKnownTitle := title
            lastKnownCwd := cwd }
          metadataParser := metadataParser
          outputBuffer := (evict
            (session.outputBuffer ++
              [⟨session.info.latestOutputSeq + 1, bytes⟩])
            (session.retainedOutputBytes + bytes.length)).1
          retainedOutputBytes := (evict
            (session.outputBuffer ++
              [⟨session.info.latestOutputSeq + 1, bytes⟩])
            (session.retainedOutputBytes + bytes.length)).2
          outputTx := session.outputTx ++
            .outputChunk (session.info.latestOutputSeq + 1) bytes ::
              metadata.map metadataEvent } := by
  unfold recordOutput at recorded
  split at recorded
  · cases recorded
  · rename_i accepted
    rw [Bool.not_eq_true] at accepted
    simp only [Option.some.injEq, Prod.mk.injEq] at recorded
    obtain ⟨rfl, rfl⟩ := recorded
    refine ⟨accepted, ?_, ?_⟩
    · intro info announced
      split at announced
      · cases announced
        rfl
      · cases announced
    · generalize written : TerminalSessionInfo.mk _ _ _ _ _ _ _ _ _ _ _ _ _ _ =
        info
      obtain ⟨title, cwd, learned⟩ := learnAll_eq info
        (session.metadataParser.push windows bytes).2
      subst written
      refine ⟨title, cwd, (session.metadataParser.push windows bytes).1,
        (session.metadataParser.push windows bytes).2, ?_, ?_⟩
      · intro unannounced
        split at unannounced
        · cases unannounced
        · rename_i unchanged
          rw [Bool.not_eq_true] at unchanged
          have same := learned.symm.trans (learnAll_unchanged unchanged)
          exact ⟨congrArg TerminalSessionInfo.lastKnownTitle same,
            congrArg TerminalSessionInfo.lastKnownCwd same⟩
      · rw [learned]

/-- What a task makes of the session whose lock it holds. -/
inductive LockedEffect
    (windows : Bool) (session : TerminalSession) (answers : TerminalAnswers) :
    TerminalTask → TerminalSession → TerminalTask → Prop
  | attach (request : AttachTerminalSessionReq) (rpcSessionId index : Nat)
      (attachId : String) (changed : TerminalSession)
      (attached : AttachedTerminal)
      (result : session.attach request attachId rpcSessionId answers.nowMs =
        .ok (changed, attached)) :
      LockedEffect windows session answers
        (.attachingTo request rpcSessionId index attachId) changed
        (.announcing (.upsert changed.info)
          (.streaming (.start rpcSessionId index attached)))
  | refuse (request : AttachTerminalSessionReq) (rpcSessionId index : Nat)
      (attachId : String) (error : ServiceError) :
      LockedEffect windows session answers
        (.attachingTo request rpcSessionId index attachId) session
        (.failed error)
  | detach (stream : AttachStream) (index : Nat) :
      LockedEffect windows session answers (.detachingFrom stream index)
        (session.detach stream.attached.attachId answers.nowMs)
        (.announcing
          (.upsert
            (session.detach stream.attached.attachId answers.nowMs).info)
          (.detached stream))
  | control (request : TakeTerminalControlReq) (rpcSessionId index : Nat)
      (changed : TerminalSession)
      (result : session.takeControl request rpcSessionId
        answers.resizeError = (changed, .ok ())) :
      LockedEffect windows session answers
        (.controllingOf request rpcSessionId index) changed
        (.announcing (.upsert changed.info) .done)
  | controlFails (request : TakeTerminalControlReq)
      (rpcSessionId index : Nat) (changed : TerminalSession)
      (error : ServiceError)
      (result : session.takeControl request rpcSessionId
        answers.resizeError = (changed, .error error)) :
      LockedEffect windows session answers
        (.controllingOf request rpcSessionId index) changed (.failed error)
  | write (index : Nat) (attachId : String) (bytes : List UInt8)
      (rpcSessionId : Nat) (changed : TerminalSession)
      (outcome : Except ServiceError Unit)
      (result : session.writeInput attachId bytes rpcSessionId
        answers.written = (changed, outcome)) :
      LockedEffect windows session answers
        (.writingTo index attachId bytes rpcSessionId) changed
        (.finished outcome)
  | close (terminalSessionId : String) (index : Nat) :
      LockedEffect windows session answers
        (.closingOf terminalSessionId index) session.close
        (.announcing (.remove terminalSessionId) .done)
  | drop (terminalSessionId : String) (index : Nat) (bytes : List UInt8)
      (result : session.recordOutput windows bytes answers.nowMs = none) :
      LockedEffect windows session answers
        (.recordingTo terminalSessionId index bytes) session .done
  | record (terminalSessionId : String) (index : Nat) (bytes : List UInt8)
      (changed : TerminalSession)
      (result : session.recordOutput windows bytes answers.nowMs =
        some (changed, none)) :
      LockedEffect windows session answers
        (.recordingTo terminalSessionId index bytes) changed
        (.reading terminalSessionId)
  | recordMetadata (terminalSessionId : String) (index : Nat)
      (bytes : List UInt8) (changed : TerminalSession)
      (info : TerminalSessionInfo)
      (result : session.recordOutput windows bytes answers.nowMs =
        some (changed, some info)) :
      LockedEffect windows session answers
        (.recordingTo terminalSessionId index bytes) changed
        (.announcing (.upsert info) (.reading terminalSessionId))
  | leave (index : Nat) (status : Option (Nat × Option String))
      (result : session.markExited status answers.nowMs = none) :
      LockedEffect windows session answers (.markingOf index status) session
        .done
  | mark (index : Nat) (status : Option (Nat × Option String))
      (changed : TerminalSession)
      (result : session.markExited status answers.nowMs = some changed) :
      LockedEffect windows session answers (.markingOf index status) changed
        (.announcing (.upsert changed.info) .done)

/-- Putting a session where it is changes nothing. -/
theorem setSession_self
    {manager : TerminalManager} {index : Nat} {session : TerminalSession}
    (found : manager.objects[index]? = some session) :
    manager.setSession index session = manager := by
  obtain ⟨inside, same⟩ := List.getElem?_eq_some_iff.mp found
  unfold TerminalManager.setSession
  rw [← same, List.set_getElem_self]

/-- What a step under the lock of a session does. -/
theorem locked_effect
    {windows : Bool} {manager next : TerminalManager} {index : Nat}
    {session : TerminalSession} {answers : TerminalAnswers}
    {task after : TerminalTask}
    (lock : task.lockOf = some index)
    (found : manager.objects[index]? = some session)
    (acted : task.locked windows manager session answers =
      some (next, after)) :
    ∃ changed, next = manager.setSession index changed ∧
      LockedEffect windows session answers task changed after := by
  have same := setSession_self found
  cases task with
  | attachingTo request rpcSessionId place attachId =>
      cases lock
      simp only [TerminalTask.locked] at acted
      split at acted
      · cases acted
        exact ⟨session, same.symm, .refuse request rpcSessionId _ attachId _⟩
      · rename_i changed attached result
        cases acted
        exact ⟨changed, rfl,
          .attach request rpcSessionId _ attachId changed attached result⟩
  | detachingFrom stream place =>
      cases lock
      cases acted
      exact ⟨_, rfl, .detach stream _⟩
  | controllingOf request rpcSessionId place =>
      cases lock
      simp only [TerminalTask.locked] at acted
      split at acted
      · rename_i changed error result
        cases acted
        exact ⟨changed, rfl,
          .controlFails request rpcSessionId _ changed error result⟩
      · rename_i changed result
        cases acted
        exact ⟨changed, rfl, .control request rpcSessionId _ changed result⟩
  | writingTo place attachId bytes rpcSessionId =>
      cases lock
      cases acted
      exact ⟨_, rfl, .write _ attachId bytes rpcSessionId _ _ rfl⟩
  | closingOf terminalSessionId place =>
      cases lock
      cases acted
      exact ⟨_, rfl, .close terminalSessionId _⟩
  | recordingTo terminalSessionId place bytes =>
      cases lock
      simp only [TerminalTask.locked] at acted
      split at acted
      · rename_i result
        cases acted
        exact ⟨session, same.symm, .drop terminalSessionId _ bytes result⟩
      · rename_i changed result
        cases acted
        exact ⟨changed, rfl,
          .record terminalSessionId _ bytes changed result⟩
      · rename_i changed info result
        cases acted
        exact ⟨changed, rfl,
          .recordMetadata terminalSessionId _ bytes changed info result⟩
  | markingOf place status =>
      cases lock
      simp only [TerminalTask.locked] at acted
      split at acted
      · rename_i result
        cases acted
        exact ⟨session, same.symm, .leave _ status result⟩
      · rename_i changed result
        cases acted
        exact ⟨changed, rfl, .mark _ status changed result⟩
  | _ => cases lock

/-! ## Without the lock of a session -/

/-- What a task does that changes nothing of what is shared. -/
inductive QuietEffect (manager : TerminalManager)
    (answers : TerminalAnswers) : TerminalTask → TerminalTask → Prop
  | attachMissing (request : AttachTerminalSessionReq) (rpcSessionId : Nat)
      (unknown : manager.getSession request.terminalSessionId = none) :
      QuietEffect manager answers (.attaching request rpcSessionId)
        (.failed .notFound)
  | attach (request : AttachTerminalSessionReq) (rpcSessionId index : Nat)
      (found : manager.getSession request.terminalSessionId = some index) :
      QuietEffect manager answers (.attaching request rpcSessionId)
        (.numbering request rpcSessionId index)
  | replay (stream : AttachStream) (event : TerminalEvent)
      (pending : List TerminalEvent)
      (first : stream.pending = event :: pending) :
      QuietEffect manager answers (.streaming stream)
        (.streaming { stream with
          pending := pending
          delivered := stream.delivered ++ [event] })
  | replayed (stream : AttachStream) (written : stream.pending = [])
      (exited : stream.attached.session.exit.isSome) :
      QuietEffect manager answers (.streaming stream) (.detaching stream)
  | receive (stream : AttachStream) (session : TerminalSession)
      (received : Received TerminalEvent) (place : Nat)
      (next : AttachStream) (after : TerminalTask)
      (written : stream.pending = [])
      (running : stream.attached.session.exit = none)
      (found : manager.objects[stream.index]? = some session)
      (got : receive terminalEventChannelCapacity session.outputTx
        stream.place = some (received, place))
      (delivers : next = { stream with
        place := place
        delivered := stream.delivered ++ [stream.eventOf received] })
      (goes : after =
        if AttachStream.endsWith (stream.eventOf received) then
          .detaching next else .streaming next) :
      QuietEffect manager answers (.streaming stream) after
  | detachMissing (stream : AttachStream)
      (unknown :
        manager.getSession stream.attached.terminalSessionId = none) :
      QuietEffect manager answers (.detaching stream) (.detached stream)
  | detach (stream : AttachStream) (index : Nat)
      (found :
        manager.getSession stream.attached.terminalSessionId = some index) :
      QuietEffect manager answers (.detaching stream)
        (.detachingFrom stream index)
  | controlMissing (request : TakeTerminalControlReq) (rpcSessionId : Nat)
      (unknown : manager.getSession request.terminalSessionId = none) :
      QuietEffect manager answers (.controlling request rpcSessionId)
        (.failed .notFound)
  | control (request : TakeTerminalControlReq) (rpcSessionId index : Nat)
      (found : manager.getSession request.terminalSessionId = some index) :
      QuietEffect manager answers (.controlling request rpcSessionId)
        (.controllingOf request rpcSessionId index)
  | writeMissing (terminalSessionId attachId : String)
      (bytes : List UInt8) (rpcSessionId : Nat)
      (unknown : manager.getSession terminalSessionId = none) :
      QuietEffect manager answers
        (.writing terminalSessionId attachId bytes rpcSessionId)
        (.failed .notFound)
  | write (terminalSessionId attachId : String) (bytes : List UInt8)
      (rpcSessionId index : Nat)
      (found : manager.getSession terminalSessionId = some index) :
      QuietEffect manager answers
        (.writing terminalSessionId attachId bytes rpcSessionId)
        (.writingTo index attachId bytes rpcSessionId)
  | closeMissing (terminalSessionId : String)
      (unknown : manager.getSession terminalSessionId = none) :
      QuietEffect manager answers (.closing terminalSessionId)
        (.failed .notFound)
  | readEnd (terminalSessionId : String) (silent : answers.output = []) :
      QuietEffect manager answers (.reading terminalSessionId) .done
  | read (terminalSessionId : String) (bytes : List UInt8)
      (output : answers.output = bytes) (some : bytes ≠ [])
      (small : bytes.length ≤ 8192) :
      QuietEffect manager answers (.reading terminalSessionId)
        (.recording terminalSessionId bytes)
  | recordMissing (terminalSessionId : String) (bytes : List UInt8)
      (unknown : manager.getSession terminalSessionId = none) :
      QuietEffect manager answers (.recording terminalSessionId bytes) .done
  | record (terminalSessionId : String) (bytes : List UInt8) (index : Nat)
      (found : manager.getSession terminalSessionId = some index) :
      QuietEffect manager answers (.recording terminalSessionId bytes)
        (.recordingTo terminalSessionId index bytes)
  | wait (terminalSessionId : String) :
      QuietEffect manager answers (.waiting terminalSessionId)
        (.marking terminalSessionId answers.status)
  | markMissing (terminalSessionId : String)
      (status : Option (Nat × Option String))
      (unknown : manager.getSession terminalSessionId = none) :
      QuietEffect manager answers (.marking terminalSessionId status) .done
  | mark (terminalSessionId : String)
      (status : Option (Nat × Option String)) (index : Nat)
      (found : manager.getSession terminalSessionId = some index) :
      QuietEffect manager answers (.marking terminalSessionId status)
        (.markingOf index status)
  | openSnapshot :
      QuietEffect manager answers .opening
        (.collecting (manager.sessions.map Prod.snd) [] none [])
  | collect (index : Nat) (remaining : List Nat)
      (rows : List TerminalSessionInfo) (place : Option Nat)
      (delivered : List TerminalSessionsTableEvent)
      (session : TerminalSession)
      (found : manager.objects[index]? = some session) :
      QuietEffect manager answers
        (.collecting (index :: remaining) rows place delivered)
        (.collecting remaining (rows ++ [session.info]) place delivered)
  | collected (rows : List TerminalSessionInfo)
      (delivered : List TerminalSessionsTableEvent) :
      QuietEffect manager answers (.collecting [] rows none delivered)
        (.subscribing (delivered ++ [.snapshot rows]))
  | recollected (rows : List TerminalSessionInfo) (place : Nat)
      (delivered : List TerminalSessionsTableEvent) :
      QuietEffect manager answers (.collecting [] rows (some place) delivered)
        (.following place (delivered ++ [.snapshot rows]))
  | subscribe (delivered : List TerminalSessionsTableEvent) :
      QuietEffect manager answers (.subscribing delivered)
        (.following manager.tableTx.length delivered)
  | follow (place next : Nat)
      (delivered : List TerminalSessionsTableEvent)
      (event : TerminalSessionsTableEvent)
      (got : receive terminalTableChannelCapacity manager.tableTx place =
        some (.value event, next)) :
      QuietEffect manager answers (.following place delivered)
        (.following next (delivered ++ [event]))
  | restart (place missed next : Nat)
      (delivered : List TerminalSessionsTableEvent)
      (got : receive terminalTableChannelCapacity manager.tableTx place =
        some (.lagged missed, next)) :
      QuietEffect manager answers (.following place delivered)
        (.collecting (manager.sessions.map Prod.snd) [] (some next) delivered)

/-- What a task does to what is shared, without the lock of a session. -/
inductive UnlockedEffect (manager : TerminalManager)
    (answers : TerminalAnswers) :
    TerminalTask → TerminalManager → TerminalTask → Prop
  | create (request : CreateTerminalSessionReq) (creatorClientId : String) :
      UnlockedEffect manager answers (.creating request creatorClientId)
        { manager with nextSessionId := manager.nextSessionId + 1 }
        (.inserting request ("terminal-" ++ toString manager.nextSessionId)
          creatorClientId (request.cwd.or answers.currentDir) answers.nowMs)
  | insert (request : CreateTerminalSessionReq)
      (terminalSessionId creatorClientId : String)
      (initialCwd : Option String) (createdAtMs : Nat)
      (session : TerminalSession)
      (created : session = .create request terminalSessionId creatorClientId
        initialCwd createdAtMs) :
      UnlockedEffect manager answers
        (.inserting request terminalSessionId creatorClientId initialCwd
          createdAtMs)
        (manager.insertSession terminalSessionId session)
        (.announcing (.upsert session.info) .done)
  | announce (announcement : Announcement) (followup : Followup) :
      UnlockedEffect manager answers (.announcing announcement followup)
        (manager.broadcast announcement.event) (.after followup)
  | number (request : AttachTerminalSessionReq)
      (rpcSessionId index : Nat) :
      UnlockedEffect manager answers (.numbering request rpcSessionId index)
        { manager with nextAttachId := manager.nextAttachId + 1 }
        (.attachingTo request rpcSessionId index
          ("attach-" ++ toString manager.nextAttachId))
  | remove (terminalSessionId : String) (index : Nat)
      (found : manager.getSession terminalSessionId = some index) :
      UnlockedEffect manager answers (.closing terminalSessionId)
        (manager.removeSession terminalSessionId)
        (.closingOf terminalSessionId index)
  | quiet (task after : TerminalTask)
      (effect : QuietEffect manager answers task after) :
      UnlockedEffect manager answers task manager after

section Unlocked

variable {manager next : TerminalManager} {answers : TerminalAnswers}
  {task after : TerminalTask}

/-- Looking a session up, a task goes on without it, or with its place. -/
theorem withSession_effect
    {terminalSessionId : String} {missing : TerminalTask}
    {found : Nat → TerminalTask}
    (without : manager.getSession terminalSessionId = none →
      QuietEffect manager answers task missing)
    (goes : ∀ index, manager.getSession terminalSessionId = some index →
      QuietEffect manager answers task (found index)) :
    UnlockedEffect manager answers task manager
      (TerminalTask.withSession manager terminalSessionId missing found) := by
  apply UnlockedEffect.quiet
  unfold TerminalTask.withSession
  cases lookup : manager.getSession terminalSessionId with
  | none => exact without lookup
  | some index => exact goes index lookup

/-- A stream writes what is pending, and then what it receives. -/
theorem streaming_effect {stream : AttachStream}
    (acted : (TerminalTask.streaming stream).unlocked manager answers =
      some (next, after)) :
    UnlockedEffect manager answers (.streaming stream) next after := by
  simp only [TerminalTask.unlocked] at acted
  split at acted
  · rename_i event pending first
    cases acted
    exact .quiet _ _ (.replay stream event pending first)
  · rename_i written
    split at acted
    · rename_i exited
      cases acted
      exact .quiet _ _ (.replayed stream written exited)
    · rename_i running
      obtain ⟨received, got, equal⟩ := Option.map_eq_some_iff.mp acted
      obtain ⟨session, found, got⟩ := Option.bind_eq_some_iff.mp got
      cases equal
      rw [Option.not_isSome_iff_eq_none] at running
      exact .quiet _ _ (.receive stream session received.1 received.2 _ _
        written running found got rfl rfl)

/-- A session is closed by taking it off the table first. -/
theorem closing_effect {terminalSessionId : String}
    (acted : (TerminalTask.closing terminalSessionId).unlocked manager answers =
      some (next, after)) :
    UnlockedEffect manager answers (.closing terminalSessionId) next after := by
  simp only [TerminalTask.unlocked] at acted
  split at acted
  · rename_i unknown
    cases acted
    exact .quiet _ _ (.closeMissing terminalSessionId unknown)
  · rename_i index found
    cases acted
    exact .remove terminalSessionId index found

/-- A reader ends without output, and else takes a piece of it. -/
theorem reading_effect {terminalSessionId : String}
    (acted : (TerminalTask.reading terminalSessionId).unlocked manager answers =
      some (next, after)) :
    UnlockedEffect manager answers (.reading terminalSessionId) next after := by
  simp only [TerminalTask.unlocked] at acted
  split at acted
  · rename_i silent
    cases acted
    exact .quiet _ _ (.readEnd terminalSessionId silent)
  · rename_i some
    split at acted
    · rename_i small
      cases acted
      exact .quiet _ _ (.read terminalSessionId answers.output rfl some small)
    · cases acted

/-- A snapshot is written once all its rows are read. -/
theorem collecting_effect {remaining : List Nat}
    {rows : List TerminalSessionInfo} {place : Option Nat}
    {delivered : List TerminalSessionsTableEvent}
    (acted : (TerminalTask.collecting remaining rows place delivered).unlocked
      manager answers = some (next, after)) :
    UnlockedEffect manager answers (.collecting remaining rows place delivered)
      next after := by
  cases remaining with
  | nil =>
      cases place with
      | none =>
          cases acted
          exact .quiet _ _ (.collected rows delivered)
      | some place =>
          cases acted
          exact .quiet _ _ (.recollected rows place delivered)
  | cons index remaining =>
      obtain ⟨session, found, equal⟩ := Option.map_eq_some_iff.mp acted
      cases equal
      exact .quiet _ _
        (.collect index remaining rows place delivered session found)

/-- A subscription writes the event that it receives, and starts over when it
has missed some. -/
theorem following_effect {place : Nat}
    {delivered : List TerminalSessionsTableEvent}
    (acted : (TerminalTask.following place delivered).unlocked manager answers =
      some (next, after)) :
    UnlockedEffect manager answers (.following place delivered) next after := by
  obtain ⟨⟨received, following⟩, got, equal⟩ :=
    Option.map_eq_some_iff.mp acted
  cases received with
  | value event =>
      cases equal
      exact .quiet _ _ (.follow place following delivered event got)
  | lagged missed =>
      cases equal
      exact .quiet _ _ (.restart place missed following delivered got)

/-- What a task does without the lock of a session, stage by stage. -/
theorem unlocked_effect
    (acted : task.unlocked manager answers = some (next, after)) :
    UnlockedEffect manager answers task next after := by
  cases task with
  | creating request creatorClientId =>
      cases acted
      exact .create request creatorClientId
  | inserting request terminalSessionId creatorClientId initialCwd
      createdAtMs =>
      cases acted
      exact .insert request terminalSessionId creatorClientId initialCwd
        createdAtMs _ rfl
  | announcing announcement followup =>
      cases acted
      exact .announce announcement followup
  | attaching request rpcSessionId =>
      cases acted
      exact withSession_effect (.attachMissing request rpcSessionId)
        (.attach request rpcSessionId)
  | numbering request rpcSessionId index =>
      cases acted
      exact .number request rpcSessionId index
  | streaming stream => exact streaming_effect acted
  | detaching stream =>
      cases acted
      exact withSession_effect (.detachMissing stream) (.detach stream)
  | controlling request rpcSessionId =>
      cases acted
      exact withSession_effect (.controlMissing request rpcSessionId)
        (.control request rpcSessionId)
  | writing terminalSessionId attachId bytes rpcSessionId =>
      cases acted
      exact withSession_effect
        (.writeMissing terminalSessionId attachId bytes rpcSessionId)
        (.write terminalSessionId attachId bytes rpcSessionId)
  | closing terminalSessionId => exact closing_effect acted
  | reading terminalSessionId => exact reading_effect acted
  | recording terminalSessionId bytes =>
      cases acted
      exact withSession_effect (.recordMissing terminalSessionId bytes)
        (.record terminalSessionId bytes)
  | waiting terminalSessionId =>
      cases acted
      exact .quiet _ _ (.wait terminalSessionId)
  | marking terminalSessionId status =>
      cases acted
      exact withSession_effect (.markMissing terminalSessionId status)
        (.mark terminalSessionId status)
  | opening =>
      cases acted
      exact .quiet _ _ .openSnapshot
  | collecting remaining rows place delivered => exact collecting_effect acted
  | subscribing delivered =>
      cases acted
      exact .quiet _ _ (.subscribe delivered)
  | following place delivered => exact following_effect acted
  | _ => cases acted

end Unlocked

/-! ## A whole step -/

/-- What a task becomes that fails outside. -/
inductive BrokenEffect (error : String) :
    TerminalTask → TerminalTask → Prop
  | creating (request : CreateTerminalSessionReq)
      (creatorClientId : String) :
      BrokenEffect error (.creating request creatorClientId)
        (.failed (.operationFailed error))
  | streaming (stream : AttachStream) :
      BrokenEffect error (.streaming stream) (.detaching stream)
  | reading (terminalSessionId : String) :
      BrokenEffect error (.reading terminalSessionId) .done
  | opening : BrokenEffect error .opening .done
  | collecting (remaining : List Nat) (rows : List TerminalSessionInfo)
      (place : Option Nat) (delivered : List TerminalSessionsTableEvent) :
      BrokenEffect error (.collecting remaining rows place delivered) .done
  | subscribing (delivered : List TerminalSessionsTableEvent) :
      BrokenEffect error (.subscribing delivered) .done
  | following (place : Nat) (delivered : List TerminalSessionsTableEvent) :
      BrokenEffect error (.following place delivered) .done

/-- What a failure outside does to a task. -/
theorem broken_effect
    {error : String} {task after : TerminalTask}
    (breaks : task.broken error = some after) :
    BrokenEffect error task after := by
  cases task with
  | creating request creatorClientId =>
      cases breaks
      exact .creating request creatorClientId
  | streaming stream =>
      cases breaks
      exact .streaming stream
  | reading terminalSessionId =>
      cases breaks
      exact .reading terminalSessionId
  | opening =>
      cases breaks
      exact .opening
  | collecting remaining rows place delivered =>
      cases breaks
      exact .collecting remaining rows place delivered
  | subscribing delivered =>
      cases breaks
      exact .subscribing delivered
  | following place delivered =>
      cases breaks
      exact .following place delivered
  | _ => cases breaks

/-- What one action of a task does. -/
inductive TerminalEffect (windows : Bool) (manager : TerminalManager)
    (task : TerminalTask) :
    TerminalInput → TerminalManager → TerminalTask → Prop
  | locked (after : TerminalTask) (answers : TerminalAnswers)
      (index : Nat) (session changed : TerminalSession)
      (lock : task.lockOf = some index)
      (found : manager.objects[index]? = some session)
      (effect : LockedEffect windows session answers task changed after) :
      TerminalEffect windows manager task (.proceed answers)
        (manager.setSession index changed) after
  | unlocked (after : TerminalTask) (answers : TerminalAnswers)
      (next : TerminalManager) (lock : task.lockOf = none)
      (effect : UnlockedEffect manager answers task next after) :
      TerminalEffect windows manager task (.proceed answers) next after
  | broken (after : TerminalTask) (error : String)
      (effect : BrokenEffect error task after) :
      TerminalEffect windows manager task (.fail error) manager after

/-- What a step of a task does. -/
theorem terminal_effect
    {windows : Bool} {manager next : TerminalManager}
    {task after : TerminalTask} {input : TerminalInput}
    (acted : advanceTerminal windows manager task input =
      some (next, after)) :
    TerminalEffect windows manager task input next after := by
  cases input with
  | proceed answers =>
      simp only [advanceTerminal] at acted
      split at acted
      · rename_i index lock
        obtain ⟨session, found, acted⟩ := Option.bind_eq_some_iff.mp acted
        obtain ⟨changed, rfl, effect⟩ := locked_effect lock found acted
        exact .locked after answers index session changed lock found effect
      · rename_i lock
        exact .unlocked after answers next lock (unlocked_effect acted)
  | fail error =>
      obtain ⟨broken, breaks, equal⟩ := Option.map_eq_some_iff.mp acted
      cases equal
      exact .broken _ error (broken_effect breaks)

/-- One step of a run: a task starts, or acts. -/
inductive TerminalStep (windows : Bool) (state : TerminalRun) :
    TerminalHistoryEvent → TerminalRun → Prop
  | launch (request : TerminalRequest) :
      TerminalStep windows state (.launch request)
        ⟨state.shared, state.tasks ++ [.start request]⟩
  | advance (index : Nat) (task after : TerminalTask)
      (input : TerminalInput) (manager : TerminalManager)
      (found : state.tasks[index]? = some task)
      (effect : TerminalEffect windows state.shared task input manager
        after) :
      TerminalStep windows state (.advance index input)
        ⟨manager, state.tasks.set index after⟩

/-- What a step of the system does. -/
theorem terminal_step
    {windows : Bool} {state next : TerminalRun}
    {event : TerminalHistoryEvent}
    (taken : (terminalSystem windows).step state event = some next) :
    TerminalStep windows state event next := by
  cases event with
  | launch request =>
      obtain ⟨task, launched, rfl⟩ := TaskSystem.step_launch_eq_some.mp taken
      cases launched
      exact .launch request
  | advance index input =>
      obtain ⟨task, manager, after, found, acted, rfl⟩ :=
        TaskSystem.step_advance_eq_some.mp taken
      exact .advance index task after input manager found
        (terminal_effect acted)
  | disturb cause => exact cause.elim

/-! ## The sessions -/

/-- A session after a step was there before, maybe changed under its lock, or
is a new one. -/
theorem TerminalEffect.session_before
    {windows : Bool} {manager next : TerminalManager}
    {task after : TerminalTask} {input : TerminalInput} {index : Nat}
    {changed : TerminalSession}
    (effect : TerminalEffect windows manager task input next after)
    (found : next.objects[index]? = some changed) :
    manager.objects[index]? = some changed ∨
      (∃ session answers, manager.objects[index]? = some session ∧
        input = .proceed answers ∧ task.lockOf = some index ∧
        LockedEffect windows session answers task changed after) ∨
      ∃ request terminalSessionId creatorClientId initialCwd createdAtMs,
        task = .inserting request terminalSessionId creatorClientId initialCwd
          createdAtMs ∧
        index = manager.objects.length ∧
        changed = .create request terminalSessionId creatorClientId initialCwd
          createdAtMs := by
  cases effect with
  | locked _ answers place session updated lock present effect =>
      rcases TaskSystem.getElem?_set_cases found with
        ⟨rfl, rfl⟩ | ⟨-, same⟩
      · exact Or.inr (Or.inl
          ⟨session, answers, present, rfl, lock, effect⟩)
      · exact Or.inl same
  | unlocked _ answers _ lock effect =>
      cases effect with
      | insert request terminalSessionId creatorClientId initialCwd
          createdAtMs session created =>
          rcases TaskSystem.getElem?_concat_cases found with
            ⟨rfl, rfl⟩ | ⟨-, same⟩
          · exact Or.inr (Or.inr ⟨request, terminalSessionId,
              creatorClientId, initialCwd, createdAtMs, rfl, rfl, created⟩)
          · exact Or.inl same
      | _ => exact Or.inl found
  | broken => exact Or.inl found

/-- A session stays, maybe changed under its lock. -/
theorem TerminalEffect.session_after
    {windows : Bool} {manager next : TerminalManager}
    {task after : TerminalTask} {input : TerminalInput} {index : Nat}
    {session : TerminalSession}
    (effect : TerminalEffect windows manager task input next after)
    (found : manager.objects[index]? = some session) :
    next.objects[index]? = some session ∨
      ∃ changed answers, next.objects[index]? = some changed ∧
        input = .proceed answers ∧ task.lockOf = some index ∧
        LockedEffect windows session answers task changed after := by
  have inside : index < manager.objects.length :=
    (List.getElem?_eq_some_iff.mp found).1
  cases effect with
  | locked _ answers place held updated lock present effect =>
      by_cases same : index = place
      · subst same
        cases found.symm.trans present
        right
        exact ⟨updated, answers, List.getElem?_set_self inside, rfl, lock,
          effect⟩
      · left
        exact (List.getElem?_set_ne (fun equal => same equal.symm)).trans found
  | unlocked _ answers _ lock effect =>
      left
      cases effect with
      | insert request terminalSessionId creatorClientId initialCwd
          createdAtMs session created =>
          exact (List.getElem?_append_left inside).trans found
      | _ => exact found
  | broken => exact Or.inl found

/-! ## Tasks at their start -/

/-- Whether a task is as a request starts it. -/
def TerminalTask.fresh : TerminalTask → Bool
  | .creating .. | .attaching .. | .controlling .. | .writing ..
  | .closing .. | .opening | .reading .. | .waiting .. | .finished .. => true
  | _ => false

/-- A request begins with nothing done. -/
theorem start_fresh (request : TerminalRequest) :
    (TerminalTask.start request).fresh = true := by
  have sized (cols rows : Nat) (task : TerminalTask)
      (fresh : task.fresh = true) :
      (TerminalTask.sized cols rows task).fresh = true := by
    unfold TerminalTask.sized
    split
    · rfl
    · exact fresh
  cases request with
  | createSession request creatorClientId =>
      apply sized
      split <;> rfl
  | attach request rpcSessionId => exact sized _ _ _ rfl
  | takeControl request rpcSessionId => exact sized _ _ _ rfl
  | _ => rfl

/-! ## Attach streams -/

/-- The attach stream of a task. -/
def TerminalTask.stream : TerminalTask → Option AttachStream
  | .announcing _ (.streaming stream) | .announcing _ (.detached stream)
  | .streaming stream | .detaching stream | .detachingFrom stream _
  | .detached stream => some stream
  | _ => none

/-! ## Sample runs -/

/-- A task that goes on some number of times. -/
def terminalGoesOn (answers : TerminalAnswers) (task count : Nat) :
    List TerminalHistoryEvent :=
  List.replicate count (.advance task (.proceed answers))

/-- Answers of the clock, the system and the pty. -/
def sampleAnswers : TerminalAnswers where
  nowMs := 5
  currentDir := none
  output := [104, 105]
  status := some (0, none)
  resizeError := none
  written := .complete

/-- A session is created and announced: `terminal-1`, with the place 0. -/
def sampleSession : List TerminalHistoryEvent :=
  .launch (.createSession ⟨80, 24, none, ⟨"sh", []⟩, none⟩ "client") ::
    terminalGoesOn sampleAnswers 0 3

end Host
end WhatsGoingOn
