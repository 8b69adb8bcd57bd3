import WhatsGoingOn.Host.TerminalSteps

/-!
# The recorded output of a terminal session

Everything a session ever recorded is on its channel, numbered from one.  What
is retained of it is a suffix, and is never empty once there is output: the
chunks of a reader are far smaller than what may be retained.
-/

namespace WhatsGoingOn
namespace Host

open Daemon (ServiceError)

namespace TerminalEvent

/-- The recorded chunk that an event tells of. -/
def output : TerminalEvent → Option OutputRecord
  | .outputChunk seq bytes => some ⟨seq, bytes⟩
  | _ => none

/-- The number that a gap in the history names. -/
def gap : TerminalEvent → Option Nat
  | .historyGap nextSeq => some nextSeq
  | _ => none

/-- Whether an event tells that the session has exited. -/
def exits : TerminalEvent → Bool
  | .sessionExited _ => true
  | _ => false

/-- Whether an event is none of these. -/
def plain (event : TerminalEvent) : Bool :=
  event.output.isNone && event.gap.isNone && !event.exits

@[simp] theorem output_outputChunk (seq : Nat) (bytes : List UInt8) :
    (outputChunk seq bytes).output = some ⟨seq, bytes⟩ :=
  rfl

@[simp] theorem output_chunkEvent (record : OutputRecord) :
    (TerminalSession.chunkEvent record).output = some record :=
  rfl

theorem output_of_plain {event : TerminalEvent} (plain : event.plain) :
    event.output = none := by
  cases event with
  | outputChunk seq bytes => cases plain
  | _ => rfl

theorem gap_of_plain {event : TerminalEvent} (plain : event.plain) :
    event.gap = none := by
  cases event with
  | historyGap nextSeq => cases plain
  | _ => rfl

theorem exits_of_plain {event : TerminalEvent} (plain : event.plain) :
    event.exits = false := by
  cases event with
  | sessionExited exit => cases plain
  | _ => rfl

@[simp] theorem plain_controlChanged (primaryAttachId : String) :
    (controlChanged primaryAttachId).plain = true :=
  rfl

@[simp] theorem plain_pseudoTerminalResized (cols rows : Nat) :
    (pseudoTerminalResized cols rows).plain = true :=
  rfl

@[simp] theorem plain_sessionClosed (reason : TerminalSessionCloseReason) :
    (sessionClosed reason).plain = true :=
  rfl

theorem plain_metadataEvent (metadata : TerminalMetadata) :
    (TerminalSession.metadataEvent metadata).plain := by
  cases metadata with
  | title title => rfl
  | cwd cwd => rfl

end TerminalEvent

/-- The chunks that some events tell of. -/
def outputOf (events : List TerminalEvent) : List OutputRecord :=
  events.filterMap TerminalEvent.output

section OutputOf

@[simp] theorem outputOf_nil : outputOf [] = [] :=
  rfl

@[simp] theorem outputOf_append (early late : List TerminalEvent) :
    outputOf (early ++ late) = outputOf early ++ outputOf late :=
  List.filterMap_append

@[simp] theorem outputOf_cons (event : TerminalEvent)
    (events : List TerminalEvent) :
    outputOf (event :: events) = event.output.toList ++ outputOf events := by
  unfold outputOf
  rw [List.filterMap_cons]
  cases event.output with
  | none => rfl
  | some record => rfl

@[simp] theorem outputOf_chunkEvents (records : List OutputRecord) :
    outputOf (records.map TerminalSession.chunkEvent) = records := by
  induction records with
  | nil => rfl
  | cons record records inductionHypothesis => simp [inductionHypothesis]

theorem chunkEvent_mem_of_mem_outputOf
    {record : OutputRecord} {events : List TerminalEvent}
    (member : record ∈ outputOf events) :
    TerminalSession.chunkEvent record ∈ events := by
  obtain ⟨event, present, tells⟩ := List.mem_filterMap.mp member
  cases event with
  | outputChunk seq bytes =>
      cases tells
      exact present
  | _ => cases tells

/-- Later places tell of nothing that earlier ones do not. -/
theorem outputOf_drop_eq_nil
    {events : List TerminalEvent} {place later : Nat}
    (silent : outputOf (events.drop place) = []) (ordered : place ≤ later) :
    outputOf (events.drop later) = [] := by
  apply List.filterMap_eq_nil_iff.mpr
  intro event member
  apply List.filterMap_eq_nil_iff.mp silent
  exact (List.drop_sublist_drop_left events ordered).subset member

theorem outputOf_of_plain {events : List TerminalEvent}
    (plain : ∀ event ∈ events, event.plain) : outputOf events = [] := by
  apply List.filterMap_eq_nil_iff.mpr
  intro event member
  exact event.output_of_plain (plain event member)

end OutputOf

/-! ## What a step does to the output of a session -/

/-- A step under the lock of a session records a chunk, tells that the session
has exited, or leaves the output alone. -/
inductive OutputEffect (session : TerminalSession) :
    TerminalTask → TerminalSession → Prop
  | leaves (task : TerminalTask) (changed : TerminalSession)
      (events : List TerminalEvent)
      (sent : changed.outputTx = session.outputTx ++ events)
      (plain : ∀ event ∈ events, event.plain)
      (buffer : changed.outputBuffer = session.outputBuffer)
      (retained : changed.retainedOutputBytes = session.retainedOutputBytes)
      (latest : changed.info.latestOutputSeq = session.info.latestOutputSeq)
      (exit : changed.info.exit = session.info.exit) :
      OutputEffect session task changed
  | records (terminalSessionId : String) (index : Nat)
      (bytes : List UInt8) (changed : TerminalSession)
      (events : List TerminalEvent)
      (accepted : (session.closed || bytes.isEmpty) = false)
      (sent : changed.outputTx = session.outputTx ++
        .outputChunk (session.info.latestOutputSeq + 1) bytes :: events)
      (plain : ∀ event ∈ events, event.plain)
      (retention : (changed.outputBuffer, changed.retainedOutputBytes) =
        TerminalSession.evict
          (session.outputBuffer ++
            [⟨session.info.latestOutputSeq + 1, bytes⟩])
          (session.retainedOutputBytes + bytes.length))
      (latest :
        changed.info.latestOutputSeq = session.info.latestOutputSeq + 1)
      (exit : changed.info.exit = session.info.exit) :
      OutputEffect session (.recordingTo terminalSessionId index bytes)
        changed
  | marks (index : Nat) (status : Option (Nat × Option String))
      (changed : TerminalSession) (exit : TerminalExit)
      (running : session.info.exit = none)
      (sent : changed.outputTx = session.outputTx ++ [.sessionExited exit])
      (buffer : changed.outputBuffer = session.outputBuffer)
      (retained : changed.retainedOutputBytes = session.retainedOutputBytes)
      (latest : changed.info.latestOutputSeq = session.info.latestOutputSeq)
      (exited : changed.info.exit = some exit) :
      OutputEffect session (.markingOf index status) changed

namespace TerminalSession

/-- Recording output numbers it and sends it. -/
theorem recordOutput_effect
    {windows : Bool} {session changed : TerminalSession}
    {bytes : List UInt8} {nowMs : Nat}
    {announced : Option TerminalSessionInfo}
    (recorded : session.recordOutput windows bytes nowMs =
      some (changed, announced))
    (terminalSessionId : String) (index : Nat) :
    OutputEffect session (.recordingTo terminalSessionId index bytes)
      changed := by
  obtain ⟨accepted, -, title, cwd, metadataParser, metadata, -, rfl⟩ :=
    recordOutput_eq recorded
  refine .records terminalSessionId index bytes _ _ accepted rfl ?_ rfl rfl
    rfl
  intro event member
  obtain ⟨metadata, -, rfl⟩ := List.mem_map.mp member
  exact TerminalEvent.plain_metadataEvent metadata

/-- Marking the exit sends it. -/
theorem markExited_effect
    {session changed : TerminalSession}
    {status : Option (Nat × Option String)} {nowMs : Nat}
    (marked : session.markExited status nowMs = some changed)
    (index : Nat) :
    OutputEffect session (.markingOf index status) changed := by
  unfold markExited at marked
  split at marked
  · cases marked
  · rename_i running
    cases marked
    simp only [Bool.or_eq_true, not_or, Bool.not_eq_true,
      Option.isSome_eq_false_iff, Option.isNone_iff_eq_none] at running
    exact .marks index status _ _ running.2 rfl rfl rfl rfl rfl

/-- Taking control leaves the output. -/
theorem takeControl_effect
    {session changed : TerminalSession} {request : TakeTerminalControlReq}
    {rpcSessionId : Nat} {resizeError : Option String}
    {outcome : Except ServiceError Unit}
    (result : session.takeControl request rpcSessionId resizeError =
      (changed, outcome))
    (task : TerminalTask) : OutputEffect session task changed := by
  have unsent (changed : TerminalSession)
      (same : changed.outputTx = session.outputTx)
      (buffer : changed.outputBuffer = session.outputBuffer)
      (retained : changed.retainedOutputBytes = session.retainedOutputBytes)
      (latest : changed.info.latestOutputSeq = session.info.latestOutputSeq)
      (exit : changed.info.exit = session.info.exit) :
      OutputEffect session task changed :=
    .leaves task changed [] (by rw [same, List.append_nil]) (by simp) buffer
      retained latest exit
  unfold takeControl at result
  split at result
  · cases result
    exact unsent _ rfl rfl rfl rfl rfl
  · split at result
    · cases result
      exact unsent _ rfl rfl rfl rfl rfl
    · cases result
      split <;> split
      · exact .leaves task _
          [.controlChanged request.attachId,
            .pseudoTerminalResized request.viewportCols request.viewportRows]
          (by simp [send]) (by simp) rfl rfl rfl rfl
      · exact .leaves task _
          [.pseudoTerminalResized request.viewportCols request.viewportRows]
          rfl (by simp) rfl rfl rfl rfl
      · exact .leaves task _ [.controlChanged request.attachId] rfl (by simp)
          rfl rfl rfl rfl
      · exact unsent _ rfl rfl rfl rfl rfl

end TerminalSession

/-- What a step under the lock does to the output. -/
theorem LockedEffect.output
    {windows : Bool} {session changed : TerminalSession}
    {answers : TerminalAnswers} {task after : TerminalTask}
    (effect : LockedEffect windows session answers task changed after) :
    OutputEffect session task changed := by
  have same (task : TerminalTask) : OutputEffect session task session :=
    .leaves task session [] (List.append_nil _).symm (by simp) rfl rfl rfl rfl
  cases effect with
  | attach request rpcSessionId index attachId changed attached result =>
      unfold TerminalSession.attach at result
      split at result
      · cases result
      · cases result
        exact .leaves _ _ [] (List.append_nil _).symm (by simp) rfl rfl rfl
          rfl
  | refuse request rpcSessionId index attachId error => exact same _
  | detach stream index =>
      exact .leaves _ _ [] (List.append_nil _).symm (by simp) rfl rfl rfl rfl
  | control request rpcSessionId index changed result =>
      exact session.takeControl_effect result _
  | controlFails request rpcSessionId index changed error result =>
      exact session.takeControl_effect result _
  | write index attachId bytes rpcSessionId changed outcome result =>
      rw [TerminalSession.writeInput_effect result]
      exact .leaves _ _ [] (List.append_nil _).symm (by simp) rfl rfl rfl rfl
  | close terminalSessionId index =>
      exact .leaves _ _ [.sessionClosed .closedByClient] rfl (by simp) rfl rfl
        rfl rfl
  | drop terminalSessionId index bytes result => exact same _
  | record terminalSessionId index bytes changed result =>
      exact TerminalSession.recordOutput_effect result terminalSessionId index
  | recordMetadata terminalSessionId index bytes changed info result =>
      exact TerminalSession.recordOutput_effect result terminalSessionId index
  | leave index status result => exact same _
  | mark index status changed result =>
      exact TerminalSession.markExited_effect result index

/-! ## What is recorded and what is retained -/

/-- The bytes of some chunks. -/
def OutputRecord.total (records : List OutputRecord) : Nat :=
  (records.map fun record => record.bytes.length).sum

namespace TerminalSession

/-- Eviction keeps a suffix, and counts its bytes. -/
theorem evict_spec
    {records buffer : List OutputRecord} {retained left : Nat}
    (counted : retained = OutputRecord.total records)
    (evicted : (buffer, left) = evict records retained) :
    buffer <:+ records ∧ left = OutputRecord.total buffer := by
  induction records generalizing retained with
  | nil =>
      cases evicted
      exact ⟨List.suffix_rfl, counted⟩
  | cons record records inductionHypothesis =>
      unfold evict at evicted
      split at evicted
      · have rest : retained - record.bytes.length =
            OutputRecord.total records := by
          rw [counted]
          simp [OutputRecord.total]
        obtain ⟨suffix, total⟩ := inductionHypothesis rest evicted
        exact ⟨suffix.trans (List.suffix_cons record records), total⟩
      · cases evicted
        exact ⟨List.suffix_rfl, counted⟩

/-- Eviction never drops the newest of some small chunks. -/
theorem evict_nonempty
    {records buffer : List OutputRecord} {retained left : Nat}
    (counted : retained = OutputRecord.total records)
    (present : records ≠ [])
    (small : ∀ record ∈ records, record.bytes.length ≤ 8192)
    (evicted : (buffer, left) = evict records retained) :
    buffer ≠ [] := by
  induction records generalizing retained with
  | nil => exact absurd rfl present
  | cons record records inductionHypothesis =>
      unfold evict at evicted
      split at evicted
      · rename_i full
        have rest : retained - record.bytes.length =
            OutputRecord.total records := by
          rw [counted]
          simp [OutputRecord.total]
        apply inductionHypothesis rest _ _ evicted
        · intro empty
          have bound := small record List.mem_cons_self
          subst empty
          simp only [OutputRecord.total, List.map_cons, List.map_nil,
            List.sum_cons, List.sum_nil] at counted
          unfold terminalOutputRetentionBytes at full
          omega
        · intro other member
          exact small other (List.mem_cons_of_mem record member)
      · cases evicted
        exact List.cons_ne_nil record records

/-- The chunks that a session has recorded. -/
def recorded (session : TerminalSession) : List OutputRecord :=
  outputOf session.outputTx

end TerminalSession

/-- The output of a session is numbered from one, the retained output is a
suffix of it, and the channel tells of an exit only after it. -/
structure OutputRecorded (session : TerminalSession) : Prop where
  numbered : session.recorded.map OutputRecord.seq =
    List.range' 1 session.info.latestOutputSeq
  retained : session.outputBuffer <:+ session.recorded
  counted : session.retainedOutputBytes =
    OutputRecord.total session.outputBuffer
  small : ∀ record ∈ session.outputBuffer, record.bytes.length ≤ 8192
  present : session.outputBuffer = [] → session.info.latestOutputSeq = 0
  gapless : ∀ event ∈ session.outputTx, event.gap = none
  running : session.info.exit = none →
    ∀ event ∈ session.outputTx, event.exits = false

namespace OutputRecorded

/-- A new session has recorded nothing. -/
theorem create (request : CreateTerminalSessionReq)
    (terminalSessionId creatorClientId : String) (initialCwd : Option String)
    (nowMs : Nat) :
    OutputRecorded (.create request terminalSessionId creatorClientId
      initialCwd nowMs) where
  numbered := rfl
  retained := List.suffix_rfl
  counted := rfl
  small := by simp [TerminalSession.create]
  present := fun _ => rfl
  gapless := by simp [TerminalSession.create]
  running := by simp [TerminalSession.create]

theorem recorded_append
    {session changed : TerminalSession} {events : List TerminalEvent}
    (sent : changed.outputTx = session.outputTx ++ events) :
    changed.recorded = session.recorded ++ outputOf events := by
  unfold TerminalSession.recorded
  rw [sent, outputOf_append]

theorem length_recorded {session : TerminalSession}
    (output : OutputRecorded session) :
    session.recorded.length = session.info.latestOutputSeq := by
  have lengths := congrArg List.length output.numbered
  simpa using lengths

/-- Steps keep it, as long as chunks are small. -/
theorem step
    {session changed : TerminalSession} {task : TerminalTask}
    (output : OutputRecorded session)
    (small : ∀ terminalSessionId index bytes,
      task = .recordingTo terminalSessionId index bytes →
        bytes.length ≤ 8192)
    (effect : OutputEffect session task changed) :
    OutputRecorded changed := by
  cases effect with
  | leaves task changed events sent plain buffer retained latest exit =>
      have same : changed.recorded = session.recorded := by
        rw [recorded_append sent, outputOf_of_plain plain, List.append_nil]
      exact
        { numbered := by rw [same, latest]; exact output.numbered
          retained := by rw [same, buffer]; exact output.retained
          counted := by rw [retained, buffer]; exact output.counted
          small := by rw [buffer]; exact output.small
          present := by rw [buffer, latest]; exact output.present
          gapless := by
            rw [sent, List.forall_mem_append]
            exact ⟨output.gapless, fun event member =>
              event.gap_of_plain (plain event member)⟩
          running := by
            rw [sent, exit, List.forall_mem_append]
            exact fun running => ⟨output.running running,
              fun event member => event.exits_of_plain (plain event member)⟩ }
  | records terminalSessionId index bytes changed events accepted sent
      plain retention latest exit =>
      have chunk := small terminalSessionId index bytes rfl
      have grown : changed.recorded = session.recorded ++
          [⟨session.info.latestOutputSeq + 1, bytes⟩] := by
        rw [recorded_append sent, outputOf_cons, outputOf_of_plain plain]
        rfl
      have counted : session.retainedOutputBytes + bytes.length =
          OutputRecord.total (session.outputBuffer ++
            [⟨session.info.latestOutputSeq + 1, bytes⟩]) := by
        rw [output.counted]
        simp [OutputRecord.total]
      have fits : ∀ record ∈ session.outputBuffer ++
          [(⟨session.info.latestOutputSeq + 1, bytes⟩ : OutputRecord)],
          record.bytes.length ≤ 8192 := by
        rw [List.forall_mem_append]
        exact ⟨output.small, by simpa using chunk⟩
      obtain ⟨suffix, total⟩ :=
        TerminalSession.evict_spec counted retention
      exact
        { numbered := by
            rw [grown, latest, List.map_append, output.numbered,
              List.range'_1_concat]
            simp [Nat.add_comm]
          retained := by
            rw [grown]
            obtain ⟨earlier, shape⟩ := output.retained
            apply suffix.trans
            exact ⟨earlier, by rw [← List.append_assoc, shape]⟩
          counted := total
          small := fun record member => fits record (suffix.subset member)
          present := fun empty => absurd empty
            (TerminalSession.evict_nonempty counted (by simp) fits retention)
          gapless := by
            rw [sent, List.forall_mem_append, List.forall_mem_cons]
            exact ⟨output.gapless, rfl, fun event member =>
              event.gap_of_plain (plain event member)⟩
          running := by
            rw [sent, exit, List.forall_mem_append, List.forall_mem_cons]
            exact fun running => ⟨output.running running, rfl,
              fun event member => event.exits_of_plain (plain event member)⟩ }
  | marks index status changed exit running sent buffer retained latest
      exited =>
      have same : changed.recorded = session.recorded := by
        rw [recorded_append sent]
        exact List.append_nil _
      exact
        { numbered := by rw [same, latest]; exact output.numbered
          retained := by rw [same, buffer]; exact output.retained
          counted := by rw [retained, buffer]; exact output.counted
          small := by rw [buffer]; exact output.small
          present := by rw [buffer, latest]; exact output.present
          gapless := by
            rw [sent, List.forall_mem_append]
            exact ⟨output.gapless, by simp [TerminalEvent.gap]⟩
          running := by simp [exited] }

end OutputRecorded

/-! ## Runs -/

/-- The chunk that a task of a reader holds is small. -/
def SmallChunk : TerminalTask → Prop
  | .recording _ bytes | .recordingTo _ _ bytes => bytes.length ≤ 8192
  | _ => True

theorem SmallChunk.of_fresh {task : TerminalTask}
    (fresh : task.fresh = true) : SmallChunk task := by
  cases task with
  | recording terminalSessionId bytes => cases fresh
  | recordingTo terminalSessionId index bytes => cases fresh
  | _ => trivial

theorem SmallChunk.after (followup : Followup) :
    SmallChunk (.after followup) := by
  cases followup <;> trivial

/-- The chunk that a reader holds stays within its limit. -/
theorem SmallChunk.step
    {windows : Bool} {manager next : TerminalManager}
    {task after : TerminalTask} {input : TerminalInput}
    (small : SmallChunk task)
    (effect : TerminalEffect windows manager task input next after) :
    SmallChunk after := by
  cases effect with
  | locked _ answers index session changed lock found effect =>
      cases effect <;> trivial
  | unlocked _ answers _ lock effect =>
      cases effect with
      | quiet _ _ effect =>
          cases effect with
          | read terminalSessionId bytes output some bound => exact bound
          | record terminalSessionId bytes index found => exact small
          | receive stream session received place next _ written running
              found got delivers goes =>
              subst goes
              split <;> trivial
          | _ => trivial
      | announce announcement followup => exact .after followup
      | _ => trivial
  | broken _ error effect =>
      cases effect <;> trivial

/-- The output of every session is recorded so, and no reader holds more than
it takes at once. -/
structure OutputInvariant (state : TerminalRun) : Prop where
  session : ∀ {index : Nat} {session : TerminalSession},
    state.shared.objects[index]? = some session → OutputRecorded session
  task : ∀ {index : Nat} {task : TerminalTask},
    state.tasks[index]? = some task → SmallChunk task

/-- The output is recorded so in every run. -/
theorem output_invariant
    {windows : Bool} {history : List TerminalHistoryEvent}
    {state : TerminalRun}
    (reached : terminalRun windows history = some state) :
    OutputInvariant state := by
  apply run_state_invariant _ _ reached
  · exact ⟨by simp [TerminalManager.new], by simp⟩
  · intro state event next invariant taken
    cases terminal_step taken with
    | launch request =>
        refine ⟨invariant.session, ?_⟩
        intro index task found
        rcases TaskSystem.getElem?_concat_cases found with
          ⟨-, rfl⟩ | ⟨-, older⟩
        · exact .of_fresh (start_fresh request)
        · exact invariant.task older
    | advance place task after input manager found effect =>
        have small := invariant.task found
        refine ⟨?_, ?_⟩
        · intro index changed present
          rcases effect.session_before present with
            same | ⟨session, answers, before, -, -, locked⟩ |
              ⟨request, terminalSessionId, creatorClientId, initialCwd,
                createdAtMs, -, -, rfl⟩
          · exact invariant.session same
          · apply (invariant.session before).step _ locked.output
            rintro terminalSessionId index bytes rfl
            exact small
          · exact .create request terminalSessionId creatorClientId
              initialCwd createdAtMs
        · intro index other lookup
          rcases TaskSystem.getElem?_set_cases lookup with
            ⟨-, rfl⟩ | ⟨-, older⟩
          · exact small.step effect
          · exact invariant.task older

end Host
end WhatsGoingOn
