import WhatsGoingOn.Host.AttachStreams

/-!
# The end and the gaps of an attach stream

The threads of a session record its output and its exit independently, so that
a chunk may come after the exit.  A stream that lags names the number after
those of its attach, wherever its channel goes on.  What a stream delivers is
right as long as neither happens.
-/

namespace WhatsGoingOn
namespace Host

open Broadcast

/-! ## Output after the exit -/

/-- Whether a step records a chunk of a session that has exited. -/
def recordsAfterExit (index : Nat) (state : TerminalRun) :
    TerminalHistoryEvent → Bool
  | .advance place (.proceed _) =>
      match state.tasks[place]? with
      | some (.recordingTo _ target bytes) =>
          decide (target = index) &&
            (state.shared.objects[target]?).any fun session =>
              !(session.closed || bytes.isEmpty) && session.info.exit.isSome
      | _ => false
  | _ => false

/-- From some place on the channel tells of no chunk, and there will be none:
the session has exited. -/
structure Over (session : TerminalSession) (place : Nat) : Prop where
  exited : session.info.exit.isSome = true
  silent : outputOf (session.outputTx.drop place) = []

/-- Every exit that the channel tells of since some place is the end of the
output. -/
structure ExitLast (session : TerminalSession) (place : Nat) : Prop where
  last : ∀ {position : Nat} {event : TerminalEvent}, place ≤ position →
    session.outputTx[position]? = some event → event.exits = true →
      Over session position
  inside : place ≤ session.outputTx.length

/-- What is over stays over while no output is sent. -/
theorem Over.leaves
    {session changed : TerminalSession} {events : List TerminalEvent}
    {place : Nat} (ended : Over session place)
    (inside : place ≤ session.outputTx.length)
    (sent : changed.outputTx = session.outputTx ++ events)
    (plain : ∀ event ∈ events, event.plain)
    (exit : changed.info.exit = session.info.exit) :
    Over changed place where
  exited := by rw [exit]; exact ended.exited
  silent := by
    rw [sent, List.drop_append_of_le_length inside, outputOf_append,
      ended.silent, outputOf_of_plain plain]
    rfl

theorem over_unfinished
    {session : TerminalSession} (running : session.info.exit = none)
    (place : Nat) : ¬Over session place := by
  intro ended
  have exited := ended.exited
  rw [running] at exited
  cases exited

/-- Unless a chunk is recorded after the exit, what is over stays so, and an
exit remains the last of the output. -/
theorem ExitLast.step
    {windows : Bool} {state : TerminalRun} {event : TerminalHistoryEvent}
    {index place : Nat} {session changed : TerminalSession}
    (last : ExitLast session place)
    (found : state.shared.objects[index]? = some session)
    (timely : recordsAfterExit index state event = false)
    (step : SessionStep windows state event index session changed) :
    ExitLast changed place ∧ (Over session place → Over changed place) := by
  rcases step with rfl | ⟨actor, answers, task, after, rfl, acting, lock,
    effect⟩
  · exact ⟨last, id⟩
  · have grows := effect.output.grows
    have inside := last.inside.trans grows.length_le
    cases effect.output with
    | leaves _ _ events sent plain buffer retained latest exit =>
        refine ⟨⟨?_, inside⟩, fun ended =>
          ended.leaves last.inside sent plain exit⟩
        intro position event after lookup exits
        rw [sent] at lookup
        rcases Nat.lt_or_ge position session.outputTx.length with
          early | late
        · rw [List.getElem?_append_left early] at lookup
          exact (last.last after lookup exits).leaves (Nat.le_of_lt early)
            sent plain exit
        · rw [List.getElem?_append_right late] at lookup
          rw [event.exits_of_plain
            (plain event (List.mem_of_getElem? lookup))] at exits
          cases exits
    | records terminalSessionId target bytes _ events accepted sent plain
        retention latest exit =>
        cases lock
        have running : session.info.exit = none := by
          simpa only [recordsAfterExit, acting, found, accepted,
            decide_true, Option.any_some, Bool.true_and, Bool.not_false,
            Option.isSome_eq_false_iff, Option.isNone_iff_eq_none]
            using timely
        have unfinished := over_unfinished running
        refine ⟨⟨?_, inside⟩, fun ended => absurd ended (unfinished place)⟩
        intro position event after lookup exits
        rw [sent] at lookup
        rcases Nat.lt_or_ge position session.outputTx.length with
          early | late
        · rw [List.getElem?_append_left early] at lookup
          exact absurd (last.last after lookup exits) (unfinished position)
        · rw [List.getElem?_append_right late] at lookup
          have member := List.mem_of_getElem? lookup
          rcases List.mem_cons.mp member with rfl | member
          · cases exits
          · rw [event.exits_of_plain (plain event member)] at exits
            cases exits
    | marks _ status _ exit running sent buffer retained latest exited =>
        have unfinished := over_unfinished running
        refine ⟨⟨?_, inside⟩, fun ended => absurd ended (unfinished place)⟩
        intro position event after lookup exits
        rw [sent] at lookup
        rcases Nat.lt_or_ge position session.outputTx.length with
          early | late
        · rw [List.getElem?_append_left early] at lookup
          exact absurd (last.last after lookup exits) (unfinished position)
        · refine ⟨by rw [exited]; rfl, ?_⟩
          rw [sent, List.drop_append, List.drop_eq_nil_of_le late,
            List.nil_append]
          apply List.filterMap_eq_nil_iff.mpr
          intro event member
          rw [List.mem_singleton.mp (List.mem_of_mem_drop member)]
          rfl

section Ends

variable {task rpcSessionId index nowMs : Nat}
  {request : AttachTerminalSessionReq} {attachId : String}
  {session final : TerminalSession} {stream : AttachStream}
  {state : TerminalRun}

/-- A stream that has told of the exit has written all that it began with, and
its channel tells of no more output. -/
theorem KeepsUp.exhausted
    (keeps : KeepsUp task
      (session.attachedStream request rpcSessionId index attachId nowMs)
      session.outputTx state stream final)
    (output : OutputRecorded session)
    (last : ExitLast final session.outputTx.length)
    (ended : session.info.exit.isSome = true →
      Over final session.outputTx.length)
    {event : TerminalEvent} (told : event ∈ stream.delivered)
    (exits : event.exits = true) :
    stream.pending = [] ∧
      outputOf (final.outputTx.drop stream.place) = [] := by
  have replay : ∀ event ∈ session.replayEvents request.afterSeq,
      event.exits = false := by
    rw [output.replayEvents_eq_append, List.forall_mem_append]
    constructor
    · split
      · simp [TerminalEvent.exits]
      · simp
    · intro event member
      obtain ⟨record, -, rfl⟩ := List.mem_map.mp member
      rfl
  have delivers : stream.delivered ++ stream.pending =
      (TerminalEvent.attached attachId session.info.primaryAttachId
          { session.info with lastAttachedAtMs := some nowMs } ::
        session.replayEvents request.afterSeq ++
          (session.info.exit.map TerminalEvent.sessionExited).toList) ++
        between final.outputTx session.outputTx.length stream.place :=
    keeps.delivers
  cases exit : session.info.exit with
  | some status =>
      have ended := ended (by rw [exit]; rfl)
      refine ⟨?_, outputOf_drop_eq_nil ended.silent keeps.onward⟩
      rcases keeps.live with written | same
      · exact written
      · have place : stream.place = session.outputTx.length := same
        rw [place, between_self, List.append_nil, exit] at delivers
        have shape : stream.delivered <+:
            (TerminalEvent.attached attachId session.info.primaryAttachId
              { session.info with lastAttachedAtMs := some nowMs } ::
            session.replayEvents request.afterSeq) ++
              [.sessionExited status] := ⟨stream.pending, delivers⟩
        rcases List.prefix_concat_iff.mp shape with whole | part
        · rw [whole] at delivers
          exact List.append_right_eq_self.mp delivers
        · rcases List.mem_cons.mp (part.subset told) with rfl | member
          · cases exits
          · rw [replay event member] at exits
            cases exits
  | none =>
      have member : event ∈ stream.delivered ++ stream.pending :=
        List.mem_append_left _ told
      rw [delivers, exit] at member
      have read : event ∈ between final.outputTx session.outputTx.length
          stream.place := by
        rcases List.mem_append.mp member with early | late
        · simp only [Option.map_none, Option.toList_none, List.append_nil,
            List.mem_cons] at early
          rcases early with rfl | early
          · cases exits
          · rw [replay event early] at exits
            cases exits
        · exact late
      obtain ⟨position, after, early, lookup⟩ := exists_of_mem_between read
      have ended := last.last after lookup exits
      refine ⟨?_, outputOf_drop_eq_nil ended.silent (Nat.le_of_lt early)⟩
      rcases keeps.live with written | same
      · exact written
      · have place : stream.place = session.outputTx.length := same
        omega

/-- Such a stream has delivered every chunk after its start that is
recorded. -/
theorem KeepsUp.delivered_of_exhausted
    (keeps : KeepsUp task
      (session.attachedStream request rpcSessionId index attachId nowMs)
      session.outputTx state stream final)
    (output : OutputRecorded session)
    (written : stream.pending = [])
    (silent : outputOf (final.outputTx.drop stream.place) = [])
    {record : OutputRecord} (recorded : record ∈ final.recorded)
    (after : ∀ seq, request.afterSeq = some seq → seq < record.seq)
    (retained : session.oldestRetained ≤ record.seq) :
    TerminalSession.chunkEvent record ∈ stream.delivered := by
  have delivers := keeps.delivers
  rw [written, List.append_nil] at delivers
  rw [delivers]
  rw [keeps.recorded_eq, silent, List.append_nil] at recorded
  apply List.mem_append.mpr
  rcases List.mem_append.mp recorded with early | late
  · left
    have buffered := output.mem_outputBuffer early retained
    apply List.mem_append_left
    apply List.mem_cons_of_mem
    change _ ∈ session.replayEvents request.afterSeq
    rw [output.replayEvents_eq_append]
    apply List.mem_append_right
    apply List.mem_map_of_mem
    apply List.mem_filter.mpr
    refine ⟨buffered, ?_⟩
    cases requested : request.afterSeq with
    | none => rfl
    | some seq => exact decide_eq_true (after seq requested)
  · exact Or.inr (chunkEvent_mem_of_mem_outputOf late)

end Ends

/-- A stream that does not lag, and that tells of the exit of its session, has
delivered all output after its start, unless a chunk is recorded after the
exit. -/
theorem exit_follows_output
    (windows : Bool) (before later : List TerminalHistoryEvent)
    (early state : TerminalRun) (task : Nat)
    (request : AttachTerminalSessionReq) (rpcSessionId index : Nat)
    (attachId : String) (session : TerminalSession)
    (answers : TerminalAnswers)
    (attaches : Attaches windows before early task request rpcSessionId index
      attachId session)
    (continues : run (terminalSystem windows).step early
      (.advance task (.proceed answers) :: later) = some state)
    (prompt : Throughout (terminalSystem windows).step early
      (fun state event => lags task state event = false)
      (.advance task (.proceed answers) :: later))
    (timely : Throughout (terminalSystem windows).step early
      (fun state event => recordsAfterExit index state event = false)
      (.advance task (.proceed answers) :: later)) :
    ∃ current stream final,
      state.tasks[task]? = some current ∧
      current.stream = some stream ∧
      state.shared.objects[index]? = some final ∧
      ((∃ event ∈ stream.delivered, event.exits = true) →
        ∀ record ∈ final.recorded,
          (∀ seq, request.afterSeq = some seq → seq < record.seq) →
          session.oldestRetained ≤ record.seq →
            TerminalSession.chunkEvent record ∈ stream.delivered) := by
  have output : OutputRecorded session :=
    (output_invariant attaches.reached).session attaches.found
  have invariant : ∃ stream final,
      KeepsUp task
        (session.attachedStream request rpcSessionId index attachId
          answers.nowMs)
        session.outputTx state stream final ∧
      ExitLast final session.outputTx.length ∧
      (session.info.exit.isSome = true →
        Over final session.outputTx.length) := by
    obtain ⟨next, taken, rest⟩ := Option.bind_eq_some_iff.mp continues
    apply run_invariant_throughout _ _ rest
      ((prompt.tail taken).and (timely.tail taken))
    · obtain ⟨changed, same, exit, -, on⟩ := attaches.step taken
      refine ⟨_, changed, ⟨on, ?_⟩, ⟨?_, ?_⟩, ?_⟩
      · simp [TerminalSession.attachedStream, AttachStream.start]
      · intro position event after lookup
        have bound := (List.getElem?_eq_some_iff.mp lookup).1
        rw [same] at bound
        omega
      · rw [same]
      · rw [← exit]
        exact fun exited => ⟨exited, by rw [same, List.drop_length]; rfl⟩
    · intro history state event next _ holds conditions taken
      obtain ⟨stream, final, keeps, last, ended⟩ := holds
      obtain ⟨later, changed, kept, change, -⟩ :=
        keeps.step conditions.1 taken
      obtain ⟨last, stays⟩ := last.step keeps.found conditions.2 change
      exact ⟨later, changed, kept, last, fun exited => stays (ended exited)⟩
  obtain ⟨stream, final, keeps, last, ended⟩ := invariant
  obtain ⟨current, stage, holds⟩ := keeps.task
  refine ⟨current, stream, final, stage, holds, keeps.found, ?_⟩
  rintro ⟨event, told, exits⟩ record recorded after retained
  obtain ⟨written, silent⟩ := keeps.exhausted output last ended told exits
  exact keeps.delivered_of_exhausted output written silent recorded after
    retained

/-- A client attaches, and then the exit is recorded and told to it. -/
def exitLastSample : List TerminalHistoryEvent :=
  .advance 2 (.proceed sampleAnswers) ::
    .launch (.childWaiter "terminal-1") ::
      (terminalGoesOn sampleAnswers 3 4 ++ terminalGoesOn sampleAnswers 2 4)

/-- A stream without lag delivers all output before the exit. -/
theorem exit_follows_output_sample :
    ∃ early state session current stream final,
      terminalRun false recordedSample = some early ∧
      early.shared.objects[0]? = some session ∧
      run (terminalSystem false).step early exitLastSample = some state ∧
      state.tasks[2]? = some current ∧
      current.stream = some stream ∧
      state.shared.objects[0]? = some final ∧
      (∃ event ∈ stream.delivered, event.exits = true) ∧
      ∀ record ∈ final.recorded, 1 < record.seq →
        session.oldestRetained ≤ record.seq →
          TerminalSession.chunkEvent record ∈ stream.delivered := by
  have attaching : (terminalRun false recordedSample).map (fun early =>
      (early.tasks[2]?,
        early.shared.objects[0]?.map TerminalSession.closed,
        checkEach (terminalSystem false).step
          (fun state event => !lags 2 state event &&
            !recordsAfterExit 0 state event) early exitLastSample)) =
      some (some (.attachingTo ⟨"terminal-1", some 1, 80, 24⟩ 7 0 "attach-1"),
        some false, true) := by
    rfl
  have ends : (terminalRun false (recordedSample ++ exitLastSample)).map
      (fun state => (state.tasks[2]?.bind TerminalTask.stream).map
        fun stream => stream.delivered.any TerminalEvent.exits) =
      some (some true) := by
    rfl
  obtain ⟨early, reached, values⟩ := Option.map_eq_some_iff.mp attaching
  simp only [Prod.mk.injEq, Option.map_eq_some_iff] at values
  obtain ⟨stage, ⟨session, found, live⟩, checked⟩ := values
  obtain ⟨state, whole, value⟩ := Option.map_eq_some_iff.mp ends
  unfold terminalRun at whole
  rw [run_append, show run _ _ _ = _ from reached] at whole
  have conditions := throughout_of_checkEach checked
  obtain ⟨current, stream, final, task, holds, present, delivered⟩ :=
    exit_follows_output false recordedSample _ early state 2 _ 7 0 "attach-1"
      session sampleAnswers ⟨reached, stage, found, live⟩ whole
      (fun before event after state shape reached => by
        have both := conditions before event after state shape reached
        simp only [Bool.and_eq_true, Bool.not_eq_true'] at both
        exact both.1)
      (fun before event after state shape reached => by
        have both := conditions before event after state shape reached
        simp only [Bool.and_eq_true, Bool.not_eq_true'] at both
        exact both.2)
  rw [task, Option.bind_some, holds, Option.map_some, Option.some.injEq]
    at value
  have told := List.any_eq_true.mp value
  refine ⟨early, state, session, current, stream, final, reached, found,
    whole, task, holds, present, told, ?_⟩
  intro record recorded after retained
  apply delivered told record recorded _ retained
  rintro seq ⟨⟩
  exact after

/-- The program writes and exits, and the reader has not yet recorded what it
has read when a client is about to attach. -/
def unrecordedSample : List TerminalHistoryEvent :=
  sampleSession ++ .launch (.outputReader "terminal-1") ::
    terminalGoesOn sampleAnswers 1 1 ++
    .launch (.attach ⟨"terminal-1", none, 80, 24⟩ 7) ::
      terminalGoesOn sampleAnswers 2 2

/-- The client attaches, the exit is recorded and told to it, and only then the
output is recorded. -/
def exitFirstSample : List TerminalHistoryEvent :=
  .advance 2 (.proceed sampleAnswers) ::
    .launch (.childWaiter "terminal-1") ::
      (terminalGoesOn sampleAnswers 3 4 ++ terminalGoesOn sampleAnswers 2 3 ++
        terminalGoesOn sampleAnswers 1 2)

/-- Output that is recorded after the exit is sent is not delivered. -/
theorem output_lost_after_exit :
    ∃ early state session current stream final,
      Attaches false unrecordedSample early 2 ⟨"terminal-1", none, 80, 24⟩ 7 0
        "attach-1" session ∧
      run (terminalSystem false).step early exitFirstSample = some state ∧
      Throughout (terminalSystem false).step early
        (fun state event => lags 2 state event = false) exitFirstSample ∧
      state.tasks[2]? = some current ∧
      current.stream = some stream ∧
      state.shared.objects[0]? = some final ∧
      (∃ event ∈ stream.delivered, event.exits = true) ∧
      ∃ record ∈ final.recorded, session.oldestRetained ≤ record.seq ∧
        TerminalSession.chunkEvent record ∉ stream.delivered := by
  have attaching : (terminalRun false unrecordedSample).map (fun early =>
      (early.tasks[2]?,
        early.shared.objects[0]?.map fun session =>
          (session.closed, session.oldestRetained),
        checkEach (terminalSystem false).step
          (fun state event => !lags 2 state event) early exitFirstSample)) =
      some (some (.attachingTo ⟨"terminal-1", none, 80, 24⟩ 7 0 "attach-1"),
        some (false, 1), true) := by
    rfl
  have ends : (terminalRun false (unrecordedSample ++ exitFirstSample)).map
      (fun state =>
        (state.shared.objects[0]?.map TerminalSession.recorded,
          (state.tasks[2]?.bind TerminalTask.stream).map fun stream =>
            (stream.delivered.any TerminalEvent.exits,
              stream.delivered.contains (.outputChunk 1 [104, 105])))) =
      some (some [⟨1, [104, 105]⟩], some (true, false)) := by
    rfl
  obtain ⟨early, reached, values⟩ := Option.map_eq_some_iff.mp attaching
  simp only [Prod.mk.injEq, Option.map_eq_some_iff] at values
  obtain ⟨stage, ⟨session, found, live, oldest⟩, checked⟩ := values
  obtain ⟨state, whole, values⟩ := Option.map_eq_some_iff.mp ends
  simp only [Prod.mk.injEq, Option.map_eq_some_iff, Option.bind_eq_some_iff]
    at values
  obtain ⟨⟨final, present, recorded⟩, stream, ⟨current, task, holds⟩, told,
    missing⟩ := values
  unfold terminalRun at whole reached
  rw [run_append, reached] at whole
  refine ⟨early, state, session, current, stream, final,
    ⟨reached, stage, found, live⟩, whole, ?_, task, holds, present,
    List.any_eq_true.mp told, ⟨1, [104, 105]⟩, ?_, ?_, ?_⟩
  · exact throughout_of_checkEach_eq_false checked
  · rw [recorded]
    exact List.mem_singleton_self _
  · exact Nat.le_of_eq oldest
  · intro member
    have present : stream.delivered.contains (.outputChunk 1 [104, 105]) =
        true := List.contains_iff_mem.mpr member
    rw [present] at missing
    cases missing

/-! ## The gaps that a stream reports -/

/-- The numbers of the gaps that some events report. -/
def gapNumbers (events : List TerminalEvent) : List Nat :=
  events.filterMap TerminalEvent.gap

/-- Whether a number is that of the first chunk that some events tell of, if
there is one. -/
def namesNext (nextSeq : Nat) (events : List TerminalEvent) : Bool :=
  (outputOf events).head?.all fun record => decide (record.seq = nextSeq)

/-- Whether each gap names the number of the next chunk. -/
def gapsNamed : List TerminalEvent → Bool
  | [] => true
  | event :: later =>
      (event.gap.all fun nextSeq => namesNext nextSeq later) &&
        gapsNamed later

/-- The numbers of the gaps after which there is no chunk yet. -/
def openGaps : List TerminalEvent → List Nat
  | [] => []
  | event :: later =>
      (if outputOf later = [] then event.gap.toList else []) ++ openGaps later

section Gaps

variable {early late : List TerminalEvent} {nextSeq : Nat}

theorem namesNext_append :
    namesNext nextSeq (early ++ late) = true ↔
      namesNext nextSeq early = true ∧
        (outputOf early = [] → namesNext nextSeq late = true) := by
  unfold namesNext
  rw [outputOf_append]
  cases outputOf early with
  | nil => simp
  | cons record records => simp

/-- A gap is open as long as no output follows it. -/
theorem mem_openGaps_append :
    nextSeq ∈ openGaps (early ++ late) ↔
      (nextSeq ∈ openGaps early ∧ outputOf late = []) ∨
        nextSeq ∈ openGaps late := by
  induction early with
  | nil => simp [openGaps]
  | cons event early inductionHypothesis =>
      simp only [List.cons_append, openGaps, outputOf_append,
        List.append_eq_nil_iff, List.mem_append, inductionHypothesis]
      by_cases silent : outputOf late = []
      · simp only [silent, and_true]
        split <;> tauto
      · simp [silent]

/-- Gaps are named in two parts of a history if they are in each, and those
open after the first are named in the second. -/
theorem gapsNamed_append :
    gapsNamed (early ++ late) = true ↔
      gapsNamed early = true ∧ gapsNamed late = true ∧
        ∀ nextSeq ∈ openGaps early, namesNext nextSeq late = true := by
  induction early with
  | nil => simp [gapsNamed, openGaps]
  | cons event early inductionHypothesis =>
      simp only [List.cons_append, gapsNamed, Bool.and_eq_true,
        inductionHypothesis, openGaps, List.forall_mem_append]
      cases gap : event.gap with
      | none => simp
      | some number =>
          simp only [Option.all_some, namesNext_append, Option.toList_some]
          split
          · rename_i silent
            simp only [List.forall_mem_singleton, silent, true_implies]
            tauto
          · rename_i tells
            simp only [List.not_mem_nil, false_implies, implies_true, tells,
              true_and, and_true]
            tauto

theorem gapNumbers_append :
    gapNumbers (early ++ late) = gapNumbers early ++ gapNumbers late :=
  List.filterMap_append

theorem gapNumbers_of_gapless
    (gapless : ∀ event ∈ late, event.gap = none) : gapNumbers late = [] :=
  List.filterMap_eq_nil_iff.mpr gapless

/-- Gaps that are open are gaps. -/
theorem openGaps_subset (events : List TerminalEvent) :
    openGaps events ⊆ gapNumbers events := by
  induction events with
  | nil => simp [openGaps]
  | cons event events inductionHypothesis =>
      intro number member
      unfold gapNumbers
      rw [List.filterMap_cons]
      rcases List.mem_append.mp member with here | there
      · split at here
        · cases gap : event.gap with
          | none => simp [gap] at here
          | some first =>
              rw [gap, Option.toList_some, List.mem_singleton] at here
              exact here ▸ List.mem_cons_self
        · cases here
      · have member := inductionHypothesis there
        cases event.gap with
        | none => exact member
        | some first => exact List.mem_cons_of_mem _ member

theorem openGaps_of_gapless
    {events : List TerminalEvent}
    (gapless : ∀ event ∈ events, event.gap = none) : openGaps events = [] := by
  have subset := openGaps_subset events
  rw [gapNumbers_of_gapless gapless] at subset
  exact List.subset_nil.mp subset

theorem gapsNamed_of_gapless
    {events : List TerminalEvent}
    (gapless : ∀ event ∈ events, event.gap = none) :
    gapsNamed events = true := by
  induction events with
  | nil => rfl
  | cons event events inductionHypothesis =>
      rw [List.forall_mem_cons] at gapless
      unfold gapsNamed
      rw [gapless.1, inductionHypothesis gapless.2]
      rfl

end Gaps

/-- What a stream has written, is about to write, and can still read. -/
def AttachStream.whole (stream : AttachStream) (session : TerminalSession) :
    List TerminalEvent :=
  stream.delivered ++ (stream.pending ++ session.outputTx.drop stream.place)

/-- The gaps in all that a stream may deliver are named.  Those still open name
the next chunk that the session will record. -/
structure GapsHold (stream : AttachStream) (session : TerminalSession) :
    Prop where
  named : gapsNamed (stream.whole session) = true
  next : ∀ nextSeq ∈ openGaps (stream.whole session),
    nextSeq = session.info.latestOutputSeq + 1
  ordered : (gapNumbers (stream.whole session)).Pairwise (· ≤ ·)
  bounded : ∀ nextSeq ∈ gapNumbers (stream.whole session),
    nextSeq ≤ stream.attached.session.latestOutputSeq + 1

/-- What a session sends has no gap, and at most one chunk, which has the next
number. -/
theorem OutputEffect.sends
    {session changed : TerminalSession} {task : TerminalTask}
    (effect : OutputEffect session task changed) :
    ∃ events, changed.outputTx = session.outputTx ++ events ∧
      (∀ event ∈ events, event.gap = none) ∧
      ((outputOf events = [] ∧
          changed.info.latestOutputSeq = session.info.latestOutputSeq) ∨
        ∃ record : OutputRecord, outputOf events = [record] ∧
          record.seq = session.info.latestOutputSeq + 1) := by
  cases effect with
  | leaves task changed events sent plain buffer retained latest exit =>
      exact ⟨events, sent, fun event member =>
        event.gap_of_plain (plain event member),
        Or.inl ⟨outputOf_of_plain plain, latest⟩⟩
  | records terminalSessionId index bytes changed events accepted sent plain
      retention latest exit =>
      refine ⟨_, sent, ?_, Or.inr ⟨⟨_, bytes⟩, ?_, rfl⟩⟩
      · rw [List.forall_mem_cons]
        exact ⟨rfl, fun event member =>
          event.gap_of_plain (plain event member)⟩
      · rw [outputOf_cons, outputOf_of_plain plain]
        rfl
  | marks index status changed exit running sent buffer retained latest
      exited =>
      exact ⟨_, sent, by simp [TerminalEvent.gap], Or.inl ⟨rfl, latest⟩⟩

/-- What the session sends keeps it. -/
theorem GapsHold.sent
    {stream : AttachStream} {session changed : TerminalSession}
    {task : TerminalTask} (holds : GapsHold stream session)
    (inside : stream.place ≤ session.outputTx.length)
    (effect : OutputEffect session task changed) :
    GapsHold stream changed := by
  obtain ⟨events, sent, gapless, output⟩ := effect.sends
  have whole : stream.whole changed = stream.whole session ++ events := by
    unfold AttachStream.whole
    rw [sent, List.drop_append_of_le_length inside]
    simp
  have numbers : gapNumbers (stream.whole changed) =
      gapNumbers (stream.whole session) := by
    rw [whole, gapNumbers_append, gapNumbers_of_gapless gapless,
      List.append_nil]
  have closed := openGaps_of_gapless gapless
  refine ⟨?_, ?_, by rw [numbers]; exact holds.ordered,
    by rw [numbers]; exact holds.bounded⟩
  · rw [whole, gapsNamed_append]
    refine ⟨holds.named, gapsNamed_of_gapless gapless, ?_⟩
    intro nextSeq member
    have same := holds.next nextSeq member
    rcases output with ⟨silent, -⟩ | ⟨record, tells, number⟩
    · simp [namesNext, silent]
    · simp [namesNext, tells, number, same]
  · intro nextSeq member
    rw [whole, mem_openGaps_append, closed] at member
    rcases member with ⟨member, silent⟩ | member
    · rcases output with ⟨-, latest⟩ | ⟨record, tells, -⟩
      · rw [latest]
        exact holds.next nextSeq member
      · rw [tells] at silent
        cases silent
    · cases member

/-- Writing and reading keep it. -/
theorem GapsHold.moved
    {stream later : AttachStream} {session : TerminalSession}
    (holds : GapsHold stream session)
    (effect : StreamEffect session stream later) :
    GapsHold later session := by
  have keeps (same : later.whole session = stream.whole session)
      (attached : later.attached = stream.attached) :
      GapsHold later session :=
    ⟨by rw [same]; exact holds.named, by rw [same]; exact holds.next,
      by rw [same]; exact holds.ordered,
      by rw [same, attached]; exact holds.bounded⟩
  cases effect with
  | rests => exact holds
  | replays event pending first =>
      apply keeps _ rfl
      simp [AttachStream.whole, first]
  | receives event written found =>
      apply keeps _ rfl
      obtain ⟨inside, value⟩ := List.getElem?_eq_some_iff.mp found
      simp only [AttachStream.whole, written, List.nil_append,
        List.append_assoc]
      rw [List.drop_eq_getElem_cons inside, value]
      rfl

/-- A lag keeps it that misses no output since the attach. -/
theorem GapsHold.resumed
    {stream : AttachStream} {session : TerminalSession} {place : Nat}
    (holds : GapsHold stream session) (output : OutputRecorded session)
    (written : stream.pending = [])
    (attached : stream.attached.receiver ≤ stream.place)
    (onward : stream.place ≤ place)
    (count : (outputOf
      (session.outputTx.take stream.attached.receiver)).length =
        stream.attached.session.latestOutputSeq)
    (silent : outputOf (between session.outputTx stream.attached.receiver
      place) = []) :
    GapsHold (stream.resume place) session := by
  -- The output that can still be read is the same at the place where the
  -- stream goes on.
  have skipped : outputOf (between session.outputTx stream.place place) =
      [] := by
    unfold between at silent ⊢
    exact outputOf_drop_eq_nil silent attached
  have remaining : outputOf (session.outputTx.drop stream.place) =
      outputOf (session.outputTx.drop place) := by
    rw [drop_eq_between_append onward, outputOf_append, skipped,
      List.nil_append]
  have recorded : session.recorded =
      outputOf (session.outputTx.take stream.attached.receiver) ++
        outputOf (session.outputTx.drop place) := by
    have whole := take_append_between (attached.trans onward)
      session.outputTx
    have outputs := congrArg outputOf whole
    rw [outputOf_append, outputOf_append, silent, List.nil_append] at outputs
    exact outputs.symm
  have gapless : ∀ event ∈ session.outputTx.drop place, event.gap = none :=
    fun event member => output.gapless event (List.mem_of_mem_drop member)
  have closed := openGaps_of_gapless gapless
  have before : stream.whole session =
      stream.delivered ++ session.outputTx.drop stream.place := by
    simp [AttachStream.whole, written]
  have after : (stream.resume place).whole session = stream.delivered ++
      (.historyGap (stream.attached.session.latestOutputSeq + 1) ::
        session.outputTx.drop place) := by
    simp [AttachStream.whole, AttachStream.resume, written]
  have named := holds.named
  rw [before, gapsNamed_append] at named
  have numbers : gapNumbers ((stream.resume place).whole session) =
      gapNumbers stream.delivered ++
        [stream.attached.session.latestOutputSeq + 1] := by
    rw [after, gapNumbers_append]
    congr 1
    change _ :: gapNumbers (session.outputTx.drop place) = _
    rw [gapNumbers_of_gapless gapless]
  have earlier : gapNumbers (stream.whole session) =
      gapNumbers stream.delivered := by
    rw [before, gapNumbers_append, gapNumbers_of_gapless (fun event member =>
      output.gapless event (List.mem_of_mem_drop member)), List.append_nil]
  have bounded : ∀ nextSeq ∈ gapNumbers stream.delivered,
      nextSeq ≤ stream.attached.session.latestOutputSeq + 1 := by
    rw [← earlier]
    exact holds.bounded
  refine ⟨?_, ?_, ?_, ?_⟩
  · rw [after, gapsNamed_append]
    refine ⟨named.1, ?_, ?_⟩
    · simp only [gapsNamed, TerminalEvent.gap, Option.all_some,
        Bool.and_eq_true]
      refine ⟨?_, gapsNamed_of_gapless gapless⟩
      have numbers := output.numbered
      unfold namesNext
      cases next : outputOf (session.outputTx.drop place) with
      | nil => rfl
      | cons record records =>
          rw [recorded, next, List.map_append, List.map_cons] at numbers
          have value := congrArg
            (·[stream.attached.session.latestOutputSeq]?) numbers
          simp only [← count, List.length_map, List.getElem?_append_right,
            Nat.le_refl, Nat.sub_self, List.getElem?_cons_zero] at value
          obtain ⟨_, value⟩ := List.getElem?_eq_some_iff.mp value.symm
          rw [List.getElem_range', count] at value
          apply decide_eq_true
          omega
    · intro nextSeq member
      have first := named.2.2 nextSeq member
      unfold namesNext at first ⊢
      rw [remaining] at first
      exact first
  · intro nextSeq member
    rw [after, mem_openGaps_append] at member
    rcases member with ⟨member, silent⟩ | member
    · apply holds.next nextSeq
      rw [before, mem_openGaps_append, remaining]
      exact Or.inl ⟨member, silent⟩
    · simp only [openGaps, closed, List.append_nil, TerminalEvent.gap,
        Option.toList_some] at member
      split at member
      · rename_i exhausted
        have all := output.length_recorded
        rw [recorded, exhausted, List.append_nil, count] at all
        rw [List.mem_singleton.mp member, all]
      · cases member
  · rw [numbers, List.pairwise_append]
    refine ⟨?_, List.pairwise_singleton _ _, ?_⟩
    · rw [← earlier]
      exact holds.ordered
    · intro nextSeq member last equal
      rw [List.mem_singleton] at equal
      rw [equal]
      exact bounded nextSeq member
  · rw [numbers]
    intro nextSeq member
    rcases List.mem_append.mp member with early | late
    · exact bounded nextSeq early
    · exact Nat.le_of_eq (List.mem_singleton.mp late)

/-- The replay names its gap. -/
theorem OutputRecorded.replay_gaps
    {session : TerminalSession} (output : OutputRecorded session)
    (afterSeq : Option Nat) :
    gapsNamed (session.replayEvents afterSeq) = true ∧
      openGaps (session.replayEvents afterSeq) = [] ∧
      (gapNumbers (session.replayEvents afterSeq)).Pairwise (· ≤ ·) ∧
      ∀ nextSeq ∈ gapNumbers (session.replayEvents afterSeq),
        nextSeq ≤ session.info.latestOutputSeq + 1 := by
  obtain ⟨-, numbers, -, most⟩ := output.retained_eq_drop
  have chunks (records : List OutputRecord) :
      ∀ event ∈ records.map TerminalSession.chunkEvent, event.gap = none := by
    intro event member
    obtain ⟨record, -, rfl⟩ := List.mem_map.mp member
    rfl
  rw [output.replayEvents_eq_append]
  cases misses : session.misses afterSeq with
  | false =>
      simp only [Bool.false_eq_true, if_false, List.nil_append]
      refine ⟨gapsNamed_of_gapless (chunks _),
        openGaps_of_gapless (chunks _), ?_, ?_⟩
      · rw [gapNumbers_of_gapless (chunks _)]
        exact List.Pairwise.nil
      · rw [gapNumbers_of_gapless (chunks _)]
        simp
  | true =>
      obtain ⟨seq, rfl, late⟩ : ∃ seq, afterSeq = some seq ∧
          seq + 1 < session.oldestRetained := by
        simpa [TerminalSession.misses, Option.any_eq_true_iff_get,
          Option.eq_some_iff_get_eq] using misses
      have all : seq + 1 - session.oldestRetained = 0 := by omega
      simp only [if_true, Option.map_some, Option.getD_some,
        filter_after numbers, all, List.drop_zero, List.singleton_append]
      cases buffer : session.outputBuffer with
      | nil =>
          unfold TerminalSession.oldestRetained at late
          rw [output.present buffer, buffer] at late
          simp at late
      | cons record records =>
          rw [buffer] at numbers
          have first : record.seq = session.oldestRetained := by
            simp only [List.map_cons, List.length_cons, List.range'_succ,
              List.cons.injEq] at numbers
            exact numbers.1
          have gapless := chunks (record :: records)
          have numbers : gapNumbers (.historyGap session.oldestRetained ::
              (record :: records).map TerminalSession.chunkEvent) =
                [session.oldestRetained] := by
            change _ :: gapNumbers _ = _
            rw [gapNumbers_of_gapless gapless]
          refine ⟨?_, ?_, ?_, ?_⟩
          · simp only [gapsNamed, TerminalEvent.gap, Option.all_some,
              Bool.and_eq_true]
            refine ⟨?_, gapsNamed_of_gapless gapless⟩
            unfold namesNext
            rw [outputOf_chunkEvents]
            exact decide_eq_true first
          · unfold openGaps
            rw [openGaps_of_gapless gapless, outputOf_chunkEvents,
              if_neg (by simp)]
            rfl
          · rw [numbers]
            exact List.pairwise_singleton _ _
          · rw [numbers]
            simpa using most

/-- An attach stream begins with its gaps named. -/
theorem GapsHold.start
    {session changed : TerminalSession} {request : AttachTerminalSessionReq}
    {rpcSessionId index nowMs : Nat} {attachId : String}
    (output : OutputRecorded session)
    (same : changed.outputTx = session.outputTx) :
    GapsHold (session.attachedStream request rpcSessionId index attachId
      nowMs) changed := by
  obtain ⟨named, closed, ordered, bounded⟩ :=
    output.replay_gaps request.afterSeq
  have exits : ∀ event ∈
      (session.info.exit.map TerminalEvent.sessionExited).toList,
      event.gap = none := by
    cases session.info.exit with
    | none => simp
    | some exit => simp [TerminalEvent.gap]
  have whole : (session.attachedStream request rpcSessionId index attachId
      nowMs).whole changed =
        .attached attachId session.info.primaryAttachId
          { session.info with lastAttachedAtMs := some nowMs } ::
        (session.replayEvents request.afterSeq ++
          (session.info.exit.map TerminalEvent.sessionExited).toList) := by
    simp [AttachStream.whole, TerminalSession.attachedStream,
      AttachStream.start, same]
  have none := openGaps_of_gapless exits
  have numbers : gapNumbers ((session.attachedStream request rpcSessionId
      index attachId nowMs).whole changed) =
        gapNumbers (session.replayEvents request.afterSeq) := by
    rw [whole]
    change gapNumbers (_ ++ _) = _
    rw [gapNumbers_append, gapNumbers_of_gapless exits, List.append_nil]
  refine ⟨?_, ?_, ?_, ?_⟩
  · rw [whole]
    simp only [gapsNamed, TerminalEvent.gap, Option.all_none, Bool.true_and]
    rw [gapsNamed_append]
    refine ⟨named, gapsNamed_of_gapless exits, ?_⟩
    rw [closed]
    simp
  · rw [whole]
    intro nextSeq member
    simp only [openGaps, TerminalEvent.gap, Option.toList_none, ite_self,
      List.nil_append, mem_openGaps_append, closed, none, List.not_mem_nil,
      false_and, or_self] at member
  · rw [numbers]
    exact ordered
  · rw [numbers]
    exact bounded

/-- Whether the stream of a task lags in a step, and goes on after output that
it has missed since its attach. -/
def lagsPastOutput (task : Nat) (state : TerminalRun)
    (event : TerminalHistoryEvent) : Bool :=
  (streamOf task state event).any fun (stream, session) =>
    stream.behind session &&
      !(outputOf (between session.outputTx stream.attached.receiver
        (session.outputTx.length - terminalEventChannelCapacity))).isEmpty

/-- The gaps that an attach stream reports name the next chunk that it
delivers, and never go back, unless the stream lags past output since its
attach. -/
theorem gaps_name_next_chunk
    (windows : Bool) (before later : List TerminalHistoryEvent)
    (early state : TerminalRun) (task : Nat)
    (request : AttachTerminalSessionReq) (rpcSessionId index : Nat)
    (attachId : String) (session : TerminalSession)
    (answers : TerminalAnswers)
    (attaches : Attaches windows before early task request rpcSessionId index
      attachId session)
    (continues : run (terminalSystem windows).step early
      (.advance task (.proceed answers) :: later) = some state)
    (condition : Throughout (terminalSystem windows).step early
      (fun state event => lagsPastOutput task state event = false)
      (.advance task (.proceed answers) :: later)) :
    ∃ current stream,
      state.tasks[task]? = some current ∧
      current.stream = some stream ∧
      gapsNamed stream.delivered = true ∧
      (gapNumbers stream.delivered).Pairwise (· ≤ ·) := by
  have output : OutputRecorded session :=
    (output_invariant attaches.reached).session attaches.found
  obtain ⟨next, taken, rest⟩ := Option.bind_eq_some_iff.mp continues
  have invariant : ∃ stream final,
      StreamsOn task
        (session.attachedStream request rpcSessionId index attachId
          answers.nowMs)
        session.outputTx state stream final ∧
      OutputRecorded final ∧ GapsHold stream final := by
    have reached : terminalRun windows
        (before ++ [.advance task (.proceed answers)]) = some next :=
      run_concat_eq_some.mpr ⟨early, attaches.reached, taken⟩
    apply run_invariant_throughout _ _ rest (condition.tail taken)
    · obtain ⟨changed, same, -, -, on⟩ := attaches.step taken
      exact ⟨_, changed, on, (output_invariant reached).session on.found,
        .start output same⟩
    · intro history state event after arrived holds condition taken
      obtain ⟨stream, final, on, recorded, gaps⟩ := holds
      obtain ⟨later, changed, kept, change, moved⟩ := on.step taken
      have whole : terminalRun windows
          ((before ++ [.advance task (.proceed answers)]) ++
            (history ++ [event])) = some after := by
        unfold terminalRun
        rw [run_append, show run _ _ _ = _ from reached]
        exact run_concat_eq_some.mpr ⟨state, arrived, taken⟩
      have recordedLater := (output_invariant whole).session kept.found
      obtain ⟨_, effect⟩ := change.output
      refine ⟨later, changed, kept, recordedLater, ?_⟩
      rcases moved with moved | ⟨place, rfl, resumes, reads, behind⟩
      · apply (gaps.moved moved).sent _ effect
        exact (moved.keeps on.onward on.inside on.live).2.2.2.1
      · have written := (AttachStream.behind_iff.mp behind).1
        have late := (AttachStream.behind_iff.mp behind).2.2
        have receiver : stream.attached.receiver = session.outputTx.length :=
          by
            rw [on.attached]
            rfl
        have latest : stream.attached.session.latestOutputSeq =
            session.info.latestOutputSeq := by
          rw [on.attached]
          rfl
        have onward : session.outputTx.length ≤ stream.place := on.onward
        have silent : outputOf (between final.outputTx
            stream.attached.receiver place) = [] := by
          rw [resumes]
          simpa [lagsPastOutput, reads, behind] using condition
        have count : (outputOf (final.outputTx.take
            stream.attached.receiver)).length =
              stream.attached.session.latestOutputSeq := by
          obtain ⟨events, shape⟩ := on.sent
          rw [receiver, latest, ← shape, List.take_left]
          exact output.length_recorded
        have gaps := gaps.resumed recorded written
          (by rw [receiver]; exact onward) (by omega) count silent
        exact gaps.sent (by change place ≤ _; omega) effect
  obtain ⟨stream, final, on, -, gaps⟩ := invariant
  obtain ⟨current, stage, holds⟩ := on.task
  refine ⟨current, stream, stage, holds, ?_, ?_⟩
  · exact (gapsNamed_append.mp gaps.named).1
  · have ordered := gaps.ordered
    unfold AttachStream.whole at ordered
    rw [gapNumbers_append] at ordered
    exact (List.pairwise_append.mp ordered).1

/-- A gap names the output that is delivered next. -/
theorem gaps_name_next_chunk_sample :
    ∃ early state current stream,
      terminalRun false recordedSample = some early ∧
      run (terminalSystem false).step early attachedSample = some state ∧
      state.tasks[2]? = some current ∧
      current.stream = some stream ∧
      gapsNamed stream.delivered = true ∧
      (gapNumbers stream.delivered).Pairwise (· ≤ ·) := by
  have sample : (terminalRun false recordedSample).map (fun early =>
      (early.tasks[2]?, early.shared.objects[0]?.map TerminalSession.closed,
        (run (terminalSystem false).step early attachedSample).isSome,
        checkEach (terminalSystem false).step
          (fun state event => !lagsPastOutput 2 state event) early
          attachedSample)) =
      some (some (.attachingTo ⟨"terminal-1", some 1, 80, 24⟩ 7 0 "attach-1"),
        some false, true, true) := by
    rfl
  obtain ⟨early, reached, values⟩ := Option.map_eq_some_iff.mp sample
  simp only [Prod.mk.injEq, Option.map_eq_some_iff] at values
  obtain ⟨stage, ⟨session, found, live⟩, possible, checked⟩ := values
  obtain ⟨state, continues⟩ := Option.isSome_iff_exists.mp possible
  obtain ⟨current, stream, task, holds, named, ordered⟩ :=
    gaps_name_next_chunk false recordedSample _ early state 2 _ 7 0 "attach-1"
      session sampleAnswers ⟨reached, stage, found, live⟩ continues
      (throughout_of_checkEach_eq_false checked)
  exact ⟨early, state, current, stream, reached, continues, task, holds,
    named, ordered⟩

/-- A reader records a chunk in three steps. -/
theorem reader_records_chunk
    {state : TerminalRun} {place index : Nat} {terminalSessionId : String}
    {session : TerminalSession}
    (stage : state.tasks[place]? = some (.reading terminalSessionId))
    (found : state.shared.getSession terminalSessionId = some index)
    (present : state.shared.objects[index]? = some session)
    (live : session.closed = false)
    (parser : session.metadataParser = .new) :
    ∃ next changed,
      run (terminalSystem false).step state
        (terminalGoesOn sampleAnswers place 3) = some next ∧
      next.tasks = state.tasks ∧
      next.shared.sessions = state.shared.sessions ∧
      next.shared.objects[index]? = some changed ∧
      changed.closed = false ∧
      changed.metadataParser = .new ∧
      changed.info.latestOutputSeq = session.info.latestOutputSeq + 1 ∧
      changed.outputTx = session.outputTx ++
        [.outputChunk (session.info.latestOutputSeq + 1) [104, 105]] := by
  have inside : place < state.tasks.length :=
    (List.getElem?_eq_some_iff.mp stage).1
  have within : index < state.shared.objects.length :=
    (List.getElem?_eq_some_iff.mp present).1
  have silent : session.metadataParser.push false [104, 105] = (.new, []) := by
    rw [parser]
    rfl
  have recorded : ∃ changed, session.recordOutput false [104, 105] 5 =
        some (changed, none) ∧
      changed.closed = false ∧
      changed.metadataParser = .new ∧
      changed.info.latestOutputSeq = session.info.latestOutputSeq + 1 ∧
      changed.outputTx = session.outputTx ++
        [.outputChunk (session.info.latestOutputSeq + 1) [104, 105]] := by
    simp only [TerminalSession.recordOutput, live, silent,
      TerminalSession.learnAll, List.isEmpty_cons, Bool.or_self,
      Bool.false_eq_true, if_false, List.foldl_nil, Option.some.injEq,
      Prod.mk.injEq, and_true, exists_eq_left']
    exact ⟨trivial, trivial, trivial, rfl⟩
  obtain ⟨changed, records, rest⟩ := recorded
  refine ⟨⟨state.shared.setSession index changed, state.tasks⟩, changed, ?_,
    rfl, rfl, List.getElem?_set_self within, rest⟩
  have read : (terminalSystem false).step state
      (.advance place (.proceed sampleAnswers)) =
        some ⟨state.shared, state.tasks.set place
          (.recording terminalSessionId [104, 105])⟩ := by
    simp [TaskSystem.step, stage, terminalSystem, advanceTerminal,
      TerminalTask.lockOf, TerminalTask.unlocked, sampleAnswers]
  have looked : (terminalSystem false).step
      ⟨state.shared, state.tasks.set place
        (.recording terminalSessionId [104, 105])⟩
      (.advance place (.proceed sampleAnswers)) =
        some ⟨state.shared, state.tasks.set place
          (.recordingTo terminalSessionId index [104, 105])⟩ := by
    simp [TaskSystem.step, inside, terminalSystem, advanceTerminal,
      TerminalTask.lockOf, TerminalTask.unlocked, TerminalTask.withSession,
      found]
  have wrote : (terminalSystem false).step
      ⟨state.shared, state.tasks.set place
        (.recordingTo terminalSessionId index [104, 105])⟩
      (.advance place (.proceed sampleAnswers)) =
        some ⟨state.shared.setSession index changed, state.tasks⟩ := by
    have same : state.tasks.set place (.reading terminalSessionId) =
        state.tasks := by
      obtain ⟨_, value⟩ := List.getElem?_eq_some_iff.mp stage
      rw [← value, List.set_getElem_self]
    simp only [TaskSystem.step, List.getElem?_set_self inside, terminalSystem,
      advanceTerminal, TerminalTask.lockOf, TerminalTask.locked, present,
      Option.bind_some, sampleAnswers, records, Option.map_some,
      List.set_set, same]
  simp [terminalGoesOn, List.replicate, run, read, looked, wrote]

/-- A reader can record any number of chunks. -/
theorem reader_records_chunks
    {state : TerminalRun} {place index : Nat} {terminalSessionId : String}
    {session : TerminalSession} (count : Nat)
    (stage : state.tasks[place]? = some (.reading terminalSessionId))
    (found : state.shared.getSession terminalSessionId = some index)
    (present : state.shared.objects[index]? = some session)
    (live : session.closed = false)
    (parser : session.metadataParser = .new) :
    ∃ history next changed,
      run (terminalSystem false).step state history = some next ∧
      (∀ event ∈ history, event = .advance place (.proceed sampleAnswers)) ∧
      next.tasks = state.tasks ∧
      next.shared.objects[index]? = some changed ∧
      changed.outputTx = session.outputTx ++
        (List.range' (session.info.latestOutputSeq + 1) count).map
          fun seq => .outputChunk seq [104, 105] := by
  induction count generalizing state session with
  | zero => exact ⟨[], state, session, rfl, by simp, rfl, present, by simp⟩
  | succ count inductionHypothesis =>
      obtain ⟨middle, recorded, taken, tasks, sessions, there, open', parsed,
        latest, sent⟩ :=
        reader_records_chunk stage found present live parser
      have stays : middle.shared.getSession terminalSessionId =
          some index := by
        unfold TerminalManager.getSession at found ⊢
        rw [sessions]
        exact found
      obtain ⟨history, next, changed, rest, readers, same, last, output⟩ :=
        inductionHypothesis (by rw [tasks]; exact stage) stays there open'
          parsed
      refine ⟨terminalGoesOn sampleAnswers place 3 ++ history, next, changed,
        ?_, ?_, same.trans tasks, last, ?_⟩
      · rw [run_append, taken]
        exact rest
      · rw [List.forall_mem_append]
        exact ⟨fun event member => List.eq_of_mem_replicate member, readers⟩
      · rw [output, sent, latest, List.range'_succ, List.map_cons,
          List.append_assoc]
        rfl

/-- A stream reads what its channel has for it. -/
theorem stream_reads
    {windows : Bool} {manager : TerminalManager} {answers : TerminalAnswers}
    {stream later : AttachStream} {session : TerminalSession}
    {received : Received TerminalEvent} {place : Nat}
    (written : stream.pending = [])
    (running : stream.attached.session.exit = none)
    (found : manager.objects[stream.index]? = some session)
    (got : receive terminalEventChannelCapacity session.outputTx
      stream.place = some (received, place))
    (goesOn : AttachStream.endsWith (stream.eventOf received) = false)
    (delivers : later = { stream with
      place := place
      delivered := stream.delivered ++ [stream.eventOf received] }) :
    advanceTerminal windows manager (.streaming stream) (.proceed answers) =
      some (manager, .streaming later) := by
  simp [delivers, advanceTerminal, TerminalTask.lockOf, TerminalTask.unlocked,
    written, running, found, got, goesOn]

/-- A session with a reader, to which a client is about to attach. -/
def silentSample : List TerminalHistoryEvent :=
  sampleSession ++ .launch (.outputReader "terminal-1") ::
    .launch (.attach ⟨"terminal-1", none, 80, 24⟩ 7) ::
      terminalGoesOn sampleAnswers 2 2

/-- The client attaches, and gets the first event of its stream. -/
def startedSample : List TerminalHistoryEvent :=
  terminalGoesOn sampleAnswers 2 3

/-- The record of the session, as the client gets it. -/
def silentInfo : TerminalSessionInfo :=
  { (TerminalSession.create ⟨80, 24, none, ⟨"sh", []⟩, none⟩ "terminal-1"
      "client" none 5).info with lastAttachedAtMs := some 5 }

/-- Its stream. -/
def startedStream : AttachStream where
  rpcSessionId := 7
  index := 0
  attached :=
    { terminalSessionId := "terminal-1"
      attachId := "attach-1"
      primaryAttachId := none
      session := silentInfo
      replay := []
      receiver := 0 }
  pending := []
  place := 0
  delivered := [.attached "attach-1" none silentInfo]

/-- Its stream, after a lag and the next chunk. -/
def laggedStream : AttachStream :=
  { startedStream with
    place := 3
    delivered := startedStream.delivered ++
      [.historyGap 1] ++ [.outputChunk 3 [104, 105]] }

theorem silentSample_attaches :
    (terminalRun false silentSample).map (fun early =>
      (early.tasks[2]?, early.shared.objects[0]?.map TerminalSession.closed)) =
      some (some (.attachingTo ⟨"terminal-1", none, 80, 24⟩ 7 0 "attach-1"),
        some false) := by
  rfl

theorem startedSample_streams :
    (terminalRun false (silentSample ++ startedSample)).map (fun middle =>
      (middle.tasks[1]?, middle.tasks[2]?,
        middle.shared.getSession "terminal-1")) =
      some (some (.reading "terminal-1"), some (.streaming startedStream),
        some 0) := by
  rfl

theorem startedSample_session :
    (terminalRun false (silentSample ++ startedSample)).map (fun middle =>
      middle.shared.objects[0]?.map fun session =>
        (session.closed, session.metadataParser, session.outputTx,
          session.info.latestOutputSeq)) =
      some (some (false, .new, [], 0)) := by
  rfl

/-- A stream that falls behind while a reader records reports the number of
the first chunk since its attach, and goes on with a later one. -/
theorem lag_misnames_gap :
    ∃ early state session current stream history,
      Attaches false silentSample early 2 ⟨"terminal-1", none, 80, 24⟩ 7 0
        "attach-1" session ∧
      run (terminalSystem false).step early
        (.advance 2 (.proceed sampleAnswers) :: history) = some state ∧
      state.tasks[2]? = some current ∧
      current.stream = some stream ∧
      gapsNamed stream.delivered = false := by
  obtain ⟨early, reached, values⟩ :=
    Option.map_eq_some_iff.mp silentSample_attaches
  simp only [Prod.mk.injEq, Option.map_eq_some_iff] at values
  obtain ⟨stage, session, found, live⟩ := values
  obtain ⟨middle, arrived, values⟩ :=
    Option.map_eq_some_iff.mp startedSample_streams
  simp only [Prod.mk.injEq] at values
  obtain ⟨reading, streaming, registered⟩ := values
  have values := startedSample_session
  rw [arrived] at values
  simp only [Option.map_some, Option.some.injEq, Option.map_eq_some_iff,
    Prod.mk.injEq] at values
  obtain ⟨held, present, opened, parser, sent, latest⟩ := values
  unfold terminalRun at arrived
  rw [run_append, show run _ _ _ = _ from reached, Option.bind_some]
    at arrived
  obtain ⟨history, state, changed, records, -, same, last, output⟩ :=
    reader_records_chunks 4098 reading registered present opened parser
  rw [sent, latest, List.nil_append] at output
  have following : state.tasks[2]? = some (.streaming startedStream) := by
    rw [same]
    exact streaming
  have length : changed.outputTx.length = 4098 := by
    rw [output, List.length_map, List.length_range']
  have inside : 2 < state.tasks.length :=
    (List.getElem?_eq_some_iff.mp following).1
  -- The channel has dropped the first two chunks.
  have lags : receive terminalEventChannelCapacity changed.outputTx 0 =
      some (.lagged 2, 2) := by
    apply receive_eq_lagged.mpr
    rw [length]
    decide
  have third : receive terminalEventChannelCapacity changed.outputTx 2 =
      some (.value (.outputChunk 3 [104, 105]), 3) := by
    apply receive_eq_value.mpr
    refine ⟨by rw [length]; decide, ?_, rfl⟩
    rw [output, List.getElem?_map, List.getElem?_range' (by decide)]
    rfl
  have skips : (terminalSystem false).step state
      (.advance 2 (.proceed sampleAnswers)) =
        some ⟨state.shared,
          state.tasks.set 2 (.streaming (startedStream.resume 2))⟩ := by
    have acted : advanceTerminal false state.shared (.streaming startedStream)
        (.proceed sampleAnswers) =
          some (state.shared, .streaming (startedStream.resume 2)) :=
      stream_reads rfl rfl last lags rfl rfl
    simp [TaskSystem.step, following, terminalSystem, acted]
  have resumes : (terminalSystem false).step
      ⟨state.shared, state.tasks.set 2 (.streaming (startedStream.resume 2))⟩
      (.advance 2 (.proceed sampleAnswers)) =
        some ⟨state.shared, state.tasks.set 2 (.streaming laggedStream)⟩ := by
    have acted : advanceTerminal false state.shared
        (.streaming (startedStream.resume 2)) (.proceed sampleAnswers) =
          some (state.shared, .streaming laggedStream) :=
      stream_reads rfl rfl last third rfl rfl
    simp [TaskSystem.step, inside, terminalSystem, acted]
  refine ⟨early, ⟨state.shared, state.tasks.set 2 (.streaming laggedStream)⟩,
    session, .streaming laggedStream, laggedStream,
    terminalGoesOn sampleAnswers 2 2 ++
      (history ++ terminalGoesOn sampleAnswers 2 2),
    ⟨reached, stage, found, live⟩, ?_, List.getElem?_set_self inside, rfl, ?_⟩
  · have whole : startedSample ++
        (history ++ terminalGoesOn sampleAnswers 2 2) =
          .advance 2 (.proceed sampleAnswers) ::
            (terminalGoesOn sampleAnswers 2 2 ++
              (history ++ terminalGoesOn sampleAnswers 2 2)) := rfl
    rw [← whole, run_append, arrived, Option.bind_some, run_append, records]
    simp [terminalGoesOn, List.replicate, run, skips, resumes]
  · rfl

end Host
end WhatsGoingOn
