import Mathlib.Data.List.Infix
import WhatsGoingOn.Host.TerminalOutput

/-!
# Attach streams

An attach stream writes the retained output first, and then follows the
channel of its session from where that was when it attached.
-/

namespace WhatsGoingOn
namespace Host

open Broadcast

/-! ## What a step does to a stream -/

/-- Whether a stream has fallen behind its channel, so that it misses events
when it reads next. -/
def AttachStream.behind (stream : AttachStream) (session : TerminalSession) :
    Bool :=
  stream.pending.isEmpty && stream.attached.session.exit.isNone &&
    decide (stream.place + terminalEventChannelCapacity <
      session.outputTx.length)

theorem AttachStream.behind_iff
    {stream : AttachStream} {session : TerminalSession} :
    stream.behind session = true ↔
      stream.pending = [] ∧ stream.attached.session.exit = none ∧
        stream.place + terminalEventChannelCapacity <
          session.outputTx.length := by
  simp only [AttachStream.behind, Bool.and_eq_true, List.isEmpty_iff,
    Option.isNone_iff_eq_none, decide_eq_true_eq, and_assoc]

/-- The stream that a step of some task advances, and the session it reads. -/
def streamOf (task : Nat) (state : TerminalRun) :
    TerminalHistoryEvent → Option (AttachStream × TerminalSession)
  | .advance index (.proceed _) =>
      if index = task then
        match state.tasks[index]? with
        | some (.streaming stream) =>
            (state.shared.objects[stream.index]?).map (stream, ·)
        | _ => none
      else none
  | _ => none

/-- Whether the stream of a task lags in a step. -/
def lags (task : Nat) (state : TerminalRun) (event : TerminalHistoryEvent) :
    Bool :=
  (streamOf task state event).any fun (stream, session) =>
    stream.behind session

/-- What a step does to a stream that reads some session. -/
inductive StreamEffect (session : TerminalSession) (stream : AttachStream) :
    AttachStream → Prop
  | rests : StreamEffect session stream stream
  | replays (event : TerminalEvent) (pending : List TerminalEvent)
      (first : stream.pending = event :: pending) :
      StreamEffect session stream
        { stream with
          pending := pending
          delivered := stream.delivered ++ [event] }
  | receives (event : TerminalEvent) (written : stream.pending = [])
      (found : session.outputTx[stream.place]? = some event) :
      StreamEffect session stream
        { stream with
          place := stream.place + 1
          delivered := stream.delivered ++ [event] }

/-- A stream that goes on at a place after a lag. -/
def AttachStream.resume (stream : AttachStream) (place : Nat) : AttachStream :=
  { stream with
    place := place
    delivered := stream.delivered ++
      [.historyGap (stream.attached.session.latestOutputSeq + 1)] }

theorem StreamEffect.after
    {session : TerminalSession} {stream : AttachStream} {followup : Followup}
    {announcement : Announcement}
    (holds : (TerminalTask.announcing announcement followup).stream =
      some stream) :
    ∃ later, (TerminalTask.after followup).stream = some later ∧
      StreamEffect session stream later := by
  cases followup with
  | streaming stream => exact ⟨_, holds, .rests⟩
  | detached stream => exact ⟨_, holds, .rests⟩
  | _ => cases holds

/-- A task keeps its stream.  The stream lags only when it has fallen
behind. -/
theorem TerminalEffect.stream
    {windows : Bool} {manager next : TerminalManager}
    {task after : TerminalTask} {input : TerminalInput}
    {stream : AttachStream} {session : TerminalSession}
    (effect : TerminalEffect windows manager task input next after)
    (holds : task.stream = some stream)
    (found : manager.objects[stream.index]? = some session) :
    ∃ later, after.stream = some later ∧
      (StreamEffect session stream later ∨
        ∃ place answers, later = stream.resume place ∧
          place = session.outputTx.length - terminalEventChannelCapacity ∧
          task = .streaming stream ∧ input = .proceed answers ∧
          stream.behind session = true) := by
  cases effect with
  | locked _ answers index held changed lock present effect =>
      cases effect with
      | detach stream index =>
          cases holds
          exact ⟨_, rfl, Or.inl .rests⟩
      | _ => cases holds
  | unlocked _ answers _ lock effect =>
      cases effect with
      | announce announcement followup =>
          obtain ⟨later, same, effect⟩ := StreamEffect.after holds
          exact ⟨later, same, Or.inl effect⟩
      | quiet _ _ effect =>
          cases effect with
          | replay stream event pending first =>
              cases holds
              exact ⟨_, rfl, Or.inl (.replays event pending first)⟩
          | replayed stream written exited =>
              cases holds
              exact ⟨_, rfl, Or.inl .rests⟩
          | receive stream held received place next _ written running present
              got delivers goes =>
              cases holds
              cases present.symm.trans found
              refine ⟨next, ?_, ?_⟩
              · subst goes
                split <;> rfl
              · subst delivers
                cases received with
                | value event =>
                    obtain ⟨-, lookup, rfl⟩ := receive_eq_value.mp got
                    exact Or.inl (.receives event written lookup)
                | lagged missed =>
                    obtain ⟨late, -, resumes⟩ := receive_eq_lagged.mp got
                    refine Or.inr ⟨place, answers, rfl, resumes, rfl, rfl, ?_⟩
                    exact AttachStream.behind_iff.mpr
                      ⟨written, running, late⟩
          | detachMissing stream unknown =>
              cases holds
              exact ⟨_, rfl, Or.inl .rests⟩
          | detach stream index present =>
              cases holds
              exact ⟨_, rfl, Or.inl .rests⟩
          | _ => cases holds
      | _ => cases holds
  | broken _ error effect =>
      cases effect with
      | streaming stream =>
          cases holds
          exact ⟨_, rfl, Or.inl .rests⟩
      | _ => cases holds

/-! ## Following a stream through a run -/

/-- What a step does to the session with some place: nothing, or what a task
does under its lock. -/
def SessionStep (windows : Bool) (state : TerminalRun)
    (event : TerminalHistoryEvent) (index : Nat)
    (session changed : TerminalSession) : Prop :=
  changed = session ∨
    ∃ place answers task after, event = .advance place (.proceed answers) ∧
      state.tasks[place]? = some task ∧ task.lockOf = some index ∧
      LockedEffect windows session answers task changed after

/-- The output of the session after a step. -/
theorem SessionStep.output
    {windows : Bool} {state : TerminalRun} {event : TerminalHistoryEvent}
    {index : Nat} {session changed : TerminalSession}
    (step : SessionStep windows state event index session changed) :
    ∃ task, OutputEffect session task changed := by
  rcases step with rfl | ⟨place, answers, task, after, -, -, -, effect⟩
  · exact ⟨.opening, .leaves _ _ [] (List.append_nil _).symm (by simp) rfl rfl
      rfl rfl⟩
  · exact ⟨task, effect.output⟩

/-- Nothing is taken from a channel. -/
theorem OutputEffect.grows
    {session changed : TerminalSession} {task : TerminalTask}
    (effect : OutputEffect session task changed) :
    session.outputTx <+: changed.outputTx := by
  cases effect with
  | leaves task changed events sent => exact ⟨_, sent.symm⟩
  | records terminalSessionId index bytes changed events accepted sent =>
      exact ⟨_, sent.symm⟩
  | marks index status changed exit running sent => exact ⟨_, sent.symm⟩

/-- A task streams, since it began with a stream, from a session on whose
channel some events were sent by then. -/
structure StreamsOn (task : Nat) (start : AttachStream)
    (sent : List TerminalEvent) (state : TerminalRun)
    (stream : AttachStream) (session : TerminalSession) : Prop where
  task : ∃ current, state.tasks[task]? = some current ∧
    current.stream = some stream
  found : state.shared.objects[start.index]? = some session
  index : stream.index = start.index
  attached : stream.attached = start.attached
  sent : sent <+: session.outputTx
  onward : start.place ≤ stream.place
  inside : stream.place ≤ session.outputTx.length
  live : stream.pending = [] ∨ stream.place = start.place

/-- What a step leaves of a stream, if it does not lag. -/
theorem StreamEffect.keeps
    {session : TerminalSession} {start stream later : AttachStream}
    (effect : StreamEffect session stream later)
    (onward : start.place ≤ stream.place)
    (inside : stream.place ≤ session.outputTx.length)
    (live : stream.pending = [] ∨ stream.place = start.place) :
    later.index = stream.index ∧ later.attached = stream.attached ∧
      start.place ≤ later.place ∧
      later.place ≤ session.outputTx.length ∧
      (later.pending = [] ∨ later.place = start.place) := by
  cases effect with
  | rests => exact ⟨rfl, rfl, onward, inside, live⟩
  | replays event pending first =>
      refine ⟨rfl, rfl, onward, inside, Or.inr ?_⟩
      rcases live with written | same
      · rw [first] at written
        cases written
      · exact same
  | receives event written found =>
      have bound := (List.getElem?_eq_some_iff.mp found).1
      exact ⟨rfl, rfl, Nat.le_succ_of_le onward, bound, Or.inl written⟩

/-- What a step does to the stream and to its session. -/
theorem StreamsOn.step
    {windows : Bool} {state next : TerminalRun}
    {event : TerminalHistoryEvent} {task : Nat}
    {start stream : AttachStream} {sent : List TerminalEvent}
    {session : TerminalSession}
    (on : StreamsOn task start sent state stream session)
    (taken : (terminalSystem windows).step state event = some next) :
    ∃ later changed, StreamsOn task start sent next later changed ∧
      SessionStep windows state event start.index session changed ∧
      (StreamEffect session stream later ∨
        ∃ place, later = stream.resume place ∧
          place = session.outputTx.length - terminalEventChannelCapacity ∧
          streamOf task state event = some (stream, session) ∧
          stream.behind session = true) := by
  obtain ⟨current, lookup, holds⟩ := on.task
  cases terminal_step taken with
  | launch request =>
      refine ⟨stream, session, ?_, Or.inl rfl, Or.inl .rests⟩
      have inside : task < state.tasks.length :=
        (List.getElem?_eq_some_iff.mp lookup).1
      exact { on with
        task :=
          ⟨current, (List.getElem?_append_left inside).trans lookup, holds⟩ }
  | advance place acting after input manager found effect =>
      have change : ∃ changed,
          manager.objects[start.index]? = some changed ∧
          SessionStep windows state (.advance place input) start.index
            session changed := by
        rcases effect.session_after on.found with
          same | ⟨changed, answers, present, rfl, lock, locked⟩
        · exact ⟨session, same, Or.inl rfl⟩
        · exact ⟨changed, present, Or.inr ⟨place, answers, acting, after, rfl,
            found, lock, locked⟩⟩
      obtain ⟨changed, present, change⟩ := change
      obtain ⟨_, output⟩ := change.output
      have grows := output.grows
      by_cases same : place = task
      · subst same
        cases lookup.symm.trans found
        have reads : state.shared.objects[stream.index]? = some session := by
          rw [on.index]
          exact on.found
        have inside : place < state.tasks.length :=
          (List.getElem?_eq_some_iff.mp found).1
        obtain ⟨later, holds, moved⟩ := effect.stream holds reads
        refine ⟨later, changed, ?_, change, ?_⟩
        · have kept : later.index = stream.index ∧
              later.attached = stream.attached ∧
              start.place ≤ later.place ∧
              later.place ≤ session.outputTx.length ∧
              (later.pending = [] ∨ later.place = start.place) := by
            rcases moved with
              moved | ⟨resumed, -, rfl, resumes, -, -, behind⟩
            · exact moved.keeps on.onward on.inside on.live
            · obtain ⟨written, -, late⟩ := AttachStream.behind_iff.mp behind
              have onward := on.onward
              refine ⟨rfl, rfl, ?_, ?_, Or.inl written⟩
              · change start.place ≤ resumed
                omega
              · change resumed ≤ session.outputTx.length
                omega
          obtain ⟨index, attached, onward, inside', live⟩ := kept
          exact
            { task := ⟨after, List.getElem?_set_self inside, holds⟩
              found := present
              index := index.trans on.index
              attached := attached.trans on.attached
              sent := on.sent.trans grows
              onward := onward
              inside := inside'.trans grows.length_le
              live := live }
        · rcases moved with
            moved | ⟨resumed, answers, same, resumes, rfl, rfl, behind⟩
          · exact Or.inl moved
          · refine Or.inr ⟨resumed, same, resumes, ?_, behind⟩
            simp [streamOf, found, reads]
      · refine ⟨stream, changed, ?_, change, Or.inl .rests⟩
        exact
          { task := ⟨current,
              (List.getElem?_set_ne same).trans lookup, holds⟩
            found := present
            index := on.index
            attached := on.attached
            sent := on.sent.trans grows
            onward := on.onward
            inside := on.inside.trans grows.length_le
            live := on.live }

/-! ## The attach itself -/

/-- A task is about to attach to a session that is still open. -/
structure Attaches (windows : Bool) (before : List TerminalHistoryEvent)
    (early : TerminalRun) (task : Nat) (request : AttachTerminalSessionReq)
    (rpcSessionId index : Nat) (attachId : String)
    (session : TerminalSession) : Prop where
  reached : terminalRun windows before = some early
  stage : early.tasks[task]? =
    some (.attachingTo request rpcSessionId index attachId)
  found : early.shared.objects[index]? = some session
  live : session.closed = false

/-- The stream of an attach. -/
def TerminalSession.attachedStream (session : TerminalSession)
    (request : AttachTerminalSessionReq) (rpcSessionId index : Nat)
    (attachId : String) (nowMs : Nat) : AttachStream :=
  .start rpcSessionId index
    { terminalSessionId := request.terminalSessionId
      attachId := attachId
      primaryAttachId := session.info.primaryAttachId
      session := { session.info with lastAttachedAtMs := some nowMs }
      replay := session.replayEvents request.afterSeq
      receiver := session.outputTx.length }

/-- The step that attaches starts the stream of the attach. -/
theorem Attaches.step
    {windows : Bool} {before : List TerminalHistoryEvent}
    {early next : TerminalRun} {task : Nat}
    {request : AttachTerminalSessionReq} {rpcSessionId index : Nat}
    {attachId : String} {session : TerminalSession}
    {answers : TerminalAnswers}
    (attaches : Attaches windows before early task request rpcSessionId index
      attachId session)
    (taken : (terminalSystem windows).step early
      (.advance task (.proceed answers)) = some next) :
    ∃ changed, changed.outputTx = session.outputTx ∧
      changed.info.exit = session.info.exit ∧
      changed.info.latestOutputSeq = session.info.latestOutputSeq ∧
      StreamsOn task
        (session.attachedStream request rpcSessionId index attachId
          answers.nowMs)
        session.outputTx next
        (session.attachedStream request rpcSessionId index attachId
          answers.nowMs) changed := by
  obtain ⟨current, manager, after, found, acted, rfl⟩ :=
    TaskSystem.step_advance_eq_some.mp taken
  cases found.symm.trans attaches.stage
  have within : index < early.shared.objects.length :=
    (List.getElem?_eq_some_iff.mp attaches.found).1
  have position : task < early.tasks.length :=
    (List.getElem?_eq_some_iff.mp attaches.stage).1
  change advanceTerminal windows early.shared
    (.attachingTo request rpcSessionId index attachId) (.proceed answers) =
      some (manager, after) at acted
  simp only [advanceTerminal, TerminalTask.lockOf, attaches.found,
    Option.bind_some, TerminalTask.locked, TerminalSession.attach,
    attaches.live, Bool.false_eq_true, if_false, Option.some.injEq,
    Prod.mk.injEq] at acted
  obtain ⟨rfl, rfl⟩ := acted
  refine ⟨_, ?_, ?_, ?_,
    { task := ⟨_, List.getElem?_set_self position, rfl⟩
      found := List.getElem?_set_self within
      index := rfl
      attached := rfl
      sent := List.prefix_rfl
      onward := Nat.le_refl _
      inside := Nat.le_refl _
      live := Or.inr rfl }⟩
  · rfl
  · rfl
  · rfl

/-! ## The replay -/

namespace TerminalSession

/-- The number of the oldest retained chunk, or of the next chunk. -/
def oldestRetained (session : TerminalSession) : Nat :=
  (session.outputBuffer.head?.map OutputRecord.seq).getD
    (session.info.latestOutputSeq + 1)

/-- The number of the first chunk that an attach is to get. -/
def firstRequested (session : TerminalSession) (afterSeq : Option Nat) : Nat :=
  match afterSeq with
  | none => session.oldestRetained
  | some seq => max (seq + 1) session.oldestRetained

/-- Whether chunks that an attach asks for are not retained. -/
def misses (session : TerminalSession) (afterSeq : Option Nat) : Bool :=
  afterSeq.any fun seq => decide (seq + 1 < session.oldestRetained)

/-- The history that an attach asks for, out of what is recorded in the
end. -/
def historyFrom (session : TerminalSession) (afterSeq : Option Nat)
    (recorded : List OutputRecord) : List TerminalEvent :=
  (if session.misses afterSeq then
      [.historyGap (session.firstRequested afterSeq)]
    else []) ++
    (recorded.drop (session.firstRequested afterSeq - 1)).map chunkEvent

end TerminalSession

/-- Whether an event belongs to the history of the output. -/
def TerminalEvent.history (event : TerminalEvent) : Bool :=
  event.output.isSome || event.gap.isSome

theorem outputOf_historyFrom (session : TerminalSession)
    (afterSeq : Option Nat) (recorded : List OutputRecord) :
    outputOf (session.historyFrom afterSeq recorded) =
      recorded.drop (session.firstRequested afterSeq - 1) := by
  have gap : outputOf (if session.misses afterSeq then
      [.historyGap (session.firstRequested afterSeq)] else []) = [] := by
    split <;> rfl
  unfold TerminalSession.historyFrom
  rw [outputOf_append, gap, outputOf_chunkEvents, List.nil_append]

/-- Where nothing is missing, the history is that of the chunks. -/
theorem filter_history
    {events : List TerminalEvent} (gapless : ∀ event ∈ events, event.gap = none) :
    events.filter TerminalEvent.history =
      (outputOf events).map TerminalSession.chunkEvent := by
  induction events with
  | nil => rfl
  | cons event events inductionHypothesis =>
      rw [List.forall_mem_cons] at gapless
      rw [outputOf_cons, List.map_append, ← inductionHypothesis gapless.2]
      cases event with
      | historyGap nextSeq => cases gapless.1
      | _ => rfl

/-- Of numbered records, those after some number are a suffix. -/
theorem filter_after
    {records : List OutputRecord} {oldest : Nat}
    (numbered : records.map OutputRecord.seq =
      List.range' oldest records.length)
    (seq : Nat) :
    records.filter (fun record => decide (seq < record.seq)) =
      records.drop (seq + 1 - oldest) := by
  induction records generalizing oldest with
  | nil => simp
  | cons record records inductionHypothesis =>
      simp only [List.map_cons, List.length_cons, List.range'_succ,
        List.cons.injEq] at numbered
      obtain ⟨first, rest⟩ := numbered
      rw [List.filter_cons, inductionHypothesis rest, first]
      by_cases later : seq < oldest
      · have all : seq + 1 - oldest = 0 := by omega
        have rest : seq + 1 - (oldest + 1) = 0 := by omega
        simp [later, all, rest]
      · have some : seq + 1 - oldest = (seq + 1 - (oldest + 1)) + 1 := by
          omega
        simp [later, some]

namespace OutputRecorded

variable {session : TerminalSession}

/-- What is retained is what was recorded from the oldest number on. -/
theorem retained_eq_drop (output : OutputRecorded session) :
    session.outputBuffer =
        session.recorded.drop (session.oldestRetained - 1) ∧
      session.outputBuffer.map OutputRecord.seq =
        List.range' session.oldestRetained session.outputBuffer.length ∧
      1 ≤ session.oldestRetained ∧
      session.oldestRetained ≤ session.info.latestOutputSeq + 1 := by
  obtain ⟨evicted, shape⟩ := output.retained
  have count := output.length_recorded
  rw [← shape, List.length_append] at count
  have numbers := output.numbered
  rw [← shape, List.map_append, ← count, ← List.range'_append_1] at numbers
  have kept := (List.append_inj numbers (by simp)).2
  have oldest : session.oldestRetained = 1 + evicted.length := by
    unfold TerminalSession.oldestRetained
    cases buffer : session.outputBuffer with
    | nil =>
        have none := output.present buffer
        rw [buffer] at count
        simp only [List.length_nil] at count
        simp only [List.head?_nil, Option.map_none, Option.getD_none]
        omega
    | cons record records =>
        rw [buffer] at kept
        simp only [List.map_cons, List.length_cons, List.range'_succ,
          List.cons.injEq] at kept
        exact kept.1
  rw [oldest]
  refine ⟨?_, kept, by omega, by omega⟩
  rw [Nat.add_sub_cancel_left, ← shape, List.drop_left]

/-- A recorded chunk that is not older than the oldest one retained is
retained. -/
theorem mem_outputBuffer
    (output : OutputRecorded session) {record : OutputRecord}
    (recorded : record ∈ session.recorded)
    (late : session.oldestRetained ≤ record.seq) :
    record ∈ session.outputBuffer := by
  obtain ⟨buffered, -, least, -⟩ := output.retained_eq_drop
  obtain ⟨position, lookup⟩ := List.mem_iff_getElem?.mp recorded
  have number := congrArg (·[position]?) output.numbered
  simp only [List.getElem?_map, lookup, Option.map_some] at number
  have place := (List.getElem?_eq_some_iff.mp number.symm).2
  rw [List.getElem_range', Nat.one_mul] at place
  rw [buffered]
  apply List.mem_iff_getElem?.mpr
  refine ⟨position - (session.oldestRetained - 1), ?_⟩
  rw [List.getElem?_drop, ← lookup]
  congr 1
  omega

/-- The replay tells of what is missing and of the chunks asked for. -/
theorem replayEvents_eq_append
    (output : OutputRecorded session) (afterSeq : Option Nat) :
    session.replayEvents afterSeq =
      (if session.misses afterSeq then
        [.historyGap session.oldestRetained] else []) ++
        (session.outputBuffer.filter fun record =>
          (afterSeq.map fun seq => decide (seq < record.seq)).getD true).map
          TerminalSession.chunkEvent := by
  unfold TerminalSession.replayEvents TerminalSession.misses
    TerminalSession.oldestRetained
  cases buffer : session.outputBuffer with
  | nil =>
      have none := output.present buffer
      cases afterSeq with
      | none => rfl
      | some seq => simp [none]
  | cons record records =>
      cases afterSeq with
      | none => simp
      | some seq => by_cases missing : seq + 1 < record.seq <;> simp [missing]

/-- The replay of an attach is what was recorded from the number on that it
asks for, as far as that is retained. -/
theorem replayEvents_eq
    (output : OutputRecorded session) {afterSeq : Option Nat}
    (recorded : ∀ seq, afterSeq = some seq →
      seq ≤ session.info.latestOutputSeq) :
    session.replayEvents afterSeq =
        session.historyFrom afterSeq session.recorded ∧
      1 ≤ session.firstRequested afterSeq ∧
      session.firstRequested afterSeq ≤ session.info.latestOutputSeq + 1 := by
  obtain ⟨buffered, numbers, least, most⟩ := output.retained_eq_drop
  rw [output.replayEvents_eq_append]
  cases afterSeq with
  | none =>
      refine ⟨?_, least, most⟩
      rw [buffered]
      simp [TerminalSession.historyFrom, TerminalSession.misses,
        TerminalSession.firstRequested]
  | some seq =>
      have bound := recorded seq rfl
      refine ⟨?_, ?_, ?_⟩
      · unfold TerminalSession.historyFrom
        congr 1
        · by_cases missing : seq + 1 < session.oldestRetained
          · have same : max (seq + 1) session.oldestRetained =
                session.oldestRetained := by omega
            simp [TerminalSession.misses, TerminalSession.firstRequested,
              same]
          · simp [TerminalSession.misses, missing]
        · simp only [Option.map_some, Option.getD_some,
            TerminalSession.firstRequested]
          rw [filter_after numbers, buffered, List.drop_drop]
          congr 2
          omega
      · exact Nat.le_trans least (Nat.le_max_right _ _)
      · exact Nat.max_le.mpr ⟨Nat.succ_le_succ bound, most⟩

end OutputRecorded

/-! ## Streams that keep up -/

/-- A stream that has not lagged has written, or is about to, what it began
with and then what its channel told. -/
structure KeepsUp (task : Nat) (start : AttachStream)
    (sent : List TerminalEvent) (state : TerminalRun)
    (stream : AttachStream) (session : TerminalSession) : Prop
    extends StreamsOn task start sent state stream session where
  delivers : stream.delivered ++ stream.pending =
    start.pending ++ between session.outputTx start.place stream.place

/-- What a stream delivers goes on where it was. -/
theorem StreamEffect.delivers
    {session : TerminalSession} {start stream later : AttachStream}
    (effect : StreamEffect session stream later)
    (onward : start.place ≤ stream.place)
    (delivers : stream.delivered ++ stream.pending =
      start.pending ++ between session.outputTx start.place stream.place) :
    later.delivered ++ later.pending =
      start.pending ++ between session.outputTx start.place later.place := by
  cases effect with
  | rests => exact delivers
  | replays event pending first =>
      rw [first] at delivers
      rw [← delivers]
      simp
  | receives event written found =>
      rw [written, List.append_nil] at delivers
      rw [between_succ onward found, ← List.append_assoc, ← delivers, written,
        List.append_nil]

/-- A stream that does not lag goes on without a gap. -/
theorem KeepsUp.step
    {windows : Bool} {state next : TerminalRun}
    {event : TerminalHistoryEvent} {task : Nat}
    {start stream : AttachStream} {sent : List TerminalEvent}
    {session : TerminalSession}
    (keeps : KeepsUp task start sent state stream session)
    (prompt : lags task state event = false)
    (taken : (terminalSystem windows).step state event = some next) :
    ∃ later changed, KeepsUp task start sent next later changed ∧
      SessionStep windows state event start.index session changed ∧
      StreamEffect session stream later := by
  obtain ⟨later, changed, on, change, moved⟩ := keeps.toStreamsOn.step taken
  rcases moved with moved | ⟨place, -, -, reads, behind⟩
  · refine ⟨later, changed, ⟨on, ?_⟩, change, moved⟩
    obtain ⟨_, output⟩ := change.output
    obtain ⟨events, grown⟩ := output.grows
    have inside : later.place ≤ session.outputTx.length :=
      (moved.keeps keeps.onward keeps.inside keeps.live).2.2.2.1
    rw [← grown, between_append inside]
    exact moved.delivers keeps.onward keeps.delivers
  · simp [lags, reads, behind] at prompt

/-- A stream that lags in no step since it has attached. -/
theorem Attaches.keeps_up
    {windows : Bool} {before later : List TerminalHistoryEvent}
    {early state : TerminalRun} {task : Nat}
    {request : AttachTerminalSessionReq} {rpcSessionId index : Nat}
    {attachId : String} {session : TerminalSession}
    {answers : TerminalAnswers}
    (attaches : Attaches windows before early task request rpcSessionId index
      attachId session)
    (continues : run (terminalSystem windows).step early
      (.advance task (.proceed answers) :: later) = some state)
    (prompt : Throughout (terminalSystem windows).step early
      (fun state event => lags task state event = false)
      (.advance task (.proceed answers) :: later)) :
    ∃ stream final,
      KeepsUp task
        (session.attachedStream request rpcSessionId index attachId
          answers.nowMs)
        session.outputTx state stream final := by
  obtain ⟨next, taken, rest⟩ := Option.bind_eq_some_iff.mp continues
  apply run_invariant_throughout _ _ rest (prompt.tail taken)
  · obtain ⟨changed, same, -, -, on⟩ := attaches.step taken
    refine ⟨_, changed, on, ?_⟩
    simp [TerminalSession.attachedStream, AttachStream.start]
  · intro history state event next _ holds prompt taken
    obtain ⟨stream, final, keeps⟩ := holds
    obtain ⟨later, changed, keeps, -, -⟩ := keeps.step prompt taken
    exact ⟨later, changed, keeps⟩

/-! ## Nothing is lost between the replay and the channel -/

section History

variable {windows : Bool} {task rpcSessionId index nowMs : Nat}
  {request : AttachTerminalSessionReq} {attachId : String}
  {session final : TerminalSession} {stream : AttachStream}
  {state : TerminalRun}

/-- What is recorded in the end was recorded at the attach, or read by the
stream since, or is still to be read. -/
theorem KeepsUp.recorded_eq
    (keeps : KeepsUp task
      (session.attachedStream request rpcSessionId index attachId nowMs)
      session.outputTx state stream final) :
    final.recorded = session.recorded ++
      (outputOf (between final.outputTx session.outputTx.length
        stream.place) ++ outputOf (final.outputTx.drop stream.place)) := by
  have early : final.outputTx.take session.outputTx.length =
      session.outputTx := by
    obtain ⟨events, shape⟩ := keeps.sent
    rw [← shape, List.take_left]
  have whole := take_append_between keeps.onward final.outputTx
  change final.outputTx.take session.outputTx.length ++
    (between final.outputTx session.outputTx.length stream.place ++ _) = _
    at whole
  rw [early] at whole
  have output := congrArg outputOf whole
  rw [outputOf_append, outputOf_append] at output
  exact output.symm

/-- The history that a stream has written, and is about to, goes on from the
number that was asked for without a break. -/
theorem KeepsUp.history_eq
    (keeps : KeepsUp task
      (session.attachedStream request rpcSessionId index attachId nowMs)
      session.outputTx state stream final)
    (output : OutputRecorded session) (outputFinal : OutputRecorded final)
    (recorded : ∀ seq, request.afterSeq = some seq →
      seq ≤ session.info.latestOutputSeq) :
    (stream.delivered ++ stream.pending).filter TerminalEvent.history =
      session.historyFrom request.afterSeq
        (session.recorded ++ outputOf (between final.outputTx
          session.outputTx.length stream.place)) := by
  obtain ⟨replay, -, most⟩ := output.replayEvents_eq recorded
  have kept : (session.replayEvents request.afterSeq).filter
      TerminalEvent.history = session.replayEvents request.afterSeq := by
    rw [output.replayEvents_eq_append, List.filter_append]
    congr 1
    · split <;> rfl
    · apply List.filter_eq_self.mpr
      intro event member
      obtain ⟨record, -, rfl⟩ := List.mem_map.mp member
      rfl
  have exits : ((session.info.exit.map TerminalEvent.sessionExited).toList
      ).filter TerminalEvent.history = [] := by
    cases session.info.exit <;> rfl
  have gapless : ∀ event ∈ between final.outputTx session.outputTx.length
      stream.place, event.gap = none := by
    intro event member
    exact outputFinal.gapless event
      (List.mem_of_mem_take (List.mem_of_mem_drop member))
  have inside : session.firstRequested request.afterSeq - 1 ≤
      session.recorded.length := by
    rw [output.length_recorded]
    omega
  rw [keeps.delivers, List.filter_append]
  change ((TerminalEvent.attached _ _ _ ::
      session.replayEvents request.afterSeq ++
        (session.info.exit.map TerminalEvent.sessionExited).toList).filter
          TerminalEvent.history) ++
      (between final.outputTx session.outputTx.length stream.place).filter
        TerminalEvent.history = _
  rw [List.cons_append, List.filter_cons_of_neg (by simp
    [TerminalEvent.history, TerminalEvent.output, TerminalEvent.gap]),
    List.filter_append, kept, exits, List.append_nil, filter_history gapless,
    replay]
  unfold TerminalSession.historyFrom
  rw [List.append_assoc, ← List.map_append,
    ← List.drop_append_of_le_length inside]

end History

/-- The chunks of a history. -/
theorem outputOf_filter_history (events : List TerminalEvent) :
    outputOf (events.filter TerminalEvent.history) = outputOf events := by
  induction events with
  | nil => rfl
  | cons event events inductionHypothesis =>
      rw [List.filter_cons, outputOf_cons, ← inductionHypothesis]
      cases event <;> rfl

/-- A stream that does not lag delivers the output from the number on that was
asked for, each chunk once and in order: what is missing before is named, and
a stream that has caught up has delivered all that was recorded. -/
theorem attach_continues_history
    (windows : Bool) (before later : List TerminalHistoryEvent)
    (early state : TerminalRun) (task : Nat)
    (request : AttachTerminalSessionReq) (rpcSessionId index : Nat)
    (attachId : String) (session : TerminalSession)
    (answers : TerminalAnswers)
    (attaches : Attaches windows before early task request rpcSessionId index
      attachId session)
    (recorded : ∀ seq, request.afterSeq = some seq →
      seq ≤ session.info.latestOutputSeq)
    (continues : run (terminalSystem windows).step early
      (.advance task (.proceed answers) :: later) = some state)
    (prompt : Throughout (terminalSystem windows).step early
      (fun state event => lags task state event = false)
      (.advance task (.proceed answers) :: later)) :
    ∃ current stream final,
      state.tasks[task]? = some current ∧
      current.stream = some stream ∧
      state.shared.objects[index]? = some final ∧
      final.recorded.map OutputRecord.seq =
        List.range' 1 final.info.latestOutputSeq ∧
      stream.delivered.filter TerminalEvent.history <+:
        session.historyFrom request.afterSeq final.recorded ∧
      (outputOf stream.delivered).map OutputRecord.seq =
        List.range' (session.firstRequested request.afterSeq)
          (outputOf stream.delivered).length ∧
      (stream.pending = [] → stream.place = final.outputTx.length →
        stream.delivered.filter TerminalEvent.history =
          session.historyFrom request.afterSeq final.recorded) := by
  have reached : terminalRun windows
      (before ++ .advance task (.proceed answers) :: later) = some state := by
    unfold terminalRun
    rw [run_append]
    exact Option.bind_eq_some_iff.mpr ⟨early, attaches.reached, continues⟩
  obtain ⟨stream, final, keeps⟩ := attaches.keeps_up continues prompt
  obtain ⟨current, stage, holds⟩ := keeps.task
  have output : OutputRecorded session :=
    (output_invariant attaches.reached).session attaches.found
  have outputFinal : OutputRecorded final :=
    (output_invariant reached).session keeps.found
  obtain ⟨-, least, most⟩ := output.replayEvents_eq recorded
  have history := keeps.history_eq output outputFinal recorded
  have whole := keeps.recorded_eq
  have ahead : stream.delivered.filter TerminalEvent.history <+:
      session.historyFrom request.afterSeq final.recorded := by
    have written : stream.delivered.filter TerminalEvent.history <+:
        (stream.delivered ++ stream.pending).filter TerminalEvent.history := by
      rw [List.filter_append]
      exact List.prefix_append _ _
    apply written.trans
    rw [history, whole, ← List.append_assoc session.recorded]
    apply List.prefix_append_right_inj _ |>.mpr
    apply List.IsPrefix.map
    apply List.IsPrefix.drop
    exact List.prefix_append _ _
  refine ⟨current, stream, final, stage, holds, keeps.found,
    outputFinal.numbered, ahead, ?_, ?_⟩
  · have chunks : outputOf stream.delivered <+:
        final.recorded.drop
          (session.firstRequested request.afterSeq - 1) := by
      have output := ahead.filterMap TerminalEvent.output
      change outputOf _ <+: outputOf _ at output
      rw [outputOf_filter_history, outputOf_historyFrom] at output
      exact output
    have numbers := chunks.map OutputRecord.seq
    rw [List.map_drop, outputFinal.numbered, List.drop_range'] at numbers
    have fewer := numbers.length_le
    rw [List.length_map, List.length_range'] at fewer
    have taken := List.prefix_iff_eq_take.mp numbers
    rw [List.length_map, List.take_range'_of_length_ge fewer] at taken
    rw [taken]
    congr 1
    omega
  · intro written caught
    rw [written, List.append_nil] at history
    rw [history, whole, caught, List.drop_length]
    simp

/-- Two chunks are recorded, and a client is about to attach after the
first. -/
def recordedSample : List TerminalHistoryEvent :=
  sampleSession ++ .launch (.outputReader "terminal-1") ::
    terminalGoesOn sampleAnswers 1 6 ++
    .launch (.attach ⟨"terminal-1", some 1, 80, 24⟩ 7) ::
      terminalGoesOn sampleAnswers 2 2

/-- The client attaches, a third chunk is recorded, and the stream goes on. -/
def attachedSample : List TerminalHistoryEvent :=
  .advance 2 (.proceed sampleAnswers) ::
    (terminalGoesOn sampleAnswers 1 3 ++ terminalGoesOn sampleAnswers 2 4)

/-- A stream delivers a front part of the history it asked for. -/
theorem attach_continues_history_sample :
    ∃ early state session current stream final,
      terminalRun false recordedSample = some early ∧
      early.shared.objects[0]? = some session ∧
      run (terminalSystem false).step early attachedSample = some state ∧
      state.tasks[2]? = some current ∧
      current.stream = some stream ∧
      state.shared.objects[0]? = some final ∧
      stream.delivered.filter TerminalEvent.history <+:
        session.historyFrom (some 1) final.recorded := by
  have sample : (terminalRun false recordedSample).map (fun early =>
      (early.tasks[2]?,
        early.shared.objects[0]?.map fun session =>
          (session.closed, session.info.latestOutputSeq),
        (run (terminalSystem false).step early attachedSample).isSome,
        checkEach (terminalSystem false).step
          (fun state event => !lags 2 state event) early attachedSample)) =
      some (some (.attachingTo ⟨"terminal-1", some 1, 80, 24⟩ 7 0 "attach-1"),
        some (false, 2), true, true) := by
    rfl
  obtain ⟨early, reached, values⟩ := Option.map_eq_some_iff.mp sample
  simp only [Prod.mk.injEq, Option.map_eq_some_iff] at values
  obtain ⟨stage, ⟨session, found, live, latest⟩, possible, checked⟩ := values
  obtain ⟨state, continues⟩ := Option.isSome_iff_exists.mp possible
  obtain ⟨current, stream, final, task, holds, present, -, history, -⟩ :=
    attach_continues_history false recordedSample _ early state 2 _ 7 0
      "attach-1" session sampleAnswers ⟨reached, stage, found, live⟩
      (by rintro seq ⟨⟩; omega) continues
      (throughout_of_checkEach_eq_false checked)
  exact ⟨early, state, session, current, stream, final, reached, found,
    continues, task, holds, present, history⟩

end Host
end WhatsGoingOn
