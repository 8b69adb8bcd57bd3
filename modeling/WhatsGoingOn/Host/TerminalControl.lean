import WhatsGoingOn.Host.TerminalRegistry

/-!
# Who controls a terminal

An attach of an rpc session may write to a terminal while it is its primary
attach.  Requests look their session up first and take its lock later; a
session may leave the table in between, and its attaches are then not taken off
it.  While the session is in the table, its owners are those that are attached.
-/

namespace WhatsGoingOn
namespace Host

open Daemon (ServiceError)

/-! ## The owners of a session -/

/-- The stream of a task whose attach is detached. -/
def TerminalTask.detachedStream : TerminalTask → Option AttachStream
  | .announcing _ (.detached stream) | .detached stream => some stream
  | _ => none

theorem stream_of_detachedStream
    {task : TerminalTask} {stream : AttachStream}
    (detached : task.detachedStream = some stream) :
    task.stream = some stream := by
  cases task with
  | announcing announcement followup =>
      cases followup with
      | detached stream => exact detached
      | _ => cases detached
  | detached stream => exact detached
  | _ => cases detached

theorem target_of_stream
    {task : TerminalTask} {stream : AttachStream}
    (holds : task.stream = some stream) :
    task.target =
      some (stream.attached.terminalSessionId, stream.index) := by
  cases task with
  | announcing announcement followup =>
      cases followup <;> cases holds <;> rfl
  | _ => cases holds <;> rfl

theorem attachId_of_stream
    {task : TerminalTask} {stream : AttachStream}
    (holds : task.stream = some stream) :
    task.attachId = some stream.attached.attachId := by
  cases task with
  | announcing announcement followup =>
      cases followup <;> cases holds <;> rfl
  | _ => cases holds <;> rfl

/-- A place that the table leads to. -/
def TerminalManager.registers (manager : TerminalManager) (index : Nat) :
    Prop :=
  ∃ terminalSessionId, manager.getSession terminalSessionId = some index

/-- Every owner of a session is attached to it.  A detached attach owns nothing
of a session in the table. -/
structure AttachTable (state : TerminalRun) : Prop where
  owner : ∀ {index rpcSessionId : Nat} {session : TerminalSession}
    {attachId : String},
    state.shared.objects[index]? = some session →
      session.attachOwners attachId = some rpcSessionId →
        ∃ (place : Nat) (task : TerminalTask) (stream : AttachStream),
          state.tasks[place]? = some task ∧ task.stream = some stream ∧
          stream.attached.attachId = attachId ∧
          stream.rpcSessionId = rpcSessionId ∧ stream.index = index
  detaching : ∀ {place index : Nat} {stream : AttachStream},
    state.tasks[place]? = some (.detachingFrom stream index) →
      index = stream.index
  gone : ∀ {place : Nat} {task : TerminalTask} {stream : AttachStream}
    {session : TerminalSession},
    state.tasks[place]? = some task → task.detachedStream = some stream →
      state.shared.objects[stream.index]? = some session →
        session.attachOwners stream.attached.attachId = none ∨
          ¬state.shared.registers stream.index

/-- A session that has left the table does not come back. -/
theorem TerminalEffect.not_registers
    {windows : Bool} {manager next : TerminalManager}
    {task after : TerminalTask} {input : TerminalInput} {index : Nat}
    (effect : TerminalEffect windows manager task input next after)
    (inside : index < manager.objects.length)
    (gone : ¬manager.registers index) : ¬next.registers index := by
  rintro ⟨terminalSessionId, found⟩
  rcases effect.getSession found with held | ⟨-, new, -⟩
  · exact gone ⟨terminalSessionId, held⟩
  · omega

/-- What a task does that becomes a detached one. -/
theorem TerminalEffect.detaches
    {windows : Bool} {manager next : TerminalManager}
    {task after : TerminalTask} {input : TerminalInput}
    {stream : AttachStream}
    (effect : TerminalEffect windows manager task input next after)
    (detached : after.detachedStream = some stream) :
    (task.detachedStream = some stream ∧ next.objects = manager.objects ∧
        next.sessions = manager.sessions) ∨
      (manager.getSession stream.attached.terminalSessionId = none ∧
        task.stream = some stream ∧ next = manager) ∨
      ∃ index session answers, task = .detachingFrom stream index ∧
        manager.objects[index]? = some session ∧
        next = manager.setSession index
          (session.detach stream.attached.attachId answers) := by
  cases effect with
  | locked _ answers index session changed lock found effect =>
      cases effect with
      | detach stream index =>
          cases detached
          cases lock
          exact Or.inr (Or.inr ⟨_, session, _, rfl, found, rfl⟩)
      | _ => cases detached
  | unlocked _ answers _ lock effect =>
      cases effect with
      | announce announcement followup =>
          cases followup with
          | detached stream => exact Or.inl ⟨detached, rfl, rfl⟩
          | _ => cases detached
      | quiet _ _ effect =>
          cases effect with
          | detachMissing stream unknown =>
              cases detached
              exact Or.inr (Or.inl ⟨unknown, rfl, rfl⟩)
          | receive stream session received place next _ written running
              found got delivers goes =>
              subst goes
              split at detached <;> cases detached
          | _ => cases detached
      | _ => cases detached
  | broken _ error effect => cases effect <;> cases detached

/-- A task that becomes one about to detach has looked its session up. -/
theorem TerminalEffect.detachingFrom
    {windows : Bool} {manager next : TerminalManager}
    {task : TerminalTask} {input : TerminalInput} {stream : AttachStream}
    {index : Nat}
    (effect : TerminalEffect windows manager task input next
      (.detachingFrom stream index)) :
    task.stream = some stream ∧
      manager.getSession stream.attached.terminalSessionId = some index := by
  cases effect with
  | locked _ answers place session changed lock found effect => cases effect
  | unlocked _ answers _ lock effect =>
      generalize same : TerminalTask.detachingFrom stream index = after
        at effect
      cases effect with
      | announce announcement followup => cases followup <;> cases same
      | quiet _ _ effect =>
          cases effect with
          | detach stream index found =>
              cases same
              exact ⟨rfl, found⟩
          | receive stream session received place next _ written running
              found got delivers goes =>
              subst goes
              split at same <;> cases same
          | _ => cases same
      | _ => cases same
  | broken _ error effect => cases effect

/-- What attaching makes of a task. -/
theorem LockedEffect.attaches
    {windows : Bool} {session changed : TerminalSession}
    {answers : TerminalAnswers} {request : AttachTerminalSessionReq}
    {rpcSessionId index : Nat} {attachId : String} {after : TerminalTask}
    (effect : LockedEffect windows session answers
      (.attachingTo request rpcSessionId index attachId) changed after)
    (owned : changed.attachOwners ≠ session.attachOwners) :
    ∃ stream, after.stream = some stream ∧
      stream.attached.attachId = attachId ∧
      stream.rpcSessionId = rpcSessionId ∧ stream.index = index := by
  cases effect with
  | attach request rpcSessionId index attachId changed attached result =>
      unfold TerminalSession.attach at result
      split at result
      · cases result
      · cases result
        exact ⟨_, rfl, rfl, rfl, rfl⟩
  | refuse => exact absurd rfl owned

/-- A request that begins changes nothing of the attaches. -/
theorem AttachTable.launch {state : TerminalRun}
    (invariant : AttachTable state) (request : TerminalRequest) :
    AttachTable ⟨state.shared, state.tasks ++ [.start request]⟩ := by
  have fresh := start_fresh request
  constructor
  · intro index rpcSessionId session attachId present owner
    obtain ⟨place, task, stream, found, holds, rest⟩ :=
      invariant.owner present owner
    have inside : place < state.tasks.length :=
      (List.getElem?_eq_some_iff.mp found).1
    exact ⟨place, task, stream,
      (List.getElem?_append_left inside).trans found, holds, rest⟩
  · intro place index stream found
    rcases TaskSystem.getElem?_concat_cases found with
      ⟨-, same⟩ | ⟨-, older⟩
    · rw [← same] at fresh
      cases fresh
    · exact invariant.detaching older
  · intro place task stream session found detached present
    rcases TaskSystem.getElem?_concat_cases found with
      ⟨-, rfl⟩ | ⟨-, older⟩
    · have none := target_of_fresh fresh
      rw [target_of_stream (stream_of_detachedStream detached)] at none
      cases none
    · exact invariant.gone older detached present

section Advance

variable {windows : Bool} {history : List TerminalHistoryEvent}
  {state : TerminalRun} {place : Nat} {acting after : TerminalTask}
  {input : TerminalInput} {manager : TerminalManager}

/-- Every owner after a step is attached: it was before, or the step has attached
it. -/
theorem AttachTable.advance_owner
    {index rpcSessionId : Nat} {changed : TerminalSession} {attachId : String}
    (invariant : AttachTable state)
    (found : state.tasks[place]? = some acting)
    (effect : TerminalEffect windows state.shared acting input manager after)
    (present : manager.objects[index]? = some changed)
    (owner : changed.attachOwners attachId = some rpcSessionId) :
    ∃ (other : Nat) (task : TerminalTask) (stream : AttachStream),
      (state.tasks.set place after)[other]? = some task ∧
        task.stream = some stream ∧ stream.attached.attachId = attachId ∧
        stream.rpcSessionId = rpcSessionId ∧ stream.index = index := by
  have position : place < state.tasks.length :=
    (List.getElem?_eq_some_iff.mp found).1
  -- An owner from before is still attached.
  have stays (session : TerminalSession)
      (held : state.shared.objects[index]? = some session)
      (owned : session.attachOwners attachId = some rpcSessionId) :
      ∃ (other : Nat) (task : TerminalTask) (stream : AttachStream),
        (state.tasks.set place after)[other]? = some task ∧
        task.stream = some stream ∧
        stream.attached.attachId = attachId ∧
        stream.rpcSessionId = rpcSessionId ∧
        stream.index = index := by
    obtain ⟨other, task, stream, lookup, holds, id, rpc, target⟩ :=
      invariant.owner held owned
    by_cases same : place = other
    · subst same
      cases lookup.symm.trans found
      obtain ⟨later, kept, attached, index', rpc'⟩ :=
        effect.stream_kept holds
      exact ⟨place, after, later, List.getElem?_set_self position,
        kept, by rw [attached, id], by rw [rpc', rpc],
        by rw [index', target]⟩
    · exact ⟨other, task, stream,
        (List.getElem?_set_ne same).trans lookup, holds, id, rpc,
        target⟩
  rcases effect.session_before present with
    held | ⟨session, answers, held, -, lock, locked⟩ |
      ⟨request, terminalSessionId, creatorClientId, initialCwd,
        createdAtMs, -, -, rfl⟩
  · exact stays changed held owner
  · rcases locked.id_and_owners.2 with
      same | ⟨request, rpc, target, attached, rfl, owners⟩ |
        ⟨stream, target, rfl, owners⟩
    · exact stays session held (by rw [← same]; exact owner)
    · by_cases same : changed.attachOwners = session.attachOwners
      · exact stays session held (by rw [← same]; exact owner)
      · obtain ⟨stream, holds, id, rpc', index'⟩ :=
          locked.attaches same
        cases lock
        rw [owners, Function.update_apply] at owner
        split at owner
        · rename_i equal
          cases owner
          exact ⟨place, after, stream,
            List.getElem?_set_self position, holds,
            id.trans equal.symm, rpc', index'⟩
        · exact stays session held owner
    · rw [owners, Function.update_apply] at owner
      split at owner
      · cases owner
      · exact stays session held owner
  · cases owner

/-- A task that is about to detach has found the session that it attached to. -/
theorem AttachTable.advance_detaching
    {other index : Nat} {stream : AttachStream}
    (earlier : terminalRun windows history = some state)
    (invariant : AttachTable state)
    (found : state.tasks[place]? = some acting)
    (effect : TerminalEffect windows state.shared acting input manager after)
    (lookup : (state.tasks.set place after)[other]? =
      some (.detachingFrom stream index)) :
    index = stream.index := by
  have registry := registry earlier
  rcases TaskSystem.getElem?_set_cases lookup with
    ⟨-, rfl⟩ | ⟨-, older⟩
  · obtain ⟨holds, looked⟩ := effect.detachingFrom
    obtain ⟨session, held, id⟩ := registry.entry looked
    obtain ⟨second, there, name⟩ :=
      registry.target found (target_of_stream holds)
    exact registry.distinct held there (id.trans name.symm)
  · exact invariant.detaching older

/-- A detached attach owns nothing after a step: it is detached by it, or the
step attaches another one. -/
theorem AttachTable.advance_gone
    {other : Nat} {task : TerminalTask} {stream : AttachStream}
    {changed : TerminalSession}
    (earlier : terminalRun windows history = some state)
    (invariant : AttachTable state)
    (found : state.tasks[place]? = some acting)
    (effect : TerminalEffect windows state.shared acting input manager after)
    (lookup : (state.tasks.set place after)[other]? = some task)
    (detached : task.detachedStream = some stream)
    (present : manager.objects[stream.index]? = some changed) :
    changed.attachOwners stream.attached.attachId = none ∨
      ¬manager.registers stream.index := by
  have minted := (terminal_mints_attachId windows).minted earlier
  have registry := registry earlier
  rcases TaskSystem.getElem?_set_cases lookup with
    ⟨-, rfl⟩ | ⟨apart, older⟩
  · rcases effect.detaches detached with
      ⟨before, objects, sessions⟩ | ⟨unknown, holds, rfl⟩ |
        ⟨index, session, nowMs, rfl, held, rfl⟩
    · rw [objects] at present
      unfold TerminalManager.registers TerminalManager.getSession
      rw [sessions]
      exact invariant.gone found before present
    · right
      rintro ⟨terminalSessionId, entry⟩
      obtain ⟨session, there, id⟩ := registry.entry entry
      obtain ⟨second, here, name⟩ :=
        registry.target found (target_of_stream holds)
      cases there.symm.trans here
      rw [← id, name, unknown] at entry
      cases entry
    · left
      have same := invariant.detaching found
      subst same
      rw [show (state.shared.setSession stream.index _).objects[
        stream.index]? = some (session.detach
          stream.attached.attachId nowMs) from
        List.getElem?_set_self
          (List.getElem?_eq_some_iff.mp held).1] at present
      cases present
      exact Function.update_self _ _ _
  · have holds := stream_of_detachedStream detached
    obtain ⟨second, there, -⟩ :=
      registry.target older (target_of_stream holds)
    have inside := (List.getElem?_eq_some_iff.mp there).1
    have outside := effect.not_registers inside
    rcases effect.session_before present with
      held | ⟨session, answers, held, -, lock, locked⟩ |
        ⟨request, terminalSessionId, creatorClientId, initialCwd,
          createdAtMs, -, new, -⟩
    · exact (invariant.gone older detached held).imp_right outside
    · rcases invariant.gone older detached held with none | gone
      · left
        rcases locked.id_and_owners.2 with
          same | ⟨request, rpc, target, attachId, rfl, owners⟩ |
            ⟨leaving, target, rfl, owners⟩
        · rw [same]
          exact none
        · rw [owners, Function.update_of_ne, none]
          intro same
          apply apart
          apply minted.distinct older found
            (attachId_of_stream holds)
          rw [same]
          rfl
        · rw [owners, Function.update_apply]
          split
          · rfl
          · exact none
      · exact Or.inr (outside gone)
    · omega

end Advance

/-- Attaches are known to their sessions in every run. -/
theorem attach_table
    {windows : Bool} {history : List TerminalHistoryEvent}
    {state : TerminalRun}
    (reached : terminalRun windows history = some state) :
    AttachTable state := by
  apply run_invariant _ _ reached
  · exact ⟨by simp [TerminalManager.new], by simp, by simp⟩
  · intro history state event next earlier invariant taken
    cases terminal_step taken with
    | launch request => exact invariant.launch request
    | advance place acting after input manager found effect =>
        exact
          { owner := invariant.advance_owner found effect
            detaching := invariant.advance_detaching earlier found effect
            gone := invariant.advance_gone earlier found effect }

/-! ## Input -/

theorem TerminalSession.validateAttachOwner_eq_ok
    {session : TerminalSession} {attachId : String} {rpcSessionId : Nat} :
    session.validateAttachOwner attachId rpcSessionId = .ok () ↔
      session.attachOwners attachId = some rpcSessionId := by
  unfold validateAttachOwner
  cases session.attachOwners attachId with
  | none => simp
  | some owner =>
      by_cases same : owner = rpcSessionId
      · simp [same]
      · simp [same]

/-- Input reaches a terminal only from an owner of its primary attach. -/
theorem TerminalSession.writeInput_input
    {session changed : TerminalSession} {attachId : String}
    {bytes : List UInt8} {rpcSessionId : Nat} {written : PtyWrite}
    {outcome : Except ServiceError Unit}
    (result : session.writeInput attachId bytes rpcSessionId written =
      (changed, outcome)) :
    changed = session ∨
      (session.attachOwners attachId = some rpcSessionId ∧
        session.info.primaryAttachId = some attachId) := by
  unfold writeInput at result
  split at result
  · cases result
    exact Or.inl rfl
  · rename_i valid
    split at result
    · cases result
      exact Or.inl rfl
    · rename_i primary
      rw [not_not] at primary
      exact Or.inr ⟨validateAttachOwner_eq_ok.mp valid, primary⟩

/-- An accepted write is one of an owner. -/
theorem TerminalSession.writeInput_ok
    {session changed : TerminalSession} {attachId : String}
    {bytes : List UInt8} {rpcSessionId : Nat} {written : PtyWrite}
    (result : session.writeInput attachId bytes rpcSessionId written =
      (changed, .ok ())) :
    session.attachOwners attachId = some rpcSessionId := by
  unfold writeInput at result
  split at result
  · cases result
  · rename_i valid
    exact validateAttachOwner_eq_ok.mp valid

/-- An accepted request for control is one of an owner. -/
theorem TerminalSession.takeControl_ok
    {session changed : TerminalSession} {request : TakeTerminalControlReq}
    {rpcSessionId : Nat} {resizeError : Option String}
    (result : session.takeControl request rpcSessionId resizeError =
      (changed, .ok ())) :
    session.attachOwners request.attachId = some rpcSessionId := by
  unfold takeControl at result
  split at result
  · cases result
  · rename_i valid
    exact validateAttachOwner_eq_ok.mp valid

/-- Nothing but a write changes the input of a terminal. -/
theorem LockedEffect.input
    {windows : Bool} {session changed : TerminalSession}
    {answers : TerminalAnswers} {task after : TerminalTask}
    (effect : LockedEffect windows session answers task changed after) :
    changed.input = session.input ∨
      ∃ index attachId bytes rpcSessionId,
        task = .writingTo index attachId bytes rpcSessionId ∧
        session.attachOwners attachId = some rpcSessionId ∧
        session.info.primaryAttachId = some attachId := by
  have control {request : TakeTerminalControlReq} {rpcSessionId : Nat}
      {changed : TerminalSession} {outcome : Except ServiceError Unit}
      (result : session.takeControl request rpcSessionId
        answers.resizeError = (changed, outcome)) :
      changed.input = session.input := by
    unfold TerminalSession.takeControl at result
    split at result
    · cases result
      rfl
    · split at result
      · cases result
        rfl
      · cases result
        split <;> split <;> rfl
  have record {bytes : List UInt8} {changed : TerminalSession}
      {announced : Option TerminalSessionInfo}
      (result : session.recordOutput windows bytes answers.nowMs =
        some (changed, announced)) : changed.input = session.input := by
    obtain ⟨-, -, title, cwd, metadataParser, metadata, -, rfl⟩ :=
      TerminalSession.recordOutput_eq result
    rfl
  cases effect with
  | attach request rpcSessionId index attachId changed attached result =>
      unfold TerminalSession.attach at result
      split at result
      · cases result
      · cases result
        exact Or.inl rfl
  | control request rpcSessionId index changed result =>
      exact Or.inl (control result)
  | controlFails request rpcSessionId index changed error result =>
      exact Or.inl (control result)
  | write index attachId bytes rpcSessionId changed outcome result =>
      rcases TerminalSession.writeInput_input result with rfl | ⟨owner, primary⟩
      · exact Or.inl rfl
      · exact Or.inr ⟨index, attachId, bytes, rpcSessionId, rfl, owner,
          primary⟩
  | record terminalSessionId index bytes changed result =>
      exact Or.inl (record result)
  | recordMetadata terminalSessionId index bytes changed info result =>
      exact Or.inl (record result)
  | mark index status changed result =>
      unfold TerminalSession.markExited at result
      split at result
      · cases result
      · cases result
        exact Or.inl rfl
  | _ => exact Or.inl rfl

/-- Some attach is live: its stream is not detached. -/
def LiveAttach (state : TerminalRun) (attachId : String)
    (rpcSessionId index : Nat) : Prop :=
  ∃ (place : Nat) (task : TerminalTask) (stream : AttachStream),
    state.tasks[place]? = some task ∧ task.stream = some stream ∧
    task.detachedStream = none ∧ stream.attached.attachId = attachId ∧
    stream.rpcSessionId = rpcSessionId ∧ stream.index = index

/-- Some attach is detached. -/
def Detached (state : TerminalRun) (attachId : String) : Prop :=
  ∃ (place : Nat) (task : TerminalTask) (stream : AttachStream),
    state.tasks[place]? = some task ∧ task.detachedStream = some stream ∧
    stream.attached.attachId = attachId

/-- A write or a request for control, under the id of some attach, succeeds in
a step. -/
def Accepts (state : TerminalRun) (event : TerminalHistoryEvent)
    (next : TerminalRun) (attachId : String) : Prop :=
  ∃ place answers, event = .advance place (.proceed answers) ∧
    ((∃ index bytes rpcSessionId,
        state.tasks[place]? =
          some (.writingTo index attachId bytes rpcSessionId) ∧
        next.tasks[place]? = some .done) ∨
      ∃ request rpcSessionId index,
        state.tasks[place]? = some (.controllingOf request rpcSessionId index) ∧
        request.attachId = attachId ∧
        ∀ error, next.tasks[place]? ≠ some (.failed error))

/-- What a step may do with the input of terminals. -/
structure InputControlled (state : TerminalRun) (event : TerminalHistoryEvent)
    (next : TerminalRun) : Prop where
  /-- Bytes reach a terminal only from the owner of its primary attach, while
  that is live. -/
  reaches : ∀ {index : Nat} {session changed : TerminalSession},
    state.shared.objects[index]? = some session →
      next.shared.objects[index]? = some changed →
        changed.input ≠ session.input →
          ∃ place answers attachId bytes rpcSessionId,
            event = .advance place (.proceed answers) ∧
            state.tasks[place]? =
              some (.writingTo index attachId bytes rpcSessionId) ∧
            session.attachOwners attachId = some rpcSessionId ∧
            session.info.primaryAttachId = some attachId ∧
            LiveAttach state attachId rpcSessionId index
  /-- No write or request for control succeeds under a detached attach. -/
  accepts : ∀ {attachId : String}, Accepts state event next attachId →
    ¬Detached state attachId
  /-- Input of an attach that is not the primary one changes nothing. -/
  ignores : ∀ {place index rpcSessionId : Nat} {answers : TerminalAnswers}
    {attachId : String} {bytes : List UInt8} {session : TerminalSession},
    event = .advance place (.proceed answers) →
      state.tasks[place]? =
        some (.writingTo index attachId bytes rpcSessionId) →
      state.shared.objects[index]? = some session →
      session.info.primaryAttachId ≠ some attachId →
        next.shared = state.shared

/-- Whether a step that writes, or takes control, is one on a session that is
still in the table. -/
def staysRegistered (state : TerminalRun) : TerminalHistoryEvent → Bool
  | .advance place (.proceed _) =>
      match state.tasks[place]? with
      | some (.writingTo index _ _ _) | some (.controllingOf _ _ index) =>
          (state.shared.sessions.map Prod.snd).contains index
      | _ => true
  | _ => true

theorem registers_of_contains
    {windows : Bool} {history : List TerminalHistoryEvent}
    {state : TerminalRun} {index : Nat}
    (reached : terminalRun windows history = some state)
    (contains : (state.shared.sessions.map Prod.snd).contains index = true) :
    state.shared.registers index := by
  obtain ⟨entry, member, rfl⟩ :=
    List.mem_map.mp (List.contains_iff_mem.mp contains)
  exact ⟨entry.1, SortedMap.lookup_of_mem
    (registry reached).ascending.nodup member⟩

/-- An owner of a session in the table is live, and not detached. -/
theorem owner_is_live
    {windows : Bool} {history : List TerminalHistoryEvent}
    {state : TerminalRun} {index rpcSessionId : Nat} {attachId : String}
    {session : TerminalSession}
    (reached : terminalRun windows history = some state)
    (found : state.shared.objects[index]? = some session)
    (registered : state.shared.registers index)
    (owner : session.attachOwners attachId = some rpcSessionId) :
    LiveAttach state attachId rpcSessionId index ∧
      ¬Detached state attachId := by
  have minted := (terminal_mints_attachId windows).minted reached
  have table := attach_table reached
  obtain ⟨place, task, stream, lookup, holds, rfl, rpc, rfl⟩ :=
    table.owner found owner
  have attached : task.detachedStream = none := by
    cases detached : task.detachedStream with
    | none => rfl
    | some leaving =>
        have same := stream_of_detachedStream detached
        rw [holds] at same
        cases same
        rcases table.gone lookup detached found with none | gone
        · rw [none] at owner
          cases owner
        · exact absurd registered gone
  refine ⟨⟨place, task, stream, lookup, holds, attached, rfl, rpc, rfl⟩, ?_⟩
  rintro ⟨other, second, leaving, there, detached, same⟩
  have holdsToo := stream_of_detachedStream detached
  have named := attachId_of_stream holdsToo
  rw [same] at named
  cases minted.distinct lookup there (attachId_of_stream holds) named
  cases lookup.symm.trans there
  rw [detached] at attached
  cases attached

/-- A step of a session that is in the table writes input for its live primary
attach only. -/
theorem step_controls_input
    {windows : Bool} {history : List TerminalHistoryEvent}
    {state next : TerminalRun} {event : TerminalHistoryEvent}
    (reached : terminalRun windows history = some state)
    (registered : staysRegistered state event = true)
    (taken : (terminalSystem windows).step state event = some next) :
    InputControlled state event next := by
  cases terminal_step taken with
  | launch request =>
      constructor
      · intro index session changed found present different
        cases found.symm.trans present
        exact absurd rfl different
      · rintro attachId ⟨place, answers, same, -⟩
        cases same
      · intro place index rpcSessionId answers attachId bytes session same
        cases same
  | advance place task after input manager found effect =>
      have position : place < state.tasks.length :=
        (List.getElem?_eq_some_iff.mp found).1
      constructor
      · intro index session changed held present different
        rcases effect.session_after held with
          same | ⟨later, answers, there, rfl, lock, locked⟩
        · cases same.symm.trans present
          exact absurd rfl different
        · cases there.symm.trans present
          rcases locked.input with
            same | ⟨target, attachId, bytes, rpcSessionId, rfl, owner,
              primary⟩
          · exact absurd same different
          · cases lock
            have inTable : (state.shared.sessions.map Prod.snd).contains
                index = true := by
              simpa only [staysRegistered, found] using registered
            exact ⟨place, answers, attachId, bytes, rpcSessionId, rfl, found,
              owner, primary, (owner_is_live reached held
                (registers_of_contains reached inTable) owner).1⟩
      · rintro attachId ⟨place, answers, same, accepted⟩
        cases same
        rcases accepted with
          ⟨index, bytes, rpcSessionId, writing, ended⟩ |
            ⟨request, rpcSessionId, index, controlling, rfl, goesOn⟩
        · cases found.symm.trans writing
          rw [List.getElem?_set_self position] at ended
          have inTable : (state.shared.sessions.map Prod.snd).contains
              index = true := by
            simpa only [staysRegistered, found] using registered
          cases effect with
          | locked _ _ target session changed lock held locked =>
              cases lock
              generalize shape : some after = ended' at ended
              cases locked with
              | write _ _ _ _ _ outcome result =>
                  subst shape
                  cases ended
                  exact (owner_is_live reached held
                    (registers_of_contains reached inTable)
                    (TerminalSession.writeInput_ok result)).2
          | unlocked _ _ _ lock => cases lock
        · cases found.symm.trans controlling
          have inTable : (state.shared.sessions.map Prod.snd).contains
              index = true := by
            simpa only [staysRegistered, found] using registered
          cases effect with
          | locked _ _ target session changed lock held locked =>
              cases lock
              cases locked with
              | control _ _ _ _ result =>
                  exact (owner_is_live reached held
                    (registers_of_contains reached inTable)
                    (TerminalSession.takeControl_ok result)).2
              | controlFails _ _ _ _ error result =>
                  exact absurd (List.getElem?_set_self position)
                    (goesOn error)
          | unlocked _ _ _ lock => cases lock
      · intro other index rpcSessionId answers attachId bytes session same
          writing held secondary
        cases same
        cases found.symm.trans writing
        cases effect with
        | locked _ _ target session' changed lock there locked =>
            cases lock
            cases there.symm.trans held
            cases locked with
            | write _ _ _ _ _ outcome result =>
                rcases TerminalSession.writeInput_input result with
                  rfl | ⟨-, primary⟩
                · exact setSession_self held
                · exact absurd primary secondary
        | unlocked _ _ _ lock => cases lock

/-- In every run whose writes and requests for control take the lock of a
session that is still in the table, input reaches a terminal only from the
owner of its live primary attach, nothing succeeds under a detached attach, and
no two attaches have the same id. -/
theorem input_only_from_live_primary
    (windows : Bool) (history : List TerminalHistoryEvent)
    (state : TerminalRun)
    (reached : terminalRun windows history = some state)
    (condition : Throughout (terminalSystem windows).step ⟨.new, []⟩
      (fun state event => staysRegistered state event = true) history) :
    (∀ before event after early next, history = before ++ event :: after →
      terminalRun windows before = some early →
        (terminalSystem windows).step early event = some next →
          InputControlled early event next) ∧
      ∀ (place other : Nat) (task second : TerminalTask) (attachId : String),
        state.tasks[place]? = some task → state.tasks[other]? = some second →
          task.attachId = some attachId → second.attachId = some attachId →
            place = other := by
  constructor
  · intro before event after early next shape arrived taken
    exact step_controls_input arrived
      (condition before event after early shape arrived) taken
  · intro place other task second attachId found present named same
    exact ((terminal_mints_attachId windows).minted reached).distinct found
      present named same

/-- A client attaches to a session, takes control of it and sends input, which
is about to take the lock of the session. -/
def controlledSample : List TerminalHistoryEvent :=
  sampleSession ++
    .launch (.attach ⟨"terminal-1", none, 80, 24⟩ 7) ::
      terminalGoesOn sampleAnswers 1 4 ++
    .launch (.takeControl ⟨"terminal-1", "attach-1", 100, 30⟩ 7) ::
      terminalGoesOn sampleAnswers 2 3 ++
    .launch (.writeInput "terminal-1" "attach-1" [13] 7) ::
      terminalGoesOn sampleAnswers 3 1

/-- Input is written for the attach in control. -/
theorem input_only_from_live_primary_sample :
    ∃ state,
      terminalRun false
          (controlledSample ++ [.advance 3 (.proceed sampleAnswers)]) =
        some state ∧
      state.shared.objects[0]?.map TerminalSession.input = some [13] ∧
      (∀ before event after early next,
        controlledSample ++ [.advance 3 (.proceed sampleAnswers)] =
            before ++ event :: after →
          terminalRun false before = some early →
            (terminalSystem false).step early event = some next →
              InputControlled early event next) := by
  have sample : (terminalRun false
      (controlledSample ++ [.advance 3 (.proceed sampleAnswers)])).map
        (fun state => state.shared.objects[0]?.map TerminalSession.input) =
      some (some [13]) := by
    rfl
  obtain ⟨state, reached, input⟩ := Option.map_eq_some_iff.mp sample
  exact ⟨state, reached, input, (input_only_from_live_primary false _ state
    reached (throughout_of_checkEach (by rfl))).1⟩

/-- Before the input takes the lock, the session is closed and the attach
detached. -/
def detachedSample : List TerminalHistoryEvent :=
  controlledSample ++
    .launch (.closeSession "terminal-1") ::
      terminalGoesOn sampleAnswers 4 3 ++
    .advance 1 (.fail "stream is gone") :: terminalGoesOn sampleAnswers 1 1

/-- Input is written for an attach that was detached meanwhile. -/
theorem detached_attach_writes :
    ∃ state next,
      terminalRun false detachedSample = some state ∧
      (terminalSystem false).step state (.advance 3 (.proceed sampleAnswers)) =
        some next ∧
      next.shared.objects[0]?.map TerminalSession.input = some [13] ∧
      ¬InputControlled state (.advance 3 (.proceed sampleAnswers)) next := by
  have detached : (terminalRun false detachedSample).map (fun state =>
      (state.tasks[3]?,
        (state.tasks[1]?.bind TerminalTask.detachedStream).map fun stream =>
          stream.attached.attachId)) =
      some (some (.writingTo 0 "attach-1" [13] 7), some "attach-1") := by
    rfl
  have written : (terminalRun false
      (detachedSample ++ [.advance 3 (.proceed sampleAnswers)])).map
        (fun next => (next.tasks[3]?,
          next.shared.objects[0]?.map TerminalSession.input)) =
      some (some .done, some [13]) := by
    rfl
  obtain ⟨state, reached, values⟩ := Option.map_eq_some_iff.mp detached
  simp only [Prod.mk.injEq, Option.map_eq_some_iff, Option.bind_eq_some_iff]
    at values
  obtain ⟨writing, stream, ⟨task, lookup, left⟩, same⟩ := values
  obtain ⟨next, whole, values⟩ := Option.map_eq_some_iff.mp written
  obtain ⟨ended, input⟩ := Prod.mk.inj values
  obtain ⟨before, early, taken⟩ := run_concat_eq_some.mp whole
  cases early.symm.trans reached
  refine ⟨state, next, reached, taken, input, ?_⟩
  intro controlled
  exact controlled.accepts
    ⟨3, sampleAnswers, rfl, Or.inl ⟨0, [13], 7, writing, ended⟩⟩
    ⟨1, task, stream, lookup, left, same⟩

/-! ## Control -/

/-- Who controls a terminal, and its size. -/
@[ext]
structure ControlView where
  primaryAttachId : Option String
  size : Nat × Nat
  deriving DecidableEq, Repr

/-- Who is in control, and the size, as the table tells it. -/
def TerminalSessionInfo.control (info : TerminalSessionInfo) : ControlView :=
  ⟨info.primaryAttachId, (info.cols, info.rows)⟩

/-- What a subscriber learns from an event. -/
def ControlView.see (view : ControlView) : TerminalEvent → ControlView
  | .attached _ primaryAttachId session =>
      ⟨primaryAttachId, (session.cols, session.rows)⟩
  | .controlChanged primaryAttachId =>
      { view with primaryAttachId := some primaryAttachId }
  | .pseudoTerminalResized cols rows => { view with size := (cols, rows) }
  | _ => view

/-- What a request for control asks for. -/
def TakeTerminalControlReq.control (request : TakeTerminalControlReq) :
    ControlView :=
  ⟨some request.attachId, (request.viewportCols, request.viewportRows)⟩

/-- The events that a request for control sends, by what the record was. -/
def TakeTerminalControlReq.events (request : TakeTerminalControlReq)
    (info : TerminalSessionInfo) : List TerminalEvent :=
  (if info.primaryAttachId ≠ some request.attachId then
      [.controlChanged request.attachId]
    else []) ++
    if (info.cols, info.rows) ≠ (request.viewportCols, request.viewportRows)
    then [.pseudoTerminalResized request.viewportCols request.viewportRows]
    else []

/-- Whether an owner asks for a change of control that the pseudo-terminal
refuses. -/
def refusesResize (request : TakeTerminalControlReq) (rpcSessionId : Nat)
    (resizeError : Option String) (session : TerminalSession) : Bool :=
  decide (session.attachOwners request.attachId = some rpcSessionId) &&
    resizeError.isSome && decide (session.info.control ≠ request.control)

namespace TerminalSession

/-- A request that fails changes nothing exactly when no change was refused. -/
theorem takeControl_error
    {session changed : TerminalSession} {request : TakeTerminalControlReq}
    {rpcSessionId : Nat} {resizeError : Option String} {error : ServiceError}
    (result : session.takeControl request rpcSessionId resizeError =
      (changed, .error error)) :
    changed = session ↔
      refusesResize request rpcSessionId resizeError session = false := by
  unfold takeControl at result
  split at result
  · rename_i invalid
    cases result
    have unowned :
        session.attachOwners request.attachId ≠ some rpcSessionId := by
      intro owner
      rw [validateAttachOwner_eq_ok.mpr owner] at invalid
      cases invalid
    simp [refusesResize, unowned]
  · rename_i valid
    have owner := validateAttachOwner_eq_ok.mp valid
    split at result
    · rename_i failure
      cases result
      simp only [refusesResize, owner, decide_true, Option.isSome_some,
        Bool.true_and, decide_eq_false_iff_not, not_not]
      constructor
      · intro same
        have info := congrArg TerminalSession.info same
        rw [← info]
        rfl
      · intro same
        obtain ⟨⟨id, creator, created, attached, detached, output, cols, rows,
          primary, latest, title, exit, cwd, launch⟩, size, input, killer,
          sent, buffer, retained, parser, owners, closed⟩ := session
        simp only [TerminalSessionInfo.control,
          TakeTerminalControlReq.control, ControlView.mk.injEq,
          Prod.mk.injEq] at same
        obtain ⟨rfl, rfl, rfl⟩ := same
        rfl
    · cases result

/-- A request that succeeds is recorded, applied and told. -/
theorem takeControl_success
    {session changed : TerminalSession} {request : TakeTerminalControlReq}
    {rpcSessionId : Nat} {resizeError : Option String}
    (result : session.takeControl request rpcSessionId resizeError =
      (changed, .ok ())) :
    resizeError = none ∧
      session.attachOwners request.attachId = some rpcSessionId ∧
      changed.info.control = request.control ∧
      changed.size = (request.viewportCols, request.viewportRows) ∧
      changed.outputTx = session.outputTx ++ request.events session.info := by
  have owner := takeControl_ok result
  unfold takeControl at result
  split at result
  · cases result
  · split at result
    · cases result
    · cases result
      refine ⟨rfl, owner, ?_, ?_, ?_⟩
      · split <;> split <;> rfl
      · split <;> split <;> rfl
      · unfold TakeTerminalControlReq.events
        split <;> split <;> simp [send]

end TerminalSession

end Host
end WhatsGoingOn
