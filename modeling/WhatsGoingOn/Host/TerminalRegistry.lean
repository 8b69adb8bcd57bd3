import WhatsGoingOn.Host.TerminalSteps

/-!
# The table of sessions

Every session has an id of its own, and the table leads from an id to the
session with it.  A task that has looked a session up holds the session of that
id, also when it is no longer in the table.
-/

namespace WhatsGoingOn
namespace Host

open Daemon (ServiceError)

/-! ## The id of a session -/

/-- Taking control keeps the id and the owners. -/
theorem TerminalSession.takeControl_id
    {session changed : TerminalSession} {request : TakeTerminalControlReq}
    {rpcSessionId : Nat} {resizeError : Option String}
    {outcome : Except ServiceError Unit}
    (result : session.takeControl request rpcSessionId resizeError =
      (changed, outcome)) :
    changed.info.terminalSessionId = session.info.terminalSessionId ∧
      changed.attachOwners = session.attachOwners := by
  unfold takeControl at result
  split at result
  · cases result
    exact ⟨rfl, rfl⟩
  · split at result
    · cases result
      exact ⟨rfl, rfl⟩
    · cases result
      split <;> split <;> exact ⟨rfl, rfl⟩

theorem TerminalSession.recordOutput_id
    {windows : Bool} {session changed : TerminalSession}
    {bytes : List UInt8} {nowMs : Nat}
    {announced : Option TerminalSessionInfo}
    (recorded : session.recordOutput windows bytes nowMs =
      some (changed, announced)) :
    changed.info.terminalSessionId = session.info.terminalSessionId ∧
      changed.attachOwners = session.attachOwners := by
  obtain ⟨-, -, title, cwd, metadataParser, metadata, -, rfl⟩ :=
    recordOutput_eq recorded
  exact ⟨rfl, rfl⟩

theorem TerminalSession.markExited_id
    {session changed : TerminalSession}
    {status : Option (Nat × Option String)} {nowMs : Nat}
    (marked : session.markExited status nowMs = some changed) :
    changed.info.terminalSessionId = session.info.terminalSessionId ∧
      changed.attachOwners = session.attachOwners := by
  unfold markExited at marked
  split at marked
  · cases marked
  · cases marked
    exact ⟨rfl, rfl⟩

/-- No step changes the id of a session.  Attaching adds an owner and detaching
takes one away. -/
theorem LockedEffect.id_and_owners
    {windows : Bool} {session changed : TerminalSession}
    {answers : TerminalAnswers} {task after : TerminalTask}
    (effect : LockedEffect windows session answers task changed after) :
    changed.info.terminalSessionId = session.info.terminalSessionId ∧
      (changed.attachOwners = session.attachOwners ∨
        (∃ request rpcSessionId index attachId,
          task = .attachingTo request rpcSessionId index attachId ∧
          changed.attachOwners =
            Function.update session.attachOwners attachId
              (some rpcSessionId)) ∨
        ∃ stream index, task = .detachingFrom stream index ∧
          changed.attachOwners =
            Function.update session.attachOwners stream.attached.attachId
              none) := by
  cases effect with
  | attach request rpcSessionId index attachId changed attached result =>
      unfold TerminalSession.attach at result
      split at result
      · cases result
      · cases result
        exact ⟨rfl, Or.inr (Or.inl
          ⟨request, rpcSessionId, index, attachId, rfl, rfl⟩)⟩
  | refuse request rpcSessionId index attachId error =>
      exact ⟨rfl, Or.inl rfl⟩
  | detach stream index =>
      exact ⟨rfl, Or.inr (Or.inr ⟨stream, index, rfl, rfl⟩)⟩
  | control request rpcSessionId index changed result =>
      obtain ⟨id, owners⟩ := TerminalSession.takeControl_id result
      exact ⟨id, Or.inl owners⟩
  | controlFails request rpcSessionId index changed error result =>
      obtain ⟨id, owners⟩ := TerminalSession.takeControl_id result
      exact ⟨id, Or.inl owners⟩
  | write index attachId bytes rpcSessionId changed outcome result =>
      rw [TerminalSession.writeInput_effect result]
      exact ⟨rfl, Or.inl rfl⟩
  | close terminalSessionId index => exact ⟨rfl, Or.inl rfl⟩
  | drop terminalSessionId index bytes result => exact ⟨rfl, Or.inl rfl⟩
  | record terminalSessionId index bytes changed result =>
      obtain ⟨id, owners⟩ := TerminalSession.recordOutput_id result
      exact ⟨id, Or.inl owners⟩
  | recordMetadata terminalSessionId index bytes changed info result =>
      obtain ⟨id, owners⟩ := TerminalSession.recordOutput_id result
      exact ⟨id, Or.inl owners⟩
  | leave index status result => exact ⟨rfl, Or.inl rfl⟩
  | mark index status changed result =>
      obtain ⟨id, owners⟩ := TerminalSession.markExited_id result
      exact ⟨id, Or.inl owners⟩

/-! ## What a task has looked up -/

/-- The session that a task has looked up: its id and its place. -/
def TerminalTask.target : TerminalTask → Option (String × Nat)
  | .numbering request _ index | .attachingTo request _ index _ =>
      some (request.terminalSessionId, index)
  | .controllingOf request _ index => some (request.terminalSessionId, index)
  | .closingOf terminalSessionId index
  | .recordingTo terminalSessionId index _ => some (terminalSessionId, index)
  | task => task.stream.map fun stream =>
      (stream.attached.terminalSessionId, stream.index)

theorem target_of_fresh {task : TerminalTask} (fresh : task.fresh = true) :
    task.target = none := by
  cases task with
  | finished result => rfl
  | _ => first | rfl | cases fresh

/-- A task keeps what it has looked up, or looks it up now. -/
theorem TerminalEffect.target
    {windows : Bool} {manager next : TerminalManager}
    {task after : TerminalTask} {input : TerminalInput}
    {target : String × Nat}
    (effect : TerminalEffect windows manager task input next after)
    (holds : after.target = some target) :
    task.target = some target ∨ manager.getSession target.1 = some target.2 := by
  cases effect with
  | locked _ answers index session changed lock found effect =>
      cases effect with
      | attach request rpcSessionId index attachId changed attached result =>
          unfold TerminalSession.attach at result
          split at result
          · cases result
          · cases result
            exact Or.inl holds
      | detach stream index => exact Or.inl holds
      | _ => cases holds
  | unlocked _ answers _ lock effect =>
      cases effect with
      | announce announcement followup =>
          cases followup with
          | streaming stream => exact Or.inl holds
          | detached stream => exact Or.inl holds
          | _ => cases holds
      | number request rpcSessionId index => exact Or.inl holds
      | remove terminalSessionId index found =>
          cases holds
          exact Or.inr found
      | quiet _ _ effect =>
          cases effect with
          | attach request rpcSessionId index found =>
              cases holds
              exact Or.inr found
          | replay stream event pending first => exact Or.inl holds
          | replayed stream written exited => exact Or.inl holds
          | receive stream session received place next _ written running
              found got delivers goes =>
              subst goes delivers
              left
              split at holds <;> exact holds
          | detachMissing stream unknown => exact Or.inl holds
          | detach stream index found => exact Or.inl holds
          | control request rpcSessionId index found =>
              cases holds
              exact Or.inr found
          | record terminalSessionId bytes index found =>
              cases holds
              exact Or.inr found
          | _ => cases holds
      | _ => cases holds
  | broken _ error effect =>
      cases effect with
      | streaming stream => exact Or.inl holds
      | _ => cases holds

/-- A task keeps its stream. -/
theorem TerminalEffect.stream_kept
    {windows : Bool} {manager next : TerminalManager}
    {task after : TerminalTask} {input : TerminalInput}
    {stream : AttachStream}
    (effect : TerminalEffect windows manager task input next after)
    (holds : task.stream = some stream) :
    ∃ later, after.stream = some later ∧ later.attached = stream.attached ∧
      later.index = stream.index ∧
      later.rpcSessionId = stream.rpcSessionId := by
  cases effect with
  | locked _ answers index session changed lock found effect =>
      cases effect with
      | detach stream index =>
          cases holds
          exact ⟨_, rfl, rfl, rfl, rfl⟩
      | _ => cases holds
  | unlocked _ answers _ lock effect =>
      cases effect with
      | announce announcement followup =>
          cases followup with
          | streaming stream => exact ⟨_, holds, rfl, rfl, rfl⟩
          | detached stream => exact ⟨_, holds, rfl, rfl, rfl⟩
          | _ => cases holds
      | quiet _ _ effect =>
          cases effect with
          | replay stream event pending first =>
              cases holds
              exact ⟨_, rfl, rfl, rfl, rfl⟩
          | receive stream session received place next _ written running
              found got delivers goes =>
              cases holds
              subst goes delivers
              split <;> exact ⟨_, rfl, rfl, rfl, rfl⟩
          | replayed stream written exited => exact ⟨_, holds, rfl, rfl, rfl⟩
          | detachMissing stream unknown => exact ⟨_, holds, rfl, rfl, rfl⟩
          | detach stream index found => exact ⟨_, holds, rfl, rfl, rfl⟩
          | _ => cases holds
      | _ => cases holds
  | broken _ error effect =>
      cases effect with
      | streaming stream => exact ⟨_, holds, rfl, rfl, rfl⟩
      | _ => cases holds

/-! ## The table -/

/-- The id that a task is about to give to a new session. -/
def TerminalTask.inserts : TerminalTask → Option String
  | .inserting _ terminalSessionId _ _ _ => some terminalSessionId
  | _ => none

/-- The id of an attach that a task makes, or made. -/
def TerminalTask.attachId : TerminalTask → Option String
  | .attachingTo _ _ _ attachId => some attachId
  | task => task.stream.map fun stream => stream.attached.attachId

/-- A task that inserts a session has a new number for it. -/
theorem TerminalEffect.inserts
    {windows : Bool} {manager next : TerminalManager}
    {task after : TerminalTask} {input : TerminalInput} {minted : String}
    (effect : TerminalEffect windows manager task input next after)
    (named : after.inserts = some minted) :
    minted = "terminal-" ++ toString manager.nextSessionId ∧
      next.nextSessionId = manager.nextSessionId + 1 := by
  cases effect with
  | locked _ answers index session changed lock found effect =>
      cases effect <;> cases named
  | unlocked _ answers _ lock effect =>
      cases effect with
      | create request creatorClientId =>
          cases named
          exact ⟨rfl, rfl⟩
      | announce announcement followup => cases followup <;> cases named
      | quiet _ _ effect =>
          cases effect with
          | receive stream session received place next _ written running
              found got delivers goes =>
              subst goes
              split at named <;> cases named
          | _ => cases named
      | _ => cases named
  | broken _ error effect => cases effect <;> cases named

/-- A task that attaches has a new number for the attach. -/
theorem TerminalEffect.attachId
    {windows : Bool} {manager next : TerminalManager}
    {task after : TerminalTask} {input : TerminalInput} {minted : String}
    (effect : TerminalEffect windows manager task input next after)
    (named : after.attachId = some minted) :
    task.attachId = some minted ∨
      (minted = "attach-" ++ toString manager.nextAttachId ∧
        next.nextAttachId = manager.nextAttachId + 1) := by
  cases effect with
  | locked _ answers index session changed lock found effect =>
      cases effect with
      | attach request rpcSessionId index attachId changed attached result =>
          unfold TerminalSession.attach at result
          split at result
          · cases result
          · cases result
            exact Or.inl named
      | detach stream index => exact Or.inl named
      | _ => cases named
  | unlocked _ answers _ lock effect =>
      cases effect with
      | announce announcement followup =>
          cases followup with
          | streaming stream => exact Or.inl named
          | detached stream => exact Or.inl named
          | _ => cases named
      | number request rpcSessionId index =>
          cases named
          exact Or.inr ⟨rfl, rfl⟩
      | quiet _ _ effect =>
          cases effect with
          | replay stream event pending first => exact Or.inl named
          | replayed stream written exited => exact Or.inl named
          | receive stream session received place next _ written running
              found got delivers goes =>
              subst goes delivers
              left
              split at named <;> exact named
          | detachMissing stream unknown => exact Or.inl named
          | detach stream index found => exact Or.inl named
          | _ => cases named
      | _ => cases named
  | broken _ error effect =>
      cases effect with
      | streaming stream => exact Or.inl named
      | _ => cases named

/-- The counters of the manager only go up. -/
theorem TerminalEffect.counts
    {windows : Bool} {manager next : TerminalManager}
    {task after : TerminalTask} {input : TerminalInput}
    (effect : TerminalEffect windows manager task input next after) :
    manager.nextSessionId ≤ next.nextSessionId ∧
      manager.nextAttachId ≤ next.nextAttachId := by
  cases effect with
  | locked _ answers index session changed lock found effect =>
      exact ⟨Nat.le_refl _, Nat.le_refl _⟩
  | unlocked _ answers _ lock effect =>
      cases effect with
      | create request creatorClientId =>
          exact ⟨Nat.le_succ _, Nat.le_refl _⟩
      | number request rpcSessionId index =>
          exact ⟨Nat.le_refl _, Nat.le_succ _⟩
      | _ => exact ⟨Nat.le_refl _, Nat.le_refl _⟩
  | broken _ error effect => exact ⟨Nat.le_refl _, Nat.le_refl _⟩

/-- The ids of sessions are minted from a counter. -/
theorem terminal_mints_inserts (windows : Bool) :
    (terminalSystem windows).Mints "terminal-"
      TerminalManager.nextSessionId TerminalTask.inserts where
  launches := by
    rintro shared request task ⟨⟩
    have fresh := start_fresh request
    cases start : TerminalTask.start request with
    | inserting => simp [start, TerminalTask.fresh] at fresh
    | _ => rfl
  counts acted := (terminal_effect acted).counts.1
  advances acted named := Or.inr ((terminal_effect acted).inserts named)
  disturbs {_ cause _} _ := cause.elim

/-- The ids of attaches are minted from a counter. -/
theorem terminal_mints_attachId (windows : Bool) :
    (terminalSystem windows).Mints "attach-"
      TerminalManager.nextAttachId TerminalTask.attachId where
  launches := by
    rintro shared request task ⟨⟩
    have fresh := start_fresh request
    cases start : TerminalTask.start request with
    | finished => rfl
    | _ => first | rfl | simp [start, TerminalTask.fresh] at fresh
  counts acted := (terminal_effect acted).counts.2
  advances acted named := (terminal_effect acted).attachId named
  disturbs {_ cause _} _ := cause.elim

/-- An entry of the table was there before, or is that of a new session. -/
theorem TerminalEffect.getSession
    {windows : Bool} {manager next : TerminalManager}
    {task after : TerminalTask} {input : TerminalInput}
    {terminalSessionId : String} {index : Nat}
    (effect : TerminalEffect windows manager task input next after)
    (found : next.getSession terminalSessionId = some index) :
    manager.getSession terminalSessionId = some index ∨
      (task.inserts = some terminalSessionId ∧
        index = manager.objects.length ∧
        ∃ session, next.objects[index]? = some session ∧
          session.info.terminalSessionId = terminalSessionId) := by
  cases effect with
  | locked _ answers place session changed lock present effect =>
      exact Or.inl found
  | unlocked _ answers _ lock effect =>
      cases effect with
      | insert request inserted creatorClientId initialCwd createdAtMs session
          created =>
          unfold TerminalManager.getSession TerminalManager.insertSession
            at found
          rw [SortedMap.lookup_insert] at found
          split at found
          · rename_i same
            cases found
            refine Or.inr ⟨congrArg some same.symm, rfl, session,
              List.getElem?_concat_length, ?_⟩
            rw [created, same]
            rfl
          · exact Or.inl found
      | remove removed place present =>
          unfold TerminalManager.getSession TerminalManager.removeSession
            at found
          rw [SortedMap.lookup_filter_ne] at found
          split at found
          · cases found
          · exact Or.inl found
      | _ => exact Or.inl found
  | broken _ error effect => exact Or.inl found

/-- The table stays sorted by its ids. -/
theorem TerminalEffect.ascending
    {windows : Bool} {manager next : TerminalManager}
    {task after : TerminalTask} {input : TerminalInput}
    (effect : TerminalEffect windows manager task input next after)
    (ascending : SortedMap.Ascending manager.sessions) :
    SortedMap.Ascending next.sessions := by
  cases effect with
  | locked _ answers place session changed lock present effect =>
      exact ascending
  | unlocked _ answers _ lock effect =>
      cases effect with
      | insert request inserted creatorClientId initialCwd createdAtMs session
          created =>
          exact SortedMap.ascending_insert _ _ ascending
      | remove removed place present => exact ascending.filter _
      | _ => exact ascending
  | broken _ error effect => exact ascending

/-- The table is one of ids, each leading to the session with that id. -/
structure Registry (state : TerminalRun) : Prop where
  ascending : SortedMap.Ascending state.shared.sessions
  entry : ∀ {terminalSessionId : String} {index : Nat},
    state.shared.getSession terminalSessionId = some index →
      ∃ session, state.shared.objects[index]? = some session ∧
        session.info.terminalSessionId = terminalSessionId
  below : ∀ {index : Nat} {session : TerminalSession},
    state.shared.objects[index]? = some session →
      Text.Numbered "terminal-" state.shared.nextSessionId
        session.info.terminalSessionId
  fresh : ∀ {place index : Nat} {task : TerminalTask} {inserted : String}
    {session : TerminalSession},
    state.tasks[place]? = some task → task.inserts = some inserted →
      state.shared.objects[index]? = some session →
        session.info.terminalSessionId ≠ inserted
  distinct : ∀ {index other : Nat} {session second : TerminalSession},
    state.shared.objects[index]? = some session →
      state.shared.objects[other]? = some second →
        session.info.terminalSessionId = second.info.terminalSessionId →
          index = other
  target : ∀ {place index : Nat} {task : TerminalTask}
    {terminalSessionId : String},
    state.tasks[place]? = some task →
      task.target = some (terminalSessionId, index) →
        ∃ session, state.shared.objects[index]? = some session ∧
          session.info.terminalSessionId = terminalSessionId

/-- A session keeps its place and its id. -/
theorem TerminalEffect.id_after
    {windows : Bool} {manager next : TerminalManager}
    {task after : TerminalTask} {input : TerminalInput} {index : Nat}
    {terminalSessionId : String}
    (effect : TerminalEffect windows manager task input next after)
    (held : ∃ session, manager.objects[index]? = some session ∧
      session.info.terminalSessionId = terminalSessionId) :
    ∃ session, next.objects[index]? = some session ∧
      session.info.terminalSessionId = terminalSessionId := by
  obtain ⟨session, found, same⟩ := held
  rcases effect.session_after found with
    found | ⟨changed, answers, found, -, -, locked⟩
  · exact ⟨session, found, same⟩
  · exact ⟨changed, found, locked.id_and_owners.1.trans same⟩

/-- The id of a session after a step was the id of that place before, or that
of a new session. -/
theorem TerminalEffect.id_before
    {windows : Bool} {manager next : TerminalManager}
    {task after : TerminalTask} {input : TerminalInput} {index : Nat}
    {changed : TerminalSession}
    (effect : TerminalEffect windows manager task input next after)
    (found : next.objects[index]? = some changed) :
    (∃ session, manager.objects[index]? = some session ∧
        session.info.terminalSessionId = changed.info.terminalSessionId) ∨
      (task.inserts = some changed.info.terminalSessionId ∧
        index = manager.objects.length ∧ after.inserts = none) := by
  rcases effect.session_before found with
    found | ⟨session, answers, found, -, -, locked⟩ |
      ⟨request, terminalSessionId, creatorClientId, initialCwd, createdAtMs,
        rfl, rfl, rfl⟩
  · exact Or.inl ⟨changed, found, rfl⟩
  · exact Or.inl ⟨session, found, locked.id_and_owners.1.symm⟩
  · refine Or.inr ⟨rfl, rfl, ?_⟩
    cases effect with
    | locked _ _ _ _ _ lock => cases lock
    | unlocked _ answers _ lock effect =>
        cases effect with
        | insert => rfl
        | quiet _ _ effect => cases effect
    | broken _ error effect => cases effect

/-- The table names the sessions by their ids in every run. -/
theorem registry
    {windows : Bool} {history : List TerminalHistoryEvent}
    {state : TerminalRun}
    (reached : terminalRun windows history = some state) :
    Registry state := by
  apply run_invariant _ _ reached
  · exact
      { ascending := List.Pairwise.nil
        entry := by simp [TerminalManager.new, TerminalManager.getSession]
        below := by simp [TerminalManager.new]
        fresh := by simp
        distinct := by simp [TerminalManager.new]
        target := by simp }
  · intro history state event next earlier invariant taken
    have minted := (terminal_mints_inserts windows).minted earlier
    cases terminal_step taken with
    | launch request =>
        refine { invariant with fresh := ?_, target := ?_ }
        · intro place index task inserted session found inserts present
          rcases TaskSystem.getElem?_concat_cases found with
            ⟨-, rfl⟩ | ⟨-, older⟩
          · have fresh := start_fresh request
            cases start : TerminalTask.start request with
            | inserting => simp [start, TerminalTask.fresh] at fresh
            | _ =>
                rw [start] at inserts
                cases inserts
          · exact invariant.fresh older inserts present
        · intro place index task terminalSessionId found target
          rcases TaskSystem.getElem?_concat_cases found with
            ⟨-, rfl⟩ | ⟨-, older⟩
          · rw [target_of_fresh (start_fresh request)] at target
            cases target
          · exact invariant.target older target
    | advance place acting after input manager found effect =>
        have counts := effect.counts.1
        exact
          { ascending := effect.ascending invariant.ascending
            entry := by
              intro terminalSessionId index lookup
              rcases effect.getSession lookup with held | ⟨-, -, new⟩
              · exact effect.id_after (invariant.entry held)
              · exact new
            below := by
              intro index session present
              rcases effect.id_before present with
                ⟨earlier, held, same⟩ | ⟨inserts, -, -⟩
              · rw [← same]
                exact (invariant.below held).mono counts
              · exact (minted.below found inserts).mono counts
            fresh := by
              intro other index task inserted session lookup inserts present
              rcases TaskSystem.getElem?_set_cases lookup with
                ⟨rfl, rfl⟩ | ⟨apart, older⟩
              · obtain ⟨rfl, higher⟩ := effect.inserts inserts
                rcases effect.id_before present with
                  ⟨earlier, held, same⟩ | ⟨-, -, none⟩
                · rw [← same]
                  exact (invariant.below held).ne_next
                · rw [inserts] at none
                  cases none
              · rcases effect.id_before present with
                  ⟨earlier, held, same⟩ | ⟨named, -, -⟩
                · rw [← same]
                  exact invariant.fresh older inserts held
                · intro same
                  rw [same] at named
                  exact apart (minted.distinct older found inserts named)
            distinct := by
              intro index other session second present there same
              rcases effect.id_before present with
                ⟨earlier, held, id⟩ | ⟨inserts, place, -⟩
              · rcases effect.id_before there with
                  ⟨elder, kept, name⟩ | ⟨inserts, place, -⟩
                · apply invariant.distinct held kept
                  rw [id, name, same]
                · exact (invariant.fresh found inserts held
                    (id.trans same)).elim
              · rcases effect.id_before there with
                  ⟨elder, kept, name⟩ | ⟨-, position, -⟩
                · exact (invariant.fresh found inserts kept
                    (name.trans same.symm)).elim
                · exact place.trans position.symm
            target := by
              intro other index task terminalSessionId lookup target
              rcases TaskSystem.getElem?_set_cases lookup with
                ⟨rfl, rfl⟩ | ⟨-, older⟩
              · rcases effect.target target with held | entry
                · exact effect.id_after (invariant.target found held)
                · exact effect.id_after (invariant.entry entry)
              · exact effect.id_after (invariant.target older target) }

end Host
end WhatsGoingOn
