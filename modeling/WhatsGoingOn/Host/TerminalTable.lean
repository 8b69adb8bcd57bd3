import WhatsGoingOn.Host.TerminalControl
import WhatsGoingOn.Web.TerminalSessions

/-!
# What the subscribers of the table are told

An operation changes a session under its lock, and tells the subscribers of the
table when it has left the lock.  Until then it announces the session.  Nothing
orders the announcements of one session, so that an older row may be told last,
also of a session whose removal was told.
-/

namespace WhatsGoingOn
namespace Host

open ChangeLog Web
open Daemon (ServiceError)

/-! ## Announcements -/

/-- The session that a task still has to tell of. -/
def TerminalTask.announces : TerminalTask → Option String
  | .announcing announcement _ => some announcement.subject
  | .closingOf terminalSessionId _ => some terminalSessionId
  | _ => none

/-- The session of whose removal a task still has to tell. -/
def TerminalTask.removes : TerminalTask → Option String
  | .announcing (.remove terminalSessionId) _
  | .closingOf terminalSessionId _ => some terminalSessionId
  | _ => none

theorem announces_of_removes {task : TerminalTask} {terminalSessionId : String}
    (removes : task.removes = some terminalSessionId) :
    task.announces = some terminalSessionId := by
  cases task with
  | announcing announcement followup =>
      cases announcement with
      | upsert info => cases removes
      | remove removed => exact removes
  | closingOf removed index => exact removes
  | _ => cases removes

theorem announces_of_fresh {task : TerminalTask} (fresh : task.fresh = true) :
    task.announces = none := by
  cases task with
  | finished result => rfl
  | _ => first | rfl | cases fresh

@[simp] theorem announces_after (followup : Followup) :
    (TerminalTask.after followup).announces = none := by
  cases followup <;> rfl

/-- A record without what output changes. -/
def TerminalSessionInfo.withoutOutput (info : TerminalSessionInfo) :
    TerminalSessionInfo :=
  { info with latestOutputSeq := 0, lastOutputAtMs := none }

namespace TerminalManager

/-- The record of a session in the table. -/
def row (manager : TerminalManager) (terminalSessionId : String) :
    Option TerminalSessionInfo :=
  (manager.getSession terminalSessionId).bind fun index =>
    manager.objects[index]?.map TerminalSession.info

/-- What a client shows that was told everything. -/
def toldTable (manager : TerminalManager) : List TerminalSessionInfo :=
  manager.tableTx.foldl applyTerminalSessionsEvent []

/-- What the broadcasts of the table have changed, in their order. -/
def toldChanges (manager : TerminalManager) :
    List (Change String TerminalSessionInfo) :=
  manager.tableTx.flatMap patchChanges

/-- Whether what was told of a session is what the table has, but for the
output. -/
def Agrees (manager : TerminalManager) (rows : List TerminalSessionInfo)
    (terminalSessionId : String) : Prop :=
  (shown rows terminalSessionId).map TerminalSessionInfo.withoutOutput =
    (manager.row terminalSessionId).map TerminalSessionInfo.withoutOutput

instance (manager : TerminalManager) (rows : List TerminalSessionInfo)
    (terminalSessionId : String) :
    Decidable (manager.Agrees rows terminalSessionId) :=
  inferInstanceAs (Decidable (Option.map _ _ = Option.map _ _))

theorem toldTable_broadcast (manager : TerminalManager)
    (event : TerminalSessionsTableEvent) :
    (manager.broadcast event).toldTable =
      applyTerminalSessionsEvent manager.toldTable event := by
  unfold toldTable broadcast
  rw [List.foldl_append]
  rfl

theorem toldChanges_broadcast (manager : TerminalManager)
    (announcement : Announcement) :
    (manager.broadcast announcement.event).toldChanges =
      manager.toldChanges ++ [announcedChange announcement] := by
  unfold toldChanges broadcast
  simp [patchChanges_event]

theorem row_broadcast (manager : TerminalManager)
    (event : TerminalSessionsTableEvent) (terminalSessionId : String) :
    (manager.broadcast event).row terminalSessionId =
      manager.row terminalSessionId := rfl

end TerminalManager

/-! ## What a step does to the table -/

/-- Only an announcement adds to the channel of the table. -/
theorem TerminalEffect.tableTx
    {windows : Bool} {manager next : TerminalManager}
    {task after : TerminalTask} {input : TerminalInput}
    (effect : TerminalEffect windows manager task input next after) :
    (next.tableTx = manager.tableTx ∧
        ∀ announcement followup, task ≠ .announcing announcement followup) ∨
      ∃ announcement followup answers,
        task = .announcing announcement followup ∧
        input = .proceed answers ∧
        next = manager.broadcast announcement.event ∧
        after = .after followup := by
  cases effect with
  | locked _ answers index session changed lock found effect =>
      left
      refine ⟨rfl, ?_⟩
      rintro announcement followup rfl
      cases lock
  | unlocked _ answers _ lock effect =>
      cases effect with
      | announce announcement followup =>
          exact Or.inr
            ⟨announcement, followup, answers, rfl, rfl, rfl, rfl⟩
      | quiet _ _ effect =>
          left
          refine ⟨rfl, ?_⟩
          rintro announcement followup rfl
          cases effect
      | _ => exact Or.inl ⟨rfl, by simp⟩
  | broken _ error effect =>
      left
      refine ⟨rfl, ?_⟩
      rintro announcement followup rfl
      cases effect

/-- A task that is to tell of a removal has taken the session off the table,
or has had to before. -/
theorem TerminalEffect.removes
    {windows : Bool} {manager next : TerminalManager}
    {task after : TerminalTask} {input : TerminalInput}
    {terminalSessionId : String}
    (effect : TerminalEffect windows manager task input next after)
    (removes : after.removes = some terminalSessionId) :
    (task.removes = some terminalSessionId ∧
        next.tableTx = manager.tableTx) ∨
      (task.removes = none ∧
        next = manager.removeSession terminalSessionId ∧
        ∃ index, manager.getSession terminalSessionId = some index) := by
  cases effect with
  | locked _ answers index session changed lock found effect =>
      cases effect with
      | close closed index =>
          cases removes
          exact Or.inl ⟨rfl, rfl⟩
      | _ => cases removes
  | unlocked _ answers _ lock effect =>
      cases effect with
      | announce announcement followup =>
          have silent := announces_of_removes removes
          rw [announces_after] at silent
          cases silent
      | remove removed index found =>
          cases removes
          exact Or.inr ⟨rfl, rfl, index, found⟩
      | quiet _ _ effect =>
          cases effect with
          | receive stream session received place _ _ written running found
              got delivers goes =>
              subst goes
              split at removes <;> cases removes
          | _ => cases removes
      | _ => cases removes
  | broken _ error effect => cases effect <;> cases removes

/-- A task tells of the removal that it has to tell of, or still has to. -/
theorem TerminalEffect.removes_kept
    {windows : Bool} {manager next : TerminalManager}
    {task after : TerminalTask} {input : TerminalInput}
    {terminalSessionId : String}
    (effect : TerminalEffect windows manager task input next after)
    (removes : task.removes = some terminalSessionId) :
    after.removes = some terminalSessionId ∨
      ∃ followup, task = .announcing (.remove terminalSessionId) followup := by
  cases effect with
  | locked _ answers index session changed lock found effect =>
      cases effect with
      | close closed index => exact Or.inl removes
      | _ => cases removes
  | unlocked _ answers _ lock effect =>
      cases effect with
      | announce announcement followup =>
          cases announcement with
          | upsert info => cases removes
          | remove removed =>
              cases removes
              exact Or.inr ⟨followup, rfl⟩
      | quiet _ _ effect => cases effect <;> cases removes
      | _ => cases removes
  | broken _ error effect => cases effect <;> cases removes

/-- A session stays in the table, unless a task takes it off. -/
theorem TerminalEffect.getSession_after
    {windows : Bool} {manager next : TerminalManager}
    {task after : TerminalTask} {input : TerminalInput}
    {terminalSessionId : String} {index : Nat}
    (effect : TerminalEffect windows manager task input next after)
    (old : task.inserts ≠ some terminalSessionId)
    (found : manager.getSession terminalSessionId = some index) :
    next.getSession terminalSessionId = some index ∨
      after.removes = some terminalSessionId := by
  cases effect with
  | locked _ answers place session changed lock present effect =>
      exact Or.inl found
  | unlocked _ answers _ lock effect =>
      cases effect with
      | insert request inserted creatorClientId initialCwd createdAtMs session
          created =>
          left
          unfold TerminalManager.getSession TerminalManager.insertSession
          rw [SortedMap.lookup_insert, if_neg]
          · exact found
          · rintro rfl
            exact old rfl
      | remove removed place present =>
          unfold TerminalManager.getSession TerminalManager.removeSession
          rw [SortedMap.lookup_filter_ne]
          split
          · rename_i same
            exact Or.inr (congrArg some same.symm)
          · exact Or.inl found
      | _ => exact Or.inl found
  | broken _ error effect => exact Or.inl found

/-- There is, or was, a session of some id. -/
def TerminalManager.Knows (manager : TerminalManager)
    (terminalSessionId : String) : Prop :=
  ∃ (index : Nat) (session : TerminalSession),
    manager.objects[index]? = some session ∧
      session.info.terminalSessionId = terminalSessionId

theorem TerminalEffect.knows
    {windows : Bool} {manager next : TerminalManager}
    {task after : TerminalTask} {input : TerminalInput}
    {terminalSessionId : String}
    (effect : TerminalEffect windows manager task input next after)
    (known : manager.Knows terminalSessionId) :
    next.Knows terminalSessionId := by
  obtain ⟨index, held⟩ := known
  exact ⟨index, effect.id_after held⟩

/-- A session that was not there before is in the table. -/
theorem TerminalEffect.knows_before
    {windows : Bool} {manager next : TerminalManager}
    {task after : TerminalTask} {input : TerminalInput}
    {terminalSessionId : String}
    (effect : TerminalEffect windows manager task input next after)
    (known : next.Knows terminalSessionId) :
    manager.Knows terminalSessionId ∨
      ∃ index, next.getSession terminalSessionId = some index := by
  obtain ⟨index, changed, found, rfl⟩ := known
  rcases effect.id_before found with
    ⟨session, held, same⟩ | ⟨inserts, -, -⟩
  · exact Or.inl ⟨index, session, held, same⟩
  · cases effect with
    | locked _ answers place session updated lock present effect =>
        cases effect <;> cases inserts
    | unlocked _ answers _ lock effect =>
        cases effect with
        | insert request inserted creatorClientId initialCwd createdAtMs
            session created =>
            cases inserts
            right
            refine ⟨manager.objects.length, ?_⟩
            unfold TerminalManager.getSession TerminalManager.insertSession
            rw [SortedMap.lookup_insert, if_pos rfl]
        | quiet _ _ effect => cases effect <;> cases inserts
        | _ => cases inserts
    | broken _ error effect => cases effect <;> cases inserts

/-- A task announces a session that there is. -/
theorem TerminalEffect.announces
    {windows : Bool} {manager next : TerminalManager}
    {task after : TerminalTask} {input : TerminalInput}
    {terminalSessionId : String}
    (effect : TerminalEffect windows manager task input next after)
    (announces : after.announces = some terminalSessionId) :
    task.announces = some terminalSessionId ∨
      next.Knows terminalSessionId ∨
      ∃ index, manager.getSession terminalSessionId = some index := by
  cases effect with
  | locked _ answers index session changed lock found effect =>
      have inside := (List.getElem?_eq_some_iff.mp found).1
      have known : (manager.setSession index changed).Knows
          changed.info.terminalSessionId :=
        ⟨index, changed, List.getElem?_set_self inside, rfl⟩
      cases effect with
      | close closed index => exact Or.inl announces
      | recordMetadata recorded index bytes changed info result =>
          obtain ⟨-, same, -⟩ := TerminalSession.recordOutput_eq result
          cases same info rfl
          cases announces
          exact Or.inr (Or.inl known)
      | attach | detach | control | mark =>
          cases announces
          exact Or.inr (Or.inl known)
      | _ => cases announces
  | unlocked _ answers _ lock effect =>
      cases effect with
      | insert request inserted creatorClientId initialCwd createdAtMs session
          created =>
          cases announces
          exact Or.inr (Or.inl ⟨manager.objects.length, session,
            List.getElem?_concat_length, rfl⟩)
      | announce announcement followup =>
          rw [announces_after] at announces
          cases announces
      | remove removed index found =>
          cases announces
          exact Or.inr (Or.inr ⟨index, found⟩)
      | quiet _ _ effect =>
          cases effect with
          | receive stream session received place _ _ written running found
              got delivers goes =>
              subst goes
              split at announces <;> cases announces
          | _ => cases announces
      | _ => cases announces
  | broken _ error effect => cases effect <;> cases announces

/-! ## Removals -/

/-- A session that was taken off the table stays off it, and one task tells of
its removal. -/
structure Removals (state : TerminalRun) : Prop where
  announced : ∀ {place : Nat} {task : TerminalTask}
    {terminalSessionId : String}, state.tasks[place]? = some task →
      task.announces = some terminalSessionId →
        state.shared.Knows terminalSessionId
  pending : ∀ {place : Nat} {task : TerminalTask}
    {terminalSessionId : String}, state.tasks[place]? = some task →
      task.removes = some terminalSessionId →
        state.shared.getSession terminalSessionId = none
  distinct : ∀ {place other : Nat} {task second : TerminalTask}
    {terminalSessionId : String}, state.tasks[place]? = some task →
      state.tasks[other]? = some second →
        task.removes = some terminalSessionId →
          second.removes = some terminalSessionId → place = other
  told : ∀ {terminalSessionId : String},
    ⟨terminalSessionId, none⟩ ∈ state.shared.toldChanges →
      state.shared.Knows terminalSessionId ∧
        state.shared.getSession terminalSessionId = none ∧
        ∀ (place : Nat) (task : TerminalTask),
          state.tasks[place]? = some task →
            task.removes ≠ some terminalSessionId
  gone : ∀ {terminalSessionId : String},
    state.shared.Knows terminalSessionId →
      state.shared.getSession terminalSessionId = none →
        (∃ (place : Nat) (task : TerminalTask),
            state.tasks[place]? = some task ∧
              task.removes = some terminalSessionId) ∨
          ⟨terminalSessionId, none⟩ ∈ state.shared.toldChanges

/-- What is told grows by what a task announces. -/
theorem TerminalEffect.toldChanges
    {windows : Bool} {manager next : TerminalManager}
    {task after : TerminalTask} {input : TerminalInput}
    (effect : TerminalEffect windows manager task input next after) :
    next.toldChanges = manager.toldChanges ∨
      ∃ announcement followup, task = .announcing announcement followup ∧
        after = .after followup ∧
        next.toldChanges =
          manager.toldChanges ++ [announcedChange announcement] := by
  rcases effect.tableTx with
    ⟨same, -⟩ | ⟨announcement, followup, answers, rfl, rfl, rfl, rfl⟩
  · left
    unfold TerminalManager.toldChanges
    rw [same]
  · exact Or.inr ⟨announcement, followup, rfl, rfl,
      manager.toldChanges_broadcast announcement⟩

/-- A session that is off the table stays off. -/
theorem TerminalEffect.stays_off
    {windows : Bool} {manager next : TerminalManager}
    {task after : TerminalTask} {input : TerminalInput}
    {terminalSessionId : String}
    (effect : TerminalEffect windows manager task input next after)
    (old : task.inserts ≠ some terminalSessionId)
    (off : manager.getSession terminalSessionId = none) :
    next.getSession terminalSessionId = none := by
  cases found : next.getSession terminalSessionId with
  | none => rfl
  | some index =>
      rcases effect.getSession found with held | ⟨inserts, -, -⟩
      · rw [off] at held
        cases held
      · exact (old inserts).elim

namespace Removals

variable {windows : Bool} {state : TerminalRun} {place : Nat}
  {acting after : TerminalTask} {input : TerminalInput}
  {manager : TerminalManager} {terminalSessionId : String}

/-- A task inserts no session that there is. -/
theorem not_inserts_of_knows (table : Registry state)
    (found : state.tasks[place]? = some acting)
    (known : state.shared.Knows terminalSessionId) :
    acting.inserts ≠ some terminalSessionId := by
  intro inserts
  obtain ⟨index, session, present, same⟩ := known
  exact table.fresh found inserts present same

/-- A session that was off the table, and is not inserted, is so after a step. -/
theorem still_off (table : Registry state)
    (found : state.tasks[place]? = some acting)
    (effect : TerminalEffect windows state.shared acting input manager after)
    (known : state.shared.Knows terminalSessionId)
    (off : state.shared.getSession terminalSessionId = none) :
    manager.getSession terminalSessionId = none :=
  effect.stays_off (not_inserts_of_knows table found known) off

/-- Where a task is left to tell of a removal, no other begins to. -/
theorem alone (invariant : Removals state)
    (found : state.tasks[place]? = some acting)
    (effect : TerminalEffect windows state.shared acting input manager after)
    {other : Nat} {second : TerminalTask} (apart : other ≠ place)
    (present : state.tasks[other]? = some second)
    (removes : second.removes = some terminalSessionId) :
    after.removes ≠ some terminalSessionId := by
  intro same
  rcases effect.removes same with ⟨held, -⟩ | ⟨-, -, index, there⟩
  · exact apart (invariant.distinct present found removes held)
  · rw [invariant.pending present removes] at there
    cases there

/-- A session that a task announces is there after a step. -/
theorem announced_advance (invariant : Removals state) (table : Registry state)
    (found : state.tasks[place]? = some acting)
    (effect : TerminalEffect windows state.shared acting input manager after)
    {other : Nat} {task : TerminalTask}
    (lookup : (state.tasks.set place after)[other]? = some task)
    (announces : task.announces = some terminalSessionId) :
    manager.Knows terminalSessionId := by
  rcases TaskSystem.getElem?_set_cases lookup with ⟨rfl, rfl⟩ | ⟨-, older⟩
  · rcases effect.announces announces with held | known | ⟨index, there⟩
    · exact effect.knows (invariant.announced found held)
    · exact known
    · exact effect.knows ⟨index, table.entry there⟩
  · exact effect.knows (invariant.announced older announces)

/-- A session of which a task is to tell that it is removed is off the table
after a step. -/
theorem pending_advance (invariant : Removals state) (table : Registry state)
    (found : state.tasks[place]? = some acting)
    (effect : TerminalEffect windows state.shared acting input manager after)
    {other : Nat} {task : TerminalTask}
    (lookup : (state.tasks.set place after)[other]? = some task)
    (removes : task.removes = some terminalSessionId) :
    manager.getSession terminalSessionId = none := by
  rcases TaskSystem.getElem?_set_cases lookup with ⟨rfl, rfl⟩ | ⟨-, older⟩
  · rcases effect.removes removes with ⟨held, -⟩ | ⟨-, rfl, -⟩
    · exact still_off table found effect
        (invariant.announced found (announces_of_removes held))
        (invariant.pending found held)
    · unfold TerminalManager.getSession TerminalManager.removeSession
      rw [SortedMap.lookup_filter_ne, if_pos rfl]
  · exact still_off table found effect
      (invariant.announced older (announces_of_removes removes))
      (invariant.pending older removes)

/-- One task is to tell of a removal after a step. -/
theorem distinct_advance (invariant : Removals state)
    (found : state.tasks[place]? = some acting)
    (effect : TerminalEffect windows state.shared acting input manager after)
    {first other : Nat} {task second : TerminalTask}
    (lookup : (state.tasks.set place after)[first]? = some task)
    (present : (state.tasks.set place after)[other]? = some second)
    (removes : task.removes = some terminalSessionId)
    (same : second.removes = some terminalSessionId) : first = other := by
  rcases TaskSystem.getElem?_set_cases lookup with
    ⟨rfl, rfl⟩ | ⟨apart, older⟩
  · rcases TaskSystem.getElem?_set_cases present with
      ⟨rfl, rfl⟩ | ⟨apart, elder⟩
    · rfl
    · exact (invariant.alone found effect apart elder same removes).elim
  · rcases TaskSystem.getElem?_set_cases present with
      ⟨rfl, rfl⟩ | ⟨-, elder⟩
    · exact (invariant.alone found effect apart older removes same).elim
    · exact invariant.distinct older elder removes same

/-- Of a removal that was told, no task is to tell after a step. -/
theorem silent_advance (invariant : Removals state)
    (found : state.tasks[place]? = some acting)
    (effect : TerminalEffect windows state.shared acting input manager after)
    (removed : ⟨terminalSessionId, none⟩ ∈ state.shared.toldChanges)
    {other : Nat} {task : TerminalTask}
    (lookup : (state.tasks.set place after)[other]? = some task) :
    task.removes ≠ some terminalSessionId := by
  obtain ⟨known, off, none⟩ := invariant.told removed
  intro removes
  rcases TaskSystem.getElem?_set_cases lookup with ⟨rfl, rfl⟩ | ⟨-, older⟩
  · rcases effect.removes removes with ⟨held, -⟩ | ⟨-, -, index, there⟩
    · exact none other acting found held
    · rw [off] at there
      cases there
  · exact none other task older removes

/-- Of a removal that is told in a step, no task is to tell after it. -/
theorem silent_announced (invariant : Removals state) {followup : Followup}
    (found : state.tasks[place]? =
      some (.announcing (.remove terminalSessionId) followup))
    {other : Nat} {task : TerminalTask}
    (lookup : (state.tasks.set place (.after followup))[other]? = some task) :
    task.removes ≠ some terminalSessionId := by
  intro removes
  rcases TaskSystem.getElem?_set_cases lookup with ⟨-, rfl⟩ | ⟨apart, older⟩
  · have silent := announces_of_removes removes
    rw [announces_after] at silent
    cases silent
  · exact apart (invariant.distinct older found removes rfl)

/-- What was or is told of removals is so after a step. -/
theorem told_advance (invariant : Removals state) (table : Registry state)
    (found : state.tasks[place]? = some acting)
    (effect : TerminalEffect windows state.shared acting input manager after)
    (removed : ⟨terminalSessionId, none⟩ ∈ manager.toldChanges) :
    manager.Knows terminalSessionId ∧
      manager.getSession terminalSessionId = none ∧
      ∀ (other : Nat) (task : TerminalTask),
        (state.tasks.set place after)[other]? = some task →
          task.removes ≠ some terminalSessionId := by
  have before (held : ⟨terminalSessionId, none⟩ ∈ state.shared.toldChanges) :
      manager.Knows terminalSessionId ∧
        manager.getSession terminalSessionId = none ∧
        ∀ (other : Nat) (task : TerminalTask),
          (state.tasks.set place after)[other]? = some task →
            task.removes ≠ some terminalSessionId := by
    obtain ⟨known, off, -⟩ := invariant.told held
    exact ⟨effect.knows known, still_off table found effect known off,
      fun _ _ lookup => invariant.silent_advance found effect held lookup⟩
  rcases effect.toldChanges with
    same | ⟨announcement, followup, rfl, rfl, grows⟩
  · exact before (same ▸ removed)
  · rw [grows, List.mem_append, List.mem_singleton] at removed
    rcases removed with held | now
    · exact before held
    · cases announcement with
      | upsert info => cases now
      | remove gone =>
          cases now
          have known := invariant.announced found rfl
          exact ⟨effect.knows known,
            still_off table found effect known (invariant.pending found rfl),
            fun _ _ lookup => invariant.silent_announced found lookup⟩

/-- A task that is to tell of a removal is still to after a step, or has told. -/
theorem owed_advance
    (found : state.tasks[place]? = some acting)
    (effect : TerminalEffect windows state.shared acting input manager after)
    {other : Nat} {task : TerminalTask}
    (present : state.tasks[other]? = some task)
    (removes : task.removes = some terminalSessionId) :
    (∃ (later : Nat) (second : TerminalTask),
        (state.tasks.set place after)[later]? = some second ∧
          second.removes = some terminalSessionId) ∨
      ⟨terminalSessionId, none⟩ ∈ manager.toldChanges := by
  by_cases here : other = place
  · subst here
    cases present.symm.trans found
    rcases effect.removes_kept removes with removes | ⟨followup, rfl⟩
    · exact Or.inl ⟨other, after, List.getElem?_set_self
        (List.getElem?_eq_some_iff.mp found).1, removes⟩
    · right
      rcases effect.tableTx with
        ⟨-, silent⟩ | ⟨announcement, _, _, same, -, rfl, -⟩
      · exact (silent _ _ rfl).elim
      · cases same
        rw [TerminalManager.toldChanges_broadcast]
        exact List.mem_append_right _ List.mem_cons_self
  · exact Or.inl ⟨other, task, (List.getElem?_set_ne
      (fun equal => here equal.symm)).trans present, removes⟩

/-- Of a session that is off the table after a step, the removal was told or is
to be. -/
theorem gone_advance (invariant : Removals state) (table : Registry state)
    (found : state.tasks[place]? = some acting)
    (effect : TerminalEffect windows state.shared acting input manager after)
    (known : manager.Knows terminalSessionId)
    (off : manager.getSession terminalSessionId = none) :
    (∃ (other : Nat) (task : TerminalTask),
        (state.tasks.set place after)[other]? = some task ∧
          task.removes = some terminalSessionId) ∨
      ⟨terminalSessionId, none⟩ ∈ manager.toldChanges := by
  rcases effect.knows_before known with held | ⟨index, there⟩
  · cases before : state.shared.getSession terminalSessionId with
    | some index =>
        rcases effect.getSession_after
          (not_inserts_of_knows table found held) before with there | removes
        · rw [off] at there
          cases there
        · exact Or.inl ⟨place, after, List.getElem?_set_self
            (List.getElem?_eq_some_iff.mp found).1, removes⟩
    | none =>
        rcases invariant.gone held before with
          ⟨other, task, present, removes⟩ | removed
        · exact owed_advance found effect present removes
        · right
          rcases effect.toldChanges with same | ⟨_, _, -, -, grows⟩
          · rw [same]
            exact removed
          · rw [grows]
            exact List.mem_append_left _ removed
  · rw [off] at there
    cases there

theorem advance (invariant : Removals state) (table : Registry state)
    (found : state.tasks[place]? = some acting)
    (effect : TerminalEffect windows state.shared acting input manager after) :
    Removals ⟨manager, state.tasks.set place after⟩ where
  announced := invariant.announced_advance table found effect
  pending := invariant.pending_advance table found effect
  distinct := invariant.distinct_advance found effect
  told := invariant.told_advance table found effect
  gone := invariant.gone_advance table found effect

end Removals

/-- What was taken off the table stays off it in every run. -/
theorem removals
    {windows : Bool} {history : List TerminalHistoryEvent}
    {state : TerminalRun}
    (reached : terminalRun windows history = some state) :
    Removals state := by
  apply run_invariant _ _ reached
  · exact
      { announced := by simp
        pending := by simp
        distinct := by simp
        told := by simp [TerminalManager.new, TerminalManager.toldChanges]
        gone := by simp [TerminalManager.new, TerminalManager.Knows] }
  · intro history state event next earlier invariant taken
    have table := registry earlier
    cases terminal_step taken with
    | launch request =>
        have silent : (TerminalTask.start request).announces = none :=
          announces_of_fresh (start_fresh request)
        have started {place : Nat} {task : TerminalTask}
            {terminalSessionId : String}
            (found : (state.tasks ++ [.start request])[place]? = some task)
            (announces : task.announces = some terminalSessionId) :
            state.tasks[place]? = some task := by
          rcases TaskSystem.getElem?_concat_cases found with
            ⟨-, rfl⟩ | ⟨-, older⟩
          · rw [silent] at announces
            cases announces
          · exact older
        exact
          { announced := fun found announces =>
              invariant.announced (started found announces) announces
            pending := fun found removes => invariant.pending
              (started found (announces_of_removes removes)) removes
            distinct := fun found present removes same => invariant.distinct
              (started found (announces_of_removes removes))
              (started present (announces_of_removes same)) removes same
            told := by
              intro terminalSessionId removed
              obtain ⟨known, off, none⟩ := invariant.told removed
              refine ⟨known, off, ?_⟩
              intro place task found removes
              exact none place task
                (started found (announces_of_removes removes)) removes
            gone := by
              intro terminalSessionId known off
              rcases invariant.gone known off with
                ⟨place, task, found, removes⟩ | removed
              · have inside := (List.getElem?_eq_some_iff.mp found).1
                exact Or.inl ⟨place, task,
                  (List.getElem?_append_left inside).trans found, removes⟩
              · exact Or.inr removed }
    | advance place acting after input manager found effect =>
        exact invariant.advance table found effect

/-! ## Rows -/

/-- A change that is refused is recorded all the same. -/
theorem refused_control
    {session changed : TerminalSession} {request : TakeTerminalControlReq}
    {rpcSessionId : Nat} {resizeError : Option String}
    {outcome : Except ServiceError Unit}
    (refused : refusesResize request rpcSessionId resizeError session = true)
    (result : session.takeControl request rpcSessionId resizeError =
      (changed, outcome)) :
    changed.info.control = request.control := by
  simp only [refusesResize, Bool.and_eq_true, decide_eq_true_eq] at refused
  obtain ⟨⟨owner, fails⟩, -⟩ := refused
  obtain ⟨error, rfl⟩ := Option.isSome_iff_exists.mp fails
  unfold TerminalSession.takeControl at result
  rw [TerminalSession.validateAttachOwner_eq_ok.mpr owner] at result
  cases result
  rfl

/-- A step that changes the record of a session leaves its task to announce
it, unless the pseudo-terminal refuses a change of control. -/
theorem LockedEffect.announces_change
    {windows : Bool} {session changed : TerminalSession}
    {answers : TerminalAnswers} {task after : TerminalTask}
    (effect : LockedEffect windows session answers task changed after) :
    after.announces = some session.info.terminalSessionId ∨
      changed.info.withoutOutput = session.info.withoutOutput ∨
      ∃ request rpcSessionId index,
        task = .controllingOf request rpcSessionId index ∧
        after.announces = none ∧
        refusesResize request rpcSessionId answers.resizeError session =
          true ∧
        changed.info.control = request.control := by
  have id := effect.id_and_owners.1
  cases effect with
  | attach request rpcSessionId index attachId changed attached result =>
      exact Or.inl (congrArg some id)
  | detach stream index => exact Or.inl (congrArg some id)
  | control request rpcSessionId index changed result =>
      exact Or.inl (congrArg some id)
  | controlFails request rpcSessionId index changed error result =>
      cases refused : refusesResize request rpcSessionId answers.resizeError
        session with
      | false =>
          rw [(TerminalSession.takeControl_error result).mpr refused]
          exact Or.inr (Or.inl rfl)
      | true =>
          exact Or.inr (Or.inr ⟨request, rpcSessionId, index, rfl, rfl,
            refused, refused_control refused result⟩)
  | write index attachId bytes rpcSessionId changed outcome result =>
      rw [TerminalSession.writeInput_effect result]
      exact Or.inr (Or.inl rfl)
  | record recorded index bytes changed result =>
      obtain ⟨-, -, title, cwd, metadataParser, metadata, unannounced, rfl⟩ :=
        TerminalSession.recordOutput_eq result
      obtain ⟨rfl, rfl⟩ := unannounced rfl
      exact Or.inr (Or.inl rfl)
  | recordMetadata recorded index bytes changed info result =>
      obtain ⟨-, same, -⟩ := TerminalSession.recordOutput_eq result
      cases same info rfl
      exact Or.inl (congrArg some id)
  | mark index status changed result => exact Or.inl (congrArg some id)
  | _ => exact Or.inr (Or.inl rfl)

/-- The pseudo-terminal of a session in the table refuses a change of
control. -/
def RefusesRow (manager : TerminalManager) (task : TerminalTask)
    (input : TerminalInput) (terminalSessionId : String) : Prop :=
  ∃ request rpcSessionId index answers,
    task = .controllingOf request rpcSessionId index ∧
      input = .proceed answers ∧
      manager.getSession terminalSessionId = some index ∧
      (manager.objects[index]?).any
        (refusesResize request rpcSessionId answers.resizeError) = true

/-- A step that changes the row of a session leaves its task to announce it,
unless the pseudo-terminal refuses a change of control. -/
theorem TerminalEffect.row
    {windows : Bool} {state : TerminalRun} {next : TerminalManager}
    {task after : TerminalTask} {input : TerminalInput}
    (table : Registry state)
    (effect : TerminalEffect windows state.shared task input next after)
    (terminalSessionId : String) :
    after.announces = some terminalSessionId ∨
      (next.row terminalSessionId).map TerminalSessionInfo.withoutOutput =
        (state.shared.row terminalSessionId).map
          TerminalSessionInfo.withoutOutput ∨
      RefusesRow state.shared task input terminalSessionId := by
  cases effect with
  | locked _ answers index session changed lock found effect =>
      by_cases here : state.shared.getSession terminalSessionId = some index
      · obtain ⟨held, present, same⟩ := table.entry here
        cases present.symm.trans found
        subst same
        have inside := (List.getElem?_eq_some_iff.mp found).1
        have after : (state.shared.setSession index changed).row
            session.info.terminalSessionId = some changed.info := by
          change (state.shared.getSession _).bind _ = _
          rw [here, Option.bind_some]
          change ((state.shared.objects.set index changed)[index]?).map _ = _
          rw [List.getElem?_set_self inside, Option.map_some]
        have before : state.shared.row session.info.terminalSessionId =
            some session.info := by
          unfold TerminalManager.row
          rw [here, Option.bind_some, found, Option.map_some]
        rcases effect.announces_change with
          announces | same | ⟨request, rpcSessionId, place, rfl, -, refused, -⟩
        · exact Or.inl announces
        · rw [after, before, Option.map_some, Option.map_some, same]
          exact Or.inr (Or.inl rfl)
        · cases lock
          refine Or.inr (Or.inr ⟨request, rpcSessionId, _, answers, rfl, rfl,
            here, ?_⟩)
          rw [found, Option.any_some]
          exact refused
      · right
        left
        unfold TerminalManager.row
        change Option.map _ ((state.shared.getSession _).bind _) = _
        cases held : state.shared.getSession terminalSessionId with
        | none => rfl
        | some place =>
            have apart : index ≠ place := by
              rintro rfl
              exact here held
            rw [Option.bind_some, Option.bind_some]
            change Option.map _
              (((state.shared.objects.set index changed)[place]?).map _) = _
            rw [List.getElem?_set_ne apart]
  | unlocked _ answers _ lock effect =>
      cases effect with
      | insert request inserted creatorClientId initialCwd createdAtMs session
          created =>
          by_cases same : inserted = terminalSessionId
          · subst same created
            exact Or.inl rfl
          · right
            left
            unfold TerminalManager.row TerminalManager.getSession
              TerminalManager.insertSession
            rw [SortedMap.lookup_insert, if_neg (Ne.symm same)]
            cases held : state.shared.sessions.lookup terminalSessionId with
            | none => rfl
            | some place =>
                obtain ⟨session, present, -⟩ := table.entry held
                have inside := (List.getElem?_eq_some_iff.mp present).1
                rw [Option.bind_some, Option.bind_some,
                  List.getElem?_append_left inside]
      | remove removed index found =>
          by_cases same : removed = terminalSessionId
          · subst same
            exact Or.inl rfl
          · right
            left
            unfold TerminalManager.row TerminalManager.getSession
              TerminalManager.removeSession
            rw [SortedMap.lookup_filter_ne, if_neg (Ne.symm same)]
      | _ => exact Or.inr (Or.inl rfl)
  | broken _ error effect => exact Or.inr (Or.inl rfl)

/-- A refused change of control changes the row, and is not announced. -/
theorem TerminalEffect.refused_row
    {windows : Bool} {manager next : TerminalManager}
    {task after : TerminalTask} {input : TerminalInput}
    {terminalSessionId : String}
    (effect : TerminalEffect windows manager task input next after)
    (refuses : RefusesRow manager task input terminalSessionId) :
    after.announces = none ∧
      (next.row terminalSessionId).map TerminalSessionInfo.withoutOutput ≠
        (manager.row terminalSessionId).map
          TerminalSessionInfo.withoutOutput := by
  obtain ⟨request, rpcSessionId, index, answers, rfl, rfl, here, refused⟩ :=
    refuses
  cases effect with
  | locked _ _ place session changed lock found effect =>
      cases lock
      rw [found, Option.any_some] at refused
      have inside := (List.getElem?_eq_some_iff.mp found).1
      have rows : (manager.setSession index changed).row terminalSessionId =
            some changed.info ∧
          manager.row terminalSessionId = some session.info := by
        constructor
        · change (manager.getSession _).bind _ = _
          rw [here, Option.bind_some]
          change ((manager.objects.set index changed)[index]?).map _ = _
          rw [List.getElem?_set_self inside, Option.map_some]
        · unfold TerminalManager.row
          rw [here, Option.bind_some, found, Option.map_some]
      have different : changed.info.withoutOutput ≠
          session.info.withoutOutput := by
        intro same
        have control : changed.info.control = request.control := by
          cases effect with
          | control _ _ _ _ result => exact refused_control refused result
          | controlFails _ _ _ _ error result =>
              exact refused_control refused result
        simp only [refusesResize, Bool.and_eq_true, decide_eq_true_eq]
          at refused
        apply refused.2
        rw [← control]
        exact (congrArg TerminalSessionInfo.control same).symm
      rw [rows.1, rows.2]
      refine ⟨?_, fun same => different (Option.some.inj same)⟩
      cases effect with
      | control _ _ _ _ result =>
          have accepted := (TerminalSession.takeControl_success result).1
          simp [refusesResize, accepted] at refused
      | controlFails => rfl
  | unlocked _ _ _ lock => cases lock

/-! ## Quiescence -/

/-- Some task still has to tell of a session. -/
def Announces (state : TerminalRun) (terminalSessionId : String) : Prop :=
  ∃ (place : Nat) (task : TerminalTask), state.tasks[place]? = some task ∧
    task.announces = some terminalSessionId

theorem not_announces
    {state : TerminalRun}
    (silent : state.tasks.all (fun task => task.announces.isNone) = true)
    (terminalSessionId : String) : ¬Announces state terminalSessionId := by
  rintro ⟨place, task, found, announces⟩
  have quiet := List.all_eq_true.mp silent task (List.mem_of_getElem? found)
  rw [announces] at quiet
  cases quiet

/-- Whether a task other than one still has to tell of a session. -/
def announcedElsewhere (state : TerminalRun) (place : Nat)
    (terminalSessionId : String) : Bool :=
  (state.tasks.eraseIdx place).any fun task =>
    task.announces == some terminalSessionId

/-- Another task is about to announce the session. -/
theorem announcedElsewhere_eq_true
    {state : TerminalRun} {place : Nat} {terminalSessionId : String} :
    announcedElsewhere state place terminalSessionId = true ↔
      ∃ (other : Nat) (task : TerminalTask), other ≠ place ∧
        state.tasks[other]? = some task ∧
        task.announces = some terminalSessionId := by
  unfold announcedElsewhere
  simp only [List.any_eq_true, List.mem_eraseIdx_iff_getElem?, beq_iff_eq]
  constructor
  · rintro ⟨task, ⟨other, apart, found⟩, announces⟩
    exact ⟨other, task, apart, found, announces⟩
  · rintro ⟨other, task, apart, found, announces⟩
    exact ⟨task, ⟨other, apart, found⟩, announces⟩

/-- The tasks that are to tell of a session after a step. -/
theorem announces_set
    {state : TerminalRun} {manager : TerminalManager} {place : Nat}
    {acting after : TerminalTask} {terminalSessionId : String}
    (found : state.tasks[place]? = some acting) :
    Announces ⟨manager, state.tasks.set place after⟩ terminalSessionId ↔
      after.announces = some terminalSessionId ∨
        announcedElsewhere state place terminalSessionId = true := by
  have inside := (List.getElem?_eq_some_iff.mp found).1
  rw [announcedElsewhere_eq_true]
  constructor
  · rintro ⟨other, task, lookup, announces⟩
    rcases TaskSystem.getElem?_set_cases lookup with
      ⟨-, rfl⟩ | ⟨apart, older⟩
    · exact Or.inl announces
    · exact Or.inr ⟨other, task, apart, older, announces⟩
  · rintro (announces | ⟨other, task, apart, older, announces⟩)
    · exact ⟨place, after, List.getElem?_set_self inside, announces⟩
    · exact ⟨other, task, (List.getElem?_set_ne
        (fun equal => apart equal.symm)).trans older, announces⟩

/-- What the subscribers were told of every session of which no task has to
tell any more: a table that is the one of the manager, but for the output; last
the row of a session in the table, and the removal of one that is gone; and
nothing after a removal. -/
structure TableFolds (state : TerminalRun) : Prop where
  folds : ∀ {terminalSessionId : String},
    ¬Announces state terminalSessionId →
      state.shared.Agrees state.shared.toldTable terminalSessionId
  upserted : ∀ {terminalSessionId : String} {info : TerminalSessionInfo},
    ¬Announces state terminalSessionId →
      state.shared.row terminalSessionId = some info →
        ∃ last, latest terminalSessionId state.shared.toldChanges =
            some (some last) ∧
          last.withoutOutput = info.withoutOutput
  removed : ∀ {terminalSessionId : String},
    ¬Announces state terminalSessionId →
      state.shared.Knows terminalSessionId →
        state.shared.row terminalSessionId = none →
          latest terminalSessionId state.shared.toldChanges = some none
  removesForGood : RemovesForGood state.shared.toldChanges

/-- Only announcements are broadcast. -/
theorem table_announcements
    {windows : Bool} {history : List TerminalHistoryEvent}
    {state : TerminalRun}
    (reached : terminalRun windows history = some state) :
    ∃ announcements : List Announcement,
      state.shared.tableTx = announcements.map Announcement.event := by
  apply run_state_invariant _ _ reached
  · exact ⟨[], rfl⟩
  · rintro state event next ⟨announcements, told⟩ taken
    cases terminal_step taken with
    | launch request => exact ⟨announcements, told⟩
    | advance place task after input manager found effect =>
        rcases effect.tableTx with
          ⟨same, -⟩ | ⟨announcement, followup, answers, rfl, rfl, rfl, rfl⟩
        · exact ⟨announcements, same.trans told⟩
        · refine ⟨announcements ++ [announcement], ?_⟩
          rw [List.map_append, ← told]
          rfl

/-- What was told last of a session is what a client shows of it. -/
theorem shown_toldTable
    {windows : Bool} {history : List TerminalHistoryEvent}
    {state : TerminalRun}
    (reached : terminalRun windows history = some state)
    (terminalSessionId : String) :
    shown state.shared.toldTable terminalSessionId =
      (latest terminalSessionId state.shared.toldChanges).getD none := by
  obtain ⟨announcements, told⟩ := table_announcements reached
  have changes : state.shared.toldChanges =
      announcements.map announcedChange := by
    unfold TerminalManager.toldChanges
    rw [told, patchChanges_events]
  unfold TerminalManager.toldTable
  rw [told, changes, shown_announcements, replay_apply]
  rfl

theorem Registry.row_eq_none
    {state : TerminalRun} (table : Registry state)
    {terminalSessionId : String} :
    state.shared.row terminalSessionId = none ↔
      state.shared.getSession terminalSessionId = none := by
  unfold TerminalManager.row
  cases found : state.shared.getSession terminalSessionId with
  | none => simp
  | some index =>
      obtain ⟨session, present, -⟩ := table.entry found
      simp [present]

/-- What a client shows decides what was told last. -/
theorem tableFolds_iff
    {windows : Bool} {history : List TerminalHistoryEvent}
    {state : TerminalRun}
    (reached : terminalRun windows history = some state) :
    TableFolds state ↔
      (∀ terminalSessionId, ¬Announces state terminalSessionId →
        state.shared.Agrees state.shared.toldTable terminalSessionId) ∧
      RemovesForGood state.shared.toldChanges := by
  have table := registry reached
  constructor
  · intro told
    exact ⟨fun _ => told.folds, told.removesForGood⟩
  · rintro ⟨folds, forGood⟩
    refine
      { folds := folds _
        upserted := ?_
        removed := ?_
        removesForGood := forGood }
    · intro terminalSessionId info quiet held
      have agrees := folds terminalSessionId quiet
      unfold TerminalManager.Agrees at agrees
      rw [shown_toldTable reached, held, Option.map_some] at agrees
      obtain ⟨last, shows, same⟩ := Option.map_eq_some_iff.mp agrees
      cases told : latest terminalSessionId state.shared.toldChanges with
      | none =>
          rw [told] at shows
          cases shows
      | some value =>
          rw [told, Option.getD_some] at shows
          exact ⟨last, congrArg some shows, same⟩
    · intro terminalSessionId quiet known off
      rcases (removals reached).gone known (table.row_eq_none.mp off) with
        ⟨place, task, found, removes⟩ | removed
      · exact (quiet ⟨place, task, found, announces_of_removes removes⟩).elim
      · exact forGood.latest removed

/-- Whether a step tells the rows of a session in their order.  A row is told
late when the session has another row by then, and no task is left that has to
tell of it, or when the removal of the session was told.  A row is not told at
all when the pseudo-terminal refuses a change of control. -/
def keepsTable (state : TerminalRun) : TerminalHistoryEvent → Bool
  | .advance place (.proceed answers) =>
      match state.tasks[place]? with
      | some (.announcing (.upsert info) _) =>
          match state.shared.row info.terminalSessionId with
          | some row =>
              decide (info.withoutOutput = row.withoutOutput) ||
                announcedElsewhere state place info.terminalSessionId
          | none =>
              state.tasks.any fun task =>
                task.removes == some info.terminalSessionId
      | some (.controllingOf request rpcSessionId index) =>
          (state.shared.row request.terminalSessionId).isNone ||
            announcedElsewhere state place request.terminalSessionId ||
            !(state.shared.objects[index]?).any
              (refusesResize request rpcSessionId answers.resizeError)
      | _ => true
  | _ => true

/-- A task tells of the session that it has to tell of, or still has to. -/
theorem TerminalEffect.announces_kept
    {windows : Bool} {manager next : TerminalManager}
    {task after : TerminalTask} {input : TerminalInput}
    {terminalSessionId : String}
    (effect : TerminalEffect windows manager task input next after)
    (announces : task.announces = some terminalSessionId)
    (silent : ∀ announcement followup,
      task ≠ .announcing announcement followup) :
    after.announces = some terminalSessionId := by
  cases task with
  | announcing announcement followup => exact (silent _ _ rfl).elim
  | closingOf closed index =>
      rcases effect.removes_kept announces with removes | ⟨followup, same⟩
      · exact announces_of_removes removes
      · cases same
  | _ => cases announces

/-- What a broadcast leaves of the order in the table. -/
theorem broadcast_folds
    {state : TerminalRun} {place : Nat}
    {announcement : Announcement} {followup : Followup}
    (folds : ∀ terminalSessionId, ¬Announces state terminalSessionId →
      state.shared.Agrees state.shared.toldTable terminalSessionId)
    (found : state.tasks[place]? = some (.announcing announcement followup))
    {terminalSessionId : String}
    (quiet : ¬Announces ⟨state.shared.broadcast announcement.event,
      state.tasks.set place (.after followup)⟩ terminalSessionId)
    (other : announcement.subject ≠ terminalSessionId) :
    (state.shared.broadcast announcement.event).Agrees
      (state.shared.broadcast announcement.event).toldTable
      terminalSessionId := by
  have before : ¬Announces state terminalSessionId := by
    rintro ⟨position, task, present, announces⟩
    apply quiet
    rw [announces_set found, announcedElsewhere_eq_true]
    refine Or.inr ⟨position, task, ?_, present, announces⟩
    rintro rfl
    cases present.symm.trans found
    exact other (Option.some.inj announces)
  have agrees := folds terminalSessionId before
  unfold TerminalManager.Agrees at agrees ⊢
  rw [TerminalManager.toldTable_broadcast, shown_announcement,
    TerminalManager.row_broadcast, ← agrees, Change.apply,
    announcedChange_key, Function.update_of_ne (Ne.symm other)]

/-- What a broadcast says of its own session. -/
theorem broadcast_agrees
    (manager : TerminalManager) (announcement : Announcement) :
    (manager.broadcast announcement.event).Agrees
        (manager.broadcast announcement.event).toldTable
        announcement.subject ↔
      (announcedChange announcement).value.map
          TerminalSessionInfo.withoutOutput =
        (manager.row announcement.subject).map
          TerminalSessionInfo.withoutOutput := by
  unfold TerminalManager.Agrees
  rw [TerminalManager.toldTable_broadcast, shown_announcement,
    TerminalManager.row_broadcast, Change.apply, announcedChange_key,
    Function.update_self]

/-- That a broadcast folds, and nothing is told after a removal. -/
def BroadcastFolds (state : TerminalRun) (place : Nat)
    (announcement : Announcement) (followup : Followup) : Prop :=
  (∀ terminalSessionId,
    ¬Announces ⟨state.shared.broadcast announcement.event,
      state.tasks.set place (.after followup)⟩ terminalSessionId →
    (state.shared.broadcast announcement.event).Agrees
      (state.shared.broadcast announcement.event).toldTable
      terminalSessionId) ∧
  RemovesForGood (state.shared.broadcast announcement.event).toldChanges

/-- A broadcast folds exactly when it is of the row that the session has, or is
not the last one to come, and no removal is behind it. -/
theorem broadcastFolds_iff
    {state : TerminalRun} {place : Nat} {announcement : Announcement}
    {followup : Followup} (told : TableFolds state)
    (found : state.tasks[place]? = some (.announcing announcement followup)) :
    BroadcastFolds state place announcement followup ↔
      (announcedElsewhere state place announcement.subject = false →
        (announcedChange announcement).value.map
            TerminalSessionInfo.withoutOutput =
          (state.shared.row announcement.subject).map
            TerminalSessionInfo.withoutOutput) ∧
      (⟨announcement.subject, none⟩ ∈ state.shared.toldChanges →
        (announcedChange announcement).value = none) := by
  have quiet : ¬Announces ⟨state.shared.broadcast announcement.event,
        state.tasks.set place (.after followup)⟩ announcement.subject ↔
      announcedElsewhere state place announcement.subject = false := by
    rw [announces_set found, announces_after]
    simp
  unfold BroadcastFolds
  rw [TerminalManager.toldChanges_broadcast, removesForGood_concat]
  constructor
  · rintro ⟨folds, -, last⟩
    refine ⟨?_, ?_⟩
    · intro alone
      exact (broadcast_agrees _ _).mp (folds _ (quiet.mpr alone))
    · intro removed
      exact last _ removed (announcedChange_key _).symm rfl
  · rintro ⟨current, last⟩
    refine ⟨?_, told.removesForGood, ?_⟩
    · intro terminalSessionId silent
      by_cases same : announcement.subject = terminalSessionId
      · subst same
        exact (broadcast_agrees _ _).mpr (current (quiet.mp silent))
      · exact broadcast_folds (fun _ => told.folds) found silent same
    · rintro ⟨key, value⟩ earlier same removed
      rw [announcedChange_key] at same
      cases same
      cases removed
      exact last earlier

/-- A step that broadcasts keeps the order in the table when it passes the
check. -/
theorem keepsTable_announcing
    {windows : Bool} {history : List TerminalHistoryEvent}
    {state : TerminalRun} {place : Nat} {announcement : Announcement}
    {followup : Followup} {answers : TerminalAnswers}
    (reached : terminalRun windows history = some state)
    (told : TableFolds state)
    (found : state.tasks[place]? = some (.announcing announcement followup)) :
    keepsTable state (.advance place (.proceed answers)) = true ↔
      BroadcastFolds state place announcement followup := by
  have removal := removals reached
  rw [broadcastFolds_iff told found]
  cases announcement with
  | remove removed =>
      have off : state.shared.row removed = none :=
        (registry reached).row_eq_none.mpr (removal.pending found rfl)
      simp [keepsTable, found, Announcement.subject, off, announcedChange]
  | upsert info =>
      simp only [keepsTable, found, Announcement.subject, announcedChange,
        upsertChange, Option.map_some, reduceCtorEq, imp_false]
      cases held : state.shared.row info.terminalSessionId with
      | some row =>
          have untold : ⟨info.terminalSessionId, none⟩ ∉
              state.shared.toldChanges := by
            intro gone
            have off := (registry reached).row_eq_none.mpr
              (removal.told gone).2.1
            rw [off] at held
            cases held
          simp only [untold, not_false_eq_true, and_true, Option.map_some,
            Option.some.injEq, Bool.or_eq_true, decide_eq_true_eq]
          cases announcedElsewhere state place info.terminalSessionId <;>
            simp
      | none =>
          have off := (registry reached).row_eq_none.mp held
          have known := removal.announced found rfl
          simp only [Option.map_none, reduceCtorEq, imp_false,
            Bool.not_eq_false, List.any_eq_true, beq_iff_eq]
          constructor
          · rintro ⟨task, member, removes⟩
            obtain ⟨other, present⟩ := List.mem_iff_getElem?.mp member
            refine ⟨?_, ?_⟩
            · rw [announcedElsewhere_eq_true]
              refine ⟨other, task, ?_, present, announces_of_removes removes⟩
              rintro rfl
              cases present.symm.trans found
              cases removes
            · intro gone
              exact (removal.told gone).2.2 other task present removes
          · rintro ⟨-, untold⟩
            rcases removal.gone known off with
              ⟨other, task, present, removes⟩ | gone
            · exact ⟨task, List.mem_of_getElem? present, removes⟩
            · exact (untold gone).elim

/-- A step that does not broadcast fails the check when it changes a row of
which no task has to tell. -/
theorem keepsTable_eq_false
    {windows : Bool} {history : List TerminalHistoryEvent}
    {state : TerminalRun} {place : Nat} {acting : TerminalTask}
    {input : TerminalInput}
    (reached : terminalRun windows history = some state)
    (found : state.tasks[place]? = some acting)
    (silent : ∀ announcement followup,
      acting ≠ .announcing announcement followup) :
    keepsTable state (.advance place input) = false ↔
      ∃ terminalSessionId,
        RefusesRow state.shared acting input terminalSessionId ∧
          announcedElsewhere state place terminalSessionId = false := by
  have table := registry reached
  constructor
  · intro fails
    cases input with
    | fail error => cases fails
    | proceed answers =>
        cases acting with
        | announcing announcement followup => exact (silent _ _ rfl).elim
        | controllingOf request rpcSessionId index =>
            simp only [keepsTable, found, Bool.or_eq_false_iff,
              Bool.not_eq_false'] at fails
            obtain ⟨⟨there, alone⟩, refused⟩ := fails
            refine ⟨request.terminalSessionId, ?_, alone⟩
            obtain ⟨session, present, id⟩ := table.target found rfl
            cases held : state.shared.getSession request.terminalSessionId with
            | none =>
                rw [table.row_eq_none.mpr held] at there
                cases there
            | some entry =>
                obtain ⟨second, lookup, same⟩ := table.entry held
                cases table.distinct present lookup (id.trans same.symm)
                exact ⟨request, rpcSessionId, index, answers, rfl, rfl, held,
                  refused⟩
        | _ => simp [keepsTable, found] at fails
  · rintro ⟨terminalSessionId, ⟨request, rpcSessionId, index, answers, rfl,
      rfl, held, refused⟩, alone⟩
    obtain ⟨session, present, id⟩ := table.target found rfl
    obtain ⟨second, lookup, same⟩ := table.entry held
    cases present.symm.trans lookup
    cases id.symm.trans same
    have there :
        (state.shared.row request.terminalSessionId).isSome = true := by
      rw [Option.isSome_iff_ne_none, ne_eq, table.row_eq_none, held]
      simp
    simp [keepsTable, found, there, alone, refused]

/-- A step keeps the order in the table exactly when it passes the check. -/
theorem keepsTable_step
    {windows : Bool} {history : List TerminalHistoryEvent}
    {state next : TerminalRun} {event : TerminalHistoryEvent}
    (reached : terminalRun windows history = some state)
    (told : TableFolds state)
    (taken : (terminalSystem windows).step state event = some next) :
    TableFolds next ↔ keepsTable state event = true := by
  have table := registry reached
  have whole : terminalRun windows (history ++ [event]) = some next :=
    run_concat_eq_some.mpr ⟨state, reached, taken⟩
  rw [tableFolds_iff whole]
  cases terminal_step taken with
  | launch request =>
      simp only [keepsTable, iff_true]
      refine ⟨?_, told.removesForGood⟩
      intro terminalSessionId quiet
      apply told.folds
      rintro ⟨place, task, found, announces⟩
      have inside := (List.getElem?_eq_some_iff.mp found).1
      exact quiet ⟨place, task,
        (List.getElem?_append_left inside).trans found, announces⟩
  | advance place acting after input manager found effect =>
      rcases effect.tableTx with
        ⟨same, silent⟩ | ⟨announcement, followup, answers, rfl, rfl, rfl, rfl⟩
      · -- Nothing is broadcast: only a row may change.
        have toldTable : manager.toldTable = state.shared.toldTable := by
          unfold TerminalManager.toldTable
          rw [same]
        have toldChanges : manager.toldChanges = state.shared.toldChanges := by
          unfold TerminalManager.toldChanges
          rw [same]
        have before {terminalSessionId : String}
            (quiet : ¬Announces ⟨manager, state.tasks.set place after⟩
              terminalSessionId) :
            state.shared.Agrees state.shared.toldTable terminalSessionId := by
          apply told.folds
          rintro ⟨other, task, present, announces⟩
          apply quiet
          rw [announces_set found, announcedElsewhere_eq_true]
          by_cases here : other = place
          · subst here
            cases present.symm.trans found
            exact Or.inl (effect.announces_kept announces silent)
          · exact Or.inr ⟨other, task, here, present, announces⟩
        rw [← Bool.not_eq_false, keepsTable_eq_false reached found silent]
        change (∀ terminalSessionId, _ → manager.Agrees manager.toldTable
          terminalSessionId) ∧ RemovesForGood manager.toldChanges ↔ _
        rw [toldTable, toldChanges]
        constructor
        · rintro ⟨folds, -⟩ ⟨terminalSessionId, refuses, alone⟩
          obtain ⟨unannounced, differs⟩ := effect.refused_row refuses
          have quiet : ¬Announces ⟨manager, state.tasks.set place after⟩
              terminalSessionId := by
            rw [announces_set found, unannounced, alone]
            simp
          exact differs
            ((folds terminalSessionId quiet).symm.trans (before quiet))
        · intro keeps
          refine ⟨?_, told.removesForGood⟩
          intro terminalSessionId quiet
          have alone := quiet
          rw [announces_set found, not_or, Bool.not_eq_true] at alone
          rcases effect.row table terminalSessionId with
            announces | unchanged | refuses
          · exact (alone.1 announces).elim
          · exact (before quiet).trans unchanged.symm
          · exact (keeps ⟨terminalSessionId, refuses, alone.2⟩).elim
      · exact (keepsTable_announcing reached told found).symm

theorem tableFolds_initially : TableFolds ⟨.new, []⟩ where
  folds _ := rfl
  upserted := by
    intro terminalSessionId info quiet held
    cases held
  removed := by
    rintro terminalSessionId quiet ⟨index, session, found, -⟩
    cases found
  removesForGood := List.Pairwise.nil

/-- What the subscribers of the table are told folds to the table in every state
of a run exactly when every step of the run passes the check. -/
theorem table_folds_iff
    (windows : Bool) (history : List TerminalHistoryEvent)
    (state : TerminalRun)
    (reached : terminalRun windows history = some state) :
    (∀ (early late : List TerminalHistoryEvent) (earlier : TerminalRun),
        history = early ++ late →
          terminalRun windows early = some earlier → TableFolds earlier) ↔
      Throughout (terminalSystem windows).step ⟨.new, []⟩
        (fun state event => keepsTable state event = true) history := by
  apply holds_iff_throughout tableFolds_initially _ reached
  intro history state event next earlier told taken
  exact keepsTable_step earlier told taken

/-- A client attaches, and is told of before another closes the session. -/
def toldSample : List TerminalHistoryEvent :=
  sampleSession ++
    .launch (.attach ⟨"terminal-1", none, 80, 24⟩ 7) ::
      terminalGoesOn sampleAnswers 1 4 ++
    .launch (.closeSession "terminal-1") ::
      terminalGoesOn sampleAnswers 2 3

theorem table_folds_sample :
    ∃ state, terminalRun false toldSample = some state ∧
      TableFolds state ∧ state.shared.toldTable = [] := by
  have sample : (terminalRun false toldSample).map (fun state =>
      state.shared.toldTable) = some [] := by
    rfl
  obtain ⟨state, reached, told⟩ := Option.map_eq_some_iff.mp sample
  refine ⟨state, reached, ?_, told⟩
  exact (table_folds_iff false toldSample state reached).mpr
    (throughout_of_checkEach (by rfl)) toldSample [] state
      (List.append_nil _).symm reached

/-- A client attaches, and another closes the session and tells of that before
the attach is told. -/
def overtakenSample : List TerminalHistoryEvent :=
  sampleSession ++
    .launch (.attach ⟨"terminal-1", none, 80, 24⟩ 7) ::
      terminalGoesOn sampleAnswers 1 3 ++
    .launch (.closeSession "terminal-1") ::
      terminalGoesOn sampleAnswers 2 3 ++
    terminalGoesOn sampleAnswers 1 4

/-- No operation is running any more, the table is empty, and its subscribers
show the session, of which they were told after its removal. -/
theorem row_told_after_removal :
    ∃ state, terminalRun false overtakenSample = some state ∧
      (∀ terminalSessionId, ¬Announces state terminalSessionId) ∧
      state.shared.sessions = [] ∧
      state.shared.toldTable.map TerminalSessionInfo.terminalSessionId =
        ["terminal-1"] ∧
      ¬RemovesForGood state.shared.toldChanges ∧ ¬TableFolds state := by
  have quiet : (terminalRun false overtakenSample).map (fun state =>
      state.tasks.all fun task => task.announces.isNone) = some true := by
    rfl
  have tables : (terminalRun false overtakenSample).map (fun state =>
      (state.shared.sessions, state.shared.toldTable.map
        TerminalSessionInfo.terminalSessionId)) =
      some ([], ["terminal-1"]) := by
    rfl
  have again : (terminalRun false overtakenSample).map (fun state =>
      decide (RemovesForGood state.shared.toldChanges)) = some false := by
    rfl
  obtain ⟨state, reached, silent⟩ := Option.map_eq_some_iff.mp quiet
  rw [reached, Option.map_some, Option.some.injEq] at tables again
  obtain ⟨sessions, rows⟩ := Prod.mk.inj tables
  have resurrected := of_decide_eq_false again
  exact ⟨state, reached, not_announces silent, sessions, rows, resurrected,
    fun told => resurrected told.removesForGood⟩

end Host
end WhatsGoingOn
