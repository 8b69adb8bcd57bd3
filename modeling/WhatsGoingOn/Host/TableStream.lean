import WhatsGoingOn.Host.TerminalTable

/-!
# Subscriptions of the table

A subscription sends a snapshot of the table, takes its place in the channel,
and sends what it receives there.  What is broadcast between the snapshot and
the place in the channel it never receives.
-/

namespace WhatsGoingOn
namespace Host

open Broadcast ChangeLog Web

/-! ## What a subscription shows -/

/-- `sessions_snapshot`. -/
def TerminalManager.sessionsSnapshot (manager : TerminalManager) :
    List TerminalSessionInfo :=
  manager.sessions.filterMap fun entry =>
    manager.objects[entry.2]?.map TerminalSession.info

/-- The table of a client that was sent some events. -/
def clientTable (delivered : List TerminalSessionsTableEvent) :
    List TerminalSessionInfo :=
  delivered.foldl applyTerminalSessionsEvent []

/-- A subscription: the sessions that its snapshot has still to read, the rows
that its client shows, or is about to, and its place in the channel. -/
structure TableView where
  remaining : List Nat
  rows : List TerminalSessionInfo
  place : Option Nat

/-- How far the task of a subscription is, if the task is one. -/
def TerminalTask.tableView : TerminalTask → Option TableView
  | .collecting remaining rows place _ => some ⟨remaining, rows, place⟩
  | .subscribing delivered => some ⟨[], clientTable delivered, none⟩
  | .following place delivered => some ⟨[], clientTable delivered, some place⟩
  | _ => none

theorem tableView_of_fresh {task : TerminalTask} (fresh : task.fresh = true) :
    task.tableView = none := by
  cases task with
  | finished result => rfl
  | _ => first | rfl | cases fresh

theorem clientTable_concat (delivered : List TerminalSessionsTableEvent)
    (event : TerminalSessionsTableEvent) :
    clientTable (delivered ++ [event]) =
      applyTerminalSessionsEvent (clientTable delivered) event :=
  List.foldl_append

/-- The id of the session at a place. -/
def TerminalManager.idAt (manager : TerminalManager) (index : Nat) :
    Option String :=
  manager.objects[index]?.map fun session => session.info.terminalSessionId

namespace TableView

/-- What a subscription has still to receive. -/
def unreceived (view : TableView) (manager : TerminalManager) :
    List TerminalSessionsTableEvent :=
  (view.place.map fun place => manager.tableTx.drop place).getD []

/-- What a subscription has still to receive of a session: what the last such
event says. -/
def heard (view : TableView) (manager : TerminalManager)
    (terminalSessionId : String) : Option (Option TerminalSessionInfo) :=
  latest terminalSessionId ((view.unreceived manager).flatMap patchChanges)

/-- Whether the rows show a session as it is, or will when the snapshot has
read the remaining sessions. -/
def current (view : TableView) (manager : TerminalManager)
    (terminalSessionId : String) : Bool :=
  match manager.getSession terminalSessionId with
  | some index =>
      view.remaining.contains index ||
        decide ((shown view.rows terminalSessionId).map
            TerminalSessionInfo.withoutOutput =
          (manager.row terminalSessionId).map
            TerminalSessionInfo.withoutOutput)
  | none =>
      (shown view.rows terminalSessionId).isNone &&
        !view.remaining.any fun index =>
          manager.idAt index == some terminalSessionId

/-- Whether the client will show a session as it is when it was sent all that
the subscription has still to receive. -/
def settles (view : TableView) (manager : TerminalManager)
    (terminalSessionId : String) : Bool :=
  match view.heard manager terminalSessionId with
  | some value =>
      decide (value.map TerminalSessionInfo.withoutOutput =
        (manager.row terminalSessionId).map TerminalSessionInfo.withoutOutput)
  | none => view.current manager terminalSessionId

theorem settles_iff {view : TableView} {manager : TerminalManager}
    {terminalSessionId : String} :
    view.settles manager terminalSessionId = true ↔
      (∀ value, view.heard manager terminalSessionId = some value →
        value.map TerminalSessionInfo.withoutOutput =
          (manager.row terminalSessionId).map
            TerminalSessionInfo.withoutOutput) ∧
      (view.heard manager terminalSessionId = none →
        view.current manager terminalSessionId = true) := by
  unfold settles
  cases view.heard manager terminalSessionId <;> simp

/-- A subscription will show every session as it is of which no task has to
tell. -/
structure Shows (view : TableView) (state : TerminalRun) : Prop where
  inside : ∀ index ∈ view.remaining, index < state.shared.objects.length
  place : ∀ place, view.place = some place →
    place ≤ state.shared.tableTx.length
  distinct : ((rowIds view.rows).map some ++
    view.remaining.map state.shared.idAt).Nodup
  shows : ∀ terminalSessionId, Announces state terminalSessionId ∨
    view.settles state.shared terminalSessionId = true

end TableView

/-- Whether a step misleads the client of a subscription that has started, about
a session of which no other task has to tell.  A broadcast that the subscription
receives does so when it is not of the row that the session has; one before the
subscription has its place in the channel, when the snapshot does not show the
session as it is; and a pseudo-terminal that refuses a change of control, when
the snapshot has read the session. -/
def misleads (subscription : Nat) (state : TerminalRun) :
    TerminalHistoryEvent → Bool
  | .advance place (.proceed answers) =>
      match state.tasks[subscription]?.bind TerminalTask.tableView,
          state.tasks[place]? with
      | some view, some (.announcing announcement _) =>
          !announcedElsewhere state place announcement.subject &&
            !(if view.place.isSome then
                decide ((announcedChange announcement).value.map
                    TerminalSessionInfo.withoutOutput =
                  (state.shared.row announcement.subject).map
                    TerminalSessionInfo.withoutOutput)
              else view.current state.shared announcement.subject)
      | some view, some (.controllingOf request rpcSessionId index) =>
          (state.shared.row request.terminalSessionId).isSome &&
            !announcedElsewhere state place request.terminalSessionId &&
            (state.shared.objects[index]?).any
              (refusesResize request rpcSessionId answers.resizeError) &&
            !(view.remaining.contains index &&
              (view.heard state.shared request.terminalSessionId).isNone)
      | _, _ => false
  | _ => false

/-- An entry of the table leads to the session with its id. -/
theorem Registry.listed
    {state : TerminalRun} (table : Registry state) {pair : String × Nat}
    (member : pair ∈ state.shared.sessions) :
    ∃ session, state.shared.objects[pair.2]? = some session ∧
      session.info.terminalSessionId = pair.1 :=
  table.entry (SortedMap.lookup_of_mem table.ascending.nodup member)

/-! ## Steps of other tasks -/

/-- A session keeps its id. -/
theorem TerminalEffect.idAt
    {windows : Bool} {manager next : TerminalManager}
    {task after : TerminalTask} {input : TerminalInput} {index : Nat}
    (effect : TerminalEffect windows manager task input next after)
    (inside : index < manager.objects.length) :
    index < next.objects.length ∧ next.idAt index = manager.idAt index := by
  have held := List.getElem?_eq_getElem inside
  obtain ⟨changed, found, same⟩ := effect.id_after ⟨_, held, rfl⟩
  refine ⟨(List.getElem?_eq_some_iff.mp found).1, ?_⟩
  unfold TerminalManager.idAt
  rw [held, found, Option.map_some, Option.map_some, same]

/-- A task announces the session that it puts into the table. -/
theorem TerminalEffect.new_announced
    {windows : Bool} {manager next : TerminalManager}
    {task after : TerminalTask} {input : TerminalInput}
    {terminalSessionId : String} {index : Nat}
    (effect : TerminalEffect windows manager task input next after)
    (found : next.getSession terminalSessionId = some index) :
    manager.getSession terminalSessionId = some index ∨
      after.announces = some terminalSessionId := by
  rcases effect.getSession found with held | ⟨inserts, -, new⟩
  · exact Or.inl held
  · cases effect with
    | locked _ answers place session changed lock present effect =>
        exact Or.inl found
    | unlocked _ answers _ lock effect =>
        cases effect with
        | insert request inserted creatorClientId initialCwd createdAtMs
            session created =>
            cases inserts
            subst created
            exact Or.inr rfl
        | quiet _ _ effect => exact Or.inl found
        | _ => cases inserts
    | broken _ error effect => exact Or.inl found

namespace TableView

variable {view : TableView} {windows : Bool} {state : TerminalRun}
  {place : Nat} {acting after : TerminalTask} {input : TerminalInput}
  {manager : TerminalManager} {terminalSessionId : String}

/-- What a subscription hears after a broadcast. -/
theorem heard_broadcast
    (inside : ∀ position, view.place = some position →
      position ≤ manager.tableTx.length)
    (announcement : Announcement) (terminalSessionId : String) :
    view.heard (manager.broadcast announcement.event) terminalSessionId =
      if view.place.isSome ∧ announcement.subject = terminalSessionId then
        some (announcedChange announcement).value
      else view.heard manager terminalSessionId := by
  unfold heard unreceived TerminalManager.broadcast
  cases placed : view.place with
  | none => simp
  | some position =>
      rw [Option.map_some, Option.getD_some, Option.map_some, Option.getD_some,
        List.drop_append_of_le_length (inside position placed),
        List.flatMap_append, List.flatMap_singleton, patchChanges_event,
        latest_concat, announcedChange_key]
      simp

/-- What the rows show of a session stays so when its row does. -/
theorem current_kept
    (table : Registry state)
    (found : state.tasks[place]? = some acting)
    (effect : TerminalEffect windows state.shared acting input manager after)
    (inside : ∀ index ∈ view.remaining, index < state.shared.objects.length)
    (same : (manager.row terminalSessionId).map
        TerminalSessionInfo.withoutOutput =
      (state.shared.row terminalSessionId).map
        TerminalSessionInfo.withoutOutput)
    (current : view.current state.shared terminalSessionId = true) :
    after.announces = some terminalSessionId ∨
      view.current manager terminalSessionId = true := by
  cases held : state.shared.getSession terminalSessionId with
  | some index =>
      have old : acting.inserts ≠ some terminalSessionId := by
        intro inserts
        obtain ⟨session, present, id⟩ := table.entry held
        exact table.fresh found inserts present id
      rcases effect.getSession_after old held with there | removes
      · right
        unfold TableView.current at current ⊢
        rw [held] at current
        rw [there]
        simp only [same]
        exact current
      · exact Or.inl (announces_of_removes removes)
  | none =>
      cases there : manager.getSession terminalSessionId with
      | some index =>
          rcases effect.new_announced there with before | announces
          · rw [held] at before
            cases before
          · exact Or.inl announces
      | none =>
          right
          unfold TableView.current at current ⊢
          rw [held] at current
          rw [there]
          have ids : view.remaining.map manager.idAt =
              view.remaining.map state.shared.idAt :=
            List.map_congr_left fun index member =>
              (effect.idAt (inside index member)).2
          have any (other : TerminalManager) :
              view.remaining.any (fun index =>
                other.idAt index == some terminalSessionId) =
              (view.remaining.map other.idAt).contains
                (some terminalSessionId) := by
            rw [List.contains_eq_any_beq, List.any_map]
            congr 1
            funext index
            exact Bool.beq_comm
          simp only [any] at current ⊢
          rw [ids]
          exact current

/-- A broadcast that does not mislead leaves what a subscription will show. -/
theorem settles_broadcast
    {subscription : Nat} {task : TerminalTask} {announcement : Announcement}
    {followup : Followup} {answers : TerminalAnswers}
    (lookup : state.tasks[subscription]? = some task)
    (subscribed : task.tableView = some view)
    (shows : view.Shows state)
    (found : state.tasks[place]? = some (.announcing announcement followup))
    (honest : misleads subscription state (.advance place (.proceed answers)) =
      false)
    (alone : announcedElsewhere state place terminalSessionId = false) :
    view.settles (state.shared.broadcast announcement.event)
      terminalSessionId = true := by
  unfold settles
  rw [heard_broadcast shows.place]
  by_cases subject : announcement.subject = terminalSessionId
  · subst subject
    simp only [misleads, lookup, subscribed, found, Option.bind_some, alone,
      Bool.not_false, Bool.true_and, Bool.not_eq_false'] at honest
    cases placed : view.place with
    | some position =>
        simp only [placed, Option.isSome_some, if_true, and_self]
          at honest ⊢
        exact honest
    | none =>
        have unheard : view.heard state.shared announcement.subject = none := by
          unfold heard unreceived
          rw [placed]
          rfl
        simp only [placed, Option.isSome_none, Bool.false_eq_true, if_false,
          false_and, unheard] at honest ⊢
        exact honest
  · rw [if_neg fun both => subject both.2]
    rcases shows.shows terminalSessionId with
      ⟨other, second, present, announces⟩ | settles
    · have here : other = place := by
        by_contra apart
        have elsewhere := announcedElsewhere_eq_true.mpr
          ⟨other, second, apart, present, announces⟩
        rw [alone] at elsewhere
        cases elsewhere
      subst here
      cases present.symm.trans found
      exact (subject (Option.some.inj announces)).elim
    · exact settles

/-- What a subscription hears when nothing is broadcast. -/
theorem heard_of_tableTx
    {next : TerminalManager} (same : next.tableTx = manager.tableTx) :
    view.heard next terminalSessionId =
      view.heard manager terminalSessionId := by
  unfold heard unreceived
  rw [same]

/-- A step that broadcasts nothing leaves what a subscription will show of a
session, or its task announces the session. -/
theorem settles_kept
    {history : List TerminalHistoryEvent} {subscription : Nat}
    {task : TerminalTask}
    (reached : terminalRun windows history = some state)
    (lookup : state.tasks[subscription]? = some task)
    (subscribed : task.tableView = some view)
    (shows : view.Shows state)
    (found : state.tasks[place]? = some acting)
    (honest : misleads subscription state (.advance place input) = false)
    (effect : TerminalEffect windows state.shared acting input manager after)
    (quiet : manager.tableTx = state.shared.tableTx)
    (alone : announcedElsewhere state place terminalSessionId = false)
    (settles : view.settles state.shared terminalSessionId = true) :
    after.announces = some terminalSessionId ∨
      view.settles manager terminalSessionId = true := by
  have table := registry reached
  rcases effect.row table terminalSessionId with
    announces | same | ⟨request, rpcSessionId, index, answers, rfl, rfl, held,
      refused⟩
  · exact Or.inl announces
  · unfold TableView.settles at settles ⊢
    rw [heard_of_tableTx quiet]
    cases heard : view.heard state.shared terminalSessionId with
    | some value =>
        rw [heard] at settles
        simp only [same]
        exact Or.inr settles
    | none =>
        rw [heard] at settles
        exact current_kept table found effect shows.inside same settles
  · obtain ⟨session, present, id⟩ := table.target found rfl
    obtain ⟨second, entry, named⟩ := table.entry held
    cases present.symm.trans entry
    cases id.symm.trans named
    have there :
        (state.shared.row request.terminalSessionId).isSome = true := by
      rw [Option.isSome_iff_ne_none, ne_eq, table.row_eq_none, held]
      simp
    simp only [misleads, lookup, subscribed, found, Option.bind_some, there,
      alone, refused, Bool.not_false, Bool.true_and, Bool.not_eq_false',
      Bool.and_eq_true, Option.isNone_iff_eq_none] at honest
    obtain ⟨unread, unheard⟩ := honest
    rcases effect.getSession_after (by simp [TerminalTask.inserts]) held with
      kept | removes
    · right
      unfold TableView.settles
      rw [heard_of_tableTx quiet, unheard]
      simp only [TableView.current, kept, unread, Bool.true_or]
    · exact Or.inl (announces_of_removes removes)

/-- A subscription shows as much after a step of another task. -/
theorem Shows.frame
    {history : List TerminalHistoryEvent} {subscription : Nat}
    {task : TerminalTask}
    (reached : terminalRun windows history = some state)
    (lookup : state.tasks[subscription]? = some task)
    (subscribed : task.tableView = some view)
    (shows : view.Shows state)
    (found : state.tasks[place]? = some acting)
    (honest : misleads subscription state (.advance place input) = false)
    (effect : TerminalEffect windows state.shared acting input manager
      after) :
    view.Shows ⟨manager, state.tasks.set place after⟩ := by
  refine
    { inside := fun index member => (effect.idAt (shows.inside index member)).1
      place := ?_
      distinct := ?_
      shows := ?_ }
  · intro position placed
    have bound := shows.place position placed
    change position ≤ manager.tableTx.length
    rcases effect.tableTx with
      ⟨same, -⟩ | ⟨announcement, followup, answers, rfl, rfl, rfl, rfl⟩
    · rw [same]
      exact bound
    · unfold TerminalManager.broadcast
      rw [List.length_append]
      exact Nat.le_trans bound (Nat.le_add_right _ _)
  · have ids : view.remaining.map manager.idAt =
        view.remaining.map state.shared.idAt :=
      List.map_congr_left fun index member =>
        (effect.idAt (shows.inside index member)).2
    change ((rowIds view.rows).map some ++
      view.remaining.map manager.idAt).Nodup
    rw [ids]
    exact shows.distinct
  · intro terminalSessionId
    rw [announces_set found]
    cases alone : announcedElsewhere state place terminalSessionId with
    | true => exact Or.inl (Or.inr rfl)
    | false =>
        rcases effect.tableTx with
          ⟨quiet, silent⟩ |
            ⟨announcement, followup, answers, rfl, rfl, rfl, rfl⟩
        · rcases shows.shows terminalSessionId with
            ⟨other, second, present, announces⟩ | settles
          · by_cases here : other = place
            · subst here
              cases present.symm.trans found
              exact Or.inl (Or.inl (effect.announces_kept announces silent))
            · have elsewhere := announcedElsewhere_eq_true.mpr
                ⟨other, second, here, present, announces⟩
              rw [alone] at elsewhere
              cases elsewhere
          · rcases settles_kept reached lookup subscribed shows found honest
              effect quiet alone settles with announces | settles
            · exact Or.inl (Or.inl announces)
            · exact Or.inr settles
        · exact Or.inr
            (settles_broadcast lookup subscribed shows found honest alone)

/-! ## Steps of the subscription -/

/-- A snapshot starts with all the sessions of the table. -/
theorem Shows.snapshot
    (table : Registry state) (place : Option Nat)
    (placed : ∀ position, place = some position →
      position ≤ state.shared.tableTx.length)
    (recent : ∀ terminalSessionId value,
      heard ⟨state.shared.sessions.map Prod.snd, [], place⟩ state.shared
          terminalSessionId = some value →
        Announces state terminalSessionId ∨
          value.map TerminalSessionInfo.withoutOutput =
            (state.shared.row terminalSessionId).map
              TerminalSessionInfo.withoutOutput) :
    (⟨state.shared.sessions.map Prod.snd, [], place⟩ : TableView).Shows
      state := by
  have ids : (state.shared.sessions.map Prod.snd).map state.shared.idAt =
      (SortedMap.keys state.shared.sessions).map some := by
    unfold SortedMap.keys
    rw [List.map_map, List.map_map]
    apply List.map_congr_left
    intro pair member
    obtain ⟨session, present, same⟩ := table.listed member
    simp [TerminalManager.idAt, present, same]
  refine
    { inside := ?_
      place := placed
      distinct := ?_
      shows := ?_ }
  · intro index member
    obtain ⟨pair, listed, rfl⟩ := List.mem_map.mp member
    obtain ⟨session, present, -⟩ := table.listed listed
    exact (List.getElem?_eq_some_iff.mp present).1
  · change ([] ++ _).Nodup
    rw [List.nil_append, ids]
    exact table.ascending.nodup.map (Option.some_injective _)
  · intro terminalSessionId
    have current : TableView.current
        ⟨state.shared.sessions.map Prod.snd, [], place⟩ state.shared
          terminalSessionId = true := by
      unfold TableView.current
      cases held : state.shared.getSession terminalSessionId with
      | some index =>
          have member := SortedMap.mem_of_lookup held
          simp only [Bool.or_eq_true, List.contains_iff_mem]
          exact Or.inl (List.mem_map.mpr ⟨_, member, rfl⟩)
      | none =>
          simp only [shown_nil, Option.isNone_none, Bool.true_and,
            Bool.not_eq_true', List.any_eq_false, beq_iff_eq]
          intro index member same
          have listed : some terminalSessionId ∈
              (state.shared.sessions.map Prod.snd).map state.shared.idAt :=
            List.mem_map.mpr ⟨index, member, same⟩
          rw [ids] at listed
          obtain ⟨key, known, equal⟩ := List.mem_map.mp listed
          cases equal
          have found := (SortedMap.lookup_isSome_iff _ _).mpr known
          change (state.shared.getSession _).isSome at found
          rw [held] at found
          cases found
    by_cases announces : Announces state terminalSessionId
    · exact Or.inl announces
    · right
      rw [settles_iff]
      exact ⟨fun value hears =>
        (recent terminalSessionId value hears).resolve_left announces,
          fun _ => current⟩

/-- A snapshot reads the next session. -/
theorem Shows.collect
    {index : Nat} {remaining : List Nat} {rows : List TerminalSessionInfo}
    {place : Option Nat} {session : TerminalSession}
    (table : Registry state)
    (shows : (⟨index :: remaining, rows, place⟩ : TableView).Shows state)
    (found : state.shared.objects[index]? = some session) :
    (⟨remaining, rows ++ [session.info], place⟩ : TableView).Shows state := by
  have id : state.shared.idAt index =
      some session.info.terminalSessionId := by
    unfold TerminalManager.idAt
    rw [found, Option.map_some]
  have distinct := shows.distinct
  rw [List.map_cons, id] at distinct
  have unread : shown rows session.info.terminalSessionId = none := by
    rw [shown_eq_none]
    intro member
    exact (List.disjoint_of_nodup_append distinct)
      (List.mem_map_of_mem member) List.mem_cons_self
  have read (terminalSessionId : String)
      (current : TableView.current ⟨index :: remaining, rows, place⟩
        state.shared terminalSessionId = true) :
      TableView.current ⟨remaining, rows ++ [session.info], place⟩
        state.shared terminalSessionId = true := by
    unfold TableView.current at current ⊢
    cases held : state.shared.getSession terminalSessionId with
    | some entry =>
        rw [held] at current
        obtain ⟨second, present, same⟩ := table.entry held
        have row : state.shared.row terminalSessionId =
            some second.info := by
          unfold TerminalManager.row
          rw [held, Option.bind_some, present, Option.map_some]
        simp only [row, shown_append, List.contains_cons, Bool.or_eq_true,
          beq_iff_eq, List.contains_iff_mem, decide_eq_true_eq]
          at current ⊢
        rcases current with (rfl | later) | shows
        · right
          cases present.symm.trans found
          subst same
          rw [unread, Option.none_or, shown_cons, if_pos rfl]
        · exact Or.inl later
        · right
          obtain ⟨shownRow, first, -⟩ := Option.map_eq_some_iff.mp shows
          rw [first, Option.some_or, ← first]
          exact shows
    | none =>
        rw [held] at current
        simp only [List.any_cons, id, Bool.not_or, Bool.and_eq_true,
          Option.isNone_iff_eq_none, Bool.not_eq_true', beq_eq_false_iff_ne,
          ne_eq, Option.some.injEq] at current ⊢
        obtain ⟨hidden, other, rest⟩ := current
        refine ⟨?_, rest⟩
        rw [shown_append, hidden, Option.none_or, shown_cons, if_neg other]
        rfl
  refine
    { inside := fun other member =>
        shows.inside other (List.mem_cons_of_mem _ member)
      place := shows.place
      distinct := ?_
      shows := ?_ }
  · change ((rowIds (rows ++ [session.info])).map some ++ _).Nodup
    unfold rowIds
    rw [List.map_append, List.map_append, List.append_assoc]
    exact distinct
  · intro terminalSessionId
    refine (shows.shows terminalSessionId).imp_right ?_
    rw [settles_iff, settles_iff]
    rintro ⟨hears, current⟩
    exact ⟨hears, fun unheard => read terminalSessionId (current unheard)⟩

/-- A subscription that follows the channel receives the next event. -/
theorem Shows.receive
    {history : List TerminalHistoryEvent} {position : Nat}
    {delivered : List TerminalSessionsTableEvent}
    {event : TerminalSessionsTableEvent}
    (reached : terminalRun windows history = some state)
    (shows : (⟨[], clientTable delivered, some position⟩ : TableView).Shows
      state)
    (found : state.shared.tableTx[position]? = some event) :
    (⟨[], clientTable (delivered ++ [event]), some (position + 1)⟩ :
      TableView).Shows state := by
  obtain ⟨inside, rfl⟩ := List.getElem?_eq_some_iff.mp found
  obtain ⟨announcements, broadcasts⟩ := table_announcements reached
  obtain ⟨announcement, -, same⟩ : ∃ announcement ∈ announcements,
      announcement.event = state.shared.tableTx[position] := by
    rw [← List.mem_map, ← broadcasts]
    exact List.getElem_mem inside
  rw [← same] at found ⊢
  have after : shown (clientTable (delivered ++ [announcement.event])) =
      (announcedChange announcement).apply
        (shown (clientTable delivered)) := by
    rw [clientTable_concat, shown_announcement]
  -- What was still to be received is the event and what comes after it.
  have hears (terminalSessionId : String) :
      heard ⟨[], clientTable delivered, some position⟩ state.shared
          terminalSessionId =
        (heard ⟨[], clientTable (delivered ++ [announcement.event]),
            some (position + 1)⟩ state.shared terminalSessionId).or
          (if announcement.subject = terminalSessionId then
            some (announcedChange announcement).value else none) := by
    change latest terminalSessionId
      ((state.shared.tableTx.drop position).flatMap patchChanges) = _
    rw [List.drop_eq_getElem_cons inside, ← same, List.flatMap_cons,
      patchChanges_event, List.singleton_append, latest, announcedChange_key]
    rfl
  have distinct := shows.distinct
  change ((rowIds (clientTable delivered)).map some ++ []).Nodup at distinct
  rw [List.append_nil] at distinct
  refine
    { inside := shows.inside
      place := by
        rintro _ ⟨⟩
        exact inside
      distinct := ?_
      shows := ?_ }
  · change ((rowIds (clientTable (delivered ++ [announcement.event]))).map
      some ++ []).Nodup
    rw [List.append_nil, clientTable_concat]
    apply List.Nodup.map (Option.some_injective _)
    have before := distinct.of_map _
    cases announcement with
    | upsert info => exact nodup_applyPatch before [] [info]
    | remove removed => exact nodup_applyPatch before [⟨removed⟩] []
  · intro terminalSessionId
    refine (shows.shows terminalSessionId).imp_right ?_
    rw [settles_iff, settles_iff, hears]
    rintro ⟨last, current⟩
    refine ⟨?_, ?_⟩
    · intro value later
      exact last value (by rw [later, Option.some_or])
    · intro unheard
      rw [unheard, Option.none_or] at last current
      unfold TableView.current
      simp only [after, Change.apply, announcedChange_key]
      by_cases subject : announcement.subject = terminalSessionId
      · have agrees := last (announcedChange announcement).value
          (if_pos subject)
        rw [subject, Function.update_self]
        cases held : state.shared.getSession terminalSessionId with
        | some index => simp [agrees]
        | none =>
            have off : state.shared.row terminalSessionId = none :=
              (registry reached).row_eq_none.mpr held
            rw [off, Option.map_none, Option.map_eq_none_iff] at agrees
            simp [agrees]
      · rw [Function.update_of_ne (Ne.symm subject)]
        exact current (if_neg subject)

/-- What a subscription shows depends on the other tasks only for what they
have to tell. -/
theorem Shows.tasks
    {tasks : List TerminalTask} (shows : view.Shows state)
    (announced : ∀ terminalSessionId, Announces state terminalSessionId →
      Announces ⟨state.shared, tasks⟩ terminalSessionId) :
    view.Shows ⟨state.shared, tasks⟩ where
  inside := shows.inside
  place := shows.place
  distinct := shows.distinct
  shows terminalSessionId :=
    (shows.shows terminalSessionId).imp_left (announced terminalSessionId)

/-- A subscription that has fallen behind goes on at a later place, with a new
snapshot. -/
theorem Shows.restart
    {position next missed : Nat} {rows : List TerminalSessionInfo}
    (table : Registry state)
    (shows : (⟨[], rows, some position⟩ : TableView).Shows state)
    (got : Broadcast.receive terminalTableChannelCapacity state.shared.tableTx
      position = some (.lagged missed, next)) :
    (⟨state.shared.sessions.map Prod.snd, [], some next⟩ : TableView).Shows
      state := by
  obtain ⟨further, bound⟩ := receive_place got
  apply Shows.snapshot table
  · rintro _ ⟨⟩
    exact bound
  · intro terminalSessionId value hears
    refine (shows.shows terminalSessionId).imp_right ?_
    rw [settles_iff]
    rintro ⟨last, -⟩
    apply last
    change latest terminalSessionId
      ((state.shared.tableTx.drop position).flatMap patchChanges) = _
    rw [drop_eq_between_append (Nat.le_of_lt further), List.flatMap_append,
      latest_append]
    change (heard ⟨state.shared.sessions.map Prod.snd, [], some next⟩
      state.shared terminalSessionId).or _ = _
    rw [hears, Option.some_or]

/-- A subscription shows as much after a step of its own. -/
theorem Shows.step
    {history : List TerminalHistoryEvent} {task : TerminalTask}
    {later : TableView}
    (reached : terminalRun windows history = some state)
    (before : ∀ view, task.tableView = some view → view.Shows state)
    (effect : TerminalEffect windows state.shared task input manager after)
    (subscribed : after.tableView = some later) :
    manager = state.shared ∧ task.announces = none ∧ later.Shows state := by
  have table := registry reached
  cases effect with
  | locked _ answers index session changed lock found effect =>
      cases effect <;> cases subscribed
  | unlocked _ answers _ lock effect =>
      cases effect with
      | announce announcement followup =>
          cases followup <;> cases subscribed
      | quiet _ _ effect =>
          cases effect with
          | openSnapshot =>
              cases subscribed
              refine ⟨rfl, rfl, .snapshot table none (by simp) ?_⟩
              rintro terminalSessionId value ⟨⟩
          | restart position missed next delivered got =>
              cases subscribed
              exact ⟨rfl, rfl, (before _ rfl).restart table got⟩
          | collect index remaining rows place delivered session found =>
              cases subscribed
              exact ⟨rfl, rfl, (before _ rfl).collect table found⟩
          | collected rows delivered =>
              cases subscribed
              rw [clientTable_concat]
              exact ⟨rfl, rfl, before _ rfl⟩
          | recollected rows place delivered =>
              cases subscribed
              rw [clientTable_concat]
              exact ⟨rfl, rfl, before _ rfl⟩
          | subscribe delivered =>
              cases subscribed
              have shows := before _ rfl
              refine ⟨rfl, rfl,
                { inside := shows.inside
                  place := ?_
                  distinct := shows.distinct
                  shows := ?_ }⟩
              · rintro _ ⟨⟩
                exact Nat.le_refl _
              · intro terminalSessionId
                refine (shows.shows terminalSessionId).imp_right ?_
                rw [settles_iff, settles_iff]
                rintro ⟨-, current⟩
                have unheard : heard ⟨[], clientTable delivered,
                    some state.shared.tableTx.length⟩ state.shared
                      terminalSessionId = none := by
                  simp [heard, unreceived, latest]
                refine ⟨?_, fun _ => current rfl⟩
                rw [unheard]
                rintro value ⟨⟩
          | follow position next delivered event got =>
              cases subscribed
              obtain ⟨-, found, rfl⟩ := receive_eq_value.mp got
              exact ⟨rfl, rfl, (before _ rfl).receive reached found⟩
          | receive stream session received place _ _ written running found
              got delivers goes =>
              subst goes
              split at subscribed <;> cases subscribed
          | _ => cases subscribed
      | _ => cases subscribed
  | broken _ error effect => cases effect <;> cases subscribed

end TableView

/-! ## Runs -/

/-- What a subscription shows in every state of a run that does not mislead
it. -/
theorem subscription_shows
    {windows : Bool} {history : List TerminalHistoryEvent}
    {state : TerminalRun} {subscription : Nat}
    (reached : terminalRun windows history = some state)
    (honest : Throughout (terminalSystem windows).step ⟨.new, []⟩
      (fun state event => misleads subscription state event = false)
      history)
    {task : TerminalTask} {view : TableView}
    (found : state.tasks[subscription]? = some task)
    (subscribed : task.tableView = some view) :
    view.Shows state := by
  revert task view
  apply run_invariant_throughout _ _ reached honest
  · rintro task view ⟨⟩
  · rintro history state event next earlier shows honest taken task view found
      subscribed
    cases terminal_step taken with
    | launch request =>
        rcases TaskSystem.getElem?_concat_cases found with
          ⟨-, rfl⟩ | ⟨-, older⟩
        · rw [tableView_of_fresh (start_fresh request)] at subscribed
          cases subscribed
        · apply (shows older subscribed).tasks
          rintro terminalSessionId ⟨place, second, present, announces⟩
          have inside := (List.getElem?_eq_some_iff.mp present).1
          exact ⟨place, second,
            (List.getElem?_append_left inside).trans present, announces⟩
    | advance place acting after input manager present effect =>
        rcases TaskSystem.getElem?_set_cases found with
          ⟨rfl, rfl⟩ | ⟨apart, older⟩
        · obtain ⟨rfl, silent, after⟩ := TableView.Shows.step earlier
            (fun view => shows present) effect subscribed
          apply after.tasks
          rintro terminalSessionId ⟨other, second, lookup, announces⟩
          refine ⟨other, second, ?_, announces⟩
          rw [List.getElem?_set_ne]
          · exact lookup
          · rintro rfl
            cases lookup.symm.trans present
            rw [silent] at announces
            cases announces
        · exact (shows older subscribed).frame earlier older subscribed
            present honest effect

/-- The snapshot of the table has the rows of its sessions, under distinct
ids. -/
theorem Registry.sessionsSnapshot
    {state : TerminalRun} (table : Registry state) :
    rowIds state.shared.sessionsSnapshot =
        SortedMap.keys state.shared.sessions ∧
      ∀ terminalSessionId,
        shown state.shared.sessionsSnapshot terminalSessionId =
          state.shared.row terminalSessionId := by
  unfold TerminalManager.sessionsSnapshot TerminalManager.row
    TerminalManager.getSession
  have listed (pair : String × Nat) (member : pair ∈ state.shared.sessions) :=
    table.listed member
  generalize state.shared.sessions = sessions at listed ⊢
  induction sessions with
  | nil => exact ⟨rfl, fun _ => rfl⟩
  | cons pair sessions inductionHypothesis =>
      obtain ⟨session, present, same⟩ := listed pair List.mem_cons_self
      obtain ⟨ids, rows⟩ := inductionHypothesis fun other member =>
        listed other (List.mem_cons_of_mem _ member)
      rw [List.filterMap_cons, present, Option.map_some]
      constructor
      · rw [SortedMap.keys_cons, ← ids, ← same]
        rfl
      · intro terminalSessionId
        change shown (session.info :: _) terminalSessionId = _
        rw [shown_cons, SortedMap.lookup_cons_eq, same, rows]
        by_cases here : pair.1 = terminalSessionId
        · simp [here, present]
        · simp [here, Ne.symm here]

/-- A subscription that has sent all that was broadcast shows every session as
it is of which no task has to tell any more, and the table of the manager when
no task has to tell of any. -/
theorem subscription_shows_table
    (windows : Bool) (history : List TerminalHistoryEvent)
    (state : TerminalRun) (subscription : Nat)
    (delivered : List TerminalSessionsTableEvent)
    (reached : terminalRun windows history = some state)
    (honest : Throughout (terminalSystem windows).step ⟨.new, []⟩
      (fun state event => misleads subscription state event = false)
      history)
    (found : state.tasks[subscription]? =
      some (.following state.shared.tableTx.length delivered)) :
    (∀ terminalSessionId, ¬Announces state terminalSessionId →
        state.shared.Agrees (clientTable delivered) terminalSessionId) ∧
      ((∀ terminalSessionId, ¬Announces state terminalSessionId) →
        ((clientTable delivered).map
            TerminalSessionInfo.withoutOutput).Perm
          (state.shared.sessionsSnapshot.map
            TerminalSessionInfo.withoutOutput)) := by
  have shows := subscription_shows reached honest found rfl
  obtain ⟨ids, rows⟩ := (registry reached).sessionsSnapshot
  have agrees (terminalSessionId : String)
      (quiet : ¬Announces state terminalSessionId) :
      state.shared.Agrees (clientTable delivered) terminalSessionId := by
    have settles := (shows.shows terminalSessionId).resolve_left quiet
    have current := (TableView.settles_iff.mp settles).2
      (by simp [TableView.heard, TableView.unreceived, latest])
    unfold TableView.current at current
    unfold TerminalManager.Agrees
    cases held : state.shared.getSession terminalSessionId with
    | some index =>
        rw [held] at current
        simpa using current
    | none =>
        rw [held] at current
        have hidden : shown (clientTable delivered) terminalSessionId =
            none := by
          simpa using current
        rw [hidden, (registry reached).row_eq_none.mpr held]
  refine ⟨agrees, ?_⟩
  intro quiet
  apply perm_of_shown
  · exact fun _ => rfl
  · have distinct := shows.distinct
    change ((rowIds (clientTable delivered)).map some ++ []).Nodup at distinct
    rw [List.append_nil] at distinct
    exact distinct.of_map _
  · rw [ids]
    exact (registry reached).ascending.nodup
  · intro terminalSessionId
    rw [rows]
    exact agrees terminalSessionId (quiet terminalSessionId)

/-- The place of a subscription in the channel, and what it has sent. -/
def TerminalTask.followed :
    TerminalTask → Option (Nat × List TerminalSessionsTableEvent)
  | .following place delivered => some (place, delivered)
  | _ => none

theorem eq_following {task : TerminalTask} {place : Nat}
    {delivered : List TerminalSessionsTableEvent}
    (followed : task.followed = some (place, delivered)) :
    task = .following place delivered := by
  cases task with
  | following =>
      cases followed
      rfl
  | _ => cases followed

/-- A subscription starts, and receives word of an attach. -/
def followedSample : List TerminalHistoryEvent :=
  sampleSession ++
    .launch .subscribeSessions :: terminalGoesOn sampleAnswers 1 4 ++
    .launch (.attach ⟨"terminal-1", none, 80, 24⟩ 7) ::
      terminalGoesOn sampleAnswers 2 4 ++
    terminalGoesOn sampleAnswers 1 1

/-- A subscription that has followed all events shows the table. -/
theorem subscription_shows_table_sample :
    ∃ state delivered, terminalRun false followedSample = some state ∧
      state.tasks[1]? =
        some (.following state.shared.tableTx.length delivered) ∧
      (clientTable delivered).map TerminalSessionInfo.lastAttachedAtMs =
        [some 5] ∧
      ((clientTable delivered).map TerminalSessionInfo.withoutOutput).Perm
        (state.shared.sessionsSnapshot.map
          TerminalSessionInfo.withoutOutput) := by
  have follows : (terminalRun false followedSample).map (fun state =>
      (state.tasks[1]?.bind TerminalTask.followed).map fun stream =>
        (decide (stream.1 = state.shared.tableTx.length),
          (clientTable stream.2).map TerminalSessionInfo.lastAttachedAtMs)) =
      some (some (true, [some 5])) := by
    rfl
  have quiet : (terminalRun false followedSample).map (fun state =>
      state.tasks.all fun task => task.announces.isNone) = some true := by
    rfl
  obtain ⟨state, reached, values⟩ := Option.map_eq_some_iff.mp follows
  rw [reached, Option.map_some, Option.some.injEq] at quiet
  obtain ⟨⟨place, delivered⟩, bound, same⟩ := Option.map_eq_some_iff.mp values
  obtain ⟨task, found, followed⟩ := Option.bind_eq_some_iff.mp bound
  cases eq_following followed
  obtain ⟨placed, rows⟩ := Prod.mk.inj same
  cases of_decide_eq_true placed
  exact ⟨state, delivered, reached, found, rows,
    (subscription_shows_table false followedSample state 1 delivered reached
      (throughout_of_checkEach_eq_false (by rfl)) found).2
        (not_announces quiet)⟩

/-- A session is created and told of between the snapshot of a subscription and
its place in the channel. -/
def unheardSample : List TerminalHistoryEvent :=
  .launch .subscribeSessions :: terminalGoesOn sampleAnswers 0 2 ++
    .launch (.createSession ⟨80, 24, none, ⟨"sh", []⟩, none⟩ "client") ::
      terminalGoesOn sampleAnswers 1 3 ++
    terminalGoesOn sampleAnswers 0 1

/-- Nothing is left to tell or to receive, and the client does not show the
session. -/
theorem session_created_unseen :
    ∃ state, terminalRun false unheardSample = some state ∧
      state.tasks[0]? = some (.following state.shared.tableTx.length
        [.snapshot []]) ∧
      (∀ terminalSessionId, ¬Announces state terminalSessionId) ∧
      rowIds state.shared.sessionsSnapshot = ["terminal-1"] ∧
      ¬state.shared.Agrees (clientTable [.snapshot []]) "terminal-1" := by
  have follows : (terminalRun false unheardSample).map (fun state =>
      state.tasks[0]?) = some (some (.following 1 [.snapshot []])) := by
    rfl
  have tables : (terminalRun false unheardSample).map (fun state =>
      (state.shared.tableTx.length, rowIds state.shared.sessionsSnapshot,
        decide (state.shared.Agrees (clientTable [.snapshot []])
          "terminal-1"))) = some (1, ["terminal-1"], false) := by
    rfl
  have quiet : (terminalRun false unheardSample).map (fun state =>
      state.tasks.all fun task => task.announces.isNone) = some true := by
    rfl
  obtain ⟨state, reached, found⟩ := Option.map_eq_some_iff.mp follows
  rw [reached, Option.map_some, Option.some.injEq] at tables quiet
  simp only [Prod.mk.injEq, decide_eq_false_iff_not] at tables
  obtain ⟨length, rows, unseen⟩ := tables
  refine ⟨state, reached, ?_, not_announces quiet, rows, unseen⟩
  rw [length]
  exact found

end Host
end WhatsGoingOn
