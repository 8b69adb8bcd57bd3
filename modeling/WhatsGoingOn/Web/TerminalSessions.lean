import WhatsGoingOn.Host.TerminalManager
import WhatsGoingOn.Library.ChangeLog

/-!
# The table of sessions at a client

A client keeps the rows it was told.  A snapshot replaces them, and a patch
takes some away and puts others in their places, or at the end.
-/

namespace WhatsGoingOn
namespace Web

open ChangeLog Host

/-- Put a row in the place of the one with its id, or at the end. -/
def upsertTerminalSession (rows : List TerminalSessionInfo)
    (session : TerminalSessionInfo) : List TerminalSessionInfo :=
  match rows.findIdx? fun current =>
      current.terminalSessionId == session.terminalSessionId with
  | some index => rows.set index session
  | none => rows ++ [session]

/-- The sessions after an event. -/
def applyTerminalSessionsEvent (current : List TerminalSessionInfo) :
    TerminalSessionsTableEvent → List TerminalSessionInfo
  | .snapshot rows => rows
  | .patch removes upserts =>
      upserts.foldl upsertTerminalSession
        (current.filter fun session =>
          !removes.contains ⟨session.terminalSessionId⟩)

/-- The row that a table shows for a session. -/
def shown (rows : List TerminalSessionInfo) (terminalSessionId : String) :
    Option TerminalSessionInfo :=
  rows.find? fun row => row.terminalSessionId == terminalSessionId

/-! ## A patch as a log of changes -/

/-- What a row changes. -/
def upsertChange (info : TerminalSessionInfo) :
    Change String TerminalSessionInfo :=
  ⟨info.terminalSessionId, some info⟩

/-- What a patch changes.  A snapshot replaces everything instead. -/
def patchChanges : TerminalSessionsTableEvent →
    List (Change String TerminalSessionInfo)
  | .snapshot _ => []
  | .patch removes upserts =>
      removes.map (fun key => ⟨key.terminalSessionId, none⟩) ++
        upserts.map upsertChange

/-- What an announcement changes. -/
def announcedChange : Announcement → Change String TerminalSessionInfo
  | .upsert info => upsertChange info
  | .remove terminalSessionId => ⟨terminalSessionId, none⟩

theorem patchChanges_event (announcement : Announcement) :
    patchChanges announcement.event = [announcedChange announcement] := by
  cases announcement <;> rfl

theorem patchChanges_events (announcements : List Announcement) :
    (announcements.map Announcement.event).flatMap patchChanges =
      announcements.map announcedChange := by
  induction announcements with
  | nil => rfl
  | cons announcement announcements inductionHypothesis =>
      rw [List.map_cons, List.flatMap_cons, inductionHypothesis,
        patchChanges_event]
      rfl

@[simp] theorem announcedChange_key (announcement : Announcement) :
    (announcedChange announcement).key = announcement.subject := by
  cases announcement <;> rfl

@[simp] theorem shown_nil (terminalSessionId : String) :
    shown [] terminalSessionId = none := rfl

theorem shown_cons (row : TerminalSessionInfo)
    (rows : List TerminalSessionInfo) (terminalSessionId : String) :
    shown (row :: rows) terminalSessionId =
      if row.terminalSessionId = terminalSessionId then some row
      else shown rows terminalSessionId := by
  unfold shown
  by_cases same : row.terminalSessionId = terminalSessionId <;>
    simp [same]

theorem shown_append (rows more : List TerminalSessionInfo)
    (terminalSessionId : String) :
    shown (rows ++ more) terminalSessionId =
      (shown rows terminalSessionId).or (shown more terminalSessionId) :=
  List.find?_append

/-- The first row with the id gives way to the new one. -/
theorem upsertTerminalSession_cons (row session : TerminalSessionInfo)
    (rows : List TerminalSessionInfo) :
    upsertTerminalSession (row :: rows) session =
      if row.terminalSessionId = session.terminalSessionId then
        session :: rows
      else row :: upsertTerminalSession rows session := by
  unfold upsertTerminalSession
  by_cases same : row.terminalSessionId = session.terminalSessionId
  · simp [List.findIdx?_cons, same]
  · simp only [List.findIdx?_cons, beq_iff_eq, same, if_false]
    split
    · rename_i index found
      obtain ⟨place, lookup, rfl⟩ := Option.map_eq_some_iff.mp found
      rw [lookup]
      rfl
    · rename_i missing
      rw [Option.map_eq_none_iff.mp missing]
      rfl

/-- A row that is put in place is shown in its place. -/
theorem shown_upsertTerminalSession (rows : List TerminalSessionInfo)
    (session : TerminalSessionInfo) :
    shown (upsertTerminalSession rows session) =
      (upsertChange session).apply (shown rows) := by
  funext terminalSessionId
  simp only [Change.apply, upsertChange, Function.update_apply]
  induction rows with
  | nil =>
      change shown [session] terminalSessionId = _
      rw [shown_cons]
      simp [eq_comm]
  | cons row rows inductionHypothesis =>
      rw [upsertTerminalSession_cons]
      split
      · rename_i same
        rw [shown_cons, shown_cons, same]
        by_cases here : session.terminalSessionId = terminalSessionId
        · simp [here]
        · simp [here, Ne.symm here]
      · rename_i other
        rw [shown_cons, shown_cons, inductionHypothesis]
        by_cases here : row.terminalSessionId = terminalSessionId
        · subst here
          simp [other]
        · simp [here]

/-- What a client shows after an announcement. -/
theorem shown_announcement (rows : List TerminalSessionInfo)
    (announcement : Announcement) :
    shown (applyTerminalSessionsEvent rows announcement.event) =
      (announcedChange announcement).apply (shown rows) := by
  cases announcement with
  | upsert info =>
      have all : rows.filter (fun session : TerminalSessionInfo =>
          !([] : List TerminalSessionKey).contains
            ⟨session.terminalSessionId⟩) = rows := by
        simp
      change shown (upsertTerminalSession (rows.filter _) info) = _
      rw [all]
      exact shown_upsertTerminalSession rows info
  | remove removed =>
      funext terminalSessionId
      change shown (rows.filter fun session =>
        !([⟨removed⟩] : List TerminalSessionKey).contains
          ⟨session.terminalSessionId⟩) terminalSessionId = _
      simp only [shown, List.find?_filter, announcedChange, Change.apply,
        Function.update_apply]
      split
      · rename_i same
        subst same
        rw [List.find?_eq_none]
        intro row member
        simp
      · rename_i other
        congr 1
        funext row
        by_cases here : row.terminalSessionId = terminalSessionId
        · simp [here, other]
        · simp [here]

/-- What a client shows after some announcements. -/
theorem shown_announcements (rows : List TerminalSessionInfo)
    (announcements : List Announcement) :
    shown ((announcements.map Announcement.event).foldl
        applyTerminalSessionsEvent rows) =
      replay (shown rows) (announcements.map announcedChange) := by
  induction announcements generalizing rows with
  | nil => rfl
  | cons announcement announcements inductionHypothesis =>
      refine (inductionHypothesis _).trans ?_
      rw [shown_announcement]
      rfl

/-! ## Rows under distinct ids -/

/-- The ids of the rows. -/
def rowIds (rows : List TerminalSessionInfo) : List String :=
  rows.map TerminalSessionInfo.terminalSessionId

/-- A row that comes back keeps its place, and another comes to the end. -/
theorem rowIds_upsertTerminalSession (rows : List TerminalSessionInfo)
    (session : TerminalSessionInfo) :
    rowIds (upsertTerminalSession rows session) =
      if session.terminalSessionId ∈ rowIds rows then rowIds rows
      else rowIds rows ++ [session.terminalSessionId] := by
  induction rows with
  | nil => rfl
  | cons row rows inductionHypothesis =>
      rw [upsertTerminalSession_cons]
      by_cases same : row.terminalSessionId = session.terminalSessionId
      · simp [rowIds, same]
      · have apart : session.terminalSessionId ≠ row.terminalSessionId :=
          Ne.symm same
        rw [if_neg same]
        unfold rowIds at inductionHypothesis ⊢
        rw [List.map_cons, inductionHypothesis]
        simp only [List.map_cons, List.mem_cons, apart, false_or]
        split <;> rfl

theorem nodup_upsertTerminalSession {rows : List TerminalSessionInfo}
    (distinct : (rowIds rows).Nodup) (session : TerminalSessionInfo) :
    (rowIds (upsertTerminalSession rows session)).Nodup := by
  rw [rowIds_upsertTerminalSession]
  split
  · exact distinct
  · rename_i new
    rw [← List.concat_eq_append]
    exact distinct.concat new

/-- A patch keeps the ids distinct. -/
theorem nodup_applyPatch {rows : List TerminalSessionInfo}
    (distinct : (rowIds rows).Nodup) (removes : List TerminalSessionKey)
    (upserts : List TerminalSessionInfo) :
    (rowIds (applyTerminalSessionsEvent rows
      (.patch removes upserts))).Nodup := by
  have folded (kept : List TerminalSessionInfo)
      (unique : (rowIds kept).Nodup) :
      (rowIds (upserts.foldl upsertTerminalSession kept)).Nodup := by
    induction upserts generalizing kept with
    | nil => exact unique
    | cons session upserts inductionHypothesis =>
        exact inductionHypothesis _
          (nodup_upsertTerminalSession unique session)
  apply folded
  exact distinct.sublist (List.filter_sublist.map _)

theorem shown_eq_none {rows : List TerminalSessionInfo}
    {terminalSessionId : String} :
    shown rows terminalSessionId = none ↔
      terminalSessionId ∉ rowIds rows := by
  simp [shown, rowIds]

/-- A table shows all its rows when their ids are distinct. -/
theorem mem_iff_shown {rows : List TerminalSessionInfo}
    (distinct : (rowIds rows).Nodup) {row : TerminalSessionInfo} :
    row ∈ rows ↔ shown rows row.terminalSessionId = some row := by
  induction rows with
  | nil => simp
  | cons first rows inductionHypothesis =>
      obtain ⟨new, distinct⟩ := List.nodup_cons.mp distinct
      rw [List.mem_cons, shown_cons, inductionHypothesis distinct]
      split
      · rename_i same
        rw [Option.some.injEq, eq_comm, or_iff_left_iff_imp]
        intro found
        have missing := shown_eq_none.mpr new
        rw [same, found] at missing
        cases missing
      · rename_i other
        rw [or_iff_right_iff_imp]
        rintro rfl
        exact (other rfl).elim

/-- Tables with distinct ids that show the same are the same, in some
order. -/
theorem perm_of_shown
    {first second : List TerminalSessionInfo}
    {view : TerminalSessionInfo → TerminalSessionInfo}
    (keeps : ∀ row, (view row).terminalSessionId = row.terminalSessionId)
    (distinct : (rowIds first).Nodup) (apart : (rowIds second).Nodup)
    (same : ∀ terminalSessionId,
      (shown first terminalSessionId).map view =
        (shown second terminalSessionId).map view) :
    (first.map view).Perm (second.map view) := by
  have ids (rows : List TerminalSessionInfo) :
      rowIds (rows.map view) = rowIds rows := by
    simp [rowIds, keeps]
  have member {rows : List TerminalSessionInfo}
      (distinct : (rowIds rows).Nodup) (row : TerminalSessionInfo) :
      row ∈ rows.map view ↔
        (shown rows row.terminalSessionId).map view = some row := by
    rw [List.mem_map, Option.map_eq_some_iff]
    constructor
    · rintro ⟨origin, member, rfl⟩
      refine ⟨origin, ?_, rfl⟩
      rw [keeps]
      exact (mem_iff_shown distinct).mp member
    · rintro ⟨origin, found, rfl⟩
      exact ⟨origin, List.mem_of_find?_eq_some found, rfl⟩
  have unique {rows : List TerminalSessionInfo}
      (distinct : (rowIds rows).Nodup) : (rows.map view).Nodup := by
    rw [← ids rows] at distinct
    exact distinct.of_map _
  rw [List.perm_ext_iff_of_nodup (unique distinct) (unique apart)]
  intro row
  rw [member distinct, member apart, same]

end Web
end WhatsGoingOn
