import WhatsGoingOn.Host.TerminalControl
import WhatsGoingOn.Web.TerminalView

/-!
# Views agree with the terminal on who has control

What a view will have recorded when the events on the way have come is what the
terminal has, as long as no response comes late: after the last event, when
control has gone on to another attach.
-/

namespace WhatsGoingOn
namespace Web

open Daemon (ServiceError)
open Host

/-! ## Events that tell who has control -/

/-- An event that tells who has control. -/
def tellsControl : TerminalEvent → Bool
  | .attached _ _ _ | .controlChanged _ | .sessionClosed _ => true
  | _ => false

namespace TerminalView

/-- Other events leave the recorded primary attach. -/
theorem primary_foldl_of_silent {events : List TerminalEvent}
    (view : TerminalView) (silent : events.any tellsControl = false) :
    (events.foldl handleTerminalEvent view).primaryAttachId =
      view.primaryAttachId := by
  induction events generalizing view with
  | nil => rfl
  | cons event events inductionHypothesis =>
      rw [List.any_cons, Bool.or_eq_false_iff] at silent
      rw [List.foldl_cons, inductionHypothesis _ silent.2]
      cases event <;> first | rfl | cases silent.1

/-- Events that tell who has control make what was recorded irrelevant. -/
theorem primary_foldl_of_telling {events : List TerminalEvent}
    (left right : TerminalView) (telling : events.any tellsControl = true) :
    (events.foldl handleTerminalEvent left).primaryAttachId =
      (events.foldl handleTerminalEvent right).primaryAttachId := by
  induction events generalizing left right with
  | nil => cases telling
  | cons event events inductionHypothesis =>
      rw [List.foldl_cons, List.foldl_cons]
      cases later : events.any tellsControl with
      | true => exact inductionHypothesis _ _ later
      | false =>
          rw [primary_foldl_of_silent _ later, primary_foldl_of_silent _ later]
          rw [List.any_cons, later, Bool.or_false] at telling
          cases event <;> first | rfl | cases telling

/-- Whether a view has control is no matter for the attach that it has. -/
theorem attachId_foldl {left right : TerminalView} (events : List TerminalEvent)
    (same : left.attachId = right.attachId) :
    (events.foldl handleTerminalEvent left).attachId =
      (events.foldl handleTerminalEvent right).attachId := by
  induction events generalizing left right with
  | nil => exact same
  | cons event events inductionHypothesis =>
      apply inductionHypothesis
      cases event <;> first | rfl | exact same

theorem attachId_foldl_of_silent {events : List TerminalEvent}
    (view : TerminalView) (silent : events.any tellsControl = false) :
    (events.foldl handleTerminalEvent view).attachId = view.attachId := by
  induction events generalizing view with
  | nil => rfl
  | cons event events inductionHypothesis =>
      rw [List.any_cons, Bool.or_eq_false_iff] at silent
      rw [List.foldl_cons, inductionHypothesis _ silent.2]
      cases event <;> first | rfl | cases silent.1

end TerminalView

/-! ## What the daemon does -/

/-- A request for control that changes the primary attach without a word. -/
def refusesPrimary (session : TerminalSession)
    (request : TakeTerminalControlReq) (rpcSessionId : Nat)
    (resizeError : Option String) : Bool :=
  (validateSize request.viewportCols request.viewportRows).toOption.isSome &&
    (session.attachOwners request.attachId == some rpcSessionId &&
      (resizeError.isSome &&
        session.info.primaryAttachId != some request.attachId))

/-- What a request for control does: it sends what tells of a new primary
attach, unless it is refused. -/
theorem takeTerminalControl_cases
    {session changed : TerminalSession} {request : TakeTerminalControlReq}
    {rpcSessionId : Nat} {resizeError : Option String}
    {response : Except ServiceError String}
    (taken : takeTerminalControl session request rpcSessionId resizeError =
      (changed, response)) :
    changed.attachOwners = session.attachOwners ∧
      ∃ events, changed.outputTx = session.outputTx ++ events ∧
        ((refusesPrimary session request rpcSessionId resizeError = true ∧
            events = [] ∧
            changed.info.primaryAttachId ≠ session.info.primaryAttachId) ∨
          (refusesPrimary session request rpcSessionId resizeError = false ∧
            events.any tellsControl = false ∧
            changed.info.primaryAttachId = session.info.primaryAttachId) ∨
          (refusesPrimary session request rpcSessionId resizeError = false ∧
            ∃ later, events = .controlChanged request.attachId :: later ∧
              later.any tellsControl = false ∧
              changed.info.primaryAttachId = some request.attachId)) := by
  unfold takeTerminalControl at taken
  split at taken
  · rename_i invalid
    cases taken
    refine ⟨rfl, [], by simp, Or.inr (Or.inl ⟨?_, rfl, rfl⟩)⟩
    simp [refusesPrimary, invalid, Except.toOption]
  · rename_i valid
    have sized : (validateSize request.viewportCols
        request.viewportRows).toOption.isSome = true := by
      rw [valid]
      rfl
    cases result : session.takeControl request rpcSessionId resizeError with
    | mk target outcome =>
        rw [result] at taken
        cases taken
        unfold TerminalSession.takeControl at result
        split at result
        · rename_i invalid
          cases result
          have unowned : session.attachOwners request.attachId ≠
              some rpcSessionId := by
            intro owner
            rw [TerminalSession.validateAttachOwner_eq_ok.mpr owner] at invalid
            cases invalid
          refine ⟨rfl, [], by simp, Or.inr (Or.inl ⟨?_, rfl, rfl⟩)⟩
          simp [refusesPrimary, unowned]
        · rename_i valid
          have owner := TerminalSession.validateAttachOwner_eq_ok.mp valid
          split at result
          · cases result
            refine ⟨rfl, [], by simp, ?_⟩
            by_cases primary :
                session.info.primaryAttachId = some request.attachId
            · refine Or.inr (Or.inl ⟨?_, rfl, primary.symm⟩)
              simp [refusesPrimary, primary]
            · refine Or.inl ⟨?_, rfl, Ne.symm primary⟩
              simp [refusesPrimary, sized, owner, primary]
          · cases result
            have accepted : refusesPrimary session request rpcSessionId none =
                false := by
              simp [refusesPrimary]
            split <;> split
            · refine ⟨rfl, [.controlChanged request.attachId,
                .pseudoTerminalResized request.viewportCols
                  request.viewportRows],
                by simp [TerminalSession.send], ?_⟩
              exact Or.inr (Or.inr ⟨accepted, _, rfl, rfl, rfl⟩)
            · rename_i _ primary
              refine ⟨rfl, [.pseudoTerminalResized request.viewportCols
                request.viewportRows], rfl, ?_⟩
              exact Or.inr (Or.inl ⟨accepted, rfl, (not_not.mp primary).symm⟩)
            · refine ⟨rfl, [.controlChanged request.attachId], rfl, ?_⟩
              exact Or.inr (Or.inr ⟨accepted, _, rfl, rfl, rfl⟩)
            · rename_i _ primary
              refine ⟨rfl, [], by simp, ?_⟩
              exact Or.inr (Or.inl ⟨accepted, rfl, (not_not.mp primary).symm⟩)

/-- The output that is retained tells nothing of control. -/
theorem replayEvents_silent (session : TerminalSession)
    (afterSeq : Option Nat) :
    (session.replayEvents afterSeq).any tellsControl = false := by
  unfold TerminalSession.replayEvents
  split
  · rfl
  · rw [List.any_append, List.any_map, Bool.or_eq_false_iff]
    constructor
    · split <;> rfl
    · exact List.any_eq_false.mpr fun record _ => by
        simp [TerminalSession.chunkEvent, tellsControl]

/-- Output tells a view nothing of control. -/
theorem recordOutput_silent {windows : Bool}
    {session changed : TerminalSession} {bytes : List UInt8} {nowMs : Nat}
    {announced : Option TerminalSessionInfo}
    (recorded : session.recordOutput windows bytes nowMs =
      some (changed, announced)) :
    changed.attachOwners = session.attachOwners ∧
      changed.info.primaryAttachId = session.info.primaryAttachId ∧
      ∃ events, changed.outputTx = session.outputTx ++ events ∧
        events.any tellsControl = false := by
  obtain ⟨-, -, title, cwd, parser, metadata, -, rfl⟩ :=
    TerminalSession.recordOutput_eq recorded
  refine ⟨rfl, rfl, _, rfl, ?_⟩
  rw [List.any_cons, List.any_map]
  apply List.any_eq_false.mpr
  intro event _
  cases event <;> simp [TerminalSession.metadataEvent, tellsControl]

/-! ## What a view will have recorded -/

namespace TerminalClient

variable {client : TerminalClient} {session changed : TerminalSession}

/-- The view when all events that are on the way have come. -/
def expected (client : TerminalClient) (session : TerminalSession) :
    TerminalView :=
  (client.undelivered session).foldl TerminalView.handleTerminalEvent
    client.view

theorem undelivered_append {events : List TerminalEvent}
    (inside : client.stream.place ≤ session.outputTx.length)
    (sent : changed.outputTx = session.outputTx ++ events) :
    client.undelivered changed = client.undelivered session ++ events := by
  rw [undelivered, undelivered, sent,
    List.drop_append_of_le_length inside, List.append_assoc]

theorem expected_append {events : List TerminalEvent}
    (inside : client.stream.place ≤ session.outputTx.length)
    (sent : changed.outputTx = session.outputTx ++ events) :
    client.expected changed =
      events.foldl TerminalView.handleTerminalEvent
        (client.expected session) := by
  rw [expected, undelivered_append inside sent, List.foldl_append]
  rfl

/-- Taking the next event leaves the others on the way. -/
theorem nextEvent_eq {event : TerminalEvent} {stream : AttachStream}
    (inside : client.stream.place ≤ session.outputTx.length)
    (next : client.nextEvent session = some (event, stream)) :
    client.undelivered session = event ::
        { client with stream }.undelivered session ∧
      stream.attached = client.stream.attached ∧
      stream.rpcSessionId = client.stream.rpcSessionId ∧
      stream.place ≤ session.outputTx.length := by
  unfold nextEvent at next
  unfold undelivered
  split at next
  · rename_i pending
    cases next
    exact ⟨by rw [pending]; rfl, rfl, rfl, inside⟩
  · rename_i pending
    obtain ⟨found, there, same⟩ := Option.map_eq_some_iff.mp next
    cases same
    obtain ⟨below, rfl⟩ := List.getElem?_eq_some_iff.mp there
    refine ⟨?_, rfl, rfl, below⟩
    rw [pending]
    exact List.drop_eq_getElem_cons below

/-- A client is attached: its stream is at a place of the channel, the daemon
knows its attach, and so does its view or will. -/
structure Attached (client : TerminalClient) (session : TerminalSession)
    (limit : Nat) : Prop where
  place : client.stream.place ≤ session.outputTx.length
  owner : session.attachOwners client.stream.attached.attachId =
    some client.stream.rpcSessionId
  numbered : Text.Numbered "attach-" limit client.stream.attached.attachId
  known : (client.expected session).attachId =
    some client.stream.attached.attachId

/-- A client stays attached while its attach has its owner and no event takes
it. -/
theorem Attached.later {limit higher : Nat} {events : List TerminalEvent}
    (attached : client.Attached session limit)
    (above : limit ≤ higher)
    (owners : changed.attachOwners client.stream.attached.attachId =
      session.attachOwners client.stream.attached.attachId)
    (sent : changed.outputTx = session.outputTx ++ events)
    (keeps : ∀ view : TerminalView,
      (events.foldl TerminalView.handleTerminalEvent view).attachId =
        view.attachId) :
    client.Attached changed higher := by
  refine ⟨?_, owners.trans attached.owner, attached.numbered.mono above, ?_⟩
  · rw [sent, List.length_append]
    exact Nat.le_add_right_of_le attached.place
  · rw [expected_append attached.place sent, keeps]
    exact attached.known

end TerminalClient

namespace TerminalClients

variable {windows : Bool} {state next : TerminalClients}

/-! ## Attached clients -/

/-- Every client is attached. -/
def AllAttached (state : TerminalClients) : Prop :=
  ∀ client ∈ state.clients, client.Attached state.session state.nextAttachId

/-- A client that changes is attached when it was, and its view and its stream
stay as they are, or agree with what they were. -/
theorem AllAttached.setClient {index : Nat} {client : TerminalClient}
    (attached : state.AllAttached)
    (still : client.Attached state.session state.nextAttachId) :
    (state.setClient index client).AllAttached := by
  intro other member
  rcases List.mem_or_eq_of_mem_set member with member | rfl
  · exact attached other member
  · exact still

/-- The client of a new attach stream. -/
abbrev attachedClient (rpcSessionId : Nat) (attached : AttachedTerminal) :
    TerminalClient :=
  ⟨.initial, .start rpcSessionId 0 attached, [], []⟩

/-- What an attach gives to a new client. -/
theorem attach_eq {session changed : TerminalSession}
    {request : AttachTerminalSessionReq} {attachId : String}
    {rpcSessionId nowMs : Nat} {attached : AttachedTerminal}
    (result : (do
      validateSize request.viewportCols request.viewportRows
      session.attach request attachId rpcSessionId nowMs) =
        .ok (changed, attached)) :
    changed.attachOwners =
        Function.update session.attachOwners attachId (some rpcSessionId) ∧
      changed.outputTx = session.outputTx ∧
      changed.info.primaryAttachId = session.info.primaryAttachId ∧
      attached.attachId = attachId ∧
      attached.receiver = session.outputTx.length ∧
      ((attachedClient rpcSessionId attached).expected changed).attachId =
        some attachId ∧
      ((attachedClient rpcSessionId attached).expected
        changed).primaryAttachId = session.info.primaryAttachId := by
  cases valid : validateSize request.viewportCols request.viewportRows with
  | error error =>
      rw [valid] at result
      cases result
  | ok accepted =>
      rw [valid] at result
      change session.attach request attachId rpcSessionId nowMs = _ at result
      unfold TerminalSession.attach at result
      split at result
      · cases result
      · cases result
        have silent : (session.replayEvents request.afterSeq ++
            (session.info.exit.map TerminalEvent.sessionExited).toList).any
              tellsControl = false := by
          rw [List.any_append, replayEvents_silent, Bool.false_or]
          cases session.info.exit <;> rfl
        refine ⟨rfl, rfl, rfl, rfl, rfl, ?_, ?_⟩
        · dsimp only [TerminalClient.expected, TerminalClient.undelivered,
            AttachStream.start]
          rw [List.drop_length, List.append_nil, List.cons_append,
            List.foldl_cons, TerminalView.attachId_foldl_of_silent _ silent]
          rfl
        · dsimp only [TerminalClient.expected, TerminalClient.undelivered,
            AttachStream.start]
          rw [List.drop_length, List.append_nil, List.cons_append,
            List.foldl_cons, TerminalView.primary_foldl_of_silent _ silent]
          rfl

/-- The daemon sends events that leave the attaches of the views. -/
theorem AllAttached.later {changed : TerminalSession}
    {events : List TerminalEvent}
    (attached : state.AllAttached)
    (owners : changed.attachOwners = state.session.attachOwners)
    (sent : changed.outputTx = state.session.outputTx ++ events)
    (keeps : ∀ view : TerminalView,
      (events.foldl TerminalView.handleTerminalEvent view).attachId =
        view.attachId) :
    AllAttached { state with session := changed } :=
  fun client member => (attached client member).later (Nat.le_refl _)
    (by rw [owners]) sent keeps

/-- Clients stay attached in every step. -/
theorem AllAttached.step {input : TerminalClientsInput}
    (attached : state.AllAttached)
    (taken : state.step windows input = some next) : next.AllAttached := by
  cases input with
  | attach request rpcSessionId nowMs =>
      simp only [TerminalClients.step] at taken
      split at taken
      · cases taken
      · rename_i changed given result
        cases taken
        obtain ⟨owners, sent, -, attachId, receiver, known, -⟩ :=
          attach_eq result
        intro client member
        rcases List.mem_append.mp member with member | member
        · have was := attached client member
          have nothing : changed.outputTx = state.session.outputTx ++ [] := by
            rw [sent, List.append_nil]
          apply was.later (Nat.le_succ _) _ nothing fun _ => rfl
          rw [owners, Function.update_of_ne was.numbered.ne_next]
        · cases List.mem_singleton.mp member
          refine ⟨?_, ?_, ?_, ?_⟩
          · exact Nat.le_of_eq (receiver.trans (by rw [sent]))
          · change changed.attachOwners given.attachId = some rpcSessionId
            rw [owners, attachId, Function.update_self]
          · exact ⟨state.nextAttachId, Nat.lt_succ_self _, attachId⟩
          · exact known.trans (congrArg some attachId.symm)
  | output bytes nowMs =>
      obtain ⟨⟨changed, announced⟩, recorded, rfl⟩ :=
        Option.map_eq_some_iff.mp taken
      obtain ⟨owners, -, events, sent, silent⟩ := recordOutput_silent recorded
      exact attached.later owners sent fun view =>
        TerminalView.attachId_foldl_of_silent view silent
  | takeCurrentControl index cols rows =>
      obtain ⟨client, found, goes⟩ := Option.bind_eq_some_iff.mp taken
      have was := attached client (List.mem_of_getElem? found)
      split at goes <;> cases goes
      exact attached.setClient ⟨was.place, was.owner, was.numbered, was.known⟩
  | takeControl index position resizeError =>
      obtain ⟨client, found, goes⟩ := Option.bind_eq_some_iff.mp taken
      obtain ⟨request, there, rfl⟩ := Option.map_eq_some_iff.mp goes
      cases result : takeTerminalControl state.session request
          client.stream.rpcSessionId resizeError with
      | mk changed response =>
          obtain ⟨owners, events, sent, told⟩ :=
            takeTerminalControl_cases result
          have keeps (view : TerminalView) :
              (events.foldl TerminalView.handleTerminalEvent view).attachId =
                view.attachId := by
            rcases told with ⟨-, rfl, -⟩ | ⟨-, silent, -⟩ |
              ⟨-, later, rfl, silent, -⟩
            · rfl
            · exact TerminalView.attachId_foldl_of_silent view silent
            · exact TerminalView.attachId_foldl_of_silent
                (view.handleTerminalEvent (.controlChanged _)) silent
          have later := attached.later owners sent keeps
          have was := later client (List.mem_of_getElem? found)
          exact later.setClient ⟨was.place, was.owner, was.numbered, was.known⟩
  | event index =>
      obtain ⟨client, found, goes⟩ := Option.bind_eq_some_iff.mp taken
      obtain ⟨⟨event, stream⟩, delivered, rfl⟩ :=
        Option.map_eq_some_iff.mp goes
      have was := attached client (List.mem_of_getElem? found)
      obtain ⟨split, same, owner, place⟩ :=
        TerminalClient.nextEvent_eq was.place delivered
      apply attached.setClient
      refine ⟨place, ?_, ?_, ?_⟩
      · rw [same, owner]
        exact was.owner
      · rw [same]
        exact was.numbered
      · have known := was.known
        rw [TerminalClient.expected, split] at known
        rw [same]
        exact known
  | response index =>
      obtain ⟨client, found, goes⟩ := Option.bind_eq_some_iff.mp taken
      split at goes <;> cases goes
      rename_i response responses coming
      have was := attached client (List.mem_of_getElem? found)
      apply attached.setClient
      refine ⟨was.place, was.owner, was.numbered, ?_⟩
      refine Eq.trans ?_ was.known
      apply TerminalView.attachId_foldl
      cases response <;> rfl

/-! ## Agreement -/

/-- Every view will have recorded what the terminal has. -/
def Agreed (state : TerminalClients) : Prop :=
  ∀ client ∈ state.clients,
    (client.expected state.session).primaryAttachId =
      state.session.info.primaryAttachId

/-- A response comes after the last event that tells who has control, when
another attach has it; or the pseudo-terminal refuses the size of a request
that has changed the primary attach. -/
def misleads (state : TerminalClients) : TerminalClientsInput → Bool
  | .takeControl index position resizeError =>
      state.clients[index]?.any fun client =>
        client.requests[position]?.any fun request =>
          refusesPrimary state.session request client.stream.rpcSessionId
            resizeError
  | .response index =>
      state.clients[index]?.any fun client =>
        match client.responses with
        | .ok primaryAttachId :: _ =>
            !(client.undelivered state.session).any tellsControl &&
              state.session.info.primaryAttachId != some primaryAttachId
        | _ => false
  | _ => false

/-- All agree when the client that changes does. -/
theorem Agreed.setClient_iff {index : Nat} {client changed : TerminalClient}
    (agreed : state.Agreed) (found : state.clients[index]? = some client) :
    (state.setClient index changed).Agreed ↔
      (changed.expected state.session).primaryAttachId =
        state.session.info.primaryAttachId := by
  constructor
  · intro all
    exact all changed (List.mem_set (List.getElem?_eq_some_iff.mp found).1 _)
  · intro same other member
    rcases List.mem_or_eq_of_mem_set member with member | rfl
    · exact agreed other member
    · exact same

/-- Of a session that sends events, and a view that agrees with it. -/
theorem Agreed.later {changed : TerminalSession}
    {events : List TerminalEvent}
    (attached : state.AllAttached)
    (sent : changed.outputTx = state.session.outputTx ++ events)
    (told : ∀ view : TerminalView,
      view.primaryAttachId = state.session.info.primaryAttachId →
      (events.foldl TerminalView.handleTerminalEvent view).primaryAttachId =
        changed.info.primaryAttachId)
    (agreed : state.Agreed) :
    Agreed { state with session := changed } := by
  intro client member
  change (client.expected changed).primaryAttachId = _
  rw [TerminalClient.expected_append (attached client member).place sent]
  exact told _ (agreed client member)

/-- The response to a request for control is recorded over what was, unless an
event that tells who has control is still to come. -/
theorem expected_response {client : TerminalClient}
    {session : TerminalSession} {responses : List (Except ServiceError String)}
    (primaryAttachId : String)
    (agreed : (client.expected session).primaryAttachId =
      session.info.primaryAttachId) :
    ({ client with
        view := client.view.handleResponse (.ok primaryAttachId)
        responses }.expected session).primaryAttachId =
          session.info.primaryAttachId ↔
      (!(client.undelivered session).any tellsControl &&
        session.info.primaryAttachId != some primaryAttachId) = false := by
  cases telling : (client.undelivered session).any tellsControl with
  | true =>
      refine iff_of_true ?_ rfl
      rw [← agreed]
      exact TerminalView.primary_foldl_of_telling _ _ telling
  | false =>
      have recorded : ({ client with
          view := client.view.handleResponse (.ok primaryAttachId)
          responses }.expected session).primaryAttachId =
            some primaryAttachId :=
        TerminalView.primary_foldl_of_silent _ telling
      rw [recorded, Bool.not_false, Bool.true_and, bne_eq_false_iff_eq]
      exact eq_comm

/-- A step keeps the agreement exactly when it does not mislead. -/
theorem agreed_step_iff {input : TerminalClientsInput}
    (attached : state.AllAttached) (agreed : state.Agreed)
    (taken : state.step windows input = some next) :
    next.Agreed ↔ state.misleads input = false := by
  cases input with
  | attach request rpcSessionId nowMs =>
      refine iff_of_true ?_ rfl
      simp only [TerminalClients.step] at taken
      split at taken
      · cases taken
      · rename_i changed given result
        cases taken
        obtain ⟨-, sent, primary, -, -, -, known⟩ := attach_eq result
        have nothing : changed.outputTx = state.session.outputTx ++ [] := by
          rw [sent, List.append_nil]
        have before := agreed.later attached nothing
          fun view same => same.trans primary.symm
        intro client member
        rcases List.mem_append.mp member with member | member
        · exact before client member
        · cases List.mem_singleton.mp member
          exact known.trans primary.symm
  | output bytes nowMs =>
      refine iff_of_true ?_ rfl
      obtain ⟨⟨changed, announced⟩, recorded, rfl⟩ :=
        Option.map_eq_some_iff.mp taken
      obtain ⟨-, primary, events, sent, silent⟩ := recordOutput_silent recorded
      apply agreed.later attached sent
      intro view same
      rw [TerminalView.primary_foldl_of_silent view silent, same]
      exact primary.symm
  | takeCurrentControl index cols rows =>
      refine iff_of_true ?_ rfl
      obtain ⟨client, found, goes⟩ := Option.bind_eq_some_iff.mp taken
      split at goes <;> cases goes
      exact (agreed.setClient_iff found).mpr
        (agreed client (List.mem_of_getElem? found))
  | takeControl index position resizeError =>
      obtain ⟨client, found, goes⟩ := Option.bind_eq_some_iff.mp taken
      obtain ⟨request, there, rfl⟩ := Option.map_eq_some_iff.mp goes
      have misled : state.misleads
          (.takeControl index position resizeError) =
            refusesPrimary state.session request client.stream.rpcSessionId
              resizeError := by
        simp [misleads, found, there]
      have member := List.mem_of_getElem? found
      cases result : takeTerminalControl state.session request
          client.stream.rpcSessionId resizeError with
      | mk changed response =>
          rw [misled]
          obtain ⟨-, events, sent, told⟩ := takeTerminalControl_cases result
          rcases told with ⟨refused, rfl, lost⟩ | ⟨accepted, silent, same⟩ |
            ⟨accepted, later, rfl, silent, primary⟩
          · rw [refused]
            refine iff_of_false ?_ Bool.noConfusion
            intro all
            apply lost
            have now := all _ (List.mem_set
              (List.getElem?_eq_some_iff.mp found).1 _)
            refine now.symm.trans (Eq.trans ?_ (agreed client member))
            exact congrArg TerminalView.primaryAttachId
              (TerminalClient.expected_append
                (attached client member).place sent)
          · refine iff_of_true ?_ accepted
            have after := agreed.later attached sent fun view known => by
              rw [TerminalView.primary_foldl_of_silent view silent, known, same]
            exact (after.setClient_iff found).mpr (after client member)
          · refine iff_of_true ?_ accepted
            have after := agreed.later attached sent fun view _ => by
              rw [List.foldl_cons,
                TerminalView.primary_foldl_of_silent _ silent, primary]
              rfl
            exact (after.setClient_iff found).mpr (after client member)
  | event index =>
      refine iff_of_true ?_ rfl
      obtain ⟨client, found, goes⟩ := Option.bind_eq_some_iff.mp taken
      obtain ⟨⟨event, stream⟩, delivered, rfl⟩ :=
        Option.map_eq_some_iff.mp goes
      have member := List.mem_of_getElem? found
      obtain ⟨split, -, -, -⟩ :=
        TerminalClient.nextEvent_eq (attached client member).place delivered
      apply (agreed.setClient_iff found).mpr
      have known := agreed client member
      rw [TerminalClient.expected, split] at known
      exact known
  | response index =>
      obtain ⟨client, found, goes⟩ := Option.bind_eq_some_iff.mp taken
      split at goes <;> cases goes
      rename_i response responses coming
      have same := agreed client (List.mem_of_getElem? found)
      rw [agreed.setClient_iff found]
      cases response with
      | error error =>
          exact iff_of_true same (by simp [misleads, found, coming])
      | ok primaryAttachId =>
          rw [expected_response primaryAttachId same]
          simp [misleads, found, coming]

/-! ## Every run -/

variable {request : CreateTerminalSessionReq}
  {terminalSessionId creatorClientId : String} {initialCwd : Option String}
  {nowMs : Nat} {history : List TerminalClientsInput}

theorem run_attached
    (reached : run (step windows) (initial request terminalSessionId
      creatorClientId initialCwd nowMs) history = some state) :
    state.AllAttached := by
  apply @run_state_invariant _ _ _ _ _ AllAttached _ _ _ reached
  · exact fun client member => absurd member List.not_mem_nil
  · exact fun state input next attached taken => attached.step taken

/-- All views agree in every state of a run exactly when no step of it
misleads. -/
theorem agreed_iff
    (reached : run (step windows) (initial request terminalSessionId
      creatorClientId initialCwd nowMs) history = some state) :
    (∀ early late earlier, history = early ++ late →
        run (step windows) (initial request terminalSessionId creatorClientId
          initialCwd nowMs) early = some earlier → earlier.Agreed) ↔
      Throughout (step windows) (initial request terminalSessionId
        creatorClientId initialCwd nowMs)
        (fun state input => state.misleads input = false) history := by
  apply @holds_iff_throughout _ _ _ _ _ _ Agreed _ _ _ reached
  · exact fun client member => absurd member List.not_mem_nil
  · exact fun _ _ _ _ before agreed taken =>
      agreed_step_iff (run_attached before) agreed taken

end TerminalClients

/-- The daemon accepts input from an owner of the primary attach. -/
theorem writeInput_complete_iff {session : TerminalSession} {attachId : String}
    {rpcSessionId : Nat} (bytes : List UInt8)
    (owner : session.attachOwners attachId = some rpcSessionId) :
    (session.writeInput attachId bytes rpcSessionId .complete).2 = .ok () ↔
      session.info.primaryAttachId = some attachId := by
  rw [TerminalSession.writeInput,
    TerminalSession.validateAttachOwner_eq_ok.mpr owner]
  by_cases primary : session.info.primaryAttachId = some attachId <;>
    simp [primary]

/-- In every run that does not mislead: a view to which all events have come has
recorded the primary attach of the terminal, and it believes that it may type
exactly when the daemon accepts its input. -/
theorem view_agrees_on_control (windows : Bool)
    (request : CreateTerminalSessionReq)
    (terminalSessionId creatorClientId : String) (initialCwd : Option String)
    (nowMs : Nat)
    {history : List TerminalClientsInput} {state : TerminalClients}
    (reached : run (TerminalClients.step windows) (.initial request
      terminalSessionId creatorClientId initialCwd nowMs) history = some state)
    (clear : Throughout (TerminalClients.step windows) (.initial request
      terminalSessionId creatorClientId initialCwd nowMs)
      (fun state input => state.misleads input = false) history) :
    ∀ client ∈ state.clients, client.undelivered state.session = [] →
      client.view.primaryAttachId = state.session.info.primaryAttachId ∧
        ∀ bytes, client.view.isLivePrimaryAttach = true ↔
          (state.session.writeInput client.stream.attached.attachId bytes
            client.stream.rpcSessionId .complete).2 = .ok () := by
  intro client member delivered
  have attached := TerminalClients.run_attached reached client member
  have primary := (TerminalClients.agreed_iff reached).mpr clear history []
    state (List.append_nil _).symm reached client member
  have known := attached.known
  rw [TerminalClient.expected, delivered, List.foldl_nil] at primary known
  refine ⟨primary, fun bytes => ?_⟩
  rw [writeInput_complete_iff bytes attached.owner,
    TerminalView.isLivePrimaryAttach, known, primary, Option.isSome_some,
    Bool.true_and, beq_iff_eq]

/-- Two clients have attached. -/
def twoClientsHistory : List TerminalClientsInput :=
  [.attach ⟨"terminal-0", none, 80, 24⟩ 1 0,
    .attach ⟨"terminal-0", none, 80, 24⟩ 2 0, .event 0, .event 1]

/-- Both take control; the response of the first comes before the event of the
second. -/
def responseInTimeHistory : List TerminalClientsInput :=
  twoClientsHistory ++
    [.takeCurrentControl 0 80 24, .takeControl 0 0 none, .event 0, .event 1,
      .takeCurrentControl 1 80 24, .takeControl 1 0 none, .response 0,
      .event 0, .event 1, .response 1]

/-- A terminal of 80 columns and 24 rows. -/
def sampleTerminal : TerminalClients :=
  .initial ⟨80, 24, none, ⟨"sh", []⟩, none⟩ "terminal-0" "client" none 0

/-- A response that arrives before the next event leaves the views right. -/
theorem view_agrees_on_control_in_time :
    ∃ state, run (TerminalClients.step false) sampleTerminal
        responseInTimeHistory = some state ∧
      ∀ client ∈ state.clients, client.view.primaryAttachId =
        state.session.info.primaryAttachId := by
  have ends : (run (TerminalClients.step false) sampleTerminal
      responseInTimeHistory).map (fun state => state.clients.all fun client =>
        client.undelivered state.session == []) = some true := by
    rfl
  obtain ⟨state, reached, delivered⟩ := Option.map_eq_some_iff.mp ends
  refine ⟨state, reached, fun client member => ?_⟩
  have all := List.all_eq_true.mp delivered client member
  exact (view_agrees_on_control false _ _ _ _ _ reached
    (throughout_of_checkEach_eq_false (by rfl)) client member
    (beq_iff_eq.mp all)).1

/-- The response of the first client comes after the event that the second has
taken control: everything is delivered, and the first believes that it may
type. -/
theorem late_response_misleads :
    (run (TerminalClients.step false) sampleTerminal (twoClientsHistory ++
        [.takeCurrentControl 0 80 24, .takeControl 0 0 none, .event 0, .event 1,
          .takeCurrentControl 1 80 24, .takeControl 1 0 none, .event 0,
          .response 0, .event 1, .response 1])).map (fun state =>
        (state.session.info.primaryAttachId,
          state.clients.map fun client =>
            ((client.undelivered state.session).length +
                client.requests.length + client.responses.length,
              client.view.primaryAttachId,
              client.view.isLivePrimaryAttach))) =
      some (some "attach-1",
        [(0, some "attach-0", true), (0, some "attach-1", true)]) := by
  rfl

end Web
end WhatsGoingOn
