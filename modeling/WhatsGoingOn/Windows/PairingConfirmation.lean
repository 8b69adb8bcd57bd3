import WhatsGoingOn.Library.Run
import WhatsGoingOn.Windows.PairingDialog

/-!
# Pairing requests in the tray

Threads of a server put requests of pairings in one pending place, and the
thread of a window takes them out to show them to the user.  Each request has
a responder, which is numbered in the order of the requests.
-/

namespace WhatsGoingOn
namespace Windows

/-- What the daemon asks the dialog to show. -/
structure PairingConfirmationRequest where
  daemonUrl : String
  confirmationCode : String
  clientLabel : String
  deriving DecidableEq, Repr

/-- What the dialog shows of a request. -/
def PairingConfirmationRequest.model (request : PairingConfirmationRequest) :
    PairingConfirmationModel :=
  ⟨request.confirmationCode, request.clientLabel⟩

/-- What a responder is answered. -/
inductive ConfirmationAnswer where
  | accepted
  | refused (message : String)
  deriving DecidableEq, Repr

/-- What a request is told that another has taken the place of. -/
def supersededMessage : String :=
  "superseded by a newer pairing request"

/-- What a request is told when its dialog is closed. -/
def cancelledMessage : String :=
  "pairing confirmation was cancelled"

/-- What a request is told when the user turns it down. -/
def rejectedMessage : String :=
  "pairing confirmation was rejected"

/-- The request in the dialog, who waits for its answer, and whether the window
was told of it. -/
structure PendingPairingConfirmation where
  request : Option PairingConfirmationRequest
  responder : Option Nat
  messagePosted : Bool
  deriving DecidableEq, Repr

namespace PendingPairingConfirmation

/-- The answer to the responder that is pending. -/
def answer (pending : PendingPairingConfirmation) (message : String) :
    List (Nat × ConfirmationAnswer) :=
  pending.responder.toList.map fun responder => (responder, .refused message)

/-- `queue_pairing_confirmation`: what is answered, what is pending then, and
whether a message is posted. -/
def queue (pending : PendingPairingConfirmation)
    (request : PairingConfirmationRequest) (responder : Nat) :
    List (Nat × ConfirmationAnswer) × PendingPairingConfirmation × Bool :=
  let replacedPendingRequest :=
    pending.request.isSome || pending.responder.isSome
  let posts := !(pending.messagePosted && !replacedPendingRequest)
  (pending.answer supersededMessage, ⟨some request, some responder, true⟩,
    posts)

/-- `take_pending_pairing_confirmation`. -/
def take (pending : PendingPairingConfirmation) :
    Option (PairingConfirmationRequest × Nat) × PendingPairingConfirmation :=
  match pending.request, pending.responder with
  | some request, some responder =>
      (some (request, responder), ⟨none, none, false⟩)
  | some _, none => (none, ⟨none, none, false⟩)
  | none, responder => (none, ⟨none, responder, false⟩)

/-- `clear_pending_pairing_confirmation`. -/
def clear (pending : PendingPairingConfirmation) :
    List (Nat × ConfirmationAnswer) × PendingPairingConfirmation :=
  (pending.answer cancelledMessage, ⟨none, none, false⟩)

end PendingPairingConfirmation

/-- A request whose dialog is open. -/
structure OpenDialog where
  request : PairingConfirmationRequest
  responder : Nat
  dialog : ConfirmationDialog
  deriving DecidableEq, Repr

/-- The tray. -/
structure TrayState where
  pending : PendingPairingConfirmation
  /-- The requests so far, each at the number of its responder. -/
  requests : List PairingConfirmationRequest
  /-- The requests whose threads have still to post a message. -/
  posting : List Nat
  /-- The messages that are posted and not yet dispatched. -/
  messages : Nat
  /-- The calls of `show_pending_pairing_confirmation` that have taken nothing
  yet. -/
  shows : Nat
  dialogs : List OpenDialog
  answers : List (Nat × ConfirmationAnswer)
  deriving DecidableEq, Repr

/-- The messages of the window that concern the requests. -/
inductive WindowMessage where
  | balloonUserClick
  | select
  | pairingConfirmation (toastFails : Bool)
  deriving DecidableEq, Repr

/-- What happens in the tray.  A dialog ends with the number of a button, or it
cannot be shown. -/
inductive TrayInput where
  | confirm (request : PairingConfirmationRequest)
  | post (responder : Nat) (fails : Bool)
  | window (message : WindowMessage)
  | take (timeSeed : UInt64)
  | close (index : Nat) (result : Except String Int)

/-- The answer after a dialog: the result of `confirm_pairing_request_owned`
as `show_pending_pairing_confirmation` sends it on. -/
def OpenDialog.answer (opened : OpenDialog) :
    Except String Int → ConfirmationAnswer
  | .error message => .refused message
  | .ok button =>
      match opened.dialog.selected button with
      | none => .refused rejectedMessage
      | some selected =>
          if selected = opened.request.confirmationCode then .accepted
          else .refused rejectedMessage

namespace TrayState

/-- A tray that has just been started. -/
def initial : TrayState :=
  ⟨⟨none, none, false⟩, [], [], 0, 0, [], []⟩

/-- `window_proc`. -/
def windowProc (state : TrayState) : WindowMessage → Option TrayState
  | .balloonUserClick => some { state with shows := state.shows + 1 }
  | .select =>
      if state.pending.request.isSome then
        some { state with shows := state.shows + 1 }
      else some state
  | .pairingConfirmation toastFails =>
      match state.messages with
      | 0 => none
      | messages + 1 =>
          some { state with
            messages
            shows := if toastFails then state.shows + 1 else state.shows }

/-- One step under the lock of the pending request. -/
def step (state : TrayState) : TrayInput → Option TrayState
  | .confirm request =>
      let responder := state.requests.length
      let (answers, pending, posts) := state.pending.queue request responder
      some { state with
        pending
        requests := state.requests ++ [request]
        posting := if posts then responder :: state.posting else state.posting
        answers := state.answers ++ answers }
  | .post responder fails =>
      if responder ∈ state.posting then
        let posting := state.posting.erase responder
        if fails then
          -- whatever is pending by now is cancelled
          let (answers, pending) := state.pending.clear
          some { state with
            pending, posting, answers := state.answers ++ answers }
        else some { state with posting, messages := state.messages + 1 }
      else none
  | .window message => state.windowProc message
  | .take timeSeed =>
      match state.shows with
      | 0 => none
      | shows + 1 =>
          let (taken, pending) := state.pending.take
          let opened := taken.map fun (request, responder) =>
            ⟨request, responder, confirmationDialog timeSeed request.model⟩
          some { state with
            pending, shows, dialogs := opened.toList ++ state.dialogs }
  | .close index result =>
      match state.dialogs[index]? with
      | none => none
      | some opened =>
          some { state with
            dialogs := state.dialogs.eraseIdx index
            answers :=
              state.answers ++ [(opened.responder, opened.answer result)] }

end TrayState

namespace TrayState

variable {state next : TrayState}

/-! ## What is kept -/

/-- The responders that are pending, shown or answered. -/
def responders (state : TrayState) : List Nat :=
  state.pending.responder.toList ++ state.dialogs.map OpenDialog.responder ++
    state.answers.map Prod.fst

/-- Every responder is in one place, with its own request. -/
structure Sound (state : TrayState) : Prop where
  once : state.responders.Nodup
  known : ∀ responder ∈ state.responders,
    responder < state.requests.length
  paired : state.pending.request =
    state.pending.responder.bind fun responder => state.requests[responder]?
  shown : ∀ opened ∈ state.dialogs,
    state.requests[opened.responder]? = some opened.request ∧
      ∃ timeSeed, opened.dialog =
        confirmationDialog timeSeed opened.request.model

theorem Sound.initial : Sound initial where
  once := by simp [responders, TrayState.initial]
  known := by simp [responders, TrayState.initial]
  paired := rfl
  shown := by simp [TrayState.initial]

/-- What changes neither the responders nor the requests keeps them sound. -/
theorem Sound.moved
    (sound : Sound state)
    (requests : next.requests = state.requests)
    (responders : next.responders.Perm state.responders)
    (paired : next.pending.request =
      next.pending.responder.bind fun responder => next.requests[responder]?)
    (shown : ∀ opened ∈ next.dialogs,
      next.requests[opened.responder]? = some opened.request ∧
        ∃ timeSeed, opened.dialog =
          confirmationDialog timeSeed opened.request.model) :
    Sound next where
  once := responders.nodup_iff.mpr sound.once
  known := by
    intro responder present
    rw [requests]
    exact sound.known responder (responders.mem_iff.mp present)
  paired := paired
  shown := shown

/-- The answer to the pending responder. -/
theorem map_fst_answer (pending : PendingPairingConfirmation)
    (message : String) :
    (pending.answer message).map Prod.fst = pending.responder.toList := by
  simp [PendingPairingConfirmation.answer, Function.comp_def]

/-- A new request takes the pending place. -/
theorem Sound.confirm
    {request : PairingConfirmationRequest}
    (sound : Sound state)
    (taken : state.step (.confirm request) = some next) :
    Sound next := by
  cases taken
  have fresh : state.requests.length ∉ state.responders :=
    fun present => (sound.known _ present).false
  have same : (state.requests.length :: (state.dialogs.map OpenDialog.responder ++
      (state.answers.map Prod.fst ++ state.pending.responder.toList))).Perm
      (state.requests.length :: state.responders) := by
    rw [List.perm_iff_count]
    intro responder
    simp only [responders, List.count_cons, List.count_append]
    omega
  constructor
  · simp only [responders, Option.toList_some, List.map_append, map_fst_answer,
      List.cons_append]
    exact same.nodup_iff.mpr (List.nodup_cons.mpr ⟨fresh, sound.once⟩)
  · intro responder present
    simp only [responders, Option.toList_some, List.map_append, map_fst_answer,
      List.cons_append] at present
    rw [List.length_append, List.length_singleton]
    rcases List.mem_cons.mp (same.mem_iff.mp present) with rfl | before
    · exact Nat.lt_succ_self _
    · exact Nat.lt_succ_of_lt (sound.known responder before)
  · simp
  · intro opened present
    obtain ⟨request, dialog⟩ := sound.shown opened present
    refine ⟨?_, dialog⟩
    obtain ⟨inside, -⟩ := List.getElem?_eq_some_iff.mp request
    exact (List.getElem?_append_left inside).trans request

/-- A thread posts its message, or cancels what is pending. -/
theorem Sound.post
    {responder : Nat} {fails : Bool}
    (sound : Sound state)
    (taken : state.step (.post responder fails) = some next) :
    Sound next := by
  simp only [step] at taken
  split at taken
  · cases fails with
    | false =>
        cases taken
        exact sound.moved rfl (List.Perm.refl _) sound.paired sound.shown
    | true =>
        cases taken
        refine sound.moved rfl ?_ rfl sound.shown
        rw [List.perm_iff_count]
        intro other
        simp only [responders, PendingPairingConfirmation.clear,
          Option.toList_none, List.map_append, map_fst_answer,
          List.count_append, List.nil_append]
        omega
  · cases taken

/-- The window thread takes the pending request and opens its dialog. -/
theorem Sound.take
    {timeSeed : UInt64}
    (sound : Sound state)
    (taken : state.step (.take timeSeed) = some next) :
    Sound next := by
  simp only [step] at taken
  split at taken
  · cases taken
  · cases taken
    have paired := sound.paired
    cases pending : state.pending.responder with
    | none =>
        rw [pending] at paired
        have absent : state.pending.request = none := paired
        refine sound.moved rfl ?_ ?_ ?_
        · simp [responders, PendingPairingConfirmation.take, absent, pending]
        · simp [PendingPairingConfirmation.take, absent, pending]
        · simpa [PendingPairingConfirmation.take, absent] using sound.shown
    | some responder =>
        rw [pending] at paired
        have inside : responder < state.requests.length := by
          apply sound.known
          simp [responders, pending]
        have found : state.requests[responder]? =
            some state.requests[responder] :=
          List.getElem?_eq_getElem inside
        have present : state.pending.request =
            some state.requests[responder] := paired.trans found
        refine sound.moved rfl ?_ ?_ ?_
        · simp [responders, PendingPairingConfirmation.take, present, pending]
        · simp [PendingPairingConfirmation.take, present, pending]
        · simp only [PendingPairingConfirmation.take, present, pending,
            Option.map_some, Option.toList_some, List.singleton_append,
            List.mem_cons]
          rintro opened (rfl | before)
          · exact ⟨found, timeSeed, rfl⟩
          · exact sound.shown opened before

/-- A dialog ends. -/
theorem Sound.close
    {index : Nat} {result : Except String Int}
    (sound : Sound state)
    (taken : state.step (.close index result) = some next) :
    Sound next := by
  simp only [step] at taken
  split at taken
  · cases taken
  · rename_i opened found
    cases taken
    obtain ⟨inside, same⟩ := List.getElem?_eq_some_iff.mp found
    refine sound.moved rfl ?_ sound.paired ?_
    · have split := (List.getElem_cons_eraseIdx_perm inside).map
        OpenDialog.responder
      rw [same] at split
      have counts := List.perm_iff_count.mp split
      rw [List.perm_iff_count]
      intro other
      have count := counts other
      simp only [List.map_cons, List.count_cons] at count
      simp only [responders, List.map_append, List.map_cons, List.map_nil,
        List.count_append, List.count_cons, List.count_nil]
      omega
    · intro other present
      exact sound.shown other (List.mem_of_mem_eraseIdx present)

/-- Every step keeps the responders sound. -/
theorem Sound.step {input : TrayInput} (sound : Sound state)
    (taken : state.step input = some next) : Sound next := by
  cases input with
  | confirm request => exact sound.confirm taken
  | post responder fails => exact sound.post taken
  | window message =>
      have same : next.pending = state.pending ∧
          next.requests = state.requests ∧ next.dialogs = state.dialogs ∧
          next.answers = state.answers := by
        cases message with
        | balloonUserClick =>
            cases taken
            simp
        | select =>
            simp only [TrayState.step, windowProc] at taken
            split at taken <;> cases taken <;> simp
        | pairingConfirmation toastFails =>
            simp only [TrayState.step, windowProc] at taken
            split at taken <;> cases taken
            simp
      obtain ⟨pending, requests, dialogs, answers⟩ := same
      apply sound.moved requests
      · simp [responders, pending, dialogs, answers]
      · rw [pending, requests]
        exact sound.paired
      · rw [dialogs, requests]
        exact sound.shown
  | take timeSeed => exact sound.take taken
  | close index result => exact sound.close taken

/-- The user ends the dialog of a responder with the option that is the code of
a request, and the dialog is the one of that request. -/
def Accepts (responder : Nat) (request : PairingConfirmationRequest)
    (state : TrayState) (input : TrayInput) : Prop :=
  ∃ index button opened timeSeed,
    input = .close index (.ok button) ∧
      state.dialogs[index]? = some opened ∧
      opened.responder = responder ∧
      opened.dialog = confirmationDialog timeSeed request.model ∧
      opened.dialog.selected button = some request.confirmationCode

end TrayState

/-! ## Confirmations are safe -/

end Windows
end WhatsGoingOn
