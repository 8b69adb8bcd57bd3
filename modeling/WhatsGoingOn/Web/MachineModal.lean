import WhatsGoingOn.Web.Tables
import WhatsGoingOn.Web.Workbench
import WhatsGoingOn.Web.RpcSession

/-!
# The machine modal

The modal selects a machine and has it paired.  An instance of the modal has an
rpc session of its own, for the machine that was in scope when the instance was
created; the store of the machines is shared.
-/

namespace WhatsGoingOn
namespace Web

/-! ## The machine store -/

/-- The machines that are stored, and which is selected. -/
structure MachineStore where
  machines : List Machine
  selectedId : Option String
  deriving DecidableEq, Repr

namespace MachineStore

/-- The machine of an id. -/
def findMachine (store : MachineStore) (machineId : Option String) :
    Option Machine :=
  store.machines.find? fun machine => some machine.id == machineId

/-- The machine that is selected. -/
def selected (store : MachineStore) : Option Machine :=
  store.findMachine store.selectedId

/-- Selects a machine, or none. -/
def selectMachine (store : MachineStore) (machineId : Option String) :
    MachineStore :=
  { store with selectedId := machineId }

/-- A machine that is added is selected. -/
def addMachine (store : MachineStore) (machine : Machine) : MachineStore :=
  ⟨store.machines ++ [machine], some machine.id⟩

/-- Changes the machine of an id. -/
def updateMachine (store : MachineStore) (machineId : String)
    (update : Machine → Machine) : MachineStore :=
  { store with
    machines := store.machines.map fun machine =>
      if machine.id = machineId then update machine else machine }

/-- Stores the credentials that a pairing brought. -/
def setMachineCredentials (store : MachineStore) (machineId : String)
    (credentials : IssuedCredentials) : MachineStore :=
  store.updateMachine machineId fun machine =>
    { machine with
      clientId := some credentials.clientId
      clientSecret := some credentials.clientSecret
      clientCredentialExpiresAtUnix :=
        some credentials.clientCredentialExpiresAtUnix }

/-- Forgets the secret and keeps the id. -/
def clearMachineCredentials (store : MachineStore) (machineId : String) :
    MachineStore :=
  store.updateMachine machineId fun machine =>
    { machine with clientSecret := none }

/-- Stores the time of expiry that a renewal brought. -/
def setMachineCredentialExpiry (store : MachineStore) (machineId : String)
    (clientCredentialExpiresAtUnix : Int) : MachineStore :=
  store.updateMachine machineId fun machine =>
    { machine with
      clientCredentialExpiresAtUnix := some clientCredentialExpiresAtUnix }

end MachineStore

/-! ## The modal -/

/-- What the dialog is open for. -/
inductive MachineModalMode where
  | add
  | pair
  | config
  | delete
  deriving DecidableEq, Repr

/-- The atoms of a modal, and the serial of its pairing request. -/
structure MachineModal where
  machineName : String
  machineNameEdited : Bool
  baseUrl : String
  configNameDraft : String
  configUrlDraft : String
  machineModalMode : Option MachineModalMode
  machineFormError : String
  pairingCode : String
  pairingConfirmationCode : Option String
  pairingCodeExpiresAtUnix : Option Int
  isRequestingPairingCode : Bool
  isPairing : Bool
  pairingRequestSerial : Nat
  deriving DecidableEq, Repr

namespace MachineModal

/-- The dialog is closed and has asked nothing. -/
def initial : MachineModal :=
  ⟨"", false, "", "", "", none, "", "", none, none, false, false, 0⟩

/-- The form holds no code and no confirmation of one. -/
def resetPairingCode (modal : MachineModal) : MachineModal :=
  { modal with
    pairingCode := ""
    pairingConfirmationCode := none
    pairingCodeExpiresAtUnix := none }

/-- The answer to the request that is under way no longer counts. -/
def cancelPairingRequest (modal : MachineModal) : MachineModal :=
  { modal with
    pairingRequestSerial := modal.pairingRequestSerial + 1
    isRequestingPairingCode := false }

/-- What opening a modal does to its drafts and its pairing. -/
def opened (modal : MachineModal) (mode : Option MachineModalMode) :
    MachineModal :=
  { modal.cancelPairingRequest.resetPairingCode with
    machineFormError := ""
    machineModalMode := mode }

/-- The beginning of `requestPairingCode`. -/
def requested (modal : MachineModal) (confirmationCode : String) :
    MachineModal :=
  { modal.resetPairingCode with
    pairingRequestSerial := modal.pairingRequestSerial + 1
    machineFormError := ""
    pairingConfirmationCode := some confirmationCode
    isRequestingPairingCode := true }

end MachineModal

/-- How the browser reads the URLs of machines. -/
structure MachineUrls where
  normalizeMachineUrl : String → Except String String
  inferMachineNameFromUrl : String → String

/-! ## Modals, and the controllers of their rpc sessions -/

/-- A controller of rpc sessions of one machine. -/
structure MachineController (δ : Type) where
  machineId : String
  controller : ControllerState δ
  deriving DecidableEq, Repr

/-- An instance of the modal, with its rpc session: the machine in its scope,
and the controller that is active. -/
structure ModalInstance where
  machineId : Option String
  activeController : Option Nat
  modal : MachineModal
  deriving DecidableEq, Repr

/-- A `startPairingSession` that is waited for: on behalf of which machine it
was made, and which call of which controller it is. -/
structure PairingRequest where
  position : Nat
  machine : Machine
  serial : Nat
  controller : Nat
  call : Nat
  settled : Bool
  deriving DecidableEq, Repr

/-- A `completePairingSession` that is waited for by `pairSelected`. -/
structure PairingCompletion where
  position : Nat
  selected : Machine
  controller : Nat
  call : Nat
  settled : Bool
  deriving DecidableEq, Repr

/-- The machines, the modals and their controllers. -/
structure ClientState (δ : Type) where
  store : MachineStore
  instances : List ModalInstance
  controllers : List (MachineController δ)
  requests : List PairingRequest
  completions : List PairingCompletion
  deriving DecidableEq, Repr

/-- What happens to the client.  Confirmation codes and ids are random. -/
inductive ClientInput (δ : Type) where
  | createInstance (machineId : Option String)
  | replaceController (position : Nat)
  | disposeController (position : Nat)
  | addMachine (position : Nat) (id confirmationCode : String)
  | openPairMachineModal (position : Nat) (machineId : String)
      (confirmationCode : String)
  | requestSelectedPairingCode (position : Nat) (confirmationCode : String)
  | pairSelected (position : Nat)
  | openAddMachineModal (position : Nat)
  | openConfigMachineModal (position : Nat) (machineId : String)
  | openDeleteMachineModal (position : Nat) (machineId : String)
  | closeMachineModal (position : Nat)
  | updateMachineNameDraft (position : Nat) (value : String)
  | updateBaseUrlDraft (position : Nat) (value : String)
  | setPairingCode (position : Nat) (value : String)
  | selectMachine (machineId : Option String)
  | clearMachineCredentials (machineId : String)
  | setMachineCredentialExpiry (machineId : String)
      (clientCredentialExpiresAtUnix : Int)
  | controller (controller : Nat) (input : ControllerInput δ)
  | resumeRequest (request : Nat) (result : Except String Int)
  | resumeCompletion (completion : Nat) (message : String)

namespace ClientState

variable {δ : Type}

/-- The store is as given, and no dialog has been rendered. -/
def initial (store : MachineStore) : ClientState δ :=
  ⟨store, [], [], [], []⟩

/-- Changes one instance of the dialog. -/
def updateInstance (state : ClientState δ) (position : Nat)
    (update : ModalInstance → ModalInstance) : ClientState δ :=
  { state with instances := state.instances.modify position update }

/-- Changes the dialog of one instance. -/
def updateModal (state : ClientState δ) (position : Nat)
    (update : MachineModal → MachineModal) : ClientState δ :=
  state.updateInstance position fun modal =>
    { modal with modal := update modal.modal }

/-- Changes the store. -/
def setStore (state : ClientState δ) (store : MachineStore) :
    ClientState δ :=
  { state with store }

/-! ## The rpc session of an instance -/

/-- A controller asks the store for its machine whenever it needs it. -/
def synced (state : ClientState δ) (owned : MachineController δ) :
    ControllerState δ :=
  { owned.controller with
    machine := state.store.findMachine (some owned.machineId) }

/-- A controller goes on, with what it has stored taken over. -/
def stepController (state : ClientState δ) (index : Nat)
    (input : ControllerInput δ) : Option (ClientState δ) :=
  state.controllers[index]?.bind fun owned =>
    ((state.synced owned).step input).map fun next =>
      { state with
        controllers := state.controllers.set index
          { owned with controller := next } }

/-- A controller for the machine, if the machine is stored. -/
def instantiateController (state : ClientState δ) (machineId : Option String) :
    Option (MachineController δ) :=
  (truthy machineId).bind fun machineId =>
    (state.store.findMachine (some machineId)).map fun machine =>
      ⟨machineId, .initial (some machine)⟩

/-- The instance has a controller of its own. -/
def setActiveController (state : ClientState δ) (position : Nat)
    (controller : MachineController δ) : ClientState δ :=
  { state with controllers := state.controllers ++ [controller] }.updateInstance
    position fun modal =>
      { modal with activeController := some state.controllers.length }

/-- The controller that is active, or a new one, unless the machine is
missing. -/
def controller (state : ClientState δ) (position : Nat) :
    Option (Nat × ClientState δ) :=
  state.instances[position]?.bind fun modal =>
    match modal.activeController with
    | some index => some (index, state)
    | none =>
        (state.instantiateController modal.machineId).map fun controller =>
          (state.controllers.length,
            state.setActiveController position controller)

/-- The controller of the instance is closed and forgotten. -/
def disposeController (state : ClientState δ) (position : Nat) :
    ClientState δ :=
  let closed :=
    ((state.instances[position]?.bind ModalInstance.activeController).bind
      fun index => state.stepController index .close).getD state
  closed.updateInstance position fun modal =>
    { modal with activeController := none }

/-- The controller of the instance gives way to one for its machine. -/
def replaceController (state : ClientState δ) (position : Nat) :
    ClientState δ :=
  let disposed := state.disposeController position
  match disposed.instances[position]?.bind fun modal =>
      disposed.instantiateController modal.machineId with
  | none => disposed
  | some controller => disposed.setActiveController position controller

/-- Call a function of the controller of an instance; the call is its last. -/
def callSession (state : ClientState δ) (position : Nat)
    (input : ControllerInput δ) : Option (Nat × Nat × ClientState δ) :=
  (state.controller position).bind fun (index, found) =>
    (found.stepController index input).bind fun next =>
      next.controllers[index]?.map fun owned =>
        (index, owned.controller.calls.length - 1, next)

/-! ## Operations of the modal -/

/-- The dialog still waits for the answer to this request. -/
def isCurrentPairingRequest (state : ClientState δ) (position : Nat)
    (machine : Machine) (serial : Nat) : Bool :=
  match state.instances[position]? with
  | none => false
  | some modal =>
      serial == modal.modal.pairingRequestSerial &&
        modal.modal.machineModalMode == some .pair &&
        (state.store.selected.map Machine.id) == some machine.id &&
        (state.store.findMachine (some machine.id)).isSome

/-- What `requestPairingCode` does with the result it has waited for. -/
def endRequest (state : ClientState δ) (position : Nat) (machine : Machine)
    (serial : Nat) (result : Except String Int) : ClientState δ :=
  let shown :=
    if state.isCurrentPairingRequest position machine serial then
      state.updateModal position fun modal =>
        match result with
        | .ok expires => { modal with pairingCodeExpiresAtUnix := some expires }
        | .error message => { modal with machineFormError := message }
    else state
  shown.updateModal position fun modal =>
    if serial = modal.pairingRequestSerial then
      { modal with isRequestingPairingCode := false }
    else modal

/-- Asks the daemon for a code, under a serial number of its own. -/
def requestPairingCode (state : ClientState δ) (position : Nat)
    (machine : Machine) (confirmationCode : String) :
    Option (ClientState δ) :=
  state.instances[position]?.map fun modal =>
    let serial := modal.modal.pairingRequestSerial + 1
    let asked := state.updateModal position (·.requested confirmationCode)
    match asked.callSession position .startPairing with
    | none =>
        asked.endRequest position machine serial (.error "missing machine")
    | some (controller, call, next) =>
        { next with
          requests := next.requests ++
            [⟨position, machine, serial, controller, call, false⟩] }

/-- The machine that `addMachine` adds. -/
def newMachineOf (urls : MachineUrls) (modal : MachineModal)
    (id normalizedBaseUrl : String) : Machine where
  id := id
  name :=
    if trim modal.machineName ≠ "" then trim modal.machineName
    else urls.inferMachineNameFromUrl normalizedBaseUrl
  baseUrl := normalizedBaseUrl
  clientId := none
  clientSecret := none
  clientCredentialExpiresAtUnix := none

/-- Adds a machine and opens its pairing. -/
def addMachine (urls : MachineUrls) (state : ClientState δ) (position : Nat)
    (id confirmationCode : String) : Option (ClientState δ) :=
  state.instances[position]?.bind fun modal =>
    match urls.normalizeMachineUrl modal.modal.baseUrl with
    | .error message =>
        some (state.updateModal position fun modal =>
          { modal with machineFormError := message })
    | .ok normalizedBaseUrl =>
        let machine := newMachineOf urls modal.modal id normalizedBaseUrl
        ((state.setStore (state.store.addMachine machine)).updateModal position
          fun modal =>
            { modal.resetPairingCode with
              machineFormError := ""
              machineName := ""
              machineNameEdited := false
              baseUrl := ""
              machineModalMode := some .pair }).requestPairingCode position
          machine confirmationCode

/-- Select a machine and open a modal for it, if there is one of that id. -/
def openModal (state : ClientState δ) (position : Nat) (machineId : String)
    (mode : MachineModalMode)
    (update : Machine → MachineModal → MachineModal) : ClientState δ :=
  match state.store.findMachine (some machineId) with
  | none => state
  | some machine =>
      (state.setStore (state.store.selectMachine (some machine.id))).updateModal
        position fun modal => (update machine modal).opened (some mode)

/-- Opens the dialog on a machine's pairing, and asks for a code. -/
def openPairMachineModal (state : ClientState δ) (position : Nat)
    (machineId confirmationCode : String) : Option (ClientState δ) :=
  match state.store.findMachine (some machineId) with
  | none => some state
  | some machine =>
      (state.openModal position machineId .pair fun _ modal =>
        modal).requestPairingCode position machine confirmationCode

/-- Opens the dialog on a machine's name and address. -/
def openConfigMachineModal (state : ClientState δ) (position : Nat)
    (machineId : String) : ClientState δ :=
  state.openModal position machineId .config fun machine modal =>
    { modal with
      configNameDraft := machine.name
      configUrlDraft := machine.baseUrl }

/-- Opens the dialog on the removal of a machine. -/
def openDeleteMachineModal (state : ClientState δ) (position : Nat)
    (machineId : String) : ClientState δ :=
  state.openModal position machineId .delete fun _ modal => modal

/-- Opens the dialog on an empty form. -/
def openAddMachineModal (state : ClientState δ) (position : Nat) :
    ClientState δ :=
  state.updateModal position fun modal =>
    { modal with
      machineName := ""
      machineNameEdited := false
      baseUrl := "" }.opened
        (if state.store.machines.isEmpty then none else some .add)

/-- Without machines the dialog stays open. -/
def closeMachineModal (state : ClientState δ) (position : Nat) :
    ClientState δ :=
  if state.store.machines.isEmpty then state
  else state.updateModal position (·.opened none)

/-- Asks for a code again, for the machine that is selected. -/
def requestSelectedPairingCode (state : ClientState δ) (position : Nat)
    (confirmationCode : String) : Option (ClientState δ) :=
  match state.store.selected with
  | none => some state
  | some selected => state.requestPairingCode position selected confirmationCode

/-- Whether `pairSelected` goes ahead. -/
def pairs (state : ClientState δ) (position : Nat) : Option Machine :=
  state.instances[position]?.bind fun modal =>
    if modal.modal.isPairing || trim modal.modal.pairingCode = "" then none
    else state.store.selected

/-- The `catch` and the `finally` of `pairSelected`. -/
def failPairing (state : ClientState δ) (position : Nat) (message : String) :
    ClientState δ :=
  state.updateModal position fun modal =>
    { modal with machineFormError := message, isPairing := false }

/-- Sends the code that was entered, if there is a machine to pair. -/
def pairSelected (state : ClientState δ) (position : Nat) : ClientState δ :=
  match state.pairs position with
  | none => state
  | some selected =>
      let pairing := state.updateModal position fun modal =>
        { modal with isPairing := true, machineFormError := "" }
      match pairing.callSession position .completePairing with
      | none => pairing.failPairing position "missing machine"
      | some (controller, call, next) =>
          { next with
            completions := next.completions ++
              [⟨position, selected, controller, call, false⟩] }

/-! ## What is waited for -/

/-- A call of a controller. -/
def callOf (state : ClientState δ) (controller call : Nat) : Option Call :=
  state.controllers[controller]?.bind fun owned =>
    owned.controller.calls[call]?

/-- The answer to a request for a code arrives. -/
def resumeRequest (state : ClientState δ) (index : Nat)
    (result : Except String Int) : Option (ClientState δ) :=
  state.requests[index]?.bind fun request =>
    let ended :=
      { state with
        requests := state.requests.set index
          { request with settled := true } }.endRequest request.position
          request.machine request.serial result
    match request.settled, state.callOf request.controller request.call,
        result with
    | false, some .returned, .ok _ => some ended
    | false, some .threw, .error _ => some ended
    | _, _, _ => none

/-- The answer to a completion arrives. -/
def resumeCompletion (state : ClientState δ) (index : Nat)
    (message : String) : Option (ClientState δ) :=
  state.completions[index]?.bind fun completion =>
    let settled :=
      { state with
        completions := state.completions.set index
          { completion with settled := true } }
    match completion.settled,
        state.callOf completion.controller completion.call with
    | false, some (.returnedCredentials credentials) =>
        some ((settled.setStore (settled.store.setMachineCredentials
          completion.selected.id credentials)).updateModal completion.position
            fun modal =>
              { modal.resetPairingCode with
                machineModalMode := none
                isPairing := false })
    | false, some .threw | false, some (.threwCredentials _) =>
        some (settled.failPairing completion.position message)
    | _, _ => none

/-- What other parts of the client, and the daemon, do to a controller. -/
def isOutside : ControllerInput δ → Bool
  | .setMachine _ | .startPairing | .completePairing => false
  | _ => true

/-- One step of the client. -/
def step (urls : MachineUrls) (state : ClientState δ) :
    ClientInput δ → Option (ClientState δ)
  | .createInstance machineId =>
      some { state with
        instances := state.instances ++ [⟨machineId, none, .initial⟩] }
  | .replaceController position => some (state.replaceController position)
  | .disposeController position => some (state.disposeController position)
  | .addMachine position id confirmationCode =>
      state.addMachine urls position id confirmationCode
  | .openPairMachineModal position machineId confirmationCode =>
      state.openPairMachineModal position machineId confirmationCode
  | .requestSelectedPairingCode position confirmationCode =>
      state.requestSelectedPairingCode position confirmationCode
  | .pairSelected position => some (state.pairSelected position)
  | .openAddMachineModal position => some (state.openAddMachineModal position)
  | .openConfigMachineModal position machineId =>
      some (state.openConfigMachineModal position machineId)
  | .openDeleteMachineModal position machineId =>
      some (state.openDeleteMachineModal position machineId)
  | .closeMachineModal position => some (state.closeMachineModal position)
  | .updateMachineNameDraft position value =>
      some (state.updateModal position fun modal =>
        { modal with
          machineName := value
          machineNameEdited := trim value != "" })
  | .updateBaseUrlDraft position value =>
      some (state.updateModal position fun modal =>
        { modal with
          baseUrl := value
          machineName :=
            if modal.machineNameEdited then modal.machineName
            else urls.inferMachineNameFromUrl value })
  | .setPairingCode position value =>
      some (state.updateModal position fun modal =>
        { modal with pairingCode := value })
  | .selectMachine machineId =>
      some (state.setStore (state.store.selectMachine machineId))
  | .clearMachineCredentials machineId =>
      some (state.setStore (state.store.clearMachineCredentials machineId))
  | .setMachineCredentialExpiry machineId clientCredentialExpiresAtUnix =>
      some (state.setStore (state.store.setMachineCredentialExpiry machineId
        clientCredentialExpiresAtUnix))
  | .controller controller input =>
      if isOutside input then state.stepController controller input else none
  | .resumeRequest request result => state.resumeRequest request result
  | .resumeCompletion completion message =>
      state.resumeCompletion completion message

end ClientState

end Web
end WhatsGoingOn
