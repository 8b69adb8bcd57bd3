import WhatsGoingOn.Web.MachineUrl

/-!
# Where the addresses of machines lead

The reader of addresses drops the port that is the default of the scheme, and
normalizing adds that of the daemon to an address without one.  An address
leads where its user meant it to as long as no port is dropped.
-/

namespace WhatsGoingOn
namespace Web

open Url

section Endpoints

variable {hosts : List Char → Option (List Char)}

/-! ## One address -/

/-- The port that normalizing finds is the one that the text names, which is
not the default of the scheme; or there is none to be found but that of the
daemon. -/
def PortStands (raw : String) : Prop :=
  (hasExplicitPort (withScheme raw.toList) = true ∧
      ∃ port, portNamed (withScheme raw.toList) = some port ∧
        port ≠ defaultPort) ∨
    (hasExplicitPort (withScheme raw.toList) = false ∧
      (portNamed (withScheme raw.toList) = none ∨
        portNamed (withScheme raw.toList) = some defaultMachinePort))

/-- An accepted address is normalized to one that is normalized to itself and
leads where the user meant it to. -/
def KeepsAddress (hosts : List Char → Option (List Char)) (raw : String) :
    Prop :=
  ∃ text, normalizeMachineUrl hosts raw = some text ∧
    normalizeMachineUrl hosts text = some text ∧
      endpointOf hosts text.toList = givenEndpoint hosts raw

/-- The port of what an address is normalized to. -/
def portAfter (raw : String) : Option Nat :=
  normalPort raw.toList
    ((portNamed (withScheme raw.toList)).bind keptPort)

/-- A port stands when one is left of the address, and it is the one that was
meant. -/
theorem portStands_iff (raw : String) :
    PortStands raw ↔
      (portAfter raw).isSome = true ∧
        (portAfter raw).getD defaultPort =
          (portNamed (withScheme raw.toList)).getD defaultMachinePort := by
  rw [PortStands, portAfter, normalPort]
  generalize portNamed (withScheme raw.toList) = named
  cases hasExplicitPort (withScheme raw.toList) with
  | true =>
      cases named with
      | none => simp
      | some port =>
          by_cases same : port = defaultPort <;> simp [keptPort, same]
  | false =>
      cases named with
      | none => simp
      | some port => simp [eq_comm]

/-- What is known of an accepted address: what it is normalized to, where that
leads, and where the user meant it to lead. -/
structure Accepted (hosts : List Char → Option (List Char)) (raw : String)
    (url : WebUrl) (path : List Char) : Prop where
  normal : Normalized hosts url path
  port : url.port = portAfter raw
  text : normalizeMachineUrl hosts raw = some (String.ofList (written url path))
  given : givenEndpoint hosts raw =
    some (url.host,
      (portNamed (withScheme raw.toList)).getD defaultMachinePort)

/-- An address that is normalised was accepted. -/
theorem accepted_of_isSome (lawful : LawfulHosts hosts) {raw : String}
    (accepted : (normalizeMachineUrl hosts raw).isSome = true) :
    ∃ url path, Accepted hosts raw url path := by
  have parses : ∃ url, parse hosts (withScheme raw.toList) = some url := by
    cases parsed : parse hosts (withScheme raw.toList) with
    | some url => exact ⟨url, rfl⟩
    | none =>
        simp [normalizeMachineUrl, normalizedText, normalizedUrl, parsed]
          at accepted
  obtain ⟨url, parsed⟩ := parses
  refine ⟨normalOf raw.toList url, _,
    normalized_normalOf (settled_parse lawful parsed), ?_, ?_, ?_⟩
  · rw [portAfter, ← port_parse parsed]
    rfl
  · rw [normalizeMachineUrl, normalizedText_of_parse lawful parsed]
    rfl
  · rw [givenEndpoint, parsed]
    rfl

theorem normalizeMachineUrl_written (lawful : LawfulHosts hosts)
    {url : WebUrl} {path : List Char} (normal : Normalized hosts url path) :
    normalizeMachineUrl hosts (String.ofList (written url path)) =
      some (String.ofList (written
        { url with port := some (url.port.getD defaultMachinePort) } path)) := by
  rw [normalizeMachineUrl, String.toList_ofList,
    normalizedText_written lawful normal]
  rfl

theorem endpointOf_written (lawful : LawfulHosts hosts)
    {url : WebUrl} {path : List Char} (normal : Normalized hosts url path) :
    endpointOf hosts (written url path) =
      some (url.host, url.port.getD defaultPort) := by
  rw [endpointOf, parse_written_eq lawful normal]
  rfl

/-- Writing the daemon's port in changes nothing exactly when a port is there. -/
theorem written_inj_iff (url : WebUrl) (path : List Char) :
    String.ofList (written
        { url with port := some (url.port.getD defaultMachinePort) } path) =
      String.ofList (written url path) ↔ url.port.isSome = true := by
  rw [String.ofList_inj]
  cases same : url.port with
  | none =>
      simp only [Option.isSome_none, Bool.false_eq_true, iff_false]
      intro same'
      have lengths := congrArg List.length same'
      simp [written, WebUrl.authority, same, portText, WebUrl.credentials]
        at lengths
      omega
  | some port =>
      have whole : ({ url with
          port := some ((some port).getD defaultMachinePort) } : WebUrl) =
            url := by
        rw [Option.getD_some, ← same]
      rw [whole]
      simp

/-- Normalizing keeps an address just if the port stands. -/
theorem keepsAddress_iff (lawful : LawfulHosts hosts) {raw : String}
    (accepted : (normalizeMachineUrl hosts raw).isSome = true) :
    KeepsAddress hosts raw ↔ PortStands raw := by
  obtain ⟨url, path, accepted⟩ := accepted_of_isSome lawful accepted
  have unique : KeepsAddress hosts raw ↔
      normalizeMachineUrl hosts (String.ofList (written url path)) =
          some (String.ofList (written url path)) ∧
        endpointOf hosts (String.ofList (written url path)).toList =
          givenEndpoint hosts raw := by
    rw [KeepsAddress, accepted.text]
    simp
  rw [unique, normalizeMachineUrl_written lawful accepted.normal,
    String.toList_ofList, endpointOf_written lawful accepted.normal,
    accepted.given, Option.some_inj, written_inj_iff, accepted.port,
    portStands_iff]
  simp

/-! ## Machines that are saved and loaded -/

/-- An address that normalizing gives gets a port if it has none. -/
theorem normalized_withPort {url : WebUrl} {path : List Char}
    (normal : Normalized hosts url path) :
    Normalized hosts
      { url with port := some (url.port.getD defaultMachinePort) } path where
  settled :=
    { username := normal.settled.username
      password := normal.settled.password
      host := normal.settled.host
      port := by
        intro number same
        cases named : url.port with
        | none =>
            rw [named] at same
            cases same
            decide
        | some kept =>
            rw [named] at same
            cases same
            exact normal.settled.port kept named
      path := normal.settled.path }
  text := normal.text
  read := normal.read
  again := normal.again
  query := normal.query
  fragment := normal.fragment

/-- Where a client connects to at an address that normalizing gives. -/
theorem connectionEndpoint_written (lawful : LawfulHosts hosts) {raw : String}
    {url : WebUrl} {path : List Char} (normal : Normalized hosts url path)
    (text : normalizeMachineUrl hosts raw =
      some (String.ofList (written url path))) :
    connectionEndpoint hosts raw =
      some (url.host, url.port.getD defaultPort) := by
  have same : normalizedText hosts raw.toList = some (written url path) := by
    obtain ⟨characters, same, equal⟩ := Option.map_eq_some_iff.mp text
    rw [same, String.ofList_injective equal]
  have longer : PathText (path ++ ['/', 'r', 'p', 'c']) := by
    constructor
    · rcases normal.text.1 with none | ⟨rest, some⟩
      · exact Or.inr ⟨['r', 'p', 'c'], by rw [none]; rfl⟩
      · exact Or.inr ⟨rest ++ ['/', 'r', 'p', 'c'], by rw [some]; rfl⟩
    · have procedure : ∀ character ∈ ['/', 'r', 'p', 'c'],
          isVisible character = true ∧ character ≠ '?' ∧ character ≠ '#' := by
        simp [isVisible]
      exact fun character member => (List.mem_append.mp member).elim
        (normal.text.2 character) (procedure character)
  have parsed := parse_written (normal.settled.writable lawful) longer
    normal.settled.host
  rw [connectionEndpoint, same, Option.bind_some, written, List.append_assoc,
    List.append_assoc, endpointOf, parsed, normal.settled.keptPort_bind]
  rfl

/-- A machine before and after it has been saved and loaded. -/
def Reloaded (hosts : List Char → Option (List Char)) (before after : Machine) :
    Prop :=
  after.id = before.id ∧ ∃ text,
    normalizeMachineUrl hosts before.baseUrl = some text ∧
      normalizeMachineUrl hosts text = some after.baseUrl

theorem get_machineJson (machine : Machine) :
    ∃ record, machineJson machine = .object record ∧
      Json.text? (Json.get record "id") = some machine.id ∧
        Json.text? (Json.get record "baseUrl") = some machine.baseUrl := by
  refine ⟨_, rfl, ?_, ?_⟩
  · cases machine.clientId <;> cases machine.clientSecret <;>
      cases machine.clientCredentialExpiresAtUnix <;> rfl
  · cases machine.clientId <;> cases machine.clientSecret <;>
      cases machine.clientCredentialExpiresAtUnix <;> rfl

/-- A stored machine is loaded with its address. -/
theorem normalizeMachine_machineJson (lawful : LawfulHosts hosts)
    {machine : Machine} {text : String}
    (normal : normalizeMachineUrl hosts machine.baseUrl = some text) :
    ∃ loaded, normalizeMachine hosts (machineJson machine) = some loaded ∧
      loaded.id = machine.id ∧ loaded.baseUrl = text := by
  obtain ⟨record, same, id, baseUrl⟩ := get_machineJson machine
  obtain ⟨url, path, accepted⟩ :=
    accepted_of_isSome lawful (Option.isSome_of_eq_some normal)
  have written := accepted.text.symm.trans normal
  have parsed : parse hosts text.toList = some url := by
    rw [← Option.some.inj written, String.toList_ofList]
    exact parse_written_eq lawful accepted.normal
  rw [same]
  simp only [normalizeMachine, id, baseUrl, normal, Option.bind_some, parsed,
    Option.map_some]
  exact ⟨_, rfl, rfl, rfl⟩

/-- Machines with accepted addresses are saved, and loaded in their order. -/
theorem saveMachines_reloaded (lawful : LawfulHosts hosts)
    {machines : List Machine}
    (accepted : ∀ machine ∈ machines,
      (normalizeMachineUrl hosts machine.baseUrl).isSome = true) :
    ∃ stored, saveMachines hosts machines = some stored ∧
      List.Forall₂ (Reloaded hosts) machines
        (loadMachines hosts (some stored)) := by
  induction machines with
  | nil => exact ⟨.array [], rfl, List.Forall₂.nil⟩
  | cons machine machines inductionHypothesis =>
      obtain ⟨stored, saved, reloaded⟩ := inductionHypothesis fun other member =>
        accepted other (List.mem_cons_of_mem _ member)
      obtain ⟨text, normal⟩ :=
        Option.isSome_iff_exists.mp (accepted machine List.mem_cons_self)
      obtain ⟨url, path, known⟩ :=
        accepted_of_isSome lawful (accepted machine List.mem_cons_self)
      obtain ⟨normalized, mapped, same⟩ := Option.map_eq_some_iff.mp saved
      have twice : ∃ again, normalizeMachineUrl hosts text = some again := by
        rw [← Option.some.inj (known.text.symm.trans normal)]
        exact ⟨_, normalizeMachineUrl_written lawful known.normal⟩
      obtain ⟨again, twice⟩ := twice
      obtain ⟨loaded, load, sameId, sameUrl⟩ :=
        normalizeMachine_machineJson lawful
          (show normalizeMachineUrl hosts
            ({ machine with baseUrl := text } : Machine).baseUrl =
              some again from twice)
      have one : normalizeStoredMachine hosts machine =
          some { machine with baseUrl := text } := by
        rw [normalizeStoredMachine, normal]
        rfl
      subst same
      refine ⟨.array (machineJson { machine with baseUrl := text } ::
        normalized.map machineJson), ?_, ?_⟩
      · rw [saveMachines, List.mapM_cons, one, mapped]
        rfl
      · rw [loadMachines, List.filterMap_cons, load]
        exact List.Forall₂.cons
          ⟨sameId, text, normal, by rw [sameUrl, twice]⟩ reloaded

/-- Where the user of a normalized address means it to lead. -/
theorem givenEndpoint_written (lawful : LawfulHosts hosts) {url : WebUrl}
    {path : List Char} (normal : Normalized hosts url path) :
    givenEndpoint hosts (String.ofList (written url path)) =
      some (url.host, url.port.getD defaultMachinePort) := by
  have writable := normal.settled.writable lawful
  rw [givenEndpoint, String.toList_ofList, written,
    withScheme_written writable normal.text,
    portNamed_written writable normal.text]
  rw [← written, parse_written_eq lawful normal]
  rfl

theorem portStands_written (lawful : LawfulHosts hosts) {url : WebUrl}
    {path : List Char} (normal : Normalized hosts url path)
    (port : url.port.isSome = true) :
    PortStands (String.ofList (written url path)) := by
  have writable := normal.settled.writable lawful
  obtain ⟨number, same⟩ := Option.isSome_iff_exists.mp port
  rw [PortStands, String.toList_ofList, written,
    withScheme_written writable normal.text,
    hasExplicitPort_written writable normal.text,
    portNamed_written writable normal.text]
  exact Or.inl ⟨port, number, same, (normal.settled.port number same).1⟩

/-- An address whose port stands is loaded as one whose port stands as well and
which is meant to lead to the same place. -/
theorem portStands_reloaded (lawful : LawfulHosts hosts)
    {before after : Machine} (reloaded : Reloaded hosts before after)
    (stands : PortStands before.baseUrl) :
    (normalizeMachineUrl hosts after.baseUrl).isSome = true ∧
      PortStands after.baseUrl ∧
        givenEndpoint hosts after.baseUrl =
          givenEndpoint hosts before.baseUrl := by
  obtain ⟨-, text, once, twice⟩ := reloaded
  obtain ⟨url, path, known⟩ :=
    accepted_of_isSome lawful (Option.isSome_of_eq_some once)
  have port := (portStands_iff before.baseUrl).mp stands
  rw [← known.port] at port
  obtain ⟨number, same⟩ := Option.isSome_iff_exists.mp port.1
  have loaded : after.baseUrl = String.ofList (written url path) := by
    rw [← Option.some.inj (known.text.symm.trans once),
      normalizeMachineUrl_written lawful known.normal,
      Option.some_inj] at twice
    rw [← twice]
    exact (written_inj_iff url path).mpr port.1
  rw [loaded, normalizeMachineUrl_written lawful known.normal,
    givenEndpoint_written lawful known.normal, known.given]
  refine ⟨Option.isSome_some, portStands_written lawful known.normal port.1, ?_⟩
  have meant := port.2.symm
  rw [same, Option.getD_some] at meant
  rw [meant, same, Option.getD_some]

/-- A client connects to where the user meant an address to lead, at once and
after it has been loaded, just if the port stands. -/
theorem connectionEndpoint_iff (lawful : LawfulHosts hosts)
    {before after : Machine} (reloaded : Reloaded hosts before after) :
    PortStands before.baseUrl ↔
      connectionEndpoint hosts before.baseUrl =
          givenEndpoint hosts before.baseUrl ∧
        connectionEndpoint hosts after.baseUrl =
          givenEndpoint hosts before.baseUrl := by
  obtain ⟨-, text, once, twice⟩ := reloaded
  obtain ⟨url, path, known⟩ :=
    accepted_of_isSome lawful (Option.isSome_of_eq_some once)
  have normalized := normalized_withPort known.normal
  have again : normalizeMachineUrl hosts after.baseUrl =
      some (String.ofList (written
        { url with port := some (url.port.getD defaultMachinePort) } path)) := by
    rw [← Option.some.inj (known.text.symm.trans once),
      normalizeMachineUrl_written lawful known.normal,
      Option.some_inj] at twice
    rw [← twice, normalizeMachineUrl_written lawful normalized]
    rfl
  rw [connectionEndpoint_written lawful known.normal known.text,
    connectionEndpoint_written lawful normalized again, known.given,
    portStands_iff, ← known.port]
  generalize (portNamed (withScheme before.baseUrl.toList)).getD
    defaultMachinePort = meant
  cases url.port with
  | none =>
      simp only [Option.isSome_none, Bool.false_eq_true, false_and,
        Option.getD_none, Option.getD_some, Option.some.injEq, Prod.mk.injEq,
        true_and, defaultPort, defaultMachinePort]
      refine ⟨nofun, ?_⟩
      rintro ⟨once, again⟩
      omega
  | some port => simp

theorem exists_reloaded (lawful : LawfulHosts hosts) {machine : Machine}
    (accepted : (normalizeMachineUrl hosts machine.baseUrl).isSome = true) :
    ∃ after, Reloaded hosts machine after := by
  obtain ⟨url, path, known⟩ := accepted_of_isSome lawful accepted
  obtain ⟨again, twice⟩ : ∃ again, normalizeMachineUrl hosts
      (String.ofList (written url path)) = some again :=
    ⟨_, normalizeMachineUrl_written lawful known.normal⟩
  exact ⟨{ machine with baseUrl := again }, rfl, _, known.text, twice⟩

/-- A machine, and where a client connects to for it. -/
def place (hosts : List Char → Option (List Char)) (machine : Machine) :
    String × Option (List Char × Nat) :=
  (machine.id, connectionEndpoint hosts machine.baseUrl)

/-- A machine, and where its user meant its address to lead. -/
def meantPlace (hosts : List Char → Option (List Char)) (machine : Machine) :
    String × Option (List Char × Nat) :=
  (machine.id, givenEndpoint hosts machine.baseUrl)

section Reloaded

variable {machines loaded : List Machine}

/-- Machines whose ports stand are loaded with ports that stand, and are meant
for the same places. -/
theorem stands_of_reloaded (lawful : LawfulHosts hosts)
    (reloaded : List.Forall₂ (Reloaded hosts) machines loaded)
    (stands : ∀ machine ∈ machines, PortStands machine.baseUrl) :
    (∀ machine ∈ loaded,
        (normalizeMachineUrl hosts machine.baseUrl).isSome = true) ∧
      (∀ machine ∈ loaded, PortStands machine.baseUrl) ∧
        loaded.map (meantPlace hosts) = machines.map (meantPlace hosts) := by
  induction reloaded with
  | nil => exact ⟨nofun, nofun, rfl⟩
  | cons head tail inductionHypothesis =>
      have rest := inductionHypothesis fun other member =>
        stands other (List.mem_cons_of_mem _ member)
      have here := portStands_reloaded lawful head (stands _ List.mem_cons_self)
      refine ⟨List.forall_mem_cons.mpr ⟨here.1, rest.1⟩,
        List.forall_mem_cons.mpr ⟨here.2.1, rest.2.1⟩, ?_⟩
      rw [List.map_cons, List.map_cons, rest.2.2, meantPlace, head.1, here.2.2]
      rfl

/-- Machines that lead to the places they are meant for have ports that stand. -/
theorem stands_of_places (lawful : LawfulHosts hosts)
    (reloaded : List.Forall₂ (Reloaded hosts) machines loaded)
    (before : machines.map (place hosts) = machines.map (meantPlace hosts))
    (after : loaded.map (place hosts) = machines.map (meantPlace hosts)) :
    ∀ machine ∈ machines, PortStands machine.baseUrl := by
  induction reloaded with
  | nil => nofun
  | cons head tail inductionHypothesis =>
      rw [List.map_cons, List.map_cons] at before after
      obtain ⟨hereBefore, restBefore⟩ := List.cons_eq_cons.mp before
      obtain ⟨hereAfter, restAfter⟩ := List.cons_eq_cons.mp after
      refine List.forall_mem_cons.mpr
        ⟨?_, inductionHypothesis restBefore restAfter⟩
      exact (connectionEndpoint_iff lawful head).mpr
        ⟨(Prod.mk.inj hereBefore).2, (Prod.mk.inj hereAfter).2⟩

theorem place_of_stands (lawful : LawfulHosts hosts)
    (accepted : ∀ machine ∈ machines,
      (normalizeMachineUrl hosts machine.baseUrl).isSome = true)
    (stands : ∀ machine ∈ machines, PortStands machine.baseUrl) :
    machines.map (place hosts) = machines.map (meantPlace hosts) := by
  refine List.map_congr_left fun machine member => ?_
  obtain ⟨after, reloaded⟩ := exists_reloaded lawful (accepted machine member)
  have leads := (connectionEndpoint_iff lawful reloaded).mp
    (stands machine member)
  exact congrArg (machine.id, ·) leads.1

/-- Machines lead where their users meant them to after every number of times
that they have been saved and loaded, if their ports stand. -/
theorem savedAndLoaded_of_stands (lawful : LawfulHosts hosts) (times : Nat)
    (accepted : ∀ machine ∈ machines,
      (normalizeMachineUrl hosts machine.baseUrl).isSome = true)
    (stands : ∀ machine ∈ machines, PortStands machine.baseUrl) :
    ∃ loaded, savedAndLoaded hosts times machines = some loaded ∧
      loaded.map (place hosts) = machines.map (meantPlace hosts) := by
  induction times generalizing machines with
  | zero => exact ⟨machines, rfl, place_of_stands lawful accepted stands⟩
  | succ times inductionHypothesis =>
      obtain ⟨stored, saved, reloaded⟩ := saveMachines_reloaded lawful accepted
      have next := stands_of_reloaded lawful reloaded stands
      obtain ⟨loaded, same, leads⟩ := inductionHypothesis next.1 next.2.1
      refine ⟨loaded, ?_, leads.trans next.2.2⟩
      rw [savedAndLoaded, saved, Option.bind_some, same]

/-- Machines lead where their users meant them to, however often they have been
saved and loaded, just if their ports stand. -/
theorem savedAndLoaded_iff (lawful : LawfulHosts hosts)
    (accepted : ∀ machine ∈ machines,
      (normalizeMachineUrl hosts machine.baseUrl).isSome = true) :
    (∀ times, ∃ loaded, savedAndLoaded hosts times machines = some loaded ∧
        loaded.map (place hosts) = machines.map (meantPlace hosts)) ↔
      ∀ machine ∈ machines, PortStands machine.baseUrl := by
  refine ⟨fun leads => ?_, fun stands times =>
    savedAndLoaded_of_stands lawful times accepted stands⟩
  obtain ⟨stored, saved, reloaded⟩ := saveMachines_reloaded lawful accepted
  obtain ⟨first, same, before⟩ := leads 0
  obtain ⟨second, again, after⟩ := leads 1
  cases same
  have loaded : loadMachines hosts (some stored) = second := by
    rw [savedAndLoaded, saved, Option.bind_some] at again
    exact Option.some.inj again
  exact stands_of_places lawful (loaded ▸ reloaded) before after

end Reloaded

/-! ## The address of a daemon -/

section Daemon

open Host

variable {socketPort : String → Option Nat} {config : SystemConfig}

/-- The host of a daemon. -/
def configuredHost (config : SystemConfig) : String :=
  (configuredDomain config).getD "localhost"

/-- The port that the address of a daemon has. -/
def shownPort (socketPort : String → Option Nat) (config : SystemConfig) :
    Option Nat :=
  if (configuredDomain config).isSome = true ∧
      configuredPort socketPort config = 443 then none
  else some (configuredPort socketPort config)

/-- The text of a host. -/
def IsHostText (text : List Char) : Prop :=
  text ≠ [] ∧ HostShape text ∧
    ∀ character ∈ text, isAuthorityChar character = true ∧ character ≠ '@'

/-- The text of the pairing address. -/
theorem toList_pairingDaemonUrl (socketPort : String → Option Nat)
    (config : SystemConfig) :
    (pairingDaemonUrl socketPort config).toList =
      start ++ ((configuredHost config).toList ++
        portText (shownPort socketPort config)) := by
  have scheme : "https://".toList = start := by rfl
  have localhost : "https://localhost:".toList =
      start ++ ("localhost".toList ++ [':']) := by rfl
  have colon : ":".toList = [':'] := by rfl
  rw [pairingDaemonUrl, shownPort, configuredHost]
  cases configuredDomain config with
  | none =>
      simp [String.toList_append, localhost, portText, Nat.toString_eq_repr,
        Nat.toList_repr]
  | some domain =>
      by_cases same : configuredPort socketPort config = 443
      · simp [same, String.toList_append, scheme, portText]
      · simp [same, String.toList_append, scheme, colon, portText,
          Nat.toString_eq_repr, Nat.toList_repr]

theorem configuredPort_lt
    (ports : ∀ text port, socketPort text = some port → port < 65536) :
    configuredPort socketPort config < 65536 := by
  rw [configuredPort]
  cases same : socketPort config.listenAddr with
  | none => decide
  | some port => exact ports _ _ same

/-- Where an accepted address leads when it is normalized. -/
theorem endpointOf_normalized (lawful : LawfulHosts hosts) {raw : String}
    {url : WebUrl} (parsed : parse hosts (withScheme raw.toList) = some url) :
    (normalizeMachineUrl hosts raw).bind (endpointOf hosts ·.toList) =
      some (url.host, (normalPort raw.toList url.port).getD defaultPort) := by
  rw [normalizeMachineUrl, normalizedText_of_parse lawful parsed,
    Option.map_some, Option.bind_some, String.toList_ofList,
    endpointOf_written lawful
      (normalized_normalOf (settled_parse lawful parsed))]
  rfl

/-- The address of a daemon is normalized to one that leads to the daemon just
if it does not leave out the default port after a domain. -/
theorem pairingDaemonUrl_leads_iff (lawful : LawfulHosts hosts)
    (ports : ∀ text port, socketPort text = some port → port < 65536)
    (isHost : IsHostText (configuredHost config).toList) {host : List Char}
    (read : hosts (configuredHost config).toList = some host) :
    (normalizeMachineUrl hosts (pairingDaemonUrl socketPort config)).bind
        (endpointOf hosts ·.toList) =
          some (host, configuredPort socketPort config) ↔
      ¬((configuredDomain config).isSome = true ∧
        configuredPort socketPort config = 443) := by
  let url : WebUrl :=
    ⟨[], [], (configuredHost config).toList, shownPort socketPort config, [],
      none, none⟩
  have writable : Writable url :=
    { username := nofun
      password := nofun
      nonempty := isHost.1
      plain := isHost.2.2
      shape := isHost.2.1
      port := by
        intro port same
        dsimp only [url, shownPort] at same
        split at same
        · cases same
        · rw [← Option.some.inj same]
          exact configuredPort_lt ports }
  have empty : PathText [] := ⟨Or.inl rfl, nofun⟩
  have text : (pairingDaemonUrl socketPort config).toList =
      start ++ (url.authority ++ []) := by
    rw [toList_pairingDaemonUrl, List.append_nil]
    rfl
  have parsed := parse_written writable empty read
  rw [← withScheme_written writable empty, ← text] at parsed
  rw [endpointOf_normalized lawful parsed, normalPort, text,
    withScheme_written writable empty, hasExplicitPort_written writable empty]
  by_cases left : (configuredDomain config).isSome = true ∧
      configuredPort socketPort config = 443
  · have shown : url.port = none := if_pos left
    rw [shown, left.2]
    simp [left.1, defaultMachinePort]
  · have shown : url.port = some (configuredPort socketPort config) :=
      if_neg left
    have kept (port : Nat) : (keptPort port).getD defaultPort = port := by
      by_cases same : port = defaultPort <;> simp [keptPort, same]
    simp [shown, left, kept]

end Daemon

/-! ## All addresses -/

/-- An accepted address is kept by normalizing, and accepted addresses of
machines lead where their users meant them to however often the machines have
been saved and loaded, just if their ports stand.  The address of a daemon leads
to it just if it does not leave out the default port after a domain. -/
theorem addresses_lead_iff (lawful : LawfulHosts hosts)
    {socketPort : String → Option Nat}
    (ports : ∀ text port, socketPort text = some port → port < 65536) :
    (∀ raw, (normalizeMachineUrl hosts raw).isSome = true →
        (KeepsAddress hosts raw ↔ PortStands raw)) ∧
      (∀ machines : List Machine,
        (∀ machine ∈ machines,
          (normalizeMachineUrl hosts machine.baseUrl).isSome = true) →
        ((∀ times, ∃ loaded,
            savedAndLoaded hosts times machines = some loaded ∧
              loaded.map (place hosts) = machines.map (meantPlace hosts)) ↔
          ∀ machine ∈ machines, PortStands machine.baseUrl)) ∧
      ∀ config host, IsHostText (configuredHost config).toList →
        hosts (configuredHost config).toList = some host →
        ((normalizeMachineUrl hosts
            (Host.pairingDaemonUrl socketPort config)).bind
              (endpointOf hosts ·.toList) =
                some (host, Host.configuredPort socketPort config) ↔
          ¬((Host.configuredDomain config).isSome = true ∧
            Host.configuredPort socketPort config = 443)) :=
  ⟨fun _ accepted => keepsAddress_iff lawful accepted,
    fun _ accepted => savedAndLoaded_iff lawful accepted,
    fun _ _ isHost read => pairingDaemonUrl_leads_iff lawful ports isHost read⟩

end Endpoints

/-! ## Addresses of one host -/

/-- A reader of hosts that knows names of small letters and dots only. -/
def letterHosts (text : List Char) : Option (List Char) :=
  if !text.isEmpty && text.all fun character =>
      character.isLower || character == '.' then
    some text
  else none

/-- The reader of such names is lawful. -/
theorem lawful_letterHosts : LawfulHosts letterHosts := by
  have read {text host : List Char} (same : letterHosts text = some host) :
      (host ≠ [] ∧
        ∀ character ∈ host, character.isLower = true ∨ character = '.') ∧
          letterHosts host = some host := by
    unfold letterHosts at same
    split at same
    case isTrue letters =>
      cases same
      refine ⟨?_, if_pos letters⟩
      simpa using letters
    · cases same
  have plain {character : Char}
      (letter : character.isLower = true ∨ character = '.') :
      (isAuthorityChar character = true ∧ character ≠ '@') ∧
        character ≠ ':' ∧ character ≠ '[' ∧ character ≠ ']' := by
    rcases letter with lower | rfl
    · have other {character' : Char} (outside : ¬character'.isLower = true) :
          character ≠ character' := by
        rintro rfl
        exact outside lower
      have bounds : 97 ≤ character.toNat ∧ character.toNat ≤ 122 := by
        have both := (Bool.and_eq_true _ _).mp lower
        exact ⟨of_decide_eq_true both.1, of_decide_eq_true both.2⟩
      have visible : isVisible character = true := by
        rw [isVisible, decide_eq_true_iff]
        omega
      simp [isAuthorityChar, visible, endsAuthority, isSlash,
        @other '/' (by decide), @other '\\' (by decide),
        @other '?' (by decide), @other '#' (by decide),
        @other '@' (by decide), @other ':' (by decide),
        @other '[' (by decide), @other ']' (by decide)]
    · decide
  exact
    { again := fun text host same => (read same).2
      nonempty := fun text host same => (read same).1.1
      plain := fun text host same character member =>
        (plain ((read same).1.2 character member)).1
      shape := fun text host same =>
        Or.inl fun character member =>
          (plain ((read same).1.2 character member)).2 }

/-- A reader of socket addresses that knows two. -/
def twoPorts (text : String) : Option Nat :=
  if text = "127.0.0.1:443" then some 443
  else if text = "127.0.0.1:9012" then some 9012 else none

/-- A machine of which only the address matters. -/
def exampleMachine (baseUrl : String) : Machine :=
  ⟨"m", "", baseUrl, none, none, none⟩

/-- A configuration with a domain and no certificate of its own. -/
def exampleConfig (listenAddr : String) : Host.SystemConfig :=
  ⟨listenAddr, some "example.com", none⟩

/-- The domain of this configuration is a host. -/
theorem isHostText_example :
    IsHostText (configuredHost (exampleConfig "127.0.0.1:9012")).toList := by
  have text : (configuredHost (exampleConfig "127.0.0.1:9012")).toList =
      ['e', 'x', 'a', 'm', 'p', 'l', 'e', '.', 'c', 'o', 'm'] := by
    decide
  have read : letterHosts
      ['e', 'x', 'a', 'm', 'p', 'l', 'e', '.', 'c', 'o', 'm'] =
        some ['e', 'x', 'a', 'm', 'p', 'l', 'e', '.', 'c', 'o', 'm'] := by
    rfl
  rw [text]
  exact ⟨nofun, lawful_letterHosts.shape _ _ read,
    lawful_letterHosts.plain _ _ read⟩

/-- An address with a port leads to it, however often it is stored. -/
theorem addresses_lead_iff_example :
    KeepsAddress letterHosts "example.com:8443" ∧
      (∀ times, ∃ loaded,
        savedAndLoaded letterHosts times [exampleMachine "example.com:8443"] =
            some loaded ∧
          loaded.map (place letterHosts) =
            [exampleMachine "example.com:8443"].map
              (meantPlace letterHosts)) ∧
        (normalizeMachineUrl letterHosts
          (Host.pairingDaemonUrl twoPorts (exampleConfig "127.0.0.1:9012"))).bind
            (endpointOf letterHosts ·.toList) =
              some ("example.com".toList, 9012) := by
  have ports : ∀ text port, twoPorts text = some port → port < 65536 := by
    intro text port same
    unfold twoPorts at same
    split at same
    · cases same
      decide
    · split at same <;> cases same
      decide
  have stands : PortStands "example.com:8443" :=
    Or.inl ⟨by decide, 8443, by decide, by decide⟩
  have accepted :
      (normalizeMachineUrl letterHosts "example.com:8443").isSome = true := by
    rfl
  have leads := addresses_lead_iff lawful_letterHosts ports
  refine ⟨(leads.1 _ accepted).mpr stands, (leads.2.1 _ ?_).mpr ?_,
    (leads.2.2 (exampleConfig "127.0.0.1:9012") _ ?_ ?_).mpr ?_⟩
  · exact List.forall_mem_singleton.mpr accepted
  · exact List.forall_mem_singleton.mpr stands
  · exact isHostText_example
  · rfl
  · decide

/-- An address that names the default port loses it and gets another, and so
does that of a daemon with a domain. -/
theorem defaultPort_not_kept :
    ¬KeepsAddress letterHosts "https://example.com:443" ∧
      ((savedAndLoaded letterHosts 1
          [exampleMachine "https://example.com:443"]).map
            (·.map (place letterHosts)) =
          some [("m", some ("example.com".toList, 9012))] ∧
        givenEndpoint letterHosts "https://example.com:443" =
          some ("example.com".toList, 443)) ∧
      (normalizeMachineUrl letterHosts
          (Host.pairingDaemonUrl twoPorts (exampleConfig "127.0.0.1:443")) =
        some "https://example.com:9012") := by
  refine ⟨?_, ⟨by rfl, by rfl⟩, by rfl⟩
  rintro ⟨text, once, twice, -⟩
  have normalized : normalizeMachineUrl letterHosts "https://example.com:443" =
      some "https://example.com" := by
    rfl
  have again : normalizeMachineUrl letterHosts "https://example.com" =
      some "https://example.com:9012" := by
    rfl
  cases once.symm.trans normalized
  simp [again] at twice

end Web
end WhatsGoingOn
