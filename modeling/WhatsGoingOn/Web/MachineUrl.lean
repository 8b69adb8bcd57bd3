import WhatsGoingOn.Host.CertificateReload
import WhatsGoingOn.Library.Url
import WhatsGoingOn.Web.RpcSession

/-!
# The addresses of machines

An address that a user types is normalized: it gets the scheme and the port of
the daemon where it has none, and loses its last slashes.  Machines are
normalized when they are stored and once more when they are loaded.
-/

namespace WhatsGoingOn
namespace Web

open Url

/-! ## Normalizing -/

/-- The white space and line ends that `String.prototype.trim` removes. -/
def isTrimmed (character : Char) : Bool :=
  let point := character.toNat
  decide (9 ≤ point ∧ point ≤ 13) || point == 0x20 || point == 0xA0 ||
    point == 0x1680 || decide (0x2000 ≤ point ∧ point ≤ 0x200A) ||
      point == 0x2028 || point == 0x2029 || point == 0x202F ||
        point == 0x205F || point == 0x3000 || point == 0xFEFF

/-- The text without blanks at its ends. -/
def trimmed (text : List Char) : List Char :=
  (text.dropWhile isTrimmed).rdropWhile isTrimmed

/-- The port that the daemon listens on when nothing else is said. -/
def defaultMachinePort : Nat := 9012

/-- A text that begins with a scheme and `://`. -/
def hasScheme (text : List Char) : Bool :=
  (text.head?.map Char.isAlpha).getD false &&
    [':', '/', '/'].isPrefixOf (text.dropWhile isSchemeChar)

/-- The address with a scheme before it. -/
def withScheme (raw : List Char) : List Char :=
  if hasScheme (trimmed raw) then trimmed raw else start ++ trimmed raw

/-- What comes after the first `://`. -/
def afterMark : List Char → Option (List Char)
  | ':' :: '/' :: '/' :: rest => some rest
  | _ :: rest => afterMark rest
  | [] => none

/-- A colon and digits at the end. -/
def endsInPort (authority : List Char) : Bool :=
  !(authority.rtakeWhile Char.isDigit).isEmpty &&
    (authority.rdropWhile Char.isDigit).getLast? == some ':'

/-- A text in brackets, of which the first is open, with a colon and digits. -/
def bracketsWithPort (rest : List Char) : Bool :=
  let inner := rest.takeWhile (· != ']')
  !inner.isEmpty &&
    match rest.drop inner.length with
    | ']' :: ':' :: digits => !digits.isEmpty && digits.all Char.isDigit
    | _ => false

/-- The authority of the address ends in a port, as the text has it. -/
def hasExplicitPort (rawUrl : List Char) : Bool :=
  let authority := ((afterMark rawUrl).getD (rawUrl.drop 2)).takeWhile
    fun character => character != '/' && character != '?' && character != '#'
  match authority with
  | '[' :: rest => bracketsWithPort rest
  | _ => endsInPort authority

/-- A path without its last slashes. -/
def withoutSlashes (path : List Char) : List Char :=
  path.rdropWhile (· == '/')

/-- A text without a slash at its end. -/
def withoutSlash (text : List Char) : List Char :=
  if text.getLast? = some '/' then text.dropLast else text

section Normalize

variable (hosts : List Char → Option (List Char))

/-- What becomes of the address of a text. -/
def normalizedUrl (raw : List Char) : Option WebUrl :=
  (parse hosts (withScheme raw)).map fun url =>
    let url :=
      if hasExplicitPort (withScheme raw) then url
      else url.setPort (Nat.toDigits 10 defaultMachinePort)
    { url.setPathname (withoutSlashes (pathname url.path)) with
      query := none
      fragment := none }

/-- The normalized text, unless `normalizeMachineUrl` throws. -/
def normalizedText (raw : List Char) : Option (List Char) :=
  (normalizedUrl hosts raw).map fun url => withoutSlash url.serialize

/-- The address as it is stored, or none where it is not one. -/
def normalizeMachineUrl (raw : String) : Option String :=
  (normalizedText hosts raw.toList).map String.ofList

/-! ## Where an address leads -/

/-- The host and the port that an address leads to. -/
def endpointOf (text : List Char) : Option (List Char × Nat) :=
  (parse hosts text).map fun url => (url.host, url.portOrDefault)

/-- The host and the port that a client connects to. -/
def connectionEndpoint (baseUrl : String) : Option (List Char × Nat) :=
  (normalizedText hosts baseUrl.toList).bind fun text =>
    endpointOf hosts (text ++ ['/', 'r', 'p', 'c'])

/-- The host and the port that a user gives: the port is that of the daemon
where the text names none. -/
def givenEndpoint (raw : String) : Option (List Char × Nat) :=
  (parse hosts (withScheme raw.toList)).map fun url =>
    (url.host, (portNamed (withScheme raw.toList)).getD defaultMachinePort)

/-! ## The stored machines -/

/-- What `JSON.parse` gives. -/
inductive Json where
  | null
  | bool (value : Bool)
  | number (value : Rat)
  | string (text : String)
  | array (items : List Json)
  | object (fields : List (String × Json))

namespace Json

/-- A field of a record, of which the last one of a name counts. -/
def get (record : List (String × Json)) (name : String) : Option Json :=
  record.reverse.lookup name

/-- The text, if the value is one. -/
def text? : Option Json → Option String
  | some (string text) => some text
  | _ => none

/-- `Number.isSafeInteger`. -/
def safeInteger? : Option Json → Option Int
  | some (number value) =>
      if value.den = 1 ∧ value.num.natAbs < 2 ^ 53 then some value.num else none
  | _ => none

end Json

/-- A machine as `JSON.stringify` has it, which leaves out what is not there. -/
def machineJson (machine : Machine) : Json :=
  .object
    ([("id", .string machine.id), ("name", .string machine.name),
        ("baseUrl", .string machine.baseUrl)] ++
      (machine.clientId.map fun id => ("clientId", Json.string id)).toList ++
        (machine.clientSecret.map fun secret =>
            ("clientSecret", Json.string secret)).toList ++
          (machine.clientCredentialExpiresAtUnix.map fun expires =>
            ("clientCredentialExpiresAtUnix", Json.number expires)).toList)

/-- A stored record is a machine if it has an id and an address that is one. -/
def normalizeMachine : Json → Option Machine
  | .object record =>
      match Json.text? (Json.get record "id"),
          Json.text? (Json.get record "baseUrl") with
      | some id, some baseUrl =>
          (normalizeMachineUrl hosts baseUrl).bind fun normalized =>
            (parse hosts normalized.toList).map fun url =>
              { id
                name :=
                  ((Json.text? (Json.get record "name")).filter fun name =>
                    trimmed name.toList != []).getD (String.ofList url.host)
                baseUrl := normalized
                clientId := Json.text? (Json.get record "clientId")
                clientSecret := Json.text? (Json.get record "clientSecret")
                clientCredentialExpiresAtUnix :=
                  Json.safeInteger?
                    (Json.get record "clientCredentialExpiresAtUnix") }
      | _, _ => none
  | _ => none

/-- The machine with its address as it is stored. -/
def normalizeStoredMachine (machine : Machine) : Option Machine :=
  (normalizeMachineUrl hosts machine.baseUrl).map fun baseUrl =>
    { machine with baseUrl }

/-- What is stored, unless an address is turned down. -/
def saveMachines (machines : List Machine) : Option Json :=
  (machines.mapM (normalizeStoredMachine hosts)).map fun machines =>
    .array (machines.map machineJson)

/-- Anything but a list holds no machines. -/
def loadMachines : Option Json → List Machine
  | some (.array items) => items.filterMap (normalizeMachine hosts)
  | _ => []

/-- What is loaded of machines that have been saved some times. -/
def savedAndLoaded : Nat → List Machine → Option (List Machine)
  | 0, machines => some machines
  | times + 1, machines =>
      (saveMachines hosts machines).bind fun stored =>
        savedAndLoaded times (loadMachines hosts (some stored))

end Normalize

/-! ## Texts that are written out -/

section Written

variable {url : WebUrl} {text : List Char}

theorem isVisible_written (writable : Writable url) (path : PathText text) :
    ∀ character ∈ start ++ (url.authority ++ text),
      isVisible character = true := by
  intro character member
  rcases List.mem_append.mp member with member | member
  · exact isVisible_start character member
  rcases List.mem_append.mp member with member | member
  · have plain := isAuthorityChar_of_mem_authority writable member
    rw [isAuthorityChar, Bool.and_eq_true] at plain
    exact plain.1
  · exact (path.2 character member).1

/-- A text of visible characters is not trimmed. -/
theorem trimmed_eq_self
    (visible : ∀ character ∈ text, isVisible character = true) :
    trimmed text = text := by
  have kept {character : Char} (member : character ∈ text) :
      ¬isTrimmed character = true := by
    have bounds := visible character member
    rw [isVisible, decide_eq_true_iff] at bounds
    simp only [isTrimmed, Bool.or_eq_true, decide_eq_true_eq, beq_iff_eq]
    omega
  rw [trimmed, List.dropWhile_eq_self_iff.mpr, List.rdropWhile_eq_self_iff.mpr]
  · exact fun nonempty => kept (List.getLast_mem nonempty)
  · exact fun nonempty => kept (List.getElem_mem nonempty)

/-- An address that is written out gets no scheme. -/
theorem withScheme_written (writable : Writable url) (path : PathText text) :
    withScheme (start ++ (url.authority ++ text)) =
      start ++ (url.authority ++ text) := by
  rw [withScheme, trimmed_eq_self (isVisible_written writable path)]
  exact if_pos rfl

/-- What is left of two lists has the end of the second, unless that has
nothing to keep. -/
theorem rdropWhile_append_eq (early late : List Char) :
    (early ++ late).rdropWhile Char.isDigit =
      if (late.rdropWhile Char.isDigit).isEmpty then
        early.rdropWhile Char.isDigit
      else early ++ late.rdropWhile Char.isDigit := by
  rw [List.rdropWhile, List.reverse_append, List.dropWhile_append]
  simp only [List.rdropWhile, List.isEmpty_reverse]
  split <;> simp

/-- The last character of a host that is no digit is no colon. -/
theorem getLast?_host {host : List Char} (shape : HostShape host) :
    (host.rdropWhile Char.isDigit).getLast? ≠ some ':' := by
  intro colon
  rcases shape with plain | ⟨inner, same, -, -⟩
  · have member := (List.rdropWhile_prefix _ host).subset
      (List.mem_of_getLast? colon)
    exact (plain ':' member).1 rfl
  · rw [same, ← List.cons_append,
      List.rdropWhile_concat_neg _ _ _ (by decide),
      List.getLast?_concat] at colon
    exact absurd colon (by decide)

/-- A text without a port does not end in one. -/
theorem not_endsInPort (writable : Writable url) (none : url.port = none) :
    endsInPort url.authority = false := by
  have last : (url.authority.rdropWhile Char.isDigit).getLast? ≠ some ':' := by
    rw [WebUrl.authority, none, portText, List.append_nil,
      rdropWhile_append_eq]
    split
    · rcases credentials_cases url with ⟨-, -, none⟩ | written
      · rw [none]
        simp
      · rw [written, List.rdropWhile_concat_neg _ _ _ (by decide)]
        simp
    case isFalse kept =>
      rw [List.getLast?_append_of_ne_nil _ (by simpa using kept)]
      exact getLast?_host writable.shape
  simp [endsInPort, last]

/-- A written port ends an authority in digits. -/
theorem endsInPort_append (early : List Char) (port : Nat) :
    endsInPort (early ++ portText (some port)) = true := by
  have digits : ∀ character ∈ Nat.toDigits 10 port,
      character.isDigit = true := fun _ member =>
    Nat.isDigit_of_mem_toDigits (by decide) (by decide) member
  have moved : early ++ portText (some port) =
      (early ++ [':']) ++ Nat.toDigits 10 port := by
    simp [portText]
  rw [moved, endsInPort, rtakeWhile_append digits, rdropWhile_append digits,
    List.rtakeWhile_concat_neg _ _ _ (by decide),
    List.rdropWhile_concat_neg _ _ _ (by decide)]
  simp

/-- An address in brackets ends in a port where one is written. -/
theorem bracketsWithPort_append {inner : List Char} (nonempty : inner ≠ [])
    (plain : ∀ character ∈ inner, character ≠ '[' ∧ character ≠ ']')
    (port : Option Nat) :
    bracketsWithPort (inner ++ (']' :: portText port)) = port.isSome := by
  have open' : ∀ character ∈ inner, (character != ']') = true :=
    fun character member => bne_iff_ne.mpr (plain character member).2
  rw [bracketsWithPort, List.takeWhile_append_of_pos open',
    List.takeWhile_cons_of_neg (by decide), List.append_nil,
    List.drop_left]
  cases port with
  | none => simp [portText]
  | some port =>
      have digits : (Nat.toDigits 10 port).all Char.isDigit = true :=
        List.all_eq_true.mpr fun _ member =>
          Nat.isDigit_of_mem_toDigits (by decide) (by decide) member
      simp [portText, nonempty, digits]

/-- A text that begins with a bracket is a host in brackets and a port. -/
theorem bracketsWithPort_authority (writable : Writable url) {rest : List Char}
    (bracket : url.authority = '[' :: rest) :
    bracketsWithPort rest = url.port.isSome := by
  rw [WebUrl.authority] at bracket
  rcases credentials_cases url with ⟨-, -, none⟩ | written
  · rw [none, List.nil_append] at bracket
    rcases writable.shape with plain | ⟨inner, same, nonempty, plain⟩
    · obtain ⟨first, others, host⟩ :=
        List.exists_cons_of_ne_nil writable.nonempty
      rw [host, List.cons_append] at bracket
      cases bracket
      exact absurd rfl (plain '[' (host ▸ List.mem_cons_self)).2.1
    · rw [same, List.cons_append] at bracket
      cases bracket
      rw [List.append_assoc, List.singleton_append]
      exact bracketsWithPort_append nonempty plain url.port
  · rw [written] at bracket
    cases name : url.username with
    | cons first others =>
        rw [name] at bracket
        cases bracket
        have member : '[' ∈ url.username := name ▸ List.mem_cons_self
        exact absurd rfl
          (isAuthorityChar_of_not_userinfoSet
            (writable.username '[' member)).2.2.2
    | nil =>
        rw [name] at bracket
        split at bracket <;> simp at bracket

theorem endsInPort_authority (writable : Writable url) :
    endsInPort url.authority = url.port.isSome := by
  cases same : url.port with
  | none => exact not_endsInPort writable same
  | some port =>
      rw [WebUrl.authority, same, ← List.append_assoc]
      exact endsInPort_append _ port

/-- The port of an address that is written out is found. -/
theorem hasExplicitPort_written (writable : Writable url)
    (path : PathText text) :
    hasExplicitPort (start ++ (url.authority ++ text)) = url.port.isSome := by
  have authority : (url.authority ++ text).takeWhile
      (fun character => character != '/' && character != '?' &&
        character != '#') = url.authority := by
    have plain : ∀ character ∈ url.authority,
        (character != '/' && character != '?' && character != '#') = true := by
      intro character member
      have ends := not_endsAuthority writable character member
      simp only [endsAuthority, isSlash, Bool.not_eq_true',
        Bool.or_eq_false_iff, beq_eq_false_iff_ne] at ends
      simp [ends]
    rw [List.takeWhile_append_of_pos plain]
    rcases path.1 with same | ⟨rest, same⟩
    · rw [same]
      exact List.append_nil _
    · rw [same, List.takeWhile_cons_of_neg (by decide)]
      exact List.append_nil _
  have mark : afterMark (start ++ (url.authority ++ text)) =
      some (url.authority ++ text) := by
    rfl
  rw [hasExplicitPort, mark, Option.getD_some, authority]
  split
  case h_1 rest bracket => exact bracketsWithPort_authority writable bracket
  case h_2 => exact endsInPort_authority writable

end Written

/-! ## What normalizing gives -/

section Normalized

variable {hosts : List Char → Option (List Char)} {url : WebUrl}
variable {raw path : List Char}

/-- An address that normalizing gives, with the text of its path. -/
structure Normalized (hosts : List Char → Option (List Char)) (url : WebUrl)
    (path : List Char) : Prop where
  settled : Settled hosts url
  text : PathText path
  read : readPath path = url.path
  again : withoutSlashes (pathname url.path) = path
  query : url.query = none
  fragment : url.fragment = none

theorem Normalized.bare (normal : Normalized hosts url path) :
    { url with query := none, fragment := none } = url := by
  have query := normal.query
  have fragment := normal.fragment
  cases url
  dsimp only at query fragment
  rw [query, fragment]

/-- The text of an address that normalizing gives. -/
def written (url : WebUrl) (path : List Char) : List Char :=
  start ++ (url.authority ++ path)

/-- An address is written without its last slash. -/
theorem withoutSlash_serialize (normal : Normalized hosts url path) :
    withoutSlash url.serialize = written url path := by
  have text : url.serialize = start ++ (url.authority ++ pathname url.path) := by
    simp [WebUrl.serialize, start, normal.query, normal.fragment]
  rw [text, written]
  have again := normal.again
  by_cases none : path = []
  · have single : url.path = [[]] := by
      rw [← normal.read, none]
      rfl
    have slash : start ++ (url.authority ++ pathname url.path) =
        (start ++ url.authority) ++ ['/'] := by
      rw [single, List.append_assoc]
      rfl
    rw [slash, withoutSlash, if_pos List.getLast?_concat, List.dropLast_concat,
      none, List.append_nil]
  · have whole : pathname url.path = path := by
      have kept := pathname_readPath_rdropWhile normal.settled.path
        (show withoutSlashes (pathname url.path) ≠ [] from again ▸ none)
      rwa [show (pathname url.path).rdropWhile (· == '/') = path from again,
        normal.read] at kept
    have last : path.getLast none ≠ '/' := by
      have kept := List.rdropWhile_eq_self_iff.mp
        (show path.rdropWhile (· == '/') = path from whole ▸ again) none
      simpa using kept
    rw [whole, withoutSlash, if_neg]
    rw [List.getLast?_append_of_ne_nil _ (by simp [none]),
      List.getLast?_append_of_ne_nil _ none, List.getLast?_eq_some_getLast none]
    exact fun same => last (Option.some.inj same)

/-- The port that normalizing gives an address. -/
def normalPort (raw : List Char) (port : Option Nat) : Option Nat :=
  if hasExplicitPort (withScheme raw) then port else some defaultMachinePort

/-- What normalizing makes of an address. -/
def normalOf (raw : List Char) (url : WebUrl) : WebUrl :=
  { url with
    port := normalPort raw url.port
    path := readPath (withoutSlashes (pathname url.path))
    query := none
    fragment := none }

theorem pathText_withoutSlashes (settled : Settled hosts url) :
    PathText (withoutSlashes (pathname url.path)) :=
  pathText_of_prefix settled.path (List.rdropWhile_prefix _ _)

theorem withoutSlashes_again (settled : Settled hosts url) :
    withoutSlashes (pathname (readPath (withoutSlashes (pathname url.path)))) =
      withoutSlashes (pathname url.path) := by
  by_cases none : withoutSlashes (pathname url.path) = []
  · rw [none]
    decide
  · have whole : pathname (readPath (withoutSlashes (pathname url.path))) =
        withoutSlashes (pathname url.path) :=
      pathname_readPath_rdropWhile settled.path none
    rw [whole]
    exact List.rdropWhile_idempotent _ _

/-- What an address is normalised to is normal. -/
theorem normalized_normalOf (settled : Settled hosts url) :
    Normalized hosts (normalOf raw url) (withoutSlashes (pathname url.path)) where
  settled :=
    { username := settled.username
      password := settled.password
      host := settled.host
      port := by
        intro port same
        simp only [normalOf, normalPort] at same
        split at same
        · exact settled.port port same
        · cases same
          decide
      path := settledPath_readPath _ }
  text := pathText_withoutSlashes settled
  read := rfl
  again := withoutSlashes_again settled
  query := rfl
  fragment := rfl

/-- What normalizing makes of a text that is an address. -/
theorem normalizedText_of_parse (lawful : LawfulHosts hosts)
    (parsed : parse hosts (withScheme raw) = some url) :
    normalizedText hosts raw =
      some (written (normalOf raw url) (withoutSlashes (pathname url.path))) := by
  have settled := settled_parse lawful parsed
  have noTabs : (withoutSlashes (pathname url.path)).filter
      (!isTabOrNewline ·) = withoutSlashes (pathname url.path) :=
    filter_not_isTabOrNewline fun character member =>
      ((pathText_withoutSlashes settled).2 character member).1
  have same : normalizedUrl hosts raw = some (normalOf raw url) := by
    rw [normalizedUrl, parsed, Option.map_some, normalOf, normalPort]
    split
    · simp only [WebUrl.setPathname, noTabs]
    · have port : url.setPort (Nat.toDigits 10 defaultMachinePort) =
          { url with port := some defaultMachinePort } := by
        rfl
      rw [port]
      simp only [WebUrl.setPathname, noTabs]
  rw [normalizedText, same, Option.map_some,
    withoutSlash_serialize (normalized_normalOf settled)]

theorem parse_written_eq (lawful : LawfulHosts hosts)
    (normal : Normalized hosts url path) :
    parse hosts (written url path) = some url := by
  rw [written, parse_written (normal.settled.writable lawful) normal.text
    normal.settled.host, normal.settled.keptPort_bind, normal.read]
  exact congrArg some normal.bare

/-- Normalizing a normalized text gives it a port if it has none. -/
theorem normalizedText_written (lawful : LawfulHosts hosts)
    (normal : Normalized hosts url path) :
    normalizedText hosts (written url path) =
      some (written
        { url with port := some (url.port.getD defaultMachinePort) } path) := by
  have writable := normal.settled.writable lawful
  have scheme : withScheme (written url path) = written url path :=
    withScheme_written writable normal.text
  have explicit : hasExplicitPort (written url path) = url.port.isSome :=
    hasExplicitPort_written writable normal.text
  have parsed : parse hosts (withScheme (written url path)) = some url := by
    rw [scheme, parse_written_eq lawful normal]
  rw [normalizedText_of_parse lawful parsed, normal.again]
  have port : normalPort (written url path) url.port =
      some (url.port.getD defaultMachinePort) := by
    rw [normalPort, scheme, explicit]
    cases url.port <;> rfl
  congr 2
  rw [normalOf, normal.again, normal.read, port]
  exact congrArg
    (fun other : WebUrl =>
      { other with port := some (url.port.getD defaultMachinePort) })
    normal.bare

end Normalized

end Web

namespace Host

open Text

/-! ## The address in a pairing request -/

/-- The port that a daemon listens on, by the reader of socket addresses. -/
def configuredPort (socketPort : String → Option Nat) (config : SystemConfig) :
    Nat :=
  (socketPort config.listenAddr).getD 9012

/-- The domain of a daemon that has one. -/
def configuredDomain (config : SystemConfig) : Option String :=
  (config.domain.map trim).filter fun domain => domain != ""

/-- The address that the daemon shows for pairing. -/
def pairingDaemonUrl (socketPort : String → Option Nat)
    (config : SystemConfig) : String :=
  let port := configuredPort socketPort config
  match configuredDomain config with
  | some domain =>
      if port = 443 then "https://" ++ domain
      else "https://" ++ domain ++ ":" ++ toString port
  | none => "https://localhost:" ++ toString port

end Host
end WhatsGoingOn
