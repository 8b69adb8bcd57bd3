import Mathlib.Data.List.DropRight
import WhatsGoingOn.Library.Utf8

/-!
# Web addresses

Reading and writing the addresses of the `https` scheme as the URL standard has
it, for any reader of hosts.  Written out, what has been read is read again as
what it was.
-/

namespace WhatsGoingOn
namespace Url

/-! ## Characters -/

/-- The characters that the parser drops wherever they stand. -/
def isTabOrNewline (character : Char) : Bool :=
  character == '\t' || character == '\n' || character == '\r'

/-- The characters that the parser drops at both ends. -/
def isControlOrSpace (character : Char) : Bool :=
  decide (character.toNat ≤ 0x20)

/-- The ASCII characters that can be seen. -/
def isVisible (character : Char) : Bool :=
  decide (0x20 < character.toNat ∧ character.toNat < 0x7F)

/-- Web addresses take either slash. -/
def isSlash (character : Char) : Bool :=
  character == '/' || character == '\\'

/-- The characters that end the part of an address with its host. -/
def endsAuthority (character : Char) : Bool :=
  isSlash character || character == '?' || character == '#'

/-- The characters of a scheme after its first letter. -/
def isSchemeChar (character : Char) : Bool :=
  character.isAlphanum || character == '+' || character == '-' ||
    character == '.'

/-! ## Percent encoding -/

/-- The percent-encode set of fragments. -/
def fragmentSet (character : Char) : Bool :=
  !isVisible character || character == '"' || character == '<' ||
    character == '>' || character == '\x60'

/-- The percent-encode set of queries of special schemes. -/
def querySet (character : Char) : Bool :=
  !isVisible character || character == '"' || character == '#' ||
    character == '<' || character == '>' || character == '\x27'

/-- The percent-encode set of paths. -/
def pathSet (character : Char) : Bool :=
  !isVisible character || character == '"' || character == '#' ||
    character == '<' || character == '>' || character == '?' ||
      character == '^' || character == '\x60' || character == '\x7b' ||
        character == '\x7d'

/-- The percent-encode set of credentials. -/
def userinfoSet (character : Char) : Bool :=
  pathSet character || character == '/' || character == ':' ||
    character == ';' || character == '=' || character == '@' ||
      character == '[' || character == '\\' || character == ']' ||
        character == '|'

/-- A byte as a percent sign and two digits. -/
def encodeByte (byte : UInt8) : List Char :=
  ['%', Char.toUpper (Nat.digitChar (byte.toNat / 16)),
    Char.toUpper (Nat.digitChar (byte.toNat % 16))]

/-- A text with the characters of a set as their bytes. -/
def percentEncode (encoded : Char → Bool) (text : List Char) : List Char :=
  text.flatMap fun character =>
    if encoded character then
      (String.utf8EncodeChar character).flatMap encodeByte
    else [character]

/-! ## Addresses -/

/-- An address of the scheme. -/
structure WebUrl where
  username : List Char
  password : List Char
  host : List Char
  port : Option Nat
  path : List (List Char)
  query : Option (List Char)
  fragment : Option (List Char)
  deriving DecidableEq, Repr

/-- The port of https. -/
def defaultPort : Nat := 443

/-- The port that an address keeps of one that it names. -/
def keptPort (port : Nat) : Option Nat :=
  if port = defaultPort then none else some port

/-- The port that an address leads to. -/
def WebUrl.portOrDefault (url : WebUrl) : Nat :=
  url.port.getD defaultPort

/-! ### Reading -/

/-- A text without what the reader ignores. -/
def clean (text : List Char) : List Char :=
  ((text.dropWhile isControlOrSpace).rdropWhile isControlOrSpace).filter
    (!isTabOrNewline ·)

/-- The scheme of an address, and what comes after its colon. -/
def readScheme (text : List Char) : Option (List Char × List Char) :=
  match text.head?, text.dropWhile isSchemeChar with
  | some first, ':' :: rest =>
      if first.isAlpha then
        some ((text.takeWhile isSchemeChar).map Char.toLower, rest)
      else none
  | _, _ => none

/-- What comes after the scheme and the slashes of an address of the scheme. -/
def afterScheme (text : List Char) : Option (List Char) :=
  (readScheme (clean text)).bind fun (scheme, rest) =>
    if scheme = ['h', 't', 't', 'p', 's'] then some (rest.dropWhile isSlash)
    else none

/-- The text up to the end of the authority. -/
def authorityOf (rest : List Char) : List Char :=
  rest.takeWhile (!endsAuthority ·)

/-- What comes before the last `@`. -/
def credentialsOf (authority : List Char) : List Char :=
  (authority.rdropWhile (· != '@')).dropLast

/-- What follows the last at sign. -/
def hostAndPort (authority : List Char) : List Char :=
  authority.rtakeWhile (· != '@')

/-- The text of a host, and that of a port after a colon out of brackets. -/
def splitHost (inside : Bool) : List Char → List Char × Option (List Char)
  | [] => ([], none)
  | character :: rest =>
      if character = ':' ∧ inside = false then ([], some rest)
      else
        let inside :=
          if character = '[' then true
          else if character = ']' then false else inside
        (character :: (splitHost inside rest).1, (splitHost inside rest).2)

/-- The port of the text of one, or nothing of a text that is none. -/
def readPort : Option (List Char) → Option (Option Nat)
  | none => some none
  | some digits =>
      if digits.isEmpty then some none
      else if digits.all Char.isDigit then
        let port := Nat.ofDigitChars 10 digits 0
        if port < 65536 then some (some port) else none
      else none

/-- The segment stands for the directory itself. -/
def isSingleDot (segment : List Char) : Bool :=
  let lower := segment.map Char.toLower
  lower == ['.'] || lower == ['%', '2', 'e']

/-- The segment stands for the directory above. -/
def isDoubleDot (segment : List Char) : Bool :=
  let lower := segment.map Char.toLower
  lower == ['.', '.'] || lower == ['.', '%', '2', 'e'] ||
    lower == ['%', '2', 'e', '.'] ||
      lower == ['%', '2', 'e', '%', '2', 'e']

/-- The segments of a path. -/
def splitPath : List Char → List (List Char)
  | [] => [[]]
  | character :: rest =>
      if isSlash character then [] :: splitPath rest
      else
        match splitPath rest with
        | [] => [[character]]
        | segment :: segments => (character :: segment) :: segments

/-- A path with more segments. -/
def addSegments (path : List (List Char)) :
    List (List Char) → List (List Char)
  | [] => path
  | segment :: segments =>
      let segment := percentEncode pathSet segment
      let dots := if segments.isEmpty then [[]] else []
      if isDoubleDot segment then
        addSegments (path.dropLast ++ dots) segments
      else if isSingleDot segment then addSegments (path ++ dots) segments
      else addSegments (path ++ [segment]) segments

/-- The segments of a path, with the dots taken out. -/
def readPath (text : List Char) : List (List Char) :=
  addSegments [] (splitPath
    (if (text.head?.map isSlash).getD false then text.drop 1 else text))

/-- The query, if there is a question mark. -/
def readQuery : List Char → Option (List Char)
  | '?' :: rest =>
      some (percentEncode querySet (rest.takeWhile (· != '#')))
  | _ => none

/-- The fragment, if there is a number sign. -/
def readFragment (text : List Char) : Option (List Char) :=
  match text.dropWhile (· != '#') with
  | [] => none
  | _ :: rest => some (percentEncode fragmentSet rest)

/-- The host and the port of the text of an address. -/
def hostPart (rest : List Char) : List Char × Option (List Char) :=
  splitHost false (hostAndPort (authorityOf rest))

/-- The address of a text. -/
def parse (hosts : List Char → Option (List Char)) (text : List Char) :
    Option WebUrl :=
  (afterScheme text).bind fun rest =>
    if (hostPart rest).1 = [] then none
    else
      (hosts (hostPart rest).1).bind fun host =>
        (readPort (hostPart rest).2).map fun named =>
          let credentials := credentialsOf (authorityOf rest)
          let others := rest.dropWhile (!endsAuthority ·)
          let path := others.takeWhile fun character =>
            character != '?' && character != '#'
          let others := others.drop path.length
          { username :=
              percentEncode userinfoSet (credentials.takeWhile (· != ':'))
            password :=
              percentEncode userinfoSet
                ((credentials.dropWhile (· != ':')).drop 1)
            host := host
            port := named.bind keptPort
            path := readPath path
            query := readQuery others
            fragment := readFragment others }

/-- The port that the text of an address names, be it the default one. -/
def portNamed (text : List Char) : Option Nat :=
  (afterScheme text).bind fun rest => (readPort (hostPart rest).2).join

/-! ### Writing -/

/-- The user and the password as they are written before the host. -/
def WebUrl.credentials (url : WebUrl) : List Char :=
  if url.username = [] ∧ url.password = [] then []
  else
    url.username ++
      (if url.password = [] then [] else ':' :: url.password) ++ ['@']

/-- The port as it is written after the host. -/
def portText : Option Nat → List Char
  | none => []
  | some port => ':' :: Nat.toDigits 10 port

/-- The credentials, the host and the port. -/
def WebUrl.authority (url : WebUrl) : List Char :=
  url.credentials ++ (url.host ++ portText url.port)

/-- The path as it is written. -/
def pathname (path : List (List Char)) : List Char :=
  path.flatMap ('/' :: ·)

/-- The address as it is written. -/
def WebUrl.serialize (url : WebUrl) : List Char :=
  ['h', 't', 't', 'p', 's', ':', '/', '/'] ++ url.authority ++
    pathname url.path ++
      (url.query.elim [] ('?' :: ·)) ++ (url.fragment.elim [] ('#' :: ·))

/-! ### Changing -/

/-- The port setter. -/
def WebUrl.setPort (url : WebUrl) (text : List Char) : WebUrl :=
  let digits := (text.filter (!isTabOrNewline ·)).takeWhile Char.isDigit
  if text = [] then { url with port := none }
  else if digits = [] then url
  else if Nat.ofDigitChars 10 digits 0 < 65536 then
    { url with port := keptPort (Nat.ofDigitChars 10 digits 0) }
  else url

/-- The path setter. -/
def WebUrl.setPathname (url : WebUrl) (text : List Char) : WebUrl :=
  { url with path := readPath (text.filter (!isTabOrNewline ·)) }

/-! ## What encoding makes -/

section Encoding

variable {encoded : Char → Bool} {text : List Char}

/-- The characters that stand for others. -/
def escapes : List Char :=
  ['%', '0', '1', '2', '3', '4', '5', '6', '7', '8', '9', 'A', 'B', 'C', 'D',
    'E', 'F']

/-- A byte is escaped with the characters of escapes. -/
theorem mem_encodeByte {byte : UInt8} {character : Char}
    (member : character ∈ encodeByte byte) : character ∈ escapes := by
  have digits : ∀ digit : Fin 16,
      Char.toUpper (Nat.digitChar digit.val) ∈ escapes := by
    decide
  have small := byte.toNat_lt
  rcases List.mem_cons.mp member with same | member
  · rw [same]; decide
  rcases List.mem_cons.mp member with same | member
  · rw [same]; exact digits ⟨byte.toNat / 16, by omega⟩
  · rw [List.mem_singleton.mp member]
    exact digits ⟨byte.toNat % 16, by omega⟩

theorem mem_percentEncode {character : Char}
    (member : character ∈ percentEncode encoded text) :
    (character ∈ text ∧ encoded character = false) ∨ character ∈ escapes := by
  obtain ⟨source, present, member⟩ := List.mem_flatMap.mp member
  split at member
  · obtain ⟨byte, -, member⟩ := List.mem_flatMap.mp member
    exact Or.inr (mem_encodeByte member)
  case isFalse plain =>
    rw [List.mem_singleton] at member
    exact Or.inl ⟨member ▸ present, member ▸ Bool.eq_false_iff.mpr plain⟩

/-- What encoding makes has no characters of the set. -/
theorem not_encoded_of_mem (safe : escapes.any encoded = false)
    {character : Char} (member : character ∈ percentEncode encoded text) :
    encoded character = false := by
  rcases mem_percentEncode member with ⟨-, plain⟩ | escape
  · exact plain
  · exact Bool.eq_false_iff.mpr (List.any_eq_false.mp safe character escape)

/-- A text without characters of the set is encoded as itself. -/
theorem percentEncode_eq_self
    (plain : ∀ character ∈ text, encoded character = false) :
    percentEncode encoded text = text := by
  induction text with
  | nil => rfl
  | cons character characters inductionHypothesis =>
      have here := plain character List.mem_cons_self
      rw [percentEncode, List.flatMap_cons, here, if_neg Bool.false_ne_true]
      refine congrArg (character :: ·) (inductionHypothesis ?_)
      exact fun other present => plain other (List.mem_cons_of_mem _ present)

end Encoding

/-! ## Paths -/

section Paths

variable {text : List Char} {path segments : List (List Char)}

/-- A segment that is read as itself. -/
def SettledSegment (segment : List Char) : Prop :=
  (∀ character ∈ segment,
      pathSet character = false ∧ isSlash character = false) ∧
    isDoubleDot segment = false ∧ isSingleDot segment = false

/-- A path that is read as itself. -/
def SettledPath (path : List (List Char)) : Prop :=
  path ≠ [] ∧ ∀ segment ∈ path, SettledSegment segment

theorem settledSegment_nil : SettledSegment [] := by
  refine ⟨nofun, rfl, rfl⟩

/-- The segments of a path have no slash in them. -/
theorem not_isSlash_of_mem_splitPath {segment : List Char}
    (present : segment ∈ splitPath text) {character : Char}
    (member : character ∈ segment) : isSlash character = false := by
  induction text generalizing segment with
  | nil =>
      rw [List.mem_singleton.mp present] at member
      cases member
  | cons first others inductionHypothesis =>
      unfold splitPath at present
      split at present
      · rcases List.mem_cons.mp present with same | later
        · rw [same] at member
          cases member
        · exact inductionHypothesis later member
      case isFalse plain =>
        split at present
        · rw [List.mem_singleton.mp present, List.mem_singleton] at member
          rw [member, Bool.eq_false_iff.mpr plain]
        case h_2 segment' segments split =>
          rcases List.mem_cons.mp present with same | later
          · rw [same] at member
            rcases List.mem_cons.mp member with same | member
            · rw [same, Bool.eq_false_iff.mpr plain]
            · exact inductionHypothesis (split ▸ List.mem_cons_self) member
          · exact inductionHypothesis
              (split ▸ List.mem_cons_of_mem _ later) member

theorem splitPath_ne_nil (text : List Char) : splitPath text ≠ [] := by
  cases text with
  | nil => nofun
  | cons first others =>
      unfold splitPath
      split
      · nofun
      · split <;> nofun

/-- What is added to settled segments is settled. -/
theorem settled_addSegments
    (settled : ∀ segment ∈ path, SettledSegment segment)
    (plain : ∀ segment ∈ segments, ∀ character ∈ segment,
      isSlash character = false) :
    ∀ segment ∈ addSegments path segments, SettledSegment segment := by
  induction segments generalizing path with
  | nil => exact settled
  | cons segment segments inductionHypothesis =>
      have later := fun other present =>
        plain other (List.mem_cons_of_mem segment present)
      have dotted {prior : List (List Char)}
          (settled : ∀ segment ∈ prior, SettledSegment segment) :
          ∀ other ∈ prior ++ (if segments.isEmpty then [[]] else []),
            SettledSegment other := by
        intro other present
        rcases List.mem_append.mp present with present | present
        · exact settled other present
        · split at present
          · rw [List.mem_singleton.mp present]
            exact settledSegment_nil
          · cases present
      unfold addSegments
      dsimp only
      split
      · refine inductionHypothesis (dotted ?_) later
        exact fun other present => settled other (List.dropLast_subset _ present)
      case isFalse noDoubleDot =>
        split
        · exact inductionHypothesis (dotted settled) later
        case isFalse noSingleDot =>
          refine inductionHypothesis ?_ later
          intro other present
          rcases List.mem_append.mp present with present | present
          · exact settled other present
          · rw [List.mem_singleton.mp present]
            refine ⟨fun character member => ⟨?_, ?_⟩,
              Bool.eq_false_iff.mpr noDoubleDot,
              Bool.eq_false_iff.mpr noSingleDot⟩
            · exact not_encoded_of_mem rfl member
            · rcases mem_percentEncode member with ⟨member, -⟩ | escape
              · exact plain segment List.mem_cons_self character member
              · have plain : escapes.any isSlash = false := rfl
                exact Bool.eq_false_iff.mpr
                  (List.any_eq_false.mp plain character escape)

/-- Segments that are added leave at least one. -/
theorem addSegments_ne_nil (nonempty : segments ≠ []) :
    addSegments path segments ≠ [] := by
  induction segments generalizing path with
  | nil => exact absurd rfl nonempty
  | cons segment segments inductionHypothesis =>
      unfold addSegments
      dsimp only
      cases segments with
      | nil => split <;> [skip; split] <;> simp [addSegments]
      | cons next others =>
          split
          · exact inductionHypothesis nofun
          · split <;> exact inductionHypothesis nofun

theorem settledPath_readPath (text : List Char) :
    SettledPath (readPath text) :=
  ⟨addSegments_ne_nil (splitPath_ne_nil _),
    settled_addSegments nofun fun _ present _ member =>
      not_isSlash_of_mem_splitPath present member⟩

/-- Settled segments are added as they are. -/
theorem addSegments_settled
    (settled : ∀ segment ∈ segments, SettledSegment segment) :
    addSegments path segments = path ++ segments := by
  induction segments generalizing path with
  | nil => exact (List.append_nil path).symm
  | cons segment segments inductionHypothesis =>
      have here := settled segment List.mem_cons_self
      have same : percentEncode pathSet segment = segment :=
        percentEncode_eq_self fun character member => (here.1 character member).1
      unfold addSegments
      dsimp only
      rw [same, here.2.1, here.2.2, if_neg Bool.false_ne_true,
        if_neg Bool.false_ne_true, inductionHypothesis, List.append_assoc]
      · rfl
      · exact fun other present =>
          settled other (List.mem_cons_of_mem _ present)

/-- Characters without slashes go into the first segment. -/
theorem splitPath_append {segment first : List Char}
    (plain : ∀ character ∈ segment, isSlash character = false)
    (split : splitPath text = first :: segments) :
    splitPath (segment ++ text) = (segment ++ first) :: segments := by
  induction segment with
  | nil => exact split
  | cons character others inductionHypothesis =>
      have rest := inductionHypothesis fun other member =>
        plain other (List.mem_cons_of_mem _ member)
      rw [List.cons_append, splitPath, plain character List.mem_cons_self,
        if_neg Bool.false_ne_true, rest]
      rfl

/-- Segments without slashes, written with slashes before them, are split as
they were. -/
theorem splitPath_append_pathname {segment : List Char}
    (plain : ∀ other ∈ segment :: segments, ∀ character ∈ other,
      isSlash character = false) :
    splitPath (segment ++ pathname segments) = segment :: segments := by
  induction segments generalizing segment with
  | nil =>
      have one := splitPath_append (plain segment List.mem_cons_self)
        (show splitPath (pathname []) = [[]] from rfl)
      rwa [List.append_nil segment] at one
  | cons next segments inductionHypothesis =>
      have tail := inductionHypothesis fun other present =>
        plain other (List.mem_cons_of_mem _ present)
      have slash : splitPath (pathname (next :: segments)) =
          [] :: next :: segments := by
        show splitPath ('/' :: (next ++ pathname segments)) = _
        rw [splitPath, if_pos (show isSlash '/' = true from rfl), tail]
      have one := splitPath_append (plain segment List.mem_cons_self) slash
      rwa [List.append_nil segment] at one

/-- A settled path, written out, is read as what it was. -/
theorem readPath_pathname (settled : SettledPath path) :
    readPath (pathname path) = path := by
  obtain ⟨nonempty, settled⟩ := settled
  cases path with
  | nil => exact absurd rfl nonempty
  | cons segment segments =>
      have plain (other : List Char) (present : other ∈ segment :: segments)
          (character : Char) (member : character ∈ other) :
          isSlash character = false :=
        ((settled other present).1 character member).2
      show addSegments [] (splitPath (segment ++ pathname segments)) = _
      rw [splitPath_append_pathname plain]
      exact addSegments_settled settled

/-- Dropping the last slashes of a path drops its last empty segments. -/
theorem rdropWhile_pathname
    (plain : ∀ segment ∈ path, ∀ character ∈ segment,
      isSlash character = false) :
    (pathname path).rdropWhile (· == '/') =
      pathname (path.rdropWhile List.isEmpty) := by
  induction path using List.reverseRecOn with
  | nil => rfl
  | append_singleton path segment inductionHypothesis =>
      have rest := inductionHypothesis fun other present =>
        plain other (List.mem_append_left _ present)
      have last : pathname (path ++ [segment]) =
          pathname path ++ '/' :: segment := by
        simp [pathname]
      rcases List.eq_nil_or_concat segment with same | ⟨others, final, same⟩
      · subst same
        rw [last, List.rdropWhile_concat_pos _ _ _ rfl,
          List.rdropWhile_concat_pos _ _ _ rfl, rest]
      · have noSlash : ¬(final == '/') = true := by
          intro slash
          have plainFinal := plain segment
            (List.mem_append_right _ (List.mem_singleton_self _)) final
              (by rw [same]; simp)
          rw [isSlash, slash] at plainFinal
          cases plainFinal
        have moved : pathname path ++ '/' :: segment =
            (pathname path ++ '/' :: others) ++ [final] := by
          rw [same]; simp
        rw [List.rdropWhile_concat_neg _ _ segment (by simp [same]), last,
          moved]
        exact List.rdropWhile_concat_neg (· == '/') _ final noSlash

/-- A path without its last slashes, read and written out again, is what it
was, unless nothing is left of it. -/
theorem pathname_readPath_rdropWhile (settled : SettledPath path)
    (nonempty : (pathname path).rdropWhile (· == '/') ≠ []) :
    pathname (readPath ((pathname path).rdropWhile (· == '/'))) =
      (pathname path).rdropWhile (· == '/') := by
  have plain : ∀ segment ∈ path, ∀ character ∈ segment,
      isSlash character = false := fun segment present character member =>
    ((settled.2 segment present).1 character member).2
  rw [rdropWhile_pathname plain] at nonempty ⊢
  rw [readPath_pathname]
  refine ⟨?_, fun segment present => ?_⟩
  · rintro none
    rw [none] at nonempty
    exact nonempty rfl
  · exact settled.2 segment ((List.rdropWhile_prefix _ _).subset present)

end Paths

/-! ## The part with the host -/

section Authority

variable {text : List Char}

/-- The characters that the part with the host is made of. -/
def isAuthorityChar (character : Char) : Bool :=
  isVisible character && !endsAuthority character

/-- A host without a colon or brackets, or one in brackets. -/
def HostShape (host : List Char) : Prop :=
  (∀ character ∈ host, character ≠ ':' ∧ character ≠ '[' ∧ character ≠ ']') ∨
    ∃ inner, host = '[' :: (inner ++ [']']) ∧ inner ≠ [] ∧
      ∀ character ∈ inner, character ≠ '[' ∧ character ≠ ']'

/-- What is known of a reader of hosts.  A host that it gives is ASCII without
the characters that are forbidden in hosts, and is read as itself. -/
structure LawfulHosts (hosts : List Char → Option (List Char)) : Prop where
  again : ∀ text host, hosts text = some host → hosts host = some host
  nonempty : ∀ text host, hosts text = some host → host ≠ []
  plain : ∀ text host, hosts text = some host → ∀ character ∈ host,
    isAuthorityChar character = true ∧ character ≠ '@'
  shape : ∀ text host, hosts text = some host → HostShape host

/-- An address that is read as itself. -/
structure Settled (hosts : List Char → Option (List Char))
    (url : WebUrl) : Prop where
  username : ∀ character ∈ url.username, userinfoSet character = false
  password : ∀ character ∈ url.password, userinfoSet character = false
  host : hosts url.host = some url.host
  port : ∀ port, url.port = some port → port ≠ defaultPort ∧ port < 65536
  path : SettledPath url.path

/-- An address whose parts are told apart when it is written out. -/
structure Writable (url : WebUrl) : Prop where
  username : ∀ character ∈ url.username, userinfoSet character = false
  password : ∀ character ∈ url.password, userinfoSet character = false
  nonempty : url.host ≠ []
  plain : ∀ character ∈ url.host,
    isAuthorityChar character = true ∧ character ≠ '@'
  shape : HostShape url.host
  port : ∀ port, url.port = some port → port < 65536

theorem Settled.writable {hosts : List Char → Option (List Char)}
    {url : WebUrl} (lawful : LawfulHosts hosts) (settled : Settled hosts url) :
    Writable url where
  username := settled.username
  password := settled.password
  nonempty := lawful.nonempty _ _ settled.host
  plain := lawful.plain _ _ settled.host
  shape := lawful.shape _ _ settled.host
  port := fun port same => (settled.port port same).2

theorem keptPort_eq_some {port kept : Nat} (same : keptPort port = some kept) :
    kept ≠ defaultPort ∧ port = kept := by
  unfold keptPort at same
  split at same
  · cases same
  case isFalse other =>
    cases same
    exact ⟨other, rfl⟩

/-- A port that is read has sixteen bits. -/
theorem readPort_lt {digits : Option (List Char)} {port : Nat}
    (read : readPort digits = some (some port)) : port < 65536 := by
  unfold readPort at read
  split at read
  · cases read
  · split at read
    · cases read
    · split at read
      · dsimp only at read
        split at read
        case isTrue small =>
          cases read
          exact small
        · cases read
      · cases read

/-- An address that has been read is read as itself. -/
theorem settled_parse {hosts : List Char → Option (List Char)}
    (lawful : LawfulHosts hosts) {url : WebUrl}
    (parsed : parse hosts text = some url) : Settled hosts url := by
  simp only [parse, Option.bind_eq_some_iff] at parsed
  obtain ⟨rest, -, parsed⟩ := parsed
  split at parsed
  · cases parsed
  simp only [Option.bind_eq_some_iff, Option.map_eq_some_iff] at parsed
  obtain ⟨host, read, named, port, same⟩ := parsed
  subst same
  exact
    { username := fun character member => not_encoded_of_mem rfl member
      password := fun character member => not_encoded_of_mem rfl member
      host := lawful.again _ _ read
      port := by
        intro kept same
        obtain ⟨named', rfl, same⟩ := Option.bind_eq_some_iff.mp same
        obtain ⟨other, rfl⟩ := keptPort_eq_some same
        exact ⟨other, readPort_lt port⟩
      path := settledPath_readPath _ }

/-! ### Written out -/

/-- Digits may stand in an authority. -/
theorem isAuthorityChar_of_isDigit {character : Char}
    (digit : character.isDigit = true) :
    isAuthorityChar character = true ∧ character ≠ '@' ∧ character ≠ ':' := by
  have bounds : 48 ≤ character.toNat ∧ character.toNat ≤ 57 := by
    simp only [Char.isDigit, Bool.and_eq_true, decide_eq_true_eq] at digit
    exact digit
  have other {character' : Char} (outside : ¬character'.isDigit = true) :
      character ≠ character' := by
    rintro rfl
    exact outside digit
  have visible : isVisible character = true := by
    rw [isVisible, decide_eq_true_iff]
    omega
  refine ⟨?_, other (by decide), other (by decide)⟩
  simp [isAuthorityChar, visible, endsAuthority, isSlash,
    @other '/' (by decide), @other '\\' (by decide), @other '?' (by decide),
    @other '#' (by decide)]

theorem isAuthorityChar_of_not_userinfoSet {character : Char}
    (plain : userinfoSet character = false) :
    isAuthorityChar character = true ∧ character ≠ '@' ∧ character ≠ ':' ∧
      character ≠ '[' := by
  simp only [userinfoSet, pathSet, Bool.or_eq_false_iff, beq_eq_false_iff_ne,
    Bool.not_eq_false'] at plain
  simp [isAuthorityChar, endsAuthority, isSlash, plain]

variable {url : WebUrl}

theorem isDigit_of_mem_portText {port : Option Nat} {character : Char}
    (member : character ∈ portText port) :
    character = ':' ∨ character.isDigit = true := by
  cases port with
  | none => cases member
  | some port =>
      exact (List.mem_cons.mp member).imp_right fun member =>
        Nat.isDigit_of_mem_toDigits (by decide) (by decide) member

theorem not_at_of_mem_hostPart (writable : Writable url) {character : Char}
    (member : character ∈ url.host ++ portText url.port) :
    isAuthorityChar character = true ∧ character ≠ '@' := by
  rcases List.mem_append.mp member with member | member
  · exact writable.plain character member
  · rcases isDigit_of_mem_portText member with rfl | digit
    · decide
    · have plain := isAuthorityChar_of_isDigit digit
      exact ⟨plain.1, plain.2.1⟩

/-- The credentials are nothing, or end in their `@`. -/
theorem credentials_cases (url : WebUrl) :
    (url.username = [] ∧ url.password = [] ∧ url.credentials = []) ∨
      url.credentials =
        (url.username ++
          (if url.password = [] then [] else ':' :: url.password)) ++ ['@'] := by
  unfold WebUrl.credentials
  split
  case isTrue none => exact Or.inl ⟨none.1, none.2, rfl⟩
  case isFalse => exact Or.inr rfl

/-- The authority of an address that can be written is made of its characters. -/
theorem isAuthorityChar_of_mem_authority (writable : Writable url) {character : Char}
    (member : character ∈ url.authority) :
    isAuthorityChar character = true := by
  rcases List.mem_append.mp member with member | member
  · rcases credentials_cases url with ⟨-, -, none⟩ | written
    · rw [none] at member
      cases member
    · rw [written] at member
      have cases : character ∈ url.username ∨ character = ':' ∨
          character ∈ url.password ∨ character = '@' := by
        split at member <;> simp at member <;> tauto
      rcases cases with member | rfl | member | rfl
      · exact (isAuthorityChar_of_not_userinfoSet
          (writable.username character member)).1
      · decide
      · exact (isAuthorityChar_of_not_userinfoSet
          (writable.password character member)).1
      · decide
  · exact (not_at_of_mem_hostPart writable member).1

theorem rtakeWhile_append {α : Type} {matching : α → Bool} {early late : List α}
    (matched : ∀ item ∈ late, matching item = true) :
    (early ++ late).rtakeWhile matching = early.rtakeWhile matching ++ late := by
  rw [List.rtakeWhile, List.rtakeWhile, List.reverse_append,
    List.takeWhile_append_of_pos (by simpa using matched), List.reverse_append,
    List.reverse_reverse]

theorem rdropWhile_append {α : Type} {matching : α → Bool} {early late : List α}
    (matched : ∀ item ∈ late, matching item = true) :
    (early ++ late).rdropWhile matching = early.rdropWhile matching := by
  rw [List.rdropWhile, List.rdropWhile, List.reverse_append,
    List.dropWhile_append_of_pos (by simpa using matched)]

theorem hostAndPort_authority (writable : Writable url) :
    hostAndPort url.authority = url.host ++ portText url.port := by
  have plain : ∀ character ∈ url.host ++ portText url.port,
      (character != '@') = true := fun character member =>
    bne_iff_ne.mpr (not_at_of_mem_hostPart writable member).2
  rw [hostAndPort, WebUrl.authority, rtakeWhile_append plain]
  rcases credentials_cases url with ⟨-, -, none⟩ | written
  · rw [none]
    rfl
  · rw [written, List.rtakeWhile_concat_neg _ _ _ (by decide)]
    rfl

/-- The credentials are read back from the authority. -/
theorem credentialsOf_authority (writable : Writable url) :
    credentialsOf url.authority =
      url.username ++
        (if url.password = [] then [] else ':' :: url.password) := by
  have plain : ∀ character ∈ url.host ++ portText url.port,
      (character != '@') = true := fun character member =>
    bne_iff_ne.mpr (not_at_of_mem_hostPart writable member).2
  rw [credentialsOf, WebUrl.authority, rdropWhile_append plain]
  rcases credentials_cases url with ⟨noName, noWord, none⟩ | written
  · rw [none, noName, noWord]
    rfl
  · rw [written, List.rdropWhile_concat_neg _ _ _ (by decide)]
    exact List.dropLast_concat

/-- The credentials of an address are those that were written. -/
theorem credentials_authority (writable : Writable url) :
    percentEncode userinfoSet
        ((credentialsOf url.authority).takeWhile (· != ':')) = url.username ∧
      percentEncode userinfoSet
        (((credentialsOf url.authority).dropWhile (· != ':')).drop 1) =
          url.password := by
  have plain : ∀ character ∈ url.username, (character != ':') = true :=
    fun character member => bne_iff_ne.mpr (isAuthorityChar_of_not_userinfoSet
      (writable.username character member)).2.2.1
  rw [credentialsOf_authority writable,
    List.takeWhile_append_of_pos plain, List.dropWhile_append_of_pos plain]
  by_cases none : url.password = []
  · rw [if_pos none, none, List.takeWhile_nil, List.append_nil]
    exact ⟨percentEncode_eq_self writable.username, rfl⟩
  · rw [if_neg none, List.takeWhile_cons_of_neg (by decide), List.append_nil,
      List.dropWhile_cons_of_neg (by decide)]
    exact ⟨percentEncode_eq_self writable.username,
      percentEncode_eq_self writable.password⟩

/-- A host, and the text of a port after it, are told apart. -/
theorem splitHost_append {host : List Char} (shape : HostShape host)
    (port : Option Nat) :
    splitHost false (host ++ portText port) =
      (host, port.map (Nat.toDigits 10)) := by
  have outside (characters : List Char)
      (plain : ∀ character ∈ characters,
        character ≠ ':' ∧ character ≠ '[' ∧ character ≠ ']') :
      splitHost false (characters ++ portText port) =
        (characters, port.map (Nat.toDigits 10)) := by
    induction characters with
    | nil => cases port <;> rfl
    | cons first others inductionHypothesis =>
        have here := plain first List.mem_cons_self
        have rest := inductionHypothesis fun other member =>
          plain other (List.mem_cons_of_mem _ member)
        simp [splitHost, here, rest]
  have inside (characters : List Char)
      (plain : ∀ character ∈ characters, character ≠ '[' ∧ character ≠ ']') :
      splitHost true (characters ++ (']' :: portText port)) =
        (characters ++ [']'], port.map (Nat.toDigits 10)) := by
    induction characters with
    | nil =>
        have none := outside [] nofun
        rw [List.nil_append] at none
        simp [splitHost, none]
    | cons first others inductionHypothesis =>
        have here := plain first List.mem_cons_self
        have rest := inductionHypothesis fun other member =>
          plain other (List.mem_cons_of_mem _ member)
        simp [splitHost, here, rest]
  rcases shape with plain | ⟨inner, same, -, plain⟩
  · exact outside host plain
  · have rest := inside inner plain
    subst same
    rw [List.cons_append, List.append_assoc, List.singleton_append]
    simp [splitHost, rest]

/-- A port is read back from its digits. -/
theorem readPort_digits {port : Option Nat}
    (small : ∀ number, port = some number → number < 65536) :
    readPort (port.map (Nat.toDigits 10)) = some port := by
  cases port with
  | none => rfl
  | some number =>
      have digits : (Nat.toDigits 10 number).all Char.isDigit = true :=
        List.all_eq_true.mpr fun _ member =>
          Nat.isDigit_of_mem_toDigits (by decide) (by decide) member
      have nonempty : (Nat.toDigits 10 number).isEmpty = false := by
        simp
      simp [readPort, digits, nonempty, small number rfl]

/-! ### The whole text -/

/-- The beginning of a text that has been written out. -/
def start : List Char :=
  ['h', 't', 't', 'p', 's', ':', '/', '/']

theorem isVisible_start :
    ∀ character ∈ start, isVisible character = true :=
  List.all_eq_true.mp rfl

theorem not_isTabOrNewline {character : Char}
    (visible : isVisible character = true) :
    isTabOrNewline character = false := by
  rw [isVisible, decide_eq_true_iff] at visible
  simp only [isTabOrNewline, Bool.or_eq_false_iff, beq_eq_false_iff_ne]
  refine ⟨⟨?_, ?_⟩, ?_⟩ <;> rintro rfl <;> exact absurd visible (by decide)

theorem filter_not_isTabOrNewline
    (visible : ∀ character ∈ text, isVisible character = true) :
    text.filter (!isTabOrNewline ·) = text :=
  List.filter_eq_self.mpr fun character member => by
    rw [not_isTabOrNewline (visible character member)]
    rfl

/-- A text of visible characters is read as it is. -/
theorem clean_eq_self
    (visible : ∀ character ∈ text, isVisible character = true) :
    clean text = text := by
  have seen {character : Char} (member : character ∈ text) :
      ¬isControlOrSpace character = true := by
    have bounds := visible character member
    rw [isVisible, decide_eq_true_iff] at bounds
    rw [isControlOrSpace, decide_eq_true_iff]
    omega
  rw [clean, List.dropWhile_eq_self_iff.mpr, List.rdropWhile_eq_self_iff.mpr]
  · exact filter_not_isTabOrNewline visible
  · exact fun nonempty => seen (List.getLast_mem nonempty)
  · exact fun nonempty => seen (List.getElem_mem nonempty)

/-- What comes after the slashes of a text of visible characters that begins
with the scheme. -/
theorem afterScheme_start {first : Char} {rest : List Char}
    (noSlash : isSlash first = false)
    (visible : ∀ character ∈ first :: rest, isVisible character = true) :
    afterScheme (start ++ first :: rest) = some (first :: rest) := by
  have all : ∀ character ∈ start ++ first :: rest,
      isVisible character = true := by
    intro character member
    exact (List.mem_append.mp member).elim (isVisible_start character)
      (visible character)
  rw [afterScheme, clean_eq_self all]
  have scheme : readScheme (start ++ first :: rest) =
      some (['h', 't', 't', 'p', 's'], '/' :: '/' :: first :: rest) := by
    rfl
  rw [scheme, Option.bind_some]
  simp [isSlash] at noSlash ⊢
  simp [noSlash]

/-- What may come after the part with the host of a text: nothing, or a path. -/
def PathText (text : List Char) : Prop :=
  (text = [] ∨ ∃ rest, text = '/' :: rest) ∧
    ∀ character ∈ text, isVisible character = true ∧
      character ≠ '?' ∧ character ≠ '#'

theorem authority_cons (writable : Writable url) :
    ∃ first others, url.authority = first :: others := by
  cases same : url.authority with
  | cons first others => exact ⟨first, others, rfl⟩
  | nil =>
      have none := (List.append_eq_nil_iff.mp
        (List.append_eq_nil_iff.mp same).2).1
      exact absurd none (writable.nonempty)

theorem not_endsAuthority (writable : Writable url) :
    ∀ character ∈ url.authority, (!endsAuthority character) = true := by
  intro character member
  have plain := isAuthorityChar_of_mem_authority writable member
  rw [isAuthorityChar, Bool.and_eq_true] at plain
  exact plain.2

/-- What comes after the scheme of an address that is written out. -/
theorem afterScheme_written (writable : Writable url) (path : PathText text) :
    afterScheme (start ++ (url.authority ++ text)) =
      some (url.authority ++ text) := by
  obtain ⟨first, others, same⟩ := authority_cons writable
  have ends := not_endsAuthority writable first
    (same ▸ List.mem_cons_self)
  have noSlash : isSlash first = false := by
    simp only [endsAuthority, Bool.not_eq_true', Bool.or_eq_false_iff] at ends
    exact ends.1.1
  have visible : ∀ character ∈ url.authority ++ text,
      isVisible character = true := by
    intro character member
    rcases List.mem_append.mp member with member | member
    · have plain := isAuthorityChar_of_mem_authority writable member
      rw [isAuthorityChar, Bool.and_eq_true] at plain
      exact plain.1
    · exact (path.2 character member).1
  rw [same, List.cons_append] at visible ⊢
  exact afterScheme_start noSlash visible

/-- The authority is read back from the written address. -/
theorem authorityOf_written (writable : Writable url) (path : PathText text) :
    authorityOf (url.authority ++ text) = url.authority ∧
      (url.authority ++ text).dropWhile (!endsAuthority ·) = text := by
  have plain := not_endsAuthority writable
  rw [authorityOf, List.takeWhile_append_of_pos plain,
    List.dropWhile_append_of_pos plain]
  rcases path.1 with same | ⟨rest, same⟩
  · rw [same]
    exact ⟨List.append_nil _, rfl⟩
  · rw [same, List.takeWhile_cons_of_neg (by decide),
      List.dropWhile_cons_of_neg (by decide)]
    exact ⟨List.append_nil _, rfl⟩

theorem hostPart_written (writable : Writable url) (path : PathText text) :
    hostPart (url.authority ++ text) =
      (url.host, url.port.map (Nat.toDigits 10)) := by
  rw [hostPart, (authorityOf_written writable path).1,
    hostAndPort_authority writable]
  exact splitHost_append (writable.shape) _

/-- The port that is named by an address that is written out is its port. -/
theorem portNamed_written (writable : Writable url) (path : PathText text) :
    portNamed (start ++ (url.authority ++ text)) = url.port := by
  rw [portNamed, afterScheme_written writable path, Option.bind_some,
    hostPart_written writable path,
    readPort_digits writable.port]
  rfl

/-- An address that is written out is read as its parts are read. -/
theorem parse_written {hosts : List Char → Option (List Char)}
    (writable : Writable url) (path : PathText text) {host : List Char}
    (read : hosts url.host = some host) :
    parse hosts (start ++ (url.authority ++ text)) =
      some
        { url with
          host := host
          port := url.port.bind keptPort
          path := readPath text
          query := none
          fragment := none } := by
  have credentials := credentials_authority writable
  have whole : text.takeWhile
      (fun character => character != '?' && character != '#') = text := by
    rw [List.takeWhile_eq_self_iff]
    intro character member
    have plain := path.2 character member
    simp [plain.2.1, plain.2.2]
  rw [parse, afterScheme_written writable path, Option.bind_some,
    hostPart_written writable path, if_neg writable.nonempty, read,
    Option.bind_some, readPort_digits writable.port,
    (authorityOf_written writable path).1,
    (authorityOf_written writable path).2]
  simp only [Option.map_some, whole, credentials.1, credentials.2,
    List.drop_length]
  rfl

/-- The port that an address has is the one that is named. -/
theorem port_parse {hosts : List Char → Option (List Char)}
    (parsed : parse hosts text = some url) :
    url.port = (portNamed text).bind keptPort := by
  simp only [parse, Option.bind_eq_some_iff] at parsed
  obtain ⟨rest, after, parsed⟩ := parsed
  split at parsed
  · cases parsed
  simp only [Option.bind_eq_some_iff, Option.map_eq_some_iff] at parsed
  obtain ⟨host, -, named, port, same⟩ := parsed
  rw [← same, portNamed, after, Option.bind_some, port]
  rfl

theorem Settled.keptPort_bind {hosts : List Char → Option (List Char)}
    (settled : Settled hosts url) : url.port.bind keptPort = url.port := by
  cases same : url.port with
  | none => rfl
  | some port =>
      rw [Option.bind_some, keptPort, if_neg (settled.port port same).1]

/-- A path that is written out, or its beginning, may come after the part with
the host. -/
theorem pathText_of_prefix {path : List (List Char)} (settled : SettledPath path)
    (begins : text <+: pathname path) : PathText text := by
  constructor
  · rcases text with _ | ⟨first, rest⟩
    · exact Or.inl rfl
    · obtain ⟨segment, segments, rfl⟩ := List.exists_cons_of_ne_nil settled.1
      obtain ⟨same, -⟩ := List.cons_prefix_cons.mp begins
      exact Or.inr ⟨rest, same ▸ rfl⟩
  · intro character member
    obtain ⟨segment, present, member⟩ :=
      List.mem_flatMap.mp (begins.subset member)
    rcases List.mem_cons.mp member with same | member
    · rw [same]
      decide
    · have plain := ((settled.2 segment present).1 character member).1
      simp only [pathSet, Bool.or_eq_false_iff, beq_eq_false_iff_ne,
        Bool.not_eq_false'] at plain
      simp [plain]

end Authority

end Url
end WhatsGoingOn
