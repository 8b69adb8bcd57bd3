import WhatsGoingOn.Library.Text

/-!
# Metadata in terminal output

A program tells its terminal of its title and its working directory in operating
system commands, which are strings inside its output.  The parser keeps its
state from one chunk of output to the next.
-/

namespace WhatsGoingOn
namespace Host

open Bytes Text

/-- `MAX_OSC_METADATA_BYTES`. -/
def maxOscMetadataBytes : Nat := 4096

/-- What a program may tell of its terminal. -/
inductive TerminalMetadata where
  | title (title : String)
  | cwd (cwd : String)
  deriving DecidableEq, Repr

/-- Where the parser is in a control string. -/
inductive TerminalMetadataParserState where
  | normal
  | escape
  | osc (buffer : List UInt8) (escape : Bool)
  deriving DecidableEq, Repr

/-- The parser keeps the string that it is in between pieces of output. -/
structure TerminalMetadataParser where
  state : TerminalMetadataParserState
  deriving DecidableEq, Repr

/-! ## The content of a command -/

/-- The text without blanks at its ends, if anything is left. -/
def nonEmptyString (text : String) : Option String :=
  let text := trim text
  if text.isEmpty then none else some text

/-- The value of a hexadecimal digit in either case. -/
def hexValue (byte : UInt8) : Option UInt8 :=
  if 48 ≤ byte ∧ byte ≤ 57 then some (byte - 48)
  else if 97 ≤ byte ∧ byte ≤ 102 then some (byte - 97 + 10)
  else if 65 ≤ byte ∧ byte ≤ 70 then some (byte - 65 + 10)
  else none

/-- The byte of two hexadecimal digits. -/
def hexByte (high low : UInt8) : Option UInt8 :=
  (hexValue high).bind fun high =>
    (hexValue low).map fun low => (high <<< 4) ||| low

/-- The bytes of a text whose backslashes and bytes `\xHH` are escaped. -/
def unescapeOsc633Bytes : List UInt8 → List UInt8
  | [] => []
  | 92 :: 92 :: rest => 92 :: unescapeOsc633Bytes rest
  | 92 :: 120 :: high :: low :: rest =>
      match hexByte high low with
      | some byte => byte :: unescapeOsc633Bytes rest
      | none => 92 :: unescapeOsc633Bytes (120 :: high :: low :: rest)
  | byte :: rest => byte :: unescapeOsc633Bytes rest

/-- The text with its escapes resolved. -/
def unescapeOsc633Value (text : String) : String :=
  fromUtf8Lossy (unescapeOsc633Bytes (utf8 text))

/-- A percent sign without two digits after it stands for itself. -/
def percentDecodeBytes : List UInt8 → List UInt8
  | [] => []
  | 37 :: high :: low :: rest =>
      match hexByte high low with
      | some byte => byte :: percentDecodeBytes rest
      | none => 37 :: percentDecodeBytes (high :: low :: rest)
  | byte :: rest => byte :: percentDecodeBytes rest

/-- The text with its percent signs resolved. -/
def percentDecode (text : String) : String :=
  fromUtf8Lossy (percentDecodeBytes (utf8 text))

/-- On Windows a path like `/C:/...` loses its first slash, and its other
slashes turn. -/
def normalizeFileUrlPath (windows : Bool) (path : String) : Option String :=
  if path.isEmpty then none
  else
    let bytes := utf8 path
    if windows && bytes[0]? == some 47 && bytes[2]? == some 58 then
      some (String.ofList ((path.toList.drop 1).map fun character =>
        if character = '/' then '\\' else character))
    else nonEmptyString path

/-- The path of a file address, or the payload as it is. -/
def parseOsc7Cwd (windows : Bool) (payload : String) : Option String :=
  let payload := trim payload
  match stripStart "file://" payload with
  | none => nonEmptyString payload
  | some rest =>
      let path := rest.toList.dropWhile fun character => character ≠ '/'
      if path.isEmpty then none
      else normalizeFileUrlPath windows (percentDecode (String.ofList path))

/-- The value of the property Cwd. -/
def parseOsc633Metadata (payload : String) : Option TerminalMetadata :=
  (splitOnce ';' payload).bind fun (kind, rest) =>
    if kind ≠ "P" then none
    else
      (splitOnce '=' rest).bind fun (name, value) =>
        if name = "Cwd" then
          (nonEmptyString (unescapeOsc633Value value)).map .cwd
        else none

/-- The text without blanks and then without quotes at its ends. -/
def stripWrappingQuotes (text : String) : String :=
  trimMatches (fun character => character = '"') (trim text)

/-- What a string tells, by its number. -/
def parseOscMetadata (windows : Bool) (text : String) :
    Option TerminalMetadata :=
  (splitOnce ';' text).bind fun (kind, payload) =>
    if kind = "0" ∨ kind = "2" then (nonEmptyString payload).map .title
    else if kind = "7" then (parseOsc7Cwd windows payload).map .cwd
    else if kind = "633" then parseOsc633Metadata payload
    else if kind = "9" then
      (splitOnce ';' payload).bind fun (subkind, cwd) =>
        if subkind = "9" then
          (nonEmptyString (stripWrappingQuotes cwd)).map .cwd
        else none
    else none

/-! ## The parser -/

namespace TerminalMetadataParser

/-- The parser is outside any string. -/
def new : TerminalMetadataParser := ⟨.normal⟩

/-- Bytes beyond the limit are dropped. -/
def pushOscByte (buffer : List UInt8) (byte : UInt8) : List UInt8 :=
  if buffer.length < maxOscMetadataBytes then buffer ++ [byte] else buffer

/-- The end of a command: it may tell something. -/
def finishOsc (windows : Bool) (buffer : List UInt8) :
    TerminalMetadataParserState × List TerminalMetadata :=
  (.normal, (parseOscMetadata windows (fromUtf8Lossy buffer)).toList)

/-- One byte of output. -/
def pushByte (windows : Bool) (byte : UInt8) :
    TerminalMetadataParserState →
      TerminalMetadataParserState × List TerminalMetadata
  | .normal => (if byte = 0x1b then .escape else .normal, [])
  | .escape =>
      (if byte = 93 then .osc [] false
        else if byte = 0x1b then .escape else .normal, [])
  | .osc buffer true =>
      if byte = 92 then finishOsc windows buffer
      else (.osc (pushOscByte (pushOscByte buffer 0x1b) byte) false, [])
  | .osc buffer false =>
      if byte = 0x07 then finishOsc windows buffer
      else if byte = 0x1b then (.osc buffer true, [])
      else if buffer.length < maxOscMetadataBytes then
        (.osc (buffer ++ [byte]) false, [])
      else (.normal, [])

/-- One chunk of output. -/
def push (windows : Bool) (parser : TerminalMetadataParser)
    (bytes : List UInt8) : TerminalMetadataParser × List TerminalMetadata :=
  let pushed := bytes.foldl
    (fun (state, events) byte =>
      let (next, found) := pushByte windows byte state
      (next, events ++ found))
    (parser.state, [])
  (⟨pushed.1⟩, pushed.2)

example :
    (push false new (utf8 "\x1b]0; zsh \x07\x1b]7;file://host/a%20b\x1b\\")).2 =
      [.title "zsh", .cwd "/a b"] := by
  decide +kernel

end TerminalMetadataParser

end Host
end WhatsGoingOn
