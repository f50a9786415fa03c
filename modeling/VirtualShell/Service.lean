import VirtualShell.Json
import VirtualShell.Shell
import VirtualShell.Text.Case

/-!
Contract: a shell that programs talk to.

Owns:
- `Request` and `Response`, and `Service.respond`.
- the three places: one runs a line, one shows the state of the shell in numbers, and
  one shows its journal, from a level upwards if the request names one.

What a client may do at a place depends on the place; each place also tells what one may
do, and a place that can be read can be asked for its head.
-/

namespace VirtualShell

/-- What a client asks: what to do, at which place, and what was sent with it. The target
is the path of the place and may have a question mark and parameters behind it. -/
structure Request where
  method : String
  target : String
  contentType : String
  body : String
deriving DecidableEq, Repr

/-- What a client is told. -/
inductive Report where
  | outcome (outcome : Outcome)
  | missingCommand
  | state (cwd : String) (variableCount functionCount : Nat)
  | journal (entries : List String)
deriving DecidableEq, Repr

/-- A status, and what the client is told. -/
structure Response where
  status : Nat
  report : Option Report
deriving DecidableEq, Repr

/-- The places. -/
inductive Endpoint where
  | exec
  | status
  | log
deriving DecidableEq, Repr

namespace Endpoint

/-- The path of a place. -/
def path : Endpoint → String
  | exec => "/api/exec"
  | status => "/api/status"
  | log => "/api/log"

/-- The place with a path. -/
def ofPath? (path : String) : Option Endpoint :=
  [exec, status, log].find? fun endpoint => endpoint.path == path

end Endpoint

namespace Service

/-- A text in upper case, letter by letter. -/
def upperText (text : String) : String :=
  String.ofList (text.toList.map Text.upperCase)

/-- A text in lower case, letter by letter. -/
def lowerText (text : String) : String :=
  String.ofList (text.toList.map Text.lowerCase)

/-- What a client does at a place. -/
inductive Deed where
  | act
  | read
  | peek
  | enquire
deriving DecidableEq, Repr

/-- What a method means at a place, if it is allowed there. -/
def deed? (endpoint : Endpoint) (method : String) : Option Deed :=
  match upperText method, endpoint with
  | "OPTIONS", _ => some .enquire
  | "POST", .exec => some .act
  | "GET", .status | "GET", .log => some .read
  | "HEAD", .status | "HEAD", .log => some .peek
  | _, _ => none

/-- The bytes that an encoded text stands for: a percent sign with two digits is a byte. -/
def decodedBytes : List Char → List UInt8
  | '%' :: high :: low :: rest =>
      match Text.hexValue? high, Text.hexValue? low with
      | some high, some low => UInt8.ofNat (high * 16 + low) :: decodedBytes rest
      | _, _ => (String.singleton '%').toUTF8.toList ++ decodedBytes (high :: low :: rest)
  | c :: rest => (String.singleton c).toUTF8.toList ++ decodedBytes rest
  | [] => []

/-- The text that an encoded text stands for, if its bytes are a text. -/
def decoded? (text : List Char) : Option String :=
  String.fromUTF8? ⟨(decodedBytes text).toArray⟩

/-- The path in a target, and the parameters behind it. -/
def cutTarget (target : String) : List Char × List Char :=
  let visible := target.toList.takeWhile (· != '#')
  match Text.cutAt '?' visible with
  | some (path, parameters) => (path, parameters)
  | none => (visible, [])

/-- A text in which a plus sign stands for a blank. -/
def withBlanks (text : List Char) : List Char :=
  text.map fun c => if c == '+' then ' ' else c

/-- The value of the first parameter with a name; a parameter whose value is no text counts
as one without a value. -/
def parameter? (name : String) (parameters : List Char) : Option String :=
  let found := (Text.piecesOf '&' parameters).find? fun piece =>
    !piece.isEmpty && decoded? (withBlanks (piece.takeWhile (· != '='))) == some name
  found.map fun piece =>
    ((Text.cutAt '=' piece).bind fun cut => decoded? (withBlanks cut.2)).getD ""

/-- Whether a kind of content is data. -/
def isJsonType (contentType : String) : Bool :=
  let bare := lowerText
    (Text.trim (String.ofList (contentType.toList.takeWhile (· != ';'))))
  bare == "application/json" ||
    Text.startsWith bare "application/" && Text.endsWith bare "+json"

/-- The line that a request asks the shell to run. -/
def requestedLine? (request : Request) : Option String :=
  if isJsonType request.contentType then
    ((Json.read request.body).bind (Json.field? "command")).bind Json.text?
  else none

/-- Runs the line of a request. A line that ends in a fault is an error of the service. -/
def runLine (shell : Shell) (request : Request) : Response × Shell :=
  match requestedLine? request with
  | none => (⟨400, some .missingCommand⟩, shell)
  | some line =>
      match shell.execute line with
      | (.ok outcome, after) => (⟨200, some (.outcome outcome)⟩, after)
      | (.error _, after) => (⟨500, none⟩, after)

/-- The state of a shell in numbers. -/
def stateReport (shell : Shell) : Report :=
  .state shell.session.cwd shell.session.environment.size shell.session.functions.size

/-- The level that parameters ask for; all events without one. -/
def requestedLevel (parameters : List Char) : Level :=
  (Level.ofName? (upperText ((parameter? "level" parameters).getD ""))).getD .debug

/-- The events from a level upwards. -/
def journalReport (shell : Shell) (level : Level) : Report :=
  .journal ((shell.session.journal.select (some level) none).map Entry.text)

/-- The response to a request that is allowed. -/
def serve (shell : Shell) (request : Request) (parameters : List Char) :
    Endpoint → Response × Shell
  | .exec => runLine shell request
  | .status => (⟨200, some (stateReport shell)⟩, shell)
  | .log => (⟨200, some (journalReport shell (requestedLevel parameters))⟩, shell)

/-- The response to a request, and the shell after it. -/
def respond (shell : Shell) (request : Request) : Response × Shell :=
  let (path, parameters) := cutTarget request.target
  match (decoded? path).bind Endpoint.ofPath? with
  | none => (⟨404, none⟩, shell)
  | some endpoint =>
      match deed? endpoint request.method with
      | none => (⟨405, none⟩, shell)
      | some .enquire | some .peek => (⟨200, none⟩, shell)
      | some .act | some .read => serve shell request parameters endpoint

end Service

end VirtualShell
