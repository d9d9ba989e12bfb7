import YamlDialects.Assist.Hover
import YamlDialects.Assist.Proposal
import YamlDialects.Server.Message
import YamlDialects.Server.Wire
import YamlDialects.Server.Workspace

set_option autoImplicit false

namespace YamlDialects.Wire

/-- The rank of an item in five digits, so that a client which sorts texts keeps the order. -/
def rankText (rank : Nat) : String :=
  let digits := Nat.toDigits 10 rank
  String.ofList (List.replicate (5 - digits.length) '0' ++ digits)

def isArrow (c : Char) : Bool :=
  c = '→' || c = '←' || c = ' '

def filterText (text : String) (proposal : Proposal) : String :=
  String.ofList
    ((proposal.replaced.text text).toList.takeWhile Text.isBlank ++ proposal.label.toList.dropWhile isArrow)

def kindNumber : ProposalKind → Nat
  | .property => 10
  | .value => 12

/-- A deprecated item carries tag 1; the inserted text is a snippet, which has format 2. -/
def completionItem (text : String) (rank : Nat) (proposal : Proposal) : Json :=
  .record [
    ("label", some (.string proposal.label)),
    ("kind", some (.nat (kindNumber proposal.kind))),
    ("detail", some (.string proposal.detail)),
    ("documentation", proposal.documentation.map fun document => markup document.render),
    ("tags", if proposal.deprecated then some (.array [.int 1]) else none),
    ("sortText", some (.string (rankText rank))),
    ("filterText", some (.string (filterText text proposal))),
    ("insertTextFormat", some (.int 2)),
    ("textEdit", some (edit (regionRange text proposal.replaced) proposal.insertion))]

def hover (text : String) (found : Hover) : Json :=
  .object [("contents", markup found.markdown), ("range", regionRange text found.region)]

def quickFix? (address : Address) (diagnostic : Json) : Option Json := do
  let replacement ← replacement? diagnostic
  let range ← diagnostic.get? "range"
  return .object [
    ("title", .string ("Replace with '" ++ replacement ++ "'")),
    ("kind", .string "quickfix"),
    ("diagnostics", .array [diagnostic]),
    ("edit", .object [("changes", .object [(address.render, .array [edit range replacement])])]),
    ("isPreferred", .bool true)]

def publication (value : Publication) : Json :=
  .object [
    ("method", .string "textDocument/publishDiagnostics"),
    ("params", .record [
      ("uri", some (.string value.address.render)),
      ("diagnostics", some (.array (value.diagnostics.map diagnostic))),
      ("version", value.version.map .int)])]

end YamlDialects.Wire

namespace YamlDialects

inductive Lifecycle where
  | starting
  | serving
  | ended
  | left
deriving DecidableEq, Inhabited

inductive Refusal where
  | notInitialized
  | invalidRequest
  | unknownMethod
  | invalidParameters
deriving DecidableEq

def Refusal.code : Refusal → Int
  | .notInitialized => -32002
  | .invalidRequest => -32600
  | .unknownMethod => -32601
  | .invalidParameters => -32602

def Refusal.message : Refusal → String
  | .notInitialized => "Server not initialized"
  | .invalidRequest => "Invalid request"
  | .unknownMethod => "Method not found"
  | .invalidParameters => "Invalid params"

structure Session where
  lifecycle : Lifecycle := .starting
  workspace : Workspace

structure Outcome where
  response : Option (Except Refusal Json) := none
  publications : List Publication := []

def Outcome.reply? (outcome : Outcome) (message : Message) : Option Json :=
  outcome.response.map fun response =>
    .object [
      ("jsonrpc", .string "2.0"),
      ("id", message.identifier.getD .null),
      match response with
      | .ok result => ("result", result)
      | .error reason =>
          ("error", .object [("code", .int reason.code), ("message", .string reason.message)])]

namespace Session

def initial (files : Files) : Session :=
  { workspace := .ofSettings files {} }

def capabilities : Json :=
  .object [
    ("capabilities", .object [
      ("textDocumentSync", .int 1),
      ("completionProvider", .object [("triggerCharacters", .strings [":", "-"])]),
      ("hoverProvider", .bool true),
      ("codeActionProvider", .bool true)]),
    ("serverInfo", .object [("name", .string Diagnostic.source), ("version", .string "0.1.0")])]

def opened? (workspace : Workspace) (address : Address) : Option (String × Assistant) := do
  return ((← workspace.document? address).text, ← workspace.assistant? address)

def listed : List Json → Json
  | [] => .null
  | items => .array items

def offset (text : String) (position : Position) : Nat :=
  (LineIndex.ofText text).offsetOf text position

def ask (surroundings : Surroundings) (workspace : Workspace) (address : Address) (position : Position)
    (answer : Assistant → Option PropertyIndex → String → Nat → Json) : Json × Workspace :=
  match opened? workspace address with
  | none => (.null, workspace)
  | some (text, assistant) =>
      let (index, workspace) := (workspace.ensureIndex surroundings).snapshot surroundings.now
      (answer assistant index text (offset text position), workspace)

def completion (assistant : Assistant) (index : Option PropertyIndex) (text : String) (offset : Nat) : Json :=
  listed ((assistant.complete index text offset).zipIdx.map fun (proposal, rank) =>
    Wire.completionItem text rank proposal)

def hover (read : Yaml.TextReader) (assistant : Assistant) (index : Option PropertyIndex) (text : String)
    (offset : Nat) : Json :=
  .ofOption (Wire.hover text) (assistant.hover? index text offset read)

def answer (surroundings : Surroundings) (session : Session) : ClientRequest → Json × Session
  | .start options => (capabilities, ⟨.serving, .ofSettings surroundings.files (Settings.ofJson options)⟩)
  | .shutdown => (.null, session)
  | .completion address position =>
      let (result, workspace) := ask surroundings session.workspace address position completion
      (result, { session with workspace })
  | .hover address position =>
      let (result, workspace) := ask surroundings session.workspace address position (hover surroundings.read)
      (result, { session with workspace })
  | .quickFixes address diagnostics => (listed (diagnostics.filterMap (Wire.quickFix? address)), session)

def handler (workspace : Workspace) : ClientNotice → Handler
  | .initialized => []
  | .opened address text version => .opened address text version
  | .changed address texts version =>
      match texts.getLast? with
      | some text => .changed address text version
      | none => []
  | .saved address => if workspace.index.any fun index => address.names index.file then .saved else []
  | .closed address => .closed address

/-- Why the session cannot take a message of the protocol now. Only `initialize` may come first, and it may
come only once. -/
def refusal? (session : Session) (method : String) : Option Refusal :=
  match session.lifecycle with
  | .starting => if method = "initialize" then none else some .notInitialized
  | .serving => if method = "initialize" then some .invalidRequest else none
  | _ => some .invalidRequest

/-- A request to shut down ends the session even if its parameters are wrong. -/
def ending (session : Session) (method : String) : Session :=
  if method = "shutdown" then { session with lifecycle := .ended } else session

def accept (surroundings : Surroundings) (session : Session) (message : Message) : Topic → Outcome × Session
  | .request read? =>
      let session := session.ending message.method
      if message.identified then
        match read? message.parameters with
        | some request =>
            let (result, session) := session.answer surroundings request
            ({ response := some (.ok result) }, session)
        | none => ({ response := some (.error .invalidParameters) }, session)
      else ({}, session)
  | .notice read? =>
      if message.identified then ({ response := some (.error .invalidRequest) }, session)
      else
        match read? message.parameters with
        | some notice =>
            let (publications, workspace) :=
              session.workspace.run surroundings (handler session.workspace notice)
            ({ publications }, { session with workspace })
        | none => ({}, session)
  | .unsupported shape =>
      if message.identified then
        let isRead := (Topic.shaped? shape message.parameters).isSome
        ({ response := some (.error (if isRead then .unknownMethod else .invalidParameters)) }, session)
      else ({}, session)
  | .unheeded =>
      ({ response := if message.identified then some (.error .invalidRequest) else none }, session)
  | .cancellation =>
      ({ response := if message.identified then some (.error .invalidRequest) else none }, session)
  | .unknown isSilent =>
      ({ response := if message.identified && !isSilent then some (.error .unknownMethod) else none }, session)

def acceptNow (surroundings : Surroundings) (session : Session) (message : Message) : Outcome × Session :=
  match Topic.of message.method, session.refusal? message.method with
  | .unknown isSilent, _ => session.accept surroundings message (.unknown isSilent)
  | .cancellation, _ => session.accept surroundings message .cancellation
  | _, some reason => ({ response := if message.identified then some (.error reason) else none }, session)
  | topic, none => session.accept surroundings message topic

def receive (surroundings : Surroundings) (session : Session) (message : Message) : Outcome × Session :=
  let session := { session with workspace := session.workspace.evict surroundings.now }
  if session.lifecycle = .left then ({}, session)
  else if message.isLast then ({}, { session with lifecycle := .left })
  else session.acceptNow surroundings message

def filesNeeded (session : Session) (message : Message) : List String :=
  if message.method = "initialize" then
    let settings := match Topic.start? message.parameters with
      | some (.start options) => Settings.ofJson options
      | _ => {}
    settings.dialectFiles ++ settings.propertyMetadata.toList
  else (session.workspace.index.map (·.file)).toList

end Session
end YamlDialects
