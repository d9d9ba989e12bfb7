import YamlDialects.Server.Parameters.Capabilities
import YamlDialects.Server.Parameters.Requests
import YamlDialects.Server.Wire

set_option autoImplicit false

namespace YamlDialects

structure Message where
  method : String
  identifier : Option Json
  parameters : Option Json

namespace Message

def ofJson? (value : Json) : Option Message := do
  return ⟨← (← value.get? "method").string?, value.get? "id", value.get? "params"⟩

def identified (message : Message) : Bool :=
  message.identifier.isSome

def isLast (message : Message) : Bool :=
  message.method = "exit"

end Message

inductive ClientRequest where
  | start (options : Option Json)
  | shutdown
  | completion (address : Address) (position : Position)
  | hover (address : Address) (position : Position)
  | quickFixes (address : Address) (diagnostics : List Json)

inductive ClientNotice where
  | initialized
  | opened (address : Address) (text : String) (version : Int)
  | changed (address : Address) (texts : List String) (version : Int)
  | saved (address : Address)
  | closed (address : Address)

inductive Topic where
  | request (read? : Option Json → Option ClientRequest)
  | notice (read? : Option Json → Option ClientNotice)
  | unsupported (shape : Wire.Shape)
  | unheeded
  | cancellation
  | unknown (isSilent : Bool)

namespace Topic

def shaped? (shape : Wire.Shape) (parameters : Option Json) : Option Json := do
  shape.normal? (← parameters)

def document? (parameters : Json) : Option Address := do
  Wire.address? (← parameters.path? ["textDocument", "uri"])

def start? (parameters : Option Json) : Option ClientRequest := do
  return .start ((← shaped? .start parameters).get? "initializationOptions")

def shutdown? : Option Json → Option ClientRequest
  | none => some .shutdown
  | some _ => none

def place? (shape : Wire.Shape) (parameters : Option Json) : Option (Address × Position) := do
  let parameters ← shaped? shape parameters
  return (← document? parameters, ← Wire.position? (← parameters.get? "position"))

def quickFixes? (parameters : Option Json) : Option ClientRequest := do
  let parameters ← shaped? .codeAction parameters
  return .quickFixes (← document? parameters) (← (← parameters.path? ["context", "diagnostics"]).array?)

def initialized? (parameters : Option Json) : Option ClientNotice :=
  parameters.map fun _ => .initialized

def opened? (parameters : Option Json) : Option ClientNotice := do
  let parameters ← shaped? .opened parameters
  return .opened (← document? parameters) (← (← parameters.path? ["textDocument", "text"]).string?)
    (← (← parameters.path? ["textDocument", "version"]).int?)

def changed? (parameters : Option Json) : Option ClientNotice := do
  let parameters ← shaped? .changed parameters
  let changes ← (← parameters.get? "contentChanges").array?
  return .changed (← document? parameters) (← changes.mapM fun change => do (← change.get? "text").string?)
    (← (← parameters.path? ["textDocument", "version"]).int?)

def saved? (parameters : Option Json) : Option ClientNotice := do
  return .saved (← document? (← shaped? .saved parameters))

def closed? (parameters : Option Json) : Option ClientNotice := do
  return .closed (← document? (← shaped? .closed parameters))

def unheededMethods : List String :=
  ["textDocument/willSave", "workspace/didChangeConfiguration", "workspace/didChangeWatchedFiles",
    "workspace/didChangeWorkspaceFolders", "workspace/didCreateFiles", "workspace/didDeleteFiles",
    "workspace/didRenameFiles"]

def of (method : String) : Topic :=
  match method with
  | "initialize" => .request start?
  | "shutdown" => .request shutdown?
  | "textDocument/completion" =>
      .request fun parameters =>
        (place? .completion parameters).map fun (address, position) => .completion address position
  | "textDocument/hover" =>
      .request fun parameters =>
        (place? .hover parameters).map fun (address, position) => .hover address position
  | "textDocument/codeAction" => .request quickFixes?
  | "initialized" => .notice initialized?
  | "textDocument/didOpen" => .notice opened?
  | "textDocument/didChange" => .notice changed?
  | "textDocument/didSave" => .notice saved?
  | "textDocument/didClose" => .notice closed?
  | "$/cancelRequest" => .cancellation
  | method =>
      match Wire.Shape.unsupported.lookup method with
      | some shape => .unsupported shape
      | none => if unheededMethods.contains method then .unheeded else .unknown ("$/".isPrefixOf method)

end Topic
end YamlDialects
