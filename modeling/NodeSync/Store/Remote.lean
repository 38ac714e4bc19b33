/-
Module: NodeSync.Store.Remote
Purpose: A store behind an API server. Every call is at most one HTTP request: lists and single
  objects are read with GET, and an update puts the whole object in the place of the old one. Here
  stands what is sent for a call and what an answer means; the exchange itself is left to a client.
Main exports: Remote.Message, Remote.Response, Request.message, Request.readResponse,
  Request.exchange
-/
import NodeSync.Http.Status
import NodeSync.Http.Target
import NodeSync.Json.Reader
import NodeSync.Json.Transfer
import NodeSync.Store.Request

namespace NodeSync

open Json

set_option autoImplicit false

namespace Remote

/-- A message to the API server: without an object it asks for something, with an object it puts
the object there. -/
structure Message where
  target : Http.Target
  object : Option Json
deriving Inhabited

/-- The object as the server reads it. -/
def Message.received (message : Message) : Option Json := message.object.map Json.transferred

/-- The content of an answer: a JSON value, or a text that need not be one. -/
inductive Body where
  | json (value : Json)
  | text (content : String)
deriving Inhabited

namespace Body

/-- What the content says, if it is JSON. -/
def document? : Body → Option Document
  | .json value => some (.ofJson value.transferred)
  | .text content => Document.read? content

/-- The content as it is sent. -/
def print : Body → String
  | .json value => value.print
  | .text content => content

end Body

/-- What comes of a message. -/
inductive Response where
  | answer (status : Http.Status) (body : Body)
  /-- The connection failed. -/
  | noAnswer

/-- The path of all machines or all machine sets of a namespace. -/
def machineCollection (ns plural : String) : String :=
  "/apis/" ++ machineApiVersion ++ "/namespaces/" ++ ns ++ "/" ++ plural

/-- The path of all nodes. -/
def nodeCollection : String := "/api/v1/nodes"

/-- The target of an object, or the failure that there is none for its name. -/
def objectTarget (collection name parameters : String) : Except ApiFailure Http.Target :=
  if name = "" then .error .unaddressable
  else
    match Http.Target.read? (collection ++ "/" ++ name ++ parameters) with
    | some target => .ok target
    | none => .error .unaddressable

/-- The target of a collection. -/
def collectionTarget (collection : String) : Except ApiFailure Http.Target :=
  match Http.Target.read? (collection ++ "?") with
  | some target => .ok target
  | none => .error .unaddressable

/-- The message that asks for an object. -/
def get (collection name : String) : Except ApiFailure Message :=
  (objectTarget collection name "").map (⟨·, none⟩)

/-- The message that asks for all objects of a collection. -/
def list (collection : String) : Except ApiFailure Message :=
  (collectionTarget collection).map (⟨·, none⟩)

/-- The message that replaces an object. -/
def put (collection name : String) (object : Json) : Except ApiFailure Message :=
  (objectTarget collection name "?").map (⟨·, some object⟩)

/-- The name of an object that is to be written. -/
def requiredName (kind : String) (metadata : ObjectMeta) : Except StoreError String :=
  match metadata.name with
  | some name => .ok name
  | none => .error (.invalidObject (kind ++ " missing metadata.name"))

/-- Reads the answer by which the server refuses a request. -/
def status? : Decoder ApiStatus := fun value => do
  let fields ← record? ["status", "message", "reason", "code"] 4 value
  some {
    status := ← Fields.required? fields "status" text?
    message := ← Fields.defaulted? fields "message" "" text?
    reason := ← Fields.defaulted? fields "reason" "" text?
    code := ← Fields.required? fields "code" (natural? 65535) }

/-- The refusal that an answer stands for. If its content is no refusal, the status code and the
content as it is make one. -/
def refusal (status : Http.Status) (body : Body) : ApiStatus :=
  match body.document?.bind status? with
  | some answer => answer
  | none => {
      status := status.text
      message := Text.quoted body.print
      reason := "Failed to parse error data"
      code := status.code }

/-- Reads the metadata of a list, of which nothing is kept. -/
def listMeta? : Decoder Unit := fun value => do
  let fields ← object? value
  let _ ← Fields.optional? fields "continue" text?
  let _ ← Fields.optional? fields "resourceVersion" text?
  let _ ← Fields.optional? fields "selfLink" text?
  let _ ← Fields.optional? fields "remainingItemCount" int64?
  some ()

/-- Reads the items of a list; null stands for none. Other fields may say anything that has a
value. -/
def items? {α : Type} (item : Decoder α) : Decoder (List α) := fun value => do
  let fields ← extensible? ["metadata", "items"] value
  let () ← Fields.defaulted? fields "metadata" () listMeta?
  let items ← Fields.required? fields "items" (nullable? (list? item))
  let _ ← Fields.others? fields ["metadata", "items"]
  some (items.getD [])

end Remote

open Remote

namespace Request

/-- The message of a call. An object without a name is refused before anything is sent. -/
def message (request : Request) : Except StoreError Message :=
  let addressed (message : Except ApiFailure Message) : Except StoreError Message :=
    message.mapError fun failure => StoreError.ofApi failure request.subject
  match request with
  | .getMachineSet ns name => addressed (get (machineCollection ns "machinesets") name)
  | .listMachineSets ns => addressed (list (machineCollection ns "machinesets"))
  | .listMachines ns => addressed (list (machineCollection ns "machines"))
  | .updateMachine machine => do
      let name ← requiredName Machine.kind machine.metadata
      let ns := machine.metadata.ns.getD defaultNamespace
      addressed (put (machineCollection ns "machines") name machine.toJson)
  | .getNode name => addressed (get nodeCollection name)
  | .updateNode node => do
      let name ← requiredName Node.kind node.metadata
      addressed (put nodeCollection name node.toJson)

/-- Reads what a call gives when it succeeds. -/
def answer? : (request : Request) → Document → Option request.Answer
  | .getMachineSet .., value => MachineSet.decode? value
  | .listMachineSets _, value => items? MachineSet.decode? value
  | .listMachines _, value => items? Machine.decode? value
  | .updateMachine _, value => Machine.decode? value
  | .getNode _, value => Node.decode? value
  | .updateNode _, value => Node.decode? value

/-- The outcome of a call from what came of its message. -/
def readResponse (request : Request) (response : Response) : request.Reply :=
  let fail (failure : ApiFailure) : request.Reply := .error (.ofApi failure request.subject)
  match response with
  | .noAnswer => fail .unreachable
  | .answer status body =>
      if status.isFailure then fail (.refused (refusal status body))
      else
        match body.document?.bind request.answer? with
        | some answer => .ok answer
        | none => fail .unreadable

/-- Carries out a call against a server that answers messages: the messages that were sent, and
the outcome. -/
def exchange (server : Message → Response) (request : Request) : List Message × request.Reply :=
  match request.message with
  | .error error => ([], .error error)
  | .ok message => ([message], request.readResponse (server message))

end Request

end NodeSync
