/-
Module: NodeSync.Proofs.Store.Agreement
Purpose: A store behind an API server agrees with a store in memory. If the server says what the
  store in memory gives, a call sends one message, with the whole object where it is an update, and
  has the outcome that it has on the store in memory. The objects have to be such as are read from
  JSON, and the answer such as outlasts being written and read.
Main exports: MemoryStore.WasRead, Request.answerJson, Remote.Conveys, Remote.Mirrors,
  Request.exchange_agrees, Remote.mirrors_mirror, Remote.Differs, exchange_disagrees
-/
import NodeSync.Proofs.Json.Reread
import NodeSync.Proofs.Resource.WasRead
import NodeSync.Proofs.Store.Messages
import NodeSync.Proofs.Store.Refusals

namespace NodeSync

open NodeSync.Json

set_option autoImplicit false

/-! ## Stored objects that were read -/

/-- An object that was read from JSON, with whole seconds. -/
def Item.WasRead : Item → Prop
  | .machineSet stored => stored.WasRead
  | .machine stored => stored.WasRead
  | .node stored => stored.WasRead

namespace MemoryStore

/-- All objects of a store were read. -/
def WasRead (store : MemoryStore) : Prop :=
  ∀ slot item, store.item? slot = some item → item.WasRead

section WasRead

variable {store after : MemoryStore}

theorem wasRead_empty : empty.WasRead := by
  intro slot item there
  cases slot <;> cases there

theorem WasRead.machineSet (wasRead : store.WasRead) {key : ObjectKey} {machineSet : MachineSet}
    (there : store.machineSets.get? key = some machineSet) : machineSet.WasRead :=
  wasRead (.machineSet key) (.machineSet machineSet) (congrArg (Option.map Item.machineSet) there)

theorem WasRead.machine (wasRead : store.WasRead) {key : ObjectKey} {machine : Machine}
    (there : store.machines.get? key = some machine) : machine.WasRead :=
  wasRead (.machine key) (.machine machine) (congrArg (Option.map Item.machine) there)

theorem WasRead.node (wasRead : store.WasRead) {name : String} {node : Node}
    (there : store.nodes.get? name = some node) : node.WasRead :=
  wasRead (.node name) (.node node) (congrArg (Option.map Item.node) there)

/-- It stays so when an object that was read is written. -/
theorem WasRead.wrote {slot : Slot} {item : Item} (wasRead : store.WasRead)
    (wrote : Wrote store after slot item) (read : item.WasRead) : after.WasRead := by
  intro other found there
  by_cases same : other = slot
  · subst same
    cases there.symm.trans wrote.stored
    exact read
  · exact wasRead other found ((wrote.others other same).symm.trans there)

theorem WasRead.addMachine (wasRead : store.WasRead) {machine : Machine}
    (read : machine.WasRead) : (store.addMachine machine).2.WasRead :=
  wasRead.wrote (.insertMachine rfl rfl rfl rfl rfl) (read.stamped _ _)

end WasRead

end MemoryStore

/-! ## Answers -/

namespace Remote

/-- A content that is the JSON of a value. -/
inductive Body.Carries (value : Json) : Body → Prop
  | json : Carries value (.json value)
  | text : Carries value (.text value.print)

/-- A value that lasts is read as it is, whether it is handed over or printed and read. -/
theorem Body.Carries.document?_eq {value : Json} {body : Body} (carries : body.Carries value)
    (lasting : value.IsLasting) : body.document? = some (.ofJson value) := by
  cases carries with
  | json => rw [document?, transferred_eq lasting.numbers]
  | text => exact lasting.read?_print

/-- The JSON of a list of machines or machine sets, which has a version of its own. -/
def listJson (version kind : String) (items : List Json) : Json :=
  ofFields [
    ("apiVersion", some (.string machineApiVersion)),
    ("items", some (.array items)),
    ("kind", some (.string (kind ++ "List"))),
    ("metadata", some (ofFields [("resourceVersion", some (.string version))]))]

end Remote

/-- The JSON of what a call gives. -/
def Request.answerJson (version : String) : (request : Request) → request.Answer → Json
  | .getMachineSet .., machineSet => MachineSet.toJson machineSet
  | .listMachineSets _, machineSets =>
      Remote.listJson version MachineSet.kind (List.map MachineSet.toJson machineSets)
  | .listMachines _, machines =>
      Remote.listJson version Machine.kind (List.map Machine.toJson machines)
  | .updateMachine _, machine => Machine.toJson machine
  | .getNode _, node => Node.toJson node
  | .updateNode _, node => Node.toJson node

namespace Remote

/-- What the server says of an update of an object that was changed since it was read. -/
def modified : String :=
  "the object has been modified; please apply your changes to the latest version and try again"

/-- The response of the server says the outcome of a call: what the call gives, or that there is no
such object, or that the object was changed. -/
inductive Conveys (version : String) {request : Request} : request.Reply → Response → Prop
  | success {answer : request.Answer} {status : Http.Status} {body : Body}
      (code : status.code = 200) (carries : body.Carries (request.answerJson version answer)) :
      Conveys version (.ok answer) (.answer status body)
  | notFound {what : String} {status : Http.Status} {body : Body} {refusal : ApiStatus}
      (code : status.code = 404) (refuses : body.document?.bind status? = some refusal)
      (same : refusal.code = 404) :
      Conveys version (.error (.notFound what)) (.answer status body)
  | conflict {what : String} {status : Http.Status} {body : Body} {refusal : ApiStatus}
      (code : status.code = 409) (refuses : body.document?.bind status? = some refusal)
      (same : refusal.code = 409) (message : refusal.message = modified) :
      Conveys version (.error (.conflict what)) (.answer status body)

/-- A call is made on a store in memory whose objects were read, and on a server that says what the
store gives. -/
structure Mirrors (server : Message → Response) (version : String) (store : MemoryStore)
    (request : Request) : Prop where
  undisturbed : ∀ operation, store.pendingFailures operation = 0
  stored : store.WasRead
  addressed : request.Addressed
  conveys : Conveys version (store.answer request).1 (server request.expected)

/-- The items of a list are read from its JSON if each of them is. -/
theorem items?_listJson {α : Type} {item : Decoder α} {toJson : α → Json} {values : List α}
    (again : ∀ value ∈ values, item (.ofJson (toJson value)) = some value)
    (version kind : String) :
    items? item (.ofJson (listJson version kind (values.map toJson))) = some values := by
  have accepted : list? item (.ofJson (.array (values.map toJson))) = some values := by
    rw [Document.ofJson, Document.ofItems_eq, list?, List.map_map, List.mapM_map]
    exact (mapM_eq_some_map id again).trans (by rw [List.map_id])
  simp only [items?, view_bind_eq_some_iff]
  refine exists_extensible?_ofFields (by simp) fun shown shows => ?_
  obtain ⟨others, found⟩ : ∃ others, shown.others? ["metadata", "items"] = some others := by
    refine Fields.exists_others? fun field inside unnamed => ?_
    obtain ⟨value, typed, printed⟩ := shows.exists_of_mem inside
    rw [printed]
    -- The fields that a list has besides its items and its metadata say texts.
    simp only [List.mem_cons, Prod.mk.injEq, Option.some.injEq, List.not_mem_nil, or_false,
      not_or] at typed unnamed
    rcases typed with ⟨-, rfl⟩ | ⟨named, -⟩ | ⟨-, rfl⟩ | ⟨named, -⟩
    · exact ⟨_, rfl⟩
    · exact absurd named unnamed.2
    · exact ⟨_, rfl⟩
    · exact absurd named unnamed.1
  refine ⟨(), ?_, some values, ?_, others, found, rfl⟩
  · rw [Fields.defaulted?, Fields.last?_of_printed (shows.field rfl)]
    rfl
  · have filled : Json.array (values.map toJson) ≠ .null := by simp
    rw [Fields.required?, Fields.last?_of_printed (shows.field rfl), nullable?_ofJson filled,
      accepted]
    rfl

end Remote

namespace Request

/-- The objects that a call gives were read from JSON. -/
def AnswerWasRead : (request : Request) → request.Answer → Prop
  | .getMachineSet .. => MachineSet.WasRead
  | .listMachineSets _ => fun machineSets : List MachineSet =>
      ∀ machineSet ∈ machineSets, machineSet.WasRead
  | .listMachines _ => fun machines : List Machine => ∀ machine ∈ machines, machine.WasRead
  | .updateMachine _ => Machine.WasRead
  | .getNode _ => Node.WasRead
  | .updateNode _ => Node.WasRead

/-- What a call gives is read from its JSON. -/
theorem AnswerWasRead.answer?_answerJson {request : Request} {answer : request.Answer}
    (wasRead : request.AnswerWasRead answer) (version : String) :
    request.answer? (.ofJson (request.answerJson version answer)) = some answer := by
  cases request with
  | getMachineSet ns name => exact MachineSet.WasRead.decode?_toJson wasRead
  | listMachineSets ns =>
      exact Remote.items?_listJson (fun machineSet listed =>
        (wasRead machineSet listed).decode?_toJson) version _
  | listMachines ns =>
      exact Remote.items?_listJson (fun machine listed =>
        (wasRead machine listed).decode?_toJson) version _
  | updateMachine machine => exact Machine.WasRead.decode?_toJson wasRead
  | getNode name => exact Node.WasRead.decode?_toJson wasRead
  | updateNode node => exact Node.WasRead.decode?_toJson wasRead

/-- The object that a call puts in the place of another was read from JSON. -/
def ObjectWasRead (request : Request) : Prop :=
  ∀ slot item, request.update? = some (slot, item) → item.WasRead

end Request

namespace MemoryStore

/-- What a store gives of objects that were read was read. -/
theorem WasRead.answerWasRead {store : MemoryStore} {request : Request} {answer : request.Answer}
    (wasRead : store.WasRead) (given : request.ObjectWasRead)
    (answered : (store.serve request).1 = .ok answer) : request.AnswerWasRead answer := by
  have served := store.served request
  generalize store.serve request = result at served answered
  cases served with
  | readMachineSet found =>
      cases answered
      exact wasRead.machineSet found
  | listMachineSets ns =>
      cases answered
      intro machineSet listed
      obtain ⟨key, found, -⟩ := mem_inNamespace listed
      exact wasRead.machineSet found
  | listMachines ns =>
      cases answered
      intro machine listed
      obtain ⟨key, found, -⟩ := mem_inNamespace listed
      exact wasRead.machine found
  | readNode found =>
      cases answered
      exact wasRead.node found
  | updateMachine found current =>
      cases answered
      exact ((given _ _ rfl).withStatus (wasRead.machine found)).stamped _ _
  | updateNode named found current =>
      cases answered
      have read := given _ _ (congrArg (Option.map fun name => (Slot.node name, Item.node _)) named)
      exact (read.withStatus (wasRead.node found)).stamped _ _
  | refused error => cases answered

/-- An addressed call fails in two ways only, and the error names its object. -/
theorem serve_error {store : MemoryStore} {request : Request} {error : StoreError}
    (addressed : request.Addressed) (refused : (store.serve request).1 = .error error) :
    error = .notFound request.subject ∨
      error = .conflict (request.subject ++ ": " ++ Remote.modified) := by
  cases serve_eq_error_iff.mp refused with
  | missing => exact .inl rfl
  | stale =>
      have joined : ": the object has been modified; please apply your changes " ++
          "to the latest version and try again" = ": " ++ Remote.modified := by decide
      rw [String.append_assoc, joined, ← String.append_assoc]
      exact .inr rfl
  | @nameless node unnamed =>
      obtain ⟨name, named⟩ := Request.exists_name
        (addressed.names (node.metadata.name.getD "") (by simp [Request.names])).1
      cases unnamed.symm.trans named

end MemoryStore

namespace Request

section Exchange

variable {request : Request} {status : Http.Status} {body : Remote.Body}

/-- The JSON of an answer is read as the answer, under the one status of success. -/
theorem readResponse_of_carries {version : String} {answer : request.Answer}
    (code : status.code = 200) (carries : body.Carries (request.answerJson version answer))
    (lasting : (request.answerJson version answer).IsLasting)
    (wasRead : request.AnswerWasRead answer) :
    request.readResponse (.answer status body) = .ok answer := by
  have succeeded : status.isFailure = false := by rw [Http.Status.isFailure, code]; rfl
  simp only [readResponse, succeeded, carries.document?_eq lasting, Option.bind_some,
    wasRead.answer?_answerJson version]
  rfl

/-- A content that is not of the awaited type is an error about the subject of the call. -/
theorem readResponse_of_unread (code : status.code = 200)
    (unread : body.document?.bind request.answer? = none) :
    request.readResponse (.answer status body) = .error (.ofApi .unreadable request.subject) := by
  have succeeded : status.isFailure = false := by rw [Http.Status.isFailure, code]; rfl
  simp only [readResponse, succeeded, unread]
  rfl

/-- A refusal is an error that holds what the server says. -/
theorem readResponse_of_refuses {refusal : ApiStatus} (failed : 400 ≤ status.code)
    (known : status.code < 600) (refuses : body.document?.bind Remote.status? = some refusal) :
    request.readResponse (.answer status body) =
      .error (.ofApi (.refused refusal) request.subject) := by
  have failure : status.isFailure = true := by simp [Http.Status.isFailure, failed, known]
  simp only [readResponse, failure, Remote.refusal, refuses, if_true]

/-- The two stores agree: a call sends the one message that is expected of it and has the outcome
that it has on the store in memory. -/
theorem exchange_agrees {server : Remote.Message → Remote.Response} {version : String}
    {store : MemoryStore} {request : Request}
    (mirrors : Remote.Mirrors server version store request) (given : request.ObjectWasRead)
    (lasting : ∀ answer, (store.answer request).1 = .ok answer →
      (request.answerJson version answer).IsLasting) :
    request.exchange server = ([request.expected], (store.answer request).1) := by
  obtain ⟨undisturbed, stored, addressed, conveys⟩ := mirrors
  have served : store.answer request = store.serve request :=
    MemoryStore.answer_of_unordered (undisturbed request.operation)
  rw [served] at lasting conveys ⊢
  have sent : request.exchange server =
      ([request.expected], request.readResponse (server request.expected)) := by
    rw [exchange, addressed.message_eq]
  rw [sent]
  congr 1
  -- What is left is to read the response, which depends on the reply of the store only.
  generalize replied : (store.serve request).1 = reply at lasting conveys ⊢
  generalize server request.expected = response at conveys ⊢
  cases conveys with
  | success code carries =>
      exact readResponse_of_carries code carries (lasting _ rfl)
        (stored.answerWasRead given replied)
  | notFound code refuses same =>
      rw [readResponse_of_refuses (by omega) (by omega) refuses, StoreError.ofApi, if_pos same]
      rcases MemoryStore.serve_error addressed replied with own | other
      · rw [own]
      · cases other
  | conflict code refuses same message =>
      rw [readResponse_of_refuses (by omega) (by omega) refuses, StoreError.ofApi,
        if_neg (by omega), if_pos same, message]
      rcases MemoryStore.serve_error addressed replied with other | own
      · cases other
      · rw [own]

end Exchange

end Request

/-! ## A server with the content of a store -/

namespace Remote

/-- The JSON of a refusal. -/
def refusalJson (code : Nat) (message : String) : Json :=
  ofFields [
    ("code", some (ofNat code)),
    ("message", some (.string message)),
    ("status", some (.string "Failure"))]

/-- An answer with a given code. -/
def answered (code : Nat) (body : Body) : Response :=
  match Http.Status.ofCode? code with
  | some status => .answer status body
  | none => .noAnswer

/-- A server that says what a store gives, as one kind of content or another. -/
def mirror (content : Json → Body) (version : String) (store : MemoryStore) (request : Request) :
    Message → Response :=
  fun _ =>
    match (store.answer request).1 with
    | .ok answer => answered 200 (content (request.answerJson version answer))
    | .error (.conflict _) => answered 409 (.json (refusalJson 409 modified))
    | .error _ => answered 404 (.json (refusalJson 404 "not found"))

/-- There is such a server for every store and every call. -/
theorem mirrors_mirror {content : Json → Body} {store : MemoryStore} {request : Request}
    (carries : ∀ value, (content value).Carries value) (version : String)
    (undisturbed : ∀ operation, store.pendingFailures operation = 0) (stored : store.WasRead)
    (addressed : request.Addressed) :
    Mirrors (mirror content version store request) version store request := by
  refine ⟨undisturbed, stored, addressed, ?_⟩
  have served : store.answer request = store.serve request :=
    MemoryStore.answer_of_unordered (undisturbed request.operation)
  rw [mirror, served]
  generalize replied : (store.serve request).1 = reply
  cases reply with
  | ok answer => exact .success rfl (carries _)
  | error error =>
      have notFound : (Body.json (refusalJson 404 "not found")).document?.bind status? =
          some ⟨"Failure", "not found", "", 404⟩ := by decide +kernel
      have conflict : (Body.json (refusalJson 409 modified)).document?.bind status? =
          some ⟨"Failure", modified, "", 409⟩ := by decide +kernel
      rcases MemoryStore.serve_error addressed replied with rfl | rfl
      · exact .notFound rfl notFound rfl
      · exact .conflict rfl conflict rfl rfl

/-- The outcome of a call where the answer is nested too deep to be read. -/
theorem exchange_mirror_of_unread {version : String} {store : MemoryStore} {request : Request}
    {answer : request.Answer} (addressed : request.Addressed)
    (replied : (store.answer request).1 = .ok answer)
    (lasts : (request.answerJson version answer).lasts = true)
    (unread : request.answer? (seen Reader.maxDepth (request.answerJson version answer)) = none) :
    request.exchange (mirror (fun value => .text value.print) version store request) =
      ([request.expected], .error (.ofApi .unreadable request.subject)) := by
  have content : (Body.text (request.answerJson version answer).print).document?.bind
      request.answer? = none := by
    rw [Body.document?, read?_print lasts]
    exact unread
  rw [Request.exchange, addressed.message_eq]
  dsimp only [mirror]
  rw [replied]
  exact congrArg _ (Request.readResponse_of_unread rfl content)

/-- The server says what the store gives, and yet the outcome is another one. -/
structure Differs (server : Message → Response) (version : String) (store : MemoryStore)
    (request : Request) : Prop where
  mirrors : Mirrors server version store request
  outcome : request.exchange server ≠ ([request.expected], (store.answer request).1)

end Remote

namespace RemoteCluster

/-- A machine with given fields in its specification. -/
def machineJson (spec : List (String × Json)) : Json :=
  .object [("metadata", .object [("name", .string "web-0")]), ("spec", .object spec)]

/-- What is read of it. -/
def machine (spec : List (String × Json)) : Machine :=
  (Machine.decode? (.ofJson (machineJson spec))).getD default

/-- The store in which this machine is stored. -/
def store (spec : List (String × Json)) : MemoryStore :=
  (MemoryStore.empty.addMachine (machine spec)).2

/-- The update by this machine. -/
def update (spec : List (String × Json)) : Request := .updateMachine (machine spec)

/-- The list of all machines. -/
def list : Request := .listMachines defaultNamespace

/-- The update by this machine, read from another version than the stored one. -/
def lateUpdate (spec : List (String × Json)) : Request :=
  .updateMachine { machine spec with metadata := (machine spec).metadata.stamped none (some "0") }

/-- A machine with given fields is read, with whole seconds. -/
def Readable (spec : List (String × Json)) : Prop :=
  (Machine.decode? (.ofJson (machineJson spec))).isSome = true ∧
    (machine spec).wholeSeconds = machine spec

instance : DecidablePred Readable := fun _ => inferInstanceAs (Decidable (_ ∧ _))

/-- A call succeeds, and what it gives passes a check. -/
def Passes (store : MemoryStore) (request : Request) (check : Json → Bool) : Prop :=
  (store.answer request).1.toOption.map (fun answer => check (request.answerJson "7" answer)) =
    some true

instance (store : MemoryStore) (request : Request) (check : Json → Bool) :
    Decidable (Passes store request check) := inferInstanceAs (Decidable (_ = _))

section Calls

variable {spec : List (String × Json)} {stored : MemoryStore} {request : Request}
  {check : Json → Bool}

theorem found (readable : (Machine.decode? (.ofJson (machineJson spec))).isSome = true) :
    Found Machine.decode? (machine spec) := by
  obtain ⟨read, accepted⟩ := Option.isSome_iff_exists.mp readable
  exact ⟨_, accepted.trans (by rw [machine, accepted]; rfl)⟩

theorem Readable.wasRead (readable : Readable spec) : (machine spec).WasRead :=
  Machine.wasRead_of_found (found readable.1) readable.2

theorem undisturbed_store (operation : Operation) :
    (store spec).pendingFailures operation = 0 := by
  rw [store, MemoryStore.addMachine, MemoryStore.register]
  cases (machine spec).metadata.uid <;> rfl

theorem Readable.wasRead_store (readable : Readable spec) : (store spec).WasRead :=
  MemoryStore.wasRead_empty.addMachine readable.wasRead

theorem Readable.update (readable : Readable spec) : (update spec).ObjectWasRead := by
  intro slot item given
  cases given
  exact readable.wasRead

theorem Readable.lateUpdate (readable : Readable spec) : (lateUpdate spec).ObjectWasRead := by
  intro slot item given
  cases given
  exact readable.wasRead.stamped none (some "0")

theorem objectWasRead_list : list.ObjectWasRead := by
  intro slot item given
  cases given

/-- A call whose answer passes a check is answered. -/
theorem Passes.exists_answer (passes : Passes stored request check) :
    ∃ answer, (stored.answer request).1 = .ok answer := by
  rw [Passes] at passes
  cases replied : (stored.answer request).1 with
  | error error =>
      rw [replied] at passes
      cases passes
  | ok answer => exact ⟨answer, rfl⟩

/-- Every answer passes that check, since there is only one. -/
theorem Passes.of_answer (passes : Passes stored request check) (answer : request.Answer)
    (replied : (stored.answer request).1 = .ok answer) :
    check (request.answerJson "7" answer) = true := by
  rw [Passes, replied] at passes
  exact Option.some.inj passes

end Calls

/-- Arrays inside each other. -/
def nested : Nat → Json
  | 0 => .array []
  | depth + 1 => .array [nested depth]

/-- A configuration that is nested too deep where the machine stands in a list. -/
def deep : List (String × Json) := [("providerSpec", nested 123)]

/-- A list that is nested too deeply lasts, but is not read. -/
theorem passes_deep : Readable deep ∧ list.Addressed ∧ Passes (store deep) list (·.lasts) ∧
    Passes (store deep) list fun value => (list.answer? (seen Reader.maxDepth value)).isNone := by
  decide +kernel

/-- In a list the machine cannot be read. -/
theorem differs_deep :
    Remote.Differs (Remote.mirror (fun value => .text value.print) "7" (store deep) list) "7"
      (store deep) list where
  mirrors := Remote.mirrors_mirror (fun _ => .text) "7" undisturbed_store
    passes_deep.1.wasRead_store passes_deep.2.1
  outcome same := by
    obtain ⟨-, addressed, lasts, unread⟩ := passes_deep
    obtain ⟨answer, replied⟩ := lasts.exists_answer
    have outcome := Remote.exchange_mirror_of_unread addressed replied
      (lasts.of_answer answer replied)
      (Option.isNone_iff_eq_none.mp (unread.of_answer answer replied))
    rw [replied] at same
    exact nomatch congrArg Prod.snd (outcome.symm.trans same)

/-- A number whose shortest decimal is read as another number. -/
def drifting : List (String × Json) :=
  [("weight", .number (((Numeral.read? "1.191587206448937e+212".toList).bind
    Numeral.number?).getD (.integer 0)))]

/-- The update of a machine on a server that gives JSON values. -/
abbrev updated (spec other : List (String × Json)) : Except StoreError Machine :=
  ((update other).exchange (Remote.mirror .json "7" (store spec) (update other))).2

/-- A number that drifts is written otherwise by the one store than by the other. -/
theorem passes_drifting : Readable drifting ∧ (update drifting).Addressed ∧
    Passes (store drifting) (update drifting)
      (fun value => decide (value.depth ≤ Reader.maxDepth)) ∧
    (updated drifting drifting).toOption.map (fun answer => answer.toJson.print) ≠
      ((store drifting).answer (update drifting)).1.toOption.map fun answer =>
        Json.print (Machine.toJson answer) := by
  decide +kernel

/-- The number comes back as another one. -/
theorem differs_drifting :
    Remote.Differs (Remote.mirror .json "7" (store drifting) (update drifting)) "7"
      (store drifting) (update drifting) where
  mirrors := Remote.mirrors_mirror (fun _ => .json) "7" undisturbed_store
    passes_drifting.1.wasRead_store passes_drifting.2.1
  outcome same := by
    have printed := congrArg (fun outcome : _ × Except StoreError Machine =>
      outcome.2.toOption.map fun answer => answer.toJson.print) same
    exact passes_drifting.2.2.2 printed

/-- A taint with a fraction of a second. -/
def fractional : List (String × Json) :=
  [("taints", .array [.object [("effect", .string "NoSchedule"), ("key", .string "zone"),
    ("timeAdded", .string "2024-01-01T00:00:00.5Z")]])]

/-- A fraction of a second that was given is kept by the one store and dropped by the other. -/
theorem passes_fractional : Readable [] ∧
    (Machine.decode? (.ofJson (machineJson fractional))).isSome = true ∧
    (update fractional).Addressed ∧
    Passes (store []) (update fractional) (fun value => decide value.IsLasting) ∧
    (updated [] fractional).toOption.map (fun answer => answer.spec.taints) ≠
      ((store []).answer (update fractional)).1.toOption.map fun answer =>
        (Machine.spec answer).taints := by
  decide +kernel

/-- The fraction of a second does not come back. -/
theorem differs_fractional :
    Remote.Differs (Remote.mirror .json "7" (store []) (update fractional)) "7"
      (store []) (update fractional) where
  mirrors := Remote.mirrors_mirror (fun _ => .json) "7" undisturbed_store
    passes_fractional.1.wasRead_store passes_fractional.2.2.1
  outcome same := by
    have taints := congrArg (fun outcome : _ × Except StoreError Machine =>
      outcome.2.toOption.map fun answer => answer.spec.taints) same
    exact passes_fractional.2.2.2.2 taints

/-- A number that lasts. -/
def lasting : List (String × Json) :=
  [("weight", .number (((Numeral.read? "0.5".toList).bind Numeral.number?).getD (.integer 0)))]

/-- A machine with neither is updated, and refused with the version of an older copy. -/
theorem passes_lasting : Readable lasting ∧ (update lasting).Addressed ∧
    (lateUpdate lasting).Addressed ∧
    Passes (store lasting) (update lasting) (fun value => decide value.IsLasting) ∧
    ((store lasting).answer (lateUpdate lasting)).1.isOk = false := by
  decide +kernel

/-- A server for the store with the machine whose number lasts. -/
def server (request : Request) : Remote.Message → Remote.Response :=
  Remote.mirror (fun value => .text value.print) "7" (store lasting) request

theorem mirrors_server {request : Request} (addressed : request.Addressed) :
    Remote.Mirrors (server request) "7" (store lasting) request :=
  Remote.mirrors_mirror (fun _ => .text) "7" undisturbed_store passes_lasting.1.wasRead_store
    addressed

theorem isLasting_update (answer : (update lasting).Answer)
    (replied : ((store lasting).answer (update lasting)).1 = .ok answer) :
    ((update lasting).answerJson "7" answer).IsLasting :=
  of_decide_eq_true (passes_lasting.2.2.2.1.of_answer answer replied)

theorem isLasting_lateUpdate (answer : (lateUpdate lasting).Answer)
    (replied : ((store lasting).answer (lateUpdate lasting)).1 = .ok answer) :
    ((lateUpdate lasting).answerJson "7" answer).IsLasting := by
  have refused := passes_lasting.2.2.2.2
  rw [replied] at refused
  cases refused

end RemoteCluster

open RemoteCluster in
/-- The stored machine is updated by itself, and a late update of it is a conflict, on both
stores. -/
theorem exchange_agrees_remoteCluster :
    (Remote.Mirrors (server (update lasting)) "7" (store lasting) (update lasting) ∧
      (update lasting).ObjectWasRead ∧
      (∀ answer, ((store lasting).answer (update lasting)).1 = .ok answer →
        ((update lasting).answerJson "7" answer).IsLasting) ∧
      (∃ answer, ((store lasting).answer (update lasting)).1 = .ok answer) ∧
      (update lasting).exchange (server (update lasting)) =
        ([(update lasting).expected], ((store lasting).answer (update lasting)).1)) ∧
    (Remote.Mirrors (server (lateUpdate lasting)) "7" (store lasting) (lateUpdate lasting) ∧
      (lateUpdate lasting).ObjectWasRead ∧
      (∀ answer, ((store lasting).answer (lateUpdate lasting)).1 = .ok answer →
        ((lateUpdate lasting).answerJson "7" answer).IsLasting) ∧
      ((store lasting).answer (lateUpdate lasting)).1.isOk = false ∧
      (lateUpdate lasting).exchange (server (lateUpdate lasting)) =
        ([(lateUpdate lasting).expected], ((store lasting).answer (lateUpdate lasting)).1)) := by
  obtain ⟨readable, addressed, lateAddressed, passes, refused⟩ := passes_lasting
  have mirrors := mirrors_server addressed
  have lateMirrors := mirrors_server lateAddressed
  exact ⟨⟨mirrors, readable.update, isLasting_update, passes.exists_answer,
      Request.exchange_agrees mirrors readable.update isLasting_update⟩,
    lateMirrors, readable.lateUpdate, isLasting_lateUpdate, refused,
      Request.exchange_agrees lateMirrors readable.lateUpdate isLasting_lateUpdate⟩

open RemoteCluster in
/-- The stores differ where the answer is nested too deep, where a number in it is not lasting, and
where the object of an update has a fraction of a second. -/
theorem exchange_disagrees :
    (∃ server version store request, Remote.Differs server version store request ∧
      request.ObjectWasRead ∧
      ∀ answer, (store.answer request).1 = .ok answer →
        (request.answerJson version answer).lasts = true) ∧
    (∃ server version store request, Remote.Differs server version store request ∧
      request.ObjectWasRead ∧
      ∀ answer, (store.answer request).1 = .ok answer →
        (request.answerJson version answer).depth ≤ Reader.maxDepth) ∧
    ∃ server version store machine, Remote.Differs server version store (.updateMachine machine) ∧
      Found Machine.decode? machine ∧
      ∀ answer, (store.answer (.updateMachine machine)).1 = .ok answer →
        ((Request.updateMachine machine).answerJson version answer).IsLasting :=
  ⟨⟨_, _, _, _, differs_deep, objectWasRead_list, passes_deep.2.2.1.of_answer⟩,
    ⟨_, _, _, _, differs_drifting, passes_drifting.1.update, fun answer replied =>
      of_decide_eq_true (passes_drifting.2.2.1.of_answer answer replied)⟩,
    ⟨_, _, _, _, differs_fractional, found passes_fractional.2.1, fun answer replied =>
      of_decide_eq_true (passes_fractional.2.2.2.1.of_answer answer replied)⟩⟩

end NodeSync
