/-
Module: NodeSync.Proofs.Store.Messages
Purpose: The message of a call. If the names of a call may stand in a target and the target is not
  too long, the call sends one message: to the collection or the object that it names, with the
  whole object where it is an update.
Main exports: Request.path, Request.expected, Request.Addressed, Request.Addressed.message_eq
-/
import NodeSync.Proofs.Http.Target
import NodeSync.Store.Remote

namespace NodeSync

open NodeSync.Json

set_option autoImplicit false

/-- A name that may stand in the path of a target. -/
def Http.IsSegment (name : String) : Prop :=
  name ≠ "" ∧ name.toList.all Http.isPathChar = true

instance : DecidablePred Http.IsSegment := fun _ => inferInstanceAs (Decidable (_ ∧ _))

namespace Request

/-- The names and namespaces of a call, that of an object without a name being empty. -/
def names : Request → List String
  | .getMachineSet ns name => [ns, name]
  | .listMachineSets ns => [ns]
  | .listMachines ns => [ns]
  | .updateMachine machine => machine.metadata.ns.toList ++ [machine.metadata.name.getD ""]
  | .getNode name => [name]
  | .updateNode node => [node.metadata.name.getD ""]

/-- The path of the object or the collection of a call. -/
def path : Request → String
  | .getMachineSet ns name =>
      "/apis/machine.openshift.io/v1beta1/namespaces/" ++ ns ++ "/machinesets/" ++ name
  | .listMachineSets ns =>
      "/apis/machine.openshift.io/v1beta1/namespaces/" ++ ns ++ "/machinesets"
  | .listMachines ns => "/apis/machine.openshift.io/v1beta1/namespaces/" ++ ns ++ "/machines"
  | .updateMachine machine =>
      "/apis/machine.openshift.io/v1beta1/namespaces/" ++ machine.metadata.ns.getD "default" ++
        "/machines/" ++ machine.metadata.name.getD ""
  | .getNode name => "/api/v1/nodes/" ++ name
  | .updateNode node => "/api/v1/nodes/" ++ node.metadata.name.getD ""

/-- The query of a call: none where a single object is asked for, otherwise an empty one. -/
def query : Request → Option String
  | .getMachineSet .. => none
  | .getNode _ => none
  | _ => some ""

/-- The JSON form of the object that a call puts in the place of another. -/
def object : Request → Option Json
  | .updateMachine machine => some machine.toJson
  | .updateNode node => some node.toJson
  | _ => none

/-- The message of a call. -/
def expected (request : Request) : Remote.Message :=
  ⟨⟨request.path, request.query⟩, request.object⟩

/-- The names of a call may stand in a target, and the target is not too long. -/
structure Addressed (request : Request) : Prop where
  names : ∀ name ∈ request.names, Http.IsSegment name
  fits : request.expected.target.print.utf8ByteSize ≤ Http.Target.maxSize

instance : DecidablePred Addressed := fun request =>
  decidable_of_iff ((∀ name ∈ request.names, Http.IsSegment name) ∧
    request.expected.target.print.utf8ByteSize ≤ Http.Target.maxSize)
    ⟨fun addressed => ⟨addressed.1, addressed.2⟩, fun addressed => ⟨addressed.1, addressed.2⟩⟩

section Messages

variable {request : Request}

theorem Addressed.isPath (addressed : request.Addressed) : Http.IsPath request.path := by
  have segment {name : String} (listed : name ∈ request.names) :
      name.toList.all Http.isPathChar = true := (addressed.names name listed).2
  have machines : Http.IsPath "/apis/machine.openshift.io/v1beta1/namespaces/" :=
    ⟨by decide, by decide⟩
  have nodes : Http.IsPath "/api/v1/nodes/" := ⟨by decide, by decide⟩
  cases request with
  | getMachineSet ns name =>
      exact ((machines.append (segment (by simp [Request.names]))).append (by decide)).append
        (segment (by simp [Request.names]))
  | listMachineSets ns =>
      exact (machines.append (segment (by simp [Request.names]))).append (by decide)
  | listMachines ns =>
      exact (machines.append (segment (by simp [Request.names]))).append (by decide)
  | updateMachine machine =>
      have ns : (machine.metadata.ns.getD "default").toList.all Http.isPathChar = true := by
        cases given : machine.metadata.ns with
        | none => decide
        | some ns => exact segment (by simp [Request.names, given])
      exact ((machines.append ns).append (by decide)).append (segment (by simp [Request.names]))
  | getNode name => exact nodes.append (segment (by simp [Request.names]))
  | updateNode node => exact nodes.append (segment (by simp [Request.names]))

theorem Addressed.isPlain (addressed : request.Addressed) :
    request.expected.target.IsPlain where
  path := addressed.isPath
  query := by
    intro query given
    cases request <;> cases given <;> rfl
  fits := addressed.fits

/-- The message that asks for an object. -/
theorem get_eq {collection name : String} {target : Http.Target} (plain : target.IsPlain)
    (filled : name ≠ "") (printed : collection ++ "/" ++ name ++ "" = target.print) :
    Remote.get collection name = .ok ⟨target, none⟩ := by
  rw [Remote.get, Remote.objectTarget, if_neg filled, printed, Http.Target.read?_print plain]
  rfl

/-- The message that asks for a collection. -/
theorem list_eq {collection : String} {target : Http.Target} (plain : target.IsPlain)
    (printed : collection ++ "?" = target.print) :
    Remote.list collection = .ok ⟨target, none⟩ := by
  rw [Remote.list, Remote.collectionTarget, printed, Http.Target.read?_print plain]
  rfl

/-- The message that puts an object in its place. -/
theorem put_eq {collection name : String} {target : Http.Target} (plain : target.IsPlain)
    (filled : name ≠ "") (printed : collection ++ "/" ++ name ++ "?" = target.print)
    (object : Json) : Remote.put collection name object = .ok ⟨target, some object⟩ := by
  rw [Remote.put, Remote.objectTarget, if_neg filled, printed, Http.Target.read?_print plain]
  rfl

/-- The path of a collection in a namespace. -/
theorem machineCollection_eq (ns : String) {plural last : String} (joined : "/" ++ plural = last) :
    Remote.machineCollection ns plural =
      "/apis/machine.openshift.io/v1beta1/namespaces/" ++ ns ++ last := by
  have start : "/apis/" ++ machineApiVersion ++ "/namespaces/" =
      "/apis/machine.openshift.io/v1beta1/namespaces/" := by decide
  rw [Remote.machineCollection, start, String.append_assoc, joined]

/-- The path of an object in a namespace. -/
theorem machineObject_eq (ns name : String) {plural last : String}
    (joined : "/" ++ plural ++ "/" = last) :
    Remote.machineCollection ns plural ++ "/" ++ name =
      "/apis/machine.openshift.io/v1beta1/namespaces/" ++ ns ++ last ++ name := by
  rw [machineCollection_eq ns rfl, ← joined]
  simp only [String.append_assoc]

theorem exists_name {metadata : ObjectMeta} (filled : metadata.name.getD "" ≠ "") :
    ∃ name, metadata.name = some name := by
  cases given : metadata.name with
  | none => exact absurd (by rw [given]; rfl) filled
  | some name => exact ⟨name, rfl⟩

/-- A call sends the message that is expected of it. -/
theorem Addressed.message_eq (addressed : request.Addressed) :
    request.message = .ok request.expected := by
  have plain := addressed.isPlain
  cases request with
  | getMachineSet ns name =>
      have filled := (addressed.names name (by simp [Request.names])).1
      have joined : "/" ++ "machinesets" ++ "/" = "/machinesets/" := by decide
      exact congrArg (Except.mapError _)
        (get_eq plain filled (congrArg (· ++ "") (machineObject_eq ns name joined)))
  | listMachineSets ns =>
      have joined : "/" ++ "machinesets" = "/machinesets" := by decide
      exact congrArg (Except.mapError _)
        (list_eq plain (congrArg (· ++ "?") (machineCollection_eq ns joined)))
  | listMachines ns =>
      have joined : "/" ++ "machines" = "/machines" := by decide
      exact congrArg (Except.mapError _)
        (list_eq plain (congrArg (· ++ "?") (machineCollection_eq ns joined)))
  | updateMachine machine =>
      have filled := (addressed.names (machine.metadata.name.getD "") (by simp [Request.names])).1
      obtain ⟨name, named⟩ := exists_name filled
      have joined : "/" ++ "machines" ++ "/" = "/machines/" := by decide
      have put := put_eq plain filled (congrArg (· ++ "?") (machineObject_eq _ _ joined))
        machine.toJson
      simp only [message, Remote.requiredName, named]
      rw [named] at put
      exact congrArg (Except.mapError _) put
  | getNode name =>
      have filled := (addressed.names name (by simp [Request.names])).1
      exact congrArg (Except.mapError _) (get_eq plain filled rfl)
  | updateNode node =>
      have filled := (addressed.names (node.metadata.name.getD "") (by simp [Request.names])).1
      obtain ⟨name, named⟩ := exists_name filled
      have put : Remote.put Remote.nodeCollection (node.metadata.name.getD "") node.toJson =
          .ok (expected (.updateNode node)) := put_eq plain filled rfl node.toJson
      simp only [message, Remote.requiredName, named]
      rw [named] at put
      exact congrArg (Except.mapError _) put

end Messages

end Request

end NodeSync
