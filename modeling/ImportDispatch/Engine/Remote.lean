import ImportDispatch.Engine
import ImportDispatch.Engine.Address
import ImportDispatch.Markup
/-!
# The remote engine

The engine behind its web interface.  A job is started by one request, which carries the values that the definitions
leave open as a configuration document; the answer is the id of the engine.
-/
namespace ImportDispatch

/-! ## Deployments -/

/-- The values shared by all jobs of a deployment. -/
structure Deployment where
  apiUrl : Text
  /-- What actions know as the job tracker. -/
  jobTracker : Text
  /-- What actions know as the name node. -/
  nameNode : Text
  metastore : Text
  /-- The user that jobs are submitted as. -/
  user : Text
deriving DecidableEq, Repr

namespace Deployment

/-- The deployment with an address that later parts of an address can be put behind. -/
def withoutEndSlash (deployment : Deployment) : Deployment :=
  { deployment with apiUrl := Text.trimEnd (· == '/') deployment.apiUrl }

open Markup

/-- The configuration of a job: `pathKey` is the name under which the engine looks for its place. -/
def configurationSteps (deployment : Deployment) (pathKey appDir targetDir : Text) : List Step :=
  element "configuration" []
    (property "user.name".toList deployment.user ++ property pathKey appDir ++
      property "jobTracker".toList deployment.jobTracker ++ property "nameNode".toList deployment.nameNode ++
      property "targetDir".toList targetDir ++ property "oozie.use.system.libpath".toList "true".toList)

/-- The configuration document of a job. -/
def configurationDocument (deployment : Deployment) (pathKey appDir targetDir : Text) : Text :=
  Markup.document (deployment.configurationSteps pathKey appDir targetDir)

end Deployment

/-! ## Requests and answers -/

/-- The name under which the engine looks for the place of a job. -/
def JobKind.pathKey : JobKind → Text
  | workflow => "oozie.wf.application.path".toList
  | coordinator => "oozie.coord.application.path".toList

structure EngineRequest where
  method : Text
  address : Address
  contentType : Text
  body : Text
deriving DecidableEq, Repr

structure EngineAnswer where
  status : Nat
  body : Text
deriving DecidableEq, Repr

namespace EngineRequest

/-- What the request asks for, behind the address of the web interface. -/
def startPath : Text := "/v2/jobs?action=start".toList

def start (deployment : Deployment) (submission : Submission) : Except EngineFailure EngineRequest :=
  match Address.ofText? (deployment.apiUrl ++ startPath) with
  | none => .error .relativeAddress
  | some address => .ok {
      method := "POST".toList
      address
      contentType := "application/xml;charset=UTF-8".toList
      body := deployment.configurationDocument submission.kind.pathKey submission.appDir submission.targetDir }

end EngineRequest

namespace EngineAnswer

/-- The text of an answer.  Some answers have none, whatever is sent with them; a byte order mark is no part of it. -/
def text (answer : EngineAnswer) : Text :=
  if answer.status = 204 || answer.status = 304 then []
  else match answer.body with
    | '\ufeff' :: rest => rest
    | body => body

/-- The id that an answer gives. -/
def id (answer : EngineAnswer) : Except EngineFailure Text :=
  if answer.status < 200 || 300 ≤ answer.status then .error (.rejected answer.status answer.text)
  else (Reply.ofText answer.text).mapError (.unexpectedReply answer.text)

end EngineAnswer

/-! ## The engine -/

/-- The far end of the wire: what it answers to a request, if it answers at all, and the requests it got, the oldest
first. -/
structure Exchange where
  answer : EngineRequest → Option EngineAnswer
  requests : List EngineRequest := []

namespace Exchange

def send (request : EngineRequest) : Attempt EngineFailure Exchange EngineAnswer := do
  let exchange ← get
  match exchange.answer request with
  | none => throw (.noAnswer (request.address.origin ++ request.address.target))
  | some answer =>
    set { exchange with requests := exchange.requests ++ [request] }
    return answer

/-- Starts a job and gives the id of the engine. -/
def submit (deployment : Deployment) (submission : Submission) : Attempt EngineFailure Exchange Text := do
  let request ← EngineRequest.start deployment submission
  let answer ← send request
  answer.id

end Exchange

/-- The engine of a deployment, at the other end of a wire. -/
def remoteEngine (deployment : Deployment) : Engine Exchange := ⟨Exchange.submit deployment⟩

end ImportDispatch
