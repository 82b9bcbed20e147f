import ImportDispatch.Http.MediaType
import ImportDispatch.Http.OrganizationId
import ImportDispatch.Http.Route
import ImportDispatch.Text.Percent
import ImportDispatch.Wire.Answers
import ImportDispatch.Zone.Selection
/-!
# The web interface

A request is refused by the first of these that fails: the path, the method, the organization, the type of the body,
the body itself.  Only then does the service see it.  Rejected fields are the fault of the client; whatever else goes
wrong is reported as internal.  The program answers with the selected zones; nothing below depends on which they are.
-/
namespace ImportDispatch
namespace Http

/-! ## Requests and responses -/

structure Request where
  method : Text
  target : Text
  contentType? : Option Text := none
  body : Text := []
deriving DecidableEq, Repr

/-- What a response carries. -/
inductive Body
  /-- A refusal has a text of no fixed wording. -/
  | refusal
  | text (s : Text)
  | json (value : Json)

structure Response where
  status : Nat
  body : Body

namespace Response

/-- A request that the service does not get to see. -/
def refused (status : Nat) : Response := ⟨status, .refusal⟩

def ofError (error : SubmissionFailure) : Response :=
  match error with
  | .rejected _ => ⟨400, .json error.encode⟩
  | _ => ⟨500, .json error.encode⟩

/-- A response without its body, which one gets who asks for the head alone. -/
def headOnly (response : Response) : Response := { response with body := .text [] }

end Response

/-! ## Bodies -/

/-- The largest body that is read, in bytes. -/
def bodyLimit : Nat := 2 * 1024 * 1024

/-- The status of a body that cannot be decoded: it is not JSON, or it is not what was wanted. -/
def decodeStatus : DecodeError → Nat
  | .malformed _ => 400
  | .numberOutOfRange => 400
  | .tooLong _ => 400
  | _ => 422

/-- What a body asks for, or the status of the refusal.  The text is judged from left to right, so that what stands
behind the value comes last. -/
def readBody {α : Type} (decode : Decoder α) (request : Request) : Except Nat α :=
  if !request.contentType?.any MediaType.isJson then .error 415
  else if bodyLimit < Text.utf8Size request.body then .error 413
  else
    let (value, trailing) := Json.read request.body
    match decode value with
    | .error error => .error (decodeStatus error)
    | .ok x => if trailing.isSome then .error 400 else .ok x

/-- The organization of a path. -/
def readOrganization (written : Text) : Except Nat Text :=
  match (Text.percentDecode? written).bind OrganizationId.ofText? with
  | some org => .ok org
  | none => .error 400

/-! ## Handlers -/

variable [ZoneDatabase] {σ τ : Type}

/-- The moment a request comes in: the reading of the clock, and the suffixes drawn for its id. -/
structure Moment where
  now : LocalTime
  suffixes : List Text
deriving DecidableEq, Repr

/-- The response to a finished step.  A request beyond the calendar is dropped without a response. -/
def respond {α : Type} (encode : α → Json) : Except SubmissionFailure α → Option Response
  | .ok x => some ⟨200, .json (encode x)⟩
  | .error .beyondCalendar => none
  | .error error => some (.ofError error)

/-- A handler gives a response, unless the request is dropped, and may change the state of the service. -/
abbrev Handler (σ τ α : Type) := StateM (ServiceState σ τ) α

/-- Submits a request of a client. -/
def submit (service : Service σ τ) (moment : Moment) (org : Text) (request : JobRequest) :
    Handler σ τ (Option Response) :=
  return respond StartedJob.encode (← (service.submit org moment.now moment.suffixes request).run)

/-- Submits an import that runs once. -/
def postOnce (service : Service σ τ) (moment : Moment) (written : Text) (request : Request) :
    Handler σ τ (Option Response) :=
  match readOrganization written, readBody ImportJob.decode request with
  | .error status, _ => return some (.refused status)
  | .ok _, .error status => return some (.refused status)
  | .ok org, .ok job => submit service moment org (.once job)

/-- Submits a recurring import.  A period that is too short is reported first and alone. -/
def postRecurring (service : Service σ τ) (moment : Moment) (written : Text) (request : Request) :
    Handler σ τ (Option Response) :=
  match readOrganization written, readBody ScheduledJob.decode request with
  | .error status, _ => return some (.refused status)
  | .ok _, .error status => return some (.refused status)
  | .ok org, .ok job =>
    match service.periodViolation? job.schedule with
    | some violation => return some (.ofError (.rejected [violation.report]))
    | none => submit service moment org (.recurring job)

/-- Tells an organization what it can choose from. -/
def offer (service : Service σ τ) (written : Text) : Handler σ τ (Option Response) :=
  match readOrganization written with
  | .error status => return some (.refused status)
  | .ok org => return respond Offer.encode (← (service.offer org).run)

/-- What the service answers when it is asked whether it is there. -/
def healthText : Text := "ok".toList

def onRoute (service : Service σ τ) (moment : Moment) (request : Request) : Route → Handler σ τ (Option Response)
  | .health => return some ⟨200, .text healthText⟩
  | .offer org => offer service org
  | .once org => postOnce service moment org request
  | .recurring org => postRecurring service moment org request

def handle (service : Service σ τ) (moment : Moment) (request : Request) : Handler σ τ (Option Response) :=
  match Route.ofTarget? request.target with
  | none => return some (.refused 404)
  | some route =>
    if !route.allows request.method then return some (.refused 405)
    else do
      let response ← onRoute service moment request route
      return if request.method == Route.headMethod then response.map Response.headOnly else response

end Http
end ImportDispatch
