import ImportDispatch.Text
/-!
# Routes

What can be asked for: a path is one of four, and each is open to some methods only.
-/
namespace ImportDispatch

/-- What a path asks for; the organization is as it was written. -/
inductive Route
  | health
  | once (org : Text)
  | recurring (org : Text)
  | offer (org : Text)
deriving DecidableEq, Repr

namespace Route

def path (target : Text) : Text := target.takeWhile fun c => c != '?' && c != '#'

/-- What the parts of a path ask for. -/
def ofParts? (parts : List Text) : Option Route :=
  match parts with
  | [start, part] => if start.isEmpty && part == "healthz".toList then some health else none
  | start :: api :: orgs :: org :: rest =>
    if !start.isEmpty || api != "api".toList || orgs != "orgs".toList || org.isEmpty then none
    else if rest == ["jobs".toList, "import".toList] then some (once org)
    else if rest == ["jobs".toList, "scheduled-import".toList] then some (recurring org)
    else if rest == ["configuration".toList] then some (offer org)
    else none
  | _ => none

/-- What a target asks for. -/
def ofTarget? (target : Text) : Option Route := ofParts? (Text.splitBy (· == '/') (path target))

/-- Whether a route only looks. -/
def isReading : Route → Bool
  | health => true
  | offer _ => true
  | once _ => false
  | recurring _ => false

def headMethod : Text := "HEAD".toList

def allows (route : Route) (method : Text) : Bool :=
  if route.isReading then method == "GET".toList || method == headMethod else method == "POST".toList

end Route
end ImportDispatch
