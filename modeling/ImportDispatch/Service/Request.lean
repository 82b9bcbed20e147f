import ImportDispatch.Import.Normal
import ImportDispatch.Import.Rules
/-!
# Requests

What a client asks for: an import that runs once, or one that recurs.  Both are judged and brought into normal form in
the same way, each by its own rules.
-/
namespace ImportDispatch

/-- A request of a client. -/
inductive JobRequest
  | once (job : ImportJob)
  | recurring (job : ScheduledJob)
deriving DecidableEq, Repr

namespace JobRequest

def name : JobRequest → Text
  | once job => job.name
  | recurring job => job.name

/-- The directory of the workflow below the directory of the job. -/
def appDir : JobRequest → Text
  | once job => job.appDir
  | recurring job => job.appDir

def spec : JobRequest → ImportSpec
  | once job => job.spec
  | recurring job => job.spec

def violations [ZoneDatabase] (minimum : Nat) : JobRequest → Except CalendarEnd (List Violation)
  | once job => .ok job.violations
  | recurring job => job.violations minimum

def normal (registry : Registry) (username : Text) : JobRequest → JobRequest
  | once job => once (job.normal registry)
  | recurring job => recurring (job.normal registry username)

end JobRequest
end ImportDispatch
