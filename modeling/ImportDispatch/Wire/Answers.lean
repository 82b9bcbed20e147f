import ImportDispatch.Settings
/-!
# Answers on the wire

The JSON form of what the service tells its clients: the handle of a job, the offer to an organization, and what went
wrong.  The settings have one as well, for those who run the service.
-/
namespace ImportDispatch

def FieldReport.encode (e : FieldReport) : Json := .record [("field", .string e.field), ("message", .string e.message)]

def encodeReports (errors : List FieldReport) : Json := .array (errors.map FieldReport.encode)

def StartedJob.encode (handle : StartedJob) : Json := .record [
  ("jobId", .string handle.jobId), ("engineJobId", .string handle.engineJobId)]

def Offer.encode (offer : Offer) : Json := .record [
  ("databases", offer.databases.encode), ("timezones", .texts offer.timezones),
  ("organizationDirectory", .string offer.organizationDirectory), ("minimumFrequencyInSeconds", .nat offer.minimum)]

/-- A failed submission: rejected fields are listed, anything else is an internal matter. -/
def SubmissionFailure.encode (error : SubmissionFailure) : Json :=
  match error with
  | .rejected errors => .record [
      ("error", .string error.message), ("code", .word "VALIDATION_ERROR"), ("fields", encodeReports errors)]
  | _ => .record [("error", .string error.message), ("code", .word "INTERNAL_ERROR")]

/-- The values shared by all jobs of a deployment. -/
def Deployment.encode (deployment : Deployment) : Json := .record [
  ("oozieApiUrl", .string deployment.apiUrl), ("jobTracker", .string deployment.jobTracker),
  ("nameNode", .string deployment.nameNode), ("sqoopMetastore", .string deployment.metastore),
  ("user", .string deployment.user)]

def Settings.encode (settings : Settings) : Json := .record [
  ("server", .record [("host", .string settings.host), ("port", .nat settings.listenPort)]),
  ("workspace", .record [("root_dir", .string settings.rootDir)]),
  ("oozie", .record [
    ("api_url", .string settings.deployment.apiUrl), ("job_tracker", .string settings.deployment.jobTracker),
    ("name_node", .string settings.deployment.nameNode),
    ("sqoop_metastore", .string settings.deployment.metastore), ("user", .string settings.deployment.user)]),
  ("schedule", .record [("minimum_frequency_seconds", .nat settings.minimum)]),
  ("databases", settings.databases.encode)]

end ImportDispatch
