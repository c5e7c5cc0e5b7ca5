import Obsion.Security.Redaction

/-! # Observability responses

`normalize_response`: how a provider payload becomes the events of an envelope.  Dates
and the texts of floats are parameters. -/

namespace Obsion.Capabilities

open Security (redact redactText)

inductive Failure
  | refused (error : ObsionError)
  | value (message : String)
  /-- An exception of `datetime`. -/
  | raised

/-- What the standard library makes of dates and floats. -/
structure Library where
  /-- The class `\w` of regular expressions -/
  word : Char → Bool
  /-- `str(value)` of a float, from the text of the number -/
  floatStr : String → String
  /-- `datetime.fromtimestamp(value, tz=UTC).isoformat()`, unless it raises -/
  fromTimestamp : Json → Option String
  /-- `datetime.fromisoformat(text.replace("Z", "+00:00"))`, unless it is a `ValueError`:
  the instant in UTC as `isoformat` writes it, unless `astimezone` raises -/
  fromIsoformat : String → Option (Option String)

def observabilityOperations : List String :=
  ["metric.query", "metric.compare", "metric.anomaly", "metric.dimension", "log.search",
    "log.aggregate", "deployment.list", "trace.search", "trace.timeline"]

inductive EventField
  | timestamp
  | service
  | environment
  | traceId
  | requestId
  | userIdHash
  | orderIdHash
  | deploymentId
  | commitId
  | host
  | pod
  | severity
  deriving DecidableEq, Repr

def EventField.key : EventField → String
  | .timestamp => "timestamp"
  | .service => "service"
  | .environment => "environment"
  | .traceId => "trace_id"
  | .requestId => "request_id"
  | .userIdHash => "user_id_hash"
  | .orderIdHash => "order_id_hash"
  | .deploymentId => "deployment_id"
  | .commitId => "commit_id"
  | .host => "host"
  | .pod => "pod"
  | .severity => "severity"

def EventField.aliases : EventField → List String
  | .timestamp => ["timestamp", "time", "ts", "occurred_at", "created_at"]
  | .service => ["service", "service_name", "serviceName", "app", "application"]
  | .environment => ["environment", "env"]
  | .traceId => ["trace_id", "traceId"]
  | .requestId => ["request_id", "requestId"]
  | .userIdHash => ["user_id_hash", "userIdHash"]
  | .orderIdHash => ["order_id_hash", "orderIdHash"]
  | .deploymentId => ["deployment_id", "deploymentId", "deployment"]
  | .commitId => ["commit_id", "commitId", "commit"]
  | .host => ["host", "hostname"]
  | .pod => ["pod", "pod_name", "podName"]
  | .severity => ["severity", "level", "log_level", "logLevel"]

def eventFields : List EventField :=
  [.timestamp, .service, .environment, .traceId, .requestId, .userIdHash, .orderIdHash,
    .deploymentId, .commitId, .host, .pod, .severity]

def attributeKeys : List String :=
  ["kind", "metric", "unit", "value", "message", "labels", "status", "duration_ms", "count",
    "version", "revision", "reason", "span_id", "parent_span_id", "span_name", "status_code"]

def sensitiveLabels : List String :=
  ["user", "userid", "user_id", "order", "orderid", "order_id", "email", "phone", "ip"]

def sensitiveLabel (key : String) : Bool :=
  let normalized := Text.replaceChar '-' '_' (Text.casefold key)
  decide (normalized ∈ sensitiveLabels) ||
    ["email", "phone", "token", "secret", "password"].any fun token => isIn token normalized

def safeLabels (library : Library) (value : Fields) : Fields :=
  (value.filter fun label => !sensitiveLabel label.1).map fun label =>
    (label.1, redact (redactText library.word) label.2)

def present? (value : Fields) (key : String) : Option Json :=
  match value.get? key with
  | some .null => none
  | found => found

def string? (library : Library) : Json → Option String
  | .str text => if strip text = "" then none else some (strip text)
  | .int number => some (toString number)
  | .float text => some (library.floatStr text)
  | _ => none

def timestamp? (library : Library) (value : Json) : Except Failure (Option String) :=
  match value with
  | .int _ | .float _ =>
    match library.fromTimestamp value with
    | some text => .ok (some text)
    | none => .error .raised
  | value =>
    match string? library value with
    | none => .ok none
    | some candidate =>
      match library.fromIsoformat candidate with
      | none => .ok (some candidate)
      | some (some text) => .ok (some text)
      | some none => .error .raised

def field (library : Library) (value : Fields) (name : EventField) : Option String :=
  (name.aliases.findSome? (present? value)).bind (string? library)

def timestampField (library : Library) (value : Fields) : Except Failure (Option String) :=
  match EventField.timestamp.aliases.findSome? (present? value) with
  | none => .ok none
  | some candidate => timestamp? library candidate

structure ObservabilityEvent where
  timestamp : String
  service : String
  environment : String
  traceId : Option String
  requestId : Option String
  userIdHash : Option String
  orderIdHash : Option String
  deploymentId : Option String
  commitId : Option String
  host : Option String
  pod : Option String
  severity : Option String
  attributes : Fields

structure Defaults where
  service : String
  environment : String

/-- `value.get("metric")` where it is a mapping, else `{}` -/
def nestedLabels (value : Fields) : Fields := ((value.get? "metric").bind Json.fields?).getD []

/-- `_field(value, name) or _string(nested_labels.get(name))` -/
def fieldOr (library : Library) (value nested : Fields) (name : EventField) : Option String :=
  (field library value name).or ((nested.get? name.key).bind (string? library))

/-- The value of an attribute: `None` falls back to the nested labels. -/
def attribute? (value nested : Fields) (key : String) : Option Json :=
  match present? value key with
  | some candidate => some candidate
  | none => present? nested key

/-- The attributes before the labels are filtered.  The source iterates over a set. -/
def attributesOf (library : Library) (operation : String) (value nested : Fields) : Fields :=
  ("operation", .str operation) :: attributeKeys.filterMap fun key =>
    (attribute? value nested key).map fun candidate =>
      (key, redact (redactText library.word) candidate)

/-- `attributes["labels"]` is replaced by the labels that are safe. -/
def withLabels (library : Library) (value nested attributes : Fields) : Fields :=
  match (value.get? "labels").bind Json.fields? with
  | some labels => attributes.set "labels" (.obj (safeLabels library labels))
  | none =>
    if nested.isEmpty then attributes
    else attributes.set "labels" (.obj (safeLabels library nested))

def normalizeEvent (library : Library) (defaults : Defaults) (operation : String) (value : Fields)
    (index : Nat) : Except Failure ObservabilityEvent := do
  let nested := nestedLabels value
  match ← timestampField library value with
  | none => .error (.value ("event " ++ toString index ++ " has no timestamp"))
  | some timestamp =>
    let service := (fieldOr library value nested .service).getD defaults.service
    let environment := (fieldOr library value nested .environment).getD defaults.environment
    if service = "" ∨ environment = "" then
      .error (.value ("event " ++ toString index ++ " has no service or environment"))
    else
      .ok
        { timestamp := timestamp, service := service, environment := environment
          traceId := fieldOr library value nested .traceId
          requestId := fieldOr library value nested .requestId
          userIdHash := fieldOr library value nested .userIdHash
          orderIdHash := fieldOr library value nested .orderIdHash
          deploymentId := fieldOr library value nested .deploymentId
          commitId := fieldOr library value nested .commitId
          host := fieldOr library value nested .host, pod := fieldOr library value nested .pod
          severity := fieldOr library value nested .severity
          attributes := withLabels library value nested
            (attributesOf library operation value nested) }

/-! ## Records -/

def mappingRecords (values : List Json) : Except Failure (List Fields) :=
  match values.mapM Json.fields? with
  | some records => .ok records
  | none => .error (.value "response records must be objects")

def merge (base point : Fields) : Fields :=
  point.foldl (fun merged entry => merged.set entry.1 entry.2) base

def withPoint (base : Fields) (time value : Json) : Fields :=
  (base.set "timestamp" time).set "value" value

def pointRecord (base : Fields) : Json → Option Fields
  | .arr [time, value] => some (withPoint base time value)
  | .obj point => some (merge base point)
  | _ => none

/-- `series.get("labels", series.get("metric", {}))` where it is a mapping, else `{}` -/
def seriesLabels (series : Fields) : Fields :=
  (((series.get? "labels").or (series.get? "metric")).bind Json.fields?).getD []

def seriesBase (labels : Fields) : Fields :=
  if labels.isEmpty then labels else labels.set "labels" (.obj labels)

/-- The points of a series: the list `values`, or the pair `value` alone. -/
def seriesPoints (series : Fields) : Option (List Json) :=
  match series.get? "values", series.get? "value" with
  | some (.arr points), _ => some points
  | _, some (.arr [time, value]) => some [.arr [time, value]]
  | _, _ => none

/-- The records of one series; a series without points is a record itself. -/
def recordsOfSeries (series : Fields) : List Fields :=
  match seriesPoints series with
  | some points => points.filterMap (pointRecord (seriesBase (seriesLabels series)))
  | none => [series]

def seriesRecords (values : List Json) : Except Failure (List Fields) :=
  match values.mapM Json.fields? with
  | some series => .ok (series.flatMap recordsOfSeries)
  | none => .error (.value "series records must be objects")

def looksLikeRecord (value : Fields) : Bool :=
  (eventFields.any fun name => name.aliases.any value.has) || attributeKeys.any value.has

def listKeys : List String := ["events", "items", "results", "result", "spans", "traces"]

def firstList (payload : Fields) : Option (String × List Json) :=
  listKeys.findSome? fun key => ((payload.get? key).bind Json.values?).map fun values => (key, values)

def hasPoints (item : Json) : Bool :=
  match item.fields? with
  | some fields => fields.has "values" || fields.has "value"
  | none => false

def listRecords (key : String) (values : List Json) : Except Failure (List Fields) :=
  if key = "result" ∧ values.any hasPoints then seriesRecords values else mappingRecords values

/-- The records of a payload without data of its own: its series, or the payload itself. -/
def ownRecords (payload : Fields) : Except Failure (List Fields) :=
  match (payload.get? "series").bind Json.values? with
  | some series => seriesRecords series
  | none => .ok (if looksLikeRecord payload then [payload] else [])

def isContainer : Json → Bool
  | .arr _ | .obj _ => true
  | _ => false

mutual

def records : Json → Except Failure (List Fields)
  | .arr values => mappingRecords values
  | .obj payload =>
    match firstList payload with
    | some (key, values) => listRecords key values
    | none => do
        let nested ← dataRecords payload
        if nested.isEmpty then ownRecords payload else .ok nested
  | _ => .error (.value "response must be an object or array")

/-- `_records(payload["data"])` where that is a mapping or a list -/
def dataRecords : Fields → Except Failure (List Fields)
  | [] => .ok []
  | (key, value) :: rest =>
    if key = "data" then (if isContainer value then records value else .ok [])
    else dataRecords rest

end

def cursorKeys : List String := ["next_cursor", "nextCursor", "cursor"]

def cursor (payload : Json) : Option String :=
  match payload.fields? with
  | none => none
  | some fields => cursorKeys.findSome? fun key =>
    ((fields.get? key).bind Json.str?).filter fun text => text ≠ ""

structure Envelope where
  operation : String
  events : List ObservabilityEvent
  count : Nat
  nextCursor : Option String

def normalizeEvents (library : Library) (defaults : Defaults) (operation : String)
    (records : List Fields) : Except Failure (List ObservabilityEvent) :=
  records.zipIdx.mapM fun entry => normalizeEvent library defaults operation entry.1 entry.2

def normalizeResponse (library : Library) (defaults : Defaults) (operation : String)
    (payload : Json) : Except Failure Envelope :=
  if operation ∉ observabilityOperations then
    .error (.refused (validationError "observability_operation_invalid"
      "The observability operation is not part of the read-only contract"))
  else do
    let found ← records payload
    let events ← normalizeEvents library defaults operation found
    .ok
      { operation := operation, events := events, count := events.length
        nextCursor := cursor payload }

end Obsion.Capabilities
