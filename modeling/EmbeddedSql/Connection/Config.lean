import EmbeddedSql.Json.Printer
import EmbeddedSql.Json.Record

/-! How a connection opens its database and reads the engine's answers. -/

namespace EmbeddedSql

structure ConnectionConfig where
  readOnly : Bool := false
  createIfMissing : Bool := true
  uriFilenames : Bool := false
  /-- Unknown step codes end the rows instead of failing. -/
  lenientStepStatus : Bool := false
deriving DecidableEq, Repr

inductive Access where
  | readOnly
  | readWrite
  | create
deriving DecidableEq, Repr

structure OpenMode where
  access : Access
  uri : Bool
deriving DecidableEq, Repr

namespace ConnectionConfig

def openMode (config : ConnectionConfig) : OpenMode where
  access :=
    if config.readOnly then .readOnly
    else if config.createIfMissing then .create
    else .readWrite
  uri := config.uriFilenames

/-! ## As JSON -/

private def field (key : String) (set : Bool → ConnectionConfig → ConnectionConfig) :
    Json.Field ConnectionConfig where
  key := key
  read tree config := tree.boolean?.map (set · config)

def format : Json.RecordFormat ConnectionConfig where
  fields :=
    [field "read_only" fun value config => { config with readOnly := value },
      field "create_if_missing" fun value config => { config with createIfMissing := value },
      field "uri_filenames" fun value config => { config with uriFilenames := value },
      field "lenient_step_status" fun value config => { config with lenientStepStatus := value }]
  initial := {}
  hasDefaults := true

def toJson (config : ConnectionConfig) : Json :=
  .object
    [("read_only", .boolean config.readOnly),
      ("create_if_missing", .boolean config.createIfMissing),
      ("uri_filenames", .boolean config.uriFilenames),
      ("lenient_step_status", .boolean config.lenientStepStatus)]

end ConnectionConfig

end EmbeddedSql
