import Catalogue.Settings.Basic
import Catalogue.Settings.Section

/-!
# Settings by name

The four sections of the settings, with the names and kinds of what they hold. For each of them,
`members` lists its settings by name and `ofMembers` puts a section together from what was said,
where the settings of another one hold for what was not. `Catalogue.Settings.ofTree?` reads all
settings from a tree.
-/

namespace Catalogue

/-! ### The service -/

namespace Settings.Service

/-- The **section** of the service. -/
def shape : Section :=
  ⟨"ServiceConfig", [("name", .text), ("port", .word UInt16.size "u16"), ("log_level", .text),
    ("timeout_secs", .word UInt64.size "u64"), ("environment", .text)]⟩

/-- The settings of the service by name. -/
def members (s : Service) : List (String × Plain) :=
  [("environment", .text s.environment), ("log_level", .text s.logLevel), ("name", .text s.name),
    ("port", .number s.port.toNat), ("timeout_secs", .number s.timeout.toNat)]

/-- The settings of the service from what was said. -/
def ofMembers (otherwise : Service) (said : List (String × Plain)) : Service where
  name := textOr said "name" otherwise.name
  port := UInt16.ofNat (numberOr said "port" otherwise.port.toNat)
  logLevel := textOr said "log_level" otherwise.logLevel
  timeout := UInt64.ofNat (numberOr said "timeout_secs" otherwise.timeout.toNat)
  environment := textOr said "environment" otherwise.environment

/-- What a section lists is the section. -/
theorem ofMembers_members (s t : Service) : ofMembers t s.members = s := by
  simp [ofMembers, members, textOr, numberOr, List.lookup_cons]

end Settings.Service

/-! ### The database -/

namespace Settings.Database

/-- The **section** of the database. -/
def shape : Section :=
  ⟨"DatabaseConfig", [("url", .text), ("max_connections", .word UInt32.size "u32"),
    ("min_connections", .word UInt32.size "u32"),
    ("connection_timeout_secs", .word UInt64.size "u64"),
    ("max_retries", .word UInt32.size "u32"), ("retry_delay_secs", .word UInt64.size "u64"),
    ("auto_migrate", .boolean)]⟩

/-- The settings of the database by name. -/
def members (d : Database) : List (String × Plain) :=
  [("auto_migrate", .boolean d.autoMigrate),
    ("connection_timeout_secs", .number d.connectionTimeout.toNat),
    ("max_connections", .number d.maxConnections.toNat),
    ("max_retries", .number d.maxRetries.toNat),
    ("min_connections", .number d.minConnections.toNat),
    ("retry_delay_secs", .number d.retryDelay.toNat), ("url", .text d.address)]

/-- The settings of the database from what was said. -/
def ofMembers (otherwise : Database) (said : List (String × Plain)) : Database where
  address := textOr said "url" otherwise.address
  maxConnections := UInt32.ofNat (numberOr said "max_connections" otherwise.maxConnections.toNat)
  minConnections := UInt32.ofNat (numberOr said "min_connections" otherwise.minConnections.toNat)
  connectionTimeout :=
    UInt64.ofNat (numberOr said "connection_timeout_secs" otherwise.connectionTimeout.toNat)
  maxRetries := UInt32.ofNat (numberOr said "max_retries" otherwise.maxRetries.toNat)
  retryDelay := UInt64.ofNat (numberOr said "retry_delay_secs" otherwise.retryDelay.toNat)
  autoMigrate := booleanOr said "auto_migrate" otherwise.autoMigrate

/-- What a section lists is the section. -/
theorem ofMembers_members (d e : Database) : ofMembers e d.members = d := by
  simp [ofMembers, members, textOr, numberOr, booleanOr, List.lookup_cons]

end Settings.Database

/-! ### Searches -/

namespace Service.Limits

open Settings

/-- The **section** of searches. -/
def shape : Section :=
  ⟨"QueryConfig", [("default_limit", .word UInt64.size "u64"),
    ("max_limit", .word UInt64.size "u64")]⟩

/-- The settings of searches by name. -/
def members (l : Limits) : List (String × Plain) :=
  [("default_limit", .number l.standard.toNat), ("max_limit", .number l.most.toNat)]

/-- The settings of searches from what was said. -/
def ofMembers (otherwise : Limits) (said : List (String × Plain)) : Limits where
  standard := UInt64.ofNat (numberOr said "default_limit" otherwise.standard.toNat)
  most := UInt64.ofNat (numberOr said "max_limit" otherwise.most.toNat)

/-- What a section lists is the section. -/
theorem ofMembers_members (l k : Limits) : ofMembers k l.members = l := by
  simp [ofMembers, members, numberOr, List.lookup_cons]

end Service.Limits

/-! ### What stands around the service -/

namespace Settings.Middleware

/-- The **section** of what stands around the service. -/
def shape : Section :=
  ⟨"MiddlewareConfig", [("body_limit_mb", .word UInt64.size "usize"), ("catch_panic", .boolean),
    ("compression", .boolean), ("cors_mode", .text)]⟩

/-- The settings of what stands around the service by name. -/
def members (m : Middleware) : List (String × Plain) :=
  [("body_limit_mb", .number m.bodyLimit.toNat), ("catch_panic", .boolean m.catchPanic),
    ("compression", .boolean m.compression), ("cors_mode", .text m.corsMode)]

/-- The settings of what stands around the service from what was said. -/
def ofMembers (otherwise : Middleware) (said : List (String × Plain)) : Middleware where
  bodyLimit := UInt64.ofNat (numberOr said "body_limit_mb" otherwise.bodyLimit.toNat)
  catchPanic := booleanOr said "catch_panic" otherwise.catchPanic
  compression := booleanOr said "compression" otherwise.compression
  corsMode := textOr said "cors_mode" otherwise.corsMode

/-- What a section lists is the section. -/
theorem ofMembers_members (m n : Middleware) : ofMembers n m.members = m := by
  simp [ofMembers, members, textOr, numberOr, booleanOr, List.lookup_cons]

end Settings.Middleware

/-! ### All sections -/

namespace Settings

/-- All settings by the names of their sections and their own. -/
def sections (s : Settings) : List (String × List (String × Plain)) :=
  [("database", s.database.members), ("middleware", s.middleware.members),
    ("query", s.query.members), ("service", s.service.members)]

/-- All settings as a tree. -/
def tree (s : Settings) : Tree :=
  .table (s.sections.map fun (name, members) =>
    (name, .table (members.map fun (key, v) => (key, v.tree))))

/-- All settings in JSON. -/
def toJson (s : Settings) : Json :=
  .object (s.sections.map fun (name, members) =>
    (name, .object (members.map fun (key, v) => (key, v.toJson))))

/-- What the members of a tree say for a section; nothing if the section is not among them. -/
def said (name : String) (shape : Section) (members : List (String × Tree)) :
    Except Fault (List (String × Plain)) :=
  match members.lookup name with
  | none => .ok []
  | some t => (shape.read t).mapError (Fault.under name)

/-- **All settings** of a tree. Sections are read in the order of their names. -/
def ofTree? (t : Tree) : Except Fault Settings :=
  match t with
  | .table members => do
    let database ← said "database" Database.shape members
    let middleware ← said "middleware" Middleware.shape members
    let query ← said "query" Service.Limits.shape members
    let service ← said "service" Service.shape members
    return {
      service := .ofMembers default.service service
      database := .ofMembers default.database database
      query := .ofMembers default.query query
      middleware := .ofMembers default.middleware middleware }
  | t => .error ⟨[], .wrongKind t "struct Config"⟩

end Settings

end Catalogue
