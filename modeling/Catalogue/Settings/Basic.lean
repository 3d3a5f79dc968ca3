import Catalogue.Service.Paging

/-!
# Settings

What can be set about the service, in four sections, and the values that hold where nothing is set
(`Catalogue.Settings.default`).
-/

namespace Catalogue

namespace Settings

/-- The settings of the **service** itself. -/
structure Service where
  /-- Its name. -/
  name : String
  /-- The port that it listens on. -/
  port : UInt16
  /-- What goes into the log. -/
  logLevel : String
  /-- The seconds that a request may take. -/
  timeout : UInt64
  /-- Where it runs. -/
  environment : String
  deriving DecidableEq

/-- The settings of the **database**. -/
structure Database where
  /-- Its address. -/
  address : String
  /-- The greatest number of connections. -/
  maxConnections : UInt32
  /-- The least number of connections. -/
  minConnections : UInt32
  /-- The seconds that a request waits for a connection. -/
  connectionTimeout : UInt64
  /-- How often a connection is tried again. -/
  maxRetries : UInt32
  /-- The seconds before it is tried again for the first time. -/
  retryDelay : UInt64
  /-- The tables are made at the start. -/
  autoMigrate : Bool
  deriving DecidableEq

/-- The settings of **what stands around** the service. -/
structure Middleware where
  /-- The greatest size of the body of a request, in units of 1048576 bytes. -/
  bodyLimit : UInt64
  /-- A breakdown is answered. -/
  catchPanic : Bool
  /-- Responses are compressed. -/
  compression : Bool
  /-- What other sites may do. -/
  corsMode : String
  deriving DecidableEq

end Settings

/-- All **settings**. -/
structure Settings where
  /-- Of the service itself. -/
  service : Settings.Service
  /-- Of the database. -/
  database : Settings.Database
  /-- Of searches. -/
  query : Service.Limits
  /-- Of what stands around the service. -/
  middleware : Settings.Middleware
  deriving DecidableEq

namespace Settings

/-- The settings that hold where **nothing is set**. -/
def default : Settings where
  service := ⟨"book-service", 8080, "info", 30, "dev"⟩
  database := ⟨"sqlite:books.db?mode=rwc", 10, 1, 10, 5, 2, true⟩
  query := ⟨1000, 10000⟩
  middleware := ⟨10, true, true, "permissive"⟩

end Settings

end Catalogue
