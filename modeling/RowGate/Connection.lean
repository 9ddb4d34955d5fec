import RowGate.Service
import RowGate.Settings
import RowGate.Store.Postgres

namespace RowGate

/-!
# Connecting

A service over a database is opened by connecting and loading the catalog of one
schema.  A pool that may not wait gets no connection.  If the catalog cannot be
loaded the pool is closed again, so a service that could not be opened executes
nothing.
-/

namespace Service

variable {δ : Type} [Database δ]

/-- The event of an opened pool. -/
def openedEvent (pool : PoolSettings) : Event where
  severity := .info
  name := "POOL_OPENED"
  fields := [("acquire_timeout_secs", Nat.repr pool.acquireTimeoutSeconds),
    ("max_connections", Nat.repr pool.maxConnections)]

/-- The event of a loaded catalog. -/
def loadedEvent (schema : String) (catalog : Catalog) : Event where
  severity := .info
  name := "SCHEMA_LOADED"
  fields := [("schema", schema), ("tables", Nat.repr catalog.tableNames.length)]

/-- Open a pool over the database of a URL. -/
def reach (database : δ) (url : String) (pool : PoolSettings) :
    Except StoreError (Postgres δ) :=
  match ConnectionOptions.read url with
  | .error fault => .error (.execution ("error with configuration: " ++ fault.message))
  | .ok options =>
      if pool.acquireTimeoutSeconds = 0 then .error ConnectError.timedOut.toStoreError
      else
        match Database.connect database options with
        | .error error => .error error.toStoreError
        | .ok connected => .ok (.ofDatabase connected options.cacheCapacity)

/-- Load the catalog of a service that has been connected. -/
def loadCatalog (service : Service (Postgres δ)) (schema : String) :
    Except Failure Unit × Service (Postgres δ) :=
  let loaded := service.store.loadCatalog schema
  let after := { service with store := loaded.2 }
  match loaded.1 with
  | .error error => (.error error.toFailure, after.close)
  | .ok catalog =>
      (.ok (), { after with catalog := catalog }.record (loadedEvent schema catalog))

/-- Open a service over a database. -/
def connect (database : δ) (url : String) (pool : PoolSettings) (schema auditTable : String)
    (journal : Journal) (random : Random) : Except Failure Unit × Service (Postgres δ) :=
  let idle : Service (Postgres δ) :=
    .start (.ofDatabase database 0) .empty auditTable journal random
  match reach database url pool with
  | .error error => (.error error.toFailure, { idle with store := idle.store.close })
  | .ok connected =>
      loadCatalog (({ idle with store := connected }).record (openedEvent pool)) schema

end Service
end RowGate
