import FlowBuilder.Service.Address

/-!
# Database access

The two clients of the database, by the environment: an ordinary one, without which nothing runs,
and one with all rights, which stores flows. A variable that is set but empty counts as missing. The
address must be that of a server.
-/

namespace FlowBuilder

/-- The variables of the environment that concern the database. -/
structure DatabaseEnvironment where
  /-- The address of the database. -/
  url : Option String
  /-- The key of the ordinary client. -/
  key : Option String
  /-- The key of the client with all rights. -/
  serviceKey : Option String
  deriving DecidableEq, Repr

/-- The keys of the clients that can be made. -/
structure DatabaseClients where
  /-- The address of the database. -/
  url : String
  /-- The key of the ordinary client. -/
  ordinary : String
  /-- The key of the client with all rights, if there is one. -/
  service : Option String
  deriving DecidableEq, Repr

/-- A value that is not empty. -/
def nonempty? (value : Option String) : Option String :=
  value.filter (· ≠ "")

/-- The names of the variables that must be set and are not. -/
def DatabaseEnvironment.missing (env : DatabaseEnvironment) : List String :=
  (if (nonempty? env.url).isNone then ["SUPABASE_URL"] else []) ++
    (if (nonempty? env.key).isNone then ["SUPABASE_KEY"] else [])

/-- Why there are no clients. -/
inductive DatabaseError where
  /-- Variables with these names are not set. -/
  | missing (names : List String)
  /-- The address is not that of a server. -/
  | badAddress (defect : AddressDefect)
  deriving DecidableEq, Repr

/-- The wording of a database error. -/
def DatabaseError.message : DatabaseError → String
  | .missing names => " and ".intercalate names ++ " must be set in environment variables"
  | .badAddress defect => defect.message

/-- The clients of an environment, or why there are none. -/
def DatabaseEnvironment.clients (env : DatabaseEnvironment) :
    Except DatabaseError DatabaseClients :=
  match nonempty? env.url, nonempty? env.key with
  | some url, some key =>
    match Address.check url with
    | .ok () => .ok ⟨url, key, nonempty? env.serviceKey⟩
    | .error defect => .error (.badAddress defect)
  | _, _ => .error (.missing env.missing)

end FlowBuilder
