/-!
# Routes

The paths at which the service answers, and the methods that each takes. A path that differs from
that of a route by slashes at its end is redirected to it (`Route.otherPath`).
-/

namespace FlowBuilder

/-- The routes. -/
inductive Route where
  /-- The form of requests and responses. -/
  | schema
  /-- The page from which the service can be tried out. -/
  | explorer
  /-- Where a sign-in on that page comes back to. -/
  | explorerSignIn
  /-- The page that describes the service. -/
  | reference
  /-- The greeting. -/
  | root
  /-- The sign of life. -/
  | health
  /-- The state of the database. -/
  | databaseHealth
  /-- Requests for flows. -/
  | flows
  deriving DecidableEq, Repr

namespace Route

/-- The routes in their order. -/
def all : List Route :=
  [.schema, .explorer, .explorerSignIn, .reference, .root, .health, .databaseHealth, .flows]

/-- The path of a route. -/
def path : Route → String
  | .schema => "/openapi.json"
  | .explorer => "/docs"
  | .explorerSignIn => "/docs/oauth2-redirect"
  | .reference => "/redoc"
  | .root => "/"
  | .health => "/health"
  | .databaseHealth => "/health/db"
  | .flows => "/api/agents/flows"

/-- The methods of a route. -/
def methods : Route → List String
  | .schema | .explorer | .explorerSignIn | .reference => ["GET", "HEAD"]
  | .root | .health | .databaseHealth => ["GET"]
  | .flows => ["POST"]

/-- The route of a path, at whose end a line break does not matter. -/
def ofPath? (path : String) : Option Route :=
  all.find? fun route => path = route.path || path = route.path ++ "\n"

/-- The path that is meant by one without a route: that without the slashes at its end or, if there
are none, that with one. -/
def otherPath (path : String) : String :=
  match path.toList.reverse with
  | '/' :: r => String.ofList (r.dropWhile (· = '/')).reverse
  | _ => path ++ "/"

end Route

end FlowBuilder
