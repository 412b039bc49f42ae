/-!
# Kinds of documents

The kinds of documents that a schema may refer to.
-/

namespace ApiSchema

/-- A kind of document. -/
inductive DocumentKind where
  | config
  | project
  | app
  | service
  | command
  deriving DecidableEq, Repr

namespace DocumentKind

def all : List DocumentKind := [.config, .project, .app, .service, .command]

def name : DocumentKind → String
  | .config => "config"
  | .project => "project"
  | .app => "app"
  | .service => "service"
  | .command => "command"

/-- The name of the union of a kind's documents, if there are several. -/
def typeName : DocumentKind → String
  | .config => "SystemConfiguration"
  | .project => "ProjectConfiguration"
  | .app => "AppConfiguration"
  | .service => "ServiceConfiguration"
  | .command => "CommandConfiguration"

def ofName? (name : String) : Option DocumentKind :=
  all.find? (·.name == name)

end DocumentKind

end ApiSchema
