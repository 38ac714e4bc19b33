/-
Module: NodeSync.Metrics.Endpoint
Purpose: The HTTP endpoint of the metrics: two routes, one for the published text and one that
  says that the controller is alive. Both are read with GET, or with HEAD for the header alone.
Main exports: Metrics.Page, Metrics.respond
-/
import NodeSync.Http.Method
import NodeSync.Http.Target
import NodeSync.Metrics

namespace NodeSync.Metrics

open NodeSync.Http

set_option autoImplicit false

/-- An answer of the endpoint. -/
structure Page where
  status : Nat
  contentType : Option String
  body : String
deriving Repr, Inhabited, DecidableEq

namespace Page

/-- The answer without any content. -/
def blank (status : Nat) : Page := ⟨status, none, ""⟩

/-- The answer to a request for the header alone. -/
def header (page : Page) : Page := { page with body := "" }

end Page

/-- The content under a path. -/
def page? (metrics : Metrics) (path : String) : Option Page :=
  if path = "/metrics" then some ⟨200, some "text/plain; version=0.0.4", metrics.render⟩
  else if path = "/healthz" then some ⟨200, some "text/plain; charset=utf-8", "ok"⟩
  else none

/-- The answer to a request: 404 where there is nothing, 405 to other methods. -/
def respond (metrics : Metrics) (method : Method) (target : Target) : Page :=
  match metrics.page? target.path, method with
  | none, _ => .blank 404
  | some page, .get => page
  | some page, .head => page.header
  | some _, .other _ => .blank 405

end NodeSync.Metrics
