import ViewTemplate.Cache.Memory
import ViewTemplate.Page.Render
import ViewTemplate.Settings.Basic

/-!
# Compiling views

A compiler renders views from a factory and keeps what it rendered in a cache.
-/

namespace ViewTemplate

/-- Why a view has no output. -/
inductive PageFailure where
  | error (e : PageError)
  /-- A program used up its steps. -/
  | unfinished

def PageFailure.message : PageFailure → String
  | error e => e.message
  | unfinished => "a program did not finish"

namespace Engine

/-- The output of a view, with the factory after all views it needed have been made. -/
def output (engine : Engine) (view : View) (factory : Factory) :
    Except PageFailure String × Factory :=
  match engine.renderPage Factory.create unlimitedSteps view factory with
  | .done text _ shared => (.ok text, shared.source)
  | .failed e _ shared => (.error (.error e), shared.source)
  | .unfinished => (.error .unfinished, factory)

/-- The engine a configuration describes: everything as it is by default but the depth. -/
def ofConfiguration (c : Configuration) : Engine :=
  { maxDepth := c.maxDepth }

end Engine

/-- The cache a configuration describes. -/
def Cache.ofConfiguration (c : Configuration) : Cache :=
  if c.cacheEnabled then .memory { lifetime := c.lifetime } else .none

end ViewTemplate
