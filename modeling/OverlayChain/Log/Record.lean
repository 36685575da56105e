/-!
# Log records

What the chain reports about its own work while it runs.

## Main definitions

- `Log.Level`: how important a record is, from errors down to traces.
- `Log.Record`: a message, its level and the part of the program that speaks.
-/

namespace OverlayChain.Log

/-- How important a record is. -/
inductive Level where
  | error
  | warn
  | info
  | debug
  | trace
  deriving DecidableEq

namespace Level

/-- The place of a level in the order from important to minute. -/
def rank : Level → Nat
  | error => 1
  | warn => 2
  | info => 3
  | debug => 4
  | trace => 5

/-- The name of a level, as records show it. -/
def name : Level → String
  | error => "ERROR"
  | warn => "WARN"
  | info => "INFO"
  | debug => "DEBUG"
  | trace => "TRACE"

end Level

/-- The part of the program that speaks. -/
inductive Speaker where
  | loader
  | overlay
  | git
  deriving DecidableEq

/-- The name of a speaker, as records show it and as filters select it. -/
def Speaker.name : Speaker → String
  | loader => "overlay_loader::loader"
  | overlay => "overlay_loader::overlay"
  | git => "overlay_loader::git"

/-- A message with its level and its speaker. -/
structure Record where
  level : Level
  speaker : Speaker
  message : String
  deriving DecidableEq

end OverlayChain.Log
