import Callwire.Sample.Payloads
import Callwire.Server.Dispatch

/-!
# The sample push service

An event for every payload type that can be pushed.
-/

set_option autoImplicit false

namespace Callwire.Sample.Ticker

inductive Event
  | tick
  | price
  | blob
  | alarm
  | picky
  deriving DecidableEq, Repr

def Event.name : Event → String
  | tick => "tick"
  | price => "price"
  | blob => "blob"
  | alarm => "alarm"
  | picky => "picky"

def Event.all : List Event := [.tick, .price, .blob, .alarm, .picky]

inductive Value
  | tick
  | price (p : Price)
  | blob (r : Raw)
  | alarm (f : Failure)
  | picky (p : Picky)
  deriving DecidableEq

def serviceName : String := "Ticker"

def emit {σ S L : Type} [Socket S] [Logger L] (h : Host σ S L) : Value → Host σ S L
  | .tick => h.push serviceName Event.tick.name ()
  | .price p => h.push serviceName Event.price.name p
  | .blob r => h.push serviceName Event.blob.name r
  | .alarm f => h.push serviceName Event.alarm.name f
  | .picky p => h.push serviceName Event.picky.name p

end Callwire.Sample.Ticker
