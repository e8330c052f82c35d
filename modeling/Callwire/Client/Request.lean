import Callwire.Frame
import Callwire.Payload.Codec
import Callwire.Trace

/-!
# Requests of a client

What a call is before it is sent, how it may fail, and what a connection does to
those outside while it handles calls.
-/

set_option autoImplicit false

namespace Callwire

inductive RequestError
  | alreadyClosed
  | closed
  | timeout
  | idsExhausted
  | remote (message : String)
  | codec (e : CodecError)
  | frame (e : FrameError)
  deriving DecidableEq

namespace RequestError

def message : RequestError → String
  | alreadyClosed => "connection already closed"
  | closed => "connection closed before a response arrived"
  | timeout => "request timed out"
  | idsExhausted => "request ids exhausted"
  | remote m => m
  | codec e => "codec: " ++ e.message
  | frame e => "frame: " ++ e.message

def remoteMessage? : RequestError → Option String
  | remote m => some m
  | _ => none

end RequestError

abbrev CallResult := Except RequestError Bytes

structure Call where
  caller : Nat
  method : String
  payload : Bytes
  abandoned : Bool
  deriving DecidableEq

inductive Effect (ε : Type)
  | finish (caller : Nat) (result : CallResult)
  | trace (t : Trace)
  | event (e : ε)

def reply {ε : Type} (caller : Nat) (abandoned : Bool) (r : CallResult) : List (Effect ε) :=
  if abandoned then [] else [.finish caller r]

end Callwire
