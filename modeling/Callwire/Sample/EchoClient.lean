import Callwire.Client.Request
import Callwire.Sample.Echo

/-!
# The client of the sample call service

A typed call is a method with its decoded request. Its response is decoded as
what the method returns.
-/

set_option autoImplicit false

namespace Callwire.Sample.Echo

inductive Query
  | say (m : Msg)
  | fail (m : Msg)
  | count
  | report
  | complain (f : Failure)
  | sum (s : Sum)
  | raw (r : Raw)
  | picky (p : Picky)
  | disk
  | status
  | type
  deriving DecidableEq

inductive Reply
  | unit
  | msg (m : Msg)
  | failure (f : Failure)
  | total (t : Total)
  | raw (r : Raw)
  | picky (p : Picky)
  deriving DecidableEq

namespace Query

def method : Query → Method
  | say _ => .say
  | fail _ => .fail
  | count => .count
  | report => .report
  | complain _ => .complain
  | sum _ => .sum
  | raw _ => .raw
  | picky _ => .picky
  | disk => .disk
  | status => .status
  | type => .type

def encode : Query → Except CodecError Bytes
  | say m => Payload.encode m
  | fail m => Payload.encode m
  | count => Payload.encode ()
  | report => Payload.encode ()
  | complain f => Payload.encode f
  | sum s => Payload.encode s
  | raw r => Payload.encode r
  | picky p => Payload.encode p
  | disk => Payload.encode ()
  | status => Payload.encode ()
  | type => Payload.encode ()

end Query

def readReply (m : Method) (payload : Bytes) : Except CodecError Reply :=
  match m with
  | .say | .fail | .status | .type => (Payload.decode payload).map Reply.msg
  | .count | .complain | .disk => (Payload.decode payload).map fun (_ : Unit) => Reply.unit
  | .report => (Payload.decode payload).map Reply.failure
  | .sum => (Payload.decode payload).map Reply.total
  | .raw => (Payload.decode payload).map Reply.raw
  | .picky => (Payload.decode payload).map Reply.picky

def typedResult (m : Method) (r : CallResult) : Except RequestError Reply :=
  match r with
  | .error e => .error e
  | .ok payload =>
    match readReply m payload with
    | .ok reply => .ok reply
    | .error e => .error (.codec e)

end Callwire.Sample.Echo
