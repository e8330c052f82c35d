import Callwire.Sample.Payloads
import Callwire.Server.Dispatch
import Callwire.Text.Words

/-!
# The sample call service

A service with a method for every payload type and for every way to fail. It
counts the calls that reach it.
-/

set_option autoImplicit false

namespace Callwire.Sample

structure Echo where
  calls : Nat
  deriving DecidableEq, Repr

namespace Echo

inductive Method
  | say
  | fail
  | count
  | report
  | complain
  | sum
  | raw
  | picky
  | disk
  | status
  | type
  deriving DecidableEq, Repr

namespace Method

def all : List Method :=
  [say, fail, count, report, complain, sum, raw, picky, disk, status, type]

def name : Method → String
  | say => "say"
  | fail => "fail"
  | count => "count"
  | report => "report"
  | complain => "complain"
  | sum => "sum"
  | raw => "raw"
  | picky => "picky"
  | disk => "disk"
  | status => "getHTTPStatus"
  | type => "r#type"

def variant (m : Method) : String := Text.camelCase m.name

end Method

def table : MethodTable Method :=
  match MethodTable.ofList Method.name Method.all with
  | .ok t => t
  | .error _ => ⟨[]⟩

def counted (e : Echo) : Echo := ⟨e.calls + 1⟩

def echoed {α : Type} (e : Echo) (a : α) : Echo × Except ServiceError α := (e.counted, .ok a)

def failing {α β : Type} (message : String) (e : Echo) (_ : α) : Echo × Except ServiceError β :=
  (e.counted, .error ⟨message⟩)

def fail (e : Echo) (m : Msg) : Echo × Except ServiceError Msg := failing m.text e m

def report (e : Echo) (_ : Unit) : Echo × Except ServiceError Failure :=
  (e.counted, .ok ⟨toString e.counted.calls ++ " calls"⟩)

def complain (e : Echo) (f : Failure) : Echo × Except ServiceError Unit :=
  (e.counted, if f.error = "" then .ok () else .error ⟨f.error⟩)

def sum (e : Echo) (s : Sum) : Echo × Except ServiceError Total :=
  (e.counted,
    if s.values.isEmpty then .error ⟨"nothing to add"⟩
    else .ok ⟨s.values.foldl (fun total v => total + v.toUInt64) 0⟩)

def raw (e : Echo) (r : Raw) : Echo × Except ServiceError Raw :=
  (e.counted, .ok ⟨r.bytes.reverse⟩)

def answer (text : String) (e : Echo) (_ : Unit) : Echo × Except ServiceError Msg :=
  (e.counted, .ok ⟨text⟩)

def call (e : Echo) (m : Method) (payload : Bytes) : Echo × Except ServiceError Bytes :=
  match m with
  | .say => adapt (echoed (α := Msg)) e payload
  | .fail => adapt fail e payload
  | .count => adapt (echoed (α := Unit)) e payload
  | .report => adapt report e payload
  | .complain => adapt complain e payload
  | .sum => adapt sum e payload
  | .raw => adapt raw e payload
  | .picky => adapt (echoed (α := Picky)) e payload
  | .disk => adapt (failing (α := Unit) (β := Unit) "disk full") e payload
  | .status => adapt (answer "200") e payload
  | .type => adapt (answer "type") e payload

def service : CallService Echo Method := ⟨table, Method.name, call⟩

end Echo

end Callwire.Sample
