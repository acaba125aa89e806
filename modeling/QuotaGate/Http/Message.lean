/-
Requests and responses.

A request carries, beside what its client wrote, the end point that it came from and the
user that the surrounding program has already established, where there are any.  A
response body is text.
-/
import QuotaGate.Http.Header
import QuotaGate.Net.Address

namespace QuotaGate

/-- A request; bodies play no part. -/
structure Request where
  method : String
  target : String
  headers : Headers
  peer : Option SocketAddress
  user : Option String

structure Response where
  status : Nat
  headers : Headers
  body : String
  deriving DecidableEq, Repr

namespace Request

/-- What follows `://`, if there is one. -/
def afterScheme? : List Char → Option (List Char)
  | ':' :: '/' :: '/' :: rest => some rest
  | _ :: rest => afterScheme? rest
  | [] => none

/-- The path of a request target, byte for byte: the target up to a query or a fragment,
less scheme and authority if it is absolute.  A target that is an authority alone has
none. -/
def pathOf (target : String) : String :=
  let cs := target.toList.takeWhile fun c => c ≠ '?' && c ≠ '#'
  match cs with
  | '/' :: _ => String.ofList cs
  | ['*'] => "*"
  | _ =>
    match afterScheme? cs with
    | none => ""
    | some rest =>
      match rest.dropWhile (· ≠ '/') with
      | [] => "/"
      | path => String.ofList path

def path (r : Request) : String :=
  pathOf r.target

end Request

end QuotaGate
