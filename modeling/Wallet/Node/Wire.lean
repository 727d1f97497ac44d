import Wallet.Node.Http

/-!
# HTTP as text

How a request is written on a plain connection and how the answer is read back. Requests use
version 1.0 of the protocol, under which the server closes the connection after the answer and
the body is whatever comes before that.
-/

namespace Wallet.Http

/-- Where a request goes. -/
structure Endpoint where
  host : String
  /-- The number under which the host offers the service. -/
  service : UInt16
  path : String
  deriving DecidableEq

namespace Endpoint

/-- The service of a plain connection. -/
def defaultService : UInt16 := 80

/-- What stands in front of the address of a plain connection. -/
def scheme : List Char :=
  "http://".toList

/-- Host and service of an address. -/
def ofAuthority (authority path : List Char) : Option Endpoint :=
  let host := authority.takeWhile (· ≠ ':')
  let path := String.ofList (if path.head? = some '/' then path else '/' :: path)
  if host.isEmpty then none
  else
    match authority.drop host.length with
    | [] => some ⟨String.ofList host, defaultService, path⟩
    | _ :: digits =>
      match (String.ofList digits).toNat? with
      | some service =>
        if service < UInt16.size then some ⟨String.ofList host, UInt16.ofNat service, path⟩
        else none
      | none => none

/-- Read the address of a plain connection. -/
def ofUrl? (url : String) : Option Endpoint :=
  let cs := url.toList
  if scheme.isPrefixOf cs then
    let rest := cs.drop scheme.length
    let authority := rest.takeWhile fun c => c ≠ '/' && c ≠ '?'
    ofAuthority authority (rest.drop authority.length)
  else none

end Endpoint

/-- The lines about the body of a request. -/
def bodyLines (body : String) : String :=
  s!"Content-Type: application/json\r\nContent-Length: {body.utf8ByteSize}\r\n"

/-- A request as it is sent. -/
def requestText (endpoint : Endpoint) (request : Request) : String :=
  s!"{request.method.name} {endpoint.path} HTTP/1.0\r\nHost: {endpoint.host}\r\n" ++
    ((request.body.map bodyLines).getD "") ++ "\r\n" ++ request.body.getD ""

/-- The part of an answer in front of the empty line, and the part behind it. -/
def splitHead : Bytes → Bytes → Option (Bytes × Bytes)
  | _, [] => none
  | head, 13 :: 10 :: 13 :: 10 :: rest => some (head.reverse, rest)
  | head, byte :: rest => splitHead (byte :: head) rest

/-- Bytes as text, if they are UTF-8. -/
def textOf (bytes : Bytes) : Option String :=
  String.fromUTF8? (ByteArray.mk bytes.toArray)

/-- The status in the head of an answer: its second word. -/
def statusOf (head : String) : Option Nat :=
  match head.splitOn " " with
  | _ :: status :: _ => (String.ofList (status.toList.takeWhile Char.isDigit)).toNat?
  | _ => none

/-- An answer as it was received. -/
def messageOf (bytes : Bytes) : Message :=
  match splitHead [] bytes with
  | none => .failed "the answer ends early"
  | some (head, body) =>
    match (textOf head).bind statusOf, textOf body with
    | some status, some text => .received status text
    | none, _ => .failed "the answer has no status"
    | _, none => .failed "the answer is not text"

end Wallet.Http
