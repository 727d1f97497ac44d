/-!
# Requests

What a node is asked: a method, a place, and for some methods a body.
-/

namespace Wallet

/-- The method of a request. -/
inductive Method where
  | get
  | post
  deriving DecidableEq

def Method.name : Method → String
  | .get => "GET"
  | .post => "POST"

/-- A request to a node. -/
structure Request where
  method : Method
  /-- The path, behind the address of the node once that is known. -/
  target : String
  body : Option String
  deriving DecidableEq

namespace Request

def get (target : String) : Request :=
  ⟨.get, target, none⟩

/-- A request that carries a body, sent as `application/json`. -/
def post (target body : String) : Request :=
  ⟨.post, target, some body⟩

end Request

end Wallet
