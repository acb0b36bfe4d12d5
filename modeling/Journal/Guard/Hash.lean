import Journal.Digest.Sha256
import Journal.Json.Canonical
import Journal.Store.Error

/-!
# The hash of a request

Requests are compared by a digest of the endpoint and the canonical text of the request, with a line
break between them. The canonical text holds no line break, so that the place of the break can be
told.
-/

namespace Journal.Guard

/-- What is hashed of a request: the endpoint, a line break, and the request in its canonical form.
No canonical form contains a line break, so that the two parts can be told apart again. -/
def hashedChars (endpoint : String) (request : Json) : List Char :=
  endpoint.toList ++ '\n' :: request.canonical

def hashedBytes (endpoint : String) (request : Json) : List UInt8 :=
  (String.ofList (hashedChars endpoint request)).toUTF8.data.toList

def requestHash (endpoint : String) (request : Json) : String :=
  Digest.sha256Hex (hashedBytes endpoint request)

/-- The hash of a request that may have failed to become a value. -/
def requestHashOf (endpoint : String) (request : Except String Json) : Except StoreError String :=
  match request with
  | .ok v => .ok (requestHash endpoint v)
  | .error reason => .error (.validation s!"request serialization failed: {reason}")

end Journal.Guard
