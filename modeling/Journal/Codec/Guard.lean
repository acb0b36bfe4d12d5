import Journal.Codec.Identity
import Journal.Guard

/-!
# Records of requests in JSON
-/

namespace Journal

namespace Guard.Key

def toJson (k : Key) : Json :=
  .ofMembers [("org_scope", .text k.scope), ("actor_id", .text k.actor),
    ("endpoint_name", .text k.endpoint), ("idempotency_key", .text k.key)]

/-- A key from JSON. Its parts are taken as they are: the checks are made where a key is made, and
what was kept has passed them. -/
def ofJson? (v : Json) : Option Key := do
  let f ← v.fields? ["org_scope", "actor_id", "endpoint_name", "idempotency_key"]
  return ⟨← f.required "org_scope" Json.text?, ← f.required "actor_id" Json.text?,
    ← f.required "endpoint_name" Json.text?, ← f.required "idempotency_key" Json.text?⟩

end Guard.Key

namespace Response

def toJson (r : Response) : Json :=
  .ofMembers [("status_code", .int r.status), ("body", .ofOption id r.body)]

def ofJson? (v : Json) : Option Response := do
  let f ← v.fields? ["status_code", "body"]
  return ⟨← f.required "status_code" (Json.nat? (2 ^ 16)), ← f.optional "body" some⟩

end Response

namespace Guard.Record

def toJson (r : Record) : Json :=
  .ofMembers [("key", r.key.toJson), ("request_hash", .text r.hash),
    ("response", .ofOption Response.toJson r.response), ("created_at", r.createdAt.toJson)]

def ofJson? (v : Json) : Option Record := do
  let f ← v.fields? ["key", "request_hash", "response", "created_at"]
  return {
    key := ← f.required "key" Key.ofJson?
    hash := ← f.required "request_hash" Json.text?
    response := ← f.optional "response" Response.ofJson?
    createdAt := ← f.required "created_at" Instant.ofJson? }

end Guard.Record

end Journal
