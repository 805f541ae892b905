import StubConsole.Instant
import StubConsole.Json.Record

/-!
# RequestLog — one observed request and its answer

* `LoggedRequest`, `LoggedResponse` — what came in and what went out;
* `RequestLog` — both, with the time as the server wrote it;
* `RequestLog.cmpTime` — the order in time; a log without a readable time comes last.
-/

namespace StubConsole

open Rule Members

structure LoggedRequest where
  method : String
  url : String
  absoluteUrl : Option String
  headers : SortedMap (List String)
  queryParams : SortedMap (List String)
  body : Option String
  deriving DecidableEq, Repr

namespace LoggedRequest

def names : List String := ["method", "url", "absoluteUrl", "headers", "queryParams", "body"]

def shape : Json.Shape := .record (names.map (·, .any)) false

def ofJson? (doc : Json) : Option LoggedRequest := do
  let m ← ofObjectOrArray? names 0 doc
  return {
    method := ← m.field "method" text
    url := ← m.field "url" text
    absoluteUrl := ← m.field "absoluteUrl" (optional string)
    headers := ← m.field "headers" (orElse ∅ (table (list string)))
    queryParams := ← m.field "queryParams" (orElse ∅ (table (list string)))
    body := ← m.field "body" looseOption }

def ofStrings (items : List String) : Json := .arr (items.map .str)

def toJson (r : LoggedRequest) : Json :=
  .obj <|
    [("method", .str r.method), ("url", .str r.url)]
      ++ whenSome "absoluteUrl" (r.absoluteUrl.map .str)
      ++ [("headers", ofTable ofStrings r.headers),
        ("queryParams", ofTable ofStrings r.queryParams)]
      ++ whenSome "body" (r.body.map .str)

end LoggedRequest

structure LoggedResponse where
  status : Nat
  body : Option String
  bodyFileName : Option String
  headers : SortedMap String
  deriving DecidableEq, Repr

namespace LoggedResponse

def empty : LoggedResponse := ⟨0, none, none, ∅⟩

def names : List String := ["status", "body", "bodyFileName", "headers"]

def shape : Json.Shape := .record (names.map (·, .any)) false

def ofJson? (doc : Json) : Option LoggedResponse := do
  let m ← ofObjectOrArray? names 0 doc
  return {
    status := ← m.field "status" (orElse 0 Rule.status)
    body := ← m.field "body" looseOption
    bodyFileName := ← m.field "bodyFileName" (optional string)
    headers := ← m.field "headers" (orElse ∅ (table string)) }

def toJson (r : LoggedResponse) : Json :=
  .obj <|
    [("status", .ofNat r.status)]
      ++ whenSome "body" (r.body.map .str)
      ++ whenSome "bodyFileName" (r.bodyFileName.map .str)
      ++ [("headers", ofTable .str r.headers)]

end LoggedResponse

structure RequestLog where
  id : String
  timestamp : String
  request : LoggedRequest
  responseDefinition : LoggedResponse
  wasMatched : Bool
  stubMapping : Option String
  deriving DecidableEq, Repr

namespace RequestLog

def fields : List (String × Json.Shape) :=
  [("id", .any), ("timestamp", .any), ("request", LoggedRequest.shape),
   ("responseDefinition", LoggedResponse.shape), ("wasMatched", .any), ("stubMapping", .any)]

def names : List String := fields.map (·.1)

def ofJson? (doc : Json) : Option RequestLog := do
  let m ← ofObjectOrArray? names 0 doc
  return {
    id := ← m.field "id" ident
    timestamp := ← m.field "timestamp" loose
    request := ← m.field "request" (required LoggedRequest.ofJson?)
    responseDefinition := ← m.field "responseDefinition" (orElse .empty LoggedResponse.ofJson?)
    wasMatched := ← m.field "wasMatched" (orElse false boolean)
    stubMapping := ← m.field "stubMapping" (optional string) }

def toJson (l : RequestLog) : Json :=
  .obj <|
    [("id", .str l.id), ("timestamp", .str l.timestamp), ("request", l.request.toJson),
     ("responseDefinition", l.responseDefinition.toJson), ("wasMatched", .bool l.wasMatched)]
      ++ whenSome "stubMapping" (l.stubMapping.map .str)

instance : Record RequestLog where
  shape := .record fields false
  ofJson? := ofJson?
  toJson := toJson

/-! ## Time -/

def time? (l : RequestLog) : Option Instant :=
  Instant.read? l.timestamp

def cmpTime (a b : RequestLog) : Ordering :=
  match a.time?, b.time? with
  | some x, some y => x.cmp y
  | some _, none => .lt
  | none, some _ => .gt
  | none, none => .eq

end RequestLog

end StubConsole
