import ExperimentGroups.Json.Encoding
import ExperimentGroups.Service.Address
import ExperimentGroups.Service.Resolution
import ExperimentGroups.Settings
import ExperimentGroups.Text.UpperCase

/-!
# Replies of the service

The service resolves requests and reports its health. A body that is no JSON or describes no request
is answered with all its problems; one that goes beyond the limits of the reader, or is not in the
encoding that its first bytes tell, cannot be read. A reply that cannot be written (it would hold a
lone surrogate, a number that is not finite where none may stand, or too deep a nesting) is a bad
request. In names of dictionaries, lone surrogates are replaced.

## Main definitions

* `Content`: the body of a message
* `Reply`, `Reply.status`: the replies
* `Service.respond`: the reply to a message
-/

namespace ExperimentGroups

/-- **The body of a message**: none, a text, or a value that was read already, with the block that
stands for its lone surrogates if it has any. -/
inductive Content where
  | absent
  | text (s : String)
  | value (j : Json) (block : Option Nat)

/-- **A reply**, unless the message does not arrive. A page for readers and the bare head of a reply
hold no JSON. -/
inductive Reply where
  | healthy (environment : Environment)
  | resolved (r : Resolution)
  | invalid (problems : List Wire.Problem)
  | unreadable
  | badRequest
  | notFound
  | methodNotAllowed
  | withoutJson (status : Nat)
  | undelivered (failure : Address.Failure)
  | unending

/-- The version of the service. -/
def version : String := "0.3.0"

/-- The status of a reply. -/
def Reply.status : Reply → Nat
  | .healthy _ => 200
  | .resolved _ => 200
  | .invalid _ => 422
  | .unreadable => 400
  | .badRequest => 400
  | .notFound => 404
  | .methodNotAllowed => 405
  | .withoutJson status => status
  | .undelivered _ => 400
  | .unending => 500

namespace Service

/-! ## What can be written -/

mutual

/-- Whether a text or a name of a value satisfies a condition. -/
def anyText (p : String → Bool) : Json → Bool
  | .text s => p s
  | .array xs => anyTextOf p xs
  | .object ms => anyTextIn p ms
  | _ => false

/-- `anyText`, for some item. -/
def anyTextOf (p : String → Bool) : List Json → Bool
  | [] => false
  | x :: xs => anyText p x || anyTextOf p xs

/-- `anyText`, for some member. -/
def anyTextIn (p : String → Bool) : List (String × Json) → Bool
  | [] => false
  | (k, x) :: ms => p k || (anyText p x || anyTextIn p ms)

end

/-- Whether a text of a value, or one of its names, holds what stands for a lone surrogate. -/
def isBroken (block : Option Nat) (j : Json) : Bool :=
  block.any fun b => anyText (fun s => s.toList.any (Json.isStandIn b)) j

/-- Whether the part that a problem shows can be written. -/
def isWritable (block : Option Nat) (p : Wire.Problem) : Bool :=
  p.input.isFinite && !isBroken block p.input

/-- A name in a reply: in place of each byte of a lone surrogate it has a replacement character. -/
def repairedName (block : Option Nat) (name : String) : String :=
  match block with
  | none => name
  | some b => String.ofList <| name.toList.flatMap fun c =>
    if Json.isStandIn b c then List.replicate 3 '\uFFFD' else [c]

/-- A problem as it is replied, within the body. -/
def replied (block : Option Nat) (p : Wire.Problem) : Wire.Problem :=
  let path := p.path.map fun
    | .member name => .member (repairedName block name)
    | .item i => .item i
  { p with path := .member "body" :: path }

/-- Whether the name of a requested test holds what stands for a lone surrogate. Such a name has no
length, so it is refused, and the problem would show it. -/
def hasBrokenTest (block : Option Nat) (body : Json) : Bool :=
  match body.get? "requested_tests" with
  | some (.array tests) => tests.any fun test =>
    match test.get? "name" with
    | some (.text name) => isBroken block (.text name)
    | _ => false
  | _ => false

/-! ## Resolving -/

/-- The reply to a request that is described by a value. -/
def resolveValue (body : Json) (block : Option Nat) : Reply :=
  if hasBrokenTest block body then .badRequest
  else
    match Request.shape.read .value body with
    | .error ps =>
      if ps.all (isWritable block) then .invalid (ps.map (replied block)) else .badRequest
    | .ok request =>
      match request.resolve with
      | .error .unending => .unending
      | .error .excess => .badRequest
      | .ok ⟨r, _⟩ =>
        let r := r.rename (repairedName block)
        if r.isWithinNesting && !isBroken block r.json then .resolved r else .badRequest

/-- The reply to a body that is missing. -/
def missingBody : Reply := .invalid [⟨[.member "body"], .missing, .null⟩]

/-- **The reply to a request** with a body. -/
def resolve : Content → Reply
  | .absent => missingBody
  | .value j block => resolveValue j block
  | .text s =>
    if s.isEmpty then missingBody
    else
      match (Json.decode? s).map (Json.readSymbols .lenient) with
      | none => .unreadable
      | some (.error .beyondLimits) => .unreadable
      | some (.error .malformed) => .invalid [⟨[], .notJson, .text s⟩]
      | some (.ok (j, block)) => resolveValue j block

/-! ## Routes -/

/-- **The places of the service.** -/
inductive Route where
  | health
  | resolve
  | documentation
  deriving DecidableEq

/-- The pages that describe the service. -/
def documentationPages : List String :=
  ["/docs", "/docs/oauth2-redirect", "/redoc", "/openapi.json"]

/-- **The route of a path.** Slashes at its end do not matter, nor does a line feed after it. -/
def route? (path : List Char) : Option Route :=
  let trimmed := Text.trimEnd (· == '/') path
  let name := String.ofList (if trimmed.getLast? = some '\n' then trimmed.dropLast else trimmed)
  if name = "/health" then some .health
  else if name = "/groups/resolve" then some .resolve
  else if name ∈ documentationPages then some .documentation
  else none

/-- The reply of a route to a method in upper case. -/
def answer (settings : Settings) (route : Route) (method : String) (content : Content) : Reply :=
  match route with
  | .health => if method = "GET" then .healthy settings.environment else .methodNotAllowed
  | .resolve => if method = "POST" then resolve content else .methodNotAllowed
  | .documentation =>
    if method = "GET" ∨ method = "HEAD" then .withoutJson 200 else .methodNotAllowed

/-- **The reply to a message.** Who asks for the head of a reply is not given its body. -/
def respond (settings : Settings) (method address : String) (content : Content) : Reply :=
  match Address.arrive address with
  | .error failure => .undelivered failure
  | .ok path =>
    let upper := String.ofList (Text.upper method.toList)
    let reply := match route? path with
      | none => .notFound
      | some route => answer settings route upper content
    if upper = "HEAD" then .withoutJson reply.status else reply

end Service

end ExperimentGroups
