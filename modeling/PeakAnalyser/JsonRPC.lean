import Mathlib.Logic.Function.Basic

/-!
# JSON-RPC calls

What the two transports have in common: the request, the members of a reply that
`call` looks at, and the exceptions it throws. JSON values and their texts belong
to the library nlohmann::json, which is a parameter.
-/

namespace PeakAnalyser

set_option autoImplicit false

namespace JsonRPCException

inductive ErrorCode where
  | badResponse | jsonrpcError | networkException
  deriving DecidableEq

end JsonRPCException

structure JsonRPCException where
  code : JsonRPCException.ErrorCode
  message : String
  deriving DecidableEq

/-- A request object. `call` tells the calls of a run apart; the id that is sent is the
32-bit message counter, which wraps around. -/
structure JsonRPCRequest (Json : Type) where
  call : Nat
  msgId : UInt32
  method : String
  params : Json
  deriving DecidableEq

/-- `std::to_string` of the message counter. -/
def JsonRPCRequest.id {Json : Type} (request : JsonRPCRequest Json) : String :=
  toString request.msgId.toNat

/-- The members of a JSON object that `call` and `on_message` look at; `{}` has none. -/
structure JsonRPCReply (Json : Type) where
  id : Option String := none
  error : Option Json := none
  result : Option Json := none
  deriving DecidableEq

/-- What the transports use of nlohmann::json. `parse` is `none` for a text that is not
JSON, and a reply without members for one that is not an object. -/
structure JsonLibrary (Json : Type) where
  null : Json
  dump : Json → String
  dumpReply : JsonRPCReply Json → String
  dumpRequest : JsonRPCRequest Json → String
  parse : List UInt8 → Option (JsonRPCReply Json)

namespace JsonRPCReply

variable {Json : Type} (json : JsonLibrary Json) (reply : JsonRPCReply Json)

/-- `reply["error"]`: a member that is missing is inserted as null. -/
def insertError : JsonRPCReply Json := { reply with error := some (reply.error.getD json.null) }

/-- `reply["result"]`: a member that is missing is inserted as null. -/
def insertResult : JsonRPCReply Json := { reply with result := some (reply.result.getD json.null) }

end JsonRPCReply

namespace JsonLibrary

/-- JSON restricted to null and the numbers; it parses the replies to the first two calls
that have a digit as result. -/
def numbers : JsonLibrary (Option Nat) :=
  let dump : Option Nat → String := fun value => value.elim "null" toString
  let member : String → String → String := fun name value => "\"" ++ name ++ "\":" ++ value
  let object : List String → String := fun members => "\x7b" ++ ",".intercalate members ++ "\x7d"
  let dumpReply : JsonRPCReply (Option Nat) → String := fun reply => object
    ((reply.error.map fun value => member "error" (dump value)).toList ++
      (reply.id.map fun id => member "id" ("\"" ++ id ++ "\"")).toList ++
      (reply.result.map fun value => member "result" (dump value)).toList)
  { null := none
    dump
    dumpReply
    dumpRequest request := object [member "id" ("\"" ++ request.id ++ "\""),
      member "jsonrpc" "\"2.0\"", member "method" ("\"" ++ request.method ++ "\""),
      member "params" (dump request.params)]
    parse s := (List.range 20).findSome? fun n =>
      let reply : JsonRPCReply (Option Nat) :=
        { id := some (toString (n / 10)), result := some (some (n % 10)) }
      if (dumpReply reply).toUTF8.toList = s then some reply else none }

end JsonLibrary

end PeakAnalyser
