/-
The client object: `rpc_client.h`.
-/
import VectorDb.Types.Basic

namespace VectorDb

/-- The options of a client; the timeout is in milliseconds. -/
structure ClientOption where
  timeout : Int32 := 5000
  readConsistency : Str := eventualConsistency
deriving DecidableEq, Repr

/-- The members of the client that its calls read. -/
structure RpcClient where
  option : ClientOption := {}
deriving DecidableEq, Repr

end VectorDb
