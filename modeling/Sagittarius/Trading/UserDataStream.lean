import Mathlib.Algebra.Order.Ring.Rat
import Mathlib.Data.Finset.Insert

set_option autoImplicit false

namespace Sagittarius

structure StreamTask where
  token : Option ℕ
  generation : ℕ
deriving DecidableEq

-- A cancellation token is its place among those created, a task handle that of
-- its task among those spawned. No call here is under a lock.
structure FuturesUserDataStream where
  taskHandle : Option ℕ := none
  token : Option ℕ := none
  generation : ℕ := 0
  unrealizedPnlBySymbol : List (String × ℚ) := []
  tokens : ℕ := 0
  tasks : List StreamTask := []
  cancelledTokens : Finset ℕ := ∅
  cancelledTasks : Finset ℕ := ∅

inductive StartCall
  | check
  | setToken
  | resetPnl
  | readGeneration
  | writeGeneration (read : ℕ)
  | spawn
  | setHandle (task : ℕ)
  | returned (started : Bool)
deriving DecidableEq

def StartCall.advance (stream : FuturesUserDataStream) : StartCall → Option (StartCall × FuturesUserDataStream)
  | .check => some (if stream.taskHandle.isSome then .returned false else .setToken, stream)
  | .setToken => some (.resetPnl, { stream with token := some stream.tokens, tokens := stream.tokens + 1 })
  | .resetPnl => some (.readGeneration, { stream with unrealizedPnlBySymbol := [] })
  | .readGeneration => some (.writeGeneration stream.generation, stream)
  | .writeGeneration read => some (.spawn, { stream with generation := read + 1 })
  | .spawn =>
      some (.setHandle stream.tasks.length,
        { stream with tasks := stream.tasks ++ [{ token := stream.token, generation := stream.generation }] })
  | .setHandle task => some (.returned true, { stream with taskHandle := some task })
  | .returned _ => none

-- `raised` is the AttributeError of a handle or a token that another call has
-- set to None in the meantime.
inductive StopCall
  | check
  | readGeneration
  | writeGeneration (read : ℕ)
  | checkToken
  | cancelToken
  | cancelTask
  | clearHandle
  | clearToken
  | returned (stopped : Bool)
  | raised
deriving DecidableEq

def StopCall.advance (stream : FuturesUserDataStream) : StopCall → Option (StopCall × FuturesUserDataStream)
  | .check => some (if stream.taskHandle.isSome then .readGeneration else .returned false, stream)
  | .readGeneration => some (.writeGeneration stream.generation, stream)
  | .writeGeneration read => some (.checkToken, { stream with generation := read + 1 })
  | .checkToken => some (if stream.token.isSome then .cancelToken else .cancelTask, stream)
  | .cancelToken =>
      some (match stream.token with
        | some token => (.cancelTask, { stream with cancelledTokens := insert token stream.cancelledTokens })
        | none => (.raised, stream))
  | .cancelTask =>
      some (match stream.taskHandle with
        | some task => (.clearHandle, { stream with cancelledTasks := insert task stream.cancelledTasks })
        | none => (.raised, stream))
  | .clearHandle => some (.clearToken, { stream with taskHandle := none })
  | .clearToken => some (.returned true, { stream with token := none })
  | .returned _ => none
  | .raised => none

end Sagittarius
