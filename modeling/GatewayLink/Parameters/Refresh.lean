import GatewayLink.Parameters.Store
import GatewayLink.Settings.Basic

/-!
# The calls of a refresh plan

A call whose parameters are left open is made with those that its method was last called with; one
that gives parameters keeps them for later.
-/

namespace GatewayLink

namespace RepeatedCall

/-- The parameters of a method of which none are known. -/
def noParams : Json := .object []

/-- A call with its parameters settled, and the store afterwards; parameters that cannot be kept
are used all the same. -/
def fill (store : ParameterStore) (call : RepeatedCall) : RepeatedCall × ParameterStore :=
  if call.params.isNull then
    ({ call with params := (store.load? call.method).getD noParams }, store)
  else (call, (store.save call.method call.params).2)

/-- All calls with their parameters settled, in order, and the store afterwards. -/
def fillAll (store : ParameterStore) : List RepeatedCall → List RepeatedCall × ParameterStore
  | [] => ([], store)
  | call :: rest =>
    let (call, store) := call.fill store
    let (calls, store) := fillAll store rest
    (call :: calls, store)

end RepeatedCall

end GatewayLink
