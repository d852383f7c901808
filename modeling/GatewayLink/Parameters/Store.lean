import GatewayLink.Failure
import GatewayLink.Json.Document
import GatewayLink.Json.Printer
import GatewayLink.Storage.Writing

/-!
# Kept parameters

The parameters that a method was last called with are kept as texts in a store, in memory or in a
file.  The file is one JSON object.  Each write reads it again and keeps what it does not concern;
a file that is no object counts as empty.
-/

namespace GatewayLink

/-- A store of texts by key. -/
inductive ParameterStore where
  | memory (values : Table String)
  /-- A file at a path in a tree. -/
  | file (path : FilePath) (tree : FileTree)

namespace ParameterStore

/-- The members of the object that a text holds; none where it holds no object. -/
def membersOf (text : Option String) : List (String × Json) :=
  match text.bind Json.read? with
  | some (.object members) => members
  | _ => []

/-- The text under a key of an object. -/
def valueOf? (members : List (String × Json)) (key : String) : Option String :=
  (members.lookup key).bind Json.string?

/-- An object with a key bound to a text, as it is written to the file. -/
def updatedText (members : List (String × Json)) (key value : String) : String :=
  (Json.object (Json.insertMember key (.string value) members)).indented

/-- The text under a key. -/
def get? (store : ParameterStore) (key : String) : Option String :=
  match store with
  | .memory values => values.get? key
  | .file path tree => valueOf? (membersOf (tree.text? path)) key

/-- Binds a key to a text. -/
def set (store : ParameterStore) (key value : String) : Except ClientError Unit × ParameterStore :=
  match store with
  | .memory values => (.ok (), .memory (values.set key value))
  | .file path tree =>
    let (result, tree) := tree.writeText (updatedText (membersOf (tree.text? path)) key value) path
    (result.mapError fun fault => .io fault.message, .file path tree)

theorem get?_set_memory (values : Table String) (key other value : String) :
    (ParameterStore.memory (values.set key value)).get? other =
      if other = key then some value else (ParameterStore.memory values).get? other := by
  simp [get?]

/-- The key of a method's parameters. -/
def methodKey (method : String) : String := "preset:" ++ method

/-- Keeps the parameters of a method. -/
def save (store : ParameterStore) (method : String) (params : Json) :
    Except ClientError Unit × ParameterStore :=
  store.set (methodKey method) params.compact

/-- The parameters of a method; nothing where none are kept or their text is no value. -/
def load? (store : ParameterStore) (method : String) : Option Json :=
  (store.get? (methodKey method)).bind Json.read?

/-- What can be asked of a store. -/
inductive Operation where
  | get (key : String)
  | set (key value : String)
  | save (method : String) (params : Json)
  | load (method : String)

/-- The answer of a store. -/
inductive Outcome where
  | value (text : Option String)
  | written (result : Except ClientError Unit)
  | params (value : Option Json)

/-- Carries out an operation. -/
def apply (store : ParameterStore) : Operation → Outcome × ParameterStore
  | .get key => (.value (store.get? key), store)
  | .set key value => (store.set key value).map .written id
  | .save method params => (store.save method params).map .written id
  | .load method => (.params (store.load? method), store)

end ParameterStore

end GatewayLink
