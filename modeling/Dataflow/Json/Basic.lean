namespace Dataflow

inductive Json where
  | null
  | bool (value : Bool)
  | integer (value : Int)
  | float (value : Float)
  | string (value : String)
  | array (items : List Json)
  | object (members : List (String × Json))
deriving Inhabited

namespace Json

-- A repeated key keeps its place and takes the new value.
def put (key : String) (value : Json) : List (String × Json) → List (String × Json)
  | [] => [(key, value)]
  | member :: rest => if member.1 = key then (key, value) :: rest else member :: put key value rest

end Json
end Dataflow
