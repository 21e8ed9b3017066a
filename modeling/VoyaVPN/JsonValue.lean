import VoyaVPN.RustText

/-! The JSON values `serde_json` hands to the code. Numbers keep their text. -/
namespace JsonValue

inductive Value where
  | null
  | bool (value : Bool)
  | number (text : String)
  | string (text : String)
  | array (items : List Value)
  | object (fields : List (String × Value))
  deriving Repr

/-- `Value::get` with a key; a repeated key keeps its last value. -/
def Value.get (v : Value) (key : String) : Option Value :=
  match v with
  | .object fields => fields.reverse.lookup key
  | _ => none

def Value.asStr : Value → Option String
  | .string text => some text
  | _ => none

def Value.isObject : Value → Bool
  | .object _ => true
  | _ => false

end JsonValue
