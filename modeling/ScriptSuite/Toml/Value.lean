set_option autoImplicit false

namespace ScriptSuite.Toml

inductive Value where
  | string (text : String)
  | integer (value : Int)
  | float
  | boolean (value : Bool)
  | dateTime
  | array (items : List Value)
  | table (entries : List (String × Value))
deriving Inhabited

end ScriptSuite.Toml
