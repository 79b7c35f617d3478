/-
  The values of a TOML document.

  Floats and dates are told apart from other values, but what they say is not kept: no setting is
  one.
-/

namespace SocksProxy.Toml

/-- A value. -/
inductive Value where
  | string (s : String)
  | integer (n : Int)
  | float
  | boolean (b : Bool)
  | date
  | array (items : List Value)
  | table (entries : List (String × Value))
  deriving Repr, Inhabited

end SocksProxy.Toml
