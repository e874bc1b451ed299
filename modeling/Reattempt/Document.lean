/-!
# Documents

A document is a value of the usual data notation: nothing, a truth value, a
number, a text, a list or an object. Numbers are decimal: `number m e` stands
for `m · 10⁻ᵉ`.
-/

namespace Reattempt

/-- A structured value, as configuration files and responses carry it. -/
inductive Document where
  | null
  | bool (value : Bool)
  | number (mantissa : Int) (exponent : Nat)
  | text (value : String)
  | list (items : List Document)
  | object (fields : List (String × Document))

instance : Inhabited Document := ⟨.null⟩

end Reattempt
