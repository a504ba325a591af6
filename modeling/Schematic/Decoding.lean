import Schematic.Failure
import Schematic.Json.Reader

/-!
Decoding of JSON texts to values.  Numbers too large for a float are refused, like the words
for what is no finite number.
-/

namespace Schematic
namespace Value

mutual

/-- A float somewhere in the value is infinite or no number. -/
def hasNonFinite : Value → Bool
  | .float x => !x.isFinite
  | .list items => itemsHaveNonFinite items
  | .dict entries => entriesHaveNonFinite entries
  | _ => false

def itemsHaveNonFinite : List Value → Bool
  | [] => false
  | item :: rest => hasNonFinite item || itemsHaveNonFinite rest

def entriesHaveNonFinite : List (Value × Value) → Bool
  | [] => false
  | (_, value) :: rest => hasNonFinite value || entriesHaveNonFinite rest

end

end Value

def decode (text : List UInt8) : Except Failure Value :=
  match Json.read false text with
  | .error error => .error (.here (.malformedJson error.message))
  | .ok json =>
    let value := json.toValue
    if value.hasNonFinite then
      .error (.here (.malformedJson Json.Fault.numberOutOfRange.message))
    else .ok value

end Schematic
