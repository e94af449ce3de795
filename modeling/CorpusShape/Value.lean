import CorpusShape.Numeric.Decimal
import CorpusShape.Text.Quoted
/-!
# Configuration values

The values that configuration files, environment variables and overrides are made of. A mapping keeps its
entries in the order in which their keys came. Mappings are merged key by key, at every depth.
-/
namespace CorpusShape

/-- A configuration value. Values that no setting takes, such as dates, are kept with the name of their
kind and their text. -/
inductive Value where
  | null
  | bool (b : Bool)
  | int (i : Int)
  | float (x : Float)
  | text (s : String)
  | list (items : List Value)
  | map (entries : List (Value × Value))
  | other (kind : String) (shown : String)
deriving Repr, Inhabited

/-- The entries of a mapping. -/
abbrev Entries := List (Value × Value)

namespace Value

/-- The name of the kind of a value. -/
def kind : Value → String
  | .null => "NoneType"
  | .bool _ => "bool"
  | .int _ => "int"
  | .float _ => "float"
  | .text _ => "str"
  | .list _ => "list"
  | .map _ => "dict"
  | .other kind _ => kind

/-- Doubles in shown values are positional from `0.0001` up to 16 digits before the point. -/
def floatLayout : Decimal.Layout := { least := -4, most := 15, exponentWidth := 2 }

mutual
/-- A value on one line, as error messages show it. -/
def shown : Value → String
  | .null => "None"
  | .bool true => "True"
  | .bool false => "False"
  | .int i => toString i
  | .float x => floatLayout.write x
  | .text s => Text.quoted s
  | .list items => "[" ++ String.intercalate ", " (shownItems items) ++ "]"
  | .map entries => "\x7b" ++ String.intercalate ", " (shownEntries entries) ++ "\x7d"
  | .other _ shown => shown

def shownItems : List Value → List String
  | [] => []
  | v :: rest => shown v :: shownItems rest

def shownEntries : Entries → List String
  | [] => []
  | (k, v) :: rest => (shown k ++ ": " ++ shown v) :: shownEntries rest
end

/-- The integer that a truth value or a whole number stands for. -/
def whole? : Value → Option Int
  | .bool b => some (if b then 1 else 0)
  | .int i => some i
  | .float x =>
    match Double.view x with
    | .finite negative m e =>
      let (num, den) := Decimal.fraction m e
      if num % den == 0 then some (if negative then -((num / den : Nat) : Int) else (num / den : Nat)) else none
    | _ => none
  | _ => none

/-- Whether two keys are the same key. Numbers and truth values are compared as numbers. -/
def sameKey : Value → Value → Bool
  | .null, .null => true
  | .text s, .text t => s == t
  | .other k s, .other l t => k == l && s == t
  | .float x, .float y => Double.same x y
  | a, b =>
    match a.whole?, b.whole? with
    | some i, some j => i == j
    | _, _ => false

/-- Whether a value counts as nothing: null, false, zero, or empty. -/
def isFalsy : Value → Bool
  | .null => true
  | .bool b => !b
  | .int i => i == 0
  | .float x => Double.isZero x
  | .text s => s.isEmpty
  | .list items => items.isEmpty
  | .map entries => entries.isEmpty
  | .other _ shown => shown == "set()" || shown == "b''"

end Value

namespace Entries

/-- The value at a key. -/
def get? (key : Value) : Entries → Option Value
  | [] => none
  | (k, v) :: rest => if k.sameKey key then some v else get? key rest

/-- Sets the value at a key, in its place if the key is there. -/
def put (key value : Value) : Entries → Entries
  | [] => [(key, value)]
  | (k, v) :: rest => if k.sameKey key then (k, value) :: rest else (k, v) :: put key value rest

def text? (name : String) (entries : Entries) : Option Value := entries.get? (.text name)

end Entries

mutual
/-- What stands at a key after `upper` has been given for it. -/
def Value.mergeOnto : Value → Option Value → Value
  | .map upper, some (.map base) => .map (Entries.mergeOnto upper base)
  | upper, _ => upper

/-- Gives every entry of the first mapping for the second. Mappings on both sides are merged. -/
def Entries.mergeOnto : Entries → Entries → Entries
  | [], base => base
  | (k, v) :: upper, base => Entries.mergeOnto upper (Entries.put k (Value.mergeOnto v (Entries.get? k base)) base)
end

/-- `base` with the entries of `upper` put over it. -/
def Entries.merge (base upper : Entries) : Entries := upper.mergeOnto base

end CorpusShape
