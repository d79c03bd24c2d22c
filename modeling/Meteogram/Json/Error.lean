import Meteogram.Json.Literal
import Meteogram.Json.Token
import Meteogram.Decimal.Shortest
import Meteogram.Text.Printable

/-!
# What can be wrong with a JSON text

A text is truncated, malformed, or holds data that its reader does not accept. `Mismatch.message`
words the last kind.
-/

namespace Meteogram.Json

/-- The text of a finite double: the fewest digits that read back, positional from `0.00001` up to
sixteen digits before the point, with a point always; beyond, an exponent that has a sign. -/
def floatChars (x : Float) : List Char :=
  match Decimal.Binary.ofFloat x with
  | .notANumber => "NaN".toList
  | .infinite negative => if negative then "-inf".toList else "inf".toList
  | .finite negative m q =>
    let sign := if negative then ['-'] else []
    if m = 0 then sign ++ "0.0".toList
    else
      let s := Decimal.shortest m q
      let ds := Text.digits s.digits
      let point : Int := ds.length + s.exponent
      let body :=
        if 0 ≤ s.exponent ∧ point ≤ 16 then
          ds ++ List.replicate s.exponent.toNat '0' ++ ".0".toList
        else if 0 < point ∧ point ≤ 16 then
          ds.take point.toNat ++ '.' :: ds.drop point.toNat
        else if -5 < point ∧ point ≤ 0 then
          "0.".toList ++ List.replicate (-point).toNat '0' ++ ds
        else
          let mantissa := match ds with
            | [d] => [d]
            | d :: rest => d :: '.' :: rest
            | [] => []
          mantissa ++ 'e' :: (if point < 1 then '-' else '+') :: Text.digits (point - 1).natAbs
      sign ++ body

/-- A value as an error names it. -/
inductive Found where
  | null
  | bool (b : Bool)
  | integer (n : Int)
  | float (x : Float)
  | text (s : String)
  | sequence
  | map
  /-- A variant that was written without its content. -/
  | unitVariant
deriving DecidableEq, Repr

def Found.describe : Found → String
  | null => "null"
  | bool b => if b then "boolean `true`" else "boolean `false`"
  | integer n => "integer `" ++ String.ofList (Text.signed n) ++ "`"
  | float x => "floating point `" ++ String.ofList (floatChars x) ++ "`"
  | text s => "string " ++ Text.debugQuoted s
  | sequence => "sequence"
  | map => "map"
  | unitVariant => "unit variant"

/-- Data that a reader does not accept. -/
inductive Mismatch where
  | invalidType (found : Found) (expected : String)
  | invalidValue (found : Found) (expected : String)
  | invalidLength (length : Nat) (expected : String)
  | missingField (name : String)
  | duplicateField (name : String)
  | unknownVariant (name : String) (expected : List String)
  /-- No shape of the named type fits. -/
  | noShape (type : String)
  /-- The domain does not accept the value, for the given reason. -/
  | refused (reason : String)
deriving DecidableEq, Repr

/-- The names of the variants in an error: two with `or`, more as a list. -/
def variantList : List String → String
  | [] => "there are no variants"
  | [a] => "expected `" ++ a ++ "`"
  | [a, b] => "expected `" ++ a ++ "` or `" ++ b ++ "`"
  | names => "expected one of " ++ ", ".intercalate (names.map fun n => "`" ++ n ++ "`")

def Mismatch.message : Mismatch → String
  | invalidType found expected => "invalid type: " ++ found.describe ++ ", expected " ++ expected
  | invalidValue found expected => "invalid value: " ++ found.describe ++ ", expected " ++ expected
  | invalidLength length expected =>
    "invalid length " ++ String.ofList (Text.digits length) ++ ", expected " ++ expected
  | missingField name => "missing field `" ++ name ++ "`"
  | duplicateField name => "duplicate field `" ++ name ++ "`"
  | unknownVariant name expected => "unknown variant `" ++ name ++ "`, " ++ variantList expected
  | noShape type => "data did not match any variant of untagged enum " ++ type
  | refused reason => reason

inductive Error where
  | fault (f : Fault)
  | data (m : Mismatch)
deriving DecidableEq, Repr

end Meteogram.Json
