import Rollout.Binary64.Decimal
import Rollout.Codec
import Rollout.Kube.Time.Reader
import Rollout.Text.Encoding

/-!
The value types of Kubernetes objects that are more than texts and numbers: quantities, ports given
by number or by name, byte strings and times.
-/

namespace Rollout.Kube

/-- A port or a share, by number or by text. -/
inductive IntOrText where
  | number (value : Int32)
  | text (value : String)
deriving DecidableEq

def IntOrText.codec : Codec IntOrText where
  read v := (Codec.int32.read v).map .number <|> (Codec.text.read v).map .text
  write
    | .number value => Codec.int32.write value
    | .text value => .string value

/-- An amount of a resource, kept as it is written. -/
structure Quantity where
  text : String
deriving DecidableEq

/-- A number is read as its decimal text, the shortest one that tells it from other numbers. -/
def Quantity.codec : Codec Quantity where
  read v := (Codec.text.read v).map Quantity.mk <|>
    (Source.integer? v).map (fun value => ⟨toString value⟩) <|>
    (Source.real? v).map fun value => ⟨value.toText⟩
  write quantity := .string quantity.text

/-- A byte string in Base64; null is the empty one. -/
def bytesCodec : Codec (List UInt8) where
  read v := do
    if ← Source.isUnset? v then return []
    else Text.Base64.decode? (← Source.text? v).toList
  write bytes := .string (String.ofList (Text.Base64.encode bytes))

def Time.codec : Codec Time where
  read v := do Time.ofText? (← Source.text? v)
  write time := .string time.toText

end Rollout.Kube
