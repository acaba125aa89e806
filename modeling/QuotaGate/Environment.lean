/-
Environments: names with the bytes of their values.

A value that is not UTF-8 cannot be read and counts as unset.
-/
import QuotaGate.Text.Encoding

namespace QuotaGate

/-- The bytes that each name is set to, if it is set. -/
structure Environment where
  value? : String → Option (List UInt8)

namespace Environment

/-- The environment in which nothing is set. -/
def empty : Environment := ⟨fun _ => none⟩

/-- The environment that sets each name of the list to its first value there. -/
def ofList (pairs : List (String × List UInt8)) : Environment :=
  ⟨fun name => pairs.lookup name⟩

/-- The text that a name is set to. -/
def text? (env : Environment) (name : String) : Option String :=
  (env.value? name).bind Text.ofUtf8?

/-- The environment with `name` set to a text. -/
def set (env : Environment) (name text : String) : Environment :=
  ⟨fun n => if n = name then some (Text.toUtf8 text) else env.value? n⟩

end Environment

end QuotaGate
