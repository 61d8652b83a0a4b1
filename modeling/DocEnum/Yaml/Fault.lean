import DocEnum.Value.Fault

/-!
# Faults of YAML texts

Why a text has no value. Most faults tell only that the text is malformed; the others tell of
scalars that are not what their tag says, and of limits.
-/

namespace DocEnum.Yaml

/-- Why a text has no value. -/
inductive Fault where
  /-- The text is not YAML, or says something that has no meaning in it. -/
  | malformed
  | notTruth
  | notTime
  /-- A mapping is said to be a date or a time. -/
  | timeOfMapping
  /-- A scalar is said to be a number and is empty. -/
  | emptyNumber
  /-- A code or a number is beyond what can be counted with. -/
  | overflow
  | tooDeep
  | value (fault : Value.Fault)
deriving DecidableEq, Repr

def Fault.message : Fault → Text
  | malformed => "the text is not YAML"
  | notTruth => "a scalar is no truth value"
  | notTime => "a scalar is no date"
  | timeOfMapping => "a mapping is no date"
  | emptyNumber => "a number is empty"
  | overflow => "a number is too large"
  | tooDeep => "nodes are nested too deep"
  | value fault => fault.message

end DocEnum.Yaml
