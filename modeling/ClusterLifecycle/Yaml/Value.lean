/-!
What is written as YAML.
-/

namespace ClusterLifecycle.Yaml

inductive Value where
  | text (s : String)
  /-- A word that is written as it is, such as a number or a truth value. -/
  | word (s : String)
  | sequence (items : List Value)
  | mapping (fields : List (String × Value))
deriving Repr

end ClusterLifecycle.Yaml
