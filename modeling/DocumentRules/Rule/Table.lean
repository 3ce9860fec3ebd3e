import DocumentRules.Rule.Basic

/-!
The flat table of a schema: one entry for every enforced rule, under its full path.
What lies inside a rule comes before the rule itself. A key that is nothing but the
sign for every element names the container that the rule lies in.
-/

set_option autoImplicit false

namespace DocumentRules

structure TableEntry where
  path : Path
  rule : Rule

namespace TableEntry

def key (entry : TableEntry) : String := entry.path.tableKey

end TableEntry

def Path.extend (origin : Path) (key : String) : Path :=
  let path := Path.ofKey key
  if path = [.every] then origin else origin ++ path

namespace Schema

mutual

def tableAt (origin : Path) : List (String × Rule) → List TableEntry
  | [] => []
  | (key, rule) :: rest => ruleTable (origin.extend key) rule ++ tableAt origin rest

def ruleTable (path : Path) : Rule → List TableEntry
  | ⟨tag, allowNull, validation, fields, enforced⟩ =>
      (match tag, fields with
        | some .object, some inner => tableAt path inner
        | some .array, some inner => tableAt (path ++ [.every]) inner
        | _, _ => []) ++
      if enforced then [⟨path, ⟨tag, allowNull, validation, fields, enforced⟩⟩] else []

end

def table (schema : Schema) : List TableEntry := tableAt [] schema

end Schema

end DocumentRules
