/-!
The functions that expressions may call, by their names.
-/

namespace Harvest.XPath

inductive Function
  | last | position | count | string | concat | contains | startsWith | endsWith
  | substring | substringBefore | substringAfter | stringLength | normalizeSpace | translate
  | lowerCase | upperCase | not | true | false | boolean | number | sum
  | floor | ceiling | round | name | localName
  deriving DecidableEq, Repr

def Function.table : List (String × Function) :=
  [("last", .last), ("position", .position), ("count", .count), ("string", .string),
    ("concat", .concat), ("contains", .contains), ("starts-with", .startsWith),
    ("ends-with", .endsWith), ("substring", .substring),
    ("substring-before", .substringBefore), ("substring-after", .substringAfter),
    ("string-length", .stringLength), ("normalize-space", .normalizeSpace),
    ("translate", .translate), ("lower-case", .lowerCase), ("upper-case", .upperCase),
    ("not", .not), ("true", .true), ("false", .false), ("boolean", .boolean),
    ("number", .number), ("sum", .sum), ("floor", .floor), ("ceiling", .ceiling),
    ("round", .round), ("name", .name), ("local-name", .localName)]

def Function.ofName? (name : String) : Option Function := Function.table.lookup name

def functionNames : List String :=
  ["last", "position", "count", "string", "concat", "contains", "starts-with", "ends-with",
    "substring", "substring-before", "substring-after", "string-length", "normalize-space",
    "translate", "lower-case", "upper-case", "not", "true", "false", "boolean", "number", "sum",
    "floor", "ceiling", "round", "name", "local-name"]

end Harvest.XPath
