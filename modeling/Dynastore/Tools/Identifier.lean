import Dynastore.Foundation.Value

/-! The check that catalog and collection ids pass before they reach a statement. -/

namespace Dynastore

def postgresReservedWords : List String :=
  ["all", "analyse", "analyze", "and", "any", "array", "as", "asc", "asymmetric", "both",
    "case", "cast", "check", "collate", "column", "constraint", "create", "current_catalog",
    "current_date", "current_role", "current_time", "current_timestamp", "current_user",
    "default", "deferrable", "desc", "distinct", "do", "else", "end", "except", "false",
    "fetch", "for", "foreign", "from", "grant", "group", "having", "in", "initially",
    "intersect", "into", "leading", "limit", "localtime", "localtimestamp", "not", "null",
    "offset", "on", "only", "or", "order", "placing", "primary", "references", "returning",
    "select", "session_user", "some", "symmetric", "table", "then", "to", "trailing", "true",
    "union", "unique", "user", "using", "variadic", "when", "where", "window", "with"]

/-- `^[a-z_][a-z0-9_.>-]*$`, whose end may stand before a last line break. -/
def identifierCharacters : List Char → Bool
  | [] => false
  | first :: rest =>
    let body := if rest.getLast? = some '\n' then rest.dropLast else rest
    (first.isLower || first == '_') &&
      body.all fun char => char.isLower || char.isDigit || "_.>-".toList.contains char

/-- `str.lower` as far as the check sees it: all other letters beyond ASCII stay beyond it. -/
def lowerChars : Char → List Char
  | '\u212a' => ['k']
  | '\u0130' => ['i', '\u0307']
  | char => [char.toLower]

def invalidIdentifier (identifier : String) : Option String :=
  let lower := String.ofList (identifier.toList.flatMap lowerChars)
  if identifier = "" then some "Identifier cannot be empty."
  else if containsText identifier "\x7b\x7b" || containsText identifier "\x7d\x7d" then
    some ("Identifier '" ++ identifier ++ "' contains an unsubstituted template placeholder " ++
      "('\x7b\x7b...\x7d\x7d'); substitute it with a real value before issuing the request.")
  else if 63 < lower.toList.length then some "Identifier must be 63 characters or less."
  else if lower ∈ postgresReservedWords then
    some ("Identifier '" ++ lower ++ "' is a reserved keyword.")
  else if !identifierCharacters lower.toList then
    some ("Identifier must start with a letter or underscore, and contain only " ++
      "lowercase letters, numbers, underscores, dots, or JSON operators (->).")
  else none

end Dynastore
