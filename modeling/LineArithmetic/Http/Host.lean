import LineArithmetic.Text.Blank

/-!
# Hosts

The host that a request names: a domain name or an address between brackets,
and an optional port.  It is served if its domain is one of the allowed ones.
-/

namespace LineArithmetic.Http

/-- The characters of a domain name. -/
def isDomainChar (c : Char) : Bool :=
  c.isLower || c.isDigit || c == '.' || c == '-'

/-- The characters of an address between brackets. -/
def isAddressChar (c : Char) : Bool :=
  ('a' ≤ c && c ≤ 'f') || c.isDigit

/-- Whether the text between two brackets is an address: hexadecimal digits, a
colon, and at least one more digit, point or colon. -/
def isAddress (cs : List Char) : Bool :=
  match cs.dropWhile isAddressChar with
  | ':' :: rest => !rest.isEmpty && rest.all fun c => isAddressChar c || c == '.' || c == ':'
  | _ => false

/-- Whether a text is nothing or a colon with a port. -/
def isPortPart : List Char → Bool
  | [] => true
  | c :: port => c == ':' && !port.isEmpty && port.all Char.isDigit

/-- The domain of a host in lower case, if the host is well formed. -/
def domain? (host : String) : Option (List Char) :=
  let cs := host.toList.map Char.toLower
  let name := cs.takeWhile isDomainChar
  let inside := (cs.drop 1).takeWhile (· != ']')
  if !name.isEmpty && isPortPart (cs.dropWhile isDomainChar) then some name
  else if cs.head? = some '[' ∧ isAddress inside ∧
      (cs.drop (1 + inside.length)).head? = some ']' ∧
      isPortPart (cs.drop (2 + inside.length)) then
    some ('[' :: inside ++ [']'])
  else none

/-- Whether a domain fits a pattern: all domains, one domain, or with a leading
point one domain and those below it. -/
def fitsPattern (domain : List Char) (pattern : String) : Bool :=
  match pattern.toList.map Char.toLower with
  | ['*'] => true
  | '.' :: parent => domain == parent || ('.' :: parent).isSuffixOf domain
  | name => !name.isEmpty && name == domain

/-- Whether a host may be served; a point at the end of its domain is ignored. -/
def isAllowedHost (allowed : List String) (host : String) : Bool :=
  match domain? host with
  | none => false
  | some domain =>
    let plain := if domain.getLast? = some '.' then domain.dropLast else domain
    !plain.isEmpty && allowed.any (fitsPattern plain)

end LineArithmetic.Http
