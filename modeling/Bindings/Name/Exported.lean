import Bindings.Name.Words

/-! Exported identifiers: words joined with initial capitals, initialisms in capitals. -/

set_option autoImplicit false

namespace Bindings.Name

open Unicode (upper uppercase)

def initialisms : List (List Char) :=
  ["ACL", "API", "ASCII", "CPU", "CSS", "DNS", "EOF", "GUID", "HTML", "HTTP", "HTTPS", "ID", "IP",
    "JSON", "LHS", "QPS", "RAM", "RHS", "RPC", "SLA", "SMTP", "SQL", "SSH", "TCP", "TLS", "TTL",
    "UDP", "UI", "UID", "UUID", "URI", "URL", "UTF8", "VM", "XML", "XMPP", "XSRF", "XSS"].map
    String.toList

/-- Plural initialisms at the end of an identifier, and their spelling there. -/
def plurals : List (List Char × List Char) :=
  [("Ids".toList, "IDs".toList), ("Urls".toList, "URLs".toList), ("Uuids".toList, "UUIDs".toList)]

def capitalized : List Char → List Char
  | [] => []
  | c :: rest => upper c ++ rest

def spellWord (word : List Char) : List Char :=
  if initialisms.contains (uppercase word) then uppercase word else capitalized word

def fixPlural (ident : List Char) : List Char :=
  (plurals.findSome? fun plural =>
    (Text.before? plural.1 ident).map fun stem => stem ++ plural.2).getD ident

/-- The one irregular abbreviation, corrected wherever it occurs. -/
def fixAbbreviation : List Char → List Char
  | 'X' :: 'p' :: 'a' :: 't' :: 'h' :: rest => 'X' :: 'P' :: 'a' :: 't' :: 'h' :: fixAbbreviation rest
  | c :: rest => c :: fixAbbreviation rest
  | [] => []

def exportedChars (raw : List Char) : List Char :=
  fixAbbreviation (fixPlural ((words raw).flatMap spellWord))

def exported (raw : String) : String := .ofList (exportedChars raw.toList)

def capitalize (text : String) : String := .ofList (capitalized text.toList)

end Bindings.Name
