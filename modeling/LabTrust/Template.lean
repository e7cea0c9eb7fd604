/-
Request templates.

A template is a request document with places for the fields of an identity.
* `Template.compile`: a template from its text, or a failure that names it.
* `Template.render`: the document of an identity. A place that the identity does not fill is a
  failure, not an empty text.
* `Template.ofRoot`, `Template.ofNode`: the built-in templates.
* `Template.expand`: a text with places in it, filled in at once; one line end at its end is left
  out.
-/
import LabTrust.Error
import LabTrust.Template.Fill
import LabTrust.Template.Reader

namespace LabTrust

/-- A template that follows the grammar. -/
structure Template where
  name : String
  pieces : List Template.Piece
  deriving Inhabited

namespace Template

/-- Compiles a template. -/
def compile (name source : String) : Except Error Template :=
  match read? source.toList with
  | some pieces => .ok ⟨name, pieces⟩
  | none => .error (.badTemplate name "syntax error")

/-- The document that a template makes of an identity. -/
def render (t : Template) (input : Data) : Except Error String :=
  match fill t.pieces input with
  | .ok s => .ok s
  | .error fault => .error (.unfilledTemplate t.name fault.message)

/-- A text without one line end at its end. -/
def dropLineEnd (s : List Char) : List Char :=
  let s := if s.getLast? = some '\n' then s.dropLast else s
  if s.getLast? = some '\x0d' then s.dropLast else s

/-- A text with its places filled in. -/
def expand (source : String) (input : Data) : Except String String :=
  match read? (dropLineEnd source.toList) with
  | none => .error "syntax error"
  | some pieces => (fill pieces input).mapError Fault.message

/-! ### The built-in templates -/

/-- The request of a lab's root. -/
def rootSource : String :=
"\x7b
    \"CN\": \"\x7b\x7b prefix \x7d\x7d Root CA\",
    \"key\": \x7b
       \"algo\": \"rsa\",
       \"size\": 2048
    \x7d,
    \"names\": [\x7b
       \"C\": \"\x7b\x7b country \x7d\x7d\",
       \"L\": \"\x7b\x7b locality \x7d\x7d\",
       \"O\": \"\x7b\x7b organization \x7d\x7d\",
       \"OU\": \"\x7b\x7b organization_unit \x7d\x7d\"
    \x7d],
    \"ca\": \x7b
       \"expiry\": \"\x7b\x7b expiry \x7d\x7d\"
    \x7d
\x7d
"

/-- The request of a node. -/
def nodeSource : String :=
"\x7b
    \"CN\": \"\x7b\x7b name \x7d\x7d.\x7b\x7b prefix \x7d\x7d.io\",
    \"key\": \x7b
      \"algo\": \"rsa\",
      \"size\": 2048
    \x7d,
    \"names\": [\x7b
      \"C\": \"\x7b\x7b country \x7d\x7d\",
      \"L\": \"\x7b\x7b locality \x7d\x7d\",
      \"O\": \"\x7b\x7b organization \x7d\x7d\",
      \"OU\": \"\x7b\x7b organization_unit \x7d\x7d\"
    \x7d],
    \"hosts\": [
      \"\x7b\x7b name \x7d\x7d\",
      \"\x7b\x7b long_name \x7d\x7d\",
      \"\x7b\x7b fqdn \x7d\x7d\"\x7b% for host in hosts %\x7d,
      \"\x7b\x7b host \x7d\x7d\"\x7b% endfor %\x7d
    ]
\x7d
"

/-- The pieces of a source that follows the grammar; none of one that does not. -/
def piecesOf (source : String) : List Piece := (read? source.toList).getD []

/-- The built-in template of a root. -/
def ofRoot : Template := ⟨"ca-csr", piecesOf rootSource⟩

/-- The built-in template of a node. -/
def ofNode : Template := ⟨"node-csr", piecesOf nodeSource⟩

end Template

end LabTrust
