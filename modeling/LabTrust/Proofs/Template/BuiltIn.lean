/-
The pieces of the built-in templates.

* `Template.nodePieces`, `Template.rootPieces`: what the reader of templates finds in the sources of
  the two templates; the sources follow the grammar.
-/
import LabTrust.Template
import Mathlib

namespace LabTrust

namespace Template

/-- The loop over the further hosts of a node; it writes a comma before each of them. -/
def hostLoop : Piece :=
  .loop (.name "host") (.name "hosts") none
    [.text ",
      \"".toList, .value (.name "host"), .text "\"".toList] []

/-- The pieces of the template of a node. -/
def nodePieces : List Piece :=
  [.text "\x7b
    \"CN\": \"".toList, .value (.name "name"), .text ".".toList, .value (.name "prefix"),
    .text ".io\",
    \"key\": \x7b
      \"algo\": \"rsa\",
      \"size\": 2048
    \x7d,
    \"names\": [\x7b
      \"C\": \"".toList, .value (.name "country"), .text "\",
      \"L\": \"".toList, .value (.name "locality"), .text "\",
      \"O\": \"".toList, .value (.name "organization"), .text "\",
      \"OU\": \"".toList, .value (.name "organization_unit"), .text "\"
    \x7d],
    \"hosts\": [
      \"".toList, .value (.name "name"), .text "\",
      \"".toList, .value (.name "long_name"), .text "\",
      \"".toList, .value (.name "fqdn"), .text "\"".toList, hostLoop, .text "
    ]
\x7d
".toList]

/-- The pieces of the template of a root. -/
def rootPieces : List Piece :=
  [.text "\x7b
    \"CN\": \"".toList, .value (.name "prefix"), .text " Root CA\",
    \"key\": \x7b
       \"algo\": \"rsa\",
       \"size\": 2048
    \x7d,
    \"names\": [\x7b
       \"C\": \"".toList, .value (.name "country"), .text "\",
       \"L\": \"".toList, .value (.name "locality"), .text "\",
       \"O\": \"".toList, .value (.name "organization"), .text "\",
       \"OU\": \"".toList, .value (.name "organization_unit"), .text "\"
    \x7d],
    \"ca\": \x7b
       \"expiry\": \"".toList, .value (.name "expiry"), .text "\"
    \x7d
\x7d
".toList]

set_option maxRecDepth 100000 in
lemma read?_nodeSource : read? nodeSource.toList = some nodePieces := by
  have hsource : nodeSource.toList = _ := String.toList_ofList
  rw [hsource]
  cbv

set_option maxRecDepth 100000 in
lemma read?_rootSource : read? rootSource.toList = some rootPieces := by
  have hsource : rootSource.toList = _ := String.toList_ofList
  rw [hsource]
  cbv

lemma ofNode_pieces : ofNode.pieces = nodePieces := by
  rw [ofNode, piecesOf, read?_nodeSource, Option.getD_some]

lemma ofRoot_pieces : ofRoot.pieces = rootPieces := by
  rw [ofRoot, piecesOf, read?_rootSource, Option.getD_some]

end Template

end LabTrust
