/-
Filters and tests of templates.

* `filter`: what a filter makes of a value and its arguments. Only the filter for defaults takes a
  value that is missing.
* `test`: what a test says of a value.
* `escape`: a text that is safe between the tags of a page.

These are not all filters and tests of the template engine. Others, such as the filters `title`,
`split`, `int`, `round`, `map`, `select` and `batch`, are unknown here, though the engine takes
them.
-/
import LabTrust.Template.Operator
import LabTrust.Text.Blank
import LabTrust.Text.LetterCase

namespace LabTrust.Template

/-! ### Texts -/

/-- A character as it stands between the tags of a page. -/
def escapeChar (c : Char) : List Char :=
  if c = '<' then "&lt;".toList
  else if c = '>' then "&gt;".toList
  else if c = '&' then "&amp;".toList
  else if c = '"' then "&quot;".toList
  else if c.toNat = 39 then "&#x27;".toList
  else if c = '/' then "&#x2f;".toList
  else [c]

/-- A text that is safe between the tags of a page. -/
def escape (s : String) : String :=
  String.ofList (s.toList.flatMap escapeChar)

/-- A text with `old` replaced by `new`, from the front on; `skip` characters belong to a place
already replaced. -/
def replaceFrom (old new : List Char) : Nat → List Char → List Char
  | _, [] => []
  | skip + 1, _ :: rest => replaceFrom old new skip rest
  | 0, c :: rest =>
    if old.isPrefixOf (c :: rest) then new ++ replaceFrom old new (old.length - 1) rest
    else c :: replaceFrom old new 0 rest

/-- A text with `old` replaced by `new`; nothing stands before, between and after all characters. -/
def replaced (old new s : List Char) : List Char :=
  if old.isEmpty then new ++ s.flatMap fun c => c :: new else replaceFrom old new 0 s

/-- A text without the characters of a set at both ends. -/
def trimOf (set s : List Char) : List Char :=
  ((s.dropWhile set.contains).reverse.dropWhile set.contains).reverse

/-- A change of a value's text. -/
def onText (f : List Char → List Char) (v : Value) : Result :=
  .ok (.ofText (String.ofList (f v.print.toList)))

/-! ### Lists -/

/-- The items of a value that is there. -/
def itemsOf (v : Value) : Except Fault (List Value) :=
  if v.isMissing then .error .missingValue
  else
    match v.items? with
    | some items => .ok items
    | none => .error .notIterable

/-- Puts a value after those that do not come later in the order. -/
def insertSorted (before : Value → Value → Bool) (v : Value) : List Value → List Value
  | [] => [v]
  | w :: ws => if before v w then v :: w :: ws else w :: insertSorted before v ws

/-- Values in order; equal ones stay as they stand. -/
def sorted (before : Value → Value → Bool) (vs : List Value) : List Value :=
  vs.foldl (fun acc v => insertSorted before v acc) []

/-- The order in which letter case may not count. -/
def comesBefore (caseSensitive : Bool) (a b : Value) : Bool :=
  match a, b, caseSensitive with
  | .text s _, .text t _, false =>
    compare (String.ofList (Text.lower s.toList)) (String.ofList (Text.lower t.toList)) == .lt
  | a, b, _ => Value.order a b == .lt

/-- A truth value among named arguments. -/
def flag (name : String) (named : List (String × Value)) : Bool :=
  ((named.lookup name).map Value.truth).getD false

/-- The texts of items with a text between them. -/
def joined (separator : String) (items : List Value) : String :=
  separator.intercalate (items.map Value.print)

/-- The default for a value that is missing, or, if asked, for one that is false. -/
def defaulted (v : Value) (args : List Value) : Value :=
  let instead := args.headD (.ofText "")
  if v.isUndefined || ((args.drop 1).any Value.truth && !v.truth) then instead else v

/-- A filter on a value that is there. The engine knows more filters than these. -/
def filterPresent (name : String) (v : Value) (args : List Value)
    (named : List (String × Value)) : Result :=
  match name, args with
  | "upper", [] => onText Text.upper v
  | "lower", [] => onText Text.lower v
  | "capitalize", [] => onText Text.capitalize v
  | "trim", [] => onText Text.trim v
  | "trim", [set] => onText (trimOf set.print.toList) v
  | "length", [] | "count", [] =>
    match v.length? with
    | some n => .ok (.int n)
    | none => .error (.badArguments name)
  | "replace", [old, new] => onText (replaced old.print.toList new.print.toList) v
  | "first", [] =>
    match v with
    | .text _ _ | .list _ | .map _ => .ok ((v.items?.bind List.head?).getD (.undefined false))
    | _ => .error (.badArguments name)
  | "last", [] =>
    match v with
    | .text _ _ | .list _ => .ok ((v.items?.bind List.getLast?).getD (.undefined false))
    | _ => .error (.badArguments name)
  | "reverse", [] =>
    match v with
    | .text s _ => .ok (.ofText (String.ofList s.toList.reverse))
    | .list items => .ok (.list items.reverse)
    | .map entries => .ok (.list (entries.map (·.1)).reverse)
    | _ => .error (.badArguments name)
  | "sort", rest => do
    let items ← itemsOf v
    let inOrder := sorted (comesBefore (flag "case_sensitive" named)) items
    if rest.isEmpty then
      return .list (if flag "reverse" named then inOrder.reverse else inOrder)
    else .error (.badArguments name)
  | "join", [] => do return .ofText (joined "" (← itemsOf v))
  | "join", [separator] => do return .ofText (joined separator.print (← itemsOf v))
  | "e", [] | "escape", [] =>
    match v with
    | .text s true => .ok (.text s true)
    | v => .ok (.text (escape v.print) true)
  | "safe", [] => .ok (.text v.print true)
  | "list", [] => do return .list (← itemsOf v)
  | "items", [] =>
    match v with
    | .map entries => .ok (.list (entries.map fun e => .list [e.1, e.2]))
    | _ => .error (.badArguments name)
  | name, _ =>
    if ["upper", "lower", "capitalize", "trim", "length", "count", "replace", "first", "last",
        "reverse", "join", "e", "escape", "safe", "list", "items"].contains name then
      .error (.badArguments name)
    else .error (.unknownFilter name)

/-- A filter on a value. -/
def filter (name : String) (v : Value) (args : List Value) (named : List (String × Value)) :
    Result :=
  if name = "default" ∨ name = "d" then .ok (defaulted v args)
  else if v.isMissing then .error .missingValue
  else filterPresent name v args named

/-- A test of a value. -/
def test (name : String) (v : Value) (args : List Value) : Except Fault Bool :=
  match name, args with
  | "defined", [] => .ok (!v.isUndefined)
  | "undefined", [] => .ok v.isUndefined
  | name, args =>
    if v.isMissing || args.any Value.isMissing then .error .missingValue
    else
      match name, args, v with
      | "none", [], v => .ok (match v with | .none => true | _ => false)
      | "true", [], v => .ok (match v with | .bool b => b | _ => false)
      | "false", [], v => .ok (match v with | .bool b => !b | _ => false)
      | "boolean", [], v => .ok (match v with | .bool _ => true | _ => false)
      | "string", [], v => .ok (match v with | .text _ _ => true | _ => false)
      | "number", [], v => .ok (match v with | .int _ | .float _ => true | _ => false)
      | "integer", [], v => .ok (match v with | .int _ => true | _ => false)
      | "float", [], v => .ok (match v with | .float _ => true | _ => false)
      | "sequence", [], v => .ok (match v with | .list _ => true | _ => false)
      | "mapping", [], v => .ok (match v with | .map _ => true | _ => false)
      | "iterable", [], v => .ok (match v with | .text _ _ | .list _ | .map _ => true | _ => false)
      | "safe", [], v => .ok (match v with | .text _ safe => safe | _ => false)
      | "odd", [], .int n => .ok (n % 2 == 1)
      | "even", [], .int n => .ok (n % 2 == 0)
      | "divisibleby", [.int m], .int n => .ok (m != 0 && n % m == 0)
      | "eq", [w], v | "equalto", [w], v | "==", [w], v => .ok (Value.same v w)
      | "ne", [w], v | "!=", [w], v => .ok (!Value.same v w)
      | "lt", [w], v | "lessthan", [w], v => .ok (Value.order v w == .lt)
      | "le", [w], v => .ok (Value.order v w != .gt)
      | "gt", [w], v | "greaterthan", [w], v => .ok (Value.order v w == .gt)
      | "ge", [w], v => .ok (Value.order v w != .lt)
      | "in", [w], v => (contains v w).map Value.truth
      | "startingwith", [.text t _], .text s _ => .ok (t.toList.isPrefixOf s.toList)
      | "endingwith", [.text t _], .text s _ => .ok (t.toList.isSuffixOf s.toList)
      | "lower", [], .text s _ => .ok (Text.lower s.toList == s.toList)
      | "upper", [], .text s _ => .ok (Text.upper s.toList == s.toList)
      | name, _, _ => .error (.unknownTest name)

end LabTrust.Template
