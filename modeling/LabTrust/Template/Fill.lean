/-
Filling a template in.

* `Bindings`: the names that have a value, the latest first; `Bindings.find` looks a name up.
* `Expr.eval`: the value of an expression. A missing value stops everything that prints it, tests
  it, compares it or goes through it.
* `fill`: the text of pieces, and the names that have a value after them. A loop and a scope keep
  the names to themselves that are given a value inside them.
-/
import LabTrust.Template.Filter

namespace LabTrust.Template

/-- Names and their values, the latest first. -/
abbrev Bindings := List (String × Value)

namespace Bindings

/-- Functions that every template can call. -/
def functions : List String := ["range", "dict", "debug", "namespace"]

/-- The value of a name. -/
def find (b : Bindings) (name : String) : Value :=
  match b.lookup name with
  | some v => v
  | none => if functions.contains name then .function name else .undefined false

/-- Names for a value, or for the items of a list. -/
def bind : Target → Value → Bindings → Except Fault Bindings
  | .name s, v, b => .ok ((s, v) :: b)
  | .parts ts, v, b =>
    match v with
    | .list items => bindAll ts items b
    | .map entries => bindAll ts (entries.map (·.1)) b
    | _ => .error .cannotUnpack
where
  /-- Names for as many values. -/
  bindAll : List Target → List Value → Bindings → Except Fault Bindings
    | [], [], b => .ok b
    | t :: ts, v :: vs, b => do bindAll ts vs (← bind t v b)
    | _, _, _ => .error .cannotUnpack

end Bindings

/-! ### Expressions -/

/-- The condition that a value is; a missing value is none. -/
def condition (v : Value) : Except Fault Bool :=
  if v.isMissing then .error .missingValue else .ok v.truth

/-- A part of a value that is there; a part that is not there is missing. -/
def partOf (v key : Value) : Result :=
  if v.isMissing then .error .missingValue else .ok ((v.part? key).getD (.undefined false))

/-- Whole numbers from `start` in steps, before `stop`. -/
def range (start stop step : Int) : Result :=
  if step = 0 then .error (.badArguments "range")
  else
    let span := if 0 < step then stop - start else start - stop
    let count := if span ≤ 0 then 0 else ((span - 1) / step.natAbs + 1).toNat
    if 100000 < count then .error (.badArguments "range")
    else .ok (.list ((List.range count).map fun (i : Nat) => .int (start + step * i)))

/-- What a function makes of its arguments. The engine also answers calls of `debug` and
`namespace`, which are refused here. -/
def call (f : Value) (args : List Value) (named : List (String × Value)) : Result :=
  match f, args with
  | .function "range", [.int stop] => range 0 stop 1
  | .function "range", [.int start, .int stop] => range start stop 1
  | .function "range", [.int start, .int stop, .int step] => range start stop step
  | .function "dict", [] => .ok (.map (named.map fun (k, v) => (.ofText k, v)))
  | .function name, _ => .error (.badArguments name)
  | _, _ => .error (.unknownFunction "")

/-- A map with an entry; an entry under the same key is replaced where it stands. -/
def putEntry (key v : Value) : List (Value × Value) → List (Value × Value)
  | [] => [(key, v)]
  | (k, w) :: es => if Value.same k key then (k, v) :: es else (k, w) :: putEntry key v es

mutual

/-- The value of an expression. -/
def Expr.eval (b : Bindings) : Expr → Result
  | .literal v => .ok v
  | .name s => .ok (b.find s)
  | .attribute e name => do partOf (← e.eval b) (.ofText name)
  | .item e key => do
    let v ← e.eval b
    partOf v (← key.eval b)
  | .slice e start stop step => do
    let v ← e.eval b
    let start ← evalOption b start
    let stop ← evalOption b stop
    slice v start stop (← evalOption b step)
  | .list items => do return .list (← evalAll b items)
  | .map entries => do
    let es ← evalEntries b entries
    return .map (es.foldl (fun acc e => putEntry e.1 e.2 acc) [])
  | .negate e => do negated (← e.eval b)
  | .not e => do return .bool (!(← condition (← e.eval b)))
  | .binary op x y => do
    let v ← x.eval b
    op.run v (← y.eval b)
  | .and x y => do
    let v ← x.eval b
    if ← condition v then y.eval b else return v
  | .or x y => do
    let v ← x.eval b
    if ← condition v then return v else y.eval b
  | .choose c yes no => do
    if ← condition (← c.eval b) then yes.eval b
    else
      match no with
      | some e => e.eval b
      | none => return .undefined true
  | .filter name e args named => do
    let v ← e.eval b
    let args ← evalAll b args
    filter name v args (← evalNamed b named)
  | .test name e args => do
    let v ← e.eval b
    return .bool (← test name v (← evalAll b args))
  | .call f args named => do
    let v ← f.eval b
    let args ← evalAll b args
    call v args (← evalNamed b named)

/-- A bound that may be left out. -/
def evalOption (b : Bindings) : Option Expr → Result
  | none => .ok .none
  | some e => e.eval b

/-- The values of expressions. -/
def evalAll (b : Bindings) : List Expr → Except Fault (List Value)
  | [] => .ok []
  | e :: es => do
    let v ← e.eval b
    return v :: (← evalAll b es)

/-- The values of entries. -/
def evalEntries (b : Bindings) : List (Expr × Expr) → Except Fault (List (Value × Value))
  | [] => .ok []
  | (k, e) :: es => do
    let key ← k.eval b
    let v ← e.eval b
    return (key, v) :: (← evalEntries b es)

/-- The values of named arguments. -/
def evalNamed (b : Bindings) : List (String × Expr) → Except Fault (List (String × Value))
  | [] => .ok []
  | (name, e) :: es => do
    let v ← e.eval b
    return (name, v) :: (← evalNamed b es)

end

/-! ### Pieces -/

/-- What a loop tells of its passes: the pass of number `index` of `length`. -/
def loopValue (index length : Nat) : Value :=
  .map [(.ofText "index", .int (index + 1)), (.ofText "index0", .int index),
    (.ofText "revindex", .int (length - index : Nat)),
    (.ofText "revindex0", .int (length - index - 1 : Nat)),
    (.ofText "first", .bool (index == 0)), (.ofText "last", .bool (index + 1 == length)),
    (.ofText "length", .int length), (.ofText "depth", .int 1), (.ofText "depth0", .int 0)]

/-- The items that a loop keeps. -/
def keepItems (b : Bindings) (target : Target) (keep : Option Expr) :
    List Value → Except Fault (List Value)
  | [] => .ok []
  | v :: vs =>
    match keep with
    | none => .ok (v :: vs)
    | some e => do
      let inner ← Bindings.bind target v b
      if ← condition (← e.eval inner) then return v :: (← keepItems b target keep vs)
      else keepItems b target keep vs

/-- Gives names to values one after the other. -/
def bindEach (b : Bindings) : List (Target × Expr) → Except Fault Bindings
  | [] => .ok b
  | (t, e) :: bs => do
    let v ← e.eval b
    bindEach (← Bindings.bind t v b) bs

mutual

/-- The text of a piece, and the names that have a value after it. -/
def Piece.fill (b : Bindings) : Piece → Except Fault (String × Bindings)
  | .text s => .ok (String.ofList s, b)
  | .value e => do
    let v ← e.eval b
    if v.isMissing then .error .missingValue else return (v.print, b)
  | .branch c yes no => do
    if ← condition (← c.eval b) then fillAll b yes else fillAll b no
  | .loop target source keep body otherwise => do
    let v ← source.eval b
    let items ← itemsOf v
    let kept ← keepItems b target keep items
    if kept.isEmpty then
      let (s, _) ← fillAll b otherwise
      return (s, b)
    else
      let pass (done : String × Nat) (item : Value) : Except Fault (String × Nat) := do
        let inner ← Bindings.bind target item (("loop", loopValue done.2 kept.length) :: b)
        let (s, _) ← fillAll inner body
        return (done.1 ++ s, done.2 + 1)
      let (s, _) ← kept.foldlM pass ("", 0)
      return (s, b)
  | .assign target e => do
    let v ← e.eval b
    return ("", ← Bindings.bind target v b)
  | .scope bindings body => do
    let inner ← bindEach b bindings
    let (s, _) ← fillAll inner body
    return (s, b)

/-- The text of pieces, and the names that have a value after them. -/
def fillAll (b : Bindings) : List Piece → Except Fault (String × Bindings)
  | [] => .ok ("", b)
  | p :: ps => do
    let (s, b) ← p.fill b
    let (t, b) ← fillAll b ps
    return (s ++ t, b)

end

/-- The text of a template whose names are the fields of a document. -/
def fill (pieces : List Piece) (input : Data) : Except Fault String :=
  let names : Bindings := match input with
    | .record fields => fields.map fun (name, d) => (name, Value.ofData d)
    | _ => []
  (fillAll names pieces).map (·.1)

end LabTrust.Template
