/-
From tokens to the content of a template.

The reader counts down the nesting of expressions and of statements, which is at most `deepest`,
and beside it a bound on its steps that the number of tokens gives.
* `expr?`: an expression; operators bind by their `Level`.
* `pieces?`: pieces up to a statement that closes the one they are in.
* `Template.read?`: the pieces of a whole template.

Only a part of the language of the template engine is taken. Of its statements these are branches,
loops, assignments of a value and scopes. Macros and their calls, imports, includes and inheritance,
and blocks that assign, filter or escape the text inside them are refused here like a fault of the
grammar, though the engine takes them.
-/
import LabTrust.Template.Token
import LabTrust.Template.Tree

namespace LabTrust.Template

namespace Reader

/-- The deepest nesting. -/
def deepest : Nat := 150

/-- What a reader leaves: a result and the tokens after it. -/
abbrev Read (α : Type) := Option (α × List Token)

/-- The token is this mark. -/
def isMark (s : String) : Token → Bool
  | .mark t => s == t
  | _ => false

/-- The token is this word. -/
def isWord (s : String) : Token → Bool
  | .word t => s == t
  | _ => false

/-- The tokens after a mark. -/
def mark? (s : String) : List Token → Option (List Token)
  | t :: ts => if isMark s t then some ts else none
  | [] => none

/-- The tokens after a word. -/
def word? (s : String) : List Token → Option (List Token)
  | t :: ts => if isWord s t then some ts else none
  | [] => none

/-- The tokens after the end of a statement. -/
def endOfStatement? : List Token → Option (List Token)
  | .statementEnd :: ts => some ts
  | _ => none

/-- The tokens after the end of a value. -/
def endOfValue? : List Token → Option (List Token)
  | .valueEnd :: ts => some ts
  | _ => none

/-! ### Expressions -/

/-- How tightly operators bind, the loosest first. -/
inductive Level where
  | either
  | both
  | inversion
  | comparison
  | sum
  | joining
  | product
  | power
  deriving DecidableEq

/-- The level that binds one step tighter. -/
def Level.next? : Level → Option Level
  | either => some both
  | both => some inversion
  | inversion => some comparison
  | comparison => some sum
  | sum => some joining
  | joining => some product
  | product => some power
  | power => none

/-- The operation of a mark at a level. -/
def Level.ofMark? : Level → String → Option BinaryOp
  | comparison, s =>
    [("==", BinaryOp.equal), ("!=", .notEqual), ("<", .less), ("<=", .lessEqual), (">", .greater),
      (">=", .greaterEqual)].lookup s
  | sum, s => [("+", BinaryOp.add), ("-", .subtract)].lookup s
  | joining, s => [("~", BinaryOp.concat)].lookup s
  | product, s =>
    [("*", BinaryOp.multiply), ("/", .divide), ("//", .floorDivide), ("%", .remainder)].lookup s
  | power, s => [("**", BinaryOp.power)].lookup s
  | _, _ => none

/-- What an operator at the front makes of its two sides, and the tokens after it. -/
def operator? (level : Level) : List Token → Option ((Expr → Expr → Expr) × List Token)
  | .mark s :: ts => (level.ofMark? s).map fun op => (.binary op, ts)
  | .word s :: ts =>
    match level with
    | .either => if s = "or" then some (.or, ts) else none
    | .both => if s = "and" then some (.and, ts) else none
    | .comparison =>
      if s = "in" then some (.binary .contains, ts)
      else if s = "not" then
        (word? "in" ts).map fun ts => (fun a b => .not (.binary .contains a b), ts)
      else none
    | _ => none
  | _ => none

/-- A word that reads `not` where only an operator may stand, without `in` after it. -/
def isBrokenOperator (level : Level) : List Token → Bool
  | .word s :: ts => level == .comparison && s == "not" && (word? "in" ts).isNone
  | _ => false

/-- The value of a word that is a literal. -/
def literal? (s : String) : Option Value :=
  if s = "true" ∨ s = "True" then some (.bool true)
  else if s = "false" ∨ s = "False" then some (.bool false)
  else if s = "none" ∨ s = "None" then some .none
  else none

/-- A token that can begin the argument of a test without brackets. -/
def beginsArgument : Token → Bool
  | .word s => !(s == "and" || s == "or" || s == "else" || s == "is")
  | .string _ | .int _ | .float _ => true
  | .mark s => s == "+" || s == "-" || s == "[" || s == "\x7b"
  | _ => false

mutual

/-- An expression one level of nesting further in. -/
def expr? : Nat → Nat → List Token → Read Expr
  | 0, _, _ => none
  | _, 0, _ => none
  | fuel + 1, depth + 1, ts =>
    (operand? fuel depth .either ts).bind fun (e, ts) => choices? fuel depth e ts

/-- The choices that follow an expression. -/
def choices? : Nat → Nat → Expr → List Token → Read Expr
  | 0, _, _, _ => none
  | fuel + 1, depth, e, ts =>
    match word? "if" ts with
    | none => some (e, ts)
    | some ts =>
      (operand? fuel depth .either ts).bind fun (condition, ts) =>
        match word? "else" ts with
        | none => choices? fuel depth (.choose condition e none) ts
        | some ts =>
          (operand? fuel depth .either ts).bind fun (no, ts) =>
            (choices? fuel depth no ts).bind fun (no, ts) =>
              choices? fuel depth (.choose condition e (some no)) ts

/-- An operand of a level, with the operators of that level after it. -/
def operand? : Nat → Nat → Level → List Token → Read Expr
  | 0, _, _, _ => none
  | fuel + 1, depth, level, ts =>
    match level.next? with
    | none => (factor? fuel depth ts).bind fun (e, ts) => chain? fuel depth level e ts
    | some next =>
      match level, word? "not" ts with
      | .inversion, some ts =>
        match depth with
        | 0 => none
        | depth + 1 => (operand? fuel depth .inversion ts).map fun (e, ts) => (.not e, ts)
      | _, _ => (operand? fuel depth next ts).bind fun (e, ts) => chain? fuel depth level e ts

/-- The operators of a level after their left side. -/
def chain? : Nat → Nat → Level → Expr → List Token → Read Expr
  | 0, _, _, _, _ => none
  | fuel + 1, depth, level, left, ts =>
    match operator? level ts with
    | some (build, ts) =>
      let right := match level.next? with
        | some next => operand? fuel depth next ts
        | none => factor? fuel depth ts
      right.bind fun (e, ts) => chain? fuel depth level (build left e) ts
    | none => if isBrokenOperator level ts then none else some (left, ts)

/-- A value with a sign, its parts, and its filters and tests. -/
def factor? : Nat → Nat → List Token → Read Expr
  | 0, _, _ => none
  | fuel + 1, depth, ts =>
    (signed? fuel depth ts).bind fun (e, ts) =>
      (parts? fuel depth e ts).bind fun (e, ts) => filters? fuel depth e ts

/-- A value with a sign before it. -/
def signed? : Nat → Nat → List Token → Read Expr
  | 0, _, _ => none
  | fuel + 1, depth, ts =>
    match mark? "-" ts, depth with
    | some _, 0 => none
    | some ts, depth + 1 => (signed? fuel depth ts).map fun (e, ts) => (.negate e, ts)
    | none, depth => primary? fuel depth ts

/-- Attributes, items, slices and calls after a value. -/
def parts? : Nat → Nat → Expr → List Token → Read Expr
  | 0, _, _, _ => none
  | fuel + 1, depth, e, ts =>
    match ts with
    | .mark "." :: .word s :: ts => parts? fuel depth (.attribute e s) ts
    | .mark "." :: .int n :: ts => parts? fuel depth (.item e (.literal (.int n))) ts
    | .mark "." :: _ => none
    | .mark "[" :: ts => (subscript? fuel depth e ts).bind fun (e, ts) => parts? fuel depth e ts
    | .mark "(" :: ts =>
      (arguments? fuel depth [] [] ts).bind fun ((args, named), ts) =>
        parts? fuel depth (.call e args named) ts
    | ts => some (e, ts)

/-- What stands between square brackets after a value. -/
def subscript? : Nat → Nat → Expr → List Token → Read Expr
  | 0, _, _, _ => none
  | fuel + 1, depth, e, ts =>
    let start := if (mark? ":" ts).isSome then some (none, ts)
      else (expr? fuel depth ts).map fun (x, ts) => (some x, ts)
    start.bind fun (start, ts) =>
      match mark? ":" ts with
      | none => start.bind fun key => (mark? "]" ts).map fun ts => (.item e key, ts)
      | some ts =>
        (bound? fuel depth ts).bind fun (stop, ts) =>
          match mark? ":" ts with
          | none => (mark? "]" ts).map fun ts => (.slice e start stop none, ts)
          | some ts =>
            (bound? fuel depth ts).bind fun (step, ts) =>
              (mark? "]" ts).map fun ts => (.slice e start stop step, ts)

/-- A bound of a slice, which may be left out. -/
def bound? : Nat → Nat → List Token → Read (Option Expr)
  | 0, _, _ => none
  | fuel + 1, depth, ts =>
    if (mark? ":" ts).isSome || (mark? "]" ts).isSome then some (none, ts)
    else (expr? fuel depth ts).map fun (x, ts) => (some x, ts)

/-- Arguments up to the closing bracket; named ones come last. -/
def arguments? : Nat → Nat → List Expr → List (String × Expr) → List Token →
    Read (List Expr × List (String × Expr))
  | 0, _, _, _, _ => none
  | fuel + 1, depth, args, named, ts =>
    match mark? ")" ts with
    | some ts => some ((args, named), ts)
    | none =>
      let separated := if args.isEmpty && named.isEmpty then some ts else mark? "," ts
      separated.bind fun ts =>
        match mark? ")" ts, args.isEmpty && named.isEmpty with
        | some ts, false => some ((args, named), ts)
        | _, _ =>
          (expr? fuel depth ts).bind fun (e, ts) =>
            match e, mark? "=" ts with
            | .name s, some ts =>
              (expr? fuel depth ts).bind fun (e, ts) =>
                arguments? fuel depth args (named ++ [(s, e)]) ts
            | e, _ =>
              if named.isEmpty then arguments? fuel depth (args ++ [e]) named ts else none

/-- Filters and tests after a value. -/
def filters? : Nat → Nat → Expr → List Token → Read Expr
  | 0, _, _, _ => none
  | fuel + 1, depth, e, ts =>
    match ts with
    | .mark "|" :: .word s :: .mark "(" :: ts =>
      (arguments? fuel depth [] [] ts).bind fun ((args, named), ts) =>
        filters? fuel depth (.filter s e args named) ts
    | .mark "|" :: .word s :: ts => filters? fuel depth (.filter s e [] []) ts
    | .mark "|" :: _ => none
    | .word "is" :: ts =>
      let (negated, ts) := match word? "not" ts with
        | some ts => (true, ts)
        | none => (false, ts)
      match ts with
      | .word s :: ts =>
        (testArguments? fuel depth ts).bind fun (args, ts) =>
          let e := Expr.test s e args
          filters? fuel depth (if negated then .not e else e) ts
      | _ => none
    | ts => some (e, ts)

/-- The arguments of a test: in brackets, one without brackets, or none. -/
def testArguments? : Nat → Nat → List Token → Read (List Expr)
  | 0, _, _ => none
  | fuel + 1, depth, ts =>
    match ts with
    | .mark "(" :: ts =>
      (arguments? fuel depth [] [] ts).bind fun ((args, named), ts) =>
        if named.isEmpty then some (args, ts) else none
    | t :: rest =>
      if beginsArgument t then
        (signed? fuel depth (t :: rest)).bind fun (e, ts) =>
          (parts? fuel depth e ts).map fun (e, ts) => ([e], ts)
      else some ([], t :: rest)
    | [] => some ([], [])

/-- A value without a sign and without parts. -/
def primary? : Nat → Nat → List Token → Read Expr
  | 0, _, _ => none
  | fuel + 1, depth, ts =>
    match ts with
    | .word s :: ts =>
      match literal? s with
      | some v => some (.literal v, ts)
      | none => some (.name s, ts)
    | .string s :: ts => some (.literal (.ofText s), ts)
    | .int n :: ts => some (.literal (.int n), ts)
    | .float x :: ts => some (.literal (.float x), ts)
    | .mark "(" :: .mark ")" :: ts => some (.list [], ts)
    | .mark "(" :: ts =>
      (expr? fuel depth ts).bind fun (e, ts) =>
        match mark? "," ts with
        | some _ => (items? fuel depth ")" [e] ts).map fun (es, ts) => (.list es, ts)
        | none => (mark? ")" ts).map fun ts => (e, ts)
    | .mark "[" :: ts => (items? fuel depth "]" [] ts).map fun (es, ts) => (.list es, ts)
    | .mark "\x7b" :: ts => (entries? fuel depth [] ts).map fun (es, ts) => (.map es, ts)
    | _ => none

/-- Items up to a closing mark, after those already read. -/
def items? : Nat → Nat → String → List Expr → List Token → Read (List Expr)
  | 0, _, _, _, _ => none
  | fuel + 1, depth, close, es, ts =>
    match mark? close ts with
    | some ts => some (es, ts)
    | none =>
      (if es.isEmpty then some ts else mark? "," ts).bind fun ts =>
        match mark? close ts, es.isEmpty with
        | some ts, false => some (es, ts)
        | _, _ => (expr? fuel depth ts).bind fun (e, ts) => items? fuel depth close (es ++ [e]) ts

/-- Entries of a map up to its closing brace, after those already read. -/
def entries? : Nat → Nat → List (Expr × Expr) → List Token → Read (List (Expr × Expr))
  | 0, _, _, _ => none
  | fuel + 1, depth, es, ts =>
    match mark? "\x7d" ts with
    | some ts => some (es, ts)
    | none =>
      (if es.isEmpty then some ts else mark? "," ts).bind fun ts =>
        match mark? "\x7d" ts, es.isEmpty with
        | some ts, false => some (es, ts)
        | _, _ =>
          (expr? fuel depth ts).bind fun (key, ts) =>
            (mark? ":" ts).bind fun ts =>
              (expr? fuel depth ts).bind fun (e, ts) => entries? fuel depth (es ++ [(key, e)]) ts

end

/-! ### Statements -/

/-- Words that name no value of a template's own. -/
def isReserved (s : String) : Bool :=
  ["true", "True", "false", "False", "none", "None", "loop", "self"].contains s

/-- The tokens after which names for a value end. -/
def endsTarget : List Token → Bool
  | .mark ")" :: _ | .valueEnd :: _ | .statementEnd :: _ | .word "in" :: _ => true
  | _ => false

mutual

/-- The names that a value is given to. -/
def target? : Nat → List Token → Read Target
  | 0, _ => none
  | fuel + 1, ts =>
    (targets? fuel ts).map fun ((names, single), ts) =>
      match names, single with
      | [t], true => (t, ts)
      | names, _ => (.parts names, ts)

/-- Names with commas between them, and whether there is one without a comma. -/
def targets? : Nat → List Token → Read (List Target × Bool)
  | 0, _ => none
  | fuel + 1, ts =>
    if endsTarget ts then some (([], false), ts)
    else
      let first : Read Target := match ts with
        | .mark "(" :: ts =>
          (target? fuel ts).bind fun (t, ts) => (mark? ")" ts).map fun ts => (t, ts)
        | .word s :: ts => if isReserved s then none else some (.name s, ts)
        | _ => none
      first.bind fun (t, ts) =>
        match mark? "," ts with
        | some ts => (targets? fuel ts).map fun ((more, _), ts) => ((t :: more, false), ts)
        | none => some (([t], true), ts)

end

/-- The most steps for a number of tokens. -/
def steps (ts : List Token) : Nat := 24 * ts.length + 24

/-- An expression with room for all of its steps. -/
def whole? (depth : Nat) (ts : List Token) : Read Expr := expr? (steps ts) depth ts

/-- What a loop goes through: an expression without a choice. -/
def source? (depth : Nat) (ts : List Token) : Read Expr := operand? (steps ts) depth .either ts

/-- The bindings of a scope. -/
def bindings? : Nat → Nat → Bool → List Token → Read (List (Target × Expr))
  | 0, _, _, _ => none
  | fuel + 1, depth, first, ts =>
    match ts with
    | .statementEnd :: _ => some ([], ts)
    | ts =>
      (if first then some ts else mark? "," ts).bind fun ts =>
        let target : Read Target := match ts with
          | .mark "(" :: ts =>
            (target? (steps ts) ts).bind fun (t, ts) => (mark? ")" ts).map fun ts => (t, ts)
          | .word s :: ts => if isReserved s then none else some (Target.name s, ts)
          | _ => none
        target.bind fun (t, ts) =>
          (mark? "=" ts).bind fun ts =>
            (whole? depth ts).bind fun (e, ts) =>
              (bindings? fuel depth false ts).map fun (bs, ts) => ((t, e) :: bs, ts)

/-- The words that close a statement or part of it. -/
def closes (words : List String) : List Token → Bool
  | .word s :: _ => words.contains s
  | _ => false

mutual

/-- Pieces up to a statement that begins with one of the words, or up to the end of the tokens. -/
def pieces? : Nat → Nat → List String → List Token → Read (List Piece)
  | 0, _, _, _ => none
  | fuel + 1, depth, words, ts =>
    match ts with
    | [] => some ([], [])
    | .data s :: ts => (pieces? fuel depth words ts).map fun (ps, ts) => (.text s :: ps, ts)
    | .valueStart :: ts =>
      (whole? depth ts).bind fun (e, ts) =>
        (endOfValue? ts).bind fun ts =>
          (pieces? fuel depth words ts).map fun (ps, ts) => (.value e :: ps, ts)
    | .statementStart :: ts =>
      if closes words ts then some ([], ts)
      else
        (statement? fuel depth ts).bind fun (p, ts) =>
          (endOfStatement? ts).bind fun ts =>
            (pieces? fuel depth words ts).map fun (ps, ts) => (p :: ps, ts)
    | _ => none

/-- A statement up to the end of the tag that closes it. The engine knows more statements than
these. -/
def statement? : Nat → Nat → List Token → Read Piece
  | 0, _, _ => none
  | _, 0, _ => none
  | fuel + 1, depth + 1, ts =>
    match ts with
    | .word "if" :: ts => branch? fuel depth ts
    | .word "for" :: ts => loop? fuel depth ts
    | .word "set" :: ts =>
      (target? (steps ts) ts).bind fun (t, ts) =>
        (mark? "=" ts).bind fun ts => (whole? depth ts).map fun (e, ts) => (.assign t e, ts)
    | .word "with" :: ts =>
      (bindings? (steps ts) depth true ts).bind fun (bs, ts) =>
        (endOfStatement? ts).bind fun ts =>
          (pieces? fuel depth ["endwith"] ts).bind fun (body, ts) =>
            (word? "endwith" ts).map fun ts => (.scope bs body, ts)
    | _ => none

/-- A branch from its condition on. -/
def branch? : Nat → Nat → List Token → Read Piece
  | 0, _, _ => none
  | fuel + 1, depth, ts =>
    (whole? depth ts).bind fun (condition, ts) =>
      (endOfStatement? ts).bind fun ts =>
        (pieces? fuel depth ["endif", "else", "elif"] ts).bind fun (yes, ts) =>
          match ts with
          | .word "else" :: ts =>
            (endOfStatement? ts).bind fun ts =>
              (pieces? fuel depth ["endif"] ts).bind fun (no, ts) =>
                (word? "endif" ts).map fun ts => (.branch condition yes no, ts)
          | .word "elif" :: ts =>
            (branch? fuel depth ts).map fun (no, ts) => (.branch condition yes [no], ts)
          | .word "endif" :: ts => some (.branch condition yes [], ts)
          | _ => none

/-- A loop from its names on. -/
def loop? : Nat → Nat → List Token → Read Piece
  | 0, _, _ => none
  | fuel + 1, depth, ts =>
    (target? (steps ts) ts).bind fun (t, ts) =>
      (word? "in" ts).bind fun ts =>
        (source? depth ts).bind fun (items, ts) =>
          let keep : Read (Option Expr) := match word? "if" ts with
            | some ts => (whole? depth ts).map fun (e, ts) => (some e, ts)
            | none => some (none, ts)
          keep.bind fun (keep, ts) =>
            (endOfStatement? ts).bind fun ts =>
              (pieces? fuel depth ["endfor", "else"] ts).bind fun (body, ts) =>
                match ts with
                | .word "else" :: ts =>
                  (endOfStatement? ts).bind fun ts =>
                    (pieces? fuel depth ["endfor"] ts).bind fun (otherwise, ts) =>
                      (word? "endfor" ts).map fun ts => (.loop t items keep body otherwise, ts)
                | .word "endfor" :: ts => some (.loop t items keep body [], ts)
                | _ => none

end

end Reader

/-- The pieces of a template; none if it does not follow the grammar. -/
def read? (s : List Char) : Option (List Piece) :=
  (Token.scan s).bind fun ts =>
    match Reader.pieces? (Reader.steps ts) Reader.deepest [] ts with
    | some (ps, []) => some ps
    | _ => none

end LabTrust.Template
