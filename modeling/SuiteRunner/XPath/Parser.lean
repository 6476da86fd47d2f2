import SuiteRunner.XPath.Token

/-!
  SuiteRunner.XPath.Parser
  ────────────────────────────────
  **READING AN EXPRESSION.**

  Operators group to the left and bind in six levels: `or`, `and`, equality, order, sums, products.
  Signs bind closer, then unions, then paths.
-/

namespace SuiteRunner.XPath

/-- The operators of each level, the loosest first. -/
def levels : List (List Operator) :=
  [[.or_], [.and_], [.equal, .notEqual], [.less, .lessEq, .greater, .greaterEq], [.plus, .minus],
    [.times, .quotient, .remainder]]

/-- The axis that a step names, or the children. -/
def axisOf : List Token → Axis × List Token
  | .at_ :: rest => (.attribute, rest)
  | .axis a :: rest => (a, rest)
  | ts => (.child, ts)

/-- The test of a step. -/
def nodeTest? : List Token → Option (NodeTest × List Token)
  | .name p l :: rest => some (.name p l, rest)
  | .kind "node" :: .openParen :: .closeParen :: rest => some (.any, rest)
  | .kind "text" :: .openParen :: .closeParen :: rest => some (.text, rest)
  | .kind "comment" :: .openParen :: .closeParen :: rest => some (.comment, rest)
  | .kind "processing-instruction" :: .openParen :: .closeParen :: rest =>
    some (.instruction none, rest)
  | .kind "processing-instruction" :: .openParen :: .literal s :: .closeParen :: rest =>
    some (.instruction (some s), rest)
  | _ => none

/-- Whether a step begins with a token. -/
def beginsStep : List Token → Bool
  | t :: _ =>
    match t with
    | .at_ | .axis _ | .kind _ | .name _ _ | .dot | .doubleDot => true
    | _ => false
  | [] => false

/-- Whether an expression other than a location path begins with a token. -/
def beginsPrimary : List Token → Bool
  | t :: _ =>
    match t with
    | .dollar | .openParen | .literal _ | .number _ | .function _ => true
    | _ => false
  | [] => false

mutual
/-- An expression with operators of the given levels. -/
def expression (fuel : Nat) (ops : List (List Operator)) (ts : List Token) : Option (Expr × List Token) :=
  match fuel with
  | 0 => none
  | fuel + 1 =>
    match ops with
    | [] => signed fuel ts
    | level :: tighter => do
      let (left, rest) ← expression fuel tighter ts
      chain fuel level tighter left rest

/-- Further operands of one level. -/
def chain (fuel : Nat) (level : List Operator) (tighter : List (List Operator)) (left : Expr)
    (ts : List Token) : Option (Expr × List Token) :=
  match fuel with
  | 0 => none
  | fuel + 1 =>
    match ts with
    | .operator op :: rest =>
      if level.contains op then do
        let (right, rest) ← expression fuel tighter rest
        chain fuel level tighter (.binary op left right) rest
      else some (left, ts)
    | _ => some (left, ts)

/-- A union, perhaps with signs before it. -/
def signed (fuel : Nat) (ts : List Token) : Option (Expr × List Token) :=
  match fuel with
  | 0 => none
  | fuel + 1 =>
    match ts with
    | .operator .minus :: rest => do
      let (e, rest) ← signed fuel rest
      some (.negate e, rest)
    | _ => do
      let (e, rest) ← path fuel ts
      union fuel e rest

/-- Further parts of a union. -/
def union (fuel : Nat) (left : Expr) (ts : List Token) : Option (Expr × List Token) :=
  match fuel with
  | 0 => none
  | fuel + 1 =>
    match ts with
    | .operator .union :: rest => do
      let (right, rest) ← path fuel rest
      union fuel (.binary .union left right) rest
    | _ => some (left, ts)

/-- A path, or an expression in its place. -/
def path (fuel : Nat) (ts : List Token) : Option (Expr × List Token) :=
  match fuel with
  | 0 => none
  | fuel + 1 =>
    match ts with
    | .doubleSlash :: rest => do
      let (steps, rest) ← relative fuel rest
      some (.path .root (.everywhere :: steps), rest)
    | .slash :: rest =>
      if beginsStep rest then do
        let (steps, rest) ← relative fuel rest
        some (.path .root steps, rest)
      else some (.root, rest)
    | _ =>
      if beginsPrimary ts then do
        let (e, rest) ← primary fuel ts
        let (e, rest) ← filters fuel e rest
        let (steps, rest) ← more fuel rest
        some (if steps.isEmpty then e else .path e steps, rest)
      else do
        let (steps, rest) ← relative fuel ts
        some (.path .current steps, rest)

/-- One or more steps. -/
def relative (fuel : Nat) (ts : List Token) : Option (List Step × List Token) :=
  match fuel with
  | 0 => none
  | fuel + 1 => do
    let (s, rest) ← step fuel ts
    let (steps, rest) ← more fuel rest
    some (s :: steps, rest)

/-- Further steps, each after a slash or two. -/
def more (fuel : Nat) (ts : List Token) : Option (List Step × List Token) :=
  match fuel with
  | 0 => none
  | fuel + 1 =>
    match ts with
    | .slash :: rest => relative fuel rest
    | .doubleSlash :: rest => do
      let (steps, rest) ← relative fuel rest
      some (.everywhere :: steps, rest)
    | _ => some ([], ts)

/-- One step. -/
def step (fuel : Nat) (ts : List Token) : Option (Step × List Token) :=
  match fuel with
  | 0 => none
  | fuel + 1 =>
    match ts with
    | .dot :: rest => some (.mk .self .any [], rest)
    | .doubleDot :: rest => some (.mk .parent .any [], rest)
    | _ => do
      let (axis, rest) := axisOf ts
      let (test, rest) ← nodeTest? rest
      let (ps, rest) ← predicates fuel rest
      some (.mk axis test ps, rest)

/-- Predicates in brackets. -/
def predicates (fuel : Nat) (ts : List Token) : Option (List Expr × List Token) :=
  match fuel with
  | 0 => none
  | fuel + 1 =>
    match ts with
    | .openBracket :: rest => do
      let (p, rest) ← expression fuel levels rest
      match rest with
      | .closeBracket :: rest => do
        let (ps, rest) ← predicates fuel rest
        some (p :: ps, rest)
      | _ => none
    | _ => some ([], ts)

/-- Predicates on an expression. -/
def filters (fuel : Nat) (e : Expr) (ts : List Token) : Option (Expr × List Token) :=
  match fuel with
  | 0 => none
  | fuel + 1 => do
    let (ps, rest) ← predicates fuel ts
    some (ps.foldl .filter e, rest)

/-- A variable, an expression in parentheses, a literal, a number or a call. -/
def primary (fuel : Nat) (ts : List Token) : Option (Expr × List Token) :=
  match fuel with
  | 0 => none
  | fuel + 1 =>
    match ts with
    | .dollar :: .name p (some l) :: rest =>
      some (.variable_ ((p.map (· ++ ":")).getD "" ++ l), rest)
    | .openParen :: rest => do
      let (e, rest) ← expression fuel levels rest
      match rest with
      | .closeParen :: rest => some (e, rest)
      | _ => none
    | .literal s :: rest => some (.literal s, rest)
    | .number x :: rest => some (.number x, rest)
    | .function f :: .openParen :: .closeParen :: rest => some (.call f [], rest)
    | .function f :: .openParen :: rest => do
      let (args, rest) ← arguments fuel rest
      some (.call f args, rest)
    | _ => none

/-- Arguments up to the closing parenthesis. -/
def arguments (fuel : Nat) (ts : List Token) : Option (List Expr × List Token) :=
  match fuel with
  | 0 => none
  | fuel + 1 => do
    let (e, rest) ← expression fuel levels ts
    match rest with
    | .closeParen :: rest => some ([e], rest)
    | .comma :: rest => do
      let (es, rest) ← arguments fuel rest
      some (e :: es, rest)
    | _ => none
end

/-- **The tree of an expression.** -/
def Expr.ofText (text : String) : Except Fault Expr :=
  match Token.ofText? text with
  | none => .error .unreadable
  | some [] => .error .empty
  | some ts =>
    match expression (16 * ts.length + 16) levels ts with
    | some (e, []) => .ok e
    | _ => .error .unreadable

end SuiteRunner.XPath
