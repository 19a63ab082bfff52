import XmlAudit.XPath.Token

/-!
# Reading expressions

* `Expr.parse`: the expression that a text spells.

The binary operators bind in six levels, from `or` to multiplication, each from left to right; a
minus sign binds tighter, a union tighter than that, a path tightest.
-/

namespace XmlAudit.XPath

/-- Tokens with the byte offsets at which they start. -/
abbrev Tokens := List (Nat × Token)

/-- The outcome of reading, which can fail. -/
abbrev Reading := Except SyntaxError

/-- The offset of the next token; `stop` is the end of the text. -/
def Tokens.offset (stop : Nat) : Tokens → Nat
  | (o, _) :: _ => o
  | [] => stop

/-- The number of levels of binary operators. -/
def levelCount : Nat := 6

/-- The operator that a token is at a level, as a builder of expressions. -/
def binary? : Nat → Token → Option (Expr → Expr → Expr)
  | 0, .or => some .or
  | 1, .and => some .and
  | 2, .compare .eq => some (.compare .eq)
  | 2, .compare .ne => some (.compare .ne)
  | 3, .compare .lt => some (.compare .lt)
  | 3, .compare .le => some (.compare .le)
  | 3, .compare .gt => some (.compare .gt)
  | 3, .compare .ge => some (.compare .ge)
  | 4, .plus => some (.arithmetic .add)
  | 4, .minus => some (.arithmetic .subtract)
  | 5, .multiply => some (.arithmetic .multiply)
  | 5, .div => some (.arithmetic .divide)
  | 5, .mod => some (.arithmetic .modulo)
  | _, _ => none

/-- The names that with parentheses are node tests and not function calls. -/
def isNodeType (test : NameTest) : Bool :=
  test = .name none "node" || test = .name none "text" || test = .name none "comment" ||
    test = .name none "processing-instruction"

/-- Whether a function call is next. -/
def startsCall : Tokens → Bool
  | (_, .name test) :: (_, .openParen) :: _ => !isNodeType test
  | _ => false

/-- Whether a location step is next. -/
def startsStep (ts : Tokens) : Bool :=
  match ts with
  | (_, .dot) :: _ | (_, .twoDots) :: _ | (_, .atSign) :: _ => true
  | (_, .name _) :: _ => !startsCall ts
  | _ => false

/-- Whether an expression other than a path is next. -/
def startsPrimary (ts : Tokens) : Bool :=
  match ts with
  | (_, .literal _) :: _ | (_, .number _) :: _ | (_, .variable _) :: _ | (_, .openParen) :: _ =>
    true
  | _ => startsCall ts

/-- The function of a name for a number of arguments. -/
def checkCall (test : NameTest) (count : Nat) : Except SyntaxFault Function :=
  match Function.ofLabel? test.lastPart with
  | none => .error (.unknownFunction test.lastPart)
  | some f =>
    if f.accepts count then .ok f else .error (.wrongArgumentCount test.lastPart count)

/-- Reads the axis with which a step starts, the child axis where none is given. -/
def readAxis (ts : Tokens) : Reading (Axis × Tokens) :=
  match ts with
  | (_, .atSign) :: rest => .ok (.attributes, rest)
  | (o, .name test) :: (_, .axisMark) :: rest =>
    match Axis.ofName? test.render with
    | some axis => .ok (axis, rest)
    | none => .error ⟨o, .unknownAxis test.render⟩
  | _ => .ok (.child, ts)

/-- Reads a node test. -/
def readNodeTest (stop : Nat) (ts : Tokens) : Reading (NodeTest × Tokens) :=
  match ts with
  | (_, .name test) :: rest =>
    match rest with
    | (_, .openParen) :: inner =>
      if isNodeType test then
        match inner with
        | (_, .closeParen) :: behind =>
          if test = .name none "node" then .ok (.node, behind)
          else if test = .name none "text" then .ok (.text, behind)
          else .error ⟨Tokens.offset stop behind, .unsupportedNodeTest test.render⟩
        | _ => .error ⟨Tokens.offset stop inner, .expectedCloseParen⟩
      else .ok (.named test, rest)
    | _ => .ok (.named test, rest)
  | _ => .error ⟨Tokens.offset stop ts, .expectedNodeTest⟩

mutual

/-- Reads an expression of a level of binary operators or above; `fuel` bounds the nesting. -/
def readLevel (stop : Nat) : Nat → Nat → Tokens → Reading (Expr × Tokens)
  | 0, _, ts => .error ⟨Tokens.offset stop ts, .nestedTooDeeply⟩
  | fuel + 1, level, ts =>
    if level < levelCount then do
      let (left, rest) ← readLevel stop fuel (level + 1) ts
      readOperands stop fuel level left rest
    else readNegation stop fuel ts

/-- Reads what follows the operand `left` at a level. -/
def readOperands (stop : Nat) : Nat → Nat → Expr → Tokens → Reading (Expr × Tokens)
  | 0, _, _, ts => .error ⟨Tokens.offset stop ts, .nestedTooDeeply⟩
  | fuel + 1, level, left, ts =>
    match ts with
    | [] => .ok (left, [])
    | (o, t) :: rest =>
      match binary? level t with
      | none => .ok (left, (o, t) :: rest)
      | some build => do
        let (right, rest) ← readLevel stop fuel (level + 1) rest
        readOperands stop fuel level (build left right) rest

/-- Reads a union with any number of minus signs before it. -/
def readNegation (stop : Nat) : Nat → Tokens → Reading (Expr × Tokens)
  | 0, ts => .error ⟨Tokens.offset stop ts, .nestedTooDeeply⟩
  | fuel + 1, ts =>
    match ts with
    | (_, .minus) :: rest => do
      let (operand, rest) ← readNegation stop fuel rest
      return (.negate operand, rest)
    | _ => do
      let (left, rest) ← readPath stop fuel ts
      readUnion stop fuel left rest

/-- Reads what is united with `left`. -/
def readUnion (stop : Nat) : Nat → Expr → Tokens → Reading (Expr × Tokens)
  | 0, _, ts => .error ⟨Tokens.offset stop ts, .nestedTooDeeply⟩
  | fuel + 1, left, ts =>
    match ts with
    | (_, .pipe) :: rest => do
      let (right, rest) ← readPath stop fuel rest
      readUnion stop fuel (.union left right) rest
    | _ => .ok (left, ts)

/-- Reads a path, or another expression with predicates and steps behind it. -/
def readPath (stop : Nat) : Nat → Tokens → Reading (Expr × Tokens)
  | 0, ts => .error ⟨Tokens.offset stop ts, .nestedTooDeeply⟩
  | fuel + 1, ts =>
    match ts with
    | (_, .slash) :: rest =>
      if startsStep rest then do
        let (steps, rest) ← readSteps stop fuel rest
        return (.path true steps, rest)
      -- the root by itself
      else .ok (.path true [], rest)
    | (_, .doubleSlash) :: rest => do
      let (steps, rest) ← readSteps stop fuel rest
      return (.path true (.anyDepth :: steps), rest)
    | _ =>
      if startsPrimary ts then do
        let (primary, rest) ← readPrimary stop fuel ts
        let (predicates, rest) ← readPredicates stop fuel rest
        let (steps, rest) ← readMoreSteps stop fuel rest
        -- only what is filtered or walked on from has to be nodes
        if predicates.isEmpty && steps.isEmpty then return (primary, rest)
        else return (.filter primary predicates steps, rest)
      else do
        let (steps, rest) ← readSteps stop fuel ts
        return (.path false steps, rest)

/-- Reads one or more steps with slashes between them. -/
def readSteps (stop : Nat) : Nat → Tokens → Reading (List Step × Tokens)
  | 0, ts => .error ⟨Tokens.offset stop ts, .nestedTooDeeply⟩
  | fuel + 1, ts => do
    let (step, rest) ← readStep stop fuel ts
    let (steps, rest) ← readMoreSteps stop fuel rest
    return (step :: steps, rest)

/-- Reads any number of steps, each behind a slash or two. -/
def readMoreSteps (stop : Nat) : Nat → Tokens → Reading (List Step × Tokens)
  | 0, ts => .error ⟨Tokens.offset stop ts, .nestedTooDeeply⟩
  | fuel + 1, ts =>
    match ts with
    | (_, .slash) :: rest => readSteps stop fuel rest
    | (_, .doubleSlash) :: rest => do
      let (steps, rest) ← readSteps stop fuel rest
      return (.anyDepth :: steps, rest)
    | _ => .ok ([], ts)

/-- Reads a location step. -/
def readStep (stop : Nat) : Nat → Tokens → Reading (Step × Tokens)
  | 0, ts => .error ⟨Tokens.offset stop ts, .nestedTooDeeply⟩
  | fuel + 1, ts =>
    match ts with
    | (_, .dot) :: rest => .ok (.here, rest)
    | (_, .twoDots) :: rest => .ok (.up, rest)
    | _ => do
      let (axis, rest) ← readAxis ts
      let (test, rest) ← readNodeTest stop rest
      let (predicates, rest) ← readPredicates stop fuel rest
      return (.mk axis test predicates, rest)

/-- Reads any number of predicates. -/
def readPredicates (stop : Nat) : Nat → Tokens → Reading (List Expr × Tokens)
  | 0, ts => .error ⟨Tokens.offset stop ts, .nestedTooDeeply⟩
  | fuel + 1, ts =>
    match ts with
    | (_, .openBracket) :: rest => do
      let (predicate, rest) ← readLevel stop fuel 0 rest
      match rest with
      | (_, .closeBracket) :: rest =>
        let (predicates, rest) ← readPredicates stop fuel rest
        return (predicate :: predicates, rest)
      | _ => throw ⟨Tokens.offset stop rest, .expectedCloseBracket⟩
    | _ => .ok ([], ts)

/-- Reads a literal, a number, a variable, an expression in parentheses or a function call. -/
def readPrimary (stop : Nat) : Nat → Tokens → Reading (Expr × Tokens)
  | 0, ts => .error ⟨Tokens.offset stop ts, .nestedTooDeeply⟩
  | fuel + 1, ts =>
    match ts with
    | (_, .literal text) :: rest => .ok (.literal text, rest)
    | (_, .number value) :: rest => .ok (.number value, rest)
    | (_, .variable name) :: rest => .ok (.variable name, rest)
    | (_, .openParen) :: rest => do
      let (inner, rest) ← readLevel stop fuel 0 rest
      match rest with
      | (_, .closeParen) :: rest => return (inner, rest)
      | _ => throw ⟨Tokens.offset stop rest, .expectedCloseParen⟩
    | (_, .name test) :: (_, .openParen) :: rest => do
      let (arguments, rest) ← match rest with
        | (_, .closeParen) :: rest => pure ([], rest)
        | _ => readArguments stop fuel rest
      match checkCall test arguments.length with
      | .ok f => return (.call f arguments, rest)
      | .error fault => throw ⟨Tokens.offset stop rest, fault⟩
    | _ => .error ⟨Tokens.offset stop ts, .expectedOpenParen⟩

/-- Reads one or more arguments up to and including the closing parenthesis. -/
def readArguments (stop : Nat) : Nat → Tokens → Reading (List Expr × Tokens)
  | 0, ts => .error ⟨Tokens.offset stop ts, .nestedTooDeeply⟩
  | fuel + 1, ts => do
    let (argument, rest) ← readLevel stop fuel 0 ts
    match rest with
    | (_, .comma) :: rest =>
      let (later, rest) ← readArguments stop fuel rest
      return (argument :: later, rest)
    | (_, .closeParen) :: rest => return ([argument], rest)
    | _ => throw ⟨Tokens.offset stop rest, .expectedCloseParen⟩

end

/-- A nesting bound that `n` tokens cannot reach: between two tokens reading goes down fewer than
sixteen times. -/
def nestingBound (n : Nat) : Nat := 16 * (n + 2)

/-- **Reading an expression:** all of its tokens make up one expression. -/
def Expr.parse (source : String) : Except SyntaxError Expr := do
  let stop := source.utf8ByteSize
  let ts ← tokens source.toList
  let (e, rest) ← readLevel stop (nestingBound ts.length) 0 ts
  match rest with
  | [] => return e
  | (o, _) :: _ => throw ⟨o, .trailingTokens⟩

end XmlAudit.XPath
