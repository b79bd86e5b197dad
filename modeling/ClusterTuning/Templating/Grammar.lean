import ClusterTuning.Templating.Token
import ClusterTuning.Templating.Expr

/-!
# ClusterTuning.Templating.Grammar

**Templates from tokens.**

A reader takes tokens from the front of a list. Operators bind, from the weakest to the strongest:
the choice `a if b else c`, `or`, `and`, `not`, comparisons, `+` and `-`, `~`, `*` `/` `//` `%`,
`**`, the sign, members, items and calls, and last filters and tests. Comparisons form chains, and
all other operators on two values group to the left.

Readers that call each other carry two counts. `depth` is the nesting that is still allowed, and
exceeding it is an error of the template. `fuel` only bounds the recursion and is taken larger than
the number of tokens allows to use up.
-/

namespace ClusterTuning.Templating

/-- A reader of tokens. -/
abbrev Reading (α : Type) := StateT (List Token) (Except Fault) α

namespace Reading

/-- Fail on text that is no template. -/
def refuse {α : Type} : Reading α :=
  throw .syntaxError

/-- The next token, which stays. Reaching what is no token is an error. -/
def peek : Reading (Option Token) := do
  match ← get with
  | [] => return none
  | .broken fault :: _ => throw fault
  | token :: _ => return some token

/-- Take the next token. -/
def next : Reading (Option Token) := do
  match ← get with
  | [] => return none
  | .broken fault :: _ => throw fault
  | token :: rest =>
    set rest
    return some token

/-- Is this the next token? -/
def sees (token : Token) : Reading Bool := do
  return (← peek) == some token

/-- Take the token if it is the next one. -/
def skip (token : Token) : Reading Bool := do
  if ← sees token then
    discard next
    return true
  else return false

/-- Take the token, which must be the next one. -/
def expect (token : Token) : Reading Unit := do
  if (← next) != some token then refuse

/-- Take a word. -/
def word : Reading String := do
  match ← next with
  | some (.word name) => return name
  | _ => refuse

end Reading

open Reading

/-- The nesting that is allowed. -/
def nestingLimit : Nat := 150

/-- Read `one`s between `first`s and operators from a table, grouping to the left. -/
def leftGrouped (operators : Token → Option (Expr → Expr → Expr)) (one : Reading Expr) :
    Nat → Expr → Reading Expr
  | 0, left => pure left
  | fuel + 1, left => do
    match (← peek).bind operators with
    | none => return left
    | some join =>
      discard next
      let right ← one
      leftGrouped operators one fuel (join left right)

/-- Words for the operators on truth values. -/
def orOperator : Token → Option (Expr → Expr → Expr)
  | .word name => if name = "or" then some .or else none
  | _ => none

/-- Words for the operators on truth values. -/
def andOperator : Token → Option (Expr → Expr → Expr)
  | .word name => if name = "and" then some .and else none
  | _ => none

/-- Signs of operators, by how strongly they bind. -/
def signOperator (table : List (String × Operation)) : Token → Option (Expr → Expr → Expr)
  | .sign s => (table.lookup s).map .binary
  | _ => none

/-- Sums and differences. -/
def sumOperators : List (String × Operation) :=
  [("+", .add), ("-", .sub)]

/-- Texts joined together. -/
def concatOperators : List (String × Operation) :=
  [("~", .concat)]

/-- Products and quotients. -/
def productOperators : List (String × Operation) :=
  [("*", .mul), ("/", .div), ("//", .floorDiv), ("%", .rem)]

/-- Powers. -/
def powerOperators : List (String × Operation) :=
  [("**", .pow)]

/-- Signs of comparisons. -/
def comparisons : List (String × Comparison) :=
  [("==", .eq), ("!=", .ne), ("<", .lt), ("<=", .le), (">", .gt), (">=", .ge)]

/-- The words for constants. -/
def constants : List (String × Literal) :=
  [("true", .bool true), ("True", .bool true), ("false", .bool false), ("False", .bool false),
    ("none", .none), ("None", .none)]

/-- Arguments of a call. -/
abbrev Arguments := List (Argument Expr)

/-- Read items between commas up to a closing sign. A comma may stand before the sign. -/
def separated {α : Type} (close : Token) (one : Reading α) : Nat → List α → Reading (List α)
  | 0, _ => refuse
  | fuel + 1, items => do
    if ← skip close then return items.reverse
    if !items.isEmpty then
      expect (.sign ",")
      if ← skip close then return items.reverse
    let item ← one
    separated close one fuel (item :: items)

/-- May the argument of a test follow it without brackets, as this token? -/
def startsBareArgument : Token → Bool
  | .word name => !(["and", "or", "else", "is"].contains name)
  | .quoted _ | .integer _ | .decimal _ => true
  | .sign s => ["+", "-", "[", "\x7b"].contains s
  | _ => false

/-- Read one argument of a call behind others. An argument by name is a name, a sign of equality and
a value, and no argument by position follows it. -/
def argument (expression : Reading Expr) (before : Arguments) : Reading (Argument Expr) := do
  if ← skip (.sign "**") then return .entries (← expression)
  if ← skip (.sign "*") then return .each (← expression)
  let e ← expression
  let named := before.any fun arg => match arg with | .named .. => true | _ => false
  match e with
  | .name name =>
    if ← skip (.sign "=") then return .named name (← expression)
    else if named then refuse
    else return .one e
  | e => if named then refuse else return .one e

/-- Read the arguments of a call behind its opening bracket. -/
def argumentsRest (expression : Reading Expr) : Nat → Arguments → Reading Arguments
  | 0, _ => refuse
  | fuel + 1, before => do
    if ← skip (.sign ")") then return before
    if !before.isEmpty then
      expect (.sign ",")
      if ← skip (.sign ")") then return before
    let more ← argument expression before
    argumentsRest expression fuel (before ++ [more])

/-- Words with points between them, as the name of a filter or a test. -/
def dottedName : Nat → Reading String
  | 0 => refuse
  | fuel + 1 => do
    let name ← word
    if ← skip (.sign ".") then return name ++ "." ++ (← dottedName fuel) else return name

/-- The text of a string and of those that follow it directly. -/
def adjacentStrings : Nat → List Char → Reading (List Char)
  | 0, _ => refuse
  | fuel + 1, before => do
    match ← peek with
    | some (.quoted s) =>
      discard next
      adjacentStrings fuel (before ++ s)
    | _ => return before

mutual

/-- An expression. -/
def expression : Nat → Nat → Reading Expr
  | 0, _ => refuse
  | _ + 1, 0 => refuse
  | fuel + 1, depth + 1 => do
    let e ← choiceless fuel depth
    choices fuel depth e

/-- The choices behind an expression: a test, and what else to take. -/
def choices : Nat → Nat → Expr → Reading Expr
  | 0, _, _ => refuse
  | fuel + 1, depth, yes => do
    if ← skip (.word "if") then
      let test ← choiceless fuel depth
      let no ←
        if ← skip (.word "else") then do
          let e ← choiceless fuel depth
          choices fuel depth e
        else pure Expr.silence
      choices fuel depth (.choose test yes no)
    else return yes

/-- An expression without a choice at its top. -/
def choiceless : Nat → Nat → Reading Expr
  | 0, _ => refuse
  | fuel + 1, depth => do
    let left ← conjunction fuel depth
    leftGrouped orOperator (conjunction fuel depth) fuel left

/-- Expressions joined by `and`. -/
def conjunction : Nat → Nat → Reading Expr
  | 0, _ => refuse
  | fuel + 1, depth => do
    let left ← negation fuel depth
    leftGrouped andOperator (negation fuel depth) fuel left

/-- An expression behind any number of `not`s. -/
def negation : Nat → Nat → Reading Expr
  | 0, _ => refuse
  | fuel + 1, depth => do
    if ← skip (.word "not") then return .not (← negation fuel depth)
    else
      let first ← sum fuel depth
      let rest ← comparisonsBehind fuel depth []
      return if rest.isEmpty then first else .compare first rest

/-- The comparisons behind an expression. -/
def comparisonsBehind : Nat → Nat → List (Comparison × Expr) → Reading (List (Comparison × Expr))
  | 0, _, _ => refuse
  | fuel + 1, depth, before => do
    let comparison ← match ← peek with
      | some (.sign s) => pure (comparisons.lookup s)
      | some (.word name) =>
        if name = "in" then pure (some .isIn)
        else if name = "not" then do
          discard next
          if ← sees (.word "in") then pure (some .notIn) else refuse
        else pure none
      | _ => pure none
    match comparison with
    | none => return before.reverse
    | some comparison =>
      discard next
      let right ← sum fuel depth
      comparisonsBehind fuel depth ((comparison, right) :: before)

/-- Sums of what binds more strongly, down to powers. -/
def sum : Nat → Nat → Reading Expr
  | 0, _ => refuse
  | fuel + 1, depth => do
    let power := do
      let base ← filtered fuel depth
      leftGrouped (signOperator powerOperators) (filtered fuel depth) fuel base
    let product := do
      let left ← power
      leftGrouped (signOperator productOperators) power fuel left
    let concatenation := do
      let left ← product
      leftGrouped (signOperator concatOperators) product fuel left
    let left ← concatenation
    leftGrouped (signOperator sumOperators) concatenation fuel left

/-- An expression with its filters and tests. -/
def filtered : Nat → Nat → Reading Expr
  | 0, _ => refuse
  | fuel + 1, depth => do
    let e ← bound fuel depth
    filtersAndTests fuel depth e

/-- A signed expression with the members, items and calls behind it. The sign binds more strongly
than these. -/
def bound : Nat → Nat → Reading Expr
  | 0, _ => refuse
  | fuel + 1, depth => do
    let e ← signed fuel depth
    accesses fuel depth e

/-- An expression behind any number of minus signs. -/
def signed : Nat → Nat → Reading Expr
  | 0, _ => refuse
  | fuel + 1, depth => do
    if ← skip (.sign "-") then return .negate (← signed fuel depth) else primary fuel depth

/-- The members, items and calls behind an expression. -/
def accesses : Nat → Nat → Expr → Reading Expr
  | 0, _, _ => refuse
  | fuel + 1, depth, e => do
    if ← skip (.sign ".") then
      match ← next with
      | some (.word name) => accesses fuel depth (.member e name)
      | some (.integer n) => accesses fuel depth (.item e (.literal (.int n)))
      | _ => refuse
    else if ← skip (.sign "[") then
      let part ← subscript fuel depth e
      accesses fuel depth part
    else if ← skip (.sign "(") then
      let args ← argumentsRest (expression fuel depth) fuel []
      let call := match e with
        | .name function => .call function args
        | .member of name => .method of name args
        | e => .apply e args
      accesses fuel depth call
    else return e

/-- What stands between square brackets behind an expression: a key, or up to three numbers between
colons. -/
def subscript : Nat → Nat → Expr → Reading Expr
  | 0, _, _ => refuse
  | fuel + 1, depth, e => do
    let absent := Expr.literal .none
    let start ← if ← sees (.sign ":") then pure none else some <$> expression fuel depth
    if ← skip (.sign ":") then
      let stop ←
        if (← sees (.sign "]")) || (← sees (.sign ":")) then pure absent else expression fuel depth
      let step ←
        if ← skip (.sign ":") then
          if ← sees (.sign "]") then pure absent else expression fuel depth
        else pure absent
      expect (.sign "]")
      return .slice e (start.getD absent) stop step
    else
      expect (.sign "]")
      match start with
      | some key => return .item e key
      | none => refuse

/-- The filters and tests behind an expression. -/
def filtersAndTests : Nat → Nat → Expr → Reading Expr
  | 0, _, _ => refuse
  | fuel + 1, depth, e => do
    if ← skip (.sign "|") then
      let name ← dottedName fuel
      let args ← optionalArguments fuel depth
      filtersAndTests fuel depth (.filter e name args)
    else if ← skip (.word "is") then
      let opposite ← skip (.word "not")
      let name ← dottedName fuel
      let bare ← peek
      let args ←
        if bare.any startsBareArgument then do
          let arg ← bound fuel depth
          pure [.one arg]
        else optionalArguments fuel depth
      let test := Expr.test e name args
      filtersAndTests fuel depth (if opposite then .not test else test)
    else return e

/-- The arguments of a filter or a test, where there are any. -/
def optionalArguments : Nat → Nat → Reading Arguments
  | 0, _ => refuse
  | fuel + 1, depth => do
    if ← skip (.sign "(") then argumentsRest (expression fuel depth) fuel []
    else return []

/-- A constant, a name, or what stands between brackets. -/
def primary : Nat → Nat → Reading Expr
  | 0, _ => refuse
  | _ + 1, 0 => refuse
  | fuel + 1, depth + 1 => do
    match ← next with
    | some (.word name) =>
      match constants.lookup name with
      | some value => return .literal value
      | none => return .name name
    | some (.quoted s) => return .literal (.text (← adjacentStrings fuel s))
    | some (.integer n) => return .literal (.int n)
    | some (.decimal x) => return .literal (.float x)
    | some (.sign s) =>
      if s = "(" then
        if ← skip (.sign ")") then return .list []
        let first ← expression fuel depth
        if ← skip (.sign ",") then
          return .list (← tupleRest fuel depth [first])
        else
          expect (.sign ")")
          return first
      else if s = "[" then
        return .list (← separated (.sign "]") (expression fuel depth) fuel [])
      else if s = "\x7b" then
        let entry := do
          let key ← expression fuel depth
          expect (.sign ":")
          let value ← expression fuel depth
          return (key, value)
        return .dict (← separated (.sign "\x7d") entry fuel [])
      else refuse
    | _ => refuse

/-- The items of a list in round brackets, behind the first comma. -/
def tupleRest : Nat → Nat → List Expr → Reading (List Expr)
  | 0, _, _ => refuse
  | fuel + 1, depth, items => do
    if ← skip (.sign ")") then return items.reverse
    let item ← expression fuel depth
    if ← skip (.sign ",") then tupleRest fuel depth (item :: items)
    else
      expect (.sign ")")
      return (item :: items).reverse

end

/-! ### Statements -/

/-- Names that cannot be assigned to. -/
def reservedNames : List String :=
  ["true", "True", "false", "False", "none", "None", "loop", "self"]

/-- A name that can be assigned to. -/
def assignableName : Reading String := do
  let name ← word
  if reservedNames.contains name then refuse else return name

/-- A name or parts between commas, up to the token behind them. -/
def targets : Nat → List Target → Reading Target
  | 0, _ => refuse
  | fuel + 1, before => do
    let finished : Reading Target := return .parts before.reverse
    if !before.isEmpty then expect (.sign ",")
    match ← peek with
    | some (.closes _) => finished
    | some (.sign ")") | some (.sign "=") => finished
    | some (.word "in") => finished
    | _ =>
      let target ←
        if ← skip (.sign "(") then do
          let inner ← targets fuel []
          expect (.sign ")")
          pure inner
        else Target.name <$> assignableName
      if ← sees (.sign ",") then targets fuel (target :: before)
      else if before.isEmpty then return target
      else return .parts (target :: before).reverse

/-- A member of a member of … a name that is assigned to, or the name itself. -/
def memberTarget : Nat → Target → Reading Target
  | 0, _ => refuse
  | fuel + 1, target => do
    if ← skip (.sign ".") then
      let name ← word
      match target with
      | .name whole => memberTarget fuel (.member (.name whole) name)
      | .member whole inner => memberTarget fuel (.member (.member whole inner) name)
      | .parts _ => refuse
    else return target

/-- A target of a `set` tag without a comma at its top, and whether it stands in brackets. -/
def setTarget (fuel : Nat) : Reading (Target × Bool) := do
  if ← skip (.sign "(") then
    let inner ← targets fuel []
    expect (.sign ")")
    return (inner, true)
  else return (← memberTarget fuel (.name (← assignableName)), false)

/-- The targets of a `set` tag behind others, up to the sign of equality. -/
def setTargetsRest : Nat → List Target → Reading (List Target)
  | 0, _ => refuse
  | fuel + 1, before => do
    if ← skip (.sign ",") then
      if ← sees (.sign "=") then return before.reverse
      else setTargetsRest fuel ((← setTarget fuel).1 :: before)
    else return before.reverse

/-- The values between commas behind others, up to the end of the tag. A comma may stand there. -/
def assignedRest (depth : Nat) : Nat → List Expr → Reading (List Expr)
  | 0, _ => refuse
  | fuel + 1, before => do
    if ← skip (.sign ",") then
      if ← sees (.closes .statement) then return before.reverse
      else assignedRest depth fuel ((← expression fuel depth) :: before)
    else return before.reverse

/-- What is assigned by a `set` tag: a value, or values between commas as a list. -/
def assigned (fuel depth : Nat) : Reading Expr := do
  let first ← expression fuel depth
  if ← sees (.sign ",") then return .list (← assignedRest depth fuel [first]) else return first

/-- A chain of filters, up to the end of the tag. -/
def filterChain : Nat → List FilterCall → Reading (List FilterCall)
  | 0, _ => refuse
  | fuel + 1, before => do
    if ← sees (.closes .statement) then
      if before.isEmpty then refuse else return before.reverse
    if !before.isEmpty then expect (.sign "|")
    let name ← dottedName fuel
    let args ← optionalArguments fuel nestingLimit
    filterChain fuel (⟨name, args⟩ :: before)

/-- The assignments of a `with` tag, up to its end. -/
def assignments : Nat → Nat → List (Target × Expr) → Reading (List (Target × Expr))
  | 0, _, _ => refuse
  | fuel + 1, depth, before => do
    if ← skip (.closes .statement) then return before.reverse
    if !before.isEmpty then expect (.sign ",")
    let target ←
      if ← skip (.sign "(") then do
        let inner ← targets fuel []
        expect (.sign ")")
        pure inner
      else Target.name <$> assignableName
    expect (.sign "=")
    let value ← expression fuel depth
    assignments fuel depth ((target, value) :: before)

mutual

/-- Statements up to a tag that starts with one of the words `ends`, which is left for the caller,
or up to the end of the template. -/
def body : Nat → Nat → List String → List Statement → Reading (List Statement)
  | 0, _, _, _ => refuse
  | fuel + 1, depth, ends, before => do
    match ← next with
    | none => return before.reverse
    | some (.text s) => body fuel depth ends (.text s :: before)
    | some (.opens .expression) =>
      let value ← expression fuel depth
      expect (.closes .expression)
      body fuel depth ends (.give value :: before)
    | some (.opens _) =>
      match ← peek with
      | none => refuse
      | some (.word name) =>
        if ends.contains name then return before.reverse
        else
          let s ← statement fuel depth
          expect (.closes .statement)
          body fuel depth ends (s :: before)
      | some _ => refuse
    | some _ => refuse

/-- A statement, from its first word to before the end of its last tag. -/
def statement : Nat → Nat → Reading Statement
  | 0, _ => refuse
  | _ + 1, 0 => refuse
  | fuel + 1, depth + 1 => do
    match ← word with
    | "for" => loopStatement fuel depth
    | "if" => choice fuel depth
    | "with" =>
      let names ← assignments fuel depth []
      let inner ← body fuel depth ["endwith"] []
      discard next
      return .scope names inner
    | "set" => assignment fuel depth
    | "filter" =>
      let filters ← filterChain fuel []
      expect (.closes .statement)
      let inner ← body fuel depth ["endfilter"] []
      discard next
      return .filtered filters inner
    | _ => refuse

/-- A loop behind its first word. -/
def loopStatement : Nat → Nat → Reading Statement
  | 0, _ => refuse
  | fuel + 1, depth => do
    let target ← targets fuel []
    expect (.word "in")
    let items ← choiceless fuel depth
    let test ← if ← skip (.word "if") then some <$> expression fuel depth else pure none
    let recursive ← skip (.word "recursive")
    expect (.closes .statement)
    let inner ← body fuel depth ["endfor", "else"] []
    let orElse ←
      if ← skip (.word "else") then do
        expect (.closes .statement)
        body fuel depth ["endfor"] []
      else pure []
    discard next
    return .loop target items test recursive inner orElse

/-- A choice behind its first word. -/
def choice : Nat → Nat → Reading Statement
  | 0, _ => refuse
  | fuel + 1, depth => do
    let test ← choiceless fuel depth
    expect (.closes .statement)
    let yes ← body fuel depth ["endif", "else", "elif"] []
    match ← next with
    | some (.word "else") =>
      expect (.closes .statement)
      let no ← body fuel depth ["endif"] []
      discard next
      return .choose test yes no
    | some (.word "elif") => return .choose test yes [← choice fuel depth]
    | _ => return .choose test yes []

/-- An assignment behind its first word: of a value, or of the text up to an end tag. -/
def assignment : Nat → Nat → Reading Statement
  | 0, _ => refuse
  | fuel + 1, depth => do
    let (first, bracketed) ← setTarget fuel
    let target ←
      if ← sees (.sign ",") then Target.parts <$> setTargetsRest fuel [first] else pure first
    if !bracketed && ((← sees (.closes .statement)) || (← sees (.sign "|"))) then
      let filters ← if ← skip (.sign "|") then filterChain fuel [] else pure []
      expect (.closes .statement)
      let inner ← body fuel depth ["endset"] []
      discard next
      return .capture target filters inner
    else
      expect (.sign "=")
      return .assign target (← assigned fuel depth)

end

/-- A bound on the recursion for a list of tokens: no reader calls more than twenty others before a
token is taken. -/
def fuelFor (tokens : List Token) : Nat :=
  24 * (tokens.length + 2)

/-- Read a template. -/
def readTemplate (s : List Char) : Except Fault (List Statement) :=
  let tokens := tokensOf s
  match (body (fuelFor tokens) nestingLimit [] []).run tokens with
  | .ok (statements, _) => .ok statements
  | .error fault => .error fault

/-- Read an expression that stands for itself. -/
def readExpression (s : List Char) : Except Fault Expr :=
  let tokens := expressionTokensOf s
  let whole : Reading Expr := do
    let e ← expression (fuelFor tokens) nestingLimit
    if (← next).isSome then refuse else return e
  match whole.run tokens with
  | .ok (e, _) => .ok e
  | .error fault => .error fault

end ClusterTuning.Templating
