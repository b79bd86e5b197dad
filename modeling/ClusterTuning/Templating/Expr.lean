import ClusterTuning.Decimal.Double

/-!
# ClusterTuning.Templating.Expr

**Expressions and statements of templates.**
-/

namespace ClusterTuning.Templating

/-- Values that an expression writes out. -/
inductive Literal where
  /-- Nothing. -/
  | none
  /-- A truth value. -/
  | bool (b : Bool)
  /-- An integer. -/
  | int (n : Nat)
  /-- A number with a fraction or an exponent. -/
  | float (x : Double)
  /-- Text. -/
  | text (s : List Char)
deriving DecidableEq, Repr, Inhabited

/-- Operations that make a new value of two. -/
inductive Operation where
  /-- Sum, and lists one after the other. -/
  | add
  /-- Difference. -/
  | sub
  /-- Product, and repetition. -/
  | mul
  /-- Quotient. -/
  | div
  /-- Quotient without its fraction. -/
  | floorDiv
  /-- Remainder. -/
  | rem
  /-- Power. -/
  | pow
  /-- The texts of both values one after the other. -/
  | concat
deriving DecidableEq, Repr, Inhabited

/-- Questions about two values. -/
inductive Comparison where
  /-- Are they equal? -/
  | eq
  /-- Are they different? -/
  | ne
  /-- Is the first one less? -/
  | lt
  /-- Is it less or equal? -/
  | le
  /-- Is it greater? -/
  | gt
  /-- Is it greater or equal? -/
  | ge
  /-- Is the first value in the second? -/
  | isIn
  /-- Is it not? -/
  | notIn
deriving DecidableEq, Repr, Inhabited

/-- An argument of a call. -/
inductive Argument (α : Type) where
  /-- A value by position. -/
  | one (value : α)
  /-- The items of a value, each by position. -/
  | each (value : α)
  /-- A value by name. -/
  | named (name : String) (value : α)
  /-- The entries of a value, each by name. -/
  | entries (value : α)
deriving DecidableEq, Repr, Inhabited

/-- An expression. -/
inductive Expr where
  /-- A value. -/
  | literal (value : Literal)
  /-- A choice that is not made. It is undefined, but may be given out as empty text. -/
  | silence
  /-- What a name stands for. -/
  | name (name : String)
  /-- A list. -/
  | list (items : List Expr)
  /-- Values by key. -/
  | dict (entries : List (Expr × Expr))
  /-- The number with the other sign. -/
  | negate (of : Expr)
  /-- The other truth value. -/
  | not (of : Expr)
  /-- The second value if the first is true, and else the first. -/
  | and (left right : Expr)
  /-- The first value if it is true, and else the second. -/
  | or (left right : Expr)
  /-- An operation on two values. -/
  | binary (operation : Operation) (left right : Expr)
  /-- A chain of comparisons, each of a value with the one before it. All of them have to hold. -/
  | compare (first : Expr) (rest : List (Comparison × Expr))
  /-- One of two values. -/
  | choose (test yes no : Expr)
  /-- A member of a value. -/
  | member (of : Expr) (name : String)
  /-- An item of a value. -/
  | item (of key : Expr)
  /-- Some of the items of a value. -/
  | slice (of start stop step : Expr)
  /-- A call of a function. -/
  | call (function : String) (args : List (Argument Expr))
  /-- A call of a method of a value. -/
  | method (of : Expr) (name : String) (args : List (Argument Expr))
  /-- A call of a value. -/
  | apply (of : Expr) (args : List (Argument Expr))
  /-- A value changed by a filter. -/
  | filter (of : Expr) (name : String) (args : List (Argument Expr))
  /-- A test on a value. -/
  | test (of : Expr) (name : String) (args : List (Argument Expr))
deriving Inhabited

/-- A filter with its arguments, for text that is not an expression. -/
structure FilterCall where
  /-- The name of the filter. -/
  name : String
  /-- Its arguments. -/
  args : List (Argument Expr)
deriving Inhabited

/-- What a value is assigned to. -/
inductive Target where
  /-- A name. -/
  | name (name : String)
  /-- A member of a value. -/
  | member (of : Expr) (name : String)
  /-- Parts of the value, in order. -/
  | parts (targets : List Target)
deriving Inhabited

/-- A statement. -/
inductive Statement where
  /-- Give out text. -/
  | text (s : List Char)
  /-- Give out a value. -/
  | give (value : Expr)
  /-- For every item, of those that pass a test. Where there is none, do something else. The body of
  a `recursive` loop may run the loop on other items. -/
  | loop (target : Target) (items : Expr) (test : Option Expr) (recursive : Bool)
      (body orElse : List Statement)
  /-- One of two bodies. -/
  | choose (test : Expr) (yes no : List Statement)
  /-- Names for a body. -/
  | scope (assignments : List (Target × Expr)) (body : List Statement)
  /-- Assign a value. -/
  | assign (target : Target) (value : Expr)
  /-- Assign the text that a body gives out. -/
  | capture (target : Target) (filters : List FilterCall) (body : List Statement)
  /-- Give out the text of a body changed by filters. -/
  | filtered (filters : List FilterCall) (body : List Statement)
deriving Inhabited

end ClusterTuning.Templating
