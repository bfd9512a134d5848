/-
Statements: SQL text with numbered places for the values that are bound to it.

* `Param`: a value to be bound, of a text or integer column that may or may not be null;
* `Placeholder`: the place of the parameter with some number, counted from one;
* `Statement`: text and parameters, built up piece by piece;
* `whereText`: the conditions of a statement, joined and introduced.
-/
import LeasedStore.Text.Numeral

namespace LeasedStore

/-- A value that is bound to a statement. -/
inductive Param where
  | text (s : String)
  | nullableText (s : Option String)
  | int (n : Int64)
  | nullableInt (n : Option Int64)
  deriving DecidableEq, Repr

/-- The place of a parameter, counted from one. -/
structure Placeholder where
  number : Nat
  deriving DecidableEq, Repr

namespace Placeholder

/-- A placeholder as it stands in SQL text. -/
def sql (p : Placeholder) : String := "$" ++ Numeral.ofNat p.number

/-- The placeholders from one up to a number. -/
def upTo (n : Nat) : List Placeholder := (List.range n).map fun i => ⟨i + 1⟩

/-- The parameter that stands at a place. -/
def param? (p : Placeholder) (params : List Param) : Option Param :=
  if p.number = 0 then none else params[p.number - 1]?

end Placeholder

/-- SQL text and its parameters. -/
structure Statement where
  sql : String
  params : List Param
  deriving DecidableEq, Repr

namespace Statement

/-- The statement without text and parameters. -/
def empty : Statement := ⟨"", []⟩

/-- The statement with a piece of text behind it. -/
def pushSql (s : Statement) (fragment : String) : Statement := { s with sql := s.sql ++ fragment }

/-- The place of one more parameter, and the statement with it. -/
def pushParam (s : Statement) (p : Param) : Placeholder × Statement :=
  (⟨s.params.length + 1⟩, { s with params := s.params ++ [p] })

end Statement

/-- Conditions joined and introduced; nothing if there are none. -/
def whereText (conditions : List String) : String :=
  if conditions.isEmpty then "" else " WHERE " ++ " AND ".intercalate conditions

end LeasedStore
