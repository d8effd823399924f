import AnalyticsQuery.Error
import AnalyticsQuery.Query.FilterValue

/-!
# Comparison operators

An operator belongs to a family, which decides the form of its predicate and
the kind of value that is bound for it.
-/

namespace AnalyticsQuery

/-- The families of comparison operators. -/
inductive OperatorFamily
  | equality
  | ordering
  /-- A text that occurs in the column. -/
  | pattern
  /-- A text that the column begins with. -/
  | beginning
  | membership
deriving DecidableEq, Repr

/-- A comparison operator. -/
inductive Operator
  | eq
  | ne
  | gt
  | lt
  | gte
  | lte
  | contains
  | notContains
  | startsWith
  | isIn
  | notIn
deriving DecidableEq, Repr

namespace Operator

/-- The token of an operator. -/
def token : Operator → String
  | eq => "eq"
  | ne => "ne"
  | gt => "gt"
  | lt => "lt"
  | gte => "gte"
  | lte => "lte"
  | contains => "contains"
  | notContains => "not_contains"
  | startsWith => "starts_with"
  | isIn => "in"
  | notIn => "not_in"

/-- The operator of a token; some have more than one. -/
def ofToken? : String → Option Operator
  | "eq" => some eq
  | "ne" => some ne
  | "gt" => some gt
  | "lt" => some lt
  | "gte" => some gte
  | "lte" => some lte
  | "contains" => some contains
  | "like" => some contains
  | "not_contains" => some notContains
  | "notContains" => some notContains
  | "starts_with" => some startsWith
  | "startsWith" => some startsWith
  | "in" => some isIn
  | "not_in" => some notIn
  | "notIn" => some notIn
  | _ => none

/-- The operator of a token, or why there is none. -/
def ofToken (token : String) : Except Error Operator :=
  match ofToken? token with
  | some o => .ok o
  | none => .error (.unsupportedOperator token)

/-- The family of an operator. -/
def family : Operator → OperatorFamily
  | eq => .equality
  | ne => .equality
  | gt => .ordering
  | lt => .ordering
  | gte => .ordering
  | lte => .ordering
  | contains => .pattern
  | notContains => .pattern
  | startsWith => .beginning
  | isIn => .membership
  | notIn => .membership

/-- The sign or word of an operator in a query. -/
def symbol : Operator → String
  | eq => "="
  | ne => "!="
  | gt => ">"
  | lt => "<"
  | gte => ">="
  | lte => "<="
  | contains => "LIKE"
  | notContains => "NOT LIKE"
  | startsWith => "startsWith"
  | isIn => "IN"
  | notIn => "NOT IN"

/-- The comparison of a column with an operand, both given as query text. -/
def predicate (o : Operator) (column operand : String) : String :=
  match o.family with
  | .beginning => "startsWith(" ++ column ++ ", " ++ operand ++ ")"
  | _ => column ++ " " ++ o.symbol ++ " " ++ operand

/-- A character of a pattern that matches itself only. -/
def patternChar (c : Char) : List Char :=
  if c = '\\' ∨ c = '%' ∨ c = '_' then ['\\', c] else [c]

/-- The pattern of the texts that hold a given text. -/
def containing (s : String) : String :=
  String.ofList ('%' :: s.toList.flatMap patternChar ++ ['%'])

/-- The value that an operator binds for a filter value. -/
def binding (o : Operator) (v : FilterValue) : Binding :=
  match o.family with
  | .pattern => .text (containing v.toText)
  | .membership => .texts v.texts
  | .ordering =>
      match v with
      | .scalar s => s.numberBinding
      | .list _ => .text v.toText
  | .equality => .text v.toText
  | .beginning => .text v.toText

/-- Operators in JSON are their tokens. -/
def decoder : Json.Decoder Operator :=
  Json.Decoder.refine Json.Decoder.string fun token =>
    (ofToken token).mapError fun e => .rejected e.message

/-- An operator as a JSON value. -/
def json (o : Operator) : Json :=
  .str o.token

end Operator
end AnalyticsQuery
