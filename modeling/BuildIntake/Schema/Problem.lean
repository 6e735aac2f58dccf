import BuildIntake.Url.Fault

/-!
# Problems of a document

A document that does not have the shape asked for has problems, each with its place and its cause.
A cause has a short code and a wording; some wordings depend on whether the document was given as a
value or as JSON text.
-/

namespace BuildIntake.Schema

/-- One step on the way from a document to a part of it. -/
inductive Step where
  | key (name : String)
  | index (i : Nat)
  deriving DecidableEq

abbrev Place := List Step

inductive Cause where
  | missing
  | notText
  | notInteger
  | integerSyntax
  | integerFraction
  | integerRange
  | integerInfinite
  | notNumber
  | numberSyntax
  | notFlag
  | flagSyntax
  | notList
  | notMap
  | notRecord (title : String)
  /-- No object where a record of one of several kinds is asked for. -/
  | notVariant
  | emptyList
  | notAmong (options : List String)
  | noTag
  | unknownTag (tag : String) (known : List String)
  | undeclared
  /-- A rule that joins several parts of a record is broken. -/
  | rule (reason : String)
  | notUrl
  | url (fault : Url.Fault)
  | jsonSyntax
  deriving DecidableEq

/-- How a document was given. -/
inductive Origin where
  | value
  | text
  deriving DecidableEq

structure Problem where
  place : Place
  cause : Cause
  deriving DecidableEq

/-- The same problem, seen from one step further out. -/
def Problem.within (s : Step) (p : Problem) : Problem := { p with place := s :: p.place }

namespace Cause

def code (origin : Origin) : Cause → String
  | .missing => "missing"
  | .notText => "string_type"
  | .notInteger => "int_type"
  | .integerSyntax => "int_parsing"
  | .integerFraction => "int_from_float"
  | .integerRange => "int_parsing_size"
  | .integerInfinite => "finite_number"
  | .notNumber => "float_type"
  | .numberSyntax => "float_parsing"
  | .notFlag => "bool_type"
  | .flagSyntax => "bool_parsing"
  | .notList => "list_type"
  | .notMap => "dict_type"
  | .notRecord _ => "model_type"
  | .notVariant => match origin with
    | .value => "model_attributes_type"
    | .text => "dict_type"
  | .emptyList => "too_short"
  | .notAmong _ => "literal_error"
  | .noTag => "union_tag_not_found"
  | .unknownTag _ _ => "union_tag_invalid"
  | .undeclared => "extra_forbidden"
  | .rule _ => "value_error"
  | .notUrl => "url_type"
  | .url _ => "url_parsing"
  | .jsonSyntax => "json_invalid"

def inMarks (s : String) : String := "'" ++ s ++ "'"

/-- Lists alternatives: commas between them, and a word before the last. -/
def alternatives : List String → String
  | [] => ""
  | [a] => a
  | [a, b] => a ++ " or " ++ b
  | a :: rest => a ++ ", " ++ alternatives rest

def wording (origin : Origin) : Cause → String
  | .missing => "Field required"
  | .notText => "Input should be a valid string"
  | .notInteger => "Input should be a valid integer"
  | .integerSyntax => "Input should be a valid integer, unable to parse string as an integer"
  | .integerFraction => "Input should be a valid integer, got a number with a fractional part"
  | .integerRange => "Unable to parse input string as an integer, exceeded maximum size"
  | .integerInfinite => "Input should be a finite number"
  | .notNumber => "Input should be a valid number"
  | .numberSyntax => "Input should be a valid number, unable to parse string as a number"
  | .notFlag => "Input should be a valid boolean"
  | .flagSyntax => "Input should be a valid boolean, unable to interpret input"
  | .notList => match origin with
    | .value => "Input should be a valid list"
    | .text => "Input should be a valid array"
  | .notMap => match origin with
    | .value => "Input should be a valid dictionary"
    | .text => "Input should be an object"
  | .notRecord title => match origin with
    | .value => "Input should be a valid dictionary or instance of " ++ title
    | .text => "Input should be an object"
  | .notVariant => match origin with
    | .value => "Input should be a valid dictionary or object to extract fields from"
    | .text => "Input should be an object"
  | .emptyList => "List should have at least 1 item after validation, not 0"
  | .notAmong options => "Input should be " ++ alternatives (options.map inMarks)
  | .noTag => "Unable to extract tag using discriminator 'type'"
  | .unknownTag tag known =>
    "Input tag " ++ inMarks tag ++ " found using 'type' does not match any of the expected tags: " ++
      ", ".intercalate (known.map inMarks)
  | .undeclared => "Extra inputs are not permitted"
  | .rule reason => "Value error, " ++ reason
  | .notUrl => "URL input should be a string or URL"
  | .url fault => "Input should be a valid URL, " ++ fault.message
  | .jsonSyntax => "Invalid JSON"

end Cause

/-- The outcome of reading a document that failed: what was asked for, and all that was wrong. -/
structure Rejection where
  title : String
  origin : Origin
  problems : List Problem
  deriving DecidableEq

def Rejection.message (r : Rejection) : String :=
  let n := r.problems.length
  toString n ++ (if n = 1 then " validation error for " else " validation errors for ") ++ r.title

end BuildIntake.Schema
