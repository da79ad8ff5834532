import RouteTree.Query
import RouteTree.UrlRule

namespace RouteTree

structure Format where
  strict : Bool
  encode : Bool
  sigil : Char
  rule : UrlRule
  prepend : Text

def Format.ofOptions (options : FormatOptions) (prepend : Option Text) :
    Except RouteError Format := do
  let rule ← UrlRule.ofCheck options.check
  return ⟨options.strictKeys, options.percentEncode, options.sigil, rule, prepend.getD []⟩

structure Formatter where
  template : Text
  path : PathTemplate
  queryKeys : List Text
  format : Format

namespace Formatter

/-- The URL before it is checked, without what is prepended. -/
def draft (f : Formatter) (arguments : Option PathArguments) (search : Option (Bindings Value)) :
    Except RouteError Text := do
  let path ← f.path.fill f.format.strict f.format.encode f.template arguments
  let query ←
    Query.checkedText f.queryKeys f.format.strict f.format.encode f.template search
  return path ++ query

/-- The URL is checked unless it shows parameters in place of values. -/
def url (f : Formatter) (arguments : Option PathArguments) (search : Option (Bindings Value)) :
    Except RouteError Text := do
  let draft ← f.draft arguments search
  if arguments.isSome || f.path.parameterCount == 0 then f.format.rule.check draft
  return f.format.prepend ++ draft

end Formatter

inductive RouteKind
  | constant
  | path
  | query
  | pathAndQuery
deriving DecidableEq, Repr

namespace RouteKind

def ofCounts : Nat → Nat → RouteKind
  | 0, 0 => .constant
  | _ + 1, 0 => .path
  | 0, _ + 1 => .query
  | _ + 1, _ + 1 => .pathAndQuery

def text : RouteKind → Text
  | .constant => "constant".toList
  | .path => "path".toList
  | .query => "query".toList
  | .pathAndQuery => "path+query".toList

end RouteKind

/-- A formatter, with the URL itself when nothing in it can change. -/
structure Route where
  formatter : Formatter
  constant : Option Text

namespace Route

def template (r : Route) : Text := r.formatter.template

def parameters (r : Route) : List Text := r.formatter.path.parameters

def queryKeys (r : Route) : List Text := r.formatter.queryKeys

def kind (r : Route) : RouteKind :=
  .ofCounts r.formatter.path.parameterCount r.formatter.queryKeys.length

/-- The route whose URL is the given path; the path is checked. -/
def fixed (format : Format) (path : Text) (formatter : Formatter) : Except RouteError Route := do
  format.rule.check path
  return ⟨formatter, some (format.prepend ++ path)⟩

/-- What follows the first question mark declares query keys. -/
def ofTemplate (format : Format) (template : Text) : Except RouteError Route :=
  let parts := template.cut '?'
  let path := PathTemplate.parse format.sigil parts.1
  let queryKeys := (parts.2.map Query.declaredKeys).getD []
  let formatter : Formatter := ⟨template, path, queryKeys, format⟩
  match RouteKind.ofCounts path.parameterCount queryKeys.length with
  | .constant => fixed format parts.1 formatter
  | _ => .ok ⟨formatter, none⟩

def ofBase (format : Format) (base : Text) : Except RouteError Route :=
  fixed format base ⟨base, PathTemplate.verbatim format.sigil base, [], format⟩

/-- The route of a template that belongs to no tree. -/
def ofPath (template : Text) (options : FormatOptions) : Except RouteError Route := do
  let format ← Format.ofOptions options none
  ofTemplate format template

def url (r : Route) (arguments : Option PathArguments) (search : Option (Bindings Value)) :
    Except RouteError Text :=
  match r.constant, arguments, search with
  | some url, none, none => .ok url
  | _, _, _ => r.formatter.url arguments search

end Route

end RouteTree
