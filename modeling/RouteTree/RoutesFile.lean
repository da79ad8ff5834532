import RouteTree.Json.Written
import RouteTree.Table
import RouteTree.Text.Quoted
import RouteTree.Toml.Reader

namespace RouteTree

/-! Files that hold options and a tree of routes, in JSON or in TOML. -/

structure RoutesFile where
  options : Options
  routes : Json
deriving Repr

namespace Options

def ofWritten? : Json.Written → Option Options
  | .object members =>
      (Json.Written.memberValues? members).bind fun members =>
        ofFields? (members.map fun (key, value) => (key, Field.ofJson value))
  | _ => none

def ofJsonText? (t : Text) : Option Options :=
  (Json.Written.ofText? t).bind fun written =>
    if written.nesting ≤ Json.maxNesting then ofWritten? written else none

def ofToml? (value : Toml) : Option Options :=
  value.members?.bind fun members =>
    ofFields? (members.map fun (key, value) => (key, value.toField))

def ofTomlText? (t : Text) : Option Options := (Toml.ofText? t).bind ofToml?

end Options

namespace RoutesFile

def optionsKey : Text := "options".toList
def routesKey : Text := "routes".toList

def toJson (file : RoutesFile) : Json :=
  .object [(optionsKey, file.options.toJson), (routesKey, file.routes)]

def part? {α β : Type} (read? : α → Option β) (default : β) (key : Text)
    (members : List (Text × α)) : Option β :=
  match members.filter fun member => member.1 == key with
  | [] => some default
  | [member] => read? member.2
  | _ => none

def nested? {β : Type} (read? : Json.Written → Option β) (value : Json.Written) : Option β :=
  if value.nesting < Json.maxNesting then read? value else none

/-- Other members of an object do not count and may hold anything. -/
def ofWritten? : Json.Written → Option RoutesFile
  | .object members => do
      let members ← members.mapM fun (key, value) =>
        (Json.partsText? key).map fun key => (key, value)
      let options ← part? (nested? Options.ofWritten?) .initial optionsKey members
      let routes ← part? (nested? Json.Written.value?) .null routesKey members
      return ⟨options, routes⟩
  | .array [] => some ⟨.initial, .null⟩
  | .array [options] => do
      let options ← nested? Options.ofWritten? options
      return ⟨options, .null⟩
  | .array [options, routes] => do
      let options ← nested? Options.ofWritten? options
      let routes ← nested? Json.Written.value? routes
      return ⟨options, routes⟩
  | _ => none

def ofJsonText? (t : Text) : Option RoutesFile := (Json.Written.ofText? t).bind ofWritten?

def ofTomlText? (t : Text) : Option RoutesFile := do
  let value ← Toml.ofText? t
  let members ← value.members?
  let options ← part? Options.ofToml? .initial optionsKey members
  let routes ← part? (fun value => some value.toJson) .null routesKey members
  return ⟨options, routes⟩

def compile (file : RoutesFile) : Except RouteError Table := file.routes.compile file.options

inductive LoadError
  | unreadable (name : Text)
  | malformed (name : Text)
deriving DecidableEq, Repr

def LoadError.message : LoadError → Text
  | .unreadable name => "Failed to read routes file: ".toList ++ name.quoted
  | .malformed name => "Failed to parse routes file: ".toList ++ name.quoted

def afterLast (d : Char) (t : Text) : Text := (t.reverse.takeWhile (· != d)).reverse

/-- The part of a file's name after its last point, when something stands in front of it. -/
def extension? (name : Text) : Option Text :=
  let file := afterLast '/' name
  let extension := afterLast '.' file
  if extension.length + 1 < file.length then some extension else none

/-- No contents stand for a file that does not exist; the name decides the format. -/
def load (name : Text) (contents : Option ByteArray) : Except LoadError RoutesFile :=
  match contents.bind String.fromUTF8? with
  | none => .error (.unreadable name)
  | some text =>
      let read? := if extension? name = some "json".toList then ofJsonText? else ofTomlText?
      match read? text.toList with
      | some file => .ok file
      | none => .error (.malformed name)

end RoutesFile

end RouteTree
