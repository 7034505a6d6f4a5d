import Runbook.Document.Reading
import Runbook.Workflow.Codec
import Runbook.Workflow.Validation

/-! Workflow definitions as text: which notation a text is in, and reading one that is sound.
-/

set_option autoImplicit false

namespace Runbook.Workflow

open Document

namespace Source

def fileName? (path : String) : Option (List Char) :=
  let parts := splitSlash path.toList
  let named := parts.filter fun part => !part.isEmpty && part != ['.']
  match named.getLast? with
  | none => none
  | some last => if last = ['.', '.'] then none else some last
where
  splitSlash : List Char → List (List Char)
  | [] => [[]]
  | c :: rest =>
    match splitSlash rest with
    | [] => []
    | first :: others => if c = '/' then [] :: first :: others else (c :: first) :: others

/-- What follows the last point of a file name; a point in front starts no extension. -/
def extension? (path : String) : Option (List Char) := do
  let name ← fileName? path
  let ending := name.reverse.takeWhile (· != '.')
  if ending.length + 1 < name.length ∧ name.contains '.' then some ending.reverse else none

def formatOfContent (content : String) : Format :=
  match Text.dropBlank content.toList with
  | '{' :: _ => .json
  | _ => .toml

/-- The notation after the extension of the path, else after the first character of the content. -/
def detect (path : Option String) (content : String) : Format :=
  match path.bind extension? with
  | none => formatOfContent content
  | some ending =>
    match String.ofList (ending.map Char.toLower) with
    | "json" => .json
    | "toml" => .toml
    | _ => formatOfContent content

def formatName : Format → String
  | .json => "JSON"
  | .toml => "TOML"

end Source

def parse (content : String) (format : Format) : Except Error Workflow :=
  match readWith decode format content with
  | .error fault =>
    .error (.validation s!"Invalid workflow {Source.formatName format}: {fault.message}")
  | .ok workflow =>
    match workflow.validate with
    | .ok () => .ok workflow
    | .error fault => .error (.validation fault.message)

end Runbook.Workflow
