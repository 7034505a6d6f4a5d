/-! Reading the arguments of a subcommand: options with a value, options without, each in a short and a
long form.

Arguments are read from left to right. A value may follow its option as the next argument, after an equals
sign, or directly after a short name; as the next argument it does not start with a hyphen.
-/

set_option autoImplicit false

namespace Runbook.CommandLine

structure Option_ where
  long : String
  short : Option Char := none
  takesValue : Bool := true
  isRepeatable : Bool := false
  /-- Which values are allowed. -/
  allows : String → Bool := fun _ => true

structure Occurrence where
  long : String
  value : String := ""
  deriving DecidableEq, Repr

inductive Stop where
  | help
  | usage
  deriving DecidableEq, Repr

namespace Options

/-- How an argument begins. -/
inductive Shape where
  | end_
  | long (name : String) (value : Option String)
  | short (name : Char) (rest : List Char)
  | word (text : String)
  deriving DecidableEq, Repr

def shape (argument : String) : Shape :=
  match argument.toList with
  | ['-', '-'] => .end_
  | '-' :: '-' :: rest =>
    let name := rest.takeWhile (· != '=')
    let value := match rest.drop name.length with
      | _ :: value => some (String.ofList value)
      | [] => none
    .long (String.ofList name) value
  | '-' :: c :: rest => .short c rest
  | _ => .word argument

def attached : List Char → Option String
  | [] => none
  | '=' :: value => some (String.ofList value)
  | value => some (String.ofList value)

def note (option : Option_) (value : String) (found : List Occurrence) :
    Except Stop (List Occurrence) :=
  if !option.allows value then .error .usage
  else if !option.isRepeatable && found.any (·.long == option.long) then .error .usage
  else .ok (found ++ [⟨option.long, value⟩])

/-- Whether an argument can be the value of the option before it. -/
def isValue (argument : String) : Bool :=
  match shape argument with
  | .word _ => true
  | _ => false

def read (options : List Option_) (found : List Occurrence) :
    List String → Except Stop (List Occurrence)
  | [] => .ok found
  | argument :: rest =>
    match shape argument with
    | .word _ => .error .usage
    | .end_ => if rest.isEmpty then .ok found else .error .usage
    | .long "help" none => .error .help
    | .short 'h' _ => .error .help
    | .long name value =>
      match options.find? (·.long == name), value with
      | none, _ => .error .usage
      | some option, value =>
        if !option.takesValue then
          if value.isSome then .error .usage
          else
            match note option "" found with
            | .error stop => .error stop
            | .ok found => read options found rest
        else
          match value with
          | some value =>
            match note option value found with
            | .error stop => .error stop
            | .ok found => read options found rest
          | none => readValue options option found rest
    | .short name tail =>
      match options.find? (·.short == some name) with
      | none => .error .usage
      | some option =>
        match attached tail with
        | some value =>
          match note option value found with
          | .error stop => .error stop
          | .ok found => read options found rest
        | none => readValue options option found rest
where
  /-- The value of an option in the next argument. -/
  readValue (options : List Option_) (option : Option_) (found : List Occurrence) :
      List String → Except Stop (List Occurrence)
  | [] => .error .usage
  | argument :: rest =>
    if isValue argument then
      match note option argument found with
      | .error stop => .error stop
      | .ok found => read options found rest
    else .error .usage

def value? (found : List Occurrence) (long : String) : Option String :=
  (found.find? (·.long == long)).map Occurrence.value

def values (found : List Occurrence) (long : String) : List String :=
  (found.filter (·.long == long)).map Occurrence.value

def has (found : List Occurrence) (long : String) : Bool :=
  found.any (·.long == long)

end Options

end Runbook.CommandLine
