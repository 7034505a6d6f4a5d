import Runbook.Text.Blank

/-! The settings that a pattern can switch on and off for its parts.
-/

set_option autoImplicit false

namespace Runbook.Pattern

/-- A pattern starts with `^` and `$` at line ends and with `.` matching line feeds. -/
structure Flags where
  caseless : Bool := false
  multiLine : Bool := true
  dotAll : Bool := true
  lazyFirst : Bool := false
  unicode : Bool := true
  crlf : Bool := false
  verbose : Bool := false
  deriving DecidableEq, Repr

inductive Flag where
  | caseless
  | multiLine
  | dotAll
  | lazyFirst
  | unicode
  | crlf
  | verbose
  deriving DecidableEq, Repr

namespace Flag

def ofChar? : Char → Option Flag
  | 'i' => some .caseless
  | 'm' => some .multiLine
  | 's' => some .dotAll
  | 'U' => some .lazyFirst
  | 'u' => some .unicode
  | 'R' => some .crlf
  | 'x' => some .verbose
  | _ => none

/-- Flags up to `:` or `)`, each with its new state. A flag stands once, the minus sign once and in
front of a flag. The result has the closing character and what follows it. -/
def readAll (seen : List Flag) (negated dangling : Bool) :
    List Char → Option (List (Flag × Bool) × Char × List Char)
  | [] => none
  | c :: rest =>
    if c = ':' ∨ c = ')' then
      if dangling then none else some ([], c, rest)
    else if c = '-' then
      if negated then none else readAll seen true true rest
    else
      match ofChar? c with
      | none => none
      | some flag =>
        if flag ∈ seen then none
        else
          (readAll (flag :: seen) negated false rest).map fun found =>
            ((flag, !negated) :: found.1, found.2)

end Flag

namespace Flags

def set (flags : Flags) : Flag × Bool → Flags
  | (.caseless, on) => { flags with caseless := on }
  | (.multiLine, on) => { flags with multiLine := on }
  | (.dotAll, on) => { flags with dotAll := on }
  | (.lazyFirst, on) => { flags with lazyFirst := on }
  | (.unicode, on) => { flags with unicode := on }
  | (.crlf, on) => { flags with crlf := on }
  | (.verbose, on) => { flags with verbose := on }

def setAll (flags : Flags) (changes : List (Flag × Bool)) : Flags :=
  changes.foldl set flags

end Flags

/-- Past white space and comments to the end of their line. -/
def skipVerbose (inComment : Bool) : List Char → List Char
  | [] => []
  | c :: rest =>
    if inComment then skipVerbose (c != '\n') rest
    else if Text.isBlank c then skipVerbose false rest
    else if c = '#' then skipVerbose true rest
    else c :: rest

def Flags.skip (flags : Flags) (cs : List Char) : List Char :=
  if flags.verbose then skipVerbose false cs else cs

def spanVerbose (verbose inComment : Bool) (accepts : Char → Bool) :
    List Char → List Char × List Char
  | [] => ([], [])
  | c :: rest =>
    if inComment then spanVerbose verbose (c != '\n') accepts rest
    else if verbose && Text.isBlank c then spanVerbose verbose false accepts rest
    else if verbose && c == '#' then spanVerbose verbose true accepts rest
    else if accepts c then
      let found := spanVerbose verbose false accepts rest
      (c :: found.1, found.2)
    else ([], c :: rest)

def Flags.span (flags : Flags) (accepts : Char → Bool) (cs : List Char) : List Char × List Char :=
  spanVerbose flags.verbose false accepts cs

end Runbook.Pattern
