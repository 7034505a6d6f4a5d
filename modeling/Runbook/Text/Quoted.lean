import Runbook.Unicode.Addition

/-! Text between double quotes, with everything escaped that would not show: control and format
characters, white space other than the blank, unassigned code points, and combining marks.
-/

set_option autoImplicit false

namespace Runbook.Text.Quoted

def hexText (n : Nat) : List Char :=
  Nat.toDigits 16 n

def escape (c : Char) : List Char :=
  match c with
  | '\x00' => ['\\', '0']
  | '\t' => ['\\', 't']
  | '\r' => ['\\', 'r']
  | '\n' => ['\\', 'n']
  | '"' => ['\\', '"']
  | '\\' => ['\\', '\\']
  | _ => if Unicode.isShown c then [c] else ['\\', 'u', '{'] ++ hexText c.toNat ++ ['}']

def quote (s : String) : String :=
  String.ofList (['"'] ++ s.toList.flatMap escape ++ ['"'])

end Runbook.Text.Quoted
