import Runbook.Url.Address

/-! The hosts of addresses.
-/

set_option autoImplicit false

namespace Runbook.Url

inductive Host where
  | name (text : String)
  | ipv4 (address : Nat)
  | ipv6 (pieces : List Nat)
  deriving DecidableEq, Repr

namespace Host

def text : Host → String
  | .name text => text
  | .ipv4 address => Address.ipv4Text address
  | .ipv6 pieces => s!"[{Address.ipv6Text pieces}]"

def bracketed? (cs : List Char) : Option Host :=
  match cs.reverse with
  | ']' :: inner => (Address.ipv6? inner.reverse).map .ipv6
  | _ => none

def ofDomain? : List Char → Option Host
  | '[' :: rest => bracketed? rest
  | cs => do
    let name ← Domain.toAscii? (← Percent.decodeText? cs)
    if name.isEmpty then none
    else if Address.endsInNumber name then (Address.ipv4? name).map .ipv4
    else some (.name (String.ofList name))

def ofName? : List Char → Option Host
  | '[' :: rest => bracketed? rest
  | cs =>
    if cs.any fun c =>
        ['\x00', ' ', '#', '/', ':', '<', '>', '?', '@', '[', '\\', ']', '^', '|'].contains c then none
    else some (.name (Percent.encode Percent.inControls cs))

end Host

end Runbook.Url
