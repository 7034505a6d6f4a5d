/-! Identifiers of runs: `run-` and five groups of lower-case hexadecimal digits joined by hyphens.
-/

set_option autoImplicit false

namespace Runbook

namespace RunId

def isLowerHex (c : Char) : Bool :=
  c.isDigit || ('a' ≤ c && c ≤ 'f')

def start : List Char := ['r', 'u', 'n', '-']

def groupLengths : List Nat := [8, 4, 4, 4, 12]

def isGrouped : List Nat → List Char → Bool
  | [], cs => cs.isEmpty
  | [n], cs => cs.length == n && cs.all isLowerHex
  | n :: rest, cs =>
    (cs.take n).length == n && (cs.take n).all isLowerHex &&
      match cs.drop n with
      | '-' :: behind => isGrouped rest behind
      | _ => false

def isShaped (cs : List Char) : Bool :=
  cs.take 4 == start && isGrouped groupLengths (cs.drop 4)

def isWellFormed (text : String) : Bool :=
  isShaped text.toList

def group : List Nat → List Char → List Char
  | [], _ => []
  | [n], digits => digits.take n
  | n :: rest, digits => digits.take n ++ '-' :: group rest (digits.drop n)

theorem isGrouped_group : ∀ (lengths : List Nat) (digits : List Char),
    lengths ≠ [] → lengths.foldr (· + ·) 0 ≤ digits.length → digits.all isLowerHex = true →
    isGrouped lengths (group lengths digits) = true
  | [], _, nonempty, _, _ => absurd rfl nonempty
  | [n], digits, _, enough, hex => by
    have all : ∀ c ∈ digits.take n, isLowerHex c = true := fun c inside =>
      List.all_eq_true.1 hex c (List.mem_of_mem_take inside)
    simp only [List.foldr_cons, List.foldr_nil, Nat.add_zero] at enough
    simp only [group, isGrouped, Bool.and_eq_true, beq_iff_eq, List.length_take, List.all_eq_true]
    exact ⟨by omega, all⟩
  | n :: m :: rest, digits, _, enough, hex => by
    simp only [List.foldr_cons] at enough
    have long : (digits.take n).length = n := by simp [List.length_take]; omega
    have front : (digits.take n ++ '-' :: group (m :: rest) (digits.drop n)).take n =
        digits.take n := by
      rw [List.take_append_of_le_length (by omega), List.take_of_length_le (by omega)]
    have behind : (digits.take n ++ '-' :: group (m :: rest) (digits.drop n)).drop n =
        '-' :: group (m :: rest) (digits.drop n) := by
      rw [List.drop_append_of_le_length (by omega), List.drop_of_length_le (by omega)]
      rfl
    have all : (digits.take n).all isLowerHex = true := by
      simp only [List.all_eq_true] at hex ⊢
      exact fun c inside => hex c (List.mem_of_mem_take inside)
    have left : (digits.drop n).all isLowerHex = true := by
      simp only [List.all_eq_true] at hex ⊢
      exact fun c inside => hex c (List.mem_of_mem_drop inside)
    have rest' := isGrouped_group (m :: rest) (digits.drop n) (by simp)
      (by simp only [List.foldr_cons, List.length_drop]; omega) left
    simp only [group, isGrouped, front, behind, long, all, rest', beq_self_eq_true, Bool.and_self]

def digit (n : Nat) : Char :=
  if n % 16 < 10 then Char.ofNat (48 + n % 16) else Char.ofNat (87 + n % 16)

theorem isLowerHex_digit (n : Nat) : isLowerHex (digit n) = true := by
  have bounded : ∀ k < 16, isLowerHex (digit k) = true := by decide
  have same : digit n = digit (n % 16) := by simp [digit]
  rw [same]
  exact bounded _ (Nat.mod_lt _ (by decide))

/-- The last digits of a number, most significant first. -/
def digits : Nat → Nat → List Char
  | 0, _ => []
  | width + 1, n => digits width (n / 16) ++ [digit n]

theorem length_digits (width n : Nat) : (digits width n).length = width := by
  induction width generalizing n with
  | zero => rfl
  | succ width ih => simp [digits, ih]

theorem all_digits (width n : Nat) : (digits width n).all isLowerHex = true := by
  induction width generalizing n with
  | zero => rfl
  | succ width ih => simp [digits, ih, isLowerHex_digit]

def serialChars (n : Nat) : List Char :=
  start ++ group groupLengths (digits 32 n)

theorem isWellFormed_serial (n : Nat) : isWellFormed (String.ofList (serialChars n)) = true := by
  have grouped := isGrouped_group groupLengths (digits 32 n) (by decide)
    (by rw [length_digits]; decide) (all_digits 32 n)
  simp only [isWellFormed, isShaped, serialChars, String.toList_ofList]
  rw [List.take_left' (by rfl), List.drop_left' (by rfl), grouped]
  rfl

end RunId

structure RunId where
  text : String
  wellFormed : RunId.isWellFormed text = true
  deriving DecidableEq, Repr

namespace RunId

def parse? (text : String) : Option RunId :=
  if h : isWellFormed text = true then some ⟨text, h⟩ else none

def faultMessage (text : String) : String :=
  s!"Invalid run ID '{text}': must be in format run-" ++ "\x7buuid\x7d"

def ofSerial (n : Nat) : RunId :=
  ⟨String.ofList (serialChars n), isWellFormed_serial n⟩

instance : ToString RunId := ⟨text⟩

/-- The number of characters of every identifier. -/
def length : Nat := 40

/-- Replaces each identifier from the front on; `skip` characters belong to the one found last. -/
def replaceFrom (name : RunId → String) (skip : Nat) : List Char → List Char
  | [] => []
  | c :: rest =>
    match skip with
    | left + 1 => replaceFrom name left rest
    | 0 =>
      match parse? (String.ofList ((c :: rest).take length)) with
      | some id => (name id).toList ++ replaceFrom name (length - 1) rest
      | none => c :: replaceFrom name 0 rest

def replaceAll (name : RunId → String) (text : String) : String :=
  String.ofList (replaceFrom name 0 text.toList)

end RunId

end Runbook
