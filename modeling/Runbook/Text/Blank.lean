/-! White space as the Unicode property White_Space has it, and trimming by it.

Every emptiness test and every trimmed comparison of the library goes through this predicate.
-/

set_option autoImplicit false

namespace Runbook.Text

/-- The 25 code points with the property White_Space. -/
def isBlank (c : Char) : Bool :=
  let n := c.toNat
  (9 ≤ n && n ≤ 13) || n == 0x20 || n == 0x85 || n == 0xA0 || n == 0x1680 ||
    (0x2000 ≤ n && n ≤ 0x200A) || n == 0x2028 || n == 0x2029 || n == 0x202F ||
    n == 0x205F || n == 0x3000

def dropBlank (cs : List Char) : List Char :=
  cs.dropWhile isBlank

def trimChars (cs : List Char) : List Char :=
  (dropBlank (dropBlank cs).reverse).reverse

def trim (s : String) : String :=
  String.ofList (trimChars s.toList)

def isBlankText (s : String) : Bool :=
  s.toList.all isBlank

theorem dropBlank_eq_self {cs : List Char} (shown : ∀ c ∈ cs, isBlank c = false) :
    dropBlank cs = cs := by
  cases cs with
  | nil => rfl
  | cons c rest => simp [dropBlank, shown c List.mem_cons_self]

theorem trim_eq_self {s : String} (shown : ∀ c ∈ s.toList, isBlank c = false) : trim s = s := by
  have backwards : ∀ c ∈ s.toList.reverse, isBlank c = false :=
    fun c member => shown c (List.mem_reverse.1 member)
  rw [trim, trimChars, dropBlank_eq_self shown, dropBlank_eq_self backwards, List.reverse_reverse,
    String.ofList_toList]

end Runbook.Text
