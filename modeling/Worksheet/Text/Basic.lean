/-! Texts in cells and names: blanks, comparison and natural numbers. A character is blank when it
has the Unicode property White_Space; zero-width characters such as U+200B and U+FEFF do not have
it. Two texts have the same letters when they are equal up to the case of `A` to `Z`; no other
character has a case here, so a dotless `ı` or a long `ſ` equals itself alone. Texts are ordered by
their characters, which is also the order of their UTF-8 bytes. A number has many texts in decimal
digits, of which `digits` is the shortest. -/

namespace Worksheet.Text

def isBlank (c : Char) : Bool :=
  let n := c.toNat
  (9 ≤ n && n ≤ 13) || n == 0x20 || n == 0x85 || n == 0xA0 || n == 0x1680 ||
    (0x2000 ≤ n && n ≤ 0x200A) || n == 0x2028 || n == 0x2029 || n == 0x202F || n == 0x205F ||
    n == 0x3000

def dropBlank (cs : List Char) : List Char := cs.dropWhile isBlank

def strip (cs : List Char) : List Char := (dropBlank (dropBlank cs).reverse).reverse

theorem isBlank_of_isAlphanum {c : Char} (h : c.isAlphanum = true) : isBlank c = false := by
  have code : c.toNat = c.val.toNat := rfl
  change (decide (c.val ≥ 'A'.val ∧ c.val ≤ 'Z'.val) ||
    decide (c.val ≥ 'a'.val) && decide (c.val ≤ 'z'.val) ||
    decide (c.val ≥ '0'.val) && decide (c.val ≤ '9'.val)) = true at h
  simp only [Bool.or_eq_true, Bool.and_eq_true, decide_eq_true_eq, ge_iff_le,
    UInt32.le_iff_toNat_le] at h
  simp [isBlank] at h ⊢
  omega

theorem dropBlank_eq_self {cs : List Char} (h : ∀ c ∈ cs.head?, isBlank c = false) :
    dropBlank cs = cs := by
  cases cs with
  | nil => rfl
  | cons c rest => simp [dropBlank, h c rfl]

theorem strip_eq_self {cs : List Char} (hfirst : ∀ c ∈ cs.head?, isBlank c = false)
    (hlast : ∀ c ∈ cs.getLast?, isBlank c = false) : strip cs = cs := by
  rw [strip, dropBlank_eq_self hfirst, dropBlank_eq_self (by simpa using hlast),
    List.reverse_reverse]

def sameLetters (a b : List Char) : Bool := decide (a.map Char.toLower = b.map Char.toLower)

def order (a b : String) : Ordering := compare a b

def digits (n : Nat) : List Char := Nat.toDigits 10 n

def natOfDigits (ds : List Char) : Nat := Nat.ofDigitChars 10 ds 0

def isNatural (ds : List Char) : Bool := !ds.isEmpty && ds.all Char.isDigit

@[simp] theorem natOfDigits_digits (n : Nat) : natOfDigits (digits n) = n :=
  Nat.ofDigitChars_ten_toDigits

theorem isDigit_of_mem_digits {n : Nat} {c : Char} (h : c ∈ digits n) : c.isDigit = true :=
  Nat.isDigit_of_mem_toDigits (by decide) (by decide) h

theorem digits_ne_nil (n : Nat) : digits n ≠ [] := Nat.toDigits_ne_nil

@[simp] theorem isNatural_digits (n : Nat) : isNatural (digits n) = true := by
  simp only [isNatural, Bool.and_eq_true, Bool.not_eq_true', List.isEmpty_eq_false_iff,
    List.all_eq_true]
  exact ⟨digits_ne_nil n, fun _ h => isDigit_of_mem_digits h⟩

theorem isDigit_of_isNatural {ds : List Char} (h : isNatural ds = true) :
    ∀ c ∈ ds, c.isDigit = true := by
  rw [isNatural, Bool.and_eq_true, List.all_eq_true] at h
  exact h.2

theorem isAlpha_of_isDigit {c : Char} (h : c.isDigit = true) : c.isAlpha = false := by
  change (decide (c.val ≥ 'A'.val ∧ c.val ≤ 'Z'.val) ||
    decide (c.val ≥ 'a'.val) && decide (c.val ≤ 'z'.val)) = false
  simp only [Char.isDigit, Bool.and_eq_true, decide_eq_true_eq, ge_iff_le,
    UInt32.le_iff_toNat_le] at h
  simp [UInt32.le_iff_toNat_le] at h ⊢
  omega

theorem toList_toString (n : Nat) : (toString n).toList = digits n := by
  simp [digits]

end Worksheet.Text
