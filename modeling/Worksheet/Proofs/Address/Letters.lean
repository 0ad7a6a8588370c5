import Mathlib
import Worksheet.Proofs.Address.Column

/-! Column letters read back. The letters of a number are those that have it, in capitals, so
reading undoes writing. A text that is no column is refused at its first fault from the left: a
character that is no letter, or the letter that takes the number beyond the last column. Up to there
the numbers are small, and the reading in machine words is the same as the one in numbers. -/

namespace Worksheet.Column

variable {c : Char} {cs part : List Char} {n : Nat} {e e' : AddressError} {col : UInt16}

theorem letters_numberFrom (h : ∀ c ∈ cs, c.isAlpha = true) :
    letters (numberFrom 0 cs) = cs.map Char.toUpper := by
  induction cs using List.reverseRecOn with
  | nil => rw [numberFrom, List.foldl_nil, letters_zero, List.map_nil]
  | append_singleton cs c ih =>
    have last : c ∈ cs ++ [c] := List.mem_append_right _ List.mem_cons_self
    obtain ⟨pos, le, upper⟩ := digit_of_isAlpha (h c last)
    have leading := ih fun d hd => h d (List.mem_append_left _ hd)
    have number : numberFrom 0 (cs ++ [c]) = numberFrom 0 cs * 26 + (digit c - 1) + 1 := by
      rw [numberFrom_concat]
      omega
    have front : (numberFrom 0 cs * 26 + (digit c - 1)) / 26 = numberFrom 0 cs := by omega
    have back : 65 + (numberFrom 0 cs * 26 + (digit c - 1)) % 26 = 64 + digit c := by omega
    rw [number, letters_succ, front, back, leading, ← upper, List.map_append, List.map_singleton]

theorem ofLetters_eq_ok_iff_name :
    ofLetters cs = .ok col ↔
      col.toNat < columnLimit ∧ letters (col.toNat + 1) = cs.map Char.toUpper := by
  rw [ofLetters_eq_ok_iff]
  constructor
  · rintro ⟨alpha, number, lt⟩
    rw [← number, letters_numberFrom alpha]
    exact ⟨lt, rfl⟩
  · rintro ⟨lt, name⟩
    have alpha : ∀ c ∈ cs, c.isAlpha = true := by
      intro c hc
      have mem := List.mem_map_of_mem (f := Char.toUpper) hc
      rw [← name] at mem
      rw [← Char.isAlpha_toUpper_eq_isAlpha]
      exact isAlpha_of_mem_letters mem
    rw [← letters_numberFrom alpha] at name
    have number := congrArg (numberFrom 0) name
    rw [numberFrom_letters, numberFrom_letters] at number
    exact ⟨alpha, number.symm, lt⟩

/-- An initial part of letters that takes a number beyond the last column. -/
structure Beyond (n : Nat) (cs part : List Char) : Prop where
  initial : part <+: cs
  letters : ∀ c ∈ part, c.isAlpha = true
  beyond : columnLimit < numberFrom n part

/-- Why letters that follow those of a number do not make a column: the first character that is no
letter stands before the number goes beyond the last column, or else the shortest part of them that
takes it there decides. -/
inductive Halts (n : Nat) (cs : List Char) : AddressError → Prop
  | badLetter {c : Char} (first : cs.find? (!·.isAlpha) = some c)
    (before : ∀ part, ¬Beyond n cs part) : Halts n cs (.badLetter c)
  | beyond {part : List Char} (beyond : Beyond n cs part)
    (shortest : ∀ other, Beyond n cs other → part.length ≤ other.length) :
    Halts n cs (.columnBeyond (numberFrom n part - 1))

theorem beyond_cons_iff (hn : n ≤ columnLimit) :
    Beyond n (c :: cs) part ↔
      c.isAlpha = true ∧ ∃ rest, part = c :: rest ∧ Beyond (n * 26 + digit c) cs rest := by
  constructor
  · rintro ⟨initial, letters, beyond⟩
    cases part with
    | nil => exact absurd hn (Nat.not_le.2 beyond)
    | cons d rest =>
      obtain ⟨rfl, tail⟩ := List.cons_prefix_cons.1 initial
      rw [List.forall_mem_cons] at letters
      exact ⟨letters.1, rest, rfl, tail, letters.2, beyond⟩
  · rintro ⟨letter, rest, rfl, tail, letters, beyond⟩
    exact ⟨List.cons_prefix_cons.2 ⟨rfl, tail⟩, List.forall_mem_cons.2 ⟨letter, letters⟩, beyond⟩

theorem halts_of_extend (hn : n ≤ columnLimit) (h : extend n cs = .error e) : Halts n cs e := by
  induction cs generalizing n with
  | nil => cases h
  | cons c cs ih =>
    rw [extend] at h
    split at h
    · rename_i letter
      split at h
      · rename_i beyond
        cases h
        have one : Beyond n (c :: cs) [c] :=
          (beyond_cons_iff hn).2 ⟨letter, [], rfl, List.nil_prefix, List.forall_mem_nil _, beyond⟩
        refine .beyond one fun other h => ?_
        obtain ⟨-, rest, rfl, -⟩ := (beyond_cons_iff hn).1 h
        exact Nat.le_add_left 1 rest.length
      · rename_i within
        cases ih (Nat.not_lt.1 within) h with
        | badLetter first before =>
          refine .badLetter ?_ fun part h => ?_
          · rw [List.find?_cons_of_neg (by simp [letter]), first]
          · obtain ⟨-, rest, -, inner⟩ := (beyond_cons_iff hn).1 h
            exact before rest inner
        | beyond beyond shortest =>
          have whole : Beyond n (c :: cs) (c :: _) :=
            (beyond_cons_iff hn).2 ⟨letter, _, rfl, beyond⟩
          refine .beyond whole fun other h => ?_
          obtain ⟨-, rest, rfl, inner⟩ := (beyond_cons_iff hn).1 h
          exact Nat.succ_le_succ (shortest rest inner)
    · rename_i other
      cases h
      refine .badLetter (List.find?_cons_of_pos (by simp [other])) fun part h => ?_
      exact other ((beyond_cons_iff hn).1 h).1

theorem Halts.unique (h : Halts n cs e) (h' : Halts n cs e') : e = e' := by
  cases h with
  | badLetter first before =>
    cases h' with
    | badLetter first' => rw [Option.some.inj (first.symm.trans first')]
    | beyond beyond => exact absurd beyond (before _)
  | beyond beyond shortest =>
    cases h' with
    | badLetter _ before => exact absurd beyond (before _)
    | beyond beyond' shortest' =>
      have length := Nat.le_antisymm (shortest _ beyond') (shortest' _ beyond)
      have initial := List.prefix_of_prefix_length_le beyond.initial beyond'.initial
        (Nat.le_of_eq length)
      rw [initial.eq_of_length length]

theorem Halts.extend_ne_ok (h : Halts n cs e) (hn : n ≤ columnLimit) {m : Nat} :
    extend n cs ≠ .ok m := by
  intro read
  obtain ⟨alpha, rfl, le⟩ := (extend_eq_ok_iff hn).1 read
  cases h with
  | badLetter first =>
    have other := List.find?_some first
    rw [alpha _ (List.mem_of_find?_eq_some first)] at other
    cases other
  | beyond beyond =>
    obtain ⟨rest, rfl⟩ := beyond.initial
    rw [numberFrom_append] at le
    exact absurd (Nat.le_trans (le_numberFrom _ rest) le) (Nat.not_le.2 beyond.beyond)

theorem extend_eq_error_iff (hn : n ≤ columnLimit) : extend n cs = .error e ↔ Halts n cs e := by
  constructor
  · exact halts_of_extend hn
  · intro h
    -- The letters are refused for some fault, and there is no other one than this.
    cases read : extend n cs with
    | ok m => exact absurd read (h.extend_ne_ok hn)
    | error e' => rw [h.unique (halts_of_extend hn read)]

theorem ofLetters_eq_error_iff :
    ofLetters cs = .error e ↔ cs = [] ∧ e = .noColumn ∨ Halts 0 cs e := by
  have halts : extend 0 cs = .error e ↔ Halts 0 cs e :=
    extend_eq_error_iff (Nat.zero_le columnLimit)
  rw [← halts, ofLetters]
  split
  · rename_i none
    simp only [none, extend, reduceCtorEq, or_false, true_and, Except.error.injEq, eq_comm]
  · rename_i some
    simp only [some, false_and, false_or]
    cases extend 0 cs with
    | ok n => simp only [Except.map, reduceCtorEq]
    | error e' => simp only [Except.map, Except.error.injEq]

theorem message_columnBeyond (index : Nat) :
    (AddressError.columnBeyond index).message =
      "Column index " ++ toString index ++ " out of bounds (max: 16383)" := by
  have told : (AddressError.columnBeyond index).message =
      "Column" ++ " index " ++ toString index ++ " out of bounds (max: " ++
        toString (columnLimit - 1) ++ ")" := rfl
  have start : "Column" ++ " index " = "Column index " := by decide +kernel
  have close : " out of bounds (max: " ++ (toString (columnLimit - 1) ++ ")") =
      " out of bounds (max: 16383)" := by decide +kernel
  rw [told, start, String.append_assoc, String.append_assoc, close, String.append_assoc]

theorem step_le (hn : n ≤ columnLimit) (letter : c.isAlpha = true) :
    n * 26 + digit c ≤ 16384 * 26 + 26 := by
  have last := (digit_of_isAlpha letter).2.1
  rw [columnLimit] at hn
  omega

def digitWord (c : Char) : UInt32 := c.toUpper.val - 'A'.val + 1

/-- The column number that letters continue, calculated with 32 bits. -/
def extendWord (n : UInt32) : List Char → Except AddressError UInt32
  | [] => .ok n
  | c :: cs =>
    if c.isAlpha then
      if UInt32.ofNat columnLimit < n * 26 + digitWord c then
        .error (.columnBeyond (n * 26 + digitWord c - 1).toNat)
      else extendWord (n * 26 + digitWord c) cs
    else .error (.badLetter c)

def ofLettersWord (cs : List Char) : Except AddressError UInt16 :=
  if cs = [] then .error .noColumn
  else (extendWord 0 cs).map fun n => (n - 1).toUInt16

theorem toNat_digitWord (letter : c.isAlpha = true) : (digitWord c).toNat = digit c := by
  have pos := (digit_of_isAlpha letter).1
  have code : c.toUpper.val.toNat = c.toUpper.toNat := rfl
  have lt := c.toUpper.val.toNat_lt
  have a : 'A'.val.toNat = 65 := rfl
  rw [digit] at pos ⊢
  rw [digitWord, UInt32.toNat_add, UInt32.toNat_sub, UInt32.toNat_one, code, a]
  omega

theorem toNat_stepWord {n : UInt32} (hn : n.toNat ≤ columnLimit) (letter : c.isAlpha = true) :
    (n * 26 + digitWord c).toNat = n.toNat * 26 + digit c := by
  have le := step_le hn letter
  have base : (26 : UInt32).toNat = 26 := rfl
  rw [UInt32.toNat_add, UInt32.toNat_mul, toNat_digitWord letter, base]
  omega

theorem extendWord_eq {n : UInt32} (hn : n.toNat ≤ columnLimit) :
    (extendWord n cs).map UInt32.toNat = extend n.toNat cs := by
  induction cs generalizing n with
  | nil => rfl
  | cons c cs ih =>
    rw [extendWord, extend]
    split
    · rename_i letter
      have step := toNat_stepWord hn letter
      have pos := (digit_of_isAlpha letter).1
      have limit : UInt32.ofNat columnLimit < n * 26 + digitWord c ↔
          columnLimit < n.toNat * 26 + digit c := by
        rw [UInt32.lt_iff_toNat_lt, step]
        rfl
      simp only [limit]
      split
      · have before : (n * 26 + digitWord c - 1).toNat = n.toNat * 26 + digit c - 1 := by
          have lt := (n * 26 + digitWord c).toNat_lt
          rw [UInt32.toNat_sub, step, UInt32.toNat_one]
          rw [step] at lt
          omega
        rw [before]
        rfl
      · rename_i within
        rw [← step] at within ⊢
        exact ih (Nat.not_lt.1 within)
    · rfl

theorem toNat_narrowed {w : UInt32} (some : cs ≠ []) (h : extendWord 0 cs = .ok w) :
    (w - 1).toUInt16.toNat + 1 = w.toNat := by
  have read : (extendWord 0 cs).map UInt32.toNat = extend 0 cs := extendWord_eq (Nat.zero_le _)
  rw [h] at read
  obtain ⟨alpha, number, le⟩ := (extend_eq_ok_iff (Nat.zero_le _)).1 read.symm
  have pos := numberFrom_pos (n := 0) alpha some
  have lt := w.toNat_lt
  rw [columnLimit] at le
  rw [UInt32.toNat_toUInt16, UInt32.toNat_sub, UInt32.toNat_one]
  omega

theorem ofLettersWord_eq (cs : List Char) : ofLettersWord cs = ofLetters cs := by
  have same : (extendWord 0 cs).map UInt32.toNat = extend 0 cs := extendWord_eq (Nat.zero_le _)
  rw [ofLettersWord, ofLetters, ← same]
  split
  · rfl
  · rename_i some
    cases read : extendWord 0 cs with
    | error e => rfl
    | ok w =>
      have narrowed := toNat_narrowed some read
      have number : w.toNat - 1 = (w - 1).toUInt16.toNat := by omega
      change Except.ok (w - 1).toUInt16 = Except.ok (UInt16.ofNat (w.toNat - 1))
      rw [number, UInt16.ofNat_toNat]

/-- A text is read as a column when it is the name of that column in capital or small letters, and
reading takes no other text for a column. What is refused is empty, or has a character that is no
letter before its letters go beyond the last column, or goes there with the letters up to the
shortest such part, whose number is told. Whatever letters were read before, the number stays within
26 times the last column and 26 more, so 32 bits hold it on the way and 16 bits its column. -/
theorem parse_decodes :
    (∀ (s : String) (col : UInt16),
      parse s = .ok col ↔ col.toNat < columnLimit ∧ name col = s.map Char.toUpper) ∧
    (∀ (s : String) (e : AddressError),
      parse s = .error e ↔ s = "" ∧ e = .noColumn ∨ Halts 0 s.toList e) ∧
    (∀ index, (AddressError.columnBeyond index).message =
      "Column index " ++ toString index ++ " out of bounds (max: 16383)") ∧
    (∀ (before : List Char) (c : Char) (n : Nat), extend 0 before = .ok n → c.isAlpha = true →
      n * 26 + digit c ≤ 16384 * 26 + 26) ∧
    (∀ (cs : List Char) (w : UInt32), cs ≠ [] → extendWord 0 cs = .ok w →
      (w - 1).toUInt16.toNat + 1 = w.toNat) ∧
    ∀ s : String, ofLettersWord s.toList = parse s := by
  refine ⟨fun s col => ?_, fun s e => ?_, message_columnBeyond, fun before c n read letter => ?_,
    fun cs w some read => toNat_narrowed some read, fun s => ofLettersWord_eq s.toList⟩
  · rw [parse, ofLetters_eq_ok_iff_name, name, ← String.toList_inj, String.toList_ofList,
      String.toList_map]
  · rw [parse, ofLetters_eq_error_iff, String.toList_eq_nil_iff]
  · exact step_le ((extend_eq_ok_iff (Nat.zero_le _)).1 read).2.2 letter

theorem parse_decodes_lastColumn :
    parse "xFd" = .ok 16383 ∧ Halts 0 "XFDz9".toList (.columnBeyond 426009) ∧
      extend 0 ['x', 'F', 'd'] = .ok 16384 ∧ 16384 * 26 + digit 'z' ≤ 16384 * 26 + 26 ∧
      extendWord 0 ['x', 'F', 'd'] = .ok 16384 ∧
      ((16384 : UInt32) - 1).toUInt16.toNat + 1 = (16384 : UInt32).toNat := by
  obtain ⟨columns, refused, -, within, narrowed, -⟩ := parse_decodes
  have name : name 16383 = "xFd".map Char.toUpper := by decide +kernel
  have beyond : parse "XFDz9" = .error (.columnBeyond 426009) := rfl
  have read : extend 0 ['x', 'F', 'd'] = .ok 16384 := rfl
  have readWord : extendWord 0 ['x', 'F', 'd'] = .ok 16384 := rfl
  have halts : Halts 0 "XFDz9".toList (.columnBeyond 426009) :=
    ((refused _ _).1 beyond).resolve_left fun ⟨empty, _⟩ => absurd empty (by decide)
  exact ⟨(columns "xFd" 16383).2 ⟨by decide, name⟩, halts, read,
    within _ 'z' _ read (by decide), readWord, narrowed _ _ (by decide) readWord⟩

end Worksheet.Column
