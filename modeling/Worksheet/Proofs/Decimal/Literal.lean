import Worksheet.Decimal.Literal
import Worksheet.Proofs.Text.Trim

/-! The texts that are read as numbers. A decimal literal is an optional sign, digits with at most
one point and at least one digit in all, and then optionally an exponent. Beside these the words for
infinity and for the undefined number are read, and nothing else is. -/

namespace Worksheet.Decimal

variable {cs ds sign body tail : List Char} {negative : Bool} {x : Float}

inductive SpellsSign : Bool → List Char → Prop
  | absent : SpellsSign false []
  | plus : SpellsSign false ['+']
  | minus : SpellsSign true ['-']

theorem exists_sign (cs : List Char) :
    ∃ sign, SpellsSign (splitSign cs).1 sign ∧ cs = sign ++ (splitSign cs).2 := by
  fun_cases splitSign cs with
  | case1 cs => exact ⟨_, .plus, rfl⟩
  | case2 cs => exact ⟨_, .minus, rfl⟩
  | case3 cs => exact ⟨_, .absent, rfl⟩

theorem SpellsSign.splitSign_append (h : SpellsSign negative sign)
    (unsigned : ∀ c ∈ body.head?, c ≠ '+' ∧ c ≠ '-') :
    splitSign (sign ++ body) = (negative, body) := by
  cases h with
  | plus => rfl
  | minus => rfl
  | absent =>
    rw [List.nil_append]
    fun_cases splitSign body with
    | case1 cs => exact absurd rfl (unsigned '+' rfl).1
    | case2 cs => exact absurd rfl (unsigned '-' rfl).2
    | case3 => rfl

theorem ne_sign_of_isDigit {c : Char} (h : c.isDigit = true) : c ≠ '+' ∧ c ≠ '-' := by
  constructor
  · rintro rfl
    cases h
  · rintro rfl
    cases h

namespace Literal

inductive SpellsExponent : Int → List Char → Prop
  | absent : SpellsExponent 0 []
  | marked {c : Char} {negative : Bool} {sign ds : List Char} (marker : c = 'e' ∨ c = 'E')
    (signed : SpellsSign negative sign) (natural : Text.isNatural ds = true) :
    SpellsExponent (if negative then -(exponentSize ds : Int) else exponentSize ds)
      (c :: (sign ++ ds))

/-- The text writes out the literal: its digits, of which there is at least one, with at most one
point, and then its exponent. Without a point there is no fraction. -/
structure Spells (l : Literal) (cs : List Char) : Prop where
  whole : ∀ c ∈ l.whole, c.isDigit = true
  fraction : ∀ c ∈ l.fraction, c.isDigit = true
  digit : l.whole ≠ [] ∨ l.fraction ≠ []
  text : ∃ point tail, cs = l.whole ++ (point ++ (l.fraction ++ tail)) ∧
    (point = ['.'] ∨ point = [] ∧ l.fraction = []) ∧ SpellsExponent l.exponent tail

variable {e : Int} {l : Literal}

theorem exponent?_eq_some_iff : exponent? cs = some e ↔ SpellsExponent e cs := by
  constructor
  · intro read
    cases cs with
    | nil =>
      cases read
      exact .absent
    | cons c cs =>
      obtain ⟨sign, signed, cut⟩ := exists_sign cs
      simp only [exponent?, Bool.and_eq_true, Bool.or_eq_true, decide_eq_true_eq,
        Option.ite_none_right_eq_some, Option.some.injEq] at read
      obtain ⟨⟨marker, natural⟩, rfl⟩ := read
      have spells := SpellsExponent.marked marker signed natural
      rwa [← cut] at spells
  · intro spells
    cases spells with
    | absent => rfl
    | @marked c negative sign ds marker signed natural =>
      have split := signed.splitSign_append fun c hc =>
        ne_sign_of_isDigit (Text.isDigit_of_isNatural natural c (List.mem_of_mem_head? hc))
      simp only [exponent?, split, natural, Bool.and_true, Bool.or_eq_true, decide_eq_true_eq,
        if_pos marker]

theorem SpellsExponent.head? (h : SpellsExponent e tail) :
    ∀ c ∈ tail.head?, c.isDigit = false ∧ c ≠ '.' := by
  intro c hc
  cases h with
  | absent => cases hc
  | marked marker =>
    cases hc
    rcases marker with rfl | rfl
    · decide
    · decide

theorem splitFraction_point (digits : ∀ c ∈ ds, c.isDigit = true)
    (stop : ∀ c ∈ tail.head?, c.isDigit = false) :
    splitFraction ('.' :: (ds ++ tail)) = (ds, tail) := by
  obtain ⟨take, drop⟩ := Text.span_append digits stop
  rw [splitFraction, take, drop]

theorem splitFraction_of_head? (stop : ∀ c ∈ tail.head?, c ≠ '.') :
    splitFraction tail = ([], tail) := by
  fun_cases splitFraction tail with
  | case1 cs => exact absurd rfl (stop '.' rfl)
  | case2 => rfl

theorem exists_fraction (cs : List Char) :
    ∃ point, cs = point ++ ((splitFraction cs).1 ++ (splitFraction cs).2) ∧
      (point = ['.'] ∨ point = [] ∧ (splitFraction cs).1 = []) ∧
      ∀ c ∈ (splitFraction cs).1, c.isDigit = true := by
  fun_cases splitFraction cs with
  | case1 cs =>
    refine ⟨['.'], ?_, .inl rfl, List.all_eq_true.1 List.all_takeWhile⟩
    rw [List.takeWhile_append_dropWhile, List.singleton_append]
  | case2 cs => exact ⟨[], rfl, .inr ⟨rfl, rfl⟩, by simp⟩

theorem parse?_eq_some_iff : parse? cs = some l ↔ l.Spells cs := by
  constructor
  · intro read
    obtain ⟨point, cut, pointed, digits⟩ := exists_fraction (cs.dropWhile Char.isDigit)
    simp only [parse?, Bool.and_eq_true, decide_eq_true_eq, Option.ite_none_left_eq_some,
      Option.map_eq_some_iff] at read
    obtain ⟨some_digit, e, exponent, rfl⟩ := read
    refine ⟨List.all_eq_true.1 List.all_takeWhile, digits,
      Classical.not_and_iff_not_or_not.1 some_digit, point, _, ?_, pointed,
      exponent?_eq_some_iff.1 exponent⟩
    rw [← cut, List.takeWhile_append_dropWhile]
  · rintro ⟨whole, fraction, digit, point, tail, rfl, pointed, exponent⟩
    have stop : ∀ c ∈ tail.head?, c.isDigit = false := fun c hc => (exponent.head? c hc).1
    have split : ∀ rest, rest = point ++ (l.fraction ++ tail) →
        (∀ c ∈ rest.head?, c.isDigit = false) ∧ splitFraction rest = (l.fraction, tail) := by
      rintro rest rfl
      rcases pointed with rfl | ⟨rfl, none⟩
      · refine ⟨fun c hc => ?_, splitFraction_point fraction stop⟩
        cases hc
        rfl
      · rw [none]
        exact ⟨stop, splitFraction_of_head? fun c hc => (exponent.head? c hc).2⟩
    obtain ⟨stops, splits⟩ := split _ rfl
    obtain ⟨take, drop⟩ := Text.span_append whole stops
    have some_digit : ¬(l.whole = [] ∧ l.fraction = []) := Classical.not_and_iff_not_or_not.2 digit
    simp only [parse?, take, drop, splits, Bool.and_eq_true, decide_eq_true_eq, if_neg some_digit,
      exponent?_eq_some_iff.2 exponent, Option.map_some]

theorem Spells.head? (h : l.Spells cs) : ∃ c ∈ cs.head?, c.isDigit = true ∨ c = '.' := by
  obtain ⟨whole, fraction, digit, point, tail, rfl, pointed, exponent⟩ := h
  cases first : l.whole with
  | cons c rest => exact ⟨c, rfl, .inl (whole c (first ▸ List.mem_cons_self))⟩
  | nil =>
    rcases pointed with rfl | ⟨rfl, none⟩
    · exact ⟨'.', rfl, .inr rfl⟩
    · rcases digit with some | some
      · exact absurd first some
      · exact absurd none some

end Literal

inductive SpellsWord : Nat → List Char → Prop
  | infinity {cs : List Char} {word : String} (known : word = "inf" ∨ word = "infinity")
    (same : Text.sameLetters cs word.toList = true) : SpellsWord infinityBits cs
  | nan {cs : List Char} (same : Text.sameLetters cs "nan".toList = true) : SpellsWord nanBits cs

/-- A decimal literal with its sign, and the number that it stands for. -/
inductive ReadsLiteral : List Char → Float → Prop
  | signed {negative : Bool} {sign body : List Char} {l : Literal}
    (leads : SpellsSign negative sign) (spells : l.Spells body) :
    ReadsLiteral (sign ++ body) (Decimal.signed negative l.toBits)

inductive ReadsWord : List Char → Float → Prop
  | signed {negative : Bool} {sign body : List Char} {bits : Nat}
    (leads : SpellsSign negative sign) (spells : SpellsWord bits body) :
    ReadsWord (sign ++ body) (Decimal.signed negative bits)

section Words

variable {bits : Nat} {l : Literal}

theorem wordBits?_eq_some_iff : wordBits? cs = some bits ↔ SpellsWord bits cs := by
  constructor
  · intro read
    unfold wordBits? at read
    split at read
    · rename_i same
      cases read
      rcases (Bool.or_eq_true _ _).mp same with short | long
      · exact .infinity (.inl rfl) short
      · exact .infinity (.inr rfl) long
    · split at read
      · rename_i same
        cases read
        exact .nan same
      · cases read
  · intro spells
    cases spells with
    | infinity known same =>
      rcases known with rfl | rfl
      · simp only [wordBits?, same, Bool.true_or, if_true]
      · simp only [wordBits?, same, Bool.or_true, if_true]
    | nan same =>
      have letters : cs.map Char.toLower = ['n', 'a', 'n'] := of_decide_eq_true same
      simp only [wordBits?, Text.sameLetters, letters]
      rfl

theorem toLower_of_isDigit {c : Char} (h : c.isDigit = true) : c.toLower = c := by
  have upper : c.isUpper = false := (Bool.or_eq_false_iff.1 (Text.isAlpha_of_isDigit h)).1
  exact dif_neg (of_decide_eq_false upper)

theorem SpellsWord.head? (h : SpellsWord bits cs) :
    ∀ c ∈ cs.head?, (c ≠ '+' ∧ c ≠ '-') ∧ c.isDigit = false ∧ c ≠ '.' := by
  have start : ∀ word : String, Text.sameLetters cs word.toList = true →
      cs.head?.map Char.toLower = word.toList.head?.map Char.toLower := by
    intro word same
    rw [← List.head?_map, ← List.head?_map, of_decide_eq_true same]
  have lower : cs.head?.map Char.toLower = some 'i' ∨ cs.head?.map Char.toLower = some 'n' := by
    cases h with
    | infinity known same =>
      rcases known with rfl | rfl
      · exact .inl (start _ same)
      · exact .inl (start _ same)
    | nan same => exact .inr (start _ same)
  intro c hc
  rw [Option.mem_def.1 hc, Option.map_some, Option.some_inj, Option.some_inj] at lower
  have other : ∀ d : Char, d.toLower ≠ 'i' → d.toLower ≠ 'n' → c ≠ d := by
    rintro d i n rfl
    exact lower.elim i n
  refine ⟨⟨other _ (by decide) (by decide), other _ (by decide) (by decide)⟩, ?_,
    other _ (by decide) (by decide)⟩
  refine Bool.eq_false_iff.2 fun digit => ?_
  rw [toLower_of_isDigit digit] at lower
  rcases lower with rfl | rfl
  · cases digit
  · cases digit

theorem Literal.Spells.head?_ne_sign (h : l.Spells cs) : ∀ c ∈ cs.head?, c ≠ '+' ∧ c ≠ '-' := by
  obtain ⟨d, hd, start⟩ := h.head?
  intro c hc
  obtain rfl : d = c := Option.some.inj (hd.symm.trans hc)
  rcases start with digit | rfl
  · exact ne_sign_of_isDigit digit
  · decide

theorem SpellsWord.parse?_eq_none (h : SpellsWord bits cs) : Literal.parse? cs = none := by
  rw [Option.eq_none_iff_forall_ne_some]
  intro l read
  obtain ⟨c, hc, start⟩ := (Literal.parse?_eq_some_iff.1 read).head?
  obtain ⟨-, digit, point⟩ := h.head? c hc
  rcases start with start | start
  · rw [digit] at start
    cases start
  · exact point start

theorem readsLiteral_iff : ReadsLiteral cs x ↔
    ∃ l, Literal.parse? (splitSign cs).2 = some l ∧ signed (splitSign cs).1 l.toBits = x := by
  constructor
  · rintro ⟨leads, spells⟩
    rw [leads.splitSign_append spells.head?_ne_sign]
    exact ⟨_, Literal.parse?_eq_some_iff.2 spells, rfl⟩
  · rintro ⟨l, parsed, rfl⟩
    obtain ⟨sign, leads, cut⟩ := exists_sign cs
    have reads := ReadsLiteral.signed leads (Literal.parse?_eq_some_iff.1 parsed)
    rwa [← cut] at reads

theorem readsWord_iff : ReadsWord cs x ↔
    ∃ bits, wordBits? (splitSign cs).2 = some bits ∧ signed (splitSign cs).1 bits = x := by
  constructor
  · rintro ⟨leads, spells⟩
    rw [leads.splitSign_append fun c hc => (spells.head? c hc).1]
    exact ⟨_, wordBits?_eq_some_iff.2 spells, rfl⟩
  · rintro ⟨bits, read, rfl⟩
    obtain ⟨sign, leads, cut⟩ := exists_sign cs
    have reads := ReadsWord.signed leads (wordBits?_eq_some_iff.1 read)
    rwa [← cut] at reads

theorem parse?_eq_some_iff : parse? cs = some x ↔ ReadsLiteral cs x ∨ ReadsWord cs x := by
  rw [readsLiteral_iff, readsWord_iff]
  cases literal : Literal.parse? (splitSign cs).2 with
  | some l =>
    have word : wordBits? (splitSign cs).2 = none := by
      rw [Option.eq_none_iff_forall_ne_some]
      intro bits read
      rw [(wordBits?_eq_some_iff.1 read).parse?_eq_none] at literal
      cases literal
    have read : parse? cs = some (signed (splitSign cs).1 l.toBits) := by
      simp only [parse?, literal]
      rfl
    simp [read, word]
  | none =>
    have read : parse? cs = (wordBits? (splitSign cs).2).map (signed (splitSign cs).1) := by
      simp only [parse?, literal]
      rfl
    simp [read]

end Words

end Worksheet.Decimal
