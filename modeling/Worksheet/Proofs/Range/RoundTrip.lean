import Worksheet.Proofs.Address.RoundTrip
import Worksheet.Proofs.Grid.Build
import Worksheet.Range

/-! Ranges as texts. Main statement: the text of an address of the sheet reads as that address, and
the text of a range as that range, as do any two opposite corners of it. Whatever text is read gives
an address or a range of the sheet, whose own text reads the same again. -/

namespace Worksheet

namespace Range

variable {r : Range} {a b x y : Address} {s : String}

structure Named (r : Range) : Prop where
  first : r.first.Named
  last : r.last.Named

/-- The addresses are two corners of the range, one of which is in its first row and one in its last
row, and likewise for its columns. -/
structure Opposite (r : Range) (x y : Address) : Prop where
  row : x.row = r.first.row ∧ y.row = r.last.row ∨ x.row = r.last.row ∧ y.row = r.first.row
  col : x.col = r.first.col ∧ y.col = r.last.col ∨ x.col = r.last.col ∧ y.col = r.first.col

theorem opposite_first_last (r : Range) : r.Opposite r.first r.last :=
  ⟨.inl ⟨rfl, rfl⟩, .inl ⟨rfl, rfl⟩⟩

theorem Opposite.ofCorners (h : r.Opposite x y) : ofCorners x y = r := by
  have rows := UInt32.le_iff_toNat_le.1 r.row_le
  have cols := UInt16.le_iff_toNat_le.1 r.col_le
  have top : min x.row y.row = r.first.row := by
    rw [← UInt32.toNat_inj, UInt32.toNat_min]
    rcases h.row with ⟨hx, hy⟩ | ⟨hx, hy⟩ <;> rw [hx, hy] <;> omega
  have left : min x.col y.col = r.first.col := by
    rw [← UInt16.toNat_inj, UInt16.toNat_min]
    rcases h.col with ⟨hx, hy⟩ | ⟨hx, hy⟩ <;> rw [hx, hy] <;> omega
  have bottom : max x.row y.row = r.last.row := by
    rw [← UInt32.toNat_inj, UInt32.toNat_max]
    rcases h.row with ⟨hx, hy⟩ | ⟨hx, hy⟩ <;> rw [hx, hy] <;> omega
  have right : max x.col y.col = r.last.col := by
    rw [← UInt16.toNat_inj, UInt16.toNat_max]
    rcases h.col with ⟨hx, hy⟩ | ⟨hx, hy⟩ <;> rw [hx, hy] <;> omega
  simp only [Range.ofCorners, top, left, bottom, right]

theorem Opposite.named (h : r.Opposite x y) (named : r.Named) : x.Named ∧ y.Named := by
  obtain ⟨⟨top, left⟩, bottom, right⟩ := named
  constructor
  · constructor
    · rcases h.row with ⟨hx, -⟩ | ⟨hx, -⟩ <;> rwa [hx]
    · rcases h.col with ⟨hx, -⟩ | ⟨hx, -⟩ <;> rwa [hx]
  · constructor
    · rcases h.row with ⟨-, hy⟩ | ⟨-, hy⟩ <;> rwa [hy]
    · rcases h.col with ⟨-, hy⟩ | ⟨-, hy⟩ <;> rwa [hy]

theorem named_ofCorners (ha : a.Named) (hb : b.Named) : (ofCorners a b).Named := by
  obtain ⟨rowA, colA⟩ := ha
  obtain ⟨rowB, colB⟩ := hb
  constructor <;> constructor <;>
    simp only [ofCorners, UInt32.toNat_min, UInt16.toNat_min, UInt32.toNat_max,
      UInt16.toNat_max] <;> omega

theorem strip_pair (x y : Address) :
    Text.strip (x.text ++ ":" ++ y.text).toList = x.text.toList ++ ':' :: y.text.toList := by
  have cut : (x.text ++ ":" ++ y.text).toList = x.text.toList ++ ':' :: y.text.toList := by
    rw [String.toList_append, String.toList_append, List.append_assoc]
    rfl
  rw [cut, Text.strip_eq_self]
  · intro c hc
    rw [List.head?_append_of_ne_nil _ x.toList_text_ne_nil] at hc
    exact x.isBlank_of_mem_text (List.mem_of_mem_head? hc)
  · intro c hc
    rw [List.getLast?_append_of_ne_nil _ (List.cons_ne_nil _ _),
      List.getLast?_cons_of_ne_nil y.toList_text_ne_nil] at hc
    exact y.isBlank_of_mem_text (List.mem_of_mem_getLast? hc)

theorem parse_pair (hx : x.Named) (hy : y.Named) :
    parse (x.text ++ ":" ++ y.text) = .ok (ofCorners x y) := by
  have before : ∀ c ∈ x.text.toList, decide (c ≠ ':') = true := by
    intro c hc
    rw [decide_eq_true_eq]
    rintro rfl
    exact x.not_mem_text rfl hc
  have left : (x.text.toList ++ ':' :: y.text.toList).takeWhile (· ≠ ':') = x.text.toList := by
    rw [List.takeWhile_append_of_pos before, List.takeWhile_cons_of_neg (by decide),
      List.append_nil]
  have right : (x.text.toList ++ ':' :: y.text.toList).dropWhile (· ≠ ':') =
      ':' :: y.text.toList := by
    rw [List.dropWhile_append_of_pos before, List.dropWhile_cons_of_neg (by decide)]
  have mem : ':' ∈ x.text.toList ++ ':' :: y.text.toList :=
    List.mem_append_right _ List.mem_cons_self
  simp only [parse]
  rw [strip_pair, if_pos mem, left, right, List.tail_cons, String.ofList_toList,
    String.ofList_toList, Address.parse_text hx, Address.parse_text hy]
  rfl

theorem parse_text_single (ha : a.Named) : parse a.text = .ok (single a) := by
  have colon : ':' ∉ Text.strip a.text.toList := by
    rw [a.strip_text]
    exact a.not_mem_text rfl
  simp only [parse]
  rw [if_neg colon, Address.parse_text ha]
  rfl

theorem parse_text (named : r.Named) : parse r.text = .ok r := by
  have corners := r.opposite_first_last.ofCorners
  rw [text]
  split
  · rename_i one
    have alone := (single r.first).opposite_first_last.ofCorners
    rw [← one] at corners
    rw [parse_text_single named.first, ← alone]
    exact congrArg Except.ok corners
  · rw [parse_pair named.first named.last, corners]

theorem named_of_parse (h : parse s = .ok r) : r.Named := by
  simp only [parse] at h
  split at h
  · obtain ⟨x, hx, rest⟩ := bind_eq_ok_iff.1 h
    obtain ⟨y, hy, made⟩ := bind_eq_ok_iff.1 rest
    cases made
    exact named_ofCorners (Address.named_of_parse hx) (Address.named_of_parse hy)
  · obtain ⟨x, hx, made⟩ := bind_eq_ok_iff.1 h
    cases made
    exact ⟨Address.named_of_parse hx, Address.named_of_parse hx⟩

end Range

/-- Addresses and ranges of the sheet are read from their texts, and a range also from any two
opposite corners. What is read from any text at all is such an address or range, with its first
row and column not after its last, and reads from its own text again. -/
theorem parse_roundTrip :
    (∀ a : Address, a.Named → Address.parse a.text = .ok a) ∧
    (∀ r : Range, r.Named → Range.parse r.text = .ok r ∧
      ∀ x y, r.Opposite x y → Range.parse (x.text ++ ":" ++ y.text) = .ok r) ∧
    (∀ (s : String) (a : Address), Address.parse s = .ok a →
      a.Named ∧ Address.parse a.text = .ok a) ∧
    ∀ (s : String) (r : Range), Range.parse s = .ok r →
      r.Named ∧ r.first.row ≤ r.last.row ∧ r.first.col ≤ r.last.col ∧
        Range.parse r.text = .ok r := by
  refine ⟨fun a named => Address.parse_text named, fun r named => ⟨Range.parse_text named, ?_⟩,
    fun s a read => ?_, fun s r read => ?_⟩
  · intro x y opposite
    obtain ⟨hx, hy⟩ := opposite.named named
    rw [Range.parse_pair hx hy, opposite.ofCorners]
  · have named := Address.named_of_parse read
    exact ⟨named, Address.parse_text named⟩
  · have named := Range.named_of_parse read
    exact ⟨named, r.row_le, r.col_le, Range.parse_text named⟩

theorem parse_roundTrip_sheet :
    let sheet : Range := ⟨⟨0, 0⟩, ⟨1048575, 16383⟩, by decide, by decide⟩
    Address.parse "XFD1048576" = .ok sheet.last ∧ Range.parse "A1048576:XFD1" = .ok sheet ∧
      Address.parse " $b$02 " = .ok ⟨1, 1⟩ ∧ Address.parse "B2" = .ok ⟨1, 1⟩ ∧
      Range.parse "c4 :$A$1" = Range.parse "A1:C4" := by
  intro sheet
  obtain ⟨addresses, ranges, readAddress, readRange⟩ := parse_roundTrip
  have last : sheet.last.text = "XFD1048576" := by decide +kernel
  have below : (⟨1048575, 0⟩ : Address).text = "A1048576" := by decide +kernel
  have above : (⟨0, 16383⟩ : Address).text = "XFD1" := by decide +kernel
  have b2 : (⟨1, 1⟩ : Address).text = "B2" := by decide +kernel
  have a1c4 : (⟨⟨0, 0⟩, ⟨3, 2⟩, by decide, by decide⟩ : Range).text = "A1:C4" := by decide +kernel
  have named : sheet.Named := ⟨⟨by decide, by decide⟩, by decide, by decide⟩
  have corners := (ranges sheet named).2 ⟨1048575, 0⟩ ⟨0, 16383⟩
    ⟨.inr ⟨rfl, rfl⟩, .inl ⟨rfl, rfl⟩⟩
  have marked : Address.parse " $b$02 " = .ok ⟨1, 1⟩ := rfl
  have turned : Range.parse "c4 :$A$1" = .ok ⟨⟨0, 0⟩, ⟨3, 2⟩, by decide, by decide⟩ := rfl
  have again := (readAddress _ _ marked).2
  have range := (readRange _ _ turned).2.2.2
  rw [below, above] at corners
  rw [b2] at again
  rw [a1c4] at range
  exact ⟨last ▸ addresses _ named.last, corners, marked, again, turned.trans range.symm⟩

end Worksheet
