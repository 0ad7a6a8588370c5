import Mathlib.Data.List.Forall2
import Worksheet.Function.Generic

/-! Grids as tables: a grid shows a rule when it has the rule's value at each place of an extent.
Every way of making a grid is characterised by the rule it shows. Building with a rule that may
refuse ends at the first refusal in row order, and otherwise shows the rule's answers. -/

namespace Worksheet

theorem bind_eq_ok_iff {α β ε : Type} {x : Except ε α} {k : α → Except ε β} {b : β} :
    x >>= k = .ok b ↔ ∃ a, x = .ok a ∧ k a = .ok b := by
  cases x <;> simp [bind, Except.bind]

theorem exists_error_iff {α ε : Type} {x : Except ε α} :
    (∃ e, x = .error e) ↔ ¬∃ a, x = .ok a := by
  cases x <;> simp

theorem mapM_eq_ok_iff {α β ε : Type} {f : α → Except ε β} {as : List α} {bs : List β} :
    as.mapM f = .ok bs ↔ List.Forall₂ (fun a b => f a = .ok b) as bs := by
  induction as generalizing bs with
  | nil =>
    rw [List.mapM_nil, List.forall₂_nil_left_iff]
    exact ⟨fun h => (Except.ok.inj h).symm, fun h => congrArg Except.ok h.symm⟩
  | cons a as ih =>
    simp only [List.mapM_cons, bind_eq_ok_iff, List.forall₂_cons_left_iff, ih]
    refine exists_congr fun b => ?_
    constructor
    · rintro ⟨hb, rest, hrest, h⟩
      exact ⟨rest, hb, hrest, (Except.ok.inj h).symm⟩
    · rintro ⟨rest, hb, hrest, rfl⟩
      exact ⟨hb, rest, hrest, rfl⟩

theorem exists_mapM {α β ε : Type} {f : α → Except ε β} {R : α → β → Prop} {as : List α}
    (h : ∀ a ∈ as, ∃ b, f a = .ok b ∧ R a b) :
    ∃ bs, as.mapM f = .ok bs ∧ List.Forall₂ R as bs := by
  simp only [mapM_eq_ok_iff]
  induction as with
  | nil => exact ⟨[], .nil, .nil⟩
  | cons a as ih =>
    obtain ⟨b, hb, ab⟩ := h a List.mem_cons_self
    obtain ⟨bs, hbs, all⟩ := ih fun a ha => h a (List.mem_cons_of_mem _ ha)
    exact ⟨b :: bs, .cons hb hbs, .cons ab all⟩

theorem exists_of_mapM_eq_error {α β ε : Type} {f : α → Except ε β} {as : List α} {e : ε}
    (h : as.mapM f = .error e) : ∃ a ∈ as, f a = .error e := by
  induction as with
  | nil => cases h
  | cons a as ih =>
    rw [List.mapM_cons] at h
    cases first : f a with
    | error e' =>
      rw [first] at h
      cases h
      exact ⟨a, List.mem_cons_self, first⟩
    | ok b =>
      cases rest : as.mapM f with
      | error e' =>
        rw [first, rest] at h
        cases h
        obtain ⟨a', ha', refusal⟩ := ih rest
        exact ⟨a', List.mem_cons_of_mem _ ha', refusal⟩
      | ok bs =>
        rw [first, rest] at h
        cases h

section Collect

variable {ε α : Type} {f g : Nat → Except ε α} {n : Nat}

theorem collectFrom_congr {done : Array α}
    (h : ∀ i, done.size ≤ i → i < done.size + n → f i = g i) :
    collectFrom f n done = collectFrom g n done := by
  induction n generalizing done with
  | zero => rfl
  | succ n ih =>
    rw [collectFrom, collectFrom, h done.size (by omega) (by omega)]
    cases g done.size with
    | error e => rfl
    | ok a => exact ih fun i hi hn => h i (by simp at hi; omega) (by simp at hn; omega)

theorem collect_eq_error_of_collectFrom {e : ε} (h : collectFrom f n #[] = .error e) :
    collect f n = .error e := by
  unfold collect
  split
  · rename_i out h'
    cases h.symm.trans h'
  · rename_i e' h'
    cases h.symm.trans h'
    rfl

theorem collect_congr (h : ∀ i < n, f i = g i) : collect f n = collect g n := by
  have same : collectFrom f n #[] = collectFrom g n #[] :=
    collectFrom_congr fun i _ hn => h i (by simpa using hn)
  cases hg : collectFrom g n #[] with
  | error e =>
    rw [collect_eq_error_of_collectFrom hg, collect_eq_error_of_collectFrom (same.trans hg)]
  | ok out =>
    have hs : out.size = n := by simpa using size_of_collectFrom hg
    rw [collect_eq_ok_of_collectFrom hg hs, collect_eq_ok_of_collectFrom (same.trans hg) hs]

theorem collect_eq_ofFn {a : Nat → α} (h : ∀ i < n, f i = .ok (a i)) :
    collect f n = .ok (Vector.ofFn fun i => a i) := by
  rw [collect_eq_ok_iff]
  intro i
  have here : (Vector.ofFn fun i : Fin n => a i)[i.val] = a i := Vector.getElem_ofFn i.isLt
  exact (h i i.isLt).trans (congrArg Except.ok here.symm)

end Collect

def Place.alone (i : Item) : Grid :=
  .tabulate 1 1 (Nat.succ_pos 0) (Nat.succ_pos 0) fun _ _ => i

def Place.above (a b : Item) : Grid :=
  .tabulate 2 1 (Nat.succ_pos 1) (Nat.succ_pos 0) fun r _ => if r = 0 then a else b

namespace Grid

/-- The grid has this extent, and at each place the item that the rule gives there. -/
structure Shows (g : Grid) (e : Extent) (f : Nat → Nat → Item) : Prop where
  extent : g.extent = e
  get? : ∀ {r c : Nat}, r < e.rows → c < e.cols → g.get? r c = some (f r c)

/-- One place comes before another in row order. -/
def Before (r c r' c' : Nat) : Prop := r < r' ∨ r = r' ∧ c < c'

theorem before_of_lt {cols r c i : Nat} (hc : c < cols) (h : i < r * cols + c) :
    Before (i / cols) (i % cols) r c := by
  have row : i / cols ≤ r := by
    have := @Nat.div_le_div_right _ _ cols (Nat.le_of_lt h)
    rwa [rowOf_rowMajor hc] at this
  have split := Nat.div_add_mod' i cols
  by_cases same : i / cols = r
  · right
    rw [same] at split
    exact ⟨same, by omega⟩
  · left
    omega

theorem Shows.congr {g : Grid} {e : Extent} {f f' : Nat → Nat → Item} (h : g.Shows e f)
    (same : ∀ r c, r < e.rows → c < e.cols → f r c = f' r c) : g.Shows e f' where
  extent := h.extent
  get? hr hc := by rw [h.get? hr hc, same _ _ hr hc]

theorem shows_of_eq_ok {ε : Type} {out : Except ε Grid} {g : Grid} {e : Extent}
    {f : Nat → Nat → Item} (made : out = .ok g) (shown : ∃ g', out = .ok g' ∧ g'.Shows e f) :
    g.Shows e f := by
  obtain ⟨g', made', shows⟩ := shown
  obtain rfl : g = g' := Except.ok.inj (made.symm.trans made')
  exact shows

theorem exists_get?_iff (g : Grid) (r c : Nat) :
    (∃ i, g.get? r c = some i) ↔ r < g.rows ∧ c < g.cols := by
  rw [← Option.isSome_iff_exists, isSome_get?]

theorem exists_get_iff (g : Grid) (r c : Nat) :
    (∃ i, g.get r c = .ok i) ↔ r < g.rows ∧ c < g.cols := by
  simp only [get_eq_ok_iff, exists_get?_iff]

theorem get_zero (g : Grid) : g.get 0 0 = .ok g.first := (g.get_eq_ok_iff 0 0 _).2 g.get?_zero

end Grid

/-- What a grid keeps of a value that becomes one of its cells. -/
inductive Value.Keeps : Value → Item → Prop
  | item (i : Item) : Keeps (.item i) i
  | first {g : Grid} {i : Item} (here : g.get 0 0 = .ok i) : Keeps (.grid g) i

theorem Value.keeps_iff {v : Value} {i : Item} : v.Keeps i ↔ v.toItem = i := by
  constructor
  · intro keeps
    cases keeps with
    | item => rfl
    | first here => exact Except.ok.inj ((Grid.get_zero _).symm.trans here)
  · rintro rfl
    rcases v with i | g
    · exact .item i
    · exact .first g.get_zero

namespace Grid

theorem get?_map (g : Grid) (f : Item → Nat → Nat → Value) (r c : Nat) :
    (g.map f).get? r c = (g.get? r c).map fun i => (f i r c).toItem := by
  by_cases inside : r < g.rows ∧ c < g.cols
  · rw [g.get?_eq_some_item inside.1 inside.2, (g.map f).get?_eq_some_item inside.1 inside.2,
      g.item_map f inside.1 inside.2]
    rfl
  · rw [(g.get?_eq_none_iff r c).2 inside, ((g.map f).get?_eq_none_iff r c).2 inside]
    rfl

theorem shows_tabulate {rows cols : Nat} (hr : 0 < rows) (hc : 0 < cols) (f : Nat → Nat → Item) :
    (tabulate rows cols hr hc f).Shows ⟨rows, cols⟩ f where
  extent := rfl
  get? h h' := by rw [get?_eq_some_item _ h h', item_tabulate hr hc f h h']

section Build

variable {e : Extent} {f f' : Nat → Nat → Except Breach Value}

theorem build_congr (h : ∀ r c, r < e.rows → c < e.cols → f r c = f' r c) :
    build e f = build e f' := by
  unfold build
  split
  · rename_i pos
    have same : ∀ i < e.rows * e.cols, f (i / e.cols) (i % e.cols) = f' (i / e.cols) (i % e.cols) :=
      fun i hi => h _ _ (rowOf_lt hi) (Nat.mod_lt _ pos.2)
    simp only
    rw [collect_congr fun i hi => by rw [same i hi]]
  · rfl

theorem build_eq_tabulate {cell : Nat → Nat → Value} (hr : 0 < e.rows) (hc : 0 < e.cols)
    (answers : ∀ r c, r < e.rows → c < e.cols → f r c = .ok (cell r c)) :
    build e f = .ok (tabulate e.rows e.cols hr hc fun r c => (cell r c).toItem) := by
  unfold build
  rw [dif_pos ⟨hr, hc⟩]
  simp only
  rw [collect_eq_ofFn (a := fun i => (cell (i / e.cols) (i % e.cols)).toItem)]
  · rfl
  · intro i hi
    rw [answers _ _ (rowOf_lt hi) (Nat.mod_lt _ hc)]
    rfl

theorem build_shows {cell : Nat → Nat → Value} (hr : 0 < e.rows) (hc : 0 < e.cols)
    (answers : ∀ r c, r < e.rows → c < e.cols → f r c = .ok (cell r c)) :
    ∃ g, build e f = .ok g ∧ g.Shows e fun r c => (cell r c).toItem :=
  ⟨_, build_eq_tabulate hr hc answers, shows_tabulate hr hc _⟩

theorem exists_build (hr : 0 < e.rows) (hc : 0 < e.cols)
    (answers : ∀ r c, r < e.rows → c < e.cols → ∃ v, f r c = .ok v) :
    ∃ g, build e f = .ok g := by
  have total : ∀ r c, r < e.rows → c < e.cols →
      f r c = .ok ((f r c).toOption.getD .blank) := by
    intro r c hr hc
    obtain ⟨v, rule⟩ := answers r c hr hc
    rw [rule]
    rfl
  exact ⟨_, build_eq_tabulate hr hc total⟩

end Build

section Make

variable {room : Nat} {e : Extent} {f : Nat → Nat → Except Breach Value} {g : Grid}

theorem make_of_isWithin (few : e.isWithin room = true) : make room e = build e := by
  funext f
  by_cases pos : 0 < e.rows ∧ 0 < e.cols
  · rw [make, Extent.reserve_eq_ok_iff.2 ⟨pos.1, pos.2, few⟩]
    rfl
  · -- An extent without a cell is refused by either, and as such.
    have none : e.rows = 0 ∨ e.cols = 0 := by omega
    rw [make, build, dif_neg pos, Extent.reserve, if_pos none]
    rfl

theorem reserved_of_make (made : make room e f = .ok g) :
    0 < e.rows ∧ 0 < e.cols ∧ e.isWithin room = true := by
  obtain ⟨⟨⟩, reserved, -⟩ := bind_eq_ok_iff.1 made
  exact Extent.reserve_eq_ok_iff.1 reserved

theorem make_congr {f' : Nat → Nat → Except Breach Value}
    (h : ∀ r c, r < e.rows → c < e.cols → f r c = f' r c) : make room e f = make room e f' := by
  rw [make, make, build_congr h]

theorem make_shows (cell : Nat → Nat → Value) (hr : 0 < e.rows) (hc : 0 < e.cols)
    (few : e.isWithin room = true)
    (answers : ∀ r c, r < e.rows → c < e.cols → f r c = .ok (cell r c)) :
    ∃ g, make room e f = .ok g ∧ g.Shows e fun r c => (cell r c).toItem := by
  rw [make_of_isWithin few]
  exact build_shows hr hc answers

theorem breach_of_make {b : Breach} (hr : 0 < e.rows) (hc : 0 < e.cols)
    (answers : ∀ r c, r < e.rows → c < e.cols → ∃ v, f r c = .ok v)
    (refused : make room e f = .error b) : b = .uncountable ∨ b = .noRoom := by
  cases reserved : e.reserve room with
  | error b' =>
    rw [make, reserved] at refused
    cases refused
    exact Extent.breach_of_reserve hr hc reserved
  | ok =>
    obtain ⟨g, built⟩ := exists_build hr hc answers
    rw [make, reserved, built] at refused
    cases refused

theorem ofFn_shows (f : Nat → Nat → Value) (hr : 0 < e.rows) (hc : 0 < e.cols)
    (few : e.isWithin room = true) :
    ∃ g, ofFn room e f = .ok g ∧ g.Shows e fun r c => (f r c).toItem :=
  make_shows f hr hc few fun _ _ _ _ => rfl

theorem filled_shows (v : Value) (hr : 0 < e.rows) (hc : 0 < e.cols)
    (few : e.isWithin room = true) :
    ∃ g, filled room e v = .ok g ∧ g.Shows e fun _ _ => v.toItem :=
  ofFn_shows _ hr hc few

theorem shows_of_filled {v : Value} (made : filled room e v = .ok g) :
    g.Shows e fun _ _ => v.toItem := by
  obtain ⟨hr, hc, few⟩ := reserved_of_make made
  exact shows_of_eq_ok made (filled_shows v hr hc few)

end Make

end Grid

end Worksheet
