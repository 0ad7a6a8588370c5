import Worksheet.Proofs.Conditional
import Worksheet.Proofs.Grid.Rows
import Worksheet.Proofs.Grid.Window

/-! Values that read alike. Two grids are alike when they have one extent and the same item at each
place, whether they hold their items or look at a source. Every step of a call keeps likeness, so
alike arguments have alike outcomes. Main statement: this holds of the standard functions, hence a
window may give way to a copy of what it reads, and a source may change outside of the range. -/

namespace Worksheet

structure Grid.Alike (g h : Grid) : Prop where
  extent : g.extent = h.extent
  inside : ∀ r c, r < g.rows → c < g.cols → g.get? r c = h.get? r c

inductive Value.Alike : Value → Value → Prop
  | item (i : Item) : Alike (.item i) (.item i)
  | grid {g h : Grid} (same : g.Alike h) : Alike (.grid g) (.grid h)

/-- Outcomes are alike when they are alike values, or one and the same refusal. -/
inductive Outcome.Alike {ε : Type} : Except ε Value → Except ε Value → Prop
  | value {v w : Value} (same : v.Alike w) : Alike (.ok v) (.ok w)
  | refusal (e : ε) : Alike (.error e) (.error e)

namespace Grid

variable {g h : Grid}

theorem Alike.refl (g : Grid) : g.Alike g := ⟨rfl, fun _ _ _ _ => rfl⟩

theorem Alike.get? (same : g.Alike h) (r c : Nat) : g.get? r c = h.get? r c := by
  by_cases reached : r < g.rows ∧ c < g.cols
  · exact same.inside r c reached.1 reached.2
  · have rows : g.rows = h.rows := congrArg Extent.rows same.extent
    have cols : g.cols = h.cols := congrArg Extent.cols same.extent
    rw [(g.get?_eq_none_iff r c).2 reached, (h.get?_eq_none_iff r c).2 (rows ▸ cols ▸ reached)]

theorem Alike.first (same : g.Alike h) : g.first = h.first := by
  have here := same.get? 0 0
  rw [g.get?_zero, h.get?_zero] at here
  exact Option.some.inj here

theorem window_alike {source source' : Source} {range : Range}
    (agree : ∀ a, range.contains a = true → source a = source' a) :
    (window source range).Alike (window source' range) where
  extent := rfl
  inside _ _ hr hc := get?_window_congr (fun a ha => congrArg Item.ofCell? (agree a ha)) hr hc

end Grid

namespace Value

variable {v w : Value} {vs ws : List Value}

theorem Alike.refl : (v : Value) → v.Alike v
  | .item i => .item i
  | .grid g => .grid (.refl g)

theorem Alike.extent (same : v.Alike w) : v.extent = w.extent := by
  cases same with
  | item i => rfl
  | grid same => exact same.extent

theorem Alike.isGrid (same : v.Alike w) : v.isGrid = w.isGrid := by
  cases same <;> rfl

theorem Alike.failure? (same : v.Alike w) : v.failure? = w.failure? := by
  cases same <;> rfl

theorem Alike.unwrap (same : v.Alike w) : v.unwrap.Alike w.unwrap := by
  cases same with
  | item i => exact .item i
  | @grid g h same =>
    rw [Value.unwrap, Value.unwrap, same.extent, same.first]
    split
    · exact .item _
    · exact .grid same

theorem Alike.cellAt {fill : Item} {mode : Stretch} {r c : Nat} (same : v.Alike w) :
    v.cellAt fill mode r c = w.cellAt fill mode r c := by
  cases same with
  | item i => rfl
  | @grid g h same =>
    have rows : g.rows = h.rows := congrArg Extent.rows same.extent
    have cols : g.cols = h.cols := congrArg Extent.cols same.extent
    rw [Value.cellAt, Value.cellAt, same.extent, same.first, same.get?, rows, cols]

theorem commonExtent_congr (same : List.Forall₂ Alike vs ws) :
    commonExtent vs = commonExtent ws :=
  commonExtent_eq_of_map_extent (map_eq_of_forall₂ same fun _ _ here => here.extent)

theorem alignedAt_congr {mode : Stretch} {r c : Nat} (same : List.Forall₂ Alike vs ws) :
    alignedAt mode r c vs = alignedAt mode r c ws :=
  map_eq_of_forall₂ same fun _ _ here => congrArg Value.item here.cellAt

theorem eq_of_alike_items (same : List.Forall₂ Alike vs ws) (items : ∀ v ∈ vs, v.isGrid = false) :
    vs = ws := by
  induction same with
  | nil => rfl
  | cons head tail ih =>
    rw [List.forall_mem_cons] at items
    cases head with
    | item i => rw [ih items.2]
    | grid _ => cases items.1

end Value

theorem Outcome.Alike.refl {ε : Type} (out : Except ε Value) : Outcome.Alike out out := by
  cases out with
  | ok v => exact .value (.refl v)
  | error e => exact .refusal e

theorem Outcome.Alike.mapError {ε ε' : Type} {f : ε → ε'} {x y : Except ε Value}
    (same : Outcome.Alike x y) : Outcome.Alike (x.mapError f) (y.mapError f) := by
  cases same with
  | value same => exact .value same
  | refusal e => exact .refusal (f e)

namespace Signature

variable {s : Signature} {ps : List Parameter} {args args' : List (Option Value)}
  {bound bound' : List Value}

theorem unwrapDriving_alike (same : List.Forall₂ Value.Alike bound bound') :
    List.Forall₂ Value.Alike (s.unwrapDriving bound) (s.unwrapDriving bound') := by
  refine forall₂_mapIdx same fun i v w here => ?_
  split
  · exact here.unwrap
  · exact here

theorem isDriven_congr (same : List.Forall₂ Value.Alike bound bound') :
    s.isDriven bound = s.isDriven bound' := by
  have flags : List.Forall₂ Eq (bound.mapIdx fun i v => s.drive.drives i && v.isGrid)
      (bound'.mapIdx fun i v => s.drive.drives i && v.isGrid) :=
    forall₂_mapIdx same fun i v w here => by rw [here.isGrid]
  rw [List.forall₂_eq_eq_eq] at flags
  rw [isDriven, isDriven, flags]

theorem Admits.alike (same : List.Forall₂ (Option.Rel Value.Alike) args args')
    (h : s.Admits args bound) :
    ∃ bound', s.Admits args' bound' ∧ List.Forall₂ Value.Alike bound bound' := by
  obtain ⟨bound', complete, here⟩ := exists_bind_of_rel .refl same h.complete
  have clean := s.eagerFailure?_congr here fun _ _ alike => alike.failure?
  have arity := h.arity
  rw [same.length_eq] at arity
  exact ⟨bound', ⟨arity, complete, clean.symm.trans h.clean⟩, here⟩

end Signature

namespace SheetFunction

variable {f : SheetFunction} {settings : Settings} {args args' : List (Option Value)}

/-- The rule for the plain course keeps likeness where no grid drives the call. The cell rule need
not be asked, as it is given the same items either way. -/
def Extensional (f : SheetFunction) : Prop :=
  ∀ vs ws : List Value, List.Forall₂ Value.Alike vs ws → vs.length = f.signature.params.length →
    f.signature.isDriven vs = false → Outcome.Alike (f.scalarRule vs) (f.scalarRule ws)

theorem extensional_of_every (every : f.signature.drive = .every) : f.Extensional := by
  intro vs ws same _ undriven
  have items : ∀ v ∈ vs, v.isGrid = false := fun v hv =>
    Signature.isGrid_of_undriven every undriven hv
  rw [Value.eq_of_alike_items same items]
  exact .refl _

theorem Extensional.invoke (extensional : f.Extensional)
    (same : List.Forall₂ (Option.Rel Value.Alike) args args') :
    Outcome.Alike (f.invoke settings args) (f.invoke settings args') := by
  obtain ⟨out, taken⟩ := exists_course f settings args
  have length := same.length_eq
  rw [invoke_of_course taken]
  cases taken with
  | surplus h =>
    rw [length] at h
    rw [invoke_of_course (.surplus h), length]
    exact .refusal _
  | incomplete arity h =>
    rw [length] at arity
    rw [invoke_of_course (.incomplete arity (Signature.bind_eq_none_of_rel .refl same h))]
    exact .refl _
  | failed arity complete h =>
    rw [length] at arity
    obtain ⟨bound', complete', here⟩ := Signature.exists_bind_of_rel .refl same complete
    have same := f.signature.eagerFailure?_congr here fun _ _ alike => alike.failure?
    rw [invoke_of_course (.failed arity complete' (same.symm.trans h))]
    exact .refl _
  | spilled h driven refused =>
    obtain ⟨bound', h', here⟩ := h.alike same
    have unwrapped := f.signature.unwrapDriving_alike here
    rw [Signature.isDriven_congr unwrapped] at driven
    rw [Value.commonExtent_congr unwrapped] at refused
    rw [invoke_of_course (.spilled h' driven refused)]
    exact .refl _
  | @cellwise bound h driven allowed =>
    obtain ⟨bound', h', here⟩ := h.alike same
    have unwrapped := f.signature.unwrapDriving_alike here
    have cells : (fun r c => f.cellRule
          (alignedAt settings.stretch r c (f.signature.unwrapDriving bound))) =
        fun r c => f.cellRule
          (alignedAt settings.stretch r c (f.signature.unwrapDriving bound')) := by
      funext r c
      rw [Value.alignedAt_congr unwrapped]
    rw [Signature.isDriven_congr unwrapped] at driven
    rw [Value.commonExtent_congr unwrapped] at allowed
    rw [invoke_of_course (.cellwise h' driven allowed), Value.commonExtent_congr unwrapped, cells]
    exact .refl _
  | plain h undriven =>
    obtain ⟨bound', h', here⟩ := h.alike same
    have unwrapped := f.signature.unwrapDriving_alike here
    have undriven' := (Signature.isDriven_congr unwrapped).symm.trans undriven
    rw [invoke_of_course (.plain h' undriven')]
    exact (extensional _ _ unwrapped h.length_unwrapDriving undriven).mapError

end SheetFunction

namespace Logical

theorem chosen_alike (i : Item) {yes yes' no no' : Value} (yess : yes.Alike yes')
    (nos : no.Alike no') : (chosen i yes no).Alike (chosen i yes' no') := by
  unfold chosen
  split
  · exact .refl _
  · exact .refl _
  · split
    · exact yess
    · exact nos

theorem extensional_conditional : conditional.Extensional := by
  intro vs ws same length undriven
  obtain ⟨test, yes, no, rfl⟩ := List.length_eq_three.1 length
  obtain ⟨test', yes', no', rfl⟩ := List.length_eq_three.1 (same.length_eq.symm.trans length)
  simp only [List.forall₂_cons, List.Forall₂.nil, and_true] at same
  obtain ⟨tests, yess, nos⟩ := same
  rw [isDriven_conditional] at undriven
  cases tests with
  | grid _ => cases undriven
  | item i =>
    have rule (yes no : Value) : conditional.scalarRule [.item i, yes, no] =
        .ok (chosen i yes no) := selection_item i yes no
    rw [rule, rule]
    exact .value (chosen_alike i yess nos)

end Logical

theorem Catalog.extensional_of_mem {f : SheetFunction} (h : f ∈ standardFunctions) :
    f.Extensional := by
  rcases eq_conditional_or_every h with rfl | every
  · exact Logical.extensional_conditional
  · exact SheetFunction.extensional_of_every every

namespace Engine

theorem call_alike_of_forall₂ (settings : Settings) (name : String)
    {args args' : List (Option Value)}
    (same : List.Forall₂ (Option.Rel Value.Alike) args args') :
    Outcome.Alike (call ⟨.standard, settings⟩ name args)
      (call ⟨.standard, settings⟩ name args') := by
  cases found : Catalog.standard.find? name with
  | none =>
    rw [@call_of_unknown ⟨.standard, settings⟩ name found args,
      @call_of_unknown ⟨.standard, settings⟩ name found args']
    exact .refusal _
  | some f =>
    have extensional := Catalog.extensional_of_mem (Catalog.named_of_find?_standard found).1
    rw [call_standard found, call_standard found]
    exact extensional.invoke same

theorem call_alike_at (settings : Settings) (name : String) (before after : List (Option Value))
    {v w : Value} (same : v.Alike w) :
    Outcome.Alike (call ⟨.standard, settings⟩ name (before ++ some v :: after))
      (call ⟨.standard, settings⟩ name (before ++ some w :: after)) := by
  have kept (args : List (Option Value)) : List.Forall₂ (Option.Rel Value.Alike) args args := by
    refine List.forall₂_same.2 fun a _ => ?_
    cases a with
    | none => exact .none
    | some v => exact .some (.refl v)
  exact call_alike_of_forall₂ settings name
    (List.rel_append (kept before) (.cons (.some same) (kept after)))

/-- Calls of the standard functions do not tell alike arguments apart. So any grid, a window in
particular, may give way to the copy made of the rows that are read from it, and the source of a
window may change outside of its range. -/
theorem call_alike (settings : Settings) (name : String) :
    let call (args : List (Option Value)) := call ⟨.standard, settings⟩ name args
    (∀ args args', List.Forall₂ (Option.Rel Value.Alike) args args' →
      Outcome.Alike (call args) (call args')) ∧
    (∀ g : Grid, ∃ copy, Grid.ofRows (g.toRows.map (List.map .item)) = .ok copy ∧
      ∀ before after, Outcome.Alike (call (before ++ some (.grid g) :: after))
        (call (before ++ some (.grid copy) :: after))) ∧
    (∀ (source source' : Source) (range : Range),
      (∀ a, range.contains a = true → source a = source' a) →
      ∀ before after, Outcome.Alike (call (before ++ some (.ofRange source range) :: after))
        (call (before ++ some (.ofRange source' range) :: after))) := by
  intro call
  refine ⟨fun args args' same => call_alike_of_forall₂ settings name same, fun g => ?_,
    fun source source' range agree before after => ?_⟩
  · obtain ⟨copy, made, extent, reads⟩ := g.ofRows_toRows
    have same : (Value.grid g).Alike (.grid copy) :=
      .grid ⟨extent.symm, fun r c _ _ => (reads r c).symm⟩
    exact ⟨copy, made, fun before after => call_alike_at settings name before after same⟩
  · exact call_alike_at settings name before after (.grid (Grid.window_alike agree))

theorem call_alike_column :
    let source : Source := fun a => if a.col = 0 then some (.logical true) else none
    let source' : Source := fun a => if a.col = 0 then some (.logical true) else some (.text "x")
    let range : Range := .ofCorners ⟨0, 0⟩ ⟨1, 0⟩
    let held := Place.above (.scalar (.logical true)) (.scalar (.logical true))
    let call (c : Value) := call ⟨.standard, .standard⟩ "IF" [some c, some (.number 1), none]
    (∀ a, range.contains a = true → source a = source' a) ∧
      (Value.ofRange source range).Alike (.grid held) ∧
      Outcome.Alike (call (.ofRange source range)) (call (.ofRange source' range)) ∧
      Outcome.Alike (call (.ofRange source range)) (call (.grid held)) := by
  intro source source' range held call
  have agree : ∀ a, range.contains a = true → source a = source' a := by
    intro a ha
    simp only [Range.contains, Bool.and_eq_true, decide_eq_true_eq] at ha
    have first : a.col = 0 := UInt16.le_zero_iff.1 ha.2.2
    simp only [source, source', if_pos first]
  have same : (Value.ofRange source range).Alike (.grid held) := by
    refine .grid ⟨by decide, fun r c hr hc => ?_⟩
    have row : r = 0 ∨ r = 1 := by
      change r < 2 at hr
      omega
    obtain rfl : c = 0 := Nat.lt_one_iff.1 hc
    rcases row with rfl | rfl
    · rfl
    · rfl
  obtain ⟨alike, -, sources⟩ := call_alike .standard "IF"
  exact ⟨agree, same, sources source source' range agree [] _,
    alike _ _ (.cons (.some same) (.cons (.some (.refl _)) (.cons .none .nil)))⟩

end Engine

end Worksheet
