import Mathlib
import Worksheet.Document
import Worksheet.Proofs.Signature

/-! Settings and error markers written as documents and read back, by any library that keeps some
laws. A document may hold any of the fields of settings, in any order; the others are read as the
standard has them. Main statement: settings are read back from what is written of them, whichever
fields that is and however the library allows a member to be spelled. -/

namespace Worksheet

abbrev IsWord (w : List Char) : Prop := w ≠ [] ∧ w.all Char.isLower = true

def capitalized : List Char → List Char
  | [] => []
  | c :: cs => c.toUpper :: cs

/-- What a field becomes in a record when an object with these members is read. A field without a
member stays as it is. -/
def DeclaredField.readFrom? {D α : Type} (f : DeclaredField D α) (members : List (String × D))
    (a : α) : Option α :=
  match members.lookup f.name with
  | none => some a
  | some d => (f.read? d).map fun put => put a

namespace Library

inductive IsScalar (lib : Library) : lib.Document → Prop
  | string (s : String) : IsScalar lib (lib.string.write s)
  | natural (n : UInt64) : IsScalar lib (lib.natural.write n)

/-- What is assumed of a library. Strings, numbers and objects of those are read as they were
written. A value is written under its name, and a record as an object of its fields, in the order
of their declaration. An object is read field by field, whatever the order of its members, and the
missing fields are those of the default. -/
structure Lawful (lib : Library) : Prop where
  string_read : ∀ s, lib.string.read? (lib.string.write s) = some s
  natural_read : ∀ n, lib.natural.read? (lib.natural.write n) = some n
  object_read : ∀ members, (members.map Prod.fst).Nodup → (∀ m ∈ members, lib.IsScalar m.2) →
    lib.object.read? (lib.object.write members) = some members
  snakeCase_eq : ∀ words : List (List Char), (∀ w ∈ words, IsWord w) →
    lib.snakeCase (String.ofList (words.flatMap capitalized)) =
      String.ofList (['_'].intercalate words)
  choice_write : ∀ {α : Type} (values : List α) (name : α → String), ∀ a ∈ values,
    (lib.choice values name).write a = lib.string.write (name a)
  choice_read : ∀ {α : Type} (values : List α) (name : α → String) (d : lib.Document) (s : String),
    lib.string.read? d = some s → (lib.choice values name).read? d = values.find? (name · == s)
  record_write : ∀ {α : Type} (fields : List (DeclaredField lib.Document α)) (default a : α),
    (lib.record fields default).write a = lib.object.write (fields.map fun f => (f.name, f.write a))
  record_read : ∀ {α : Type} (fields : List (DeclaredField lib.Document α)) (default : α)
    (d : lib.Document) (members : List (String × lib.Document)),
    lib.object.read? d = some members → (members.map Prod.fst).Nodup →
    (lib.record fields default).read? d = fields.foldlM (fun a f => f.readFrom? members a) default

variable {lib : Library}

/-- A value is read back from what is written of it, if no other one has its name. -/
theorem Lawful.choice_survives {α : Type} (lawful : lib.Lawful) {values : List α}
    {name : α → String} (distinct : ∀ a ∈ values, ∀ b ∈ values, name a = name b → a = b) {a : α}
    (ha : a ∈ values) :
    (lib.choice values name).read? ((lib.choice values name).write a) = some a := by
  rw [lawful.choice_write _ _ _ ha, lawful.choice_read _ _ _ _ (lawful.string_read _)]
  cases found : values.find? (name · == name a) with
  | none => exact absurd (beq_self_eq_true (name a)) (List.find?_eq_none.1 found a ha)
  | some b =>
    have same : name b = name a := by simpa using List.find?_some found
    rw [distinct b (List.mem_of_find?_eq_some found) a ha same]

def separate (c : Char) : List Char := if c.isUpper then ['_', c.toLower] else [c]

def separated : List Char → List Char
  | [] => []
  | c :: cs => c.toLower :: cs.flatMap separate

theorem flatMap_separate {w : List Char} (h : ∀ c ∈ w, c.isLower = true) :
    w.flatMap separate = w := by
  have same : ∀ c ∈ w, separate c = [c] := fun c hc =>
    if_neg (Char.not_isUpper_of_isLower (h c hc))
  rw [List.flatMap_congr same, List.flatMap_singleton']

theorem toLower_toUpper {c : Char} (h : c.isLower = true) : c.toUpper.toLower = c := by
  rw [Char.toLower_toUpper_eq_toLower,
    Char.toLower_eq_of_not_isUpper (Char.not_isUpper_of_isLower h)]

theorem flatMap_capitalized {words : List (List Char)} (h : ∀ w ∈ words, IsWord w) :
    (words.flatMap capitalized).flatMap separate = words.flatMap ('_' :: ·) := by
  rw [List.flatMap_assoc]
  refine List.flatMap_congr fun w hw => ?_
  obtain ⟨some, lower⟩ := h w hw
  obtain ⟨c, cs, rfl⟩ := List.exists_cons_of_ne_nil some
  obtain ⟨first, rest⟩ := List.forall_mem_cons.1 (List.all_eq_true.1 lower)
  have capital : c.toUpper.isUpper = true := by simp [Char.isAlpha, first]
  rw [capitalized, List.flatMap_cons, flatMap_separate rest, separate, if_pos capital,
    toLower_toUpper first]
  rfl

theorem intercalate_cons (w : List Char) (words : List (List Char)) :
    ['_'].intercalate (w :: words) = w ++ words.flatMap ('_' :: ·) := by
  induction words generalizing w with
  | nil => simp
  | cons v words ih =>
    rw [List.intercalate_cons_cons, ih v, List.flatMap_cons]
    simp

theorem separated_capitalized {words : List (List Char)} (h : ∀ w ∈ words, IsWord w) :
    separated (words.flatMap capitalized) = ['_'].intercalate words := by
  cases words with
  | nil => rfl
  | cons w words =>
    obtain ⟨⟨some, lower⟩, later⟩ := List.forall_mem_cons.1 h
    obtain ⟨c, cs, rfl⟩ := List.exists_cons_of_ne_nil some
    obtain ⟨first, rest⟩ := List.forall_mem_cons.1 (List.all_eq_true.1 lower)
    rw [intercalate_cons, List.flatMap_cons, capitalized, List.cons_append, separated,
      toLower_toUpper first, List.flatMap_append, flatMap_separate rest, flatMap_capitalized later]
    rfl

inductive Tree where
  | string (s : String)
  | natural (n : UInt64)
  | object (members : List (String × Tree))

namespace Tree

def string? : Tree → Option String
  | string s => some s
  | _ => none

def natural? : Tree → Option UInt64
  | natural n => some n
  | _ => none

def object? : Tree → Option (List (String × Tree))
  | object members => if (members.map Prod.fst).Nodup then some members else none
  | _ => none

end Tree

def trees : Library where
  Document := Tree
  string := ⟨.string, Tree.string?⟩
  natural := ⟨.natural, Tree.natural?⟩
  object := ⟨.object, Tree.object?⟩
  snakeCase s := String.ofList (separated s.toList)
  choice values name :=
    ⟨fun a => .string (name a), fun d => d.string?.bind fun s => values.find? (name · == s)⟩
  record fields default :=
    ⟨fun a => .object (fields.map fun f => (f.name, f.write a)),
      fun d => d.object?.bind fun members =>
        fields.foldlM (fun a f => f.readFrom? members a) default⟩

theorem lawful_trees : trees.Lawful where
  string_read _ := rfl
  natural_read _ := rfl
  object_read _ new _ := if_pos new
  snakeCase_eq words h := by
    simp only [trees, String.toList_ofList, separated_capitalized h]
  choice_write _ _ _ _ := rfl
  choice_read _ _ _ _ read := congrArg (Option.bind · _) read
  record_write _ _ _ := rfl
  record_read _ _ _ _ read _ := congrArg (Option.bind · _) read

end Library

theorem Fault.read?_write {lib : Library} (lawful : lib.Lawful) (f : Fault) :
    (codec lib).read? ((codec lib).write f) = some f := by
  refine lawful.choice_survives ?_ f.mem_all
  decide

namespace Stretch

variable {lib : Library} {m : Stretch}

def label : Stretch → String
  | pad => "pad_with_fill"
  | replicate => "replicate_vectors"

theorem mem_all (m : Stretch) : m ∈ all := by cases m <;> decide

theorem snakeCase_identifier (lawful : lib.Lawful) (m : Stretch) :
    lib.snakeCase m.identifier = m.label := by
  cases m with
  | pad => exact lawful.snakeCase_eq ["pad".toList, "with".toList, "fill".toList] (by decide)
  | replicate => exact lawful.snakeCase_eq ["replicate".toList, "vectors".toList] (by decide)

theorem codec_eq (lawful : lib.Lawful) : codec lib = lib.choice all label := by
  rw [codec, funext (snakeCase_identifier lawful)]

theorem write_eq (lawful : lib.Lawful) (m : Stretch) :
    (codec lib).write m = lib.string.write m.label := by
  rw [codec_eq lawful, lawful.choice_write _ _ _ m.mem_all]

theorem read?_eq_some (lawful : lib.Lawful) {d : lib.Document}
    (spelled : lib.string.read? d = some m.label) : (codec lib).read? d = some m := by
  rw [codec_eq lawful, lawful.choice_read _ _ _ _ spelled]
  cases m <;> rfl

end Stretch

namespace Settings

variable {lib : Library} {s : Settings} {f : Field} {fields : List Field}
  {members : List (String × lib.Document)} {d : lib.Document}

def Spells (lib : Library) (s : Settings) : Field → lib.Document → Prop
  | .stretch, d => lib.string.read? d = some s.stretch.label
  | .limit, d => lib.natural.read? d = some s.cellLimit

/-- The member of an object has the name of a field, and it spells what the settings have there. -/
def Holds (lib : Library) (s : Settings) (f : Field) (m : String × lib.Document) : Prop :=
  m.1 = f.name ∧ s.Spells lib f m.2

def member (lib : Library) (s : Settings) : Field → String × lib.Document
  | .stretch => ("expansion", lib.string.write s.stretch.label)
  | .limit => ("max_array_cells", lib.natural.write s.cellLimit)

def Field.put (s : Settings) : Field → Settings → Settings
  | .stretch, a => { a with stretch := s.stretch }
  | .limit, a => { a with cellLimit := s.cellLimit }

/-- The settings in these fields, and the standard in the others. -/
def only (s : Settings) (fields : List Field) : Settings where
  stretch := if .stretch ∈ fields then s.stretch else standard.stretch
  cellLimit := if .limit ∈ fields then s.cellLimit else standard.cellLimit

theorem only_of_forall_mem (h : ∀ f, f ∈ fields) : s.only fields = s := by
  rw [only, if_pos (h .stretch), if_pos (h .limit)]

theorem Field.name_injective : Function.Injective Field.name := by
  intro f g same
  cases f <;> cases g <;> first | rfl | exact absurd same (by decide)

theorem holds_member (lawful : lib.Lawful) (s : Settings) (f : Field) :
    s.Holds lib f (s.member lib f) := by
  cases f with
  | stretch => exact ⟨rfl, lawful.string_read _⟩
  | limit => exact ⟨rfl, lawful.natural_read _⟩

theorem lookup_of_not_mem (holds : List.Forall₂ (s.Holds lib) fields members) (h : f ∉ fields) :
    members.lookup f.name = none := by
  induction holds with
  | nil => rfl
  | @cons g m fields members here _ ih =>
    obtain ⟨other, later⟩ := List.ne_and_not_mem_of_not_mem_cons h
    have apart : f.name ≠ m.1 := fun same =>
      other (Field.name_injective (same.trans here.1))
    rw [List.lookup_cons, beq_false_of_ne apart]
    exact ih later

theorem exists_lookup_of_mem (holds : List.Forall₂ (s.Holds lib) fields members) (h : f ∈ fields) :
    ∃ d, members.lookup f.name = some d ∧ s.Spells lib f d := by
  induction holds with
  | nil => cases h
  | @cons g m fields members here _ ih =>
    by_cases same : f = g
    · subst same
      exact ⟨m.2, by rw [List.lookup_cons, here.1, beq_self_eq_true], here.2⟩
    · have apart : f.name ≠ m.1 := fun names =>
        same (Field.name_injective (names.trans here.1))
      rw [List.lookup_cons, beq_false_of_ne apart]
      exact ih ((List.mem_cons.1 h).resolve_left same)

theorem nodup_names (holds : List.Forall₂ (s.Holds lib) fields members) (new : fields.Nodup) :
    (members.map Prod.fst).Nodup := by
  have names : fields.map Field.name = members.map Prod.fst :=
    map_eq_of_forall₂ holds fun _ _ here => here.1.symm
  exact names ▸ new.map Field.name_injective

theorem readFrom?_declared (lawful : lib.Lawful)
    (holds : List.Forall₂ (s.Holds lib) fields members) (f : Field) (a : Settings) :
    (f.declared lib).readFrom? members a = some (if f ∈ fields then f.put s a else a) := by
  by_cases h : f ∈ fields
  · obtain ⟨d, found, spelled⟩ := exists_lookup_of_mem holds h
    cases f with
    | stretch =>
      have read := Stretch.read?_eq_some lawful spelled
      simp [DeclaredField.readFrom?, Field.declared, Field.put, found, read, h]
    | limit =>
      have read : lib.natural.read? d = some s.cellLimit := spelled
      simp [DeclaredField.readFrom?, Field.declared, Field.put, found, read, h]
  · have missing := lookup_of_not_mem holds h
    cases f <;> simp [DeclaredField.readFrom?, Field.declared, missing, h]

theorem read?_of_holds (lawful : lib.Lawful) (new : fields.Nodup)
    (holds : List.Forall₂ (s.Holds lib) fields members)
    (object : lib.object.read? d = some members) :
    (codec lib).read? d = some (s.only fields) := by
  rw [codec, lawful.record_read _ _ _ _ object (nodup_names holds new)]
  -- Fields are read as they are declared, so the order of the members is gone from here on.
  simp only [Field.all, List.map_cons, List.map_nil, List.foldlM_cons, List.foldlM_nil,
    readFrom?_declared lawful holds, Option.bind_eq_bind, Option.bind_some, Option.pure_def]
  unfold only
  split <;> split <;> rfl

theorem read?_object (lawful : lib.Lawful) (s : Settings) (new : fields.Nodup) :
    (codec lib).read? (lib.object.write (fields.map (s.member lib))) = some (s.only fields) := by
  have holds : List.Forall₂ (s.Holds lib) fields (fields.map (s.member lib)) := by
    rw [List.forall₂_map_right_iff, List.forall₂_same]
    exact fun f _ => holds_member lawful s f
  refine read?_of_holds lawful new holds
    (lawful.object_read _ (nodup_names holds new) fun m hm => ?_)
  obtain ⟨f, -, rfl⟩ := List.mem_map.1 hm
  cases f with
  | stretch => exact .string _
  | limit => exact .natural _

theorem write_eq (lawful : lib.Lawful) (s : Settings) :
    (codec lib).write s = lib.object.write (Field.all.map (s.member lib)) := by
  rw [codec, lawful.record_write, List.map_map]
  refine congrArg lib.object.write (List.map_congr_left fun f _ => ?_)
  cases f with
  | stretch => exact congrArg (Prod.mk _) (Stretch.write_eq lawful _)
  | limit => rfl

/-- Settings are written as an object of both fields, and read back from it. From an object with any
fields of theirs in any order they are read with the standard in the others, as written or with the
members spelled otherwise. -/
theorem survive_document (lib : Library) (lawful : lib.Lawful) (s : Settings) :
    (codec lib).write s = lib.object.write
        [("expansion", lib.string.write s.stretch.label),
          ("max_array_cells", lib.natural.write s.cellLimit)] ∧
      (codec lib).read? ((codec lib).write s) = some s ∧
      (∀ fields : List Field, fields.Nodup →
        (codec lib).read? (lib.object.write (fields.map (s.member lib))) =
          some (s.only fields)) ∧
      ∀ (fields : List Field) (members : List (String × lib.Document)) (d : lib.Document),
        fields.Nodup → List.Forall₂ (s.Holds lib) fields members →
          lib.object.read? d = some members → (codec lib).read? d = some (s.only fields) := by
  have all : ∀ f : Field, f ∈ Field.all := by rintro (_ | _) <;> decide
  refine ⟨write_eq lawful s, ?_, fun _ => read?_object lawful s,
    fun _ _ _ => read?_of_holds lawful⟩
  rw [write_eq lawful, read?_object lawful s (by decide), only_of_forall_mem all]

theorem survive_document_trees :
    (codec .trees).read? (.object [("max_array_cells", .natural 18446744073709551615)]) =
        some ⟨.pad, 18446744073709551615⟩ ∧
      (codec .trees).read?
          (.object [("max_array_cells", .natural 16), ("expansion", .string "replicate_vectors")]) =
        some ⟨.replicate, 16⟩ := by
  obtain ⟨-, -, part, -⟩ :=
    survive_document .trees Library.lawful_trees ⟨.replicate, 18446744073709551615⟩
  obtain ⟨-, -, -, spelled⟩ := survive_document .trees Library.lawful_trees ⟨.replicate, 16⟩
  have holds : List.Forall₂ (Holds .trees ⟨.replicate, 16⟩) [.limit, .stretch]
      [("max_array_cells", .natural 16), ("expansion", .string "replicate_vectors")] :=
    .cons ⟨rfl, rfl⟩ (.cons ⟨rfl, rfl⟩ .nil)
  exact ⟨part [.limit] (by decide), spelled _ _ _ (by decide) holds rfl⟩

end Settings

end Worksheet
