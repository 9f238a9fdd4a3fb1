import EmbeddedSql.Proofs.Connection.Binding
import EmbeddedSql.Proofs.Engine.Binding

/-! The names of the parameters of a statement. A name is compared as a whole, so that it stands
for the position that has it, and no other text stands for any. -/

namespace EmbeddedSql

/-! ## Texts -/

@[simp] theorem Text.toUtf8_ofString (string : String) :
    (ofString string).toUtf8 = Utf8.ofString string := rfl

@[simp] theorem Text.toUtf8_wideOfString (string : String) :
    (wideOfString string).toUtf8 = Utf8.ofString string :=
  Utf16.toUtf8_ofString string

def Text.HasZero : Text → Prop
  | .utf8 bytes => 0 ∈ bytes
  | .utf16 units => 0 ∈ units

namespace Utf16

theorem toNat_mem_decode {units : Units} {unit : UInt16} (isThere : unit ∈ units)
    (isPlain : isSurrogate unit = false) : Char.ofNat unit.toNat ∈ decode units := by
  have isNoHigh : isHigh unit = false := (Bool.or_eq_false_iff.mp isPlain).1
  have isNoLow : isLow unit = false := (Bool.or_eq_false_iff.mp isPlain).2
  fun_induction decode units with
  | case1 => cases isThere
  | case2 other =>
      obtain rfl := List.mem_singleton.mp isThere
      simp [isPlain]
  | case3 first next rest isPair ih =>
      rw [Bool.and_eq_true] at isPair
      rcases List.mem_cons.mp isThere with rfl | isThere
      · simp [isNoHigh] at isPair
      rcases List.mem_cons.mp isThere with rfl | isThere
      · simp [isNoLow] at isPair
      · exact List.mem_cons_of_mem _ (ih isThere)
  | case4 first next rest isNoPair isLone ih =>
      rcases List.mem_cons.mp isThere with rfl | isThere
      · simp [isPlain] at isLone
      · exact List.mem_cons_of_mem _ (ih isThere)
  | case5 first next rest isNoPair isNoSurrogate ih =>
      rcases List.mem_cons.mp isThere with rfl | isThere
      · exact List.mem_cons_self
      · exact List.mem_cons_of_mem _ (ih isThere)

end Utf16

theorem Text.HasZero.toUtf8 {text : Text} (hasZero : text.HasZero) : 0 ∈ text.toUtf8 := by
  cases text with
  | utf8 bytes => exact hasZero
  | utf16 units =>
      exact List.mem_flatMap.mpr
        ⟨Char.ofNat 0, Utf16.toNat_mem_decode hasZero rfl, List.mem_singleton.mpr rfl⟩

/-! ## Tables -/

/-- The names of the parameters of a statement, each with its position. -/
abbrev Names := List (Bytes × Nat)

namespace Names

/-- Every name is a string without a zero, and stands for one position. -/
structure IsProper (names : Names) : Prop where
  distinct : (names.map (·.1)).Nodup
  spelled : ∀ entry ∈ names, 0 ∉ entry.1 ∧ ∃ string, Utf8.ofString string = entry.1

variable {names : Names}

/-- A text that is not the name of a parameter. With a zero in it, it never is. -/
def IsUnknown (names : Names) (text : Text) : Prop :=
  text.HasZero ∨ text.toUtf8 ∉ names.map (·.1)

theorem lookup_of_mem (distinct : (names.map (·.1)).Nodup) {entry : Bytes × Nat}
    (isThere : entry ∈ names) : names.lookup entry.1 = some entry.2 := by
  induction names with
  | nil => cases isThere
  | cons first rest induction =>
      rw [List.map_cons, List.nodup_cons] at distinct
      rcases List.mem_cons.mp isThere with rfl | isThere
      · exact List.lookup_cons_self
      have isOther : (entry.1 == first.1) = false := by
        rw [beq_eq_false_iff_ne]
        exact fun same => distinct.1 (same ▸ List.mem_map_of_mem isThere)
      rw [List.lookup_cons, isOther]
      exact induction distinct.2 isThere

theorem lookup_of_not_mem {name : Bytes} (isUnknown : name ∉ names.map (·.1)) :
    names.lookup name = none := by
  refine List.lookup_eq_none_iff.mpr fun entry isThere => bne_iff_ne.mpr ?_
  rintro rfl
  exact isUnknown (List.mem_map_of_mem isThere)

end Names

/-! ## Engines -/

variable {σ : Type}

/-- Assumed of SQLite: a statement has a table of the names of its parameters. A name without a
zero is looked up as a whole in it, and the name of a position is the one that the table has. -/
structure Naming (engine : Engine σ) extends Binding engine where
  names : σ → StatementHandle → Names
  index_eq : ∀ {state statement} {name : Bytes}, Valid state →
    (handles state).InUse statement → 0 ∉ name →
      engine.parameterIndex statement name state =
        ((names state statement).lookup name).elim 0 Int.ofNat
  name_eq : ∀ {state statement index}, Valid state → (handles state).InUse statement →
    engine.parameterName? statement index state =
      if index < 1 then none
      else ((names state statement).find? (·.2 = index.toNat)).map (·.1)

namespace Naming

variable {engine : Engine σ} (laws : Naming engine) {state : σ} {statement : StatementHandle}
  (valid : laws.Valid state) (inUse : (laws.handles state).InUse statement)
include valid inUse

/-- The name of a position stands for it, and reads as the string that it is shown as. -/
theorem positionOf_name (isProper : (laws.names state statement).IsProper) {index : Int}
    {name : Bytes} (isName : engine.parameterName? statement index state = some name) :
    Parameter.positionOf engine statement name state = index ∧
      Utf8.ofString (Utf8.toString name) = name := by
  rw [laws.name_eq valid inUse] at isName
  split at isName
  case isTrue => cases isName
  case isFalse isPosition =>
    obtain ⟨entry, isFound, rfl⟩ := Option.map_eq_some_iff.mp isName
    have isThere := List.mem_of_find?_eq_some isFound
    have isIndex : entry.2 = index.toNat := by simpa using List.find?_some isFound
    obtain ⟨hasNoZero, string, isSpelled⟩ := isProper.spelled entry isThere
    refine ⟨?_, by rw [← isSpelled, Utf8.toString_ofString]⟩
    rw [Parameter.positionOf, if_neg (by simpa using hasNoZero),
      laws.index_eq valid inUse hasNoZero, Names.lookup_of_mem isProper.distinct isThere, isIndex]
    exact Int.toNat_of_nonneg (by omega)

theorem positionOf_unknown {text : Text}
    (isUnknown : (laws.names state statement).IsUnknown text) :
    Parameter.positionOf engine statement text.toUtf8 state = 0 := by
  unfold Parameter.positionOf
  split
  case isTrue => rfl
  case isFalse hasNoZero =>
    have hasNoZero : 0 ∉ text.toUtf8 := by simpa using hasNoZero
    rcases isUnknown with hasZero | isUnknown
    · exact absurd hasZero.toUtf8 hasNoZero
    · rw [laws.index_eq valid inUse hasNoZero, Names.lookup_of_not_mem isUnknown]
      rfl

end Naming

end EmbeddedSql
