import EmbeddedSql.Engine
import EmbeddedSql.Proofs.Engine.Rewinding
import EmbeddedSql.Proofs.Text.Utf16
import EmbeddedSql.Value.Arithmetic

/-! A statement has a value in each of its slots. It keeps them while it is run and when it is
reset, and gets others one at a time, or null in all of them at once. A query for its only
parameter has the value in its slot for its row.

Before that it is compiled, from wide text as from what that is in UTF-8. -/

namespace EmbeddedSql

/-- Wide text that begins with a byte-order mark, whose bytes may be in either order. -/
def Utf16.isMarked (units : Units) : Bool :=
  units.head?.any fun unit => unit = 0xFEFF || unit = 0xFFFE

/-- Assumed of SQLite: SQL in UTF-16 without a mark is compiled like what it is in UTF-8. An engine
is asked about neither if its length cannot be told. -/
def Engine.ReadsWide {σ : Type} (engine : Engine σ) : Prop :=
  ∀ {units : Utf16.Units} (database : DatabaseHandle) (state : σ),
    Utf16.IsWellFormed units → Utf16.isMarked units = false →
      (Text.utf16 units).byteLength ≤ Engine.maxLength →
        (Text.utf8 (Utf16.toUtf8 units)).byteLength ≤ Engine.maxLength →
      engine.prepare database (.utf16 units) state =
        engine.prepare database (.utf8 (Utf16.toUtf8 units)) state

/-! ## Strings -/

namespace Utf16

def isMark (character : Char) : Bool :=
  character = '\uFEFF' || character = '\uFFFE'

theorem isMarked_encodeChar (character : Char) (rest : Units) :
    isMarked (encodeChar character ++ rest) = isMark character := by
  have marks : isMark character =
      (decide (character.toNat = 0xFEFF) || decide (character.toNat = 0xFFFE)) := by
    simp only [isMark, ← Char.toNat_inj, Char.reduceToNat]
  have encodes := encodeChar_encodes character
  generalize encodeChar character = units at encodes ⊢
  cases encodes with
  | basic isUnit plain =>
      simp [isMarked, marks, ← isUnit, ← UInt16.toNat_inj]
  | @pair high low isAstral isHigh isLow highBits lowBits =>
      have isScalar := Utf8.bounds_of_char character
      have noFirst : high.toNat ≠ 0xFEFF := by omega
      have noSecond : high.toNat ≠ 0xFFFE := by omega
      have noMark : isMark character = false := by
        rw [marks]
        simp only [Bool.or_eq_false_iff, decide_eq_false_iff_not]
        omega
      simp [isMarked, noMark, ← UInt16.toNat_inj, noFirst, noSecond]

theorem isMarked_encode (characters : List Char) :
    isMarked (encode characters) = characters.head?.any isMark := by
  cases characters with
  | nil => rfl
  | cons character rest => exact isMarked_encodeChar character _

end Utf16

variable {σ : Type} {engine : Engine σ}

/-- SQL that means the same in both of its forms: it begins with no mark, and the engine can be
told how long it is. -/
structure FormIsFree (sql : String) : Prop where
  isUnmarked : sql.toList.head?.any Utf16.isMark = false
  fits : (Text.ofString sql).byteLength ≤ Engine.maxLength
  fitsWide : (Text.wideOfString sql).byteLength ≤ Engine.maxLength

theorem Engine.ReadsWide.prepare_string (readsWide : engine.ReadsWide) {string : String}
    (isFree : FormIsFree string) (database : DatabaseHandle) (state : σ) :
    engine.prepare database (.wideOfString string) state =
      engine.prepare database (.ofString string) state := by
  have isWellFormed : Utf16.IsWellFormed (Utf16.ofString string) :=
    Utf16.isWellFormed_encode string.toList
  have noMark : Utf16.isMarked (Utf16.ofString string) = false :=
    (Utf16.isMarked_encode string.toList).trans isFree.isUnmarked
  have fits : (Text.utf8 (Utf16.toUtf8 (Utf16.ofString string))).byteLength ≤ Engine.maxLength := by
    rw [Utf16.toUtf8_ofString]
    exact isFree.fits
  rw [Text.wideOfString, readsWide database state isWellFormed noMark isFree.fitsWide fits,
    Utf16.toUtf8_ofString]
  rfl

end EmbeddedSql

/-! ## Slots -/

namespace EmbeddedSql

abbrev Slots := Int → Value

namespace Slots

def empty : Slots := fun _ => .null

inductive Change where
  | set (position : Int) (value : Value)
  | clear
deriving DecidableEq, Repr

def Change.apply : Change → Slots → Slots
  | .set position value, slots => Function.update slots position value
  | .clear, _ => empty

/-- What changes make of empty slots; the last change comes first. -/
def after (changes : List Change) : Slots :=
  changes.foldr Change.apply empty

@[simp] theorem after_nil : after [] = empty := rfl

theorem after_append (changes earlier : List Change) :
    after (changes ++ earlier) = changes.foldr Change.apply (after earlier) :=
  List.foldr_append

def lastSet (position : Int) (changes : List Change) : Option Value :=
  (changes.takeWhile (· ≠ .clear)).findSome? fun
    | .set other value => if other = position then some value else none
    | .clear => none

theorem after_eq_lastSet (changes : List Change) (position : Int) :
    after changes position = (lastSet position changes).getD .null := by
  unfold lastSet
  induction changes with
  | nil => rfl
  | cons change earlier induction =>
      rw [after, List.foldr_cons, ← after]
      cases change with
      | clear => rfl
      | set other value =>
          rw [List.takeWhile_cons_of_pos (by simp), List.findSome?_cons, Change.apply]
          by_cases isSame : other = position
          · simp [isSame]
          · rw [Function.update_of_ne (Ne.symm isSame), induction]
            simp [isSame]

end Slots

/-- What a slot holds of an argument. A real that is no number is null. What becomes of wide
text is up to the engine. -/
def Argument.kept (ofWide : Utf16.Units → Bytes) : Argument → Value
  | .null => .null
  | .integer value => .integer value
  | .real value => .ofReal value
  | .text (.utf8 bytes) => .text bytes
  | .text (.utf16 units) => .text (ofWide units)
  | .blob bytes => .blob bytes

def Argument.fits (argument : Argument) : Bool :=
  argument.byteLength ≤ 1000000000

variable {σ : Type}

theorem Engine.give_of_fits (engine : Engine σ) {argument : Argument} (fits : argument.fits = true)
    (statement : StatementHandle) (index : Int) :
    engine.give statement index argument = engine.bind statement index argument :=
  Engine.give_of_le (Nat.le_trans (of_decide_eq_true fits) (by decide))

/-- Assumed of SQLite: a new statement has null in its slots; running and resetting keep them;
a reset statement takes a value that is not too long at each of its positions, and answers that
others are out of range; clearing sets all of them to null. -/
structure Binding (engine : Engine σ) extends Rewinding engine where
  slots : σ → StatementHandle → Slots
  ofWide : Utf16.Units → Bytes
  spares_slots : ∀ held, toCustody.Spares fun state statement => slots state statement = held
  prepared_slots : ∀ {state database sql statement}, Valid state →
    (handles state).isOpen database = true →
      (engine.prepare database sql state).1.2 = some statement →
        slots (engine.prepare database sql state).2 statement = .empty
  stepped_slots : ∀ {state statement}, Valid state → (handles state).InUse statement →
    slots (engine.step statement state).2 statement = slots state statement
  reset_slots : ∀ {state statement}, Valid state → (handles state).InUse statement →
    slots (engine.reset statement state).2 statement = slots state statement
  bound_slots : ∀ {state statement} {index : Int} {argument : Argument}, argument.fits = true →
    Valid state → (handles state).InUse statement → IsReset state statement → 1 ≤ index →
      index ≤ engine.parameterCount statement state →
        (engine.bind statement index argument state).1 = Status.ok ∧
          slots (engine.bind statement index argument state).2 statement =
            Function.update (slots state statement) index (argument.kept ofWide)
  bound_outside : ∀ {state statement} {index : Int} {argument : Argument},
    Valid state → (handles state).InUse statement → IsReset state statement →
      ¬(1 ≤ index ∧ index ≤ engine.parameterCount statement state) →
        (engine.bind statement index argument state).1 = Status.range ∧
          slots (engine.bind statement index argument state).2 statement = slots state statement
  bound_count : ∀ {state statement index argument}, Valid state →
    (handles state).InUse statement →
      engine.parameterCount statement (engine.bind statement index argument state).2 =
        engine.parameterCount statement state
  cleared_slots : ∀ {state statement}, Valid state → (handles state).InUse statement →
    (engine.clearBindings statement state).1 = Status.ok ∧
      slots (engine.clearBindings statement state).2 statement = .empty

def Binding.within {engine : Engine σ} (laws : Binding engine) {Holds : σ → Prop}
    (keeps : laws.toCustody.Keeps Holds) : Binding engine where
  toRewinding := laws.toRewinding.within keeps
  slots := laws.slots
  ofWide := laws.ofWide
  spares_slots held := (laws.spares_slots held).within keeps
  prepared_slots valid := laws.prepared_slots valid.1
  stepped_slots valid := laws.stepped_slots valid.1
  reset_slots valid := laws.reset_slots valid.1
  bound_slots fits valid := laws.bound_slots fits valid.1
  bound_outside valid := laws.bound_outside valid.1
  bound_count valid := laws.bound_count valid.1
  cleared_slots valid := laws.cleared_slots valid.1

/-! ## Wide text

A database that keeps its text in UTF-8 gets it transcoded, without the byte-order mark that it may
begin with. -/

variable {engine : Engine σ}

theorem Binding.bound_code (laws : Binding engine) {state : σ} {statement : StatementHandle}
    (valid : laws.Valid state) (inUse : (laws.handles state).InUse statement)
    (isReset : laws.IsReset state statement) (index : Int) {argument : Argument}
    (fits : argument.fits = true) :
    (engine.bind statement index argument state).1 =
      if 1 ≤ index ∧ index ≤ engine.parameterCount statement state then Status.ok
      else Status.range := by
  split
  case isTrue inRange =>
    exact (laws.bound_slots fits valid inUse isReset inRange.1 inRange.2).1
  case isFalse isOutside =>
    exact (laws.bound_outside valid inUse isReset isOutside).1

/-- Assumed of SQLite: if a database keeps its text in UTF-8, wide text that is bound in it is
transcoded first, in the order of bytes that a mark at its front tells and without the mark. A
text that is too long in the form in which it is handed over is refused. -/
structure WideBinding (engine : Engine σ) extends Binding engine where
  KeepsUtf8 : DatabaseHandle → σ → Prop
  bound_wide : ∀ {state database statement index units},
    (Argument.text (.utf16 units)).fits = true →
    (Argument.text (.utf8 (Lenient.toUtf8 (Lenient.dropByteOrderMark units)))).fits = true →
      Valid state → (handles state).owner? statement = some database →
        KeepsUtf8 database state →
          engine.bind statement index (.text (.utf16 units)) state =
            engine.bind statement index
              (.text (.utf8 (Lenient.toUtf8 (Lenient.dropByteOrderMark units)))) state
  bound_long : ∀ {state statement} {index : Int} {argument : Argument}, argument.fits = false →
    Valid state → (handles state).InUse statement → IsReset state statement → 1 ≤ index →
      index ≤ engine.parameterCount statement state →
        (engine.bind statement index argument state).1 = Status.tooBig

end EmbeddedSql

/-! ## A query for its only parameter -/

namespace EmbeddedSql

def echoSql : Text := .ofString "SELECT ?1"

namespace Argument

def value : Argument → Value
  | .null => .null
  | .integer value => .integer value
  | .real value => .real value
  | .text (.utf8 bytes) => .text bytes
  | .text (.utf16 units) => .text (Utf16.toUtf8 units)
  | .blob bytes => .blob bytes

/-- An engine need not keep a real that is no number, and it has its own way with wide
text. -/
def isExact : Argument → Bool
  | .real value => value.isFinite
  | .text (.utf16 _) => false
  | _ => true

end Argument

variable {σ : Type}

/-- Assumed of SQLite: `SELECT ?1` returns the bound value with its storage class unchanged. What
is too long is not bound. -/
structure Echoing (engine : Engine σ) where
  /-- The database is open, and its text is kept in the encoding in which it is bound. -/
  Keeps : DatabaseHandle → σ → Prop
  /-- The statement is compiled from the query, is not running, and has this value in its
  slot. -/
  Holds : StatementHandle → Value → σ → Prop
  prepared : ∀ {database state}, Keeps database state → ∃ statement,
    (engine.prepare database echoSql state).1 = (Status.ok, some statement) ∧
      Holds statement .null (engine.prepare database echoSql state).2
  bound : ∀ {statement held state} {argument : Argument}, Holds statement held state →
    argument.isExact → argument.fits = true →
      (engine.bind statement 1 argument state).1 = Status.ok ∧
        Holds statement argument.value (engine.bind statement 1 argument state).2
  boundLong : ∀ {statement held state} {argument : Argument}, Holds statement held state →
    argument.fits = false → (engine.bind statement 1 argument state).1 = Status.tooBig
  stepped : ∀ {statement value state}, Holds statement value state →
    (engine.step statement state).1 = Status.row ∧
      engine.row statement (engine.step statement state).2 = [.ofValue value] ∧
        (engine.columnNames statement (engine.step statement state).2).length = 1
  rewound : ∀ {statement value state}, Holds statement value state →
    Holds statement value (engine.reset statement (engine.step statement state).2).2

/-- The row is the only one, and the statement is finalized without a failure. -/
structure EchoingOnce (engine : Engine σ) extends Echoing engine where
  ended : ∀ {statement value state}, Holds statement value state →
    (engine.step statement (engine.step statement state).2).1 = Status.done
  rewoundEnd : ∀ {statement value state}, Holds statement value state →
    Holds statement value
      (engine.reset statement (engine.step statement (engine.step statement state).2).2).2
  finalized : ∀ {statement value state}, Holds statement value state →
    (engine.finalize statement state).1 = Status.ok

end EmbeddedSql
