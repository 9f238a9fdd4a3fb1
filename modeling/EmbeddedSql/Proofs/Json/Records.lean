import EmbeddedSql.Connection.Config
import EmbeddedSql.Proofs.Json.Parsing
import EmbeddedSql.Query.Execution
import EmbeddedSql.Scratch.Config
import Mathlib.Data.List.Nodup

/-! Records are read from the text of an object by the names of its members: in whatever order the
members come, and whatever else stands among them. -/

namespace EmbeddedSql.Json

/-! ## Members and their names -/

def given (members : List (String × Tree)) (name : String) : List Tree :=
  (members.filter (·.1 = name)).map Prod.snd

section
variable {name other : String} {value : Tree} {rest : List (String × Tree)}

theorem given_cons_self : given ((name, value) :: rest) name = value :: given rest name := by
  simp [given]

theorem given_cons_other (isOther : other ≠ name) :
    given ((other, value) :: rest) name = given rest name := by
  simp [given, isOther]

end

/-- Nothing is given under the name, or the one value is, written as a tree. -/
def Gives {α : Type} (members : List (String × Tree)) (name : String) (tree : α → Tree)
    (value : Option α) : Prop :=
  given members name = (value.map tree).toList

def AreMembers (raws : List (List Char × Tree)) (members : List (String × Tree)) : Prop :=
  List.Forall₂ (fun raw member => Denotes raw.1 member.1.toList ∧ raw.2 = member.2) raws members

/-- The text of an object with these members, blanks and escapes aside. A name is a text, so the
surrogates in it are paired; those in values need not be. -/
def SpellsObject (text : List Char) (members : List (String × Tree)) : Prop :=
  ∃ raws, Spells text (.object raws) ∧ AreMembers raws members

namespace Field

variable {ρ α β : Type} {key : String} {value? : Tree → Option β} {set : β → ρ → ρ} {view : ρ → α}

def setting (key : String) (value? : Tree → Option β) (set : β → ρ → ρ) : Field ρ where
  key := key
  read value record := (value? value).map (set · record)

/-- What is seen of the record stays the same when the field is read. -/
def Keeps (field : Field ρ) (view : ρ → α) : Prop :=
  ∀ value record, ∀ next ∈ field.read value record, view next = view record

@[simp] theorem setting_key : (setting key value? set).key = key :=
  rfl

@[simp] theorem setting_keeps (same : ∀ value record, view (set value record) = view record) :
    (setting key value? set).Keeps view := by
  intro value record next isRead
  obtain ⟨value, -, rfl⟩ := Option.map_eq_some_iff.mp isRead
  exact same value record

end Field

namespace RecordFormat

variable {ρ α : Type} {format : RecordFormat ρ} {name : String} {field : Field ρ}
variable {seen last : List String} {record final : ρ}
variable {raws : List (List Char × Tree)} {members : List (String × Tree)} {text : List Char}

/-! ## One member after the other -/

def field? (format : RecordFormat ρ) (name : String) : Option (Field ρ) :=
  format.fields.find? (·.key = name)

theorem field?_eq_some (isField : format.field? name = some field) :
    field ∈ format.fields ∧ field.key = name := by
  have isNamed := List.find?_some isField
  exact ⟨List.mem_of_find?_eq_some isField, of_decide_eq_true isNamed⟩

theorem exists_field? (isField : field ∈ format.fields) :
    ∃ found, format.field? field.key = some found := by
  rw [← Option.isSome_iff_exists, field?, List.find?_isSome]
  exact ⟨field, isField, decide_eq_true rfl⟩

theorem ne_of_unknown {other : String} (isUnknown : format.field? other = none)
    (isField : format.field? name = some field) : other ≠ name := by
  rintro rfl
  rw [isField] at isUnknown
  cases isUnknown

/-- Members are read from the front on, each into its field. The names of the fields met are kept,
and none is met again. -/
inductive Reads (format : RecordFormat ρ) :
    List String → ρ → List (String × Tree) → List String → ρ → Prop
  | done {seen : List String} {record : ρ} : Reads format seen record [] seen record
  | unknown {seen last : List String} {record final : ρ} {name : String} {value : Tree}
      {rest : List (String × Tree)} : format.field? name = none →
        Reads format seen record rest last final →
          Reads format seen record ((name, value) :: rest) last final
  | known {seen last : List String} {record next final : ρ} {name : String} {value : Tree}
      {rest : List (String × Tree)} {field : Field ρ} : format.field? name = some field →
        name ∉ seen → field.read value record = some next →
          Reads format (name :: seen) next rest last final →
            Reads format seen record ((name, value) :: rest) last final

theorem readMembers_iff (areMembers : AreMembers raws members) :
    format.readMembers seen record raws = some (last, final) ↔
      format.Reads seen record members last final := by
  induction areMembers generalizing seen record with
  | nil =>
      constructor
      · rintro ⟨⟩
        exact .done
      · rintro ⟨⟩
        rfl
  | @cons raw member raws members isMember _ induction =>
      obtain ⟨name, value⟩ := member
      obtain ⟨raw, tree⟩ := raw
      obtain ⟨denotes, rfl⟩ := isMember
      have isFound : format.fields.find? (fun field => field.key.toList = name.toList) =
          format.field? name := by
        simp only [field?, String.toList_inj]
      rw [readMembers, denotes.unescape?]
      simp only [isFound]
      constructor
      · intro reads
        split at reads
        case h_1 isUnknown => exact .unknown isUnknown (induction.mp reads)
        case h_2 field isField =>
          have isNamed := (field?_eq_some isField).2
          split at reads
          case isTrue => cases reads
          case isFalse isNew =>
            rw [isNamed, List.contains_iff_mem] at isNew
            split at reads
            case h_1 => cases reads
            case h_2 next isRead =>
              rw [isNamed] at reads
              exact .known isField isNew isRead (induction.mp reads)
      · intro reads
        cases reads with
        | unknown isUnknown reads => simp [isUnknown, induction.mpr reads]
        | known isField isNew isRead reads =>
            have isNamed := (field?_eq_some isField).2
            simp [isField, isNamed, isNew, isRead, induction.mpr reads]

/-! ## The names that are met -/

namespace Reads

variable (reads : format.Reads seen record members last final)
include reads

theorem count_eq (isField : format.field? name = some field) :
    last.count name = seen.count name + (given members name).length := by
  induction reads with
  | done => rfl
  | unknown isUnknown _ induction =>
      rw [given_cons_other (ne_of_unknown isUnknown isField), induction]
  | @known _ _ _ _ _ other _ _ _ _ _ _ _ induction =>
      rw [induction]
      by_cases isSame : other = name
      · subst isSame
        rw [given_cons_self, List.count_cons_self, List.length_cons]
        omega
      · rw [given_cons_other isSame, List.count_cons_of_ne isSame]

theorem nodup (areDistinct : seen.Nodup) : last.Nodup := by
  induction reads with
  | done => exact areDistinct
  | unknown _ _ induction => exact induction areDistinct
  | known _ isNew _ _ induction => exact induction (List.nodup_cons.mpr ⟨isNew, areDistinct⟩)

theorem subset (areKeys : seen ⊆ format.fields.map Field.key) :
    last ⊆ format.fields.map Field.key := by
  induction reads with
  | done => exact areKeys
  | unknown _ _ induction => exact induction areKeys
  | known isField _ _ _ induction =>
      obtain ⟨isThere, isNamed⟩ := field?_eq_some isField
      exact induction (List.cons_subset.mpr ⟨List.mem_map.mpr ⟨_, isThere, isNamed⟩, areKeys⟩)

end Reads

/-! ## What a field holds in the end -/

/-- What is seen of the record is decided by the one field of this name. Every value can be given to
it, written as a tree. -/
structure Views (format : RecordFormat ρ) (name : String) (view : ρ → α) (tree : α → Tree) :
    Prop where
  sets : ∃ field, format.field? name = some field ∧
    ∀ value record, (field.read (tree value) record).map view = some value
  keeps : ∀ field ∈ format.fields, field.key ≠ name → field.Keeps view

/-- A field that is set shows the value it is set to, as long as no other field disturbs it. -/
theorem Views.of_setting {view : ρ → α} {tree : α → Tree} {value? : Tree → Option α}
    {set : α → ρ → ρ} (isField : format.field? name = some (.setting name value? set))
    (isRead : ∀ value, value? (tree value) = some value)
    (isSet : ∀ value record, view (set value record) = value)
    (keeps : ∀ field ∈ format.fields, field.key ≠ name → field.Keeps view) :
    format.Views name view tree where
  sets := ⟨_, isField, fun value record => by simp [Field.setting, isRead, isSet]⟩
  keeps := keeps

/-- What the members give for the field can be read, and is given once, all members before them
included. -/
structure Fits (seen : List String) (members : List (String × Tree)) (field : Field ρ) : Prop where
  once : seen.count field.key + (given members field.key).length ≤ 1
  isRead : ∀ value ∈ given members field.key, ∀ record, (field.read value record).isSome

namespace Fits

variable {value : Tree} {rest : List (String × Tree)}

theorem of_other (isOther : name ≠ field.key) (fits : Fits seen ((name, value) :: rest) field) :
    Fits seen rest field := by
  obtain ⟨once, isRead⟩ := fits
  rw [given_cons_other isOther] at once isRead
  exact ⟨once, isRead⟩

theorem of_known (fits : Fits seen ((name, value) :: rest) field) :
    Fits (name :: seen) rest field := by
  by_cases isSame : name = field.key
  · obtain ⟨once, isRead⟩ := fits
    rw [isSame, given_cons_self] at once isRead
    refine ⟨?once, fun value isGiven => isRead value (List.mem_cons_of_mem _ isGiven)⟩
    rw [List.length_cons] at once
    rw [isSame, List.count_cons_self]
    omega
  · have ⟨once, isRead⟩ := fits.of_other isSame
    refine ⟨?_, isRead⟩
    rwa [List.count_cons_of_ne isSame]

theorem notMem (fits : Fits seen ((field.key, value) :: rest) field) : field.key ∉ seen := by
  have once := fits.once
  rw [given_cons_self, List.length_cons] at once
  rw [← List.count_eq_zero]
  omega

end Fits

theorem exists_reads (fits : ∀ field ∈ format.fields, Fits seen members field) :
    ∃ last final, format.Reads seen record members last final := by
  induction members generalizing seen record with
  | nil => exact ⟨seen, record, .done⟩
  | cons member rest induction =>
      obtain ⟨name, value⟩ := member
      cases isField : format.field? name with
      | none =>
          have isOther : ∀ field ∈ format.fields, name ≠ field.key := fun field isThere =>
            have ⟨_, isFound⟩ := exists_field? isThere
            ne_of_unknown isField isFound
          obtain ⟨last, final, reads⟩ := induction fun field isThere =>
            (fits field isThere).of_other (isOther field isThere)
          exact ⟨last, final, .unknown isField reads⟩
      | some field =>
          obtain ⟨isThere, rfl⟩ := field?_eq_some isField
          have isGiven : value ∈ given ((field.key, value) :: rest) field.key := by
            rw [given_cons_self]
            exact List.mem_cons_self
          obtain ⟨next, hasRead⟩ := Option.isSome_iff_exists.mp
            ((fits field isThere).isRead value isGiven record)
          obtain ⟨last, final, reads⟩ := induction fun other isOther => (fits other isOther).of_known
          exact ⟨last, final, .known isField (fits field isThere).notMem hasRead reads⟩

namespace Views

variable {view : ρ → α} {tree : α → Tree} {value : Option α}
variable (views : format.Views name view tree) (gives : Gives members name tree value)
include views gives

theorem fits (isField : format.field? name = some field) : Fits [] members field := by
  obtain ⟨own, isOwn, sets⟩ := views.sets
  obtain rfl : own = field := Option.some.inj (isOwn.symm.trans isField)
  rw [Gives, ← (field?_eq_some isField).2] at gives
  constructor
  case once =>
    rw [gives]
    cases value <;> simp
  case isRead =>
    intro given isGiven record
    rw [gives, Option.mem_toList, Option.map_eq_some_iff] at isGiven
    obtain ⟨value, -, rfl⟩ := isGiven
    rw [← Option.isSome_map, sets value record]
    rfl

theorem of_reads (reads : format.Reads seen record members last final) :
    view final = value.getD (view record) := by
  obtain ⟨⟨own, isOwn, sets⟩, keeps⟩ := views
  induction reads generalizing value with
  | done =>
      cases value with
      | none => rfl
      | some value => cases gives
  | unknown isUnknown _ induction =>
      rw [Gives, given_cons_other (ne_of_unknown isUnknown isOwn)] at gives
      exact induction gives
  | @known _ _ record next _ other _ _ field isField _ hasRead _ induction =>
      by_cases isSame : other = name
      · subst isSame
        rw [Gives, given_cons_self] at gives
        cases value with
        | none => cases gives
        | some value =>
            obtain ⟨rfl, noMore⟩ := List.cons.inj gives
            obtain rfl : own = field := Option.some.inj (isOwn.symm.trans isField)
            have isSet := sets value record
            rw [hasRead] at isSet
            -- The rest gives nothing for the field, so it keeps the value that it has now.
            have isKept : view _ = view next := @induction none noMore
            exact isKept.trans (Option.some.inj isSet)
      · rw [Gives, given_cons_other isSame] at gives
        obtain ⟨isThere, isNamed⟩ := field?_eq_some isField
        rw [induction gives, keeps field isThere (isNamed ▸ isSame) _ record next hasRead]

end Views

/-! ## Whole objects -/

theorem ofText?_iff (spells : SpellsObject text members) :
    format.ofText? text = some final ↔ ∃ last, format.Reads [] format.initial members last final ∧
      (format.hasDefaults = true ∨ last.length = format.fields.length) := by
  obtain ⟨raws, spells, areMembers⟩ := spells
  simp only [ofText?, spells.ofText?_eq, Option.bind_some, ofTree?, ← readMembers_iff areMembers]
  constructor
  · intro isRead
    split at isRead
    case h_2 => cases isRead
    case h_1 last record reads =>
      split at isRead
      case isFalse => cases isRead
      case isTrue isWhole =>
        obtain rfl := Option.some.inj isRead
        rw [Bool.or_eq_true, decide_eq_true_iff] at isWhole
        exact ⟨last, reads, isWhole⟩
  · rintro ⟨last, reads, isWhole⟩
    rw [reads]
    simp [isWhole]

theorem ofText?_eq_none_of_twice (spells : SpellsObject text members)
    (isField : field ∈ format.fields) (isTwice : 2 ≤ (given members field.key).length) :
    format.ofText? text = none := by
  rw [Option.eq_none_iff_forall_ne_some]
  intro final isRead
  obtain ⟨last, reads, -⟩ := (ofText?_iff spells).mp isRead
  obtain ⟨found, isFound⟩ := exists_field? isField
  have isMet := reads.count_eq isFound
  have isOnce := List.nodup_iff_count_le_one.mp (reads.nodup List.nodup_nil) field.key
  rw [List.count_nil] at isMet
  omega

/-- A field that is missing is an error, unless the record has defaults. -/
theorem ofText?_eq_none_of_missing (spells : SpellsObject text members)
    (noDefaults : format.hasDefaults = false) (isField : field ∈ format.fields)
    (isMissing : given members field.key = []) : format.ofText? text = none := by
  rw [Option.eq_none_iff_forall_ne_some]
  intro final isRead
  obtain ⟨last, reads, isWhole⟩ := (ofText?_iff spells).mp isRead
  obtain ⟨found, isFound⟩ := exists_field? isField
  have notMet : field.key ∉ last := by
    rw [← List.count_eq_zero, reads.count_eq isFound, isMissing]
    rfl
  have areDistinct : (field.key :: last).Nodup :=
    List.nodup_cons.mpr ⟨notMet, reads.nodup List.nodup_nil⟩
  have areKeys : field.key :: last ⊆ format.fields.map Field.key :=
    List.cons_subset.mpr ⟨List.mem_map_of_mem isField, reads.subset (List.nil_subset _)⟩
  have isShorter := (List.subperm_of_subset areDistinct areKeys).length_le
  rw [List.length_cons, List.length_map] at isShorter
  rw [noDefaults] at isWhole
  rcases isWhole with isWhole | isWhole
  · cases isWhole
  · omega

def IsWhole (format : RecordFormat ρ) (members : List (String × Tree)) : Prop :=
  format.hasDefaults = true ∨ (format.fields.map Field.key).Nodup ∧
    ∀ field ∈ format.fields, given members field.key ≠ []

/-- The object is read, since no field is left out and none comes twice. -/
theorem exists_ofText? (spells : SpellsObject text members) (isWhole : format.IsWhole members)
    (fits : ∀ field ∈ format.fields, Fits [] members field) :
    ∃ last final, format.Reads [] format.initial members last final ∧
      format.ofText? text = some final := by
  obtain ⟨last, final, reads⟩ := exists_reads fits
  refine ⟨last, final, reads, (ofText?_iff spells).mpr ⟨last, reads, ?_⟩⟩
  refine isWhole.imp_right fun ⟨areDistinct, areGiven⟩ => ?_
  have areMet : format.fields.map Field.key ⊆ last := by
    intro name isKey
    obtain ⟨field, isField, rfl⟩ := List.mem_map.mp isKey
    obtain ⟨found, isFound⟩ := exists_field? isField
    have isGiven := List.length_pos_iff.mpr (areGiven field isField)
    rw [← List.count_pos_iff, reads.count_eq isFound]
    omega
  have noMore := (List.subperm_of_subset (reads.nodup List.nodup_nil)
    (reads.subset (List.nil_subset _))).length_le
  have noLess := (List.subperm_of_subset areDistinct areMet).length_le
  rw [List.length_map] at noMore noLess
  omega

end RecordFormat

/-! ## Values of the fields -/

def Tree.unsigned (value : UInt64) : Tree :=
  .number (numeralOf value.toNat)

def Tree.signed (value : Int64) : Tree :=
  .number (numeralOf value.toInt)

theorem uint64?_unsigned (value : UInt64) : (Tree.unsigned value).uint64? = some value := by
  have isLess := value.toNat_lt
  rw [Tree.uint64?, Tree.unsigned, integer?_numeralOf]
  simp only [Int.toNat_natCast, Nat.toUInt64_eq, UInt64.ofNat_toNat]
  rw [if_pos (by omega)]

theorem int64?_signed (value : Int64) : (Tree.signed value).int64? = some value := by
  have isLess := value.toInt_lt
  have noLess := value.le_toInt
  rw [Tree.int64?, Tree.signed, integer?_numeralOf]
  simp only [Int64.ofInt_toInt]
  rw [if_pos (by omega)]

theorem boolean?_boolean (value : Bool) : (Tree.boolean value).boolean? = some value :=
  rfl

/-! ## Printed objects -/

def scalar : Json → Tree
  | .boolean value => .boolean value
  | .integer value => .number (numeralOf value)
  | _ => .null

theorem spells_boolean (value : Bool) : Spells (print (.boolean value)) (.boolean value) := by
  cases value with
  | true => exact .yes
  | false => exact .no

theorem spells_integer (value : Int) :
    Spells (print (.integer value)) (.number (numeralOf value)) :=
  .number (isNumber_printInteger value)

theorem spellsObject_toText {members : List (String × Json)}
    (spells : ∀ member ∈ members, Spells (print member.2) (scalar member.2)) :
    SpellsObject (Json.object members).toText.toList
      (members.map fun member => (member.1, scalar member.2)) := by
  rw [toText, String.toList_ofList]
  refine ⟨_, spells_object spells, ?_⟩
  rw [AreMembers, List.forall₂_map_left_iff, List.forall₂_map_right_iff, List.forall₂_same]
  exact fun member _ => ⟨denotes_escaped member.1.toList, rfl⟩

end EmbeddedSql.Json

namespace EmbeddedSql

open Json

variable {text : List Char} {members : List (String × Tree)}

/-! ## The limits of a pool -/

namespace Scratch.PoolConfig

theorem fields_eq : format.fields =
    [.setting "max_retained" Tree.uint64? fun value config => { config with maxRetained := value },
      .setting "max_buffer_len" Tree.uint64? fun value config =>
        { config with maxBufferLength := value }] :=
  rfl

theorem views_maxRetained : format.Views "max_retained" maxRetained Tree.unsigned :=
  .of_setting rfl uint64?_unsigned (fun _ _ => rfl)
    (by simp [fields_eq])

theorem views_maxBufferLength :
    format.Views "max_buffer_len" maxBufferLength Tree.unsigned :=
  .of_setting rfl uint64?_unsigned (fun _ _ => rfl)
    (by simp [fields_eq])

theorem ofText?_eq {retained length : Option UInt64} (spells : SpellsObject text members)
    (givesRetained : Gives members "max_retained" Tree.unsigned retained)
    (givesLength : Gives members "max_buffer_len" Tree.unsigned length) :
    format.ofText? text = some ⟨retained.getD 16, length.getD 65536⟩ := by
  have fits : ∀ field ∈ format.fields, RecordFormat.Fits [] members field :=
    List.forall_mem_cons.mpr ⟨views_maxRetained.fits givesRetained rfl,
      List.forall_mem_singleton.mpr (views_maxBufferLength.fits givesLength rfl)⟩
  obtain ⟨last, config, reads, isRead⟩ := RecordFormat.exists_ofText? spells (.inl rfl) fits
  have isRetained : config.maxRetained = retained.getD 16 :=
    views_maxRetained.of_reads givesRetained reads
  have isLength : config.maxBufferLength = length.getD 65536 :=
    views_maxBufferLength.of_reads givesLength reads
  rw [isRead, ← isRetained, ← isLength]

theorem ofText?_toJson (config : PoolConfig) :
    format.ofText? config.toJson.toText.toList = some config := by
  have spells : SpellsObject config.toJson.toText.toList
      [("max_retained", .unsigned config.maxRetained),
        ("max_buffer_len", .unsigned config.maxBufferLength)] :=
    spellsObject_toText (List.forall_mem_cons.mpr ⟨spells_integer _,
      List.forall_mem_singleton.mpr (spells_integer _)⟩)
  exact @ofText?_eq _ _ (some config.maxRetained) (some config.maxBufferLength) spells rfl rfl

end Scratch.PoolConfig

/-! ## How a connection opens -/

namespace ConnectionConfig

theorem fields_eq : format.fields =
    [.setting "read_only" Tree.boolean? fun value config => { config with readOnly := value },
      .setting "create_if_missing" Tree.boolean? fun value config =>
        { config with createIfMissing := value },
      .setting "uri_filenames" Tree.boolean? fun value config =>
        { config with uriFilenames := value },
      .setting "lenient_step_status" Tree.boolean? fun value config =>
        { config with lenientStepStatus := value }] :=
  rfl

theorem views_readOnly : format.Views "read_only" readOnly Tree.boolean :=
  .of_setting rfl boolean?_boolean (fun _ _ => rfl)
    (by simp [fields_eq])

theorem views_createIfMissing : format.Views "create_if_missing" createIfMissing Tree.boolean :=
  .of_setting rfl boolean?_boolean (fun _ _ => rfl)
    (by simp [fields_eq])

theorem views_uriFilenames : format.Views "uri_filenames" uriFilenames Tree.boolean :=
  .of_setting rfl boolean?_boolean (fun _ _ => rfl)
    (by simp [fields_eq])

theorem views_lenientStepStatus :
    format.Views "lenient_step_status" lenientStepStatus Tree.boolean :=
  .of_setting rfl boolean?_boolean (fun _ _ => rfl)
    (by simp [fields_eq])

theorem ofText?_eq {readOnly create uri lenient : Option Bool} (spells : SpellsObject text members)
    (givesReadOnly : Gives members "read_only" Tree.boolean readOnly)
    (givesCreate : Gives members "create_if_missing" Tree.boolean create)
    (givesUri : Gives members "uri_filenames" Tree.boolean uri)
    (givesLenient : Gives members "lenient_step_status" Tree.boolean lenient) :
    format.ofText? text = some
      ⟨readOnly.getD false, create.getD true, uri.getD false, lenient.getD false⟩ := by
  have fits : ∀ field ∈ format.fields, RecordFormat.Fits [] members field :=
    List.forall_mem_cons.mpr ⟨views_readOnly.fits givesReadOnly rfl,
      List.forall_mem_cons.mpr ⟨views_createIfMissing.fits givesCreate rfl,
        List.forall_mem_cons.mpr ⟨views_uriFilenames.fits givesUri rfl,
          List.forall_mem_singleton.mpr (views_lenientStepStatus.fits givesLenient rfl)⟩⟩⟩
  obtain ⟨last, config, reads, isRead⟩ := RecordFormat.exists_ofText? spells (.inl rfl) fits
  have isReadOnly : config.readOnly = readOnly.getD false :=
    views_readOnly.of_reads givesReadOnly reads
  have isCreate : config.createIfMissing = create.getD true :=
    views_createIfMissing.of_reads givesCreate reads
  have isUri : config.uriFilenames = uri.getD false := views_uriFilenames.of_reads givesUri reads
  have isLenient : config.lenientStepStatus = lenient.getD false :=
    views_lenientStepStatus.of_reads givesLenient reads
  rw [isRead, ← isReadOnly, ← isCreate, ← isUri, ← isLenient]

theorem ofText?_toJson (config : ConnectionConfig) :
    format.ofText? config.toJson.toText.toList = some config := by
  have spells : SpellsObject config.toJson.toText.toList
      [("read_only", .boolean config.readOnly),
        ("create_if_missing", .boolean config.createIfMissing),
        ("uri_filenames", .boolean config.uriFilenames),
        ("lenient_step_status", .boolean config.lenientStepStatus)] :=
    spellsObject_toText (List.forall_mem_cons.mpr ⟨spells_boolean _,
      List.forall_mem_cons.mpr ⟨spells_boolean _, List.forall_mem_cons.mpr ⟨spells_boolean _,
        List.forall_mem_singleton.mpr (spells_boolean _)⟩⟩⟩)
  exact @ofText?_eq _ _ (some config.readOnly) (some config.createIfMissing)
    (some config.uriFilenames) (some config.lenientStepStatus) spells rfl rfl rfl rfl

end ConnectionConfig

/-! ## What a statement has written -/

namespace Query.WriteResult

theorem fields_eq : format.fields =
    [.setting "rows_affected" Tree.uint64? fun value result =>
        { result with rowsAffected := value },
      .setting "last_insert_id" Tree.int64? fun value result =>
        { result with lastInsertId := value }] :=
  rfl

theorem views_rowsAffected : format.Views "rows_affected" rowsAffected Tree.unsigned :=
  .of_setting rfl uint64?_unsigned (fun _ _ => rfl)
    (by simp [fields_eq])

theorem views_lastInsertId : format.Views "last_insert_id" lastInsertId Tree.signed :=
  .of_setting rfl int64?_signed (fun _ _ => rfl)
    (by simp [fields_eq])

theorem ofText?_eq {rows : UInt64} {id : Int64} (spells : SpellsObject text members)
    (givesRows : Gives members "rows_affected" Tree.unsigned (some rows))
    (givesId : Gives members "last_insert_id" Tree.signed (some id)) :
    format.ofText? text = some ⟨rows, id⟩ := by
  have fits : ∀ field ∈ format.fields, RecordFormat.Fits [] members field :=
    List.forall_mem_cons.mpr ⟨views_rowsAffected.fits givesRows rfl,
      List.forall_mem_singleton.mpr (views_lastInsertId.fits givesId rfl)⟩
  have areGiven : ∀ field ∈ format.fields, given members field.key ≠ [] :=
    List.forall_mem_cons.mpr ⟨givesRows ▸ List.cons_ne_nil _ _,
      List.forall_mem_singleton.mpr (givesId ▸ List.cons_ne_nil _ _)⟩
  obtain ⟨last, result, reads, isRead⟩ :=
    RecordFormat.exists_ofText? spells (.inr ⟨by decide, areGiven⟩) fits
  have isRows : result.rowsAffected = rows := views_rowsAffected.of_reads givesRows reads
  have isId : result.lastInsertId = id := views_lastInsertId.of_reads givesId reads
  rw [isRead, ← isRows, ← isId]

theorem ofText?_toJson (result : WriteResult) :
    format.ofText? result.toJson.toText.toList = some result := by
  have spells : SpellsObject result.toJson.toText.toList
      [("rows_affected", .unsigned result.rowsAffected),
        ("last_insert_id", .signed result.lastInsertId)] :=
    spellsObject_toText (List.forall_mem_cons.mpr ⟨spells_integer _,
      List.forall_mem_singleton.mpr (spells_integer _)⟩)
  exact ofText?_eq spells rfl rfl

end Query.WriteResult

/-! ## Records and their texts -/

namespace Json

/-- A record is read back from the text it is printed as. From the text of any object, it has the
values that are given under the names of its fields; those of a configuration may be missing, none
may be given twice. -/
theorem records_read_by_name :
    (∀ config : Scratch.PoolConfig,
      Scratch.PoolConfig.format.ofText? config.toJson.toText.toList = some config) ∧
    (∀ config : ConnectionConfig,
      ConnectionConfig.format.ofText? config.toJson.toText.toList = some config) ∧
    (∀ result : Query.WriteResult,
      Query.WriteResult.format.ofText? result.toJson.toText.toList = some result) ∧
    ∀ (text : List Char) (members : List (String × Tree)), SpellsObject text members →
      (∀ retained length : Option UInt64, Gives members "max_retained" Tree.unsigned retained →
        Gives members "max_buffer_len" Tree.unsigned length →
          Scratch.PoolConfig.format.ofText? text =
            some ⟨retained.getD 16, length.getD 65536⟩) ∧
      (∀ readOnly create uri lenient : Option Bool,
        Gives members "read_only" Tree.boolean readOnly →
          Gives members "create_if_missing" Tree.boolean create →
            Gives members "uri_filenames" Tree.boolean uri →
              Gives members "lenient_step_status" Tree.boolean lenient →
                ConnectionConfig.format.ofText? text = some
                  ⟨readOnly.getD false, create.getD true, uri.getD false, lenient.getD false⟩) ∧
      (∀ (rows : UInt64) (id : Int64),
        Gives members "rows_affected" Tree.unsigned (some rows) →
          Gives members "last_insert_id" Tree.signed (some id) →
            Query.WriteResult.format.ofText? text = some ⟨rows, id⟩) ∧
      (∀ field ∈ Query.WriteResult.format.fields, given members field.key = [] →
        Query.WriteResult.format.ofText? text = none) ∧
      (∀ field ∈ Scratch.PoolConfig.format.fields, 2 ≤ (given members field.key).length →
        Scratch.PoolConfig.format.ofText? text = none) ∧
      (∀ field ∈ ConnectionConfig.format.fields, 2 ≤ (given members field.key).length →
        ConnectionConfig.format.ofText? text = none) ∧
      (∀ field ∈ Query.WriteResult.format.fields, 2 ≤ (given members field.key).length →
        Query.WriteResult.format.ofText? text = none) := by
  refine ⟨Scratch.PoolConfig.ofText?_toJson, ConnectionConfig.ofText?_toJson,
    Query.WriteResult.ofText?_toJson, fun text members spells => ⟨?pool, ?connection, ?written,
      ?missing, ?poolTwice, ?connectionTwice, ?writtenTwice⟩⟩
  case pool =>
    intro retained length givesRetained givesLength
    exact Scratch.PoolConfig.ofText?_eq spells givesRetained givesLength
  case connection =>
    intro readOnly create uri lenient givesReadOnly givesCreate givesUri givesLenient
    exact ConnectionConfig.ofText?_eq spells givesReadOnly givesCreate givesUri givesLenient
  case written =>
    intro rows id givesRows givesId
    exact Query.WriteResult.ofText?_eq spells givesRows givesId
  case missing =>
    intro field isField isMissing
    exact RecordFormat.ofText?_eq_none_of_missing spells rfl isField isMissing
  case poolTwice =>
    intro field isField isTwice
    exact RecordFormat.ofText?_eq_none_of_twice spells isField isTwice
  case connectionTwice =>
    intro field isField isTwice
    exact RecordFormat.ofText?_eq_none_of_twice spells isField isTwice
  case writtenTwice =>
    intro field isField isTwice
    exact RecordFormat.ofText?_eq_none_of_twice spells isField isTwice

/-- Members that are out of order, with blanks, an escaped name, and a value that no record has. -/
def scattered : List Char :=
  (" \x7B \"last_insert_id\" :-9223372036854775808, \"note\": [\"\\ud800\" ]," ++
    "\"\\u0072ead_only\":true , \"rows_affected\":18446744073709551615 \x7D").toList

/-- The value that no record has. Its string escapes half of a pair. -/
def note : Tree :=
  .array [.string "\\ud800".toList]

def scatteredMembers : List (String × Tree) :=
  [("last_insert_id", .signed (-9223372036854775808)), ("note", note),
    ("read_only", .boolean true), ("rows_affected", .unsigned 18446744073709551615)]

def scatteredEntries : List Entry :=
  [⟨[], "last_insert_id".toList, [' '], "-9223372036854775808".toList,
      .signed (-9223372036854775808)⟩,
    ⟨[' '], "note".toList, [], " [\"\\ud800\" ]".toList, note⟩,
    ⟨[], "\\u0072ead_only".toList, [], "true ".toList, .boolean true⟩,
    ⟨[' '], "rows_affected".toList, [], "18446744073709551615 ".toList,
      .unsigned 18446744073709551615⟩]

theorem areBlank_space : AreBlank [' '] :=
  List.forall_mem_singleton.mpr rfl

theorem spells_note : Spells " [\"\\ud800\" ]".toList note := by
  have escapesHalf : Tree.EscapesUnit 0xD800 ['\\', 'u', 'd', '8', '0', '0'] :=
    .intro ⟨by decide, by decide⟩ ⟨by decide, by decide⟩ ⟨by decide, by decide⟩
      ⟨by decide, by decide⟩
  have isHalf : IsQuotable "\\ud800".toList := .unit escapesHalf .nil
  exact .padded areBlank_space areBlank_nil (@Spells.array [(_, _)] [] areBlank_nil
    (List.forall_mem_singleton.mpr (.padded areBlank_nil areBlank_space (.string isHalf))))

theorem spells_least : Spells "-9223372036854775808".toList (.signed (-9223372036854775808)) := by
  have isText : "-9223372036854775808".toList =
      print (.integer (-9223372036854775808 : Int64).toInt) := by
    decide +kernel
  rw [isText]
  exact spells_integer _

theorem spells_scattered : SpellsObject scattered scatteredMembers := by
  have isId := denotes_escaped "last_insert_id".toList
  have isNote := denotes_escaped "note".toList
  have isReadOnly : Denotes "\\u0072ead_only".toList "read_only".toList :=
    .unit (.intro ⟨by decide, by decide⟩ ⟨by decide, by decide⟩ ⟨by decide, by decide⟩
      ⟨by decide, by decide⟩) (denotes_escaped "ead_only".toList)
  have areRows := denotes_escaped "rows_affected".toList
  have named : ∀ entry ∈ scatteredEntries, entry.IsNamed :=
    List.forall_mem_cons.mpr ⟨⟨areBlank_nil, isId.isQuotable, areBlank_space⟩,
      List.forall_mem_cons.mpr ⟨⟨areBlank_space, isNote.isQuotable, areBlank_nil⟩,
        List.forall_mem_cons.mpr ⟨⟨areBlank_nil, isReadOnly.isQuotable, areBlank_nil⟩,
          List.forall_mem_singleton.mpr ⟨areBlank_space, areRows.isQuotable, areBlank_nil⟩⟩⟩⟩
  have spellEach : ∀ entry ∈ scatteredEntries, Spells entry.text entry.tree :=
    List.forall_mem_cons.mpr ⟨spells_least,
      List.forall_mem_cons.mpr ⟨spells_note,
        List.forall_mem_cons.mpr ⟨.padded areBlank_nil areBlank_space .yes,
          List.forall_mem_singleton.mpr
            (.padded areBlank_nil areBlank_space (spells_integer 18446744073709551615))⟩⟩⟩
  have spells := Spells.padded areBlank_space areBlank_nil
    (Spells.object areBlank_space named spellEach)
  have isText : scattered = [' '] ++ '\x7B' :: ([' '] ++
      separated (scatteredEntries.map Entry.written) ++ ['\x7D']) ++ [] := by
    decide +kernel
  rw [← isText] at spells
  exact ⟨_, spells, .cons ⟨isId, rfl⟩ (.cons ⟨isNote, rfl⟩ (.cons ⟨isReadOnly, rfl⟩
    (.cons ⟨areRows, rfl⟩ .nil)))⟩

def repeated : List Char :=
  "\x7B\"max_retained\":1,\"max_retained\":2\x7D".toList

theorem spells_repeated :
    SpellsObject repeated [("max_retained", .unsigned 1), ("max_retained", .unsigned 2)] :=
  @spellsObject_toText [("max_retained", .integer 1), ("max_retained", .integer 2)]
    (List.forall_mem_cons.mpr ⟨spells_integer 1, List.forall_mem_singleton.mpr (spells_integer 2)⟩)

theorem records_read_by_name_scattered :
    Scratch.PoolConfig.format.ofText? scattered = some ⟨16, 65536⟩ ∧
    ConnectionConfig.format.ofText? scattered = some ⟨true, true, false, false⟩ ∧
    Query.WriteResult.format.ofText? scattered =
      some ⟨18446744073709551615, -9223372036854775808⟩ ∧
    Scratch.PoolConfig.format.ofText? repeated = none ∧
    Query.WriteResult.format.ofText? repeated = none := by
  obtain ⟨pool, connection, written, -⟩ :=
    records_read_by_name.2.2.2 scattered scatteredMembers spells_scattered
  obtain ⟨-, -, -, missing, twice, -⟩ :=
    records_read_by_name.2.2.2 repeated _ spells_repeated
  exact ⟨pool none none rfl rfl, connection (some true) none none none rfl rfl rfl rfl,
    written _ _ rfl rfl, twice _ (.head _) (by decide), missing _ (.head _) rfl⟩

end Json

end EmbeddedSql
