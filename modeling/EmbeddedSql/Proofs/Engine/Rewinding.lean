import EmbeddedSql.Proofs.Engine.Custody

/-! Statements are let be by requests that are about others, and a statement that is reset
takes values and reports no failure. -/

namespace EmbeddedSql

variable {σ : Type} {engine : Engine σ}

/-! ## Requests about other statements -/

/-- What statements in use keep as long as nothing is asked of themselves. -/
structure Custody.Spares (custody : Custody engine) (Keeps : σ → StatementHandle → Prop) :
    Prop where
  openDatabase : ∀ {state path mode statement}, custody.Valid state →
    (custody.handles state).InUse statement → Keeps state statement →
      Keeps (engine.openDatabase path mode state).2 statement
  closeDatabase : ∀ {state database statement}, custody.Valid state →
    (custody.handles state).isOpen database = true → (custody.handles state).IsIdle database →
      (custody.handles state).InUse statement → Keeps state statement →
        Keeps (engine.closeDatabase database state).2 statement
  prepare : ∀ {state database sql statement}, custody.Valid state →
    (custody.handles state).isOpen database = true →
      (custody.handles state).InUse statement → Keeps state statement →
        Keeps (engine.prepare database sql state).2 statement
  step : ∀ {state other statement}, custody.Valid state → (custody.handles state).InUse other →
    (custody.handles state).InUse statement → statement ≠ other → Keeps state statement →
      Keeps (engine.step other state).2 statement
  reset : ∀ {state other statement}, custody.Valid state → (custody.handles state).InUse other →
    (custody.handles state).InUse statement → statement ≠ other → Keeps state statement →
      Keeps (engine.reset other state).2 statement
  finalize : ∀ {state other statement}, custody.Valid state →
    (custody.handles state).InUse other → (custody.handles state).InUse statement →
      statement ≠ other → Keeps state statement → Keeps (engine.finalize other state).2 statement
  bind : ∀ {state other index argument statement}, custody.Valid state →
    (custody.handles state).InUse other → (custody.handles state).InUse statement →
      statement ≠ other → Keeps state statement →
        Keeps (engine.bind other index argument state).2 statement
  clearBindings : ∀ {state other statement}, custody.Valid state →
    (custody.handles state).InUse other → (custody.handles state).InUse statement →
      statement ≠ other → Keeps state statement →
        Keeps (engine.clearBindings other state).2 statement

namespace Custody.Spares

variable {custody : Custody engine} {Keeps : σ → StatementHandle → Prop}
  (spares : custody.Spares Keeps)
include spares

theorem congr {Other : σ → StatementHandle → Prop}
    (same : ∀ {state statement}, custody.Valid state → (custody.handles state).InUse statement →
      Other state statement → Keeps state statement)
    (back : ∀ {state statement}, Keeps state statement → Other state statement) :
    custody.Spares Other where
  openDatabase valid inUse keeps := back (spares.openDatabase valid inUse (same valid inUse keeps))
  closeDatabase valid isOpen isIdle inUse keeps :=
    back (spares.closeDatabase valid isOpen isIdle inUse (same valid inUse keeps))
  prepare valid isOpen inUse keeps :=
    back (spares.prepare valid isOpen inUse (same valid inUse keeps))
  step valid isUsed inUse isOther keeps :=
    back (spares.step valid isUsed inUse isOther (same valid inUse keeps))
  reset valid isUsed inUse isOther keeps :=
    back (spares.reset valid isUsed inUse isOther (same valid inUse keeps))
  finalize valid isUsed inUse isOther keeps :=
    back (spares.finalize valid isUsed inUse isOther (same valid inUse keeps))
  bind valid isUsed inUse isOther keeps :=
    back (spares.bind valid isUsed inUse isOther (same valid inUse keeps))
  clearBindings valid isUsed inUse isOther keeps :=
    back (spares.clearBindings valid isUsed inUse isOther (same valid inUse keeps))

theorem within {Holds : σ → Prop} (keeps : custody.Keeps Holds) :
    (custody.within keeps).Spares Keeps where
  openDatabase valid := spares.openDatabase valid.1
  closeDatabase valid := spares.closeDatabase valid.1
  prepare valid := spares.prepare valid.1
  step valid := spares.step valid.1
  reset valid := spares.reset valid.1
  finalize valid := spares.finalize valid.1
  bind valid := spares.bind valid.1
  clearBindings valid := spares.clearBindings valid.1

end Custody.Spares

/-- What statements keep even when they are used, as long as they are not finalized. -/
structure Custody.Endures (custody : Custody engine) (Keeps : σ → StatementHandle → Prop) :
    Prop where
  step : ∀ {state statement}, custody.Valid state → (custody.handles state).InUse statement →
    Keeps state statement → Keeps (engine.step statement state).2 statement
  reset : ∀ {state statement}, custody.Valid state → (custody.handles state).InUse statement →
    Keeps state statement → Keeps (engine.reset statement state).2 statement
  bind : ∀ {state index argument statement}, custody.Valid state →
    (custody.handles state).InUse statement → Keeps state statement →
      Keeps (engine.bind statement index argument state).2 statement
  clearBindings : ∀ {state statement}, custody.Valid state →
    (custody.handles state).InUse statement → Keeps state statement →
      Keeps (engine.clearBindings statement state).2 statement

structure Watch (custody : Custody engine) where
  Keeps : σ → StatementHandle → Prop
  spares : custody.Spares Keeps
  watched : StatementHandle → Prop

namespace Watch

variable {custody : Custody engine} (watch : Watch custody)

structure Guards (state : σ) : Prop where
  valid : custody.Valid state
  areInUse : ∀ {statement}, watch.watched statement → (custody.handles state).InUse statement
  areKept : ∀ {statement}, watch.watched statement → watch.Keeps state statement

namespace Guards

variable {watch} {state : σ} (guards : watch.Guards state)
include guards

omit guards in
theorem ofShows {after : σ} {handles : Handles} (shows : custody.Shows after handles)
    (inUse : ∀ {statement}, watch.watched statement → handles.InUse statement)
    (keeps : ∀ {statement}, watch.watched statement → watch.Keeps after statement) :
    watch.Guards after where
  valid := shows.1
  areInUse isWatched := shows.2 ▸ inUse isWatched
  areKept := keeps

theorem openDatabase (path : Bytes) (mode : OpenMode) :
    watch.Guards (engine.openDatabase path mode state).2 := by
  have keeps {statement : StatementHandle} (isWatched : watch.watched statement) :
      watch.Keeps (engine.openDatabase path mode state).2 statement :=
    watch.spares.openDatabase guards.valid (guards.areInUse isWatched) (guards.areKept isWatched)
  cases isOpened : (engine.openDatabase path mode state).1.1 with
  | none => exact ofShows (custody.unopened guards.valid isOpened) guards.areInUse keeps
  | some database =>
      refine ofShows (custody.opened guards.valid isOpened).2 (fun isWatched => ?_) keeps
      obtain ⟨owner, isOwner, isOpen⟩ := guards.areInUse isWatched
      refine ⟨owner, isOwner, ?_⟩
      by_cases isNew : owner = database
      · rw [isNew, Handles.opening_isOpen_self]
      · simpa [Handles.opening, isNew] using isOpen

theorem closeDatabase {database : DatabaseHandle}
    (isOpen : (custody.handles state).isOpen database = true)
    (isIdle : (custody.handles state).IsIdle database) :
    watch.Guards (engine.closeDatabase database state).2 := by
  refine ofShows (custody.closed guards.valid isOpen isIdle) (fun {statement} isWatched => ?_)
    fun isWatched => watch.spares.closeDatabase guards.valid isOpen isIdle
      (guards.areInUse isWatched) (guards.areKept isWatched)
  obtain ⟨owner, isOwner, ownerIsOpen⟩ := guards.areInUse isWatched
  have isOther : owner ≠ database := by
    rintro rfl
    exact isIdle statement isOwner
  exact ⟨owner, isOwner, by simpa [Handles.closing, isOther] using ownerIsOpen⟩

theorem prepare {database : DatabaseHandle}
    (isOpen : (custody.handles state).isOpen database = true) (sql : Text) :
    watch.Guards (engine.prepare database sql state).2 := by
  have keeps {statement : StatementHandle} (isWatched : watch.watched statement) :
      watch.Keeps (engine.prepare database sql state).2 statement :=
    watch.spares.prepare guards.valid isOpen (guards.areInUse isWatched) (guards.areKept isWatched)
  cases isPrepared : (engine.prepare database sql state).1.2 with
  | none =>
      exact ofShows (custody.unprepared guards.valid isOpen isPrepared) guards.areInUse keeps
  | some made =>
      obtain ⟨-, isFree, shows⟩ := custody.prepared guards.valid isOpen isPrepared
      refine ofShows shows (fun {statement} isWatched => ?_) keeps
      obtain ⟨owner, isOwner, ownerIsOpen⟩ := guards.areInUse isWatched
      have isOther : statement ≠ made := by
        rintro rfl
        cases isFree.symm.trans isOwner
      exact ⟨owner, by simpa [Handles.preparing, isOther] using isOwner, ownerIsOpen⟩

variable {other : StatementHandle} (inUse : (custody.handles state).InUse other)

section
variable (mayUse : watch.watched other → custody.Endures watch.Keeps)
include inUse mayUse

theorem step : watch.Guards (engine.step other state).2 := by
  refine ofShows (custody.stepped guards.valid inUse) guards.areInUse fun {statement} isWatched => ?_
  by_cases isUsed : statement = other
  · subst isUsed
    exact (mayUse isWatched).step guards.valid inUse (guards.areKept isWatched)
  · exact watch.spares.step guards.valid inUse (guards.areInUse isWatched) isUsed
      (guards.areKept isWatched)

theorem reset : watch.Guards (engine.reset other state).2 := by
  refine ofShows (custody.reset guards.valid inUse) guards.areInUse fun {statement} isWatched => ?_
  by_cases isUsed : statement = other
  · subst isUsed
    exact (mayUse isWatched).reset guards.valid inUse (guards.areKept isWatched)
  · exact watch.spares.reset guards.valid inUse (guards.areInUse isWatched) isUsed
      (guards.areKept isWatched)

theorem bind (index : Int) (argument : Argument) :
    watch.Guards (engine.bind other index argument state).2 := by
  refine ofShows (custody.bound guards.valid inUse) guards.areInUse fun {statement} isWatched => ?_
  by_cases isUsed : statement = other
  · subst isUsed
    exact (mayUse isWatched).bind guards.valid inUse (guards.areKept isWatched)
  · exact watch.spares.bind guards.valid inUse (guards.areInUse isWatched) isUsed
      (guards.areKept isWatched)

theorem clearBindings : watch.Guards (engine.clearBindings other state).2 := by
  refine ofShows (custody.cleared guards.valid inUse) guards.areInUse fun {statement} isWatched => ?_
  by_cases isUsed : statement = other
  · subst isUsed
    exact (mayUse isWatched).clearBindings guards.valid inUse (guards.areKept isWatched)
  · exact watch.spares.clearBindings guards.valid inUse (guards.areInUse isWatched) isUsed
      (guards.areKept isWatched)

end

theorem finalize (inUse : (custody.handles state).InUse other)
    (isUnwatched : ¬watch.watched other) : watch.Guards (engine.finalize other state).2 := by
  have isOther {statement : StatementHandle} (isWatched : watch.watched statement) :
      statement ≠ other := by
    rintro rfl
    exact isUnwatched isWatched
  refine ofShows (custody.finalized guards.valid inUse) (fun isWatched => ?_) fun isWatched =>
    watch.spares.finalize guards.valid inUse (guards.areInUse isWatched) (isOther isWatched)
      (guards.areKept isWatched)
  obtain ⟨owner, isOwner, isOpen⟩ := guards.areInUse isWatched
  exact ⟨owner, by simpa [Handles.finalizing, isOther isWatched] using isOwner, isOpen⟩

end Guards

end Watch

/-! ## Rewinding -/

/-- A statement is reset until its first step and after it has been reset. While it is not,
it takes no values, and its end reports how its last step failed. -/
structure Rewinding {σ : Type} (engine : Engine σ) extends Custody engine where
  IsReset : σ → StatementHandle → Prop
  spares : toCustody.Spares IsReset
  prepared_isReset : ∀ {state database sql statement}, Valid state →
    (handles state).isOpen database = true →
      (engine.prepare database sql state).1.2 = some statement →
        IsReset (engine.prepare database sql state).2 statement
  stepped_isNotReset : ∀ {state statement}, Valid state → (handles state).InUse statement →
    ¬IsReset (engine.step statement state).2 statement
  reset_isReset : ∀ {state statement}, Valid state → (handles state).InUse statement →
    IsReset (engine.reset statement state).2 statement
  bound_isReset : ∀ {state statement index argument}, Valid state →
    (handles state).InUse statement → IsReset state statement →
      IsReset (engine.bind statement index argument state).2 statement
  cleared_isReset : ∀ {state statement}, Valid state → (handles state).InUse statement →
    IsReset state statement → IsReset (engine.clearBindings statement state).2 statement
  bound_misuse : ∀ {state statement argument} {index : Int}, Valid state →
    (handles state).InUse statement → 1 ≤ index →
      index ≤ engine.parameterCount statement state →
        ((engine.bind statement index argument state).1 = Status.misuse ↔
          ¬IsReset state statement)
  finalized_ok : ∀ {state statement}, Valid state → (handles state).InUse statement →
    IsReset state statement → (engine.finalize statement state).1 = Status.ok

def Rewinding.within (laws : Rewinding engine) {Holds : σ → Prop}
    (keeps : laws.toCustody.Keeps Holds) : Rewinding engine where
  toCustody := laws.toCustody.within keeps
  IsReset := laws.IsReset
  spares := laws.spares.within keeps
  prepared_isReset valid := laws.prepared_isReset valid.1
  stepped_isNotReset valid := laws.stepped_isNotReset valid.1
  reset_isReset valid := laws.reset_isReset valid.1
  bound_isReset valid := laws.bound_isReset valid.1
  cleared_isReset valid := laws.cleared_isReset valid.1
  bound_misuse valid := laws.bound_misuse valid.1
  finalized_ok valid := laws.finalized_ok valid.1

/-- A statement that is reset first is finalized to the same end. -/
structure Releasing {σ : Type} (engine : Engine σ) extends Rewinding engine where
  finalized_reset : ∀ {state statement}, Valid state → (handles state).InUse statement →
    (engine.finalize statement (engine.reset statement state).2).2 =
      (engine.finalize statement state).2

def Watch.nothing (laws : Rewinding engine) : Watch laws.toCustody :=
  ⟨laws.IsReset, laws.spares, fun _ => False⟩

theorem Watch.Guards.nothing {laws : Rewinding engine} {state : σ} (valid : laws.Valid state) :
    (Watch.nothing laws).Guards state :=
  ⟨valid, False.elim, False.elim⟩

end EmbeddedSql
