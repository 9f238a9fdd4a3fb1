import EmbeddedSql.Proofs.Engine.Custody

/-! Private databases. Two of them that were opened in different states go together as long
as the same is asked of both, whatever is asked of others in the meantime. -/

namespace EmbeddedSql

/-- A database in one state and its counterpart in another one, with the statements that go
together. -/
structure Counterparts where
  database : DatabaseHandle
  image : DatabaseHandle
  statements : List (StatementHandle × StatementHandle) := []

namespace Counterparts

def adding (parts : Counterparts) (statement image : StatementHandle) : Counterparts :=
  { parts with statements := (statement, image) :: parts.statements }

def removing (parts : Counterparts) (statement image : StatementHandle) : Counterparts :=
  { parts with statements := parts.statements.filter (· ≠ (statement, image)) }

variable {parts : Counterparts} {statement image other otherImage : StatementHandle}

theorem mem_adding_self : (statement, image) ∈ (parts.adding statement image).statements :=
  List.mem_cons_self

theorem mem_adding (isThere : (other, otherImage) ∈ parts.statements) :
    (other, otherImage) ∈ (parts.adding statement image).statements :=
  List.mem_cons_of_mem _ isThere

theorem mem_removing (isThere : (other, otherImage) ∈ parts.statements)
    (isOther : other ≠ statement) :
    (other, otherImage) ∈ (parts.removing statement image).statements :=
  List.mem_filter.mpr ⟨isThere, by simp [isOther]⟩

theorem removing_adding (isNew : (statement, image) ∉ parts.statements) :
    (parts.adding statement image).removing statement image = parts := by
  have stays : parts.statements.filter (· ≠ (statement, image)) = parts.statements := by
    refine List.filter_eq_self.mpr fun pair isThere => decide_eq_true ?_
    rintro rfl
    exact isNew isThere
  rw [removing, adding, List.filter_cons_of_neg (by simp), stays]

end Counterparts

/-! ## Requests -/

section
variable {σ : Type} (engine : Engine σ)

inductive Engine.Asks : (StatementHandle → StateM σ Int) → Prop
  | step : Asks engine.step
  | reset : Asks engine.reset
  | bind (index : Int) (argument : Argument) : Asks (engine.bind · index argument)
  | clearBindings : Asks engine.clearBindings

/-- What can be asked of an open database and of its statements. -/
inductive Engine.Reaches (handles : Handles) (database : DatabaseHandle) (state : σ) : σ → Prop
  | close : handles.isOpen database = true →
      Reaches handles database state (engine.closeDatabase database state).2
  | prepare (sql : Text) : handles.isOpen database = true →
      Reaches handles database state (engine.prepare database sql state).2
  | ask {action : StatementHandle → StateM σ Int} {statement : StatementHandle} :
      engine.Asks action → handles.owner? statement = some database →
        Reaches handles database state (action statement state).2
  | finalize {statement : StatementHandle} : handles.owner? statement = some database →
      Reaches handles database state (engine.finalize statement state).2

end

/-! ## What an engine promises about private databases -/

def memoryPath : Bytes :=
  Utf8.ofString ":memory:"

/-- Assumed of SQLite: databases that are only in memory are independent of each other and of
everything else, the time of day and random numbers included. -/
structure Isolation {σ : Type} (engine : Engine σ) extends Custody engine where
  /-- The two databases cannot be told apart. -/
  Alike : Counterparts → σ → σ → Prop

  -- The same is asked of both

  alike_opened : ∀ {state image} (mode : OpenMode), Valid state → Valid image →
    let first := engine.openDatabase memoryPath mode state
    let second := engine.openDatabase memoryPath mode image
    second.1.2 = first.1.2 ∧
      (first.1.1 = none ∧ second.1.1 = none ∨
        ∃ database other, first.1.1 = some database ∧ second.1.1 = some other ∧
          engine.errorMessage other second.2 = engine.errorMessage database first.2 ∧
            (first.1.2 = Status.ok → Alike { database, image := other } first.2 second.2))
  alike_prepared : ∀ {parts state image} (sql : Text), Alike parts state image →
      let first := engine.prepare parts.database sql state
      let second := engine.prepare parts.image sql image
      second.1.1 = first.1.1 ∧
        (first.1.2 = none ∧ second.1.2 = none ∧ Alike parts first.2 second.2 ∨
          first.1.1 = Status.ok ∧
            ∃ statement other, first.1.2 = some statement ∧ second.1.2 = some other ∧
              (statement, other) ∉ parts.statements ∧
                Alike (parts.adding statement other) first.2 second.2)
  alike_asked : ∀ {parts state image action statement other}, engine.Asks action →
    Alike parts state image → (statement, other) ∈ parts.statements →
      Agree (Alike parts) (action statement state) (action other image)
  alike_finalized : ∀ {parts state image statement other}, Alike parts state image →
    (statement, other) ∈ parts.statements →
      Agree (Alike (parts.removing statement other)) (engine.finalize statement state)
        (engine.finalize other image)

  -- What is seen of both

  alike_statements : ∀ {parts state image}, Alike parts state image →
    (engine.statements parts.database state).Perm (parts.statements.map Prod.fst) ∧
      (engine.statements parts.image image).Perm (parts.statements.map Prod.snd)
  alike_errorMessage : ∀ {parts state image}, Alike parts state image →
    engine.errorMessage parts.image image = engine.errorMessage parts.database state
  alike_changes : ∀ {parts state image}, Alike parts state image →
    engine.changes parts.image image = engine.changes parts.database state
  alike_lastInsertRowid : ∀ {parts state image}, Alike parts state image →
    engine.lastInsertRowid parts.image image = engine.lastInsertRowid parts.database state
  alike_sqlText : ∀ {parts state image statement other}, Alike parts state image →
    (statement, other) ∈ parts.statements →
      engine.sqlText other image = engine.sqlText statement state
  alike_parameterCount : ∀ {parts state image statement other}, Alike parts state image →
    (statement, other) ∈ parts.statements →
      engine.parameterCount other image = engine.parameterCount statement state
  alike_parameterIndex : ∀ {parts state image statement other} (name : Bytes),
    Alike parts state image → (statement, other) ∈ parts.statements →
      engine.parameterIndex other name image = engine.parameterIndex statement name state
  alike_parameterName? : ∀ {parts state image statement other} (index : Int),
    Alike parts state image → (statement, other) ∈ parts.statements →
      engine.parameterName? other index image = engine.parameterName? statement index state
  alike_columnNames : ∀ {parts state image statement other}, Alike parts state image →
    (statement, other) ∈ parts.statements →
      engine.columnNames other image = engine.columnNames statement state
  alike_row : ∀ {parts state image statement other}, Alike parts state image →
    (statement, other) ∈ parts.statements →
      engine.row other image = engine.row statement state

  -- Something is asked of others in the first state

  apart_opened : ∀ {parts state image} (path : Bytes) (mode : OpenMode), Valid state →
    Alike parts state image → Alike parts (engine.openDatabase path mode state).2 image
  apart : ∀ {parts state image database after}, Valid state → Alike parts state image →
    engine.Reaches (handles state) database state after → database ≠ parts.database →
      Alike parts after image

def Isolation.OpensMemory {σ : Type} {engine : Engine σ} (laws : Isolation engine) : Prop :=
  ∀ {mode : OpenMode} {state : σ}, laws.Valid state →
    ∃ database, (engine.openDatabase memoryPath mode state).1 = (some database, Status.ok)

end EmbeddedSql

/-! ## A database that others do not use -/

namespace EmbeddedSql

namespace Handles

def concealing (handles : Handles) (database : DatabaseHandle) : Handles :=
  (handles.sweeping database).closing database

variable {handles : Handles} {database other : DatabaseHandle} {statement : StatementHandle}

theorem concealing_isOpen :
    (handles.concealing database).isOpen other = true ↔
      other ≠ database ∧ handles.isOpen other = true := by
  by_cases isHidden : other = database
  · simp [concealing, closing, isHidden]
  · simp [concealing, closing, isHidden]

theorem concealing_owner? :
    (handles.concealing database).owner? statement = some other ↔
      other ≠ database ∧ handles.owner? statement = some other := by
  dsimp only [concealing, closing, sweeping]
  split
  · rename_i isHidden
    simp only [isHidden, Option.some.injEq, reduceCtorEq, false_iff, not_and]
    exact fun isOther isSame => isOther isSame.symm
  · rename_i isSeen
    refine ⟨fun isOwner => ⟨?_, isOwner⟩, And.right⟩
    rintro rfl
    exact isSeen isOwner

theorem concealing_opening (isOther : other ≠ database) :
    (handles.opening other).concealing database = (handles.concealing database).opening other := by
  refine Handles.ext ?_ rfl
  exact (Function.update_comm isOther.symm ..).symm

theorem concealing_closing (isOther : other ≠ database) :
    (handles.closing other).concealing database = (handles.concealing database).closing other := by
  refine Handles.ext ?_ rfl
  exact (Function.update_comm isOther.symm ..).symm

theorem concealing_preparing (isOther : other ≠ database) :
    (handles.preparing statement other).concealing database =
      (handles.concealing database).preparing statement other := by
  refine Handles.ext rfl (funext fun found => ?_)
  by_cases isIt : found = statement
  · simp [concealing, closing, sweeping, preparing, isIt, isOther]
  · simp [concealing, closing, sweeping, preparing, isIt]

theorem concealing_finalizing :
    (handles.finalizing statement).concealing database =
      (handles.concealing database).finalizing statement := by
  refine Handles.ext rfl (funext fun found => ?_)
  by_cases isIt : found = statement
  · simp [concealing, closing, sweeping, finalizing, isIt]
  · simp [concealing, closing, sweeping, finalizing, isIt]

theorem IsIdle.of_concealing (isIdle : (handles.concealing database).IsIdle other)
    (isOther : other ≠ database) : handles.IsIdle other :=
  fun statement isOwner => isIdle statement (concealing_owner?.mpr ⟨isOther, isOwner⟩)

theorem InUse.of_concealing (inUse : (handles.concealing database).InUse statement) :
    ∃ owner, owner ≠ database ∧ handles.owner? statement = some owner ∧
      handles.isOpen owner = true := by
  obtain ⟨owner, isOwner, isOpen⟩ := inUse
  obtain ⟨isOther, isOwner⟩ := concealing_owner?.mp isOwner
  exact ⟨owner, isOther, isOwner, (concealing_isOpen.mp isOpen).2⟩

end Handles

namespace Isolation

variable {σ : Type} {engine : Engine σ} (laws : Isolation engine)

/-- The database is open, and goes together with its counterpart. -/
structure Hides (parts : Counterparts) (image state : σ) : Prop where
  valid : laws.Valid state
  isOpen : (laws.handles state).isOpen parts.database = true
  alike : laws.Alike parts state image

variable {laws} {parts : Counterparts} {image state after : σ}

theorem Hides.ofShows {handles : Handles} (hides : laws.Hides parts image state)
    (shows : laws.Shows after handles)
    (staysOpen : handles.isOpen parts.database = (laws.handles state).isOpen parts.database)
    (alike : laws.Alike parts after image) :
    laws.Hides parts image after ∧
      (laws.handles after).concealing parts.database = handles.concealing parts.database :=
  ⟨⟨shows.1, by rw [shows.2, staysOpen, hides.isOpen], alike⟩,
    congrArg (·.concealing parts.database) shows.2⟩

theorem Hides.asked {action : StatementHandle → StateM σ Int} {statement : StatementHandle}
    (hides : laws.Hides parts image state) (asks : engine.Asks action)
    (inUse : ((laws.handles state).concealing parts.database).InUse statement)
    (shows : (laws.handles state).InUse statement →
      laws.Shows (action statement state).2 (laws.handles state)) :
    laws.Hides parts image (action statement state).2 ∧
      (laws.handles (action statement state).2).concealing parts.database =
        (laws.handles state).concealing parts.database := by
  obtain ⟨owner, isOther, isOwner, isOpen⟩ := inUse.of_concealing
  exact hides.ofShows (shows ⟨owner, isOwner, isOpen⟩) rfl
    (laws.apart hides.valid hides.alike (.ask asks isOwner) isOther)

variable (laws)

/-- The engine as it is for those who do not know of one database. -/
def concealing (parts : Counterparts) (image : σ) : Custody engine where
  handles state := (laws.handles state).concealing parts.database
  Valid := laws.Hides parts image
  isOpen_of_owner hides isOwner := by
    obtain ⟨isOther, isOwner⟩ := Handles.concealing_owner?.mp isOwner
    exact Handles.concealing_isOpen.mpr ⟨isOther, laws.isOpen_of_owner hides.valid isOwner⟩
  opened {state path mode database} hides isOpened := by
    obtain ⟨isClosed, shows⟩ := laws.opened hides.valid isOpened
    have isOther : database ≠ parts.database := by
      rintro rfl
      cases isClosed.symm.trans hides.isOpen
    have after := hides.ofShows shows (Function.update_of_ne isOther.symm ..)
      (laws.apart_opened path mode hides.valid hides.alike)
    refine ⟨?_, after.1, after.2.trans (Handles.concealing_opening isOther)⟩
    rw [Bool.eq_false_iff]
    exact fun isOpen => nomatch isClosed.symm.trans (Handles.concealing_isOpen.mp isOpen).2
  unopened {state path mode} hides isUnopened :=
    hides.ofShows (laws.unopened hides.valid isUnopened) rfl
      (laws.apart_opened path mode hides.valid hides.alike)
  closed {state database} hides isOpen isIdle := by
    obtain ⟨isOther, isOpen⟩ := Handles.concealing_isOpen.mp isOpen
    have shows := laws.closed hides.valid isOpen (isIdle.of_concealing isOther)
    have after := hides.ofShows shows (Function.update_of_ne isOther.symm ..)
      (laws.apart hides.valid hides.alike (.close isOpen) isOther)
    exact ⟨after.1, after.2.trans (Handles.concealing_closing isOther)⟩
  mem_statements hides isOpen := by
    obtain ⟨isOther, isOpen⟩ := Handles.concealing_isOpen.mp isOpen
    rw [laws.mem_statements hides.valid isOpen, Handles.concealing_owner?, and_iff_right isOther]
  prepared {state database sql statement} hides isOpen isPrepared := by
    obtain ⟨isOther, isOpen⟩ := Handles.concealing_isOpen.mp isOpen
    obtain ⟨isOk, isFree, shows⟩ := laws.prepared hides.valid isOpen isPrepared
    have after := hides.ofShows shows rfl
      (laws.apart hides.valid hides.alike (.prepare sql isOpen) isOther)
    refine ⟨isOk, ?_, after.1, after.2.trans (Handles.concealing_preparing isOther)⟩
    refine Option.eq_none_iff_forall_ne_some.mpr fun owner isOwner => ?_
    cases isFree.symm.trans (Handles.concealing_owner?.mp isOwner).2
  unprepared {state database sql} hides isOpen isUnprepared := by
    obtain ⟨isOther, isOpen⟩ := Handles.concealing_isOpen.mp isOpen
    exact hides.ofShows (laws.unprepared hides.valid isOpen isUnprepared) rfl
      (laws.apart hides.valid hides.alike (.prepare sql isOpen) isOther)
  finalized {state statement} hides inUse := by
    obtain ⟨owner, isOther, isOwner, isOpen⟩ := inUse.of_concealing
    have after := hides.ofShows (laws.finalized hides.valid ⟨owner, isOwner, isOpen⟩) rfl
      (laws.apart hides.valid hides.alike (.finalize isOwner) isOther)
    exact ⟨after.1, after.2.trans Handles.concealing_finalizing⟩
  stepped hides inUse := hides.asked .step inUse (laws.stepped hides.valid)
  reset hides inUse := hides.asked .reset inUse (laws.reset hides.valid)
  bound {state statement index argument} hides inUse :=
    hides.asked (.bind index argument) inUse (laws.bound hides.valid)
  cleared hides inUse := hides.asked .clearBindings inUse (laws.cleared hides.valid)

end Isolation

end EmbeddedSql
