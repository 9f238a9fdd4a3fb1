import EmbeddedSql.Proofs.Call
import EmbeddedSql.Proofs.Engine.Custody

/-! Calls on a connection use no handles but those that are in use, and hand back all
that they do not keep. Each call is followed on an engine and on one that is like it as
far as handles in use go. -/

namespace EmbeddedSql

variable {σ τ ε α β : Type}

def Link.withEngine (link : Link σ) (engine : τ) : Link τ :=
  { connection := link.connection, pool := link.pool, engine }

/-! ## What a call sees and leaves -/

/-- A connection and the handles that are in use around it. -/
@[ext]
structure Situation where
  connection : Connection
  handles : Handles

namespace Situation

def IsSound (before : Situation) : Prop :=
  ∀ database, before.connection.lifecycle = .opened database →
    before.handles.isOpen database = true

/-- The connection may have opened a database in the meantime. -/
inductive Continues : Situation → Situation → Prop
  | refl (before) : Continues before before
  | opening {before : Situation} (database) : before.connection.lifecycle = .unopened →
      before.handles.isOpen database = false →
        Continues before
          { connection := { before.connection with lifecycle := .opened database }
            handles := before.handles.opening database }

theorem Continues.trans {first second third : Situation} (earlier : first.Continues second)
    (later : second.Continues third) : first.Continues third := by
  cases later with
  | refl => exact earlier
  | opening database isUnopened isClosed =>
      cases earlier with
      | refl => exact .opening database isUnopened isClosed
      | opening => cases isUnopened

theorem Continues.isSound {before next : Situation} (continues : before.Continues next)
    (isSound : before.IsSound) : next.IsSound := by
  cases continues with
  | refl => exact isSound
  | opening database =>
      intro other isOpened
      cases isOpened
      exact before.handles.opening_isOpen_self database

/-- A statement that a disposed connection has left behind, or one of the open database. -/
def Holds (before : Situation) (statement : StatementHandle) : Prop :=
  before.connection.lifecycle = .disposed ∨
    ∃ database, before.connection.lifecycle = .opened database ∧
      before.handles.owner? statement = some database ∧ before.handles.isOpen database = true

def disposed (before : Situation) : Situation where
  connection := { before.connection with lifecycle := .disposed }
  handles :=
    match before.connection.lifecycle with
    | .opened database => (before.handles.sweeping database).closing database
    | _ => before.handles

def without (before : Situation) (statement : StatementHandle) : Situation where
  connection := before.connection
  handles :=
    if before.connection.isDisposed then before.handles
    else before.handles.finalizing statement

@[simp] theorem without_isOpen (before : Situation) (statement : StatementHandle) :
    (before.without statement).handles.isOpen = before.handles.isOpen := by
  dsimp only [without]
  split <;> rfl

theorem IsSound.without {before : Situation} (isSound : before.IsSound)
    (statement : StatementHandle) : (before.without statement).IsSound := by
  intro database isLifecycle
  rw [without_isOpen]
  exact isSound database isLifecycle

/-- A new statement, if there is one, is one more in use than before. -/
def Lends {ε α : Type} (before : Situation) (statementOf : α → StatementHandle) :
    Except ε α → Situation → Prop
  | .ok answer, next => ∃ base database, before.Continues base ∧
      base.connection.lifecycle = .opened database ∧ base.handles.isOpen database = true ∧
        base.handles.owner? (statementOf answer) = none ∧
          next = { base with handles := base.handles.preparing (statementOf answer) database }
  | .error _, next => before.Continues next

theorem Lends.ok {ε α : Type} {before lent : Situation} {statementOf : α → StatementHandle}
    {answer : α} (isSound : before.IsSound)
    (lends : before.Lends (ε := ε) statementOf (.ok answer) lent) :
    lent.IsSound ∧ lent.Holds (statementOf answer) ∧
      before.Continues (lent.without (statementOf answer)) := by
  rcases lends with ⟨base, database, continues, isLifecycle, isOpen, isFree, rfl⟩
  refine ⟨continues.isSound isSound, ?_, ?_⟩
  · exact .inr ⟨database, isLifecycle, base.handles.preparing_owner?_self _ _, isOpen⟩
  · simpa [without, Connection.isDisposed, isLifecycle, Handles.finalizing_preparing isFree]
      using continues

end Situation

/-! ## Following a call -/

namespace Mirror

variable {engine : Engine σ} {other : Engine τ} (mirror : Mirror engine other)

def situation (link : Link σ) : Situation where
  connection := link.connection
  handles := mirror.handles link.engine

/-- Both have the same outcome, on links that are each other's image again. -/
abbrev Reaches (outcome : α × Link σ) (image : α × Link τ) (Leaves : α → Situation → Prop) :
    Prop :=
  ∃ next, image = (outcome.1, outcome.2.withEngine next) ∧
    mirror.Same outcome.2.engine next ∧ mirror.Valid outcome.2.engine ∧
      Leaves outcome.1 (mirror.situation outcome.2)

/-- Wherever the call finds what it expects, it leaves what it should. -/
def Runs (before : Situation) (call : ExceptT ε (StateM (Link σ)) α)
    (image : ExceptT ε (StateM (Link τ)) α) (Leaves : Except ε α → Situation → Prop) : Prop :=
  ∀ link state, mirror.Valid link.engine → mirror.Same link.engine state →
    mirror.situation link = before →
      mirror.Reaches (call link) (image (link.withEngine state)) Leaves

abbrev Keeps (before : Situation) (call : ExceptT ε (StateM (Link σ)) α)
    (image : ExceptT ε (StateM (Link τ)) α) : Prop :=
  mirror.Runs before call image fun _ next => next = before

abbrev Opens (before : Situation) (call : ExceptT ε (StateM (Link σ)) α)
    (image : ExceptT ε (StateM (Link τ)) α) : Prop :=
  mirror.Runs before call image fun _ next => before.Continues next

namespace Runs

variable {mirror} {before : Situation} {call : ExceptT ε (StateM (Link σ)) α}
  {image : ExceptT ε (StateM (Link τ)) α} {Leaves : Except ε α → Situation → Prop}

theorem mono {More : Except ε α → Situation → Prop} (runs : mirror.Runs before call image Leaves)
    (isEnough : ∀ result next, Leaves result next → More result next) :
    mirror.Runs before call image More := by
  intro link state valid same isSeen
  rcases runs link state valid same isSeen with ⟨next, images, same, valid, leaves⟩
  exact ⟨next, images, same, valid, isEnough _ _ leaves⟩

theorem pure {answer : α} (leaves : Leaves (.ok answer) before) :
    mirror.Runs before (Pure.pure answer) (Pure.pure answer) Leaves := by
  rintro link state valid same rfl
  exact ⟨state, rfl, same, valid, leaves⟩

theorem throw {error : ε} (leaves : Leaves (.error error) before) :
    mirror.Runs before (MonadExcept.throw error) (MonadExcept.throw error) Leaves := by
  rintro link state valid same rfl
  exact ⟨state, rfl, same, valid, leaves⟩

theorem throwBind {next : α → ExceptT ε (StateM (Link σ)) β}
    {nextImage : α → ExceptT ε (StateM (Link τ)) β} {Leaves : Except ε β → Situation → Prop}
    {error : ε} (leaves : Leaves (.error error) before) :
    mirror.Runs before (MonadExcept.throw error >>= next) (MonadExcept.throw error >>= nextImage)
      Leaves := by
  rintro link state valid same rfl
  exact ⟨state, rfl, same, valid, leaves⟩

theorem bind {next : α → ExceptT ε (StateM (Link σ)) β}
    {nextImage : α → ExceptT ε (StateM (Link τ)) β} {Leaves : Except ε β → Situation → Prop}
    {Between : Except ε α → Situation → Prop} (first : mirror.Runs before call image Between)
    (rest : ∀ answer between, Between (.ok answer) between →
      mirror.Runs between (next answer) (nextImage answer) Leaves)
    (failed : ∀ error between, Between (.error error) between → Leaves (.error error) between) :
    mirror.Runs before (call >>= next) (image >>= nextImage) Leaves := by
  intro link state valid same isSeen
  rcases first link state valid same isSeen with ⟨after, images, same, valid, between⟩
  rw [Call.bind_apply, Call.bind_apply, images]
  rcases outcome : call link with ⟨error | answer, link⟩ <;> rw [outcome] at between valid same
  · exact ⟨after, rfl, same, valid, failed _ _ between⟩
  · exact rest answer _ between link after valid same rfl

theorem bindTotal {next : α → ExceptT ε (StateM (Link σ)) β}
    {nextImage : α → ExceptT ε (StateM (Link τ)) β} {Leaves : Except ε β → Situation → Prop}
    {Between : Except ε α → Situation → Prop} (first : mirror.Runs before call image Between)
    (isTotal : ∀ link, ∃ answer, (call link).1 = .ok answer)
    (rest : ∀ answer between, Between (.ok answer) between →
      mirror.Runs between (next answer) (nextImage answer) Leaves) :
    mirror.Runs before (call >>= next) (image >>= nextImage) Leaves := by
  let Worked (result : Except ε α) (between : Situation) : Prop :=
    Between result between ∧ ∃ answer, result = .ok answer
  have worked : mirror.Runs before call image Worked := by
    intro link state valid same isSeen
    rcases first link state valid same isSeen with ⟨after, images, same, valid, between⟩
    exact ⟨after, images, same, valid, between, isTotal link⟩
  refine worked.bind (fun answer between works => rest answer between works.1) ?_
  rintro error between ⟨_, answer, isOk⟩
  cases isOk

theorem tryCatch {handle : ε → ExceptT ε (StateM (Link σ)) α}
    {handleImage : ε → ExceptT ε (StateM (Link τ)) α}
    {Between : Except ε α → Situation → Prop} (first : mirror.Runs before call image Between)
    (rest : ∀ error between, Between (.error error) between →
      mirror.Runs between (handle error) (handleImage error) Leaves)
    (worked : ∀ answer between, Between (.ok answer) between → Leaves (.ok answer) between) :
    mirror.Runs before (MonadExcept.tryCatch call handle)
      (MonadExcept.tryCatch image handleImage) Leaves := by
  intro link state valid same isSeen
  rcases first link state valid same isSeen with ⟨after, images, same, valid, between⟩
  rw [Call.tryCatch_apply, Call.tryCatch_apply, images]
  rcases outcome : call link with ⟨error | answer, link⟩ <;> rw [outcome] at between valid same
  · exact rest error _ between link after valid same rfl
  · exact ⟨after, rfl, same, valid, worked _ _ between⟩

theorem get {next : Link σ → ExceptT ε (StateM (Link σ)) β}
    {nextImage : Link τ → ExceptT ε (StateM (Link τ)) β} {Leaves : Except ε β → Situation → Prop}
    (rest : ∀ link state, link.connection = before.connection →
      mirror.Runs before (next link) (nextImage (link.withEngine state)) Leaves) :
    mirror.Runs before (MonadState.get >>= next) (MonadState.get >>= nextImage) Leaves := by
  intro link state valid same isSeen
  rw [Call.bind_apply, Call.bind_apply]
  exact rest link state (by rw [← isSeen]; rfl) link state valid same isSeen

theorem withScratch {encode : Scratch.Pool → Scratch.Encoded × Scratch.Pool}
    {use : Scratch.Encoded → Call σ α} {useImage : Scratch.Encoded → Call τ α}
    {Leaves : Except Error α → Situation → Prop}
    (inner : ∀ encoded, mirror.Runs before (use encoded) (useImage encoded) Leaves) :
    mirror.Runs before (Call.withScratch encode use) (Call.withScratch encode useImage)
      Leaves := by
  intro link state valid same isSeen
  rcases inner (encode link.pool).1 { link with pool := (encode link.pool).2 } state valid same
    isSeen with ⟨next, images, same, valid, leaves⟩
  refine ⟨next, ?_, same, valid, leaves⟩
  have images : useImage (encode link.pool).1
      { link.withEngine state with pool := (encode link.pool).2 } = _ := images
  simp only [Call.withScratch, Link.withEngine] at images ⊢
  rw [images]
  rfl

theorem ofConnection {call : Call σ α} {image : Call τ α}
    {Leaves : Except Query.Error α → Situation → Prop}
    (inner : mirror.Runs before call image fun result => Leaves (result.mapError .connection)) :
    mirror.Runs before (Query.Call.ofConnection call) (Query.Call.ofConnection image) Leaves := by
  intro link state valid same isSeen
  rcases inner link state valid same isSeen with ⟨next, images, same, valid, leaves⟩
  unfold Query.Call.ofConnection
  rw [images]
  rcases outcome : call link with ⟨error | answer, link⟩ <;> rw [outcome] at leaves valid same
  · exact ⟨next, rfl, same, valid, leaves⟩
  · exact ⟨next, rfl, same, valid, leaves⟩

theorem request {action : StateM σ α} {actionImage : StateM τ α}
    {Leaves : Except Error α → Situation → Prop}
    (agree : ∀ state image, mirror.Valid state → mirror.Same state image →
      mirror.handles state = before.handles → Agree mirror.Same (action state) (actionImage image))
    (leaves : ∀ state, mirror.Valid state → mirror.handles state = before.handles →
      ∃ handles, mirror.Shows (action state).2 handles ∧
        Leaves (.ok (action state).1) { before with handles }) :
    mirror.Runs before (Call.request action) (Call.request actionImage) Leaves := by
  rintro link state valid same rfl
  rcases agree link.engine state valid same rfl with ⟨sameAnswer, sameAfter⟩
  rcases leaves link.engine valid rfl with ⟨handles, ⟨validAfter, rfl⟩, leaves⟩
  refine ⟨(actionImage state).2, ?_, sameAfter, validAfter, leaves⟩
  rw [Call.request_apply, Call.request_apply]
  exact Prod.ext (congrArg Except.ok sameAnswer) rfl

theorem observe {answer : σ → α} {answerImage : τ → α}
    {Leaves : Except Error α → Situation → Prop}
    (same : ∀ state image, mirror.Valid state → mirror.Same state image →
      mirror.handles state = before.handles → answerImage image = answer state)
    (leaves : ∀ state, mirror.Valid state → mirror.handles state = before.handles →
      Leaves (.ok (answer state)) before) :
    mirror.Runs before (Call.observe answer) (Call.observe answerImage) Leaves := by
  rintro link state valid sameState rfl
  refine ⟨state, ?_, sameState, valid, leaves link.engine valid rfl⟩
  rw [Call.observe_apply, Call.observe_apply]
  exact Prod.ext (congrArg Except.ok (same link.engine state valid sameState rfl)) rfl

end Runs

namespace Keeps

variable {mirror} {before : Situation} {call : ExceptT ε (StateM (Link σ)) α}
  {image : ExceptT ε (StateM (Link τ)) α}

theorem andThen {next : α → ExceptT ε (StateM (Link σ)) β}
    {nextImage : α → ExceptT ε (StateM (Link τ)) β} {Leaves : Except ε β → Situation → Prop}
    (first : mirror.Keeps before call image)
    (rest : ∀ answer, mirror.Runs before (next answer) (nextImage answer) Leaves)
    (failed : ∀ error, Leaves (.error error) before) :
    mirror.Runs before (call >>= next) (image >>= nextImage) Leaves := by
  refine Runs.bind first (fun answer between isSame => ?_) fun error between isSame => ?_
  · exact isSame ▸ rest answer
  · exact isSame ▸ failed error

theorem opens (keeps : mirror.Keeps before call image) : mirror.Opens before call image :=
  Runs.mono keeps fun _ _ isSame => isSame ▸ .refl _

end Keeps

namespace Opens

variable {mirror} {before : Situation} {call : ExceptT ε (StateM (Link σ)) α}
  {image : ExceptT ε (StateM (Link τ)) α}

theorem andThen {next : α → ExceptT ε (StateM (Link σ)) β}
    {nextImage : α → ExceptT ε (StateM (Link τ)) β} (isSound : before.IsSound)
    (first : mirror.Opens before call image)
    (rest : ∀ answer between, between.IsSound →
      mirror.Opens between (next answer) (nextImage answer)) :
    mirror.Opens before (call >>= next) (image >>= nextImage) := by
  refine Runs.bind first (fun answer between continues => ?_) fun _ _ continues => continues
  exact (rest answer between (continues.isSound isSound)).mono
    fun _ _ further => continues.trans further

theorem orElse {handle : ε → ExceptT ε (StateM (Link σ)) α}
    {handleImage : ε → ExceptT ε (StateM (Link τ)) α} (isSound : before.IsSound)
    (first : mirror.Opens before call image)
    (rest : ∀ error between, between.IsSound →
      mirror.Opens between (handle error) (handleImage error)) :
    mirror.Opens before (MonadExcept.tryCatch call handle)
      (MonadExcept.tryCatch image handleImage) := by
  refine Runs.tryCatch first (fun error between continues => ?_) fun _ _ continues => continues
  exact (rest error between (continues.isSound isSound)).mono
    fun _ _ further => continues.trans further

end Opens

end Mirror

end EmbeddedSql
