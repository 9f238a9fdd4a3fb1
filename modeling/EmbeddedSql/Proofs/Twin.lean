import EmbeddedSql.Proofs.Engine.Isolation
import EmbeddedSql.Proofs.SideBySide

/-! Connections to private databases that go together: of the same call, both make the same. -/

namespace EmbeddedSql

variable {σ ε α β α' β' : Type}

inductive Bond where
  | unopened
  | opened (parts : Counterparts)
  | disposed

namespace Bond

inductive Follows : Bond → Bond → Prop
  | refl (bond) : Follows bond bond
  | opening (database image) : Follows .unopened (.opened { database, image })

theorem Follows.trans {first second third : Bond} (earlier : first.Follows second)
    (later : second.Follows third) : first.Follows third := by
  cases later with
  | refl => exact earlier
  | opening =>
      cases earlier
      exact .opening _ _

/-- Statements that go together, or that disposed connections have left behind. -/
def Uses (bond : Bond) (statement image : StatementHandle) : Prop :=
  match bond with
  | .unopened => False
  | .opened parts => (statement, image) ∈ parts.statements
  | .disposed => True

def removing (bond : Bond) (statement image : StatementHandle) : Bond :=
  match bond with
  | .opened parts => .opened (parts.removing statement image)
  | other => other

/-- Two new statements, in databases that may be open since just now. -/
def Lends (bond : Bond) (statement image : StatementHandle) (next : Bond) : Prop :=
  ∃ parts, bond.Follows (.opened parts) ∧ (statement, image) ∉ parts.statements ∧
    next = .opened (parts.adding statement image)

theorem Lends.uses {bond next : Bond} {statement image : StatementHandle}
    (lends : bond.Lends statement image next) : next.Uses statement image := by
  obtain ⟨parts, -, -, rfl⟩ := lends
  exact Counterparts.mem_adding_self

theorem Lends.follows {bond next : Bond} {statement image : StatementHandle}
    (lends : bond.Lends statement image next) :
    bond.Follows (next.removing statement image) := by
  obtain ⟨parts, follows, isNew, rfl⟩ := lends
  rwa [removing, Counterparts.removing_adding isNew]

end Bond

namespace Isolation

variable {engine : Engine σ} (laws : Isolation engine)

/-- The connections are in the same place and have the same databases. Their pools may be
any. -/
inductive Tied : Bond → Link σ → Link σ → Prop
  | unopened {config pool otherPool state image} : laws.Valid state → laws.Valid image →
      Tied .unopened { connection := { config }, pool, engine := state }
        { connection := { config }, pool := otherPool, engine := image }
  | opened {parts config pool otherPool state image} : laws.Alike parts state image →
      Tied (.opened parts)
        { connection := { config, lifecycle := .opened parts.database }, pool, engine := state }
        { connection := { config, lifecycle := .opened parts.image }, pool := otherPool
          engine := image }
  | disposed {config pool otherPool state image} :
      Tied .disposed
        { connection := { config, lifecycle := .disposed }, pool, engine := state }
        { connection := { config, lifecycle := .disposed }, pool := otherPool, engine := image }

variable {laws} {bond : Bond} {link other : Link σ}

theorem Tied.withPools (tied : laws.Tied bond link other) (pool otherPool : Scratch.Pool) :
    laws.Tied bond { link with pool } { other with pool := otherPool } := by
  cases tied with
  | unopened valid otherValid => exact .unopened valid otherValid
  | opened alike => exact .opened alike
  | disposed => exact .disposed

theorem Tied.isLive {parts : Counterparts} (tied : laws.Tied (.opened parts) link other) :
    link.connection.isDisposed = false ∧ other.connection.isDisposed = false := by
  cases tied
  exact ⟨rfl, rfl⟩

variable (laws)

/-- Wherever the calls find connections that go together, they come to the same and leave
connections that still do. -/
def Runs (bond : Bond) (call : ExceptT ε (StateM (Link σ)) α)
    (image : ExceptT ε (StateM (Link σ)) β) (fails : Bond → Prop)
    (answers : α → β → Bond → Prop) : Prop :=
  ∀ link other, laws.Tied bond link other →
    Call.EndAlike (call link) (image other)
      (fun last otherLast => ∃ next, fails next ∧ laws.Tied next last otherLast)
      (fun answer otherAnswer last otherLast =>
        ∃ next, answers answer otherAnswer next ∧ laws.Tied next last otherLast)

abbrev Keeps (bond : Bond) (call image : ExceptT ε (StateM (Link σ)) α) : Prop :=
  laws.Runs bond call image (· = bond) fun answer other next => other = answer ∧ next = bond

/-- The same answer, and nothing changes except that databases may be opened. -/
abbrev Opens (bond : Bond) (call image : ExceptT ε (StateM (Link σ)) α) : Prop :=
  laws.Runs bond call image bond.Follows fun answer other next =>
    other = answer ∧ bond.Follows next

namespace Runs

variable {laws} {call : ExceptT ε (StateM (Link σ)) α} {image : ExceptT ε (StateM (Link σ)) β}
  {fails left : Bond → Prop} {answers : α → β → Bond → Prop}

theorem mono {more : α → β → Bond → Prop} (runs : laws.Runs bond call image fails answers)
    (failed : ∀ next, fails next → left next)
    (answered : ∀ answer other next, answers answer other next → more answer other next) :
    laws.Runs bond call image left more := fun link other tied =>
  (runs link other tied).mono
    (fun _ _ ⟨next, isNext, tied⟩ => ⟨next, failed next isNext, tied⟩)
    fun _ _ _ _ ⟨next, isNext, tied⟩ => ⟨next, answered _ _ next isNext, tied⟩

theorem pure {answer : α} {other : β} (answered : answers answer other bond) :
    laws.Runs bond (ε := ε) (Pure.pure answer) (Pure.pure other) fails answers :=
  fun _ _ tied => ⟨bond, answered, tied⟩

theorem throw {error : ε} (failed : fails bond) :
    laws.Runs bond (MonadExcept.throw error : ExceptT ε (StateM (Link σ)) α)
      (MonadExcept.throw error : ExceptT ε (StateM (Link σ)) β) fails answers :=
  fun _ _ tied => ⟨rfl, bond, failed, tied⟩

theorem bind {next : α → ExceptT ε (StateM (Link σ)) α'}
    {nextImage : β → ExceptT ε (StateM (Link σ)) β'} {last : α' → β' → Bond → Prop}
    (first : laws.Runs bond call image fails answers)
    (rest : ∀ answer other between, answers answer other between →
      laws.Runs between (next answer) (nextImage other) fails last) :
    laws.Runs bond (call >>= next) (image >>= nextImage) fails last := fun link other tied =>
  (first link other tied).bind fun answer otherAnswer _ _ ⟨between, isBetween, tied⟩ =>
    rest answer otherAnswer between isBetween _ _ tied

theorem tryCatch {handle : ε → ExceptT ε (StateM (Link σ)) α}
    {handleImage : ε → ExceptT ε (StateM (Link σ)) β}
    (first : laws.Runs bond call image left answers)
    (rest : ∀ error between, left between →
      laws.Runs between (handle error) (handleImage error) fails answers) :
    laws.Runs bond (MonadExcept.tryCatch call handle) (MonadExcept.tryCatch image handleImage)
      fails answers := fun link other tied =>
  (first link other tied).tryCatch fun error _ _ ⟨between, isBetween, tied⟩ =>
    rest error between isBetween _ _ tied

theorem withScratch {encode encodeImage : Scratch.Pool → Scratch.Encoded × Scratch.Pool}
    {use : Scratch.Encoded → Call σ α} {useImage : Scratch.Encoded → Call σ β}
    (inner : ∀ pool otherPool,
      laws.Runs bond (use (encode pool).1) (useImage (encodeImage otherPool).1) fails answers) :
    laws.Runs bond (Call.withScratch encode use) (Call.withScratch encodeImage useImage) fails
      answers := fun link other tied =>
  .withScratch (inner link.pool other.pool _ _ (tied.withPools _ _))
    (fun _ _ _ _ ⟨next, isNext, tied⟩ => ⟨next, isNext, tied.withPools _ _⟩)
    fun _ _ _ _ _ _ ⟨next, isNext, tied⟩ => ⟨next, isNext, tied.withPools _ _⟩

theorem ofConnection {call : Call σ α} {image : Call σ β}
    (runs : laws.Runs bond call image fails answers) :
    laws.Runs bond (Query.Call.ofConnection call) (Query.Call.ofConnection image) fails answers :=
  fun link other tied => (runs link other tied).ofConnection

theorem andThen {call image : ExceptT ε (StateM (Link σ)) α}
    {next nextImage : α → ExceptT ε (StateM (Link σ)) β} (first : laws.Opens bond call image)
    (rest : ∀ answer between, laws.Opens between (next answer) (nextImage answer)) :
    laws.Opens bond (call >>= next) (image >>= nextImage) := by
  refine first.bind ?_
  rintro answer _ between ⟨rfl, follows⟩
  exact (rest _ between).mono (fun _ => follows.trans) fun _ _ _ ⟨same, further⟩ =>
    ⟨same, follows.trans further⟩

/-! ## Requests to open databases -/

variable {parts : Counterparts} {statements : List (StatementHandle × StatementHandle)}

theorem request {action actionImage : StateM σ α}
    (agrees : ∀ {state image}, laws.Alike parts state image →
      Agree (laws.Alike { parts with statements }) (action state) (actionImage image)) :
    laws.Runs (.opened parts) (Call.request action) (Call.request actionImage) fails
      fun answer other after => other = answer ∧ after = .opened { parts with statements } := by
  intro link other tied
  cases tied with
  | @opened _ _ pool otherPool _ _ alike =>
      obtain ⟨same, alike⟩ := agrees alike
      exact ⟨_, ⟨same, rfl⟩, Tied.opened alike⟩

theorem observe {view viewImage : σ → α}
    (agrees : ∀ {state image}, laws.Alike parts state image → viewImage image = view state) :
    laws.Runs (.opened parts) (Call.observe view) (Call.observe viewImage) fails
      fun answer other after => other = answer ∧ after = .opened parts := by
  intro link other tied
  cases tied with
  | opened alike => exact ⟨.opened parts, ⟨agrees alike, rfl⟩, .opened alike⟩

end Runs

end Isolation

end EmbeddedSql
