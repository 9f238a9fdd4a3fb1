import EmbeddedSql.Proofs.Query.Isolation
import EmbeddedSql.Proofs.Session.Accessors
import EmbeddedSql.Proofs.Session.Custody.Command
import EmbeddedSql.Proofs.Session.Link

/-! A session with one connection to a private database, beside another one with its counterpart:
of the same requests, both make the same. -/

namespace EmbeddedSql

/-! ## Registries -/

namespace Registry

variable {α β : Type} {R S : α → β → Prop} {registry : Registry α} {image : Registry β}

def Pairs (R : α → β → Prop) (registry : Registry α) (image : Registry β) : Prop :=
  List.Forall₂ (fun entry other => other.1 = entry.1 ∧ R entry.2 other.2) registry image

theorem Pairs.get? (pairs : Pairs R registry image) (name : String) :
    Option.Rel R (registry.get? name) (image.get? name) := by
  induction pairs with
  | nil => exact .none
  | @cons entry other rest otherRest related _ induction =>
      rcases entry with ⟨_, value⟩
      rcases other with ⟨key, otherValue⟩
      obtain ⟨rfl, related⟩ := related
      unfold Registry.get? at induction ⊢
      rw [List.lookup_cons, List.lookup_cons]
      cases name == key with
      | true => exact .some related
      | false => exact induction

theorem Pairs.contains (pairs : Pairs R registry image) (name : String) :
    image.contains name = registry.contains name := by
  have found := pairs.get? name
  unfold Registry.contains
  generalize registry.get? name = value at found ⊢
  generalize image.get? name = other at found ⊢
  cases found <;> rfl

theorem Pairs.erase (pairs : Pairs R registry image) (name : String) :
    Pairs R (registry.erase name) (image.erase name) := by
  induction pairs with
  | nil => exact .nil
  | @cons entry other rest otherRest related _ induction =>
      unfold Registry.erase at induction ⊢
      rw [List.filter_cons, List.filter_cons, related.1]
      split
      · exact .cons related induction
      · exact induction

theorem Pairs.insert (pairs : Pairs R registry image) (name : String) {value : α} {other : β}
    (related : R value other) : Pairs R (registry.insert name value) (image.insert name other) :=
  .cons ⟨rfl, related⟩ (pairs.erase name)

theorem Pairs.any (pairs : Pairs R registry image) (has : α → Bool) (hasImage : β → Bool)
    (agree : ∀ value other, R value other → hasImage other = has value) :
    image.any (hasImage ·.2) = registry.any (has ·.2) := by
  induction pairs with
  | nil => rfl
  | cons related _ induction => rw [List.any_cons, List.any_cons, agree _ _ related.2, induction]

theorem Pairs.mono (pairs : Pairs R registry image)
    (implies : ∀ name value other, (name, value) ∈ registry → R value other → S value other) :
    Pairs S registry image := by
  induction pairs with
  | nil => exact .nil
  | @cons entry other rest otherRest related _ induction =>
      refine .cons ⟨related.1, implies _ _ _ List.mem_cons_self related.2⟩ (induction ?_)
      exact fun name value other isThere => implies name value other (List.mem_cons_of_mem _ isThere)

end Registry

/-! ## Bonds -/

namespace Bond

def Carries (bond next : Bond) : Prop :=
  ∀ {statement image}, bond.Uses statement image → next.Uses statement image

theorem Follows.carries {bond next : Bond} (follows : bond.Follows next) : bond.Carries next := by
  intro statement image uses
  cases follows with
  | refl => exact uses
  | opening => exact uses.elim

theorem Lends.carries {bond next : Bond} {statement image : StatementHandle}
    (lends : bond.Lends statement image next) : bond.Carries next := by
  intro other otherImage uses
  obtain ⟨parts, follows, -, rfl⟩ := lends
  exact Counterparts.mem_adding (follows.carries uses)

theorem carries_disposed (bond : Bond) : bond.Carries .disposed :=
  fun _ => trivial

theorem removing_carries (bond : Bond) (statement image : StatementHandle) :
    (bond.removing statement image).Carries bond := by
  intro other otherImage uses
  cases bond with
  | opened parts => exact (List.mem_filter.mp uses).1
  | _ => exact uses

theorem Uses.removing {bond : Bond} {statement image other otherImage : StatementHandle}
    (uses : bond.Uses other otherImage)
    (isOther : (∃ parts, bond = .opened parts) → other ≠ statement) :
    (bond.removing statement image).Uses other otherImage := by
  cases bond with
  | opened parts => exact Counterparts.mem_removing uses (isOther ⟨parts, rfl⟩)
  | _ => exact uses

end Bond

namespace Session

variable {σ ε α β : Type} {backend : Backend σ}

/-! ## Sessions side by side -/

section
variable (uses : StatementHandle → StatementHandle → Prop)

def CommandsMatch (held other : HeldCommand) : Prop :=
  other.connection = held.connection ∧ uses held.command.statement other.command.statement

def ReadersMatch (held other : HeldReader) : Prop :=
  other = { held with reader := held.reader.withStatement other.reader.statement } ∧
    uses held.reader.statement other.reader.statement

variable (laws : Isolation backend.engine) (name : String) (bond : Bond)

/-- There is one connection at most in either session. What is on it goes together. -/
structure Paired (session solo : Session σ) : Prop where
  here : Option.Rel (laws.Tied bond) (session.link? name) (solo.link? name)
  elsewhere : ∀ {other}, other ≠ name → session.link? other = none ∧ solo.link? other = none
  commands : Registry.Pairs (CommandsMatch uses) session.commands solo.commands
  readers : Registry.Pairs (ReadersMatch uses) session.readers solo.readers

structure IsLeft (session : Session σ) (statement : StatementHandle) : Prop where
  commands : ∀ {name held}, (name, held) ∈ session.commands → held.command.statement ≠ statement
  readers : ∀ {name held}, (name, held) ∈ session.readers → held.reader.statement ≠ statement

def GoesOn (outcome image : α × Session σ) : Prop :=
  image.1 = outcome.1 ∧ ∃ next : Bond, Paired next.Uses laws name next outcome.2 image.2

end

variable {laws : Isolation backend.engine} {name : String} {bond : Bond}
  {uses : StatementHandle → StatementHandle → Prop} {session solo : Session σ}

theorem GoesOn.map {outcome image : α × Session σ} (goesOn : GoesOn laws name outcome image)
    (answer : α → β) :
    GoesOn laws name (answer outcome.1, outcome.2) (answer image.1, image.2) :=
  ⟨congrArg answer goesOn.1, goesOn.2⟩

namespace Paired

theorem unchanged (paired : Paired bond.Uses laws name bond session solo) (answer : α) :
    GoesOn laws name (answer, session) (answer, solo) :=
  ⟨rfl, bond, paired⟩

section
variable (paired : Paired uses laws name bond session solo)
include paired

/-! ## What is found -/

theorem links (other : String) :
    Option.Rel (laws.Tied bond) (session.link? other) (solo.link? other) := by
  by_cases isHere : other = name
  · subst isHere
    exact paired.here
  · rw [(paired.elsewhere isHere).1, (paired.elsewhere isHere).2]
    exact .none

theorem link_cases (other : String) :
    (session.link? other = none ∧ solo.link? other = none) ∨
      other = name ∧ ∃ link image, session.link? other = some link ∧
        solo.link? other = some image ∧ laws.Tied bond link image := by
  by_cases isHere : other = name
  · have found := paired.links other
    cases isLink : session.link? other <;> cases isImage : solo.link? other <;>
      rw [isLink, isImage] at found
    · exact .inl ⟨rfl, rfl⟩
    · cases found
    · cases found
    · cases found with
      | some tied => exact .inr ⟨isHere, _, _, rfl, rfl, tied⟩
  · exact .inl (paired.elsewhere isHere)

theorem connections_contains (other : String) :
    solo.connections.contains other = session.connections.contains other := by
  have found := paired.links other
  unfold link? at found
  unfold Registry.contains
  cases isHeld : session.connections.get? other <;>
    cases isImage : solo.connections.get? other <;> rw [isHeld, isImage] at found <;>
    first | rfl | cases found

theorem commandIsRead (command : String) :
    solo.commandIsRead command = session.commandIsRead command :=
  paired.readers.any (·.command = some command) (·.command = some command)
    fun _ _ related => by rw [related.1]

theorem connectionIsUsed (connection : String) :
    solo.connectionIsUsed connection = session.connectionIsUsed connection := by
  have commands : solo.commands.any (·.2.connection = connection) =
      session.commands.any (·.2.connection = connection) :=
    paired.commands.any (·.connection = connection) (·.connection = connection)
      fun _ _ related => by rw [related.1]
  have readers : solo.readers.any (·.2.connection = connection) =
      session.readers.any (·.2.connection = connection) :=
    paired.readers.any (·.connection = connection) (·.connection = connection)
      fun _ _ related => by rw [related.1]
  rw [Session.connectionIsUsed, Session.connectionIsUsed, commands, readers]

theorem freeCommand_cases (command : String) :
    (∃ refusal, session.freeCommand (ε := ε) command = .error refusal ∧
        solo.freeCommand (ε := ε) command = .error refusal) ∨
      ∃ held image, session.freeCommand (ε := ε) command = .ok held ∧
        solo.freeCommand (ε := ε) command = .ok { held with command := ⟨image⟩ } ∧
          uses held.command.statement image := by
  have found := paired.commands.get? command
  unfold freeCommand
  rw [paired.commandIsRead]
  cases isHeld : session.commands.get? command <;>
    cases isImage : solo.commands.get? command <;> rw [isHeld, isImage] at found
  · exact .inl ⟨_, rfl, rfl⟩
  · cases found
  · cases found
  · rename_i held other
    cases found with
    | some related =>
        rcases other with ⟨_, ⟨image⟩⟩
        obtain ⟨rfl, uses⟩ := related
        dsimp only
        split
        · exact .inl ⟨_, rfl, rfl⟩
        · exact .inr ⟨held, image, rfl, rfl, uses⟩

theorem findReader_cases (reader : String) :
    (session.findReader (ε := ε) reader = .error .noSuchHandle ∧
        solo.findReader (ε := ε) reader = .error .noSuchHandle) ∨
      ∃ held image, session.findReader (ε := ε) reader = .ok held ∧
        solo.findReader (ε := ε) reader =
            .ok { held with reader := held.reader.withStatement image } ∧
          uses held.reader.statement image := by
  have found := paired.readers.get? reader
  unfold findReader
  cases isHeld : session.readers.get? reader <;>
    cases isImage : solo.readers.get? reader <;> rw [isHeld, isImage] at found
  · exact .inl ⟨rfl, rfl⟩
  · cases found
  · cases found
  · rename_i held other
    cases found with
    | some related =>
        obtain ⟨isImage, uses⟩ := related
        exact .inr ⟨held, other.reader.statement, rfl, congrArg Except.ok isImage, uses⟩

theorem newName_commands (command : String) :
    newName (ε := ε) solo.commands command = newName session.commands command := by
  rw [newName, newName, paired.commands.contains]

theorem newName_readers (reader : String) :
    newName (ε := ε) solo.readers reader = newName session.readers reader := by
  rw [newName, newName, paired.readers.contains]

/-! ## What is put back -/

theorem withUses {more : StatementHandle → StatementHandle → Prop}
    (implies : ∀ {statement image}, uses statement image → more statement image) :
    Paired more laws name bond session solo where
  here := paired.here
  elsewhere := paired.elsewhere
  commands := paired.commands.mono fun _ _ _ _ related => ⟨related.1, implies related.2⟩
  readers := paired.readers.mono fun _ _ _ _ related => ⟨related.1, implies related.2⟩

theorem setLink {next : Bond} {link image last lastImage : Link σ}
    (isLink : session.link? name = some link) (isImage : solo.link? name = some image)
    (tied : laws.Tied next last lastImage) :
    Paired uses laws name next (session.setLink name last) (solo.setLink name lastImage) where
  here := by
    obtain ⟨pool, isLast⟩ := link?_setLink isLink last
    obtain ⟨poolImage, isLastImage⟩ := link?_setLink isImage lastImage
    rw [isLast, isLastImage]
    exact .some (tied.withPools _ _)
  elsewhere isOther := by
    obtain ⟨isMissing, isMissingImage⟩ := paired.elsewhere isOther
    rw [link?_eq_none] at isMissing isMissingImage ⊢
    rw [link?_eq_none, setLink_connections_other _ isOther, setLink_connections_other _ isOther]
    exact ⟨isMissing, isMissingImage⟩
  commands := by
    rw [setLink_commands, setLink_commands]
    exact paired.commands
  readers := by
    rw [setLink_readers, setLink_readers]
    exact paired.readers

/-! ## Calls -/

variable {call : ExceptT ε (StateM (Link σ)) α} {callImage : ExceptT ε (StateM (Link σ)) β}
  {fails : Bond → Prop} {answers : α → β → Bond → Prop}

theorem onConnection (connection : String) (runs : laws.Runs bond call callImage fails answers) :
    Call.EndAlike (session.onConnection connection call) (solo.onConnection connection callImage)
      (fun last lastImage => ∃ next, (next = bond ∨ fails next) ∧
        Paired uses laws name next last lastImage)
      (fun answer other last lastImage => ∃ next, answers answer other next ∧
        Paired uses laws name next last lastImage) := by
  rcases paired.link_cases connection with ⟨isMissing, isMissingImage⟩ |
    ⟨rfl, link, image, isLink, isImage, tied⟩
  · rw [onConnection_of_missing isMissing, onConnection_of_missing isMissingImage]
    exact ⟨rfl, bond, .inl rfl, paired⟩
  · have ends := runs link image tied
    rw [onConnection_of_link isLink, onConnection_of_link isImage]
    rcases outcome : call link with ⟨error | answer, last⟩ <;>
      rcases otherOutcome : callImage image with ⟨otherError | otherAnswer, lastImage⟩ <;>
      rw [outcome, otherOutcome] at ends
    · obtain ⟨rfl, next, isNext, tied⟩ := ends
      exact ⟨rfl, next, .inr isNext, paired.setLink isLink isImage tied⟩
    · exact ends.elim
    · exact ends.elim
    · obtain ⟨next, isNext, tied⟩ := ends
      exact ⟨next, isNext, paired.setLink isLink isImage tied⟩

end

theorem goesOn (paired : Paired bond.Uses laws name bond session solo)
    {call callImage : ExceptT ε (StateM (Link σ)) α} {fails : Bond → Prop}
    {answers : α → α → Bond → Prop} (connection : String)
    (runs : laws.Runs bond call callImage fails answers)
    (failed : ∀ next, fails next → bond.Carries next)
    (answered : ∀ answer other next, answers answer other next →
      other = answer ∧ bond.Carries next) :
    GoesOn laws name (session.onConnection connection call)
      (solo.onConnection connection callImage) := by
  rcases (paired.onConnection connection runs).cases with
    ⟨answer, other, isAnswer, isOther, next, isNext, paired⟩ |
    ⟨error, isError, isOther, next, rfl | isNext, paired⟩
  · obtain ⟨rfl, carries⟩ := answered answer other next isNext
    exact ⟨isOther.trans isAnswer.symm, next, paired.withUses carries⟩
  · exact ⟨isOther.trans isError.symm, next, paired⟩
  · exact ⟨isOther.trans isError.symm, next, paired.withUses (failed next isNext)⟩

theorem keeps (paired : Paired bond.Uses laws name bond session solo)
    {call callImage : ExceptT ε (StateM (Link σ)) α} (connection : String)
    (keeps : laws.Keeps bond call callImage) :
    GoesOn laws name (session.onConnection connection call)
      (solo.onConnection connection callImage) := by
  refine paired.goesOn connection keeps ?_ ?_
  · rintro _ rfl _ _ uses
    exact uses
  · rintro _ _ _ ⟨rfl, rfl⟩
    exact ⟨rfl, id⟩

theorem opens (paired : Paired bond.Uses laws name bond session solo)
    {call callImage : ExceptT ε (StateM (Link σ)) α} (connection : String)
    (opens : laws.Opens bond call callImage) :
    GoesOn laws name (session.onConnection connection call)
      (solo.onConnection connection callImage) :=
  paired.goesOn connection opens (fun _ follows => follows.carries)
    fun _ _ _ ⟨same, follows⟩ => ⟨same, follows.carries⟩

theorem keeping (paired : Paired bond.Uses laws name bond session solo)
    {call callImage : Call σ α} {put : Session σ → α → Session σ} {fails : Bond → Prop}
    {answers : α → α → Bond → Prop} (connection : String)
    (runs : laws.Runs bond call callImage fails answers)
    (failed : ∀ next, fails next → bond.Carries next)
    (answered : ∀ answer other next, answers answer other next → bond.Carries next ∧
      ∀ {last lastImage}, Paired next.Uses laws name next last lastImage →
        Paired next.Uses laws name next (put last answer) (put lastImage other)) :
    GoesOn laws name (Session.keeping put (session.onConnection connection call))
      (Session.keeping put (solo.onConnection connection callImage)) := by
  have ends := (paired.onConnection connection runs).cases
  generalize session.onConnection connection call = outcome at ends ⊢
  generalize solo.onConnection connection callImage = image at ends ⊢
  rcases outcome with ⟨result, last⟩
  rcases image with ⟨otherResult, lastImage⟩
  rcases ends with ⟨answer, other, rfl, rfl, next, isNext, paired⟩ |
    ⟨error, rfl, rfl, next, rfl | isNext, paired⟩
  · obtain ⟨carries, puts⟩ := answered answer other next isNext
    exact ⟨rfl, next, puts (paired.withUses carries)⟩
  · exact ⟨rfl, next, paired⟩
  · exact ⟨rfl, next, paired.withUses (failed next isNext)⟩

/-! ## Letting go of statements -/

theorem removing (paired : Paired bond.Uses laws name bond session solo)
    {statement : StatementHandle} (image : StatementHandle)
    (isLeft : (∃ parts, bond = .opened parts) → session.IsLeft statement) :
    Paired (bond.removing statement image).Uses laws name bond session solo where
  here := paired.here
  elsewhere := paired.elsewhere
  commands := paired.commands.mono fun _ _ _ isThere related =>
    ⟨related.1, related.2.removing fun isOpened => (isLeft isOpened).commands isThere⟩
  readers := paired.readers.mono fun _ _ _ isThere related =>
    ⟨related.1, related.2.removing fun isOpened => (isLeft isOpened).readers isThere⟩

theorem finalizes (paired : Paired bond.Uses laws name bond session solo)
    {call callImage : ExceptT ε (StateM (Link σ)) Unit} {statement image : StatementHandle}
    (isLeft : (∃ parts, bond = .opened parts) → session.IsLeft statement) (connection : String)
    (runs : laws.Runs bond call callImage (· = bond.removing statement image)
      fun _ _ next => next = bond.removing statement image) :
    GoesOn laws name (session.onConnection connection call)
      (solo.onConnection connection callImage) := by
  rcases ((paired.removing image isLeft).onConnection connection runs).cases with
    ⟨answer, other, isAnswer, isOther, next, rfl, paired⟩ |
    ⟨error, isError, isOther, next, rfl | rfl, paired⟩
  · exact ⟨isOther.trans isAnswer.symm, _, paired⟩
  · exact ⟨isOther.trans isError.symm, next, paired.withUses (next.removing_carries _ _)⟩
  · exact ⟨isOther.trans isError.symm, _, paired⟩

end Paired

end Session

end EmbeddedSql
