import EmbeddedSql.Proofs.Session.Isolation
import EmbeddedSql.Proofs.Session.Release
import EmbeddedSql.Proofs.Storage.Isolation

/-! Connections to private databases whose programs take turns. Each one is answered as if
there were no other, however the turns are taken. -/

namespace EmbeddedSql.Session

variable {σ : Type} {backend : Backend σ} {laws : Isolation backend.engine} {share : Share}
  {name : String} {session solo : Session σ}

/-! ## The part that a share has in a session -/

section
variable {bond : Bond} (sound : Sound laws.toLedger session) (isDivided : session.IsDivided share)
include sound isDivided

theorem ownsApart_only (isOf : share.IsOf name)
    (isLive : ∀ connection, session.books.connection? name = some connection →
      connection.lifecycle ≠ .disposed) : (session.only share).OwnsApart := by
  intro holder use isUsed isOwn isUnlent other otherUse isElsewhere isOther isSame
  obtain ⟨isKept, isUsed⟩ := use?_only.mp isUsed
  obtain ⟨otherIsKept, isOther⟩ := use?_only.mp isOther
  have isHere : use.connection = name := (isOf _).mp ((isDivided.holds_iff isUsed).symm.trans isKept)
  have otherIsHere : otherUse.connection = name :=
    (isOf _).mp ((isDivided.holds_iff isOther).symm.trans otherIsKept)
  obtain ⟨connection, isThere, -⟩ := sound.accounts.holds isUsed
  rw [isHere] at isThere
  have isUnlentAtAll (command) (isCommand : holder = .command command) (third thirdUse)
      (isThird : session.books.use? third = some thirdUse) : thirdUse.lender? ≠ some command := by
    intro isLent
    have isIn := isDivided.lends_iff isThird isLent
    rw [isCommand] at isKept
    exact isUnlent command isCommand third thirdUse
      (use?_only.mpr ⟨isIn.symm.trans isKept, isThird⟩) isLent
  exact isLive connection isThere (sound.accounts.disposed_of_other isUsed isOwn isUnlentAtAll
    (isHere ▸ isThere) (isLive connection isThere) isElsewhere isOther isSame (otherIsHere ▸ isThere))

theorem orderly_only (isUnique : session.HasUniqueNames) (isOf : share.IsOf name)
    (paired : Paired bond.Uses laws name bond (session.only share) solo) :
    Orderly bond (session.only share) where
  isUnique := {
    commands := isUnique.commands.sublist (List.filter_sublist.map _)
    readers := isUnique.readers.sublist (List.filter_sublist.map _) }
  releases isHeld := sound.releases ((Registry.get?_only_eq_some _).mp isHeld).2
  ownsApart := by
    rintro ⟨parts, rfl⟩
    refine ownsApart_only sound isDivided isOf fun connection isThere => ?_
    have here := paired.here
    simp only [books, Option.map_eq_some_iff] at isThere
    obtain ⟨held, isHeld, rfl⟩ := isThere
    rw [link?_only ((isOf name).mpr rfl), link?_of_held isHeld] at here
    generalize solo.link? name = image at here
    cases here with
    | some tied =>
        intro isDisposed
        cases tied.isLive.1.symm.trans ((Connection.isDisposed_iff _).mpr isDisposed)

end

/-! ## Requests of others -/

/-- The engine and the pools may change as long as the connection goes with its counterpart. -/
theorem Paired.elsewhereChanged {uses : StatementHandle → StatementHandle → Prop} {bond : Bond}
    (paired : Paired uses laws name bond session solo) {after : Session σ}
    (connections : after.connections = session.connections)
    (commands : after.commands = session.commands) (readers : after.readers = session.readers)
    (stays : ∀ link other pool, session.link? name = some link → laws.Tied bond link other →
      laws.Tied bond { link with pool, engine := after.engine } other) :
    Paired uses laws name bond after solo where
  here := by
    have here := paired.here
    cases isHeld : session.connections.get? name with
    | none =>
        rw [link?_eq_none.mpr isHeld] at here
        rwa [link?_eq_none.mpr (connections ▸ isHeld)]
    | some held =>
        rw [link?_of_held isHeld] at here
        rw [@link?_of_held _ after _ _ (connections ▸ isHeld)]
        cases isImage : solo.link? name with
        | none =>
            rw [isImage] at here
            cases here
        | some other =>
            rw [isImage] at here
            cases here with
            | some tied => exact .some (stays _ _ _ (link?_of_held isHeld) tied)
  elsewhere isOther := by
    obtain ⟨isMissing, isMissingImage⟩ := paired.elsewhere isOther
    rw [link?_eq_none] at isMissing
    exact ⟨link?_eq_none.mpr (connections ▸ isMissing), isMissingImage⟩
  commands := commands ▸ paired.commands
  readers := readers ▸ paired.readers

/-! ## Turns -/

/-- What is made under the names of the share goes together with all that the other session
has. -/
structure GoesAlong (laws : Isolation backend.engine) (share : Share) (name : String)
    (session solo : Session σ) : Prop where
  sound : Sound laws.toLedger session
  isUnique : session.HasUniqueNames
  isDivided : session.IsDivided share
  paired : ∃ bond : Bond, Paired bond.Uses laws name bond (session.only share) solo

namespace GoesAlong

variable (along : GoesAlong laws share name session solo) (isOf : share.IsOf name)
  {request : Request}
include along isOf

theorem both (isOwned : share.owns request = true) :
    (perform backend solo request).1.veiled = (perform backend session request).1.veiled ∧
      GoesAlong laws share name (perform backend session request).2
        (perform backend solo request).2 := by
  obtain ⟨sound, isUnique, isDivided, bond, paired⟩ := along
  have divides : Divides share session (perform backend session request) _ :=
    perform_divides isDivided request (Share.covers_of_owns isOwned)
  have orderly := orderly_only sound isDivided isUnique isOf paired
  have goesOn : GoesOn laws name ((perform backend (session.only share) request).1.veiled, _) _ :=
    perform_goesOn paired orderly isOwned
  rw [divides.isPart] at goesOn
  exact ⟨goesOn.1, perform_sound sound request, perform_uniqueNames backend isUnique request,
    divides.isDivided, goesOn.2⟩

theorem one (isCovered : share.others.covers request = true) :
    GoesAlong laws share name (perform backend session request).2 solo := by
  obtain ⟨sound, isUnique, isDivided, bond, paired⟩ := along
  have divides : Divides share.others session (perform backend session request) _ :=
    perform_divides isDivided.others request isCovered
  have soundAfter := perform_sound sound request
  have isDividedAfter := divides.isDivided.others
  obtain ⟨connections, commands, readers⟩ := divides.beyond
  rw [share.others_others] at connections commands readers isDividedAfter
  refine ⟨soundAfter, perform_uniqueNames backend isUnique request, isDividedAfter, bond, ?_⟩
  refine paired.elsewhereChanged connections commands readers fun link other pool isLink tied => ?_
  rw [link?_only ((isOf name).mpr rfl)] at isLink
  have isEngine := engine_of_link isLink
  have isThere := connection?_of_link isLink
  cases tied with
  | unopened _ valid => exact .unopened soundAfter.valid valid
  | opened alike =>
      cases isEngine
      exact .opened (alike_beyond laws isOf sound isDivided isThere rfl alike isCovered)
  | disposed => exact .disposed

end GoesAlong

/-! ## Programs -/

theorem run_cons (session : Session σ) (request : Request) (rest : List Request) :
    (run backend session (request :: rest)).1 =
      (perform backend session request).1 ::
        (run backend (perform backend session request).2 rest).1 := rfl

def Share.answers (share : Share) : List Request → List Response → List Response
  | request :: requests, response :: responses =>
      if share.owns request then response.veiled :: share.answers requests responses
      else share.answers requests responses
  | _, _ => []

theorem GoesAlong.run (along : GoesAlong laws share name session solo) (isOf : share.IsOf name)
    (requests : List Request) (takeTurns : ∀ request ∈ requests,
      share.owns request = true ∨ share.others.covers request = true) :
    share.answers requests (run backend session requests).1 =
      (Session.run backend solo (requests.filter share.owns)).1.map Response.veiled := by
  induction requests generalizing session solo with
  | nil => rfl
  | cons request rest induction =>
      obtain ⟨first, others⟩ := List.forall_mem_cons.mp takeTurns
      rw [run_cons, Share.answers]
      by_cases isOwned : share.owns request = true
      · obtain ⟨same, along⟩ := along.both isOf isOwned
        rw [if_pos isOwned, List.filter_cons_of_pos isOwned, induction along others, ← same]
        rfl
      · have along := along.one isOf (first.resolve_left isOwned)
        rw [if_neg isOwned, List.filter_cons_of_neg isOwned]
        exact induction along others

/-- A session with one connection that nothing has been asked of, and a fresh pool. -/
def alone (name : String) (config : ConnectionConfig) (engine : σ) : Session σ where
  engine := engine
  connections := [(name, ⟨0, { config }⟩)]

theorem alone_link?_self (config : ConnectionConfig) (engine : σ) :
    (alone name config engine).link? name = some { connection := { config }, pool := {}, engine } := by
  simp [alone, link?, Registry.get?, pool]

theorem alone_link?_other {other : String} (isOther : other ≠ name) (config : ConnectionConfig)
    (engine : σ) : (alone name config engine).link? other = none := by
  have isSkipped : (other == name) = false := by simp [isOther]
  simp [alone, link?, Registry.get?, List.lookup_cons, isSkipped]

theorem GoesAlong.start {config : ConnectionConfig} {number : Nat} {image : σ}
    (sound : Sound laws.toLedger session) (noCommands : session.commands = [])
    (noReaders : session.readers = []) (isOf : share.IsOf name)
    (isThere : session.connections.get? name = some ⟨number, { config }⟩)
    (valid : laws.Valid image) : GoesAlong laws share name session (alone name config image) where
  sound := sound
  isUnique := {
    commands := by simp [noCommands, Registry.names]
    readers := by simp [noReaders, Registry.names] }
  isDivided := {
    commands := by simp [noCommands]
    readers := by simp [noReaders]
    lenders := by simp [noReaders] }
  paired := by
    refine ⟨.unopened, ?_, fun {other} isOther => ⟨?_, alone_link?_other isOther config image⟩, ?_, ?_⟩
    · rw [link?_only ((isOf name).mpr rfl), link?_of_held isThere, alone_link?_self]
      exact .some (.unopened sound.valid valid)
    · rw [link?_eq_none, ← Option.not_isSome_iff_eq_none, Option.isSome_iff_exists]
      rintro ⟨held, isHeld⟩
      exact isOther ((isOf other).mp ((Registry.get?_only_eq_some _).mp isHeld).1)
    · simp only [only, noCommands]
      exact .nil
    · simp only [only, noReaders]
      exact .nil

/-- Two connections to private databases do not interfere, whatever pools they have and whatever
is asked of the pools: each is answered as if its program ran alone, with a fresh pool. -/
theorem run_interleaved {first second : String} {firstConfig secondConfig : ConnectionConfig}
    {firstPool secondPool : Nat} (sound : Sound laws.toLedger session)
    (noCommands : session.commands = []) (noReaders : session.readers = [])
    (firstIsThere : session.connections.get? first = some ⟨firstPool, { config := firstConfig }⟩)
    (secondIsThere :
      session.connections.get? second = some ⟨secondPool, { config := secondConfig }⟩)
    {one two : Share} (oneIsOf : one.IsOf first) (twoIsOf : two.IsOf second)
    (areApart : one.Within two.others) {engine : σ} (valid : laws.Valid engine)
    (requests : List Request) (takeTurns : ∀ request ∈ requests,
      one.owns request = true ∨ two.owns request = true ∨ ∃ inner, request = .pool inner) :
    let responses := (run backend session requests).1
    one.answers requests responses =
        (run backend (alone first firstConfig engine) (requests.filter one.owns)).1.map
          Response.veiled ∧
      two.answers requests responses =
        (run backend (alone second secondConfig engine) (requests.filter two.owns)).1.map
          Response.veiled := by
  have firstAlong : GoesAlong laws one first session (alone first firstConfig engine) :=
    .start sound noCommands noReaders oneIsOf firstIsThere valid
  have secondAlong : GoesAlong laws two second session (alone second secondConfig engine) :=
    .start sound noCommands noReaders twoIsOf secondIsThere valid
  constructor
  · refine firstAlong.run oneIsOf requests fun request isThere => ?_
    rcases takeTurns request isThere with isOne | isTwo | ⟨inner, rfl⟩
    · exact .inl isOne
    · exact .inr (areApart.symm.covers (Share.covers_of_owns isTwo))
    · exact .inr rfl
  · refine secondAlong.run twoIsOf requests fun request isThere => ?_
    rcases takeTurns request isThere with isOne | isTwo | ⟨inner, rfl⟩
    · exact .inr (areApart.covers (Share.covers_of_owns isOne))
    · exact .inl isTwo
    · exact .inr rfl

def Share.ofCommand (connection command : String) : Share where
  connections name := name = connection
  commands name := name = command
  readers _ := false

/-- Two connections with one pool, from which a buffer was rented that is not empty. -/
def sharingOnePool : List Request :=
  [.pool (.create "p" none), .pool (.rent "p" "b" 8), .pool (.append "b" [0x71, 0x72]),
    .connection "c" (.connect none none (some "p")), .connection "d" (.connect none none (some "p"))]

def takingTurns : List Request :=
  [.connection "c" (.executeNonQuery (.ofString "CREATE TABLE t(a)")), .pool (.release "b"),
    .connection "d" (.createCommand "l" (.ofString "SELECT ?")),
    .connection "c" (.createCommand "k" (.ofString "INSERT INTO t VALUES(?)")),
    .command "l" (.bindText (.index 1) (.ofString "x")), .pool (.rent "p" "b" 4),
    .command "k" .executeNonQuery, .connection "d" (.executeNonQuery (.ofString "DROP TABLE t"))]

theorem run_interleaved_tables :
    let session := (run Storage.backend { engine := {} } sharingOnePool).2
    let responses := (run Storage.backend session takingTurns).1
    let one := Share.ofCommand "c" "k"
    let two := Share.ofCommand "d" "l"
    one.answers takingTurns responses =
        (run Storage.backend (alone "c" {} {}) (takingTurns.filter one.owns)).1.map
          Response.veiled ∧
      two.answers takingTurns responses =
        (run Storage.backend (alone "d" {} {}) (takingTurns.filter two.owns)).1.map
          Response.veiled := by
  intro session
  have isFresh := Storage.isolation_empty
  have sound : Sound Storage.isolation.toLedger session :=
    run_sound (sound_of_nothing isFresh.1 isFresh.2) sharingOnePool
  have noCommands : session.commands = [] := by decide +kernel
  have noReaders : session.readers.isEmpty = true := by decide +kernel
  have first : session.connections.get? "c" = some ⟨1, {}⟩ := by decide +kernel
  have second : session.connections.get? "d" = some ⟨1, {}⟩ := by decide +kernel
  clear_value session
  have areApart : (Share.ofCommand "c" "k").Within (Share.ofCommand "d" "l").others := by
    refine ⟨fun name isOne => ?_, fun name isOne => ?_, nofun⟩
    · cases of_decide_eq_true isOne
      rfl
    · cases of_decide_eq_true isOne
      rfl
  refine run_interleaved sound noCommands (List.isEmpty_iff.mp noReaders) first second
    (fun _ => decide_eq_true_iff) (fun _ => decide_eq_true_iff) areApart isFresh.1 takingTurns
    fun request isThere => ?_
  simp only [takingTurns, List.mem_cons, List.not_mem_nil, or_false] at isThere
  rcases isThere with rfl | rfl | rfl | rfl | rfl | rfl | rfl | rfl
  all_goals first | exact .inl rfl | exact .inr (.inl rfl) | exact .inr (.inr ⟨_, rfl⟩)

end EmbeddedSql.Session
