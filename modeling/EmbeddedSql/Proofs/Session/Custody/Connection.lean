import EmbeddedSql.Proofs.Query.Custody
import EmbeddedSql.Proofs.Session.Sound

/-! Whatever is asked of a connection, the books stay in order. -/

namespace EmbeddedSql.Session

variable {σ τ ε α β : Type} {backend : Backend σ} {image : Backend τ}
  {mirror : Mirror backend.engine image.engine} {session : Session σ} {state : τ}

section
variable (sound : Sound mirror.toLedger session) (same : mirror.Same session.engine state)
  (sameGrowth : image.growth = backend.growth)
include sound same sameGrowth

omit sound same sameGrowth in
theorem connection_of_used {name : String} (isUnused : session.connectionIsUsed name = false)
    (holder : Holder) (use : Use) (isUsed : session.books.use? holder = some use) :
    use.connection ≠ name := by
  rw [connectionIsUsed, Bool.or_eq_false_iff, List.any_eq_false, List.any_eq_false] at isUnused
  cases holder with
  | command command =>
      rcases Option.map_eq_some_iff.mp isUsed with ⟨held, isHeld, rfl⟩
      simpa [useOfCommand] using isUnused.1 _ (Registry.mem_of_get? isHeld)
  | reader reader =>
      rcases Option.map_eq_some_iff.mp isUsed with ⟨held, isHeld, rfl⟩
      simpa [useOfReader] using isUnused.2 _ (Registry.mem_of_get? isHeld)

omit sound same sameGrowth in
theorem runs_disposeQuietly {before : Situation} (isSound : before.IsSound) :
    mirror.Runs before (disposeQuietly backend) (disposeQuietly image)
      fun _ next => next = before.disposed := by
  refine .get fun link state isSeen => ?_
  have isSame : (link.withEngine state).connection = link.connection := rfl
  rw [isSame, isSeen]
  cases isDisposed : before.connection.isDisposed with
  | true =>
      refine .pure ?_
      have isDisposed := (Connection.isDisposed_iff _).mp isDisposed
      simp only [Situation.disposed, isDisposed]
      exact Situation.ext (by rw [← isDisposed]) rfl
  | false => exact mirror.runs_dispose isSound

omit sameGrowth in
/-- A connection goes once nobody uses it. -/
theorem drop_performs (name : String) :
    Performs mirror (performConnection backend session name .drop)
      (performConnection image (session.withEngine state) name .drop) := by
  have sameConnections : (session.withEngine state).connections = session.connections := rfl
  have sameUsers : (session.withEngine state).connectionIsUsed name =
      session.connectionIsUsed name := rfl
  unfold performConnection
  dsimp only
  rw [sameConnections, sameUsers]
  split
  · exact .unchanged sound same _
  split
  · exact .unchanged sound same _
  rename_i isThere isUsed
  cases isLink : session.link? name with
  | none => simp_all [Registry.contains, link?]
  | some link =>
      have isThere := connection?_of_link isLink
      rcases onConnection_link sound same isLink
        (runs_disposeQuietly (sound.accounts.isSound isThere)) with
        ⟨result, after, next, performed, images, same, valid, isNext⟩
      rw [performed, images]
      have disposed : Sound mirror.toLedger (session.setLink name after) := by
        refine sound.setLink isLink valid ?_
        rw [isNext]
        exact sound.accounts.disposing isThere
      have isLeft : (session.setLink name after).books.connection? name =
          some (mirror.situation after).connection := by
        rw [books_setLink session name isLink, Books.withConnection_self]
        rfl
      rw [isNext] at isLeft
      have erased := disposed.eraseConnection isLeft rfl fun holder use isHeld => by
        rw [books_setLink session name isLink] at isHeld
        exact connection_of_used (by simpa using isUsed) holder use isHeld
      exact ⟨next, rfl, by rwa [← setLink_engine session name after] at same, erased⟩

theorem createCommand_performs (name command : String) (sql : Text) :
    Performs mirror (performConnection backend session name (.createCommand command sql))
      (performConnection image (session.withEngine state) name (.createCommand command sql)) := by
  have sameCommands : (session.withEngine state).commands = session.commands := rfl
  unfold performConnection
  dsimp only
  rw [sameCommands]
  cases isNew : newName (ε := Error) session.commands command with
  | error refusal => exact .unchanged sound same _
  | ok _ =>
      have isFree : session.books.use? (.command command) = none := by
        simp [books, get?_eq_none_of_newName isNew]
      dsimp only
      exact keeping_performs sound same
        (fun connection => Situation.Lends ⟨connection, mirror.handles session.engine⟩
          (·.statement))
        (fun made => ⟨name, made.statement, none⟩)
        (fun after made => { after with commands := after.commands.insert command ⟨name, made⟩ })
        (fun after made => { after with commands := after.commands.insert command ⟨name, made⟩ })
        (fun connection isThere =>
          mirror.runs_createCommand (sound.accounts.isSound isThere) sameGrowth sql)
        (fun _ _ _ isThere isLeft => sound.accounts.continues isThere isLeft)
        (fun _ _ _ isThere lends =>
          sound.accounts.lends (ε := Error) Command.statement isThere lends isFree)
        (fun _ _ _ => rfl) (fun after made => ⟨rfl, books_insertCommand ..⟩)
        fun _ _ _ _ sameReaders _ _ _ isHeld => sound.releases (sameReaders ▸ isHeld)

theorem executeReader_performs (name reader : String) (sql : Text) :
    Performs mirror (performConnection backend session name (.executeReader reader sql))
      (performConnection image (session.withEngine state) name (.executeReader reader sql)) := by
  have sameReaders : (session.withEngine state).readers = session.readers := rfl
  unfold performConnection
  dsimp only
  rw [sameReaders]
  cases isNew : newName (ε := Error) session.readers reader with
  | error refusal => exact .unchanged sound same _
  | ok _ =>
      have isFree : session.books.use? (.reader reader) = none := by
        simp [books, get?_eq_none_of_newName isNew]
      dsimp only
      refine keeping_performs sound same
        (fun connection result next =>
          Situation.Lends ⟨connection, mirror.handles session.engine⟩ (·.statement) result next ∧
            ∀ made, result = .ok made → made.release = .finalize)
        (fun made => ⟨name, made.statement, none⟩)
        (fun after made => { after with readers := after.readers.insert reader ⟨name, none, made⟩ })
        (fun after made => { after with readers := after.readers.insert reader ⟨name, none, made⟩ })
        (fun connection isThere =>
          mirror.runs_connectionReader (sound.accounts.isSound isThere) sameGrowth sql)
        (fun _ _ _ isThere isLeft => sound.accounts.continues isThere isLeft.1)
        (fun _ _ _ isThere isLeft =>
          sound.accounts.lends (ε := Error) Reader.statement isThere isLeft.1 isFree)
        (fun _ _ _ => rfl) (fun after made => ⟨rfl, books_insertReader ..⟩) ?_
      intro connection after made next sameReaders isLeft other held isHeld
      dsimp only at isHeld
      rw [Registry.get?_insert] at isHeld
      split at isHeld
      · obtain rfl := Option.some.inj isHeld
        exact isLeft.2 made rfl
      · exact sound.releases (sameReaders ▸ isHeld)

theorem performConnection_performs (name : String) (request : ConnectionRequest) :
    Performs mirror (performConnection backend session name request)
      (performConnection image (session.withEngine state) name request) := by
  have isSound {connection : Connection}
      (isThere : session.books.connection? name = some connection) :=
    sound.accounts.isSound isThere
  cases request with
  | connect path config pool =>
      refine .commit sound same ?_ fun answer after isOk => ?_
      · have samePools : poolNumber (ε := Error) (session.withEngine state) =
            poolNumber session := rfl
        have sameConnections : (session.withEngine state).connections = session.connections := rfl
        rw [samePools, sameConnections]
        cases newName (ε := Error) session.connections name with
        | error refusal => rfl
        | ok _ =>
            simp only [bind, Except.bind, pure, Except.pure]
            repeat' split
            all_goals rfl
      · cases isNew : newName (ε := Error) session.connections name with
        | error refusal => simp [isNew, bind, Except.bind] at isOk
        | ok _ =>
            have isFree := get?_eq_none_of_newName isNew
            simp only [isNew, bind, Except.bind, pure, Except.pure] at isOk
            repeat' split at isOk
            all_goals cases isOk
            refine ⟨rfl, sound.valid, ?_, sound.releases⟩
            rw [books_insertConnection]
            exact sound.accounts.connecting (by simp [books, isFree]) rfl
  | state =>
      refine .commit sound same ?_ fun answer after isOk => ?_
      · have sameConnections : (session.withEngine state).connections = session.connections := rfl
        rw [sameConnections]
        cases session.connections.get? name <;> rfl
      · split at isOk <;> cases isOk
        exact ⟨rfl, sound⟩
  | ensureOpen =>
      refine (onConnection_opens sound same fun connection isThere => ?_).map _
      rw [sameGrowth]
      exact (mirror.opens_ensureOpen _).mono fun _ _ isLeft => isLeft.1
  | dispose =>
      exact (onConnection_disposes sound same fun connection isThere =>
        mirror.runs_dispose (isSound isThere)).map _
  | drop => exact drop_performs sound same name
  | changes =>
      refine (onConnection_opens sound same fun connection isThere => ?_).map _
      rw [sameGrowth]
      exact mirror.opens_changes _ (isSound isThere)
  | pendingStatements =>
      exact (onConnection_opens sound same fun connection isThere =>
        (mirror.keeps_pendingStatements (isSound isThere)).opens).map _
  | lastInsertRowid =>
      refine (onConnection_opens sound same fun connection isThere => ?_).map _
      rw [sameGrowth]
      exact mirror.opens_lastInsertRowid _ (isSound isThere)
  | executeNonQuery sql =>
      exact (onConnection_opens sound same fun connection isThere =>
        mirror.opens_executeNonQuery (isSound isThere) sameGrowth sql).map _
  | executeReader reader sql => exact executeReader_performs sound same sameGrowth name reader sql
  | createCommand command sql => exact createCommand_performs sound same sameGrowth name command sql

end

end EmbeddedSql.Session
