import EmbeddedSql.Proofs.Session.Holders
import EmbeddedSql.Proofs.Session.Lifecycle
import EmbeddedSql.Proofs.Session.Sound

/-! Readers among the requests of a session: a reader that is not asked itself stays what it
is, and its connection stays as long as it does. -/

namespace EmbeddedSql.Session

variable {σ : Type} {backend : Backend σ} {session : Session σ} {request : Request}
  {name : String} {held : HeldReader}

def Request.asked? (name : String) : Request → Option ReaderRequest
  | .reader other asked => if other = name then some asked else none
  | _ => none

theorem Request.of_asked {asked : ReaderRequest} (isAsked : request.asked? name = some asked) :
    request = .reader name asked := by
  unfold Request.asked? at isAsked
  split at isAsked
  · split at isAsked
    · rename_i isName
      rw [isName, Option.some.inj isAsked]
    · cases isAsked
  · cases isAsked

@[simp] theorem Request.asked?_self (name : String) (asked : ReaderRequest) :
    (Request.reader name asked).asked? name = some asked :=
  if_pos rfl

/-! ## What stays -/

theorem reader_stays (backend : Backend σ) (isHeld : session.readers.get? name = some held)
    (isOther : request.asked? name = none) :
    ∃ cells, (perform backend session request).2.readers.get? name =
      some { held with reader := { held.reader with cells } } := by
  have changes : HoldersChange request session _ := perform_holders backend request
  rcases changes.readers.of_before isHeld with isThere | ⟨new, suits, isThere⟩ | isDisposed
  · exact ⟨held.reader.cells, isThere⟩
  · rcases suits with ⟨isNew, -, -, -⟩ | ⟨isAsked, -, -, -, -⟩ | ⟨isFound, rfl⟩
    · cases isNew.symm.trans isHeld
    · rw [isAsked, Request.asked?_self] at isOther
      cases isOther
    · obtain rfl := Option.some.inj (isFound.symm.trans isHeld)
      exact ⟨_, isThere⟩
  · rw [isDisposed, Request.asked?_self] at isOther
    cases isOther

theorem reader_before (isOther : request.asked? name = none)
    (isAfter : (perform backend session request).2.readers.get? name = some held) :
    (∃ found, session.readers.get? name = some found ∧ found.connection = held.connection ∧
        found.reader.cursor = held.reader.cursor) ∨
      session.readers.get? name = none ∧ held.reader.cursor = .beforeFirst ∧
        (session.lifecycle? held.connection).isSome ∧
          request ≠ .connection held.connection .drop := by
  have changes : HoldersChange request session _ := perform_holders backend request
  rcases changes.readers.of_after isAfter with isHeld |
    ⟨isNew, isFresh, isThere, isNoDrop⟩ | ⟨isAsked, -, -, -, -⟩ | ⟨isFound, rfl⟩
  · exact .inl ⟨held, isHeld, rfl, rfl⟩
  · exact .inr ⟨isNew, isFresh, by rwa [lifecycle?, Option.isSome_map], isNoDrop⟩
  · rw [isAsked, Request.asked?_self] at isOther
    cases isOther
  · exact .inl ⟨_, isFound, rfl, rfl⟩

theorem connection_kept {target : String} (isThere : (session.lifecycle? target).isSome)
    (isNoDrop : request ≠ .connection target .drop) :
    ((perform backend session request).2.lifecycle? target).isSome := by
  obtain ⟨lifecycle, isLifecycle⟩ := Option.isSome_iff_exists.mp isThere
  obtain ⟨found, isFound, -⟩ := Option.map_eq_some_iff.mp isLifecycle
  have ofFollows {after : Session σ} (follows : Follows target session after) :
      (after.lifecycle? target).isSome := by
    obtain ⟨next, isNext, -⟩ := follows found isFound
    rw [lifecycle?, isNext]
    rfl
  cases request with
  | pool request =>
      have objects : SameObjects session (perform backend session (.pool request)).2 :=
        performPool_objects backend request
      exact ofFollows (.of_connections (congrArg (·.get? target) objects.connections))
  | connection other request =>
      by_cases isOther : request = .dispose ∨ request = .drop → target ≠ other
      · exact ofFollows (performConnection_follows backend session target other request isOther)
      obtain ⟨ends, isTarget⟩ := Classical.not_imp.mp isOther
      obtain rfl := not_ne_iff.mp isTarget
      rcases ends with rfl | rfl
      · show ((done (session.onConnection target
          (Connection.dispose backend.engine))).2.lifecycle? target).isSome
        have isLink := link?_of_held isFound
        rw [onConnection_of_link isLink]
        exact lifecycle?_setLink session target isLink _ ▸ rfl
      · exact absurd rfl isNoDrop
  | command command request =>
      exact ofFollows (performCommand_follows backend session target command request)
  | reader reader request =>
      exact ofFollows (performReader_follows backend session target reader request)
  | query request => exact ofFollows (performQuery_follows backend session target request)

theorem connection_stays (isHeld : session.readers.get? name = some held)
    (isThere : (session.lifecycle? held.connection).isSome) :
    ((perform backend session request).2.lifecycle? held.connection).isSome := by
  by_cases isDrop : request = .connection held.connection .drop
  case neg => exact connection_kept isThere isDrop
  have isUsed : session.connectionIsUsed held.connection = true := by
    rw [connectionIsUsed, Bool.or_eq_true, List.any_eq_true, List.any_eq_true]
    exact .inr ⟨_, Registry.mem_of_get? isHeld, decide_eq_true rfl⟩
  have isFound : session.connections.contains held.connection = true := by
    rwa [lifecycle?, Option.isSome_map] at isThere
  have isRefused : (perform backend session request).2 = session := by
    subst isDrop
    show (performConnection backend session held.connection .drop).2 = session
    unfold performConnection
    rw [isFound, isUsed]
    rfl
  rw [isRefused]
  exact isThere

theorem live_stays (isHeld : session.readers.get? name = some held) {connection : Connection}
    (isThere : session.books.connection? held.connection = some connection)
    (isKept : request.disposes held.connection = false) :
    ∃ next, (perform backend session request).2.books.connection? held.connection = some next ∧
      connection.Continues next := by
  obtain ⟨found, isFound, rfl⟩ := Option.map_eq_some_iff.mp isThere
  have isFound : session.connections.get? held.connection = some found := isFound
  have isSome : (session.lifecycle? held.connection).isSome := by
    rw [lifecycle?, isFound]
    rfl
  obtain ⟨next, isNext, continues⟩ := perform_follows backend session held.connection isKept
    (connection_stays isHeld isSome) found isFound
  exact ⟨next.connection, by simp [books, isNext], continues⟩

theorem live_before (isHeld : session.readers.get? name = some held)
    (isThere : (session.lifecycle? held.connection).isSome)
    (isLive : (perform backend session request).2.lifecycle? held.connection ≠ some .disposed) :
    session.lifecycle? held.connection ≠ some .disposed := by
  intro isDisposed
  have stays : ((perform backend session request).2.lifecycle? held.connection).isSome :=
    connection_stays isHeld isThere
  obtain ⟨next, isNext, steps⟩ := step_of_kept isDisposed stays
  rcases steps with continues | ⟨-, wasLive, -, -⟩
  · cases continues
    exact isLive isNext
  · exact absurd rfl wasLive

theorem link_of_connection {connection : Connection}
    (isThere : session.books.connection? name = some connection) :
    ∃ link, session.link? name = some link ∧ link.connection = connection ∧
      link.engine = session.engine := by
  obtain ⟨found, isFound, rfl⟩ := Option.map_eq_some_iff.mp isThere
  exact ⟨_, link?_of_held isFound, rfl, rfl⟩

/-! ## What is asked of a reader -/

section
variable (isHeld : session.readers.get? name = some held)
include isHeld

theorem performReader_of_held (asked : ReaderRequest) :
    perform backend session (.reader name asked) =
      (.plain (useReader backend session name held asked).1,
        (useReader backend session name held asked).2) := by
  have isFound : session.findReader (ε := Error) name = .ok held := by rw [findReader, isHeld]
  simp only [perform, performReader, isFound]

variable {link : Link σ} (isLink : session.link? held.connection = some link)
include isLink

theorem perform_read :
    perform backend session (.reader name .read) =
      (.plain (((held.reader.read backend.engine link).1.1.map .boolean).mapError .failed),
        { session.setLink held.connection (held.reader.read backend.engine link).2 with
          readers := session.readers.insert name
            { held with reader := (held.reader.read backend.engine link).1.2 } }) := by
  rw [performReader_of_held isHeld]
  unfold useReader
  dsimp only
  rw [isLink]
  dsimp only
  rcases held.reader.read backend.engine link with ⟨⟨error | found, reader⟩, last⟩ <;>
    rfl

theorem perform_accessor {asked : ReaderRequest} (isAccessor : asked.isAccessor = true) :
    perform backend session (.reader name asked) =
      (.plain ((accessor backend asked held.reader link).1.mapError .failed),
        { session with
          readers := session.readers.insert name
            { held with reader := (accessor backend asked held.reader link).2 } }) := by
  rw [performReader_of_held isHeld, useReader_accessor backend session name held isAccessor,
    access_of_link isLink]

end

end EmbeddedSql.Session
