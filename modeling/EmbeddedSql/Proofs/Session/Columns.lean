import Mathlib.Algebra.Group.Nat.Defs
import EmbeddedSql.Proofs.Session.Readers
import EmbeddedSql.Storage.Backend

/-! Main result: what an accessor of one column is answered depends on the connection, on the
last call of `read` and on the number of columns, in this order. What is refused leaves
everything as it was. -/

namespace EmbeddedSql

/-! ## Indices and what is found at them -/

namespace Session

variable {σ : Type}

def ReaderRequest.column? : ReaderRequest → Option Nat
  | .name column | .nameUtf16 column | .storageClass column | .isNull column | .int32 column
  | .int64 column | .real column | .bytes column | .string column | .utf16 column
  | .copyBytes column _ | .copyUtf8 column _ | .copyUtf16 column _ => some column
  | _ => none

def ReaderRequest.asksForName : ReaderRequest → Bool
  | .name _ | .nameUtf16 _ => true
  | _ => false

/-- The guard of a request about a column, which finds the index for the engine. -/
def index (engine : Engine σ) (request : ReaderRequest) (reader : Reader) (column : Nat)
    (link : Link σ) : Except Error Int32 :=
  if request.asksForName then reader.columnIndex engine column link
  else reader.rowColumn engine column link

/-- What the engine has at an index, as the request asks for it, and the reader then. -/
def found (engine : Engine σ) (request : ReaderRequest) (reader : Reader) (index : Int32)
    (state : σ) : Answer × Reader :=
  let name := (engine.columnName? reader.statement index state).getD []
  let cell := reader.cellAt index
  match request with
  | .name _ => (.string (some (Utf8.toString name)), reader)
  | .nameUtf16 _ => (.utf16 (Lenient.toUtf16 name), reader)
  | .storageClass _ => (.storageClass cell.storageClass, reader)
  | .isNull _ => (.boolean (cell.storageClass = .null), reader)
  | .int32 _ => (.number cell.toInt32.toInt, reader)
  | .int64 _ => (.int64 cell.toInt64, reader)
  | .real _ => (.real cell.toReal, reader)
  | .bytes _ => (.bytes cell.toBytes, reader)
  | .string _ => (.string (some (Utf8.toString cell.utf8.1)), reader.keepCell index cell.utf8.2)
  | .utf16 _ => (.utf16 cell.utf16.1, reader.keepCell index cell.utf16.2)
  | .copyBytes _ destination =>
      let (written, destination) := Reader.copyInto cell.toBytes destination
      (.copiedBytes written destination, reader)
  | .copyUtf8 _ destination =>
      let (written, destination) := Reader.copyInto cell.utf8.1 destination
      (.copiedBytes written destination, reader.keepCell index cell.utf8.2)
  | .copyUtf16 _ destination =>
      let (written, destination) := Reader.copyInto cell.utf16.1 destination
      (.copiedUtf16 written destination, reader.keepCell index cell.utf16.2)
  | _ => (.nothing, reader)

def ReaderRequest.destination? : ReaderRequest → Option (Bytes ⊕ Utf16.Units)
  | .copyBytes _ destination | .copyUtf8 _ destination => some (.inl destination)
  | .copyUtf16 _ destination => some (.inr destination)
  | _ => none

def destinationAfter? (engine : Engine σ) (request : ReaderRequest) (reader : Reader)
    (link : Link σ) : Option (Bytes ⊕ Utf16.Units) :=
  match request with
  | .copyBytes column destination =>
      some (.inl (reader.copyBytes engine column destination link).destination)
  | .copyUtf8 column destination =>
      some (.inl (reader.copyUtf8 engine column destination link).1.destination)
  | .copyUtf16 column destination =>
      some (.inr (reader.copyUtf16 engine column destination link).1.destination)
  | _ => none

section
variable {backend : Backend σ} {request : ReaderRequest} {column : Nat}

theorem ReaderRequest.isAccessor_of_column (isColumn : request.column? = some column) :
    request.isAccessor = true := by
  cases request <;> first | rfl | cases isColumn

theorem accessor_eq (isColumn : request.column? = some column) (reader : Reader) (link : Link σ) :
    accessor backend request reader link =
      match index backend.engine request reader column link with
      | .error error => (.error error, reader)
      | .ok index =>
          (.ok (found backend.engine request reader index link.engine).1,
            (found backend.engine request reader index link.engine).2) := by
  unfold index
  cases request
  all_goals first
    | cases isColumn; done
    | skip
  all_goals
    obtain rfl := Option.some.inj isColumn
    simp only [ReaderRequest.asksForName, if_true, Bool.false_eq_true, if_false, accessor, look,
      Reader.nameString, Reader.nameUtf16, Reader.name, Reader.storageClass, Reader.isNull,
      Reader.int32, Reader.int64, Reader.real, Reader.bytes, Reader.string, Reader.utf8,
      Reader.utf16, Reader.take, Reader.cell, Reader.copyBytes, Reader.copyUtf8,
      Reader.copyUtf16]
  case name | nameUtf16 =>
    cases reader.columnIndex backend.engine _ link <;> rfl
  all_goals cases reader.rowColumn backend.engine _ link <;> rfl

theorem destination_of_refused {engine : Engine σ} {reader : Reader} {link : Link σ} {error : Error}
    (isColumn : request.column? = some column)
    (isRefused : index engine request reader column link = .error error) :
    destinationAfter? engine request reader link = request.destination? := by
  cases request
  case copyBytes | copyUtf8 | copyUtf16 =>
    obtain rfl := Option.some.inj isColumn
    have isRefused : reader.rowColumn engine _ link = .error error := isRefused
    simp only [destinationAfter?, ReaderRequest.destination?, Reader.copyBytes, Reader.copyUtf8,
      Reader.copyUtf16, Reader.bytes, Reader.utf8, Reader.utf16, Reader.take, Reader.cell,
      isRefused, Except.map, Reader.copy]
  all_goals rfl

end

/-! ## The last call of `read` -/

/-- Whether the last call of `read` has found a row, kept up with every request and its
response. A reader that is disposed of takes its last call with it. -/
def lastFound (name : String) (found : Bool) : Request × Response → Bool
  | (request, response) =>
      match request.asked? name, response with
      | some .read, .plain (.ok (.boolean answer)) => answer
      | some .read, _ => false
      | some .dispose, _ => false
      | _, _ => found

/-- A reader under the name has a row exactly if the last call of `read` has found one. -/
structure Tracks (session : Session σ) (name : String) (found : Bool) : Prop where
  missing : session.readers.get? name = none → found = false
  connected : ∀ {held}, session.readers.get? name = some held →
    (session.lifecycle? held.connection).isSome
  onRow : ∀ {held}, session.readers.get? name = some held →
    session.lifecycle? held.connection ≠ some .disposed →
      (held.reader.cursor = .onRow ↔ found = true)

namespace Tracks

variable {backend : Backend σ} {session : Session σ} {name : String} {found : Bool}
  {request : Request}

theorem ofNothing (state : σ) : Tracks { engine := state } name false :=
  ⟨fun _ => rfl, nofun, nofun⟩

theorem link (tracks : session.Tracks name found) {held : HeldReader}
    (isHeld : session.readers.get? name = some held) :
    ∃ link, session.link? held.connection = some link := by
  obtain ⟨lifecycle, isThere⟩ := Option.isSome_iff_exists.mp (tracks.connected isHeld)
  obtain ⟨connection, isConnection, -⟩ := Option.map_eq_some_iff.mp isThere
  exact ⟨_, link?_of_held isConnection⟩

theorem asked (tracks : session.Tracks name found) {held : HeldReader}
    (isHeld : session.readers.get? name = some held) {reader : Reader} {next : Bool}
    (isAfter : (perform backend session request).2.readers.get? name =
      some { held with reader })
    (onRow : (perform backend session request).2.lifecycle? held.connection ≠ some .disposed →
      (reader.cursor = .onRow ↔ next = true)) :
    (perform backend session request).2.Tracks name next where
  missing isMissing := nomatch isMissing.symm.trans isAfter
  connected isThere := by
    have stays : ((Session.perform backend session request).2.lifecycle? held.connection).isSome :=
      connection_stays isHeld (tracks.connected isHeld)
    obtain rfl := Option.some.inj (isAfter.symm.trans isThere)
    exact stays
  onRow isThere isLive := by
    obtain rfl := Option.some.inj (isAfter.symm.trans isThere)
    exact onRow isLive

theorem unasked (tracks : session.Tracks name found) (isOther : request.asked? name = none) :
    (perform backend session request).2.Tracks name found where
  missing isMissing := by
    cases isHeld : session.readers.get? name with
    | none => exact tracks.missing isHeld
    | some held =>
        obtain ⟨cells, isThere⟩ := reader_stays backend isHeld isOther
        cases isThere.symm.trans isMissing
  connected isThere := by
    rcases reader_before isOther isThere with ⟨found, isHeld, sameConnection, -⟩ |
      ⟨-, -, isConnected, isNoDrop⟩
    · rw [← sameConnection]
      exact connection_stays isHeld (tracks.connected isHeld)
    · exact connection_kept isConnected isNoDrop
  onRow isThere isLive := by
    rcases reader_before isOther isThere with ⟨found, isHeld, sameConnection, sameCursor⟩ |
      ⟨isNew, isFresh, -⟩
    · rw [← sameConnection] at isLive
      rw [← sameCursor]
      exact tracks.onRow isHeld (live_before isHeld (tracks.connected isHeld) isLive)
    · simp [tracks.missing isNew, isFresh]

theorem perform_missing (isMissing : session.readers.get? name = none) (asked : ReaderRequest) :
    perform backend session (.reader name asked) =
      (.plain (.error .noSuchHandle), session) := by
  simp only [perform, performReader, findReader, isMissing]

theorem perform (tracks : session.Tracks name found) (request : Request) :
    (Session.perform backend session request).2.Tracks name
      (lastFound name found (request, (Session.perform backend session request).1)) := by
  cases isAsked : request.asked? name with
  | none =>
      simp only [lastFound, isAsked]
      exact tracks.unasked isAsked
  | some asked =>
      obtain rfl := Request.of_asked isAsked
      cases isHeld : session.readers.get? name with
      | none =>
          have isFalse := tracks.missing isHeld
          rw [perform_missing isHeld]
          cases asked <;> simp only [lastFound, isAsked] <;> exact isFalse ▸ tracks
      | some held =>
          obtain ⟨link, isLink⟩ := tracks.link isHeld
          cases isAccessor : asked.isAccessor with
          | true =>
              have stays : lastFound name found (.reader name asked,
                  (Session.perform backend session (.reader name asked)).1) = found := by
                cases asked <;> simp only [lastFound, isAsked] <;> cases isAccessor
              obtain ⟨cells, same⟩ := accessor_cells backend asked held.reader link
              have isAfter : (Session.perform backend session (.reader name asked)).2.readers.get?
                  name = some { held with reader := { held.reader with cells } } := by
                rw [perform_accessor isHeld isLink isAccessor, same]
                exact Registry.get?_insert_self ..
              rw [stays]
              exact tracks.asked isHeld isAfter fun isLive =>
                tracks.onRow isHeld (live_before isHeld (tracks.connected isHeld) isLive)
          | false =>
              cases asked with
              | read =>
                  have isAfter : (Session.perform backend session (.reader name .read)).2.readers.get?
                      name = some
                        { held with reader := (held.reader.read backend.engine link).1.2 } := by
                    rw [perform_read isHeld isLink]
                    exact Registry.get?_insert_self ..
                  refine tracks.asked isHeld isAfter fun isLive => ?_
                  have wasLive := live_before isHeld (tracks.connected isHeld) isLive
                  rw [lifecycle?_of_link session _ isLink, ne_eq, Option.some.injEq] at wasLive
                  rw [Reader.read_onRow (by simp [Connection.isDisposed, wasLive]),
                    perform_read isHeld isLink]
                  simp only [lastFound, Request.asked?_self]
                  rcases (held.reader.read backend.engine link).1.1 with error | (_ | _) <;>
                    simp [Except.map, Except.mapError]
              | dispose =>
                  have isGone : (Session.perform backend session
                      (.reader name .dispose)).2.readers.get? name = none := by
                    rw [performReader_of_held isHeld]
                    unfold useReader
                    rw [isLink]
                    exact Registry.get?_erase_self ..
                  simp only [lastFound, Request.asked?_self]
                  refine ⟨fun _ => rfl, fun isThere => ?_, fun isThere => ?_⟩
                  all_goals cases isGone.symm.trans isThere
              | cursor =>
                  rw [performReader_of_held isHeld]
                  simp only [lastFound, Request.asked?_self]
                  exact tracks
              | _ => cases isAccessor

end Tracks

/-- Whether the last call of `read` on the reader, in a run from nothing, has found a row. -/
def hasFound (backend : Backend σ) (state : σ) (requests : List Request) (name : String) : Bool :=
  (requests.zip (run backend { engine := state } requests).1).foldl (lastFound name) false

theorem run_tracks {backend : Backend σ} {session : Session σ} {name : String} {found : Bool}
    (tracks : session.Tracks name found) (requests : List Request) :
    (run backend session requests).2.Tracks name
      ((requests.zip (run backend session requests).1).foldl (lastFound name) found) := by
  induction requests generalizing session found with
  | nil => exact tracks
  | cons request rest induction => exact induction (tracks.perform request)

/-! ## Accessors -/

/-- The request is refused, and everything is as it was. -/
structure Refuses (session : Session σ) (outcome : Response × Session σ) (error : Error) :
    Prop where
  response : outcome.1 = .plain (.error (.failed error))
  others : outcome.2 = { session with readers := outcome.2.readers }
  readers : ∀ name, outcome.2.readers.get? name = session.readers.get? name

section
variable {backend : Backend σ} {session : Session σ} {name : String} {held : HeldReader}
  (isHeld : session.readers.get? name = some held) {link : Link σ}
  (isLink : session.link? held.connection = some link) {request : ReaderRequest} {column : Nat}
  (isColumn : request.column? = some column)
include isHeld isLink isColumn

theorem refuses_of_index {error : Error}
    (isRefused : index backend.engine request held.reader column link = .error error) :
    session.Refuses (perform backend session (.reader name request)) error := by
  rw [perform_accessor isHeld isLink (ReaderRequest.isAccessor_of_column isColumn),
    accessor_eq isColumn, isRefused]
  refine ⟨rfl, rfl, fun other => ?_⟩
  show (session.readers.insert name held).get? other = _
  rw [Registry.get?_insert]
  split
  · rename_i isName
    rw [isName, isHeld]
  · rfl

theorem answers_of_index {index : Int32}
    (isIndex : Session.index backend.engine request held.reader column link = .ok index) :
    (perform backend session (.reader name request)).1 =
      .plain (.ok (found backend.engine request held.reader index session.engine).1) := by
  rw [perform_accessor isHeld isLink (ReaderRequest.isAccessor_of_column isColumn),
    accessor_eq isColumn, isIndex, engine_of_link isLink]
  rfl

end

theorem index_eq (engine : Engine σ) (request : ReaderRequest) (reader : Reader) (column : Nat)
    (link : Link σ) :
    index engine request reader column link =
      if link.connection.isDisposed then .error .useAfterDispose
      else if request.asksForName = false ∧ reader.cursor ≠ .onRow then .error .noCurrentRow
      else if column < reader.count engine link then .ok (.ofNat column)
      else .error (.columnOutOfRange column (reader.count engine link)) := by
  unfold index Reader.rowColumn
  rw [Reader.columnIndex_eq, Reader.columnCount]
  by_cases isDisposed : link.connection.isDisposed = true
  · simp [isDisposed, Except.bind]
  · cases request.asksForName <;> simp [isDisposed, Except.bind]

/-- Whatever a session has been asked before: a request about a column of a reader is refused
on a disposed connection, then without a row if it is not for a name, then outside of the
columns that the statement has now, and is answered otherwise. The engine is asked for the
column of the caller and no other. What is refused leaves the session, the reader and the
caller's buffer as they were. -/
theorem columns_guarded (backend : Backend σ) (state : σ) (requests : List Request) {name : String}
    {held : HeldReader}
    (isHeld : (run backend { engine := state } requests).2.readers.get? name = some held)
    {request : ReaderRequest} {column : Nat} (isColumn : request.column? = some column) :
    let session := (run backend { engine := state } requests).2
    let outcome := perform backend session (.reader name request)
    let isDisposed := session.lifecycle? held.connection = some .disposed
    let isEnough := request.asksForName = true ∨ hasFound backend state requests name = true
    let count :=
      (backend.engine.columnCount held.reader.statement session.engine).toNatClampNeg
    (isDisposed → session.Refuses outcome .useAfterDispose) ∧
    (¬isDisposed → ¬isEnough → session.Refuses outcome .noCurrentRow) ∧
    (¬isDisposed → isEnough → count ≤ column →
      session.Refuses outcome (.columnOutOfRange column count)) ∧
    (¬isDisposed → isEnough → column < count → ∃ index : Int32, index.toInt = column ∧
      outcome.1 = .plain (.ok (found backend.engine request held.reader index session.engine).1)) ∧
    (¬isDisposed →
      (perform backend session (.reader name .columnCount)).1 = .plain (.ok (.number count))) ∧
    ∀ {link error}, session.link? held.connection = some link →
      outcome.1 = .plain (.error (.failed error)) →
        destinationAfter? backend.engine request held.reader link = request.destination? := by
  intro session outcome isDisposed isEnough count
  have tracks : session.Tracks name (hasFound backend state requests name) :=
    run_tracks (.ofNothing state) requests
  obtain ⟨link, isLink⟩ := tracks.link isHeld
  have isCount : held.reader.count backend.engine link = count := by
    rw [Reader.count, engine_of_link isLink]
  have disposes : link.connection.isDisposed = true ↔ isDisposed := by
    rw [Connection.isDisposed_iff, ← Option.some.injEq, ← lifecycle?_of_link session _ isLink]
  have suits (isLive : ¬isDisposed) :
      (request.asksForName = false ∧ held.reader.cursor ≠ .onRow) ↔ ¬isEnough := by
    have onRow := tracks.onRow isHeld isLive
    simp [isEnough, onRow]
  have guard := index_eq backend.engine request held.reader column link
  rw [isCount] at guard
  refine ⟨fun isOver => ?_, fun isLive isLacking => ?_, fun isLive enough isBeyond => ?_,
    fun isLive enough isBelow => ?_, fun isLive => ?_, ?_⟩
  · rw [if_pos (disposes.mpr isOver)] at guard
    exact refuses_of_index isHeld isLink isColumn guard
  · rw [if_neg (isLive ∘ disposes.mp), if_pos ((suits isLive).mpr isLacking)] at guard
    exact refuses_of_index isHeld isLink isColumn guard
  · rw [if_neg (isLive ∘ disposes.mp), if_neg (fun lacks => (suits isLive).mp lacks enough),
      if_neg (Nat.not_lt.mpr isBeyond)] at guard
    exact refuses_of_index isHeld isLink isColumn guard
  · rw [if_neg (isLive ∘ disposes.mp), if_neg (fun lacks => (suits isLive).mp lacks enough),
      if_pos isBelow] at guard
    exact ⟨.ofNat column, Reader.narrowed_toInt (isCount ▸ isBelow),
      answers_of_index isHeld isLink isColumn guard⟩
  · rw [perform_accessor isHeld isLink rfl]
    simp only [accessor, look, Reader.columnCount]
    rw [if_neg (isLive ∘ disposes.mp), isCount]
    rfl
  · intro other error isOther isRefused
    obtain rfl := Option.some.inj (isLink.symm.trans isOther)
    cases isIndex : index backend.engine request held.reader column link with
    | error error => exact destination_of_refused isColumn isIndex
    | ok index => cases (answers_of_index isHeld isLink isColumn isIndex).symm.trans isRefused

theorem columns_guarded_wide :
    let requests : List Request :=
      [.connection "c" (.connect none none none),
        .connection "c" (.executeReader "r" (.ofString "SELECT 1 AS one")), .reader "r" .read]
    let session := (run Storage.backend { engine := {} } requests).2
    session.Refuses (perform Storage.backend session (.reader "r" (.int64 (2 ^ 32))))
      (.columnOutOfRange (2 ^ 32) 1) := by
  intro requests session
  have isHeld : session.readers.get? "r" = some ⟨"c", none,
      { statement := ⟨0⟩, release := .finalize, cursor := .onRow, cells := [.integer 1 .utf8] }⟩ := by
    decide +kernel
  have isLive : session.lifecycle? "c" ≠ some .disposed := by decide +kernel
  have isFound : hasFound Storage.backend {} requests "r" = true := by decide +kernel
  have isOne : Storage.engine.columnCount ⟨0⟩ session.engine = 1 := by decide +kernel
  have isColumn : (ReaderRequest.int64 (2 ^ 32)).column? = some (2 ^ 32) := rfl
  have refuses :=
    (columns_guarded Storage.backend {} requests isHeld isColumn).2.2.1 isLive (.inr isFound)
  have isCount : (Storage.backend.engine.columnCount ⟨0⟩ session.engine).toNatClampNeg = 1 :=
    congrArg Int32.toNatClampNeg isOne
  rw [isCount] at refuses
  exact refuses (by decide)

end Session

end EmbeddedSql
