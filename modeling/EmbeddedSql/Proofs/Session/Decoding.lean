import EmbeddedSql.Proofs.Query.Fetching
import EmbeddedSql.Proofs.Session.Rewinding
import EmbeddedSql.Proofs.Storage.Rewinding

/-! Main result: a row has each name of its columns once, with the value of the last column that
bears it, and all rows that the engine gives are answered like that. -/

namespace EmbeddedSql.Session

open Query

variable {σ : Type} {backend : Backend σ}

/-! ## One row -/

/-- What is answered to the demand for the row of a reader: a row of all its columns, or the error
of the first that cannot be had. Nothing else comes of it than that the texts of the row have
been taken. -/
structure DecodesRow (backend : Backend σ) (session : Session σ) (name : String)
    (held : HeldReader) (link : Link σ) : Prop where
  answered : ∀ {columns}, columnsOf backend.engine held.reader link = .ok columns →
    ∃ row, perform backend session (.query (.decodeRow name)) =
        (.query (.ok (.row (some row))),
          session.withReader name held (held.reader.cells.map Query.leave)) ∧
      Row.Collects columns row
  refused : ∀ {error}, columnsOf backend.engine held.reader link = .error error →
    perform backend session (.query (.decodeRow name)) =
      (.query (.error (.failed error)), session.withReader name held held.reader.cells)
  current : link.connection.isDisposed = false → held.reader.cursor = .onRow →
    columnsOf backend.engine held.reader link = .ok
      (shownColumns backend.engine held.reader.statement (held.reader.cells.map Cell.toValue)
        link.engine)
  elsewhere : link.connection.isDisposed = false → held.reader.cursor ≠ .onRow →
    columnsOf backend.engine held.reader link =
      if held.reader.count backend.engine link = 0 then .ok []
      else .error (.connection .noCurrentRow)
  disposed : link.connection.isDisposed = true →
    columnsOf backend.engine held.reader link = .error (.connection .useAfterDispose)

variable {session : Session σ}

theorem decodesRow_of_reader {name : String} {held : HeldReader}
    (isHeld : session.findReader (ε := Query.Error) name = .ok held) {link : Link σ}
    (isLink : session.link? held.connection = some link) :
    DecodesRow backend session name held link := by
  have decodes := decodeRow_eq backend.engine held.reader link
  refine ⟨fun {columns} areColumns => ?_, fun {error} isError => ?_, fun isLive isOnRow => ?_,
    fun isLive isNoRow => ?_, columnsOf_of_disposed⟩
  · rw [areColumns] at decodes
    refine ⟨Row.ofColumns columns, ?_, Row.ofColumns_collects columns⟩
    rw [perform_query, performQuery, onReader_of_held isHeld, access_takeOut_of_ok isLink decodes]
  · rw [isError] at decodes
    rw [perform_query, performQuery, onReader_of_held isHeld, access_takeOut_of_error isLink decodes]
  · exact columnsOf_of_row (by simp [isLive]) isOnRow
  · exact columnsOf_of_noRow (by simp [isLive]) isNoRow

/-! ## All rows -/

/-- What is answered to the demand for all rows of a statement: a row for each that the engine
gives, if the last step is accepted. -/
def FetchesRows (backend : Backend σ) (command : Command) (bound : Link σ)
    (response : Response) : Prop :=
  ∃ rows code last, backend.engine.Yields command.statement bound.engine rows code last ∧
    (bound.connection.config.Accepts code →
      ∃ decoded, response = .query (.ok (.rows decoded)) ∧
        List.Forall₂ Row.Collects rows decoded) ∧
    (¬bound.connection.config.Accepts code →
      ∃ error, response = .query (.error (.failed (.connection error))))

theorem fetchesRows_of_link {laws : Rewinding backend.engine} (sound : Sound laws.toLedger session)
    {connection : String} {link bound : Link σ} (isLink : session.link? connection = some link)
    {sql : Text} {values : List Json} {command : Command}
    (prepares : Query.prepare backend sql values link = (.ok command, bound)) :
    FetchesRows backend command bound
      (perform backend session (.query (.fetchAll connection sql values))).1 := by
  have sits : laws.Sits _ link := sits_of_link sound (.nothing sound.valid) isLink
  obtain ⟨rows, code, last, yields, isAnswered, isRefused⟩ := sits.fetchAll_yields prepares
  rw [perform_query, performQuery, onConnection_of_link isLink]
  refine ⟨rows, code, last, yields, fun accepts => ?_, fun accepts => ?_⟩
  · refine ⟨rows.map Row.ofColumns, ?_, ?_⟩
    · rw [replying, isAnswered accepts]
      rfl
    · exact List.forall₂_map_right_iff.mpr
        (List.forall₂_same.mpr fun columns _ => Row.ofColumns_collects columns)
  · obtain ⟨error, fails⟩ := isRefused accepts
    refine ⟨error, ?_⟩
    rw [replying, fails]
    rfl

/-! ## Runs -/

/-- A row that is decoded has the names of its columns in their order, each once and with the value
of the last column that bears it. No row comes of columns that cannot all be had. All rows that the
engine gives for a query are fetched like that, in their order. -/
theorem rows_decoded (laws : Rewinding backend.engine) {state : σ} (valid : laws.Valid state)
    (isFresh : laws.handles state = .none) (requests : List Request) :
    let session := (run backend { engine := state } requests).2
    (∀ {name held link}, session.findReader (ε := Query.Error) name = .ok held →
      session.link? held.connection = some link →
        DecodesRow backend session name held link) ∧
    (∀ {connection link sql values command bound}, session.link? connection = some link →
      Query.prepare backend sql values link = (.ok command, bound) →
        FetchesRows backend command bound
          (perform backend session (.query (.fetchAll connection sql values))).1) := by
  intro session
  have start : Sound laws.toLedger { engine := state } := sound_of_nothing valid isFresh
  have sound : Sound laws.toLedger session := run_sound start requests
  exact ⟨fun isHeld isLink => decodesRow_of_reader isHeld isLink,
    fun isLink prepares => fetchesRows_of_link sound isLink prepares⟩

def repeatedName : Text :=
  .ofString "SELECT column1 AS a, column1 + 1 AS b, column1 + 2 AS a FROM (VALUES (1), (2))"

def onFirstRow : List Request :=
  [.connection "c" (.connect none none none),
    .connection "c" (.executeReader "r" repeatedName),
    .reader "r" .read]

def Response.rowNames? : Response → Option (List (List String))
  | .query (.ok (.rows rows)) => some (rows.map (·.map Prod.fst))
  | _ => none

theorem rows_decoded_repeatedName :
    let session := (run Storage.backend { engine := {} } onFirstRow).2
    let respond (request : QueryRequest) := (perform Storage.backend session (.query request)).1
    (∃ row, respond (.decodeRow "r") = .query (.ok (.row (some row))) ∧
      row.map Prod.fst = ["a", "b"] ∧ (row.lookup "a").map Json.toText = some "3" ∧
        (row.lookup "b").map Json.toText = some "2") ∧
      ∃ rows decoded, respond (.fetchAll "c" repeatedName []) = .query (.ok (.rows decoded)) ∧
        List.Forall₂ Query.Row.Collects rows decoded ∧
          decoded.map (·.map Prod.fst) = [["a", "b"], ["a", "b"]] := by
  intro session respond
  have isFresh : Storage.custody.Shows {} .none := Storage.custody_empty
  obtain ⟨decodes, fetches⟩ := rows_decoded Storage.rewinding isFresh.1 isFresh.2 onFirstRow
  have isThere : (session.findReader (ε := Query.Error) "r").toOption.any (fun held =>
      (session.link? held.connection).any fun link =>
        let columns := shownColumns Storage.backend.engine held.reader.statement
          (held.reader.cells.map Cell.toValue) link.engine
        held.reader.cursor = .onRow ∧ link.connection.isDisposed = false ∧
          columns.map Prod.fst = ["a", "b", "a"] ∧
            (columns.reverse.lookup "a").map Json.toText = some "3" ∧
              (columns.reverse.lookup "b").map Json.toText = some "2") = true := by
    decide +kernel
  have isBound : (session.link? "c").any (fun link =>
      (Query.prepare Storage.backend repeatedName [] link).1.isOk) = true := by
    decide +kernel
  have areNamed : (respond (.fetchAll "c" repeatedName [])).rowNames? =
      some [["a", "b"], ["a", "b"]] := by
    decide +kernel
  constructor
  · cases isHeld : session.findReader (ε := Query.Error) "r" with
    | error refusal => simp [isHeld, Except.toOption] at isThere
    | ok held =>
        rw [isHeld, Except.toOption, Option.any_some] at isThere
        cases isLink : session.link? held.connection with
        | none => simp [isLink] at isThere
        | some link =>
            rw [isLink, Option.any_some, decide_eq_true_iff] at isThere
            obtain ⟨isOnRow, isLive, areNames, isThree, isTwo⟩ := isThere
            have decodesRow := decodes isHeld isLink
            obtain ⟨row, answers, collects⟩ := decodesRow.answered (decodesRow.current isLive isOnRow)
            refine ⟨row, congrArg Prod.fst answers, ?_, ?_, ?_⟩
            · rw [collects.names, areNames]
              rfl
            · rw [collects.latest, isThree]
            · rw [collects.latest, isTwo]
  · cases isLink : session.link? "c" with
    | none => simp [isLink] at isBound
    | some link =>
        rw [isLink, Option.any_some] at isBound
        rcases prepares : Query.prepare Storage.backend repeatedName [] link with
          ⟨error | command, bound⟩ <;> rw [prepares] at isBound
        · cases isBound
        · obtain ⟨rows, code, -, -, isAnswered, isRefused⟩ := fetches isLink prepares
          by_cases accepts : bound.connection.config.Accepts code
          · obtain ⟨decoded, answers, collected⟩ := isAnswered accepts
            refine ⟨rows, decoded, answers, collected, ?_⟩
            rw [show respond _ = _ from answers] at areNamed
            exact Option.some.inj areNamed
          · obtain ⟨error, fails⟩ := isRefused accepts
            rw [show respond _ = _ from fails] at areNamed
            cases areNamed

end EmbeddedSql.Session
