import EmbeddedSql.Proofs.Connection.Binding
import EmbeddedSql.Proofs.Connection.Ways
import EmbeddedSql.Proofs.Engine.Binding
import EmbeddedSql.Proofs.Session.Sound
import EmbeddedSql.Proofs.Storage.Standing
import EmbeddedSql.Proofs.Text.Transcoding
import EmbeddedSql.Storage.Backend

/-! Whether a text is given in UTF-8 or in UTF-16 makes no difference, except to the pool
that it is encoded with. -/

namespace EmbeddedSql

/-! ## Wide statements of the store -/

theorem Lenient.dropByteOrderMark_of_unmarked {units : Utf16.Units}
    (isUnmarked : Utf16.isMarked units = false) : dropByteOrderMark units = units := by
  cases units with
  | nil => rfl
  | cons unit rest =>
      simp only [Utf16.isMarked, List.head?_cons, Option.any_some, Bool.or_eq_false_iff,
        decide_eq_false_iff_not] at isUnmarked
      rw [dropByteOrderMark, if_neg isUnmarked.1, if_neg isUnmarked.2]

namespace Storage

theorem sqlBytes_wide {units : Utf16.Units} (isWellFormed : Utf16.IsWellFormed units)
    (isUnmarked : Utf16.isMarked units = false) :
    Store.sqlBytes (.utf16 units) = Store.sqlBytes (.utf8 (Utf16.toUtf8 units)) := by
  have stays : Utf16.isMarked (units.takeWhile (· ≠ 0)) = false := by
    cases units with
    | nil => rfl
    | cons unit rest =>
        rw [List.takeWhile_cons]
        split
        · exact isUnmarked
        · rfl
  rw [Store.sqlBytes, Store.sqlBytes, Lenient.dropByteOrderMark_of_unmarked stays,
    ← isWellFormed.encode_decode, Utf16.takeWhile_encode, Lenient.toUtf8_encode, Utf16.toUtf8,
    Utf16.decode_encode, Utf8.beforeZero_encode]

theorem sqlLength_wide {units : Utf16.Units} (isWellFormed : Utf16.IsWellFormed units)
    (isUnmarked : Utf16.isMarked units = false) :
    Store.sqlLength (.utf16 units) = Store.sqlLength (.utf8 (Utf16.toUtf8 units)) := by
  rw [Store.sqlLength, Store.sqlLength, Lenient.dropByteOrderMark_of_unmarked isUnmarked,
    Lenient.toUtf8_of_wellFormed isWellFormed]

theorem readsWide : backend.engine.ReadsWide := by
  intro units database store isWellFormed isUnmarked _ _
  change store.prepare database (.utf16 units) = store.prepare database (.utf8 _)
  have sameParsed : Store.parse (.utf16 units) = Store.parse (.utf8 (Utf16.toUtf8 units)) := by
    unfold Store.parse
    rw [sqlLength_wide isWellFormed isUnmarked, sqlBytes_wide isWellFormed isUnmarked]
  unfold Store.prepare
  rw [sameParsed]

theorem compileError?_of_long {store : Store} {handle : DatabaseHandle} {client : Client}
    {sql : Text} (isFound : store.client? handle = some client)
    (fits : sql.byteLength ≤ Engine.maxLength) (isLong : Store.maxLength < Store.sqlLength sql) :
    backend.engine.compileError? handle sql store =
      some (.prepareFailed Status.tooBig "statement too long") := by
  have refuses : backend.engine.prepare handle sql store =
      store.refuse handle Status.tooBig (Bytes.ofAscii "statement too long") := by
    show store.prepare handle sql = _
    unfold Store.prepare Store.parse
    rw [isFound, if_pos isLong]
    rfl
  have message : backend.engine.errorMessage handle
      (store.refuse handle Status.tooBig (Bytes.ofAscii "statement too long")).2 =
        Bytes.ofAscii "statement too long" := by
    let told (client : Client) : Client :=
      { client with message := Bytes.ofAscii "statement too long" }
    have isTold : (store.updateClient handle told).client? handle =
        (store.client? handle).map told := Store.client?_updateClient fun _ => rfl
    show (((store.updateClient handle told).client? handle).map (·.message)).getD [] = _
    rw [isTold, isFound]
    rfl
  rw [Engine.compileError?, if_neg (Nat.not_lt.mpr fits), refuses]
  dsimp only [Store.refuse] at message ⊢
  rw [message]
  decide

end Storage

/-! ## Two forms of a request -/

inductive Text.Respells : Text → Text → Prop
  | same (text : Text) : Respells text text
  | widened (string : String) : Respells (.ofString string) (.wideOfString string)

inductive Parameter.Respells : Parameter → Parameter → Prop
  | same (parameter : Parameter) : Respells parameter parameter
  | name {first second : Text} : first.Respells second → Respells (.name first) (.name second)

namespace Session

/-- The texts of the second request are those of the first one, perhaps in the other
form. SQL that begins with a byte-order mark or is too long stays as it is. -/
inductive Respells : Request → Request → Prop
  | createCommand (connection command : String) {sql : String} :
      FormIsFree sql →
        Respells (.connection connection (.createCommand command (.ofString sql)))
          (.connection connection (.createCommand command (.wideOfString sql)))
  | executeReader (connection reader : String) {sql : String} :
      FormIsFree sql →
        Respells (.connection connection (.executeReader reader (.ofString sql)))
          (.connection connection (.executeReader reader (.wideOfString sql)))
  | executeNonQuery (connection : String) {sql : String} :
      FormIsFree sql →
        Respells (.connection connection (.executeNonQuery (.ofString sql)))
          (.connection connection (.executeNonQuery (.wideOfString sql)))
  | indexOf (command : String) {name other : Text} : name.Respells other →
      Respells (.command command (.indexOf name)) (.command command (.indexOf other))
  | bind (command : String) {parameter other : Parameter} (argument : Argument) :
      parameter.Respells other →
        Respells (.command command (.bind parameter argument))
          (.command command (.bind other argument))
  | bindText (command : String) {parameter other : Parameter} {text value : Text} :
      parameter.Respells other → text.Respells value →
        Respells (.command command (.bindText parameter text))
          (.command command (.bindText other value))

end Session

/-! ## Calls -/

theorem Text.Respells.toUtf8 {first second : Text} (respells : first.Respells second) :
    second.toUtf8 = first.toUtf8 := by
  cases respells with
  | same => rfl
  | widened string => exact Utf16.toUtf8_ofString string

def Call.EndsAs {σ ε α : Type} (first second : Except ε α × Link σ) : Prop :=
  ∃ pool, second = (first.1, { first.2 with pool })

namespace Parameter

variable {σ : Type} (engine : Engine σ) (growth : Scratch.Growth) (statement : StatementHandle)
  {parameter other : Parameter} {text value : Text}

theorem Respells.position (respells : parameter.Respells other) (state : σ) :
    other.position engine statement state = parameter.position engine statement state := by
  cases respells with
  | same => rfl
  | name respells =>
      rw [Parameter.position, Parameter.position, respells.toUtf8]

theorem Respells.resolve (respells : parameter.Respells other) (link : Link σ) :
    Call.EndsAs (parameter.resolve engine growth statement link)
      (other.resolve engine growth statement link) := by
  cases isDisposed : link.connection.isDisposed with
  | true =>
      have isDisposed := (Connection.isDisposed_iff _).mp isDisposed
      rw [resolve_refuses engine growth statement parameter link isDisposed,
        resolve_refuses engine growth statement other link isDisposed]
      exact ⟨_, rfl⟩
  | false =>
      obtain ⟨_, first⟩ := resolve_eq engine growth statement parameter isDisposed
      obtain ⟨_, second⟩ := resolve_eq engine growth statement other isDisposed
      rw [first, second, respells.position]
      exact ⟨_, rfl⟩

theorem Respells.bind (respells : parameter.Respells other) (argument : Argument)
    (link : Link σ) :
    Call.EndsAs (bind engine growth statement parameter argument link)
      (bind engine growth statement other argument link) := by
  cases isDisposed : link.connection.isDisposed with
  | true =>
      have isDisposed := (Connection.isDisposed_iff _).mp isDisposed
      rw [bind_refuses engine growth statement parameter argument link isDisposed,
        bind_refuses engine growth statement other argument link isDisposed]
      exact ⟨_, rfl⟩
  | false =>
      obtain ⟨_, first⟩ := bind_eq engine growth statement parameter argument isDisposed
      obtain ⟨_, second⟩ := bind_eq engine growth statement other argument isDisposed
      rw [first, second, respells.position]
      exact ⟨_, rfl⟩

theorem Respells.bindText (respells : parameter.Respells other) (sameText : text.Respells value)
    (link : Link σ) :
    Call.EndsAs (bindText engine growth statement parameter text link)
      (bindText engine growth statement other value link) := by
  cases isDisposed : link.connection.isDisposed with
  | true =>
      have isDisposed := (Connection.isDisposed_iff _).mp isDisposed
      rw [bindText_refuses engine growth statement parameter text link isDisposed,
        bindText_refuses engine growth statement other value link isDisposed]
      exact ⟨_, rfl⟩
  | false =>
      obtain ⟨_, first⟩ := bindText_eq engine growth statement parameter text isDisposed
      obtain ⟨_, second⟩ := bindText_eq engine growth statement other value isDisposed
      rw [first, second, respells.position, sameText.toUtf8]
      exact ⟨_, rfl⟩

end Parameter

section
variable {σ : Type} {backend : Backend σ} (readsWide : backend.engine.ReadsWide) {sql : String}
  (isFree : FormIsFree sql)
include readsWide isFree

theorem Connection.prepare_wide :
    prepare backend.engine backend.growth (.wideOfString sql) =
      prepare backend.engine backend.growth (.ofString sql) := by
  have compiles (database : DatabaseHandle) :
      backend.engine.prepare database (.wideOfString sql) =
        backend.engine.prepare database (.ofString sql) :=
    funext (readsWide.prepare_string isFree database)
  have fit : ensureFits backend.engine (.wideOfString sql) =
      ensureFits backend.engine (.ofString sql) := by
    funext link
    rw [ensureFits_of_le _ isFree.fitsWide, ensureFits_of_le _ isFree.fits]
  simp only [prepare, compiles, fit]

theorem Connection.createCommand_wide :
    createCommand backend (.wideOfString sql) = createCommand backend (.ofString sql) := by
  rw [createCommand, prepare_wide readsWide isFree, createCommand]

theorem Connection.executeReader_wide :
    executeReader backend (.wideOfString sql) = executeReader backend (.ofString sql) := by
  rw [executeReader, prepare_wide readsWide isFree, executeReader]

theorem Connection.executeNonQuery_wide :
    executeNonQuery backend (.wideOfString sql) = executeNonQuery backend (.ofString sql) := by
  rw [executeNonQuery, createCommand_wide readsWide isFree, executeNonQuery]

end

/-! ## Sessions -/

namespace Session

variable {σ ε α β : Type} {backend : Backend σ}

def AnswersAs (first second : α × Session σ) : Prop :=
  ∃ pools, second = (first.1, { first.2 with pools })

theorem AnswersAs.refl (outcome : α × Session σ) : AnswersAs outcome outcome :=
  ⟨_, rfl⟩

theorem AnswersAs.map {first second : α × Session σ} (answers : AnswersAs first second)
    (answer : α → β) : AnswersAs (answer first.1, first.2) (answer second.1, second.2) := by
  obtain ⟨pools, rfl⟩ := answers
  exact ⟨pools, rfl⟩

theorem setLink_pool (session : Session σ) (name : String) (link : Link σ) (pool : Scratch.Pool) :
    ∃ pools, session.setLink name { link with pool } =
      { session.setLink name link with pools } := by
  unfold setLink
  split <;> exact ⟨_, rfl⟩

theorem onConnection_answersAs (session : Session σ) (name : String)
    {first second : ExceptT ε (StateM (Link σ)) α}
    (ends : ∀ link, Call.EndsAs (first link) (second link)) :
    AnswersAs (session.onConnection name first) (session.onConnection name second) := by
  cases isLink : session.link? name with
  | none =>
      rw [onConnection_of_missing isLink, onConnection_of_missing isLink]
      exact .refl _
  | some link =>
      obtain ⟨pool, same⟩ := ends link
      rw [onConnection_of_link isLink, onConnection_of_link isLink, same]
      obtain ⟨pools, same⟩ := setLink_pool session name (first link).2 pool
      exact ⟨pools, Prod.ext rfl same⟩

def asking (backend : Backend σ) (session : Session σ) (command : String)
    (request : CommandRequest) : Result × Session σ :=
  match session.freeCommand command with
  | .error refusal => (.error refusal, session)
  | .ok held => useCommand backend session held request

theorem asking_answersAs (session : Session σ) (command : String)
    {request other : CommandRequest}
    (uses : ∀ held, AnswersAs (useCommand backend session held request)
      (useCommand backend session held other)) :
    AnswersAs (asking backend session command request)
      (asking backend session command other) := by
  unfold asking
  cases session.freeCommand (ε := Error) command with
  | error refusal => exact .refl _
  | ok held => exact uses held

/-! ## Statements that are refused -/

/-- A request to compile a text; what comes of it gets a new name. -/
inductive HandsOver (session : Session σ) (sql : Text) : ConnectionRequest → Prop
  | executeNonQuery : HandsOver session sql (.executeNonQuery sql)
  | executeReader {reader : String} : session.readers.get? reader = none →
      HandsOver session sql (.executeReader reader sql)
  | createCommand {command : String} : session.commands.get? command = none →
      HandsOver session sql (.createCommand command sql)

theorem perform_refused {session : Session σ} {name : String} {link : Link σ}
    {database : DatabaseHandle} {sql : Text} {request : ConnectionRequest} {error : Error}
    (isLink : session.link? name = some link)
    (isOpened : link.connection.lifecycle = .opened database)
    (handsOver : HandsOver session sql request)
    (isError : backend.engine.compileError? database sql link.engine = some error) :
    perform backend session (.connection name request) =
      (.plain (.error (.failed error)), session.setLink name
        { link with engine := backend.engine.afterCompiling database sql link.engine }) := by
  obtain ⟨result, prepares, isRefused⟩ :=
    Connection.prepare_of_opened backend.engine backend.growth isOpened sql
  rw [isError] at isRefused
  rw [isRefused] at prepares
  cases handsOver with
  | executeNonQuery =>
      have executes := Call.bind_of_error
        (fun command => do
          let rows ← command.dropOnError backend (command.executeNonQuery backend)
          command.finalize backend
          pure rows)
        (Call.bind_of_error (fun statement => pure (⟨statement⟩ : Command)) prepares)
      simp only [perform, performConnection, onConnection_of_link isLink,
        Connection.executeNonQuery, Connection.createCommand]
      rw [executes]
      rfl
  | @executeReader reader isNew =>
      have isFreeName : newName (ε := Error) session.readers reader = .ok () :=
        newName_of_missing isNew
      simp only [perform, performConnection, isFreeName, onConnection_of_link isLink,
        Connection.executeReader]
      rw [Call.bind_of_error _ prepares]
      rfl
  | @createCommand command isNew =>
      have isFreeName : newName (ε := Error) session.commands command = .ok () :=
        newName_of_missing isNew
      simp only [perform, performConnection, isFreeName, onConnection_of_link isLink,
        Connection.createCommand]
      rw [Call.bind_of_error _ prepares]
      rfl

theorem Respells.perform (readsWide : backend.engine.ReadsWide) (session : Session σ)
    {request other : Request} (respells : Respells request other) :
    AnswersAs (perform backend session request) (perform backend session other) := by
  cases respells with
  | createCommand connection command isFree =>
      simp only [Session.perform, performConnection,
        Connection.createCommand_wide readsWide isFree]
      exact .refl _
  | executeReader connection reader isFree =>
      simp only [Session.perform, performConnection,
        Connection.executeReader_wide readsWide isFree]
      exact .refl _
  | executeNonQuery connection isFree =>
      simp only [Session.perform, performConnection,
        Connection.executeNonQuery_wide readsWide isFree]
      exact .refl _
  | @indexOf command name otherName respells =>
      have answers : AnswersAs (asking backend session command (.indexOf name))
          (asking backend session command (.indexOf otherName)) :=
        asking_answersAs session command fun held =>
          (onConnection_answersAs session held.connection
            (Parameter.Respells.resolve _ _ _ (.name respells))).map _
      exact answers.map Response.plain
  | @bind command parameter otherParameter argument respells =>
      have answers : AnswersAs (asking backend session command (.bind parameter argument))
          (asking backend session command (.bind otherParameter argument)) :=
        asking_answersAs session command fun held =>
          (onConnection_answersAs session held.connection
            (respells.bind _ _ _ argument)).map _
      exact answers.map Response.plain
  | @bindText command parameter otherParameter text value respells sameText =>
      have answers : AnswersAs (asking backend session command (.bindText parameter text))
          (asking backend session command (.bindText otherParameter value)) :=
        asking_answersAs session command fun held =>
          (onConnection_answersAs session held.connection
            (respells.bindText _ _ _ sameText)).map _
      exact answers.map Response.plain

/-- Whichever of its two forms a string is given in, as a statement, as the name of a
parameter or as a value, the answer is the same, and the state is. A statement whose length
cannot be told in the form in which it is given is refused, and changes nothing. -/
theorem perform_respelled (readsWide : backend.engine.ReadsWide) (session : Session σ) :
    (∀ {request other : Request}, Respells request other →
      AnswersAs (perform backend session request) (perform backend session other)) ∧
    ∀ {connection : String} {link : Link σ} {database : DatabaseHandle} {sql : Text}
      {request : ConnectionRequest}, session.link? connection = some link →
        link.connection.lifecycle = .opened database → HandsOver session sql request →
          Engine.maxLength < sql.byteLength →
            perform backend session (.connection connection request) =
              (.plain (.error (.failed (.prepareFailed Status.tooBig
                (Utf8.toString (backend.engine.codeMessage Status.tooBig))))),
                session.setLink connection link) := by
  refine ⟨fun respells => respells.perform readsWide session, ?_⟩
  intro connection link database sql request isLink isOpened handsOver isLong
  have isError : backend.engine.compileError? database sql link.engine =
      some (Connection.tooLong backend.engine) := if_pos isLong
  rw [perform_refused isLink isOpened handsOver isError, Engine.afterCompiling, if_pos isLong]
  rfl

def namedParameter : List Request :=
  [.connection "c" (.connect none none none),
    .connection "c" (.createCommand "k" (.ofString "SELECT :größe"))]

theorem perform_respelled_namedParameter :
    let session := (run Storage.backend { engine := {} } namedParameter).2
    let asked (request : Request) := perform Storage.backend session request
    AnswersAs (asked (.connection "c" (.createCommand "l" (.ofString "SELECT '€\x00"))))
        (asked (.connection "c" (.createCommand "l" (.wideOfString "SELECT '€\x00")))) ∧
      AnswersAs (asked (.command "k" (.indexOf (.ofString ":größe"))))
        (asked (.command "k" (.indexOf (.wideOfString ":größe")))) ∧
      AnswersAs
        (asked (.command "k" (.bindText (.name (.ofString ":größe")) (.ofString "\x00😀"))))
        (asked (.command "k"
          (.bindText (.name (.wideOfString ":größe")) (.wideOfString "\x00😀")))) := by
  intro session asked
  obtain ⟨alike, -⟩ := perform_respelled Storage.readsWide session
  have isFree : FormIsFree "SELECT '€\x00" := ⟨by decide, by decide, by decide⟩
  refine ⟨alike (.createCommand "c" "l" isFree), alike (.indexOf "k" (.widened ":größe")), ?_⟩
  exact alike (.bindText "k" (.name (.widened ":größe")) (.widened "\x00😀"))

/-! ## Forms that are told apart -/

theorem byteLength_replicate (count : Nat) :
    (Text.ofString (String.ofList (List.replicate count 'A'))).byteLength = count ∧
      (Text.wideOfString (String.ofList (List.replicate count 'A'))).byteLength = 2 * count := by
  have isNarrow : (Utf8.encodeChar 'A').length = 1 := by decide
  have isOne : (Utf16.encodeChar 'A').length = 1 := by decide
  constructor
  · show (Utf8.encode (String.ofList _).toList).length = count
    rw [String.toList_ofList, Utf8.encode, List.length_flatMap, List.map_replicate, isNarrow]
    simp
  · show 2 * (Utf16.encode (String.ofList _).toList).length = 2 * count
    rw [String.toList_ofList, Utf16.encode, List.length_flatMap, List.map_replicate, isOne]
    simp

/-- SQL of 2³⁰ characters, whose length in bytes can be told in UTF-8 only. -/
def longSql : String :=
  String.ofList (List.replicate 0x40000000 'A')

theorem byteLength_longSql : (Text.ofString longSql).byteLength = 0x40000000 ∧
    (Text.wideOfString longSql).byteLength = 2 * 0x40000000 :=
  byteLength_replicate 0x40000000

/-- A command on a connection with a pool of its own, whose only buffer is in use. -/
def pooled : List Request :=
  [.pool (.create "p" none), .connection "c" (.connect none none (some "p")),
    .connection "c" (.createCommand "k" (.ofString "SELECT ?1")), .pool (.rent "p" "b" 0)]

/-- Text in UTF-16 is encoded in another buffer, which the pool keeps. SQL of 2³⁰ characters is
refused by the engine in UTF-8, and before the engine is asked in UTF-16. -/
theorem forms_told_apart :
    let session := (run Storage.backend { engine := {} } pooled).2
    let bound (value : Text) := (run Storage.backend session
      [.command "k" (.bindText (.index 1) value), .pool (.available "p")]).1.map Response.answer?
    let compiled (sql : Text) :=
      (perform Storage.backend session (.connection "c" (.executeNonQuery sql))).1
    (bound (.ofString "A") = [some .nothing, some (.number 0)] ∧
      bound (.wideOfString "A") = [some .nothing, some (.number 1)]) ∧
    compiled (.ofString longSql) =
        .plain (.error (.failed (.prepareFailed Status.tooBig "statement too long"))) ∧
      compiled (.wideOfString longSql) =
        .plain (.error (.failed (.prepareFailed Status.tooBig "string or blob too big"))) := by
  intro session bound compiled
  refine ⟨by decide +kernel, ?_⟩
  have isThere : (session.link? "c").any (·.connection.lifecycle = .opened ⟨0⟩) = true := by
    decide +kernel
  have isClient : (session.engine.client? ⟨0⟩).isSome = true := by decide +kernel
  obtain ⟨link, isLink, isOpened⟩ := (Option.any_eq_true _ _).mp isThere
  have isOpened : link.connection.lifecycle = .opened ⟨0⟩ := of_decide_eq_true isOpened
  obtain ⟨client, isFound⟩ := Option.isSome_iff_exists.mp isClient
  rw [← engine_of_link isLink] at isFound
  -- From here on only the length of the text counts.
  have lengths := byteLength_longSql
  generalize longSql = sql at lengths ⊢
  obtain ⟨length, lengthWide⟩ := lengths
  constructor
  · have isError : Storage.backend.engine.compileError? ⟨0⟩ (.ofString sql) link.engine =
        some (.prepareFailed Status.tooBig "statement too long") := by
      have sameLength : Storage.Store.sqlLength (.ofString sql) = 0x40000000 := length
      refine Storage.compileError?_of_long isFound ?_ ?_
      · rw [length]
        decide
      · rw [sameLength]
        decide
    exact congrArg Prod.fst (perform_refused isLink isOpened .executeNonQuery isError)
  · have isLong : Engine.maxLength < (Text.wideOfString sql).byteLength := by
      rw [lengthWide]
      decide
    have isError : Storage.backend.engine.compileError? ⟨0⟩ (.wideOfString sql) link.engine =
        some (.prepareFailed Status.tooBig "string or blob too big") := by
      rw [Engine.compileError?, if_pos isLong]
      decide
    exact congrArg Prod.fst (perform_refused isLink isOpened .executeNonQuery isError)

end Session

end EmbeddedSql
