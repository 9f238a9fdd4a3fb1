import EmbeddedSql.Proofs.Engine.Binding
import EmbeddedSql.Proofs.Session.Naming
import EmbeddedSql.Proofs.Session.Repeating
import EmbeddedSql.Proofs.Storage.Binding

/-! Main result: wide text comes to the same whether it is transcoded on the way or by the
database, unless it begins with a byte-order mark, which the database takes off. -/

namespace EmbeddedSql

namespace Session

variable {σ : Type} {backend : Backend σ} {session : Session σ} {name : String}
  {held : HeldCommand} {database : DatabaseHandle}

/-! ## The next execution -/

theorem link?_withPools {connection : String} {link : Link σ}
    (isLink : session.link? connection = some link) (pools : List Scratch.Pool) :
    ∃ pool, { session with pools }.link? connection = some { link with pool } := by
  obtain ⟨found, isFound, rfl⟩ := held_of_link? isLink
  exact ⟨_, link?_of_held isFound⟩

/-- The next execution of the command is the same in both sessions, as far as its rows go. -/
def ExecutesAlike (backend : Backend σ) (name : String) (session other : Session σ) : Prop :=
  ∀ (reader : String) (asks : List ReaderRequest), session.readers.get? reader = none →
    (∀ asked ∈ asks, asked.asksForRows = true) →
      (run backend other
          (.command name (.executeReader reader) :: asks.map (.reader reader))).1 =
        (run backend session
          (.command name (.executeReader reader) :: asks.map (.reader reader))).1

theorem executesAlike_withPools (isFree : session.freeCommand (ε := Error) name = .ok held)
    (isOpened : session.lifecycle? held.connection = some (.opened database))
    (pools : List Scratch.Pool) : ExecutesAlike backend name session { session with pools } := by
  intro reader asks isNew areOfRows
  obtain ⟨found, isFound, isLifecycle⟩ := Option.map_eq_some_iff.mp isOpened
  have isLink := link?_of_held isFound
  obtain ⟨pool, isOtherLink⟩ := link?_withPools isLink pools
  have isOtherFree : { session with pools }.freeCommand (ε := Error) name = .ok held :=
    (freeCommand_congr rfl rfl).trans isFree
  refine executeReader_alike isFree isLink isOtherFree isOtherLink ?_ isNew isNew areOfRows
  refine ⟨⟨⟨database, isLifecycle⟩, ⟨database, isLifecycle⟩, rfl⟩, fun isFirst isSecond => ?_⟩
  cases isFirst.symm.trans isSecond
  rfl

/-! ## Binding -/

section
variable {link : Link σ} (isFree : session.freeCommand (ε := Error) name = .ok held)
  (isLink : session.link? held.connection = some link)
  (isOpened : link.connection.lifecycle = .opened database)
include isFree isLink isOpened

theorem executesAlike_of_answersAs (parameter : Parameter) (value : Argument ⊕ Text)
    {other : Response × Session σ}
    (answers :
      AnswersAs (perform backend session (.command name (.binding parameter value))) other) :
    ExecutesAlike backend name
      (perform backend session (.command name (.binding parameter value))).2 other.2 := by
  have isLive : link.connection.isDisposed = false := by simp [Connection.isDisposed, isOpened]
  obtain ⟨pool, binds⟩ := perform_binding backend isFree isLink isLive parameter value
  obtain ⟨pools, rfl⟩ := answers
  let after : Session σ := (perform backend session (.command name (.binding parameter value))).2
  have isAfter : after = session.setLink held.connection
      { link with
        pool
        engine := (backend.engine.give held.command.statement
          (parameter.position backend.engine held.command.statement link.engine) (given value)
          link.engine).2 } := congrArg Prod.snd binds
  have isAfterFree : after.freeCommand (ε := Error) name = .ok held := by
    rw [isAfter, freeCommand_congr (setLink_commands ..) (setLink_readers ..)]
    exact isFree
  have isAfterOpened : after.lifecycle? held.connection = some (.opened database) := by
    rw [isAfter, lifecycle?_setLink _ _ isLink]
    exact congrArg some isOpened
  exact executesAlike_withPools isAfterFree isAfterOpened pools

end

def bindingAnswer (code : Int) : Response :=
  .plain (((Parameter.result code).mapError .failed).map fun _ => .nothing)

/-- The code that is given for a value. Where there is no parameter the length does not count,
unless the engine cannot be told it. -/
theorem give_code {laws : WideBinding backend.engine} {watch : Watch laws.toCustody}
    {statement : StatementHandle} {link : Link σ} (rests : laws.Rests watch statement link)
    (index : Int) (argument : Argument) :
    let inRange := 1 ≤ index ∧ index ≤ backend.engine.parameterCount statement link.engine
    let code := (backend.engine.give statement index argument link.engine).1
    (argument.fits = true → code = if inRange then Status.ok else Status.range) ∧
      (argument.fits = false → inRange → code = Status.tooBig) := by
  intro inRange code
  refine ⟨fun fits => ?_, fun isLong isThere => ?_⟩
  · show (backend.engine.give statement index argument link.engine).1 = _
    rw [Engine.give_of_fits _ fits]
    exact laws.bound_code rests.valid rests.inUse rests.isReset index fits
  · by_cases isTold : argument.byteLength ≤ Engine.maxLength
    · show (backend.engine.give statement index argument link.engine).1 = _
      rw [Engine.give_of_le isTold]
      exact laws.bound_long isLong rests.valid rests.inUse rests.isReset isThere.1 isThere.2
    · exact congrArg Prod.fst
        (congrFun (Engine.give_of_long (Nat.lt_of_not_le isTold)) link.engine)

/-- A call that hands wide text to the database as it is answers like the one that transcodes it,
whatever the parameter is, as long as the text is not too long in either form. If the text begins
with no byte-order mark, what the command finds from then on is the same. If it begins with U+FEFF,
this is the same as for the text without it. Of a text that is too long in one form, the call that
hands it over in this form is refused. -/
theorem wide_text_bound_alike (laws : WideBinding backend.engine) {state : σ}
    (valid : laws.Valid state) (isFresh : laws.handles state = .none) (requests : List Request) :
    let session := (run backend { engine := state } requests).2
    ∀ {name held database}, session.freeCommand (ε := Error) name = .ok held →
      session.lifecycle? held.connection = some (.opened database) →
        laws.KeepsUtf8 database session.engine →
          ∀ (parameter : Parameter) {units : Utf16.Units}, Utf16.IsWellFormed units →
            let native := perform backend session
              (.command name (.bind parameter (.text (.utf16 units))))
            let transcoded (units : Utf16.Units) := perform backend session
              (.command name (.bindText parameter (.utf16 units)))
            let fitsWide := (Argument.text (.utf16 units)).fits
            let fits (units : Utf16.Units) := (Argument.text (.utf8 (Utf16.toUtf8 units))).fits
            let position := parameter.position backend.engine held.command.statement session.engine
            let count := backend.engine.parameterCount held.command.statement session.engine
            (fitsWide = true → fits units = true → native.1 = (transcoded units).1 ∧
              (Utf16.isMarked units = false →
                AnswersAs (transcoded units) native ∧
                  ExecutesAlike backend name (transcoded units).2 native.2)) ∧
            (∀ {rest}, units = 0xFEFF :: rest → fitsWide = true → fits rest = true →
              AnswersAs (transcoded rest) native ∧
                ExecutesAlike backend name (transcoded rest).2 native.2) ∧
            (1 ≤ position ∧ position ≤ count →
              (fitsWide = false → native.1 = bindingAnswer Status.tooBig) ∧
                (fits units = false → (transcoded units).1 = bindingAnswer Status.tooBig)) := by
  intro session name held database isFree isOpened keepsUtf8 parameter units isWellFormed native
    transcoded fitsWide fits position count
  obtain ⟨sound, rested⟩ : Sound laws.toLedger session ∧ Rested laws.toRewinding session :=
    sound_and_rested valid isFresh requests
  obtain ⟨link, isLink, rests⟩ := rests_of_free sound isFree ⟨database, isOpened⟩ rested
  have sameEngine : link.engine = session.engine := engine_of_link isLink
  have isLinkOpened : link.connection.lifecycle = .opened database := by
    rw [lifecycle?_of_link _ _ isLink] at isOpened
    exact Option.some.inj isOpened
  obtain ⟨owner, ownerIsOpened, isOwner⟩ := rests.isUsed
  cases isLinkOpened.symm.trans ownerIsOpened
  have responds (value : Argument ⊕ Text) :
      (perform backend session (.command name (.binding parameter value))).1 =
        bindingAnswer (backend.engine.give held.command.statement position (given value)
          link.engine).1 := by
    obtain ⟨pool, binds⟩ := perform_binding backend isFree isLink rests.isLive parameter value
    rw [sameEngine] at binds
    rw [sameEngine]
    exact congrArg Prod.fst binds
  have codes (value : Argument ⊕ Text) := give_code rests position (given value)
  have sameCount : backend.engine.parameterCount held.command.statement link.engine = count := by
    rw [sameEngine]
  have alike {plain : Utf16.Units} (isPlain : Lenient.dropByteOrderMark units = plain)
      (isWellFormed : Utf16.IsWellFormed plain) (isWide : fitsWide = true)
      (isNarrow : fits plain = true) :
      AnswersAs (transcoded plain) native ∧
        ExecutesAlike backend name (transcoded plain).2 native.2 := by
    have answers : AnswersAs (transcoded plain) native := by
      refine binding_answersAs backend isFree isLink rests.isLive parameter parameter
        (.inr (.utf16 plain)) (.inl (.text (.utf16 units))) ?_
      have sameText : Lenient.toUtf8 (Lenient.dropByteOrderMark units) = Utf16.toUtf8 plain := by
        rw [isPlain, Lenient.toUtf8_of_wellFormed isWellFormed]
      have isPlainNarrow : (Argument.text
          (.utf8 (Lenient.toUtf8 (Lenient.dropByteOrderMark units)))).fits = true :=
        sameText ▸ isNarrow
      rw [given, given, Engine.give_of_fits _ isWide]
      rw [laws.bound_wide isWide isPlainNarrow rests.valid isOwner (sameEngine ▸ keepsUtf8), sameText]
      exact (congrFun (Engine.give_of_fits _ isNarrow _ _) _).symm
    exact ⟨answers, executesAlike_of_answersAs isFree isLink isLinkOpened parameter
      (.inr (.utf16 plain)) answers⟩
  refine ⟨fun isWide isNarrow => ⟨?_, fun isUnmarked => ?_⟩, ?_, fun inRange => ⟨?_, ?_⟩⟩
  · refine (responds (.inl (.text (.utf16 units)))).trans
      (Eq.trans ?_ (responds (.inr (.utf16 units))).symm)
    rw [(codes (.inl (.text (.utf16 units)))).1 isWide, (codes (.inr (.utf16 units))).1 isNarrow]
  · exact alike (Lenient.dropByteOrderMark_of_unmarked isUnmarked) isWellFormed isWide isNarrow
  · rintro rest rfl isWide isNarrow
    exact alike rfl (isWellFormed.tail rfl) isWide isNarrow
  · intro isLong
    refine (responds (.inl (.text (.utf16 units)))).trans ?_
    rw [(codes (.inl (.text (.utf16 units)))).2 isLong (sameCount ▸ inRange)]
  · intro isLong
    refine (responds (.inr (.utf16 units))).trans ?_
    rw [(codes (.inr (.utf16 units))).2 isLong (sameCount ▸ inRange)]

def echoing : List Request :=
  [.connection "c" (.connect none none none),
    .connection "c" (.createCommand "k" echoSql)]

theorem wide_text_bound_alike_echoing :
    let session := (run Storage.backend { engine := {} } echoing).2
    let bound (asked : CommandRequest) :=
      (perform Storage.backend session (.command "k" asked)).2
    let native (units : Utf16.Units) := bound (.bind (.index 1) (.text (.utf16 units)))
    let transcoded (units : Utf16.Units) := bound (.bindText (.index 1) (.utf16 units))
    ExecutesAlike Storage.backend "k" (transcoded [0xD83D, 0xDE00, 0])
        (native [0xD83D, 0xDE00, 0]) ∧
      ExecutesAlike Storage.backend "k" (transcoded [0x41]) (native [0xFEFF, 0x41]) := by
  intro session bound native transcoded
  have isFresh : Storage.wideBinding.Shows {} .none := Storage.binding_empty
  have isFree : (session.freeCommand (ε := Error) "k").toOption.any (fun held =>
      session.lifecycle? held.connection = some (.opened ⟨0⟩)) = true := by
    decide +kernel
  have keepsUtf8 : session.engine.keepsUtf8 ⟨0⟩ = true := by decide +kernel
  cases found : session.freeCommand (ε := Error) "k" with
  | error refusal => simp [found, Except.toOption] at isFree
  | ok held =>
      rw [found, Except.toOption, Option.any_some, decide_eq_true_iff] at isFree
      have alike {units : Utf16.Units} (isWellFormed : Utf16.IsWellFormed units) :=
        wide_text_bound_alike Storage.wideBinding isFresh.1 isFresh.2 echoing found isFree
          (Storage.wideBinding_keepsUtf8.mpr keepsUtf8) (.index 1) isWellFormed
      dsimp only at alike
      have isPair : Utf16.IsWellFormed [0xD83D, 0xDE00, 0] := Utf16.repaired_eq_iff.mp rfl
      have isMarked : Utf16.IsWellFormed [0xFEFF, 0x41] := Utf16.repaired_eq_iff.mp rfl
      exact ⟨(((alike isPair).1 rfl (by decide)).2 rfl).2,
        ((alike isMarked).2.1 rfl rfl (by decide)).2⟩

def echoed (asked : CommandRequest) : Option (Option Answer) :=
  let session := (run Storage.backend { engine := {} } echoing).2
  let bound := (perform Storage.backend session (.command "k" asked)).2
  ((run Storage.backend bound
    [.command "k" (.executeReader "r"), .reader "r" .read, .reader "r" (.string 0)]).1.map
      Response.answer?)[2]?

/-- With a byte-order mark at its front, one and the same text comes to two. -/
theorem marked_text_bound_apart :
    Utf16.IsWellFormed [0xFEFF, 0x41] ∧
      echoed (.bindText (.index 1) (.utf16 [0xFEFF, 0x41])) =
        some (some (.string (some "\uFEFFA"))) ∧
      echoed (.bind (.index 1) (.text (.utf16 [0xFEFF, 0x41]))) =
        some (some (.string (some "A"))) :=
  ⟨Utf16.repaired_eq_iff.mp rfl, by decide +kernel, by decide +kernel⟩

end Session

end EmbeddedSql
