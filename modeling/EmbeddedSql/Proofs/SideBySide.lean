import EmbeddedSql.Proofs.Call

/-! Two calls that are made side by side, each on a link of its own, and what is common to
their ends. -/

namespace EmbeddedSql.Call

variable {σ τ ε α β α' β' : Type}

def EndAlike {state image : Type} (first : Except ε α × state) (second : Except ε β × image)
    (failed : state → image → Prop) (answered : α → β → state → image → Prop) : Prop :=
  match first, second with
  | (.ok answer, last), (.ok other, otherLast) => answered answer other last otherLast
  | (.error error, last), (.error other, otherLast) => other = error ∧ failed last otherLast
  | _, _ => False

namespace EndAlike

section
variable {state image : Type} {first : Except ε α × state} {second : Except ε β × image}
  {failed : state → image → Prop} {answered : α → β → state → image → Prop}

theorem cases (alike : EndAlike first second failed answered) :
    (∃ answer other, first.1 = .ok answer ∧ second.1 = .ok other ∧
        answered answer other first.2 second.2) ∨
      ∃ error, first.1 = .error error ∧ second.1 = .error error ∧ failed first.2 second.2 := by
  rcases first with ⟨error | answer, last⟩ <;> rcases second with ⟨other | other, otherLast⟩
  · obtain ⟨rfl, failed⟩ := alike
    exact .inr ⟨_, rfl, rfl, failed⟩
  · exact alike.elim
  · exact alike.elim
  · exact .inl ⟨answer, other, rfl, rfl, alike⟩

theorem ofSame {outcome : Except ε α} {last : state} {otherLast : image}
    {answered : α → α → state → image → Prop} (fails : failed last otherLast)
    (answers : ∀ answer, answered answer answer last otherLast) :
    EndAlike (outcome, last) (outcome, otherLast) failed answered := by
  cases outcome with
  | error error => exact ⟨rfl, fails⟩
  | ok answer => exact answers answer

theorem mono {left : state → image → Prop} {more : α → β → state → image → Prop}
    (alike : EndAlike first second failed answered)
    (fails : ∀ last otherLast, failed last otherLast → left last otherLast)
    (answers : ∀ answer other last otherLast, answered answer other last otherLast →
      more answer other last otherLast) : EndAlike first second left more := by
  rcases first with ⟨error | answer, last⟩ <;> rcases second with ⟨other | other, otherLast⟩
  · exact alike.imp_right (fails last otherLast)
  · exact alike
  · exact alike
  · exact answers answer other last otherLast alike

end

theorem bind {state image : Type} {call : ExceptT ε (StateM state) α}
    {other : ExceptT ε (StateM image) β} {next : α → ExceptT ε (StateM state) α'}
    {otherNext : β → ExceptT ε (StateM image) β'} {link : state} {otherLink : image}
    {failed : state → image → Prop} {between : α → β → state → image → Prop}
    {answered : α' → β' → state → image → Prop}
    (alike : EndAlike (call link) (other otherLink) failed between)
    (rest : ∀ answer otherAnswer last otherLast, between answer otherAnswer last otherLast →
      EndAlike (next answer last) (otherNext otherAnswer otherLast) failed answered) :
    EndAlike ((call >>= next) link) ((other >>= otherNext) otherLink) failed answered := by
  rw [bind_apply, bind_apply]
  rcases outcome : call link with ⟨error | answer, last⟩ <;>
    rcases otherOutcome : other otherLink with ⟨otherError | otherAnswer, otherLast⟩ <;>
    rw [outcome, otherOutcome] at alike
  · exact alike
  · exact alike.elim
  · exact alike.elim
  · exact rest answer otherAnswer last otherLast alike

theorem tryCatch {state image : Type} {call : ExceptT ε (StateM state) α}
    {other : ExceptT ε (StateM image) β} {handle : ε → ExceptT ε (StateM state) α}
    {otherHandle : ε → ExceptT ε (StateM image) β} {link : state} {otherLink : image}
    {failed left : state → image → Prop} {answered : α → β → state → image → Prop}
    (alike : EndAlike (call link) (other otherLink) left answered)
    (rest : ∀ error last otherLast, left last otherLast →
      EndAlike (handle error last) (otherHandle error otherLast) failed answered) :
    EndAlike (MonadExcept.tryCatch call handle link)
      (MonadExcept.tryCatch other otherHandle otherLink) failed answered := by
  rw [tryCatch_apply, tryCatch_apply]
  rcases outcome : call link with ⟨error | answer, last⟩ <;>
    rcases otherOutcome : other otherLink with ⟨otherError | otherAnswer, otherLast⟩ <;>
    rw [outcome, otherOutcome] at alike
  · obtain ⟨rfl, left⟩ := alike
    exact rest _ last otherLast left
  · exact alike.elim
  · exact alike.elim
  · exact alike

theorem withScratch {encode otherEncode : Scratch.Pool → Scratch.Encoded × Scratch.Pool}
    {use : Scratch.Encoded → Call σ α} {otherUse : Scratch.Encoded → Call τ β} {link : Link σ}
    {otherLink : Link τ} {failed : Link σ → Link τ → Prop}
    {answered : α → β → Link σ → Link τ → Prop}
    (alike : EndAlike (use (encode link.pool).1 { link with pool := (encode link.pool).2 })
      (otherUse (otherEncode otherLink.pool).1
        { otherLink with pool := (otherEncode otherLink.pool).2 }) failed answered)
    (fails : ∀ last otherLast pool otherPool, failed last otherLast →
      failed { last with pool } { otherLast with pool := otherPool })
    (answers : ∀ answer other last otherLast pool otherPool,
      answered answer other last otherLast →
        answered answer other { last with pool } { otherLast with pool := otherPool }) :
    EndAlike (Call.withScratch encode use link) (Call.withScratch otherEncode otherUse otherLink)
      failed answered := by
  unfold Call.withScratch
  dsimp only
  generalize use _ _ = outcome at alike ⊢
  generalize otherUse _ _ = otherOutcome at alike ⊢
  rcases outcome with ⟨error | answer, last⟩ <;> rcases otherOutcome with ⟨other | other, otherLast⟩
  · exact alike.imp_right (fails last otherLast _ _)
  · exact alike
  · exact alike
  · exact answers answer other last otherLast _ _ alike

theorem ofConnection {call : Call σ α} {other : Call τ β} {link : Link σ} {otherLink : Link τ}
    {failed : Link σ → Link τ → Prop} {answered : α → β → Link σ → Link τ → Prop}
    (alike : EndAlike (call link) (other otherLink) failed answered) :
    EndAlike (Query.Call.ofConnection call link) (Query.Call.ofConnection other otherLink) failed
      answered := by
  unfold Query.Call.ofConnection
  rcases outcome : call link with ⟨error | answer, last⟩ <;>
    rcases otherOutcome : other otherLink with ⟨otherError | otherAnswer, otherLast⟩ <;>
    rw [outcome, otherOutcome] at alike
  · exact alike.imp_left (congrArg Query.Error.connection)
  · exact alike.elim
  · exact alike.elim
  · exact alike

end EndAlike

end EmbeddedSql.Call

/-! ## Readers -/

namespace EmbeddedSql.Reader

variable {σ ε β : Type}

def withStatement (reader : Reader) (statement : StatementHandle) : Reader :=
  { reader with statement }

section
variable {engine : Engine σ} {reader : Reader} {statement : StatementHandle} {link other : Link σ}

theorem settle_withStatement {code : Int}
    (sameConfig : other.connection.config = link.connection.config)
    (sameRow : code = Status.row →
      engine.row statement other.engine = engine.row reader.statement link.engine)
    (sameMessage : code ≠ Status.row →
      Connection.errorMessage engine other = Connection.errorMessage engine link) :
    (reader.withStatement statement).settle engine code other =
      ((reader.settle engine code link).1,
        (reader.settle engine code link).2.withStatement statement) := by
  unfold settle
  dsimp only [withStatement]
  by_cases isRow : code = Status.row
  · rw [if_pos isRow, if_pos isRow, sameRow isRow]
  · rw [if_neg isRow, if_neg isRow, sameMessage isRow, sameConfig]
    repeat' split
    all_goals rfl

theorem read_withStatement (sameLife : other.connection.isDisposed = link.connection.isDisposed)
    (sameConfig : other.connection.config = link.connection.config)
    (sameCode : (engine.step statement other.engine).1 =
      (engine.step reader.statement link.engine).1)
    (sameRow : (engine.step reader.statement link.engine).1 = Status.row →
      engine.row statement (engine.step statement other.engine).2 =
        engine.row reader.statement (engine.step reader.statement link.engine).2)
    (sameMessage : (engine.step reader.statement link.engine).1 ≠ Status.row →
      Connection.errorMessage engine
          { other with engine := (engine.step statement other.engine).2 } =
        Connection.errorMessage engine
          { link with engine := (engine.step reader.statement link.engine).2 }) :
    ((reader.withStatement statement).read engine other).1 =
      ((reader.read engine link).1.1, (reader.read engine link).1.2.withStatement statement) := by
  unfold read
  rw [sameLife]
  by_cases isDisposed : link.connection.isDisposed = true
  · rw [if_pos isDisposed, if_pos isDisposed]
  rw [if_neg isDisposed, if_neg isDisposed]
  have sameCursor : (reader.withStatement statement).cursor = reader.cursor := rfl
  rw [sameCursor]
  by_cases isDone : reader.cursor = .done
  · rw [if_pos isDone, if_pos isDone]
  rw [if_neg isDone, if_neg isDone]
  change (reader.withStatement statement).settle engine (engine.step statement other.engine).1
    { other with engine := (engine.step statement other.engine).2 } = _
  rw [sameCode]
  exact @settle_withStatement σ engine reader statement
    { link with engine := (engine.step reader.statement link.engine).2 } _ _ sameConfig sameRow
    sameMessage

end

variable (backend : Backend σ) (statement image : StatementHandle)
  (Moving Ended : Link σ → Link σ → Prop)

def ReadAlike : Prop :=
  ∀ {reader : Reader} {link other : Link σ}, reader.statement = statement → Moving link other →
    let first := reader.read backend.engine link
    let second := (reader.withStatement image).read backend.engine other
    second.1 = (first.1.1, first.1.2.withStatement image) ∧
      (first.1.1 = .ok true → Moving first.2 second.2) ∧
        (first.1.1 ≠ .ok true → Ended first.2 second.2)

variable {backend statement image Moving Ended}

theorem ReadAlike.gather (reads : ReadAlike backend statement image Moving Ended)
    {wanted : β → Bool} {take : Reader → Link σ → β → Except ε β} {lift : Error → ε}
    (takes : ∀ {reader : Reader} {link other : Link σ} (gathered : β),
      reader.statement = statement → Moving link other →
        take (reader.withStatement image) other gathered = take reader link gathered)
    {reader : Reader} {link other : Link σ} {gathered : β} (isStatement : reader.statement = statement)
    (moving : Moving link other) :
    let first := reader.gather backend wanted take lift gathered link
    let second := (reader.withStatement image).gather backend wanted take lift gathered other
    second.1 = (first.1.1, first.1.2.withStatement image) ∧
      (Moving first.2 second.2 ∨ Ended first.2 second.2) := by
  fun_induction Reader.gather backend wanted take lift reader gathered link generalizing other with
  | case1 reader gathered link isWanted error next after outcome =>
      obtain ⟨same, -, ended⟩ := reads isStatement moving
      rw [outcome] at same ended
      rw [gather_of_error isWanted (Prod.ext same rfl)]
      exact ⟨rfl, .inr (ended nofun)⟩
  | case2 reader gathered link isWanted next after outcome =>
      obtain ⟨same, -, ended⟩ := reads isStatement moving
      rw [outcome] at same ended
      rw [gather_of_end isWanted (Prod.ext same rfl)]
      exact ⟨rfl, .inr (ended nofun)⟩
  | case3 reader gathered link isWanted next after outcome error refused =>
      obtain ⟨same, moves, -⟩ := reads isStatement moving
      have isNext := reader.read_statement backend.engine link
      rw [outcome] at same moves isNext
      rw [gather_of_row isWanted (Prod.ext same rfl),
        takes gathered (isNext.trans isStatement) (moves rfl), refused]
      exact ⟨rfl, .inl (moves rfl)⟩
  | case4 reader gathered link isWanted next after outcome more taken induction =>
      obtain ⟨same, moves, -⟩ := reads isStatement moving
      have isNext := reader.read_statement backend.engine link
      rw [outcome] at same moves isNext
      rw [gather_of_row isWanted (Prod.ext same rfl),
        takes gathered (isNext.trans isStatement) (moves rfl), taken]
      exact induction (isNext.trans isStatement) (moves rfl)
  | case5 reader gathered link isWanted =>
      rw [Reader.gather, if_neg isWanted]
      exact ⟨rfl, .inl moving⟩

end EmbeddedSql.Reader
