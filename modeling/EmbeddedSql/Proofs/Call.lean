import EmbeddedSql.Query.Transaction

/-! How calls run: what a call made of other calls does to the state it works on. -/

namespace EmbeddedSql

namespace Call

variable {σ ε α β : Type}

/-! ## The parts of a call -/

theorem pure_apply {state : Type} (answer : α) (link : state) :
    (pure answer : ExceptT ε (StateM state) α) link = (.ok answer, link) := rfl

theorem get_apply {state : Type} (link : state) :
    (get : ExceptT ε (StateM state) state) link = (.ok link, link) := rfl

theorem modify_apply {state : Type} (change : state → state) (link : state) :
    (modify change : ExceptT ε (StateM state) PUnit) link = (.ok ⟨⟩, change link) := rfl

theorem bind_apply {state : Type} (call : ExceptT ε (StateM state) α)
    (next : α → ExceptT ε (StateM state) β) (link : state) :
    (call >>= next) link =
      match call link with
      | (.ok answer, link) => next answer link
      | (.error error, link) => (.error error, link) := by
  change (match call link with | (result, link) => ExceptT.bindCont next result link) = _
  rcases call link with ⟨error | answer, link⟩ <;> rfl

theorem tryCatch_apply {state : Type} (call : ExceptT ε (StateM state) α)
    (handle : ε → ExceptT ε (StateM state) α) (link : state) :
    tryCatch call handle link =
      match call link with
      | (.ok answer, link) => (.ok answer, link)
      | (.error error, link) => handle error link := by
  change (match call link with
    | (result, link) =>
        (match result with
        | .ok answer => pure (.ok answer)
        | .error error => handle error : StateM state (Except ε α)) link) = _
  rcases call link with ⟨error | answer, link⟩ <;> rfl

theorem request_apply (action : StateM σ α) (link : Link σ) :
    request action link =
      (.ok (action link.engine).1, { link with engine := (action link.engine).2 }) := rfl

theorem observe_apply (view : σ → α) (link : Link σ) :
    observe view link = (.ok (view link.engine), link) := rfl

/-! ## Composition by outcome -/

theorem bind_of_ok {state : Type} {call : ExceptT ε (StateM state) α} {link after : state}
    {answer : α} (next : α → ExceptT ε (StateM state) β)
    (isOk : call link = (.ok answer, after)) : (call >>= next) link = next answer after := by
  rw [bind_apply, isOk]

theorem bind_of_error {state : Type} {call : ExceptT ε (StateM state) α} {link after : state}
    {error : ε} (next : α → ExceptT ε (StateM state) β)
    (failed : call link = (.error error, after)) :
    (call >>= next) link = (.error error, after) := by
  rw [bind_apply, failed]

/-! ## What a call comes to -/

/-- What is left of a call that fails, and of one that is answered. -/
def Ends {state : Type} (outcome : Except ε α × state) (failed : ε → state → Prop)
    (answered : α → state → Prop) : Prop :=
  match outcome with
  | (.ok answer, last) => answered answer last
  | (.error error, last) => failed error last

namespace Ends

variable {state : Type} {link : state} {failed left : ε → state → Prop}

theorem mono {outcome : Except ε α × state} {first second : α → state → Prop}
    (ends : Ends outcome failed first) (fails : ∀ error last, failed error last → left error last)
    (answers : ∀ answer last, first answer last → second answer last) :
    Ends outcome left second := by
  rcases outcome with ⟨error | answer, last⟩
  · exact fails error last ends
  · exact answers answer last ends

theorem bind {call : ExceptT ε (StateM state) α} {next : α → ExceptT ε (StateM state) β}
    {first : α → state → Prop} {second : β → state → Prop}
    (ends : Ends (call link) failed first)
    (rest : ∀ answer between, first answer between → Ends (next answer between) failed second) :
    Ends ((call >>= next) link) failed second := by
  rw [bind_apply]
  rcases outcome : call link with ⟨error | answer, last⟩ <;> rw [outcome] at ends
  · exact ends
  · exact rest answer last ends

theorem tryCatch {call : ExceptT ε (StateM state) α} {handle : ε → ExceptT ε (StateM state) α}
    {answered : α → state → Prop} (ends : Ends (call link) left answered)
    (rest : ∀ error between, left error between → Ends (handle error between) failed answered) :
    Ends (MonadExcept.tryCatch call handle link) failed answered := by
  rw [tryCatch_apply]
  rcases outcome : call link with ⟨error | answer, last⟩ <;> rw [outcome] at ends
  · exact rest error last ends
  · exact ends

theorem withScratch {encode : Scratch.Pool → Scratch.Encoded × Scratch.Pool}
    {use : Scratch.Encoded → Call σ α} {link : Link σ} {failed : Error → Link σ → Prop}
    {answered : α → Link σ → Prop}
    (ends : Ends (use (encode link.pool).1 { link with pool := (encode link.pool).2 }) failed
      answered)
    (fails : ∀ error last pool, failed error last → failed error { last with pool })
    (answers : ∀ answer last pool, answered answer last → answered answer { last with pool }) :
    Ends (Call.withScratch encode use link) failed answered := by
  unfold Call.withScratch
  dsimp only
  rcases outcome : use (encode link.pool).1 { link with pool := (encode link.pool).2 } with
    ⟨error | answer, last⟩ <;> rw [outcome] at ends
  · exact fails error last _ ends
  · exact answers answer last _ ends

theorem ofConnection {call : Call σ α} {link : Link σ} {failed : Query.Error → Link σ → Prop}
    {answered : α → Link σ → Prop}
    (ends : Ends (call link) (fun error => failed (.connection error)) answered) :
    Ends (Query.Call.ofConnection call link) failed answered := by
  unfold Query.Call.ofConnection
  rcases outcome : call link with ⟨error | answer, last⟩ <;> rw [outcome] at ends <;> exact ends

theorem dropOnError {backend : Backend σ} {command : Command}
    {use : ExceptT ε (StateM (Link σ)) α} {link : Link σ} {failed left : ε → Link σ → Prop}
    {answered : α → Link σ → Prop} (ends : Ends (use link) failed answered)
    (drops : ∀ error last, failed error last → left error (command.drop backend last)) :
    Ends (command.dropOnError backend use link) left answered := by
  unfold Command.dropOnError
  rcases outcome : use link with ⟨error | answer, last⟩ <;> rw [outcome] at ends
  · exact drops error last ends
  · exact ends

end Ends

end Call

end EmbeddedSql
