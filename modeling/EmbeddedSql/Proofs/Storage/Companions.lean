import EmbeddedSql.Proofs.Storage.Alongside

/-! Statements that are compiled for two databases that cannot be told apart, and finalized
again. -/

namespace EmbeddedSql.Storage

namespace Store

variable {store : Store} {name : StatementHandle} {statement : Statement}

theorem ne_of_found (valid : custody.Valid store) (isFound : store.statement? name = some statement) :
    name ≠ ⟨store.nextStatement⟩ := by
  rintro rfl
  have hasNoOwner := Outline.isFree_nextStatement valid
  have isOwner : (custody.handles store).owner? ⟨store.nextStatement⟩ = some statement.client := by
    rw [owner?_eq, isFound, Option.map_some]
  exact nomatch hasNoOwner.symm.trans isOwner

end Store

namespace Likeness

variable {precision : Precision} {base store image : Store} {parts : Counterparts}
  (likeness : Likeness precision base parts store image)
include likeness

/-! ## New statements -/

theorem addStatement (valid : custody.Valid store) (validImage : custody.Valid image)
    (parsed : Sql.Parsed) (body : Sql.Statement) (program : Plan.Program) :
    Likeness precision base (parts.adding ⟨store.nextStatement⟩ ⟨image.nextStatement⟩)
      (store.addStatement parts.database parsed body program).1
      (image.addStatement parts.image parsed body program).1 where
  client := by
    obtain ⟨client, file, schema, isClient, isImage, same, seen⟩ := likeness.client
    exact ⟨client, file, schema, isClient, isImage, same, seen.committed, seen.isMemory, seen.locks⟩
  statement isPaired := by
    rcases List.mem_cons.mp isPaired with isNew | wasPaired
    · cases isNew
      exact ⟨_, program, Store.addStatement_new valid .., Store.addStatement_new validImage .., rfl,
        rfl, rfl, fun _ => rfl⟩
    · obtain ⟨statement, found, isStatement, isImage, isOwned, standsIn⟩ :=
        likeness.statement wasPaired
      exact ⟨statement, found, Store.addStatement_found isStatement ..,
        Store.addStatement_found isImage .., isOwned, standsIn⟩
  distinct isPaired isOther := by
    have areOld {name other : StatementHandle} (isPaired : (name, other) ∈ parts.statements) :
        name ≠ ⟨store.nextStatement⟩ ∧ other ≠ ⟨image.nextStatement⟩ := by
      obtain ⟨_, _, isStatement, isImage, -⟩ := likeness.statement isPaired
      exact ⟨Store.ne_of_found valid isStatement, Store.ne_of_found validImage isImage⟩
    rcases List.mem_cons.mp isPaired with isNew | wasPaired <;>
      rcases List.mem_cons.mp isOther with isOtherNew | wasOther
    · cases isNew
      cases isOtherNew
      exact iff_of_true rfl rfl
    · cases isNew
      exact iff_of_false (areOld wasOther).1.symm (areOld wasOther).2.symm
    · cases isOtherNew
      exact iff_of_false (areOld wasPaired).1 (areOld wasPaired).2
    · exact likeness.distinct wasPaired wasOther
  running isThere isOwned isRunning := by
    rcases List.mem_append.mp isThere with wasThere | isNew
    · obtain ⟨other, isPaired⟩ := likeness.running wasThere isOwned isRunning
      exact ⟨other, Counterparts.mem_adding isPaired⟩
    · cases List.mem_singleton.mp isNew
      cases isRunning
  runningImage isThere isOwned isRunning := by
    rcases List.mem_append.mp isThere with wasThere | isNew
    · obtain ⟨name, isPaired⟩ := likeness.runningImage wasThere isOwned isRunning
      exact ⟨name, Counterparts.mem_adding isPaired⟩
    · cases List.mem_singleton.mp isNew
      cases isRunning
  listsOnce := by
    rw [Store.addStatement_outline]
    exact likeness.listsOnce.preparing valid _
  listsOnceImage := by
    rw [Store.addStatement_outline]
    exact likeness.listsOnceImage.preparing validImage _
  beyond := {
    likeness.beyond with
    statements := by
      refine Eq.trans ?_ likeness.beyond.statements
      refine (List.filter_append ..).trans ?_
      rw [List.filter_cons_of_neg (by simp [Counterparts.adding]), List.filter_nil, List.append_nil]
      rfl }

theorem refuse (code : Int) (message : Bytes) :
    Agree (Likeness precision base parts) (store.refuse parts.database code message)
      (image.refuse parts.image code message) :=
  ⟨rfl, likeness.updateBoth ⟨fun _ => rfl, fun _ => rfl⟩ (fun _ _ _ _ => rfl) fun _ => rfl⟩

omit likeness in
theorem compileFor_eq {client : Client} {handle : DatabaseHandle} {file : Option Nat}
    (seen : SeenAlike store image client (client.under handle file client.schema))
    (parsed : Sql.Parsed) (body : Sql.Statement) :
    image.compileFor (client.under handle file client.schema) parsed body =
      store.compileFor client parsed body := by
  have schemas : image.schemaFor (client.under handle file client.schema) parsed =
      store.schemaFor client parsed := by
    rw [Store.schemaFor, Store.schemaFor, Store.loadSchema, Store.loadSchema, seen.canRead_eq,
      seen.content_eq]
  unfold Store.compileFor
  rw [schemas, seen.content_eq, seen.canRead_eq]
  simp only [seen.compile_eq]

theorem applySetting {client : Client} {file : Option Nat} 
    (isClient : store.client? parts.database = some client)
    (isImage : image.client? parts.image = some (client.under parts.image file client.schema))
    (seen : SeenAlike store image client (client.under parts.image file client.schema))
    (setting : Option Plan.Setting) :
    Likeness precision base parts (store.applySetting client setting)
      (image.applySetting (client.under parts.image file client.schema) setting) := by
  have isNamed : client.handle = parts.database := by simpa using List.find?_some isClient
  unfold Store.applySetting
  split
  · exact likeness
  · dsimp only
    rw [isNamed]
    exact likeness.updateBoth ⟨fun _ => rfl, fun _ => rfl⟩ (fun _ _ _ _ => rfl) fun _ => rfl
  · dsimp only
    rw [seen.committed_eq]
    split
    · exact likeness.setCommitted isClient isImage _
    · exact likeness

theorem prepare (isFull : precision.schema) (valid : custody.Valid store)
    (validImage : custody.Valid image) (sql : Text) :
    let first := store.prepare parts.database sql
    let second := image.prepare parts.image sql
    second.1.1 = first.1.1 ∧
      (first.1.2 = none ∧ second.1.2 = none ∧ Likeness precision base parts first.2 second.2 ∨
        first.1.1 = Status.ok ∧
          ∃ statement other, first.1.2 = some statement ∧ second.1.2 = some other ∧
            (statement, other) ∉ parts.statements ∧
              Likeness precision base (parts.adding statement other) first.2 second.2) := by
  obtain ⟨client, file, schema, isClient, isImage, same, seen⟩ := likeness.client
  obtain rfl := same isFull
  unfold Store.prepare
  rw [isClient, isImage]
  cases Store.parse sql with
  | error error =>
      rcases error with ⟨failure, leading⟩
      have leads : image.leadingSetting (client.under parts.image file client.schema) leading =
          store.leadingSetting client leading := by
        unfold Store.leadingSetting
        split
        · dsimp only
          rw [seen.compile_eq]
        · rfl
      have sets := likeness.applySetting isClient isImage seen (store.leadingSetting client leading)
      obtain ⟨sameAnswer, likeness⟩ := sets.refuse failure.code failure.message
      dsimp only
      rw [leads]
      exact ⟨congrArg Prod.fst sameAnswer, .inl ⟨rfl, rfl, likeness⟩⟩
  | ok parsed =>
      dsimp only
      cases parsed.statement with
      | none => exact ⟨rfl, .inl ⟨rfl, rfl, likeness⟩⟩
      | some body =>
          dsimp only
          rw [compileFor_eq seen]
          cases store.compileFor client parsed body with
          | error failure =>
              obtain ⟨sameAnswer, likeness⟩ := likeness.refuse failure.code failure.message
              exact ⟨congrArg Prod.fst sameAnswer, .inl ⟨rfl, rfl, likeness⟩⟩
          | ok outcome =>
              rcases outcome with ⟨loaded, program, setting⟩
              let load (client : Client) : Client := { client with schema := loaded }
              have keeps : KeepsSeat load := ⟨fun _ => rfl, fun _ => rfl⟩
              have sets := (likeness.applySetting isClient isImage seen setting).updateClient keeps
                keeps fun _ _ _ _ _ _ => ⟨loaded, rfl, fun _ => rfl⟩
              have validAfter {before : Store} (valid : custody.Valid before) (client : Client)
                  (handle : DatabaseHandle) :
                  custody.Valid ((before.applySetting client setting).updateClient handle load) := by
                refine (shows_of_outline ?_ valid).1
                rw [Store.updateClient_outline _ _ keeps.handle, Store.applySetting_outline]
              have validSet := validAfter valid client parts.database
              have validSetImage := validAfter validImage
                (client.under parts.image file client.schema) parts.image
              have adds := sets.addStatement validSet validSetImage parsed body program
              refine ⟨rfl, .inr ⟨rfl, _, _, rfl, rfl, fun isPaired => ?_, adds⟩⟩
              obtain ⟨_, _, isStatement, -⟩ := sets.statement isPaired
              exact Store.ne_of_found validSet isStatement rfl

/-! ## Statements that are let go of -/

theorem removing {name other : StatementHandle} (isPaired : (name, other) ∈ parts.statements) :
    Likeness precision base (parts.removing name other)
      { store with statements := store.statements.filter (·.handle ≠ name) }
      { image with statements := image.statements.filter (·.handle ≠ other) } where
  client := by
    obtain ⟨client, file, schema, isClient, isImage, same, seen⟩ := likeness.client
    exact ⟨client, file, schema, isClient, isImage, same, seen.committed, seen.isMemory, seen.locks⟩
  statement {third fourth} isThird := by
    obtain ⟨wasPaired, isOther⟩ := List.mem_filter.mp isThird
    obtain ⟨statement, program, isStatement, isImage, isOwned, standsIn⟩ :=
      likeness.statement wasPaired
    have isElsewhere : third ≠ name := by
      rintro rfl
      obtain rfl := likeness.other_unique wasPaired isPaired
      simp at isOther
    have isElsewhereImage : fourth ≠ other := fun isSame =>
      isElsewhere ((likeness.distinct wasPaired isPaired).mpr isSame)
    refine ⟨statement, program, Store.statement?_filter isStatement ?_,
      Store.statement?_filter isImage ?_, isOwned, standsIn⟩
    · simpa [Store.handle_of_statement? isStatement] using isElsewhere
    · simpa using isElsewhereImage
  distinct isThird isFifth :=
    likeness.distinct (List.mem_filter.mp isThird).1 (List.mem_filter.mp isFifth).1
  running isThere isOwned isRunning := by
    obtain ⟨wasThere, isElsewhere⟩ := List.mem_filter.mp isThere
    obtain ⟨fourth, isThird⟩ := likeness.running wasThere isOwned isRunning
    exact ⟨fourth, Counterparts.mem_removing isThird (of_decide_eq_true isElsewhere)⟩
  runningImage {statement} isThere isOwned isRunning := by
    obtain ⟨wasThere, isElsewhere⟩ := List.mem_filter.mp isThere
    obtain ⟨third, isThird⟩ := likeness.runningImage wasThere isOwned isRunning
    refine ⟨third, Counterparts.mem_removing isThird ?_⟩
    rintro rfl
    exact of_decide_eq_true isElsewhere ((likeness.distinct isThird isPaired).mp rfl)
  listsOnce := likeness.listsOnce.sublist ((List.filter_sublist.map _).map _)
  listsOnceImage := likeness.listsOnceImage.sublist ((List.filter_sublist.map _).map _)
  beyond := {
    likeness.beyond with
    statements := by
      refine Eq.trans ?_ likeness.beyond.statements
      rw [List.filter_filter]
      refine List.filter_congr fun statement isThere => ?_
      by_cases isNamed : statement.handle = name
      · obtain ⟨found, -, isFound, -, isOwned, -⟩ := likeness.statement isPaired
        cases isNamed
        cases (Store.statement?_of_mem likeness.listsOnce isThere).symm.trans isFound
        simp [Counterparts.removing, isOwned]
      · simp [Counterparts.removing, isNamed] }

theorem finalize {name other : StatementHandle} (isPaired : (name, other) ∈ parts.statements) :
    Agree (Likeness precision base (parts.removing name other)) (store.finalize name)
      (image.finalize other) := by
  obtain ⟨same, resets⟩ := likeness.reset isPaired
  exact ⟨same, resets.removing isPaired⟩

end Likeness

end EmbeddedSql.Storage
